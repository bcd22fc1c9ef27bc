/-
  The references that the library holds, over whole runs.

  `Counted` is the system with the references to futures, Files and Sockets that the library
  holds for its requests: each step adds the increments and drops the decrements that the
  methods, the reader and the shutdown note. In every run each decrement has its reference,
  and what is held is what the slots count and what was lost (`counted_accounts`). Nothing is
  held beyond the unfinished requests exactly when no step loses a reference or keeps the slot
  of a finished request (`references_balanced_iff`).
-/
import Uringio.Reader.References
import Uringio.System.Requests

namespace Uringio

open Lib RefEvent

/-! ## What the slots own -/

/-- Every reference that the library holds for a request with a slot. -/
def Submitted.owned (sub : Submitted) : Multiset PyObj :=
  (sub.registration.slot sub.index).owned

theorem Submitted.owned_ne_zero (sub : Submitted) : sub.owned ≠ 0 := by
  intro h
  have hmem : PyObj.future sub.registration.future ∈ sub.owned :=
    Multiset.mem_add.mpr (.inr (Multiset.mem_coe.mpr (List.mem_cons_self ..)))
  rw [h] at hmem
  exact Multiset.notMem_zero _ hmem

namespace System

/-- What the requests with a slot own. -/
def owned (s : System) : Multiset PyObj :=
  total Submitted.owned (s.subs.filter fun sub => s.Holds sub)

/-- What the unfinished ones of them own. -/
def outstanding (s : System) : Multiset PyObj :=
  total Submitted.owned (s.subs.filter fun sub => s.Holds sub ∧ s.Unfinished sub)

variable {s t : System} {a : Act}

/-- A request with a slot has it at its index. -/
theorem Base.slotAt_of_holds (h : s.Base) {sub : Submitted} (hh : s.Holds sub) :
    sub.index.toNat < s.loop.registry.slots.length ∧ (sub.index.toNat : Int) = sub.index ∧
      s.loop.registry.slotAt sub.index = sub.registration.slot sub.index := by
  have hv := h.registry.sound.valid_of_live hh
  obtain ⟨hin, hat⟩ := hv.slotAt_of_live hh
  have hr := hv.inRange_iff.mp hin
  refine ⟨?_, by omega, hat⟩
  rw [hv.slotsLength]
  omega

/-- Without slots no request has one. -/
theorem not_holds_of_empty {sub : Submitted} (h : s.loop.registry.slots = []) : ¬ s.Holds sub := by
  intro hh
  have hget := (RequestRegistry.liveSlot_eq_some.mp hh).1
  unfold registryGet at hget
  split at hget
  · cases hget
  · rw [h] at hget
    cases hget

theorem gracefulShutdown_slots {l l' : Loop} {drained : List Drained} {submit : Int}
    (h : gracefulShutdown l drained submit = .ok l') : l'.registry.slots = [] := by
  obtain ⟨m, -, rfl⟩ := except_map_ok h
  rfl

/-- The indices of the live slots are those of the requests with a slot. -/
theorem Base.live_perm (h : s.Base) :
    ((List.range s.loop.registry.slots.length).filter fun i : Nat =>
        (s.loop.registry.liveSlot i).isSome).Perm
      ((s.subs.filter fun sub => s.Holds sub).map fun sub => sub.index.toNat) := by
  have hsubs : (s.subs.filter fun sub => s.Holds sub).Nodup :=
    (List.Nodup.of_map _ h.ring.seqs).filter _
  have hmaps : ((s.subs.filter fun sub => s.Holds sub).map fun sub => sub.index.toNat).Nodup := by
    refine List.Nodup.map_on (fun x hx y hy hxy => ?_) hsubs
    obtain ⟨hxm, hxh⟩ := List.mem_filter.mp hx
    obtain ⟨hym, hyh⟩ := List.mem_filter.mp hy
    have hxh := of_decide_eq_true hxh
    have hyh := of_decide_eq_true hyh
    have hxi := (h.slotAt_of_holds hxh).2.1
    have hyi := (h.slotAt_of_holds hyh).2.1
    exact h.eq_of_holds hxm hym hxh hyh (by omega)
  refine (List.perm_ext_iff_of_nodup (List.nodup_range.filter _) hmaps).mpr fun i => ?_
  rw [List.mem_filter, List.mem_map]
  constructor
  · rintro ⟨-, hlive⟩
    obtain ⟨slot, hl⟩ := Option.isSome_iff_exists.mp hlive
    obtain ⟨sub, hsub, rfl⟩ := h.registry.holder _ _ hl
    obtain ⟨hm, hi⟩ := mem_of_holder hsub
    refine ⟨sub, List.mem_filter.mpr ⟨hm, decide_eq_true ?_⟩, by omega⟩
    unfold Holds
    rw [hi, hl]
  · rintro ⟨sub, hsub, rfl⟩
    obtain ⟨-, hh⟩ := List.mem_filter.mp hsub
    have hh := of_decide_eq_true hh
    obtain ⟨hlt, hi, -⟩ := h.slotAt_of_holds hh
    refine ⟨List.mem_range.mpr hlt, ?_⟩
    rw [hi]
    unfold Holds at hh
    rw [hh]
    rfl

/-- What the slots own, the requests with a slot do. -/
theorem Base.owned_eq (h : s.Base) (hb : s.loop.registry.Bare) :
    s.loop.registry.owned = s.owned := by
  have hdead : total s.loop.registry.ownedAt ((List.range s.loop.registry.slots.length).filter
      fun i : Nat => !(s.loop.registry.liveSlot i).isSome) = 0 := by
    refine total_eq_zero_iff.mpr fun i hi => ?_
    obtain ⟨hi, hlive⟩ := List.mem_filter.mp hi
    exact hb.ownedAt (List.mem_range.mp hi) (by simpa using hlive)
  have hlive : total s.loop.registry.ownedAt _ + _ =
      total s.loop.registry.ownedAt (List.range s.loop.registry.slots.length) :=
    total_filter_add fun i : Nat => (s.loop.registry.liveSlot i).isSome
  rw [hdead, add_zero] at hlive
  rw [RequestRegistry.owned_eq_range, ← hlive, total_perm h.live_perm]
  unfold owned total
  rw [List.map_map]
  refine congrArg List.sum (List.map_congr_left fun sub hsub => ?_)
  obtain ⟨-, hh⟩ := List.mem_filter.mp hsub
  obtain ⟨-, hi, hat⟩ := h.slotAt_of_holds (of_decide_eq_true hh)
  show (s.loop.registry.slotAt (sub.index.toNat : Int)).owned = sub.owned
  rw [hi, hat]
  rfl

/-- What finished requests own that have kept their slot. -/
def overdue (s : System) : Multiset PyObj :=
  total Submitted.owned ((s.subs.filter fun sub => s.Holds sub).filter fun sub => !s.Unfinished sub)

theorem outstanding_add_overdue : s.outstanding + s.overdue = s.owned := by
  have hsplit : total Submitted.owned ((s.subs.filter fun sub => s.Holds sub).filter fun sub =>
      s.Unfinished sub) + _ = total Submitted.owned (s.subs.filter fun sub => s.Holds sub) :=
    total_filter_add fun sub => s.Unfinished sub
  have hparts : s.subs.filter (fun sub => s.Holds sub ∧ s.Unfinished sub) =
      (s.subs.filter fun sub => s.Holds sub).filter fun sub => s.Unfinished sub := by
    rw [List.filter_filter]
    refine List.filter_congr fun sub _ => ?_
    rw [Bool.decide_and, Bool.and_comm]
  unfold outstanding overdue owned
  rw [hparts, hsplit]

/-- A request with a slot is unfinished. -/
def Vacated (s : System) : Prop := ∀ sub ∈ s.subs, s.Holds sub → s.Unfinished sub

theorem overdue_eq_zero_iff : s.overdue = 0 ↔ s.Vacated := by
  unfold overdue Vacated
  rw [total_eq_zero_iff]
  constructor
  · intro h sub hm hh
    by_contra hu
    refine sub.owned_ne_zero (h sub (List.mem_filter.mpr ⟨List.mem_filter.mpr ⟨hm, ?_⟩, ?_⟩))
    · exact decide_eq_true hh
    · simpa using hu
  · intro h sub hm
    obtain ⟨hm, hu⟩ := List.mem_filter.mp hm
    obtain ⟨hm, hh⟩ := List.mem_filter.mp hm
    exact absurd (h sub hm (of_decide_eq_true hh)) (by simpa using hu)

end System

/-! ## Runs -/

/-- The system with the references that the library holds and those that it has lost: nobody
    will drop those any more. -/
structure Counted where
  system : System
  held : Option (Multiset PyObj)
  lost : Multiset PyObj
deriving DecidableEq

namespace Counted

def init (l : Loop) : Counted := ⟨.init l, some 0, 0⟩

def notesOf : Except Stop NotedLoop → List (RefEvent PyObj)
  | .ok t => t.notes
  | .error _ => []

/-- The increments and decrements of an action. -/
def events (s : System) (a : Act) : List (RefEvent PyObj) :=
  match a with
  | .call call env => notesOf ((References.run call env ⟨s.loop, []⟩).map Prod.snd)
  | .read env =>
    match s.loop.ring.cq with
    | [] => []
    | c :: _ => notesOf (References.readCqe env ⟨s.loop, []⟩ c)
  | .shutdown drained submit => notesOf (References.gracefulShutdown ⟨s.loop, []⟩ drained submit)
  | _ => []

/-- The references that an action loses. -/
def loss (s : System) (a : Act) : Multiset PyObj :=
  match a with
  | .call call env => References.lostByCall call env s.loop
  | .read _ =>
    match s.loop.ring.cq with
    | [] => 0
    | c :: _ => References.lostByRead s.loop c
  | .shutdown _ _ => s.loop.registry.created
  | _ => 0

/-- A step; a decrement without a reference leaves nothing to count. -/
def step (s : Counted) (a : Act) : Except Stop Counted :=
  (s.system.step a).map fun t =>
    ⟨t, s.held.bind fun held => replay held (events s.system a), s.lost + loss s.system a⟩

abbrev run (s : Counted) (acts : List Act) : Except Stop Counted := Lib.run step s acts

/-! ### One step -/

theorem eq_notesOf {x : Except Stop NotedLoop} {l : Loop} (h : x.map Noted.state = .ok l) :
    x = .ok ⟨l, notesOf x⟩ := by
  obtain ⟨t, ht, rfl⟩ := except_map_ok h
  rw [ht]
  rfl

/-- A step that touches neither the registry nor a reference. -/
theorem moves_of_registry {s t : System} {a : Act} (hb : s.loop.registry.Bare)
    (hreg : t.loop.registry = s.loop.registry) (he : events s a = []) (hl : loss s a = 0) :
    t.loop.registry.Bare ∧
      Moves s.loop.registry.owned (events s a) (t.loop.registry.owned + loss s a) := by
  rw [hreg, he, hl, Multiset.add_zero]
  exact ⟨hb, .nil⟩

/-- A read that goes on consumes the next CQE. -/
theorem consumed_of_read {s t : System} {env : ReadEnv} (hs : s.step (.read env) = .ok t) :
    ∃ c cs l, s.loop.ring.cq = c :: cs ∧ readCqe env s.loop c = .ok l ∧ t = s.consume c l := by
  have hd := System.down_of_step hs
  unfold System.step System.stepRead at hs
  rw [hd] at hs
  simp only [Bool.false_eq_true, if_false] at hs
  split at hs
  · cases hs
  · rename_i c cs hcq
    split at hs
    · cases hs
    · rename_i l hr
      cases hs
      exact ⟨c, cs, l, hcq, hr, rfl⟩

theorem read_moves {s t : System} {env : ReadEnv} (h : s.Base) (hb : s.loop.registry.Bare)
    (hs : s.step (.read env) = .ok t) :
    t.loop.registry.Bare ∧ Moves s.loop.registry.owned (events s (.read env))
      (t.loop.registry.owned + loss s (.read env)) := by
  obtain ⟨c, cs, l, hcq, hr, rfl⟩ := consumed_of_read hs
  unfold events loss
  simp only [hcq]
  have hnoted : References.readCqe env ⟨s.loop, []⟩ c = .ok ⟨l, _⟩ :=
    eq_notesOf (References.readCqe_erases.trans hr)
  exact References.readCqe_moves h.registry.sound hb hnoted

theorem call_moves {s : System} {call : OpCall} {env : CallEnv}
    {r : Except (Option PyErr) Submitted × Loop} (h : s.Base) (hb : s.loop.registry.Bare)
    (hr : call.run env s.loop = .ok r) :
    (s.answer r).loop.registry.Bare ∧ Moves s.loop.registry.owned (events s (.call call env))
      ((s.answer r).loop.registry.owned + loss s (.call call env)) := by
  have hloop : (s.answer r).loop = r.2 := by
    unfold System.answer
    split
    · rfl
    · rfl
  obtain ⟨ws, hws⟩ := Noted.Erases.exists_run (References.run_erases call) (s := ⟨s.loop, []⟩) hr
  have hevents : events s (.call call env) = ws := by
    show notesOf ((References.run call env ⟨s.loop, []⟩).map Prod.snd) = ws
    rw [hws]
    rfl
  rw [hevents, hloop]
  exact References.run_moves h.heap.contextOk h.registry.sound hb hws

theorem shutdown_moves {s : System} {drained : List Drained} {submit : Int} {l : Loop} (h : s.Base)
    (hb : s.loop.registry.Bare) (hg : gracefulShutdown s.loop drained submit = .ok l) :
    Moves s.loop.registry.owned (events s (.shutdown drained submit))
      (l.registry.owned + loss s (.shutdown drained submit)) := by
  have hnoted : References.gracefulShutdown ⟨s.loop, []⟩ drained submit = .ok ⟨l, _⟩ :=
    eq_notesOf ((References.gracefulShutdown_erases drained submit).trans hg)
  have hmoves := References.gracefulShutdown_moves hb h.registry.sound.covered hnoted
  have hzero : l.registry.owned = 0 := by
    unfold RequestRegistry.owned total
    rw [System.gracefulShutdown_slots hg]
    rfl
  rw [hzero]
  exact hmoves.of_eq rfl (Multiset.zero_add _)

/-- What the library held, it holds, drops, gives or loses. -/
theorem step_moves {s t : System} {a : Act} (h : s.Base) (hb : s.loop.registry.Bare)
    (hs : s.step a = .ok t) :
    t.loop.registry.Bare ∧
      Moves s.loop.registry.owned (events s a) (t.loop.registry.owned + loss s a) := by
  obtain ⟨-, hstep⟩ := System.step_cases h hs
  cases hstep with
  | called hr _ => exact call_moves h hb hr
  | posted _ => exact moves_of_registry hb rfl rfl rfl
  | dropped _ _ | skipped _ _ _ | handled _ _ _ _ _ => exact read_moves h hb hs
  | quiet ha hq =>
    cases a with
    | call | post | read | shutdown => cases ha
    | _ => exact moves_of_registry hb hq.registry rfl rfl
  | shutdown _ hg =>
    refine ⟨fun i slot hi => ?_, shutdown_moves h hb hg⟩
    rw [show (s.withLoop _).loop.registry.slots = [] from System.gracefulShutdown_slots hg] at hi
    cases hi

/-! ### All runs -/

/-- What holds in every state: nothing is dropped that is not held, and what is held is owned by
    a request with a slot or lost. -/
structure Accounted (s : Counted) : Prop where
  base : s.system.down = false → s.system.Base ∧ s.system.loop.registry.Bare
  slots : s.system.down = true → s.system.loop.registry.slots = []
  held : s.held = some (s.system.loop.registry.owned + s.lost)

theorem accounted_step {s t : Counted} {a : Act} (h : s.Accounted) (hs : step s a = .ok t) :
    t.Accounted := by
  unfold step at hs
  obtain ⟨u, hu, rfl⟩ := except_map_ok hs
  have hd := System.down_of_step hu
  obtain ⟨hbase, hbare⟩ := h.base hd
  obtain ⟨hbare', hmoves⟩ := step_moves hbase hbare hu
  refine ⟨fun hdu => ⟨hbase.step hu hdu, hbare'⟩, fun hdu => ?_, ?_⟩
  · obtain ⟨-, hstep⟩ := System.step_cases hbase hu
    cases hstep with
    | shutdown _ hg => exact System.gracefulShutdown_slots hg
    | called _ _ => exact absurd ((System.answer_down _ _).symm.trans hdu) (by simp [hd])
    | posted _ | dropped _ _ | skipped _ _ _ | handled _ _ _ _ _ =>
      exact absurd (hd.symm.trans hdu) (by simp)
    | quiet _ hq => exact absurd (hq.down.symm.trans hdu) (by simp [hd])
  · show s.held.bind _ = some (u.loop.registry.owned + (s.lost + loss s.system a))
    rw [h.held]
    refine (hmoves s.lost).trans (congrArg some ?_)
    ac_rfl

variable {registrySize : Nat} {setup : SignalSetup} {wakeupFd submit : Int}

theorem newLoop_accounted (h : registrySize < 2 ^ 32) :
    (init (uringioLoopInit registrySize setup wakeupFd submit)).Accounted := by
  refine ⟨fun _ => ⟨System.newLoop_base h, RequestRegistry.registryNew_bare _⟩, fun hd => ?_, ?_⟩
  · cases hd
  · show some 0 = some ((registryNew registrySize).owned + 0)
    rw [RequestRegistry.owned_registryNew, Multiset.add_zero]

/-- What the slots own, before and after the shutdown. -/
theorem Accounted.owned_eq {s : Counted} (h : s.Accounted) :
    s.system.loop.registry.owned = s.system.owned := by
  cases hd : s.system.down with
  | false => exact (h.base hd).1.owned_eq (h.base hd).2
  | true =>
    have hslots := h.slots hd
    unfold RequestRegistry.owned System.owned
    rw [hslots, List.filter_eq_nil_iff.mpr fun sub _ => by
      simpa using System.not_holds_of_empty hslots]
    rfl

/-- In every run of a new loop no reference is dropped that is not held, and those held are the
    ones of the requests with a slot and the lost ones. -/
theorem counted_accounts {acts : List Act} {s : Counted} (h : registrySize < 2 ^ 32)
    (hr : (init (uringioLoopInit registrySize setup wakeupFd submit)).run acts = .ok s) :
    s.held = some (s.system.owned + s.lost) := by
  have hinv : s.Accounted := Lib.meets_true.invariant Accounted
    (fun _ _ _ hi _ hs => accounted_step hi hs) (newLoop_accounted h) hr
  rw [hinv.held, hinv.owned_eq]

/-- An open of a file that is not there, and one in flight. -/
def failedAndPending : List Act :=
  [.call (.open 0 (.ok "f") 0 0 0 none) .ok, .post 1 (-2) 0, .read .ok,
    .call (.open 0 (.ok "g") 0 0 0 none) .ok]

theorem counted_accounts_failedAndPending :
    ∃ s, (init (uringioLoopInit 4 .failed 3 1)).run failedAndPending = .ok s ∧
      s.lost ≠ 0 ∧ s.system.owned ≠ 0 ∧ s.held = some (s.system.owned + s.lost) := by
  have hrun : ∃ s, (init (uringioLoopInit 4 .failed 3 1)).run failedAndPending = .ok s ∧
      s.lost ≠ 0 ∧ s.system.owned ≠ 0 := by
    decide +kernel
  obtain ⟨s, hs, hlost, howned⟩ := hrun
  exact ⟨s, hs, hlost, howned, counted_accounts (by decide) hs⟩

/-! ### Finished requests -/

/-- The library holds what the unfinished requests own, and nothing else. -/
def Settled (s : Counted) : Prop := s.held = some s.system.outstanding

/-- The CQE is an error of a request that has created its object. -/
def LosesObject (slot : RequestSlot) (c : Cqe) : Prop :=
  References.Failed slot c ∧ slot.created ≠ []

/-- The last CQE of an accept is skipped, so that the request keeps its slot. -/
def KeepsSlot (s : System) (env : ReadEnv) (slot : RequestSlot) (c : Cqe) : Prop :=
  ¬ References.Failed slot c ∧ slot.skipped env = true ∧ c.hasMore = false ∧
    ∃ sub ∈ s.subs, s.Holds sub ∧ sub.seq = c.seq

/-- The action is none of those that leave a reference: an accept without memory for the length
    of its address, an error of an open or a `prep_socket`, an accept without memory for its new
    Socket, and a shutdown with an open or a `prep_socket` in flight. -/
def Clean (s : System) (a : Act) : Prop :=
  match a with
  | .call call env => ¬ References.LosesFuture call env s.loop
  | .read env => ∀ x, s.nextSlot = some x → ¬ LosesObject x.2 x.1 ∧ ¬ KeepsSlot s env x.2 x.1
  | .shutdown _ _ => ∀ slot ∈ s.loop.registry.slots, slot.created = []
  | _ => True

instance (s : Counted) : Decidable s.Settled := inferInstanceAs (Decidable (_ = _))

instance (slot : RequestSlot) (c : Cqe) : Decidable (LosesObject slot c) :=
  inferInstanceAs (Decidable (_ ∧ _))

instance (s : System) (env : ReadEnv) (slot : RequestSlot) (c : Cqe) :
    Decidable (KeepsSlot s env slot c) :=
  inferInstanceAs (Decidable (_ ∧ _ ∧ _ ∧ ∃ sub ∈ s.subs, _))

theorem Accounted.settled_iff {s : Counted} (h : s.Accounted) :
    s.Settled ↔ s.lost = 0 ∧ s.system.Vacated := by
  unfold Settled
  rw [h.held, h.owned_eq, Option.some_inj, ← System.outstanding_add_overdue, Multiset.add_assoc,
    add_eq_left, ← Multiset.card_eq_zero, Multiset.card_add, Nat.add_eq_zero_iff,
    Multiset.card_eq_zero, Multiset.card_eq_zero, System.overdue_eq_zero_iff, and_comm]

/-- Requests with a slot stay unfinished in a step that consumes no CQE. -/
theorem vacated_of_seen {s t : System} (hv : s.Vacated) (hseen : t.seen = s.seen)
    (hsubs : t.subs = s.subs)
    (hlive : ∀ j, t.loop.registry.liveSlot j = s.loop.registry.liveSlot j) : t.Vacated := by
  intro sub hm hh c hc
  exact hv sub (hsubs ▸ hm) (System.Holds.congr (hlive _).symm hh) c (hseen ▸ hc)

/-- A CQE is consumed: the requests with a slot are unfinished after it when they were before,
    unless the CQE was the last one of such a request. -/
theorem vacated_consume_iff {s t : System} {c : Cqe} (hv : s.Vacated) (hsubs : t.subs = s.subs)
    (hseen : t.seen = c :: s.seen)
    (hlive : ∀ sub, t.Holds sub → s.Holds sub) :
    t.Vacated ↔ ∀ sub ∈ s.subs, t.Holds sub → sub.seq = c.seq → c.hasMore = true := by
  unfold System.Vacated System.Unfinished
  rw [hsubs, hseen]
  constructor
  · exact fun h sub hm hh he => h sub hm hh c (List.mem_cons_self ..) he.symm
  · intro h sub hm hh d hd he
    rcases List.mem_cons.mp hd with rfl | hd
    · exact h sub hm hh he.symm
    · exact hv sub hm (hlive sub hh) d hd he

/-- A read takes slots away only; the slot of its CQE stays when it is skipped. -/
theorem live_of_read {s : System} {env : ReadEnv} {c : Cqe} {cs : List Cqe} {l : Loop} (h : s.Base)
    (hcq : s.loop.ring.cq = c :: cs) (hs : s.step (.read env) = .ok (s.consume c l)) :
    (∀ j, l.registry.liveSlot j = s.loop.registry.liveSlot j) ∨
      l.registry.liveSlot (toInt c.userData) = none ∧
      ∀ j slot, l.registry.liveSlot j = some slot → s.loop.registry.liveSlot j = some slot := by
  have hd : s.down = false := System.down_of_step hs
  have heffect := (System.step_cases h hs).2.effect h hd
  cases heffect with
  | same _ hseen _ =>
    exact absurd (congrArg List.length hseen) (by simp [System.consume])
  | accepted ha => cases ha
  | ignored _ _ _ _ _ hlive => exact .inl hlive
  | handled _ hcq' _ _ _ hlive =>
    obtain ⟨rfl, -⟩ := List.cons.inj (hcq.symm.trans hcq')
    refine .inr ⟨(hlive _).trans (if_pos rfl), fun j slot hj => ?_⟩
    have hj := (hlive j).symm.trans hj
    split at hj
    · cases hj
    · exact hj

/-- A read keeps the requests with a slot unfinished exactly when it skips no last CQE. -/
theorem vacated_read_iff {s t : System} {env : ReadEnv} (h : s.Base) (hv : s.Vacated)
    (hs : s.step (.read env) = .ok t) :
    t.Vacated ↔ ∀ x, s.nextSlot = some x → ¬ KeepsSlot s env x.2 x.1 := by
  obtain ⟨c, cs, l, hcq, hr, rfl⟩ := consumed_of_read hs
  have hlive := live_of_read h hcq hs
  have hiff := vacated_consume_iff (t := s.consume c l) hv rfl rfl fun sub hh => by
    rcases hlive with hlive | ⟨-, hlive⟩
    · exact (hlive _).symm.trans hh
    · exact hlive _ _ hh
  rw [hiff]
  -- A request of the CQE has the index of the CQE.
  have hgone : l.registry.liveSlot (toInt c.userData) = none →
      ∀ sub ∈ s.subs, (s.consume c l).Holds sub → sub.seq = c.seq → c.hasMore = true := by
    intro hnone sub hm hh he
    have hi := h.decode (System.Base.mem_posted_of_cq (hcq ▸ List.mem_cons_self ..)) hm he
    rw [hi] at hnone
    exact absurd (hnone.symm.trans hh) (by simp)
  cases hl : s.loop.registry.liveSlot (toInt c.userData) with
  | none =>
    refine iff_of_true (hgone ?_) fun x hx => ?_
    · rcases hlive with hlive | ⟨hnone, -⟩
      · rw [hlive, hl]
      · exact hnone
    · obtain ⟨cs', hcq', hl'⟩ := System.nextSlot_eq_some.mp hx
      obtain ⟨hc, -⟩ := List.cons.inj (hcq.symm.trans hcq')
      rw [← hc, hl] at hl'
      cases hl'
  | some slot =>
    have hnext : s.nextSlot = some (c, slot) := System.nextSlot_eq_some.mpr ⟨cs, hcq, hl⟩
    have hkeeps : (∀ x, s.nextSlot = some x → ¬ KeepsSlot s env x.2 x.1) ↔
        ¬ KeepsSlot s env slot c := by
      rw [hnext]
      exact ⟨fun hx => hx _ rfl, fun hk x hx => Option.some.inj hx ▸ hk⟩
    rw [hkeeps]
    have hvacates := References.readCqe_vacates hl hr
    by_cases hdead : l.registry.liveSlot (toInt c.userData) = none
    · refine iff_of_true (hgone hdead) ?_
      rintro ⟨hfailed, hskip, -⟩
      rcases hvacates.mp hdead with hf | hs
      · exact hfailed hf
      · exact absurd (hs.symm.trans hskip) (by simp)
    · have hsame := hlive.resolve_right fun hr => hdead hr.1
      have hholds : ∀ sub, (s.consume c l).Holds sub ↔ s.Holds sub := fun sub => by
        show l.registry.liveSlot _ = _ ↔ _
        rw [hsame]
        rfl
      obtain ⟨hfailed, hskip⟩ : ¬ References.Failed slot c ∧ slot.skipped env = true := by
        simpa using mt hvacates.mpr hdead
      constructor
      · rintro hmore ⟨-, -, hlast, sub, hm, hh, he⟩
        exact absurd (hlast.symm.trans (hmore sub hm ((hholds sub).mpr hh) he)) (by simp)
      · intro hk sub hm hh he
        by_contra hmore
        exact hk ⟨hfailed, hskip, by simpa using hmore, sub, hm, (hholds sub).mp hh, he⟩

/-- A call leaves the requests with a slot unfinished. -/
theorem vacated_call {s t : System} {call : OpCall} {env : CallEnv} (h : s.Base) (hv : s.Vacated)
    (hs : s.step (.call call env) = .ok t) (hd : t.down = false) : t.Vacated := by
  have ht := h.step hs hd
  cases (System.step_cases h hs).2.effect h hd with
  | same hsubs hseen hlive => exact vacated_of_seen hv hseen hsubs hlive
  | @accepted _ _ sub _ _ hsubs hseen _ _ hseq _ hlive =>
    have hnew : t.Holds sub := (hlive _).trans (if_pos rfl)
    intro x hm hh c hc
    by_cases hi : x.index = sub.index
    · obtain rfl := ht.eq_of_holds hm (hsubs ▸ List.mem_cons_self ..) hh hnew hi
      exact (h.waiting_of_tail hseq).unfinished c (hseen ▸ hc)
    · have hold : x ∈ s.subs := by
        rcases List.mem_cons.mp (hsubs ▸ hm) with rfl | hold
        · exact absurd rfl hi
        · exact hold
      refine hv x hold (System.Holds.congr ?_ hh) c (hseen ▸ hc)
      rw [hlive, if_neg hi]
  | ignored ha => cases ha
  | handled ha => cases ha

theorem loss_read_iff {s : System} {env : ReadEnv} :
    loss s (.read env) = 0 ↔ ∀ x, s.nextSlot = some x → ¬ LosesObject x.2 x.1 := by
  unfold loss System.nextSlot
  cases s.loop.ring.cq with
  | nil => simp
  | cons c cs =>
    simp only [List.head?_cons, Option.bind_some, References.lostByRead]
    cases s.loop.registry.liveSlot (toInt c.userData) with
    | none => simp
    | some slot =>
      simp only [Option.map_some, Option.some_inj, forall_eq', LosesObject]
      by_cases hf : References.Failed slot c
      · simp [hf]
      · simp [hf]

theorem loss_shutdown_iff {s : System} {drained : List Drained} {submit : Int} :
    loss s (.shutdown drained submit) = 0 ↔ ∀ slot ∈ s.loop.registry.slots, slot.created = [] := by
  show s.loop.registry.created = 0 ↔ _
  unfold RequestRegistry.created
  rw [total_eq_zero_iff]
  simp

/-- A step loses no reference and keeps no slot of a finished request exactly when it is
    clean. -/
theorem clean_iff {s t : System} {a : Act} (h : s.Base) (hv : s.Vacated) (hs : s.step a = .ok t) :
    loss s a = 0 ∧ t.Vacated ↔ Clean s a := by
  have hd := System.down_of_step hs
  obtain ⟨-, hstep⟩ := System.step_cases h hs
  cases hstep with
  | @called _ _ r _ _ =>
    have hvt := vacated_call h hv hs ((System.answer_down s r).trans hd)
    exact (and_iff_left hvt).trans References.lostByCall_eq_zero_iff
  | posted _ => exact iff_of_true ⟨rfl, hv⟩ trivial
  | dropped _ _ | skipped _ _ _ | handled _ _ _ _ _ =>
    rw [loss_read_iff, vacated_read_iff h hv hs]
    exact forall₂_and.symm
  | quiet ha hq =>
    have hvt := vacated_of_seen hv hq.seen hq.subs fun j => by rw [hq.registry]
    cases a with
    | call | post | read | shutdown => cases ha
    | _ => exact iff_of_true ⟨rfl, hvt⟩ trivial
  | shutdown _ hg =>
    refine (and_iff_left fun sub _ hh => ?_).trans loss_shutdown_iff
    exact absurd hh (System.not_holds_of_empty (System.gracefulShutdown_slots hg))

/-- A step leaves the library with what the unfinished requests own exactly when it is clean. -/
theorem settled_step_iff {s t : Counted} {a : Act} (hacc : s.Accounted) (hlost : s.lost = 0)
    (hv : s.system.Vacated) (hs : step s a = .ok t) : t.Settled ↔ Clean s.system a := by
  rw [(accounted_step hacc hs).settled_iff]
  obtain ⟨u, hu, rfl⟩ := except_map_ok hs
  show s.lost + loss s.system a = 0 ∧ u.Vacated ↔ _
  rw [hlost, Multiset.zero_add]
  exact clean_iff (hacc.base (System.down_of_step hu)).1 hv hu

/-- In every run of a new loop the library holds after each step what the unfinished requests
    own, and nothing else, exactly when every action is clean. -/
theorem references_balanced_iff {acts : List Act} {s : Counted} (h : registrySize < 2 ^ 32)
    (hr : (init (uringioLoopInit registrySize setup wakeupFd submit)).run acts = .ok s) :
    Lib.Each step (fun _ _ t => t.Settled)
        (init (uringioLoopInit registrySize setup wakeupFd submit)) acts ↔
      Lib.Meets step (fun s a => Clean s.system a)
        (init (uringioLoopInit registrySize setup wakeupFd submit)) acts := by
  refine Lib.each_iff_meets (fun s => s.Accounted ∧ s.lost = 0 ∧ s.system.Vacated)
    (fun s a t hi hs => ?_) hr ⟨newLoop_accounted h, rfl, fun sub hm => absurd hm List.not_mem_nil⟩
  obtain ⟨hacc, hlost, hv⟩ := hi
  have hsettled := settled_step_iff hacc hlost hv hs
  have hacct := accounted_step hacc hs
  exact ⟨hsettled, fun hc => ⟨hacct, hacct.settled_iff.mp (hsettled.mpr hc)⟩⟩

/-- An open, a `prep_socket` and an accept that succeed, and a read in flight at the shutdown. -/
def balancedRun : List Act :=
  [.call (.open 0 (.ok "f") 0 0 0 none) .ok, .post 1 5 0, .read .ok,
    .call (.prepSocket 2 1 none) .ok, .post 2 6 0, .read .ok,
    .call (.accept 0 none) .ok, .post 3 7 0, .read .ok,
    .call (.read 0 0 8 none) .ok, .shutdown [] 1]

theorem references_balanced_iff_balancedRun :
    Lib.Each step (fun _ _ t => t.Settled) (init (uringioLoopInit 4 .failed 3 1)) balancedRun ∧
      Lib.Meets step (fun s a => Clean s.system a) (init (uringioLoopInit 4 .failed 3 1))
        balancedRun := by
  have hrun : ∃ t, (init (uringioLoopInit 4 .failed 3 1)).run balancedRun = .ok t := by
    decide +kernel
  obtain ⟨t, ht⟩ := hrun
  have hiff := references_balanced_iff (by decide) ht
  refine ⟨by decide +kernel, hiff.mp (by decide +kernel)⟩

/-- An open of a file that is not there. -/
def failedOpen : List Act :=
  [.call (.open 0 (.ok "f") 0 0 0 none) .ok, .post 1 (-2) 0, .read .ok]

/-- A `prep_socket` in flight at the shutdown. -/
def pendingSocket : List Act :=
  [.call (.prepSocket 2 1 none) .ok, .shutdown [] 1]

/-- An accept that gets no memory for the length of its address. -/
def starvedAccept : List Act :=
  [.call (.prepSocket 2 1 none) .ok, .post 1 6 0, .read .ok,
    .call (.accept 0 none) { CallEnv.ok with msghdr := none }]

/-- An accept whose CQE is skipped. -/
def skippedAccept : List Act :=
  [.call (.prepSocket 2 1 none) .ok, .post 1 6 0, .read .ok,
    .call (.accept 0 none) .ok, .post 2 7 0, .read { ReadEnv.ok with object := false }]

/-- A reference is left by an error of an open, a shutdown, and two accepts without memory. -/
theorem references_left :
    (∃ t, (init (uringioLoopInit 4 .failed 3 1)).run failedOpen = .ok t ∧ ¬ t.Settled) ∧
      (∃ t, (init (uringioLoopInit 4 .failed 3 1)).run pendingSocket = .ok t ∧ ¬ t.Settled) ∧
      (∃ t, (init (uringioLoopInit 4 .failed 3 1)).run starvedAccept = .ok t ∧ ¬ t.Settled) ∧
      ∃ t, (init (uringioLoopInit 4 .failed 3 1)).run skippedAccept = .ok t ∧ ¬ t.Settled := by
  decide +kernel

end Counted

end Uringio
