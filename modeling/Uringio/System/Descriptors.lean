/-
  Where the descriptors go that the kernel opens for the library.

  A success of `openat2`, `socket` or `accept` carries a new descriptor in `res`, and nobody
  but the consumer of that CQE knows the number. `descriptors_kept_iff`: each one ends in an
  object that a pending future is given exactly when every such CQE is consumed by the reader
  and finds the slot of an open, a socket or an accept whose future is not cancelled.
-/
import Uringio.Reader.Objects
import Uringio.System.Requests
import Uringio.System.Tags

namespace Uringio

/-- The operations whose success is a new descriptor. -/
def PrepCall.opens : PrepCall → Bool
  | .openat2 _ _ _ | .socket _ _ _ _ | .accept _ _ _ | .multishotAccept _ _ _ => true
  | _ => false

/-- The system with the futures that were cancelled and the positions of the SQEs that have
    opened descriptors. -/
structure Custody where
  system : System
  cancelled : List FutureId
  openers : List Nat
deriving DecidableEq, Repr

/-- `cancel` is `future.cancel()`. In `late` the kernel completes a request after the drain
    loop of the shutdown has ended. -/
inductive CustodyAct where
  | act (a : Act)
  | cancel (future : FutureId)
  | late (seq : Nat) (res : Int) (flags : Nat)

namespace Custody

def init (l : Loop) : Custody := ⟨.init l, [], []⟩

/-! ## Steps -/

/-- The position of an SQE in flight, if it opens descriptors. -/
def opener (r : Ring) (seq : Nat) : List Nat :=
  match r.inflight.find? fun f => f.seq == seq with
  | some f => if f.sqe.call.opens then [seq] else []
  | none => []

/-- The positions that an action adds. -/
def opened (s : Custody) : Act → List Nat
  | .post seq _ _ => opener s.system.loop.ring seq
  | _ => []

def stepAct (s : Custody) (a : Act) : Except Stop Custody :=
  match s.system.step a with
  | .error e => .error e
  | .ok t => .ok { s with system := t, openers := s.opened a ++ s.openers }

/-- A future that nobody has cancelled or resolved. -/
def Pending (s : Custody) (future : FutureId) : Prop :=
  future ∉ s.cancelled ∧ s.system.loop.calls future = []

instance (s : Custody) (future : FutureId) : Decidable (s.Pending future) :=
  inferInstanceAs (Decidable (_ ∧ _))

/-- A future that is done stays as it is. -/
def stepCancel (s : Custody) (future : FutureId) : Custody :=
  if future < s.system.loop.nextFuture ∧ s.Pending future then
    { s with cancelled := future :: s.cancelled }
  else s

def stepLate (s : Custody) (seq : Nat) (res : Int) (flags : Nat) : Except Stop Custody :=
  if s.system.down then
    match s.system.loop.ring.post seq res flags with
    | none => .error .stuck
    | some ring =>
      .ok { s with
        system := s.system.withLoop { s.system.loop with ring := ring }
        openers := opener s.system.loop.ring seq ++ s.openers }
  else .error .stuck

def step (s : Custody) (a : CustodyAct) : Except Stop Custody :=
  match a with
  | .act a => s.stepAct a
  | .cancel future => .ok (s.stepCancel future)
  | .late seq res flags => s.stepLate seq res flags

abbrev run (s : Custody) (acts : List CustodyAct) : Except Stop Custody := Lib.run step s acts

/-! ## Descriptors -/

/-- The descriptors in the CQEs. -/
def descriptors (s : Custody) (cqes : List Cqe) : List Int :=
  (cqes.filter fun c => decide (c.seq ∈ s.openers) && decide (0 ≤ c.res)).map Cqe.res

/-- The descriptors that come to the library with an action. What comes late comes to
    nobody. -/
def reported (s : Custody) (a : CustodyAct) : List Int :=
  match a with
  | .act (.read _) => s.descriptors s.system.loop.ring.cq.head?.toList
  | .act (.shutdown drained _) => s.descriptors (drained.map Drained.cqe)
  | .late seq res _ =>
    if opener s.system.loop.ring seq = [] ∨ res < 0 then [] else [res]
  | _ => []

/-- The calls of a step. -/
def newCalls (s t : Custody) : List (FutureId × FutureCall) :=
  t.system.loop.callLog.drop s.system.loop.callLog.length

/-- The call gives its future an object with the descriptor. -/
def Gives (t : Custody) (fd : Int) (e : FutureId × FutureCall) : Prop :=
  match e.2 with
  | .setResult v => t.system.loop.Stores v fd
  | .setException _ => False

instance (t : Custody) (fd : Int) : DecidablePred (t.Gives fd) := by
  intro e
  unfold Gives
  split <;> infer_instance

/-- A future that was pending is given an object with the descriptor. -/
def Delivered (s t : Custody) (fd : Int) : Prop :=
  ∃ e ∈ newCalls s t, t.Gives fd e ∧ s.Pending e.1

/-- The library has queued a close of the descriptor. -/
def Closed (s t : Custody) (fd : Int) : Prop :=
  ∃ x ∈ t.system.loop.ring.pending,
    x ∉ s.system.loop.ring.pending ∧ x.sqe.call = .close fd

/-- No descriptor is lost in a step. -/
def Kept (s : Custody) (a : CustodyAct) (t : Custody) : Prop :=
  ∀ fd ∈ s.reported a, Delivered s t fd ∨ Closed s t fd

instance (s t : Custody) (fd : Int) : Decidable (Delivered s t fd) :=
  inferInstanceAs (Decidable (∃ e ∈ newCalls s t, _))

instance (s t : Custody) (fd : Int) : Decidable (Closed s t fd) :=
  inferInstanceAs (Decidable (∃ x ∈ t.system.loop.ring.pending, _))

instance (s : Custody) (a : CustodyAct) (t : Custody) : Decidable (Kept s a t) :=
  inferInstanceAs (Decidable (∀ fd ∈ s.reported a, _))

/-- The next CQE finds the slot of an open, a socket or an accept, with memory for the new
    Socket, and its future is not cancelled. -/
def Received (s : Custody) (env : ReadEnv) : Prop :=
  ∃ x ∈ s.system.nextSlot, x.2.takes env = true ∧ ∀ f ∈ x.2.future, f ∉ s.cancelled

/-- A descriptor comes to the reader only, and is received there. -/
def Receives (s : Custody) (a : CustodyAct) : Prop :=
  s.reported a = [] ∨
    match a with
    | .act (.read env) => s.Received env
    | _ => False

instance (s : Custody) (env : ReadEnv) : Decidable (s.Received env) :=
  inferInstanceAs (Decidable (∃ x ∈ s.system.nextSlot, _))

instance (s : Custody) (a : CustodyAct) : Decidable (s.Receives a) := by
  apply CustodyAct.casesOn (motive := fun a => Decidable (s.Receives a)) a
  · intro a
    apply Act.casesOn (motive := fun a => Decidable (s.Receives (.act a))) a <;> intros <;>
      dsimp only [Receives] <;> infer_instance
  all_goals
    intros
    dsimp only [Receives]
    infer_instance

end Custody

/-! ## Futures of live slots -/

namespace System

/-- No future of a live slot, and none that is still to come, was called. -/
structure Uncalled (s : System) : Prop where
  fresh : ∀ f, s.loop.nextFuture ≤ f → s.loop.calls f = []
  live : ∀ i slot f, s.loop.registry.liveSlot i = some slot → slot.future = some f →
    s.loop.calls f = []

theorem init_uncalled {l : Loop} (hl : l.callLog = []) : (init l).Uncalled := by
  have hcalls : ∀ f, l.calls f = [] := by
    intro f
    unfold Loop.calls
    rw [hl]
    rfl
  exact ⟨fun f _ => hcalls f, fun _ _ f _ _ => hcalls f⟩

variable {s t : System} {a : Act}

/-- A step without a call, after which every live slot was one before or has a new future. -/
theorem Uncalled.mono (h : s.Uncalled) (hlog : t.loop.callLog = s.loop.callLog)
    (hnext : s.loop.nextFuture ≤ t.loop.nextFuture)
    (hlive : ∀ i slot f, t.loop.registry.liveSlot i = some slot → slot.future = some f →
      s.loop.registry.liveSlot i = some slot ∨ s.loop.nextFuture ≤ f) : t.Uncalled := by
  have hcalls : ∀ f, t.loop.calls f = s.loop.calls f := Loop.calls_of_callLog hlog
  refine ⟨fun f hf => ?_, fun i slot f hi hf => ?_⟩
  · rw [hcalls]
    exact h.fresh f (Nat.le_trans hnext hf)
  · rw [hcalls]
    rcases hlive i slot f hi hf with hold | hnew
    · exact h.live i slot f hold hf
    · exact h.fresh f hnew

/-- Two live slots have different futures. -/
theorem Base.slot_of_future (h : s.Base) {i j : Int} {slot slot' : RequestSlot} {f : FutureId}
    (hi : s.loop.registry.liveSlot i = some slot) (hj : s.loop.registry.liveSlot j = some slot')
    (hf : slot.future = some f) (hf' : slot'.future = some f) : i = j := by
  obtain ⟨x, hx, hslot⟩ := h.registry.holder i slot hi
  obtain ⟨y, hy, hslot'⟩ := h.registry.holder j slot' hj
  obtain ⟨hxm, hxi⟩ := mem_of_holder hx
  obtain ⟨hym, hyj⟩ := mem_of_holder hy
  rw [hslot] at hf
  rw [hslot'] at hf'
  have hxy := h.futures.eq hxm hym (Option.some.inj (hf.trans hf'.symm))
  rw [← hxi, hxy, hyj]

theorem Base.future_lt (h : s.Base) {i : Int} {slot : RequestSlot} {f : FutureId}
    (hi : s.loop.registry.liveSlot i = some slot) (hf : slot.future = some f) :
    f < s.loop.nextFuture := by
  obtain ⟨x, hx, hslot⟩ := h.registry.holder i slot hi
  rw [hslot] at hf
  have hlt := h.futures.lt x (mem_of_holder hx).1
  rwa [← Option.some.inj hf]

theorem Uncalled.step (h : s.Uncalled) (hb : s.Base) (hs : Stepped s a t)
    (hd : t.down = false) : t.Uncalled := by
  cases hs with
  | called _ ho =>
    cases ho with
    | refused hr =>
      obtain ⟨g, rfl, -⟩ := hr
      exact h.mono rfl (Nat.le_add_right _ _) fun i slot f hi _ => .inl hi
    | full _ _ _ _ => exact h.mono rfl (Nat.le_add_right _ _) fun i slot f hi _ => .inl hi
    | rejected _ _ _ _ _ _ _ _ hlive _ =>
      refine h.mono ?_ ?_ fun i slot f hi _ => .inl ?_
      · simp only [answer, withLoop, Loop.setClosed_callLog]
        rfl
      · simp only [answer, withLoop, Loop.setClosed_nextFuture]
        exact Nat.le_add_right _ _
      · simp only [answer, withLoop, Loop.setClosed_registry] at hi
        exact (hlive i).symm.trans hi
    | accepted _ hp htop _ _ _ _ =>
      obtain ⟨-, -, -, -, hlive⟩ := (hb.registry.sound.valid_of_room htop).add _ htop
      refine h.mono ?_ ?_ fun i slot f hi hf => ?_
      · simp only [answer, withLoop, Loop.setClosed_callLog]
        rfl
      · simp only [answer, withLoop, Loop.setClosed_nextFuture]
        exact Nat.le_add_right _ _
      · simp only [answer, withLoop, Loop.setClosed_registry] at hi
        have hi' := (hlive i).symm.trans hi
        split at hi'
        · have hfuture := hp.future
          rw [← Option.some.inj hi'] at hf
          rw [← Option.some.inj hf]
          exact .inr (Nat.le_of_eq hfuture.symm)
        · exact .inl hi'
  | posted _ => exact h.mono rfl (Nat.le_refl _) fun i slot f hi _ => .inl hi
  | dropped _ _ => exact h.mono rfl (Nat.le_refl _) fun i slot f hi _ => .inl hi
  | skipped _ _ _ => exact h.mono rfl (Nat.le_refl _) fun i slot f hi _ => .inl hi
  | @handled env c cs own future l1 hcq hl hf hr hh =>
    obtain ⟨calls, hlog, hmine⟩ := hh.calls
    have hother : ∀ f, f ≠ future → l1.calls f = s.loop.calls f := by
      intro f hne
      unfold Loop.calls
      rw [hlog, List.filter_append, List.map_append]
      have hnone : (calls.filter fun e => e.1 == f) = [] := by
        refine List.filter_eq_nil_iff.mpr fun e he => ?_
        rw [hmine e he]
        simpa using Ne.symm hne
      rw [hnone, List.map_nil, List.append_nil]
    refine ⟨fun f hle => ?_, fun i slot f hi hfi => ?_⟩
    · have hlt := hb.future_lt hl hf
      have hle' : s.loop.nextFuture ≤ f := hh.nextFuture ▸ hle
      have hne : f ≠ future := Nat.ne_of_gt (Nat.lt_of_lt_of_le hlt hle')
      exact (hother f hne).trans (h.fresh f hle')
    · have hi' := (hh.live i).symm.trans hi
      split at hi'
      · cases hi'
      · rename_i hne
        refine (hother f fun he => hne ?_).trans (h.live i slot f hi' hfi)
        exact hb.slot_of_future hi' hl hfi (he ▸ hf)
  | quiet _ hq =>
    refine h.mono hq.callLog (Nat.le_of_eq hq.nextFuture.symm) fun i slot f hi _ => .inl ?_
    rw [← hq.registry]
    exact hi
  | shutdown _ _ => exact absurd hd (by simp)

end System

/-! ## One step -/

namespace Custody

variable {s t : Custody} {a : CustodyAct} {fd : Int}

theorem not_delivered_of_calls {calls : List (FutureId × FutureCall)}
    (hlog : t.system.loop.callLog = s.system.loop.callLog ++ calls)
    (hno : ∀ e ∈ calls, ∀ v, e.2 = .setResult v → v.isObject = false) : ¬ Delivered s t fd := by
  rintro ⟨e, he, hg, -⟩
  unfold newCalls at he
  rw [hlog, List.drop_left] at he
  unfold Gives at hg
  split at hg
  · rename_i v hv
    have hobj := hg.isObject
    rw [hno e he v hv] at hobj
    exact absurd hobj (by simp)
  · exact hg

theorem not_delivered_of_callLog (hlog : t.system.loop.callLog = s.system.loop.callLog) :
    ¬ Delivered s t fd :=
  not_delivered_of_calls (hlog.trans (List.append_nil _).symm) fun _ he =>
    absurd he List.not_mem_nil

theorem not_closed_of_pending (h : ∀ x ∈ t.system.loop.ring.pending,
    x ∈ s.system.loop.ring.pending ∨ x.sqe.call = .cancelAny) : ¬ Closed s t fd := by
  rintro ⟨x, hx, hnew, hclose⟩
  rcases h x hx with hold | hcancel
  · exact hnew hold
  · rw [hcancel] at hclose
    cases hclose

/-- A step without an object and without a close keeps no descriptor. -/
theorem kept_iff_of_lost (hd : ∀ fd, ¬ Delivered s t fd) (hc : ∀ fd, ¬ Closed s t fd) :
    Kept s a t ↔ s.reported a = [] := by
  constructor
  · intro h
    refine List.eq_nil_iff_forall_not_mem.mpr fun fd hfd => ?_
    rcases h fd hfd with h | h
    · exact hd fd h
    · exact hc fd h
  · intro h fd hfd
    rw [h] at hfd
    exact absurd hfd List.not_mem_nil

theorem kept_of_reported (h : s.reported a = []) : Kept s a t := by
  intro fd hfd
  rw [h] at hfd
  exact absurd hfd List.not_mem_nil

/-- What the reader does in a step, for a live slot and for none. -/
theorem stepRead_ok {s t : System} {env : ReadEnv} (hb : s.Base)
    (ht : s.step (.read env) = .ok t) :
    ∃ c cs, s.loop.ring.cq = c :: cs ∧ t.loop.ring.pending = s.loop.ring.pending ∧
      readCqe env s.loop c = .ok t.loop := by
  obtain ⟨hd, hst⟩ := System.step_cases hb ht
  unfold System.step System.stepRead at ht
  rw [hd] at ht
  simp only [Bool.false_eq_true, if_false] at ht
  split at ht
  · cases ht
  · rename_i c cs hcq
    split at ht
    · cases ht
    · rename_i l hr
      cases ht
      refine ⟨c, cs, hcq, ?_, hr⟩
      cases hst with
      | dropped _ _ => rfl
      | skipped _ _ _ => rfl
      | handled _ _ _ _ hh =>
        show l.ring.pending = s.loop.ring.pending
        rw [hh.ring]
        rfl
      | quiet ha _ => exact absurd ha (by simp [Act.quiet])

/-- What is known of the slot of a request. -/
theorem Base.slot_names {s : System} (hb : s.Base) {i : Int} {slot : RequestSlot} (res : Int)
    (hl : s.loop.registry.liveSlot i = some slot) :
    (slot.opcode.givesObject = true → (slot.handedOver res).isSome) ∧
      (∀ id, slot.file = some id → id < s.loop.files.length) ∧
      ∀ id, slot.socket = some id → id < s.loop.sockets.length := by
  obtain ⟨x, hx, rfl⟩ := hb.registry.holder i slot hl
  obtain ⟨hm, -⟩ := mem_of_holder hx
  refine ⟨fun hop => ?_, hb.objects.file x hm, hb.objects.socket x hm⟩
  have hn := hb.objects.names x hm
  unfold Registration.NamesObject at hn
  unfold RequestSlot.handedOver
  rw [show (x.registration.slot i).opcode = x.registration.opcode from rfl] at hop ⊢
  cases hopc : x.registration.opcode with
  | openat2 =>
    rw [hopc] at hn
    exact (Option.isSome_map ..).trans hn
  | socket | accept =>
    rw [hopc] at hn
    exact (Option.isSome_map ..).trans hn
  | _ =>
    rw [hopc] at hop
    exact absurd hop (by simp [Opcode.givesObject])

/-- The reader keeps the descriptor of a CQE exactly when it is received. -/
theorem kept_read_iff {u : System} {env : ReadEnv} (hb : s.system.Base)
    (hu : s.system.Uncalled) (ht : s.system.step (.read env) = .ok u)
    (hsys : t.system = u) : Kept s (.act (.read env)) t ↔ s.Receives (.act (.read env)) := by
  subst hsys
  obtain ⟨c, cs, hcq, hpend, hr⟩ := stepRead_ok hb ht
  have hclosed : ∀ fd, ¬ Closed s t fd := fun fd =>
    not_closed_of_pending fun x hx => .inl (hpend ▸ hx)
  by_cases hrep : s.reported (.act (.read env)) = []
  · exact ⟨fun _ => .inl hrep, fun _ => kept_of_reported hrep⟩
  · have hreported : s.reported (.act (.read env)) = [c.res] ∧ 0 ≤ c.res := by
      unfold reported descriptors at hrep ⊢
      simp only [hcq, List.head?_cons, Option.toList_some] at hrep ⊢
      by_cases hc : (decide (c.seq ∈ s.openers) && decide (0 ≤ c.res)) = true
      · simp only [List.filter_cons, List.filter_nil, hc, if_true]
        refine ⟨rfl, ?_⟩
        rw [Bool.and_eq_true] at hc
        exact of_decide_eq_true hc.2
      · simp only [List.filter_cons, List.filter_nil, hc] at hrep
        exact absurd rfl hrep
    obtain ⟨hone, hres⟩ := hreported
    have hlost : (∀ fd, ¬ Delivered s t fd) → ¬ s.Received env →
        (Kept s (.act (.read env)) t ↔ s.Receives (.act (.read env))) := by
      intro hno hrec
      rw [kept_iff_of_lost hno hclosed]
      exact ⟨.inl, fun h => h.resolve_right hrec⟩
    cases hl : s.system.loop.registry.liveSlot (toInt c.userData) with
    | none =>
      rw [readCqe_of_dead hl] at hr
      refine hlost (fun fd => not_delivered_of_callLog ?_) ?_
      · rw [← Except.ok.inj hr]
        rfl
      · rintro ⟨⟨c', slot⟩, hx, -⟩
        obtain ⟨cs', hcq', hl'⟩ := System.nextSlot_eq_some.mp hx
        rw [hcq] at hcq'
        obtain ⟨rfl, -⟩ := List.cons.inj hcq'
        rw [hl] at hl'
        cases hl'
    | some slot =>
      obtain ⟨future, hf, hread⟩ := readCqe_of_live env hl
      rw [hread] at hr
      have hv := hb.registry.sound.valid_of_live hl
      have hfit := hb.slotFits hl
      have htag := ne_wakeupFdTag_of_live hl
      have hnext : s.system.nextSlot = some (c, slot) :=
        System.nextSlot_eq_some.mpr ⟨cs, hcq, hl⟩
      have hreceived : s.Received env ↔ slot.takes env = true ∧ future ∉ s.cancelled := by
        unfold Received
        rw [hnext]
        simp [hf]
      cases htakes : slot.takes env with
      | false =>
        obtain ⟨calls, hlog, hno⟩ := readLive_gives_nothing hv hl hfit htag htakes hr
        refine hlost (fun fd => not_delivered_of_calls hlog hno) fun hrec => ?_
        rw [hreceived, htakes] at hrec
        exact absurd hrec.1 (by simp)
      | true =>
        obtain ⟨hnames, hfile, hsock⟩ := Base.slot_names hb c.res hl
        have hop : slot.opcode.givesObject = true := by
          unfold RequestSlot.takes at htakes
          rw [Bool.and_eq_true] at htakes
          exact htakes.1
        obtain ⟨v, hlog, hstores⟩ :=
          readLive_takes hv hl hfit htag hres htakes (hnames hop) hfile hsock hr
        have hnew : newCalls s t = [(future, .setResult v)] := by
          unfold newCalls
          rw [hlog, List.drop_left]
        unfold Kept Receives
        simp only [hone, List.mem_singleton, forall_eq, List.cons_ne_nil, false_or]
        rw [hreceived]
        constructor
        · intro hk
          obtain ⟨e, he, -, hp⟩ := hk.resolve_right (hclosed c.res)
          rw [hnew, List.mem_singleton] at he
          rw [he] at hp
          exact ⟨htakes, hp.1⟩
        · rintro ⟨-, hcan⟩
          refine .inl ⟨(future, .setResult v), hnew ▸ List.mem_singleton.mpr rfl, hstores, hcan, ?_⟩
          exact hu.live _ slot future hl hf

/-- The calls of the shutdown are exceptions. -/
theorem gracefulShutdown_calls {l l' : Loop} {drained : List Drained} {submit : Int}
    (h : gracefulShutdown l drained submit = .ok l') :
    ∃ calls, l'.callLog = l.callLog ++ calls ∧ ∀ e ∈ calls, e.2 = closedCall := by
  have hstep : ∀ (m : Loop) (d : Drained) (m' : Loop), shutdownCqe m d = .ok m' →
      ∃ calls, m'.callLog = m.callLog ++ calls ∧ ∀ e ∈ calls, e.2 = closedCall := by
    intro m d m' hm
    have hnone : m'.callLog = m.callLog →
        ∃ calls, m'.callLog = m.callLog ++ calls ∧ ∀ e ∈ calls, e.2 = closedCall :=
      fun hlog => ⟨[], hlog.trans (List.append_nil _).symm, fun _ he => absurd he List.not_mem_nil⟩
    unfold shutdownCqe at hm
    split at hm
    · cases hm
      exact hnone rfl
    · split at hm
      · cases hm
        exact hnone rfl
      · have hfin := (finishCqe_objects hm).1
        split at hfin
        · rename_i future _
          split at hfin
          · refine ⟨[(future, closedCall)], hfin, fun e he => ?_⟩
            rw [List.mem_singleton.mp he]
          · exact hnone hfin
        · exact hnone hfin
  unfold gracefulShutdown at h
  obtain ⟨m, hrun, rfl⟩ := except_map_ok h
  have hinv : ∃ calls, m.callLog = l.callLog ++ calls ∧ ∀ e ∈ calls, e.2 = closedCall := by
    refine Lib.Meets.invariant (fun n : Loop =>
      ∃ calls, n.callLog = l.callLog ++ calls ∧ ∀ e ∈ calls, e.2 = closedCall)
      (fun n d n' hn _ hs => ?_) Lib.meets_true ?_ hrun
    · obtain ⟨calls, hlog, hall⟩ := hn
      obtain ⟨more, hmore, hall'⟩ := hstep n d n' hs
      refine ⟨calls ++ more, by rw [hmore, hlog, List.append_assoc], fun e he => ?_⟩
      rcases List.mem_append.mp he with he | he
      · exact hall e he
      · exact hall' e he
    · exact ⟨[], (List.append_nil _).symm, fun _ he => absurd he List.not_mem_nil⟩
  exact hinv

/-- The shutdown keeps no descriptor. -/
theorem kept_shutdown_iff {u : System} {drained : List Drained} {submit : Int}
    (ht : s.system.stepShutdown drained submit = .ok u) (hsys : t.system = u) :
    Kept s a t ↔ s.reported a = [] := by
  subst hsys
  unfold System.stepShutdown at ht
  split at ht
  · split at ht
    · cases ht
    · rename_i l hg
      have hloop : t.system.loop = l := by rw [← Except.ok.inj ht]; rfl
      obtain ⟨calls, hlog, hclosed⟩ := gracefulShutdown_calls hg
      refine kept_iff_of_lost (fun fd => ?_) fun fd => ?_
      · refine not_delivered_of_calls (hloop ▸ hlog) fun e he v hev => ?_
        rw [hclosed e he] at hev
        cases hev
      · exact not_closed_of_pending (hloop ▸ (gracefulShutdown_pending hg).1)
  · cases ht

/-- A late completion is lost. -/
theorem kept_late_iff {seq : Nat} {res : Int} {flags : Nat}
    (ht : s.stepLate seq res flags = .ok t) : Kept s a t ↔ s.reported a = [] := by
  unfold stepLate at ht
  split at ht
  · split at ht
    · cases ht
    · rename_i ring hp
      cases ht
      refine kept_iff_of_lost (fun fd => not_delivered_of_callLog rfl) fun fd =>
        not_closed_of_pending fun x hx => .inl ?_
      obtain ⟨y, -, -, -, hhead, hcount, hentries, hin⟩ := Ring.post_eq_some hp
      have hqueued : ring.queued = s.system.loop.ring.queued := by
        unfold Ring.queued Ring.sqEntry
        rw [hhead, hcount, hentries]
      have hx : x ∈ ring.inflight ++ ring.queued := hx
      rw [hqueued, hin] at hx
      rcases List.mem_append.mp hx with hx | hx
      · refine List.mem_append_left _ ?_
        split at hx
        · exact hx
        · exact List.mem_of_mem_filter hx
      · exact List.mem_append_right _ hx
  · cases ht

/-! ## Runs -/

/-- What holds in every state up to the shutdown. -/
def Inv (s : Custody) : Prop :=
  s.system.down = false → s.system.Base ∧ s.system.Uncalled

theorem Inv.step (h : s.Inv) (ht : s.step a = .ok t) : t.Inv := by
  intro hd
  unfold Custody.step at ht
  cases a with
  | act a =>
    simp only [stepAct] at ht
    split at ht
    · cases ht
    · rename_i u hu
      cases ht
      obtain ⟨hb, huc⟩ := h (System.down_of_step hu)
      exact ⟨hb.step hu hd, huc.step hb (System.step_cases hb hu).2 hd⟩
  | cancel future =>
    cases ht
    have hsys : (s.stepCancel future).system = s.system := by
      unfold stepCancel
      split
      · rfl
      · rfl
    rw [hsys] at hd ⊢
    exact h hd
  | late seq res flags =>
    simp only [stepLate] at ht
    split at ht
    · rename_i hdown
      split at ht
      · cases ht
      · cases ht
        exact absurd hd (by simp [System.withLoop, hdown])
    · cases ht

theorem kept_iff (h : s.Inv) (ht : s.step a = .ok t) : Kept s a t ↔ s.Receives a := by
  unfold Custody.step at ht
  cases a with
  | cancel future => exact ⟨fun _ => .inl rfl, fun _ => kept_of_reported rfl⟩
  | late seq res flags =>
    rw [kept_late_iff ht]
    exact ⟨.inl, fun hr => hr.resolve_right id⟩
  | act a =>
    simp only [stepAct] at ht
    split at ht
    · cases ht
    · rename_i u hu
      cases ht
      have hd := System.down_of_step hu
      obtain ⟨hb, huc⟩ := h hd
      cases a with
      | read env => exact kept_read_iff hb huc hu rfl
      | shutdown drained submit =>
        have hs : s.system.stepShutdown drained submit = .ok u := by
          unfold System.step at hu
          rw [hd] at hu
          exact hu
        rw [kept_shutdown_iff hs rfl]
        exact ⟨.inl, fun hr => hr.resolve_right id⟩
      | _ => exact ⟨fun _ => .inl rfl, fun _ => kept_of_reported rfl⟩

/-- In every run of a new loop, with cancellations at any time, each descriptor that the kernel
    reports is given to a pending future in an object, or closed, exactly when each one that
    comes to the library is received by the reader. -/
theorem descriptors_kept_iff {registrySize : Nat} {setup : SignalSetup} {wakeupFd submit : Int}
    (h : registrySize < 2 ^ 32) {acts : List CustodyAct} {s : Custody}
    (hr : (init (uringioLoopInit registrySize setup wakeupFd submit)).run acts = .ok s) :
    Lib.Each step Kept (init (uringioLoopInit registrySize setup wakeupFd submit)) acts ↔
      Lib.Meets step Receives (init (uringioLoopInit registrySize setup wakeupFd submit))
        acts := by
  refine Lib.each_iff_meets Inv (fun s a t hi ht => ⟨kept_iff hi ht, fun _ => hi.step ht⟩) hr
    fun _ => ?_
  exact ⟨System.newLoop_base h, System.init_uncalled rfl⟩

/-- The first CQE of a request finds the slot of the request, as long as no index is given away
    too early. -/
theorem received_iff_of_waiting {env : ReadEnv} {c : Cqe} {cs : List Cqe} {sub : Submitted}
    (ho : s.system.Orderly) (hb : s.system.Base) (hcq : s.system.loop.ring.cq = c :: cs)
    (hm : sub ∈ s.system.subs) (hs : sub.seq = c.seq) (hw : s.system.Waiting sub) :
    s.Received env ↔ (sub.registration.slot sub.index).takes env = true ∧
      sub.registration.future ∉ s.cancelled := by
  have hi := hb.decode (System.Base.mem_posted_of_cq (hcq ▸ List.mem_cons_self ..)) hm hs
  have hl : s.system.loop.registry.liveSlot (toInt c.userData) =
      some (sub.registration.slot sub.index) := by
    rw [hi]
    exact ho.first sub hm hw
  unfold Received
  rw [System.nextSlot_eq_some.mpr ⟨cs, hcq, hl⟩]
  simp [Registration.slot]

/-- An open whose future is cancelled after its result has come, and an accept in a loop that
    is closed later. -/
def keptRun : List CustodyAct :=
  [.act (.call (.open 0 (.ok "f") 0 0 0 none) .ok), .act (.post 1 5 0), .act (.read .ok),
    .cancel 0, .act (.call (.prepSocket 2 1 none) .ok), .act (.post 2 6 0), .act (.read .ok),
    .act (.call (.accept 0 none) .ok), .act (.post 3 7 0), .act (.read .ok),
    .act (.shutdown [] 1)]

theorem descriptors_kept_iff_keptRun :
    Lib.Each step Kept (init (uringioLoopInit 4 .failed 3 1)) keptRun ∧
      Lib.Meets step Receives (init (uringioLoopInit 4 .failed 3 1)) keptRun := by
  have hrun : ∃ t, (init (uringioLoopInit 4 .failed 3 1)).run keptRun = .ok t := by
    decide +kernel
  obtain ⟨t, ht⟩ := hrun
  have hiff := descriptors_kept_iff (by decide) ht
  rw [hiff, and_self]
  decide +kernel

/-- An open whose future is cancelled while the kernel opens the file. -/
def cancelledOpen : List CustodyAct :=
  [.act (.call (.open 0 (.ok "f") 0 0 0 none) .ok), .cancel 0, .act (.post 1 5 0),
    .act (.read .ok)]

/-- The second connection of a multishot accept. -/
def secondConnection : List CustodyAct :=
  [.act (.call (.prepSocket 2 1 none) .ok), .act (.post 1 5 0), .act (.read .ok),
    .act (.stream .multishot), .act (.call (.accept 0 none) .ok), .act (.post 2 6 2),
    .act (.post 2 7 2), .act (.read .ok), .act (.read .ok)]

/-- An open that completes in the drain loop of the shutdown. -/
def drainedOpen : List CustodyAct :=
  [.act (.call (.open 0 (.ok "f") 0 0 0 none) .ok), .act (.post 1 5 0),
    .act (.shutdown [⟨⟨3, 5, 0, 1⟩, true⟩] 1)]

/-- The descriptor is lost when the future is cancelled, when the accept had a CQE before, and
    when the loop is closed. -/
theorem descriptors_lost :
    (∃ t, (init (uringioLoopInit 4 .failed 3 1)).run cancelledOpen = .ok t) ∧
      ¬ Lib.Each step Kept (init (uringioLoopInit 4 .failed 3 1)) cancelledOpen ∧
      ¬ Lib.Each step Kept (init (uringioLoopInit 4 .failed 3 1)) secondConnection ∧
      ¬ Lib.Each step Kept (init (uringioLoopInit 4 .failed 3 1)) drainedOpen := by
  decide +kernel

end Custody

end Uringio
