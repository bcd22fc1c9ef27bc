/-
  The answers to the futures, over whole runs.

  The futures of the accepted requests are promises (`Lib.Promises`): pending as long as the
  slot is live, answered by the reader or the shutdown, and forgotten where the answer cannot
  be made. Every run is a run of that protocol (`run_promises`), so that no future is ever
  answered twice, whatever the kernel posts. Before the shutdown, and where the reader has
  what it needs for each answer, none is forgotten (`answered_once`).
-/
import Uringio.Lib.Promises
import Uringio.System.Descriptors
import Uringio.System.Iteration
import Uringio.System.References

namespace Uringio

open Lib

/-! ## Promises of a loop -/

/-- The futures of the live slots. -/
def RequestRegistry.pendingFutures (reg : RequestRegistry) : Set FutureId :=
  {f | ∃ i slot, reg.liveSlot i = some slot ∧ slot.future = some f}

/-- Live slots have different futures. -/
def RequestRegistry.Distinct (reg : RequestRegistry) : Prop :=
  ∀ i j slot slot' f, reg.liveSlot i = some slot → reg.liveSlot j = some slot' →
    slot.future = some f → slot'.future = some f → i = j

/-- The promises under the names `issued`. -/
def Loop.promises (l : Loop) (issued : Set FutureId) : Promises FutureId FutureCall :=
  ⟨issued, l.registry.pendingFutures, l.callLog⟩

section Promises

variable {l l' : Loop} {reg reg' : RequestRegistry} {issued : Set FutureId} {index : Int}
  {slot : RequestSlot} {future : FutureId}

theorem pendingFutures_congr (h : ∀ j, reg'.liveSlot j = reg.liveSlot j) :
    reg'.pendingFutures = reg.pendingFutures := by
  unfold RequestRegistry.pendingFutures
  simp only [h]

theorem promises_congr (hlog : l'.callLog = l.callLog)
    (h : ∀ j, l'.registry.liveSlot j = l.registry.liveSlot j) :
    l'.promises issued = l.promises issued := by
  unfold Loop.promises
  rw [pendingFutures_congr h, hlog]

/-- A slot is removed: its future is no longer pending. -/
theorem pendingFutures_remove (hd : reg.Distinct) (hl : reg.liveSlot index = some slot)
    (hf : slot.future = some future)
    (h : ∀ j, reg'.liveSlot j = if j = index then none else reg.liveSlot j) :
    reg'.pendingFutures = reg.pendingFutures \ {future} := by
  ext f
  constructor
  · rintro ⟨j, slot', hj, hf'⟩
    rw [h] at hj
    split at hj
    · cases hj
    · rename_i hne
      refine ⟨⟨j, slot', hj, hf'⟩, fun he => hne ?_⟩
      exact hd j index slot' slot future hj hl (he ▸ hf') hf
  · rintro ⟨⟨j, slot', hj, hf'⟩, hne⟩
    refine ⟨j, slot', ?_, hf'⟩
    rw [h, if_neg]
    · exact hj
    · rintro rfl
      obtain rfl := Option.some.inj (hl.symm.trans hj)
      exact hne (Option.some.inj (hf'.symm.trans hf))

theorem Distinct.remove (hd : reg.Distinct)
    (h : ∀ j, reg'.liveSlot j = if j = index then none else reg.liveSlot j) : reg'.Distinct := by
  have hold : ∀ j slot, reg'.liveSlot j = some slot → reg.liveSlot j = some slot := by
    intro j slot hj
    rw [h] at hj
    split at hj
    · cases hj
    · exact hj
  exact fun i j slot slot' f hi hj => hd i j slot slot' f (hold i slot hi) (hold j slot' hj)

/-- The slot of a future is removed with its answer, or without. -/
theorem promises_remove {answer : Option FutureCall} (hd : l.registry.Distinct)
    (hl : l.registry.liveSlot index = some slot) (hf : slot.future = some future)
    (hlive : ∀ j, l'.registry.liveSlot j = if j = index then none else l.registry.liveSlot j)
    (hlog : l'.callLog = l.callLog ++ answer.toList.map fun k => (future, k)) :
    Promises.Step (l.promises issued) (l'.promises issued) ∧
      (answer.isSome → Promises.Keeps (l.promises issued) (l'.promises issued)) := by
  have hpend : future ∈ l.registry.pendingFutures := ⟨index, slot, hl, hf⟩
  have hrest := pendingFutures_remove hd hl hf hlive
  cases answer with
  | none =>
    refine ⟨?_, fun h => by cases h⟩
    have heq : l'.promises issued =
        (l.promises issued).forget (l.registry.pendingFutures \ {future}) := by
      unfold Loop.promises Promises.forget
      rw [hrest, hlog]
      simp
    rw [heq]
    exact .forget fun f hm => hm.1
  | some k =>
    have heq : l'.promises issued = (l.promises issued).answer future k := by
      unfold Loop.promises Promises.answer
      rw [hrest, hlog]
      rfl
    have hkeeps : Promises.Keeps (l.promises issued) (l'.promises issued) := by
      rw [heq]
      exact .answer k hpend
    exact ⟨.keeps hkeeps, fun _ => hkeeps⟩

end Promises

/-! ## The answer to a CQE -/

section Reader

variable {env : ReadEnv} {l l1 : Loop} {index : Int} {slot : RequestSlot} {c : Cqe}

/-- The reader has what it needs to answer the CQE: memory for the exception or the result,
    and a branch that makes a result. -/
def Answerable (env : ReadEnv) (l : Loop) (slot : RequestSlot) (c : Cqe) : Prop :=
  if References.Failed slot c then env.exc = true
  else
    match resultKind env l slot with
    | .existing => True
    | .fresh => env.result = true
    | .nothing | .skipped => False

instance : Decidable (Answerable env l slot c) := by
  unfold Answerable
  split
  · infer_instance
  · split <;> infer_instance

theorem resultKind_of_skipped (h : slot.skipped env = true) : resultKind env l slot = .skipped := by
  unfold RequestSlot.skipped at h
  simp only [Bool.and_eq_true, beq_iff_eq, Bool.not_eq_true'] at h
  obtain ⟨⟨hop, hsock⟩, hobj⟩ := h
  unfold resultKind
  rw [hop]
  simp [hsock, hobj]

/-- A result that is not NULL is one of an answerable CQE. -/
theorem result_isSome_iff {r : BranchResult} {v : Option ResultValue} (hr : r = .value v)
    (hfailed : ¬ References.Failed slot c) (h : (resultKind env l slot).result env r) :
    Answerable env l slot c ↔ v.isSome := by
  subst hr
  unfold Answerable
  rw [if_neg hfailed]
  cases hk : resultKind env l slot with
  | skipped =>
    rw [hk] at h
    cases h
  | nothing =>
    rw [hk] at h
    obtain rfl := BranchResult.value.inj h
    exact iff_of_false id (by simp)
  | fresh =>
    rw [hk] at h
    cases hres : env.result with
    | true =>
      unfold ResultKind.result at h
      simp only [hres, if_true] at h
      obtain ⟨w, hw⟩ := h
      obtain rfl := BranchResult.value.inj hw
      exact iff_of_true rfl rfl
    | false =>
      unfold ResultKind.result at h
      simp only [hres, Bool.false_eq_true, if_false] at h
      obtain rfl := BranchResult.value.inj h
      exact iff_of_false (by simp) (by simp)
  | existing =>
    rw [hk] at h
    obtain ⟨w, hw⟩ := h
    obtain rfl := BranchResult.value.inj hw
    exact iff_of_true trivial rfl

/-- Only a skipped CQE has no result at all. -/
theorem not_answerable_of_skip (hfailed : ¬ References.Failed slot c)
    (h : (resultKind env l slot).result env .skip) : ¬ Answerable env l slot c := by
  unfold Answerable
  rw [if_neg hfailed]
  cases hk : resultKind env l slot with
  | skipped => exact id
  | nothing =>
    rw [hk] at h
    cases h
  | fresh =>
    rw [hk] at h
    unfold ResultKind.result at h
    dsimp only at h
    split at h
    · obtain ⟨v, hv⟩ := h
      cases hv
    · cases h
  | existing =>
    rw [hk] at h
    obtain ⟨v, hv⟩ := h
    cases hv

/-- A CQE of a live slot makes one call on the future when it is answerable, and else none. -/
theorem readLive_answer {future : FutureId} (hv : l.registry.Valid)
    (hl : l.registry.liveSlot index = some slot) (hfit : SlotFits l.heap slot)
    (htag : c.userData ≠ wakeupFdTag) (h : readLive env l index slot future c = .ok l1) :
    ∃ answer : Option FutureCall,
      l1.callLog = l.callLog ++ answer.toList.map (fun k => (future, k)) ∧
        (Answerable env l slot c ↔ answer.isSome) := by
  unfold readLive at h
  split at h
  · rename_i hres
    have hfailed : References.Failed slot c := hres
    unfold Answerable
    rw [if_pos hfailed]
    have hlog := (finishCqe_objects h).1
    cases hexc : env.exc with
    | true =>
      rw [hexc] at hlog
      exact ⟨some (.setException (.osError (-c.res))), hlog, iff_of_true rfl rfl⟩
    | false =>
      rw [hexc] at hlog
      exact ⟨none, hlog.trans (List.append_nil _).symm, iff_of_false (by simp) (by simp)⟩
  · rename_i hres
    have hfailed : ¬ References.Failed slot c := hres
    cases he : complete env l index slot c with
    | error e =>
      rw [he] at h
      cases h
    | ok x =>
      obtain ⟨r, l2⟩ := x
      have hkind := (complete_result he).1
      have hcases := complete_completed hv hl hfit he
      rw [he] at h
      cases r with
      | skip =>
        cases h
        refine ⟨none, ?_, iff_of_false ?_ (by simp)⟩
        · rcases hcases with ⟨-, -, -, rfl⟩ | ⟨v, hv, -⟩
          · exact (List.append_nil _).symm
          · cases hv
        · exact not_answerable_of_skip hfailed hkind
      | value v =>
        have hiff := result_isSome_iff rfl hfailed hkind
        rcases hcases with ⟨hr, -⟩ | ⟨w, -, hc⟩
        · cases hr
        cases v with
        | none =>
          refine ⟨none, ?_, hiff⟩
          rw [(finishCqe_objects h).1, hc.callLog]
          exact (List.append_nil _).symm
        | some v =>
          refine ⟨some (.setResult v), ?_, hiff⟩
          rw [(finishCqe_objects h).1]
          show l2.callLog ++ [(future, .setResult v)] = _
          rw [hc.callLog]
          rfl

end Reader

/-! ## One step -/

namespace System

variable {s t : System} {a : Act}

/-- The futures of the accepted requests. -/
def issued (s : System) : Set FutureId := {f | ∃ sub ∈ s.subs, sub.registration.future = f}

def promises (s : System) : Promises FutureId FutureCall := s.loop.promises s.issued

theorem Base.distinct (h : s.Base) : s.loop.registry.Distinct :=
  fun _ _ _ _ _ hi hj hf hf' => h.slot_of_future hi hj hf hf'

theorem promises_same (hsubs : t.subs = s.subs) (hlog : t.loop.callLog = s.loop.callLog)
    (h : ∀ j, t.loop.registry.liveSlot j = s.loop.registry.liveSlot j) :
    t.promises = s.promises := by
  unfold promises issued
  rw [promises_congr hlog h, hsubs]

/-- Every answer that a read has to make can be made. -/
def Attends (s : System) (a : Act) : Prop :=
  match a with
  | .read env => ∀ x, s.nextSlot = some x → Answerable env s.loop x.2 x.1
  | _ => True

instance (s : System) (a : Act) : Decidable (s.Attends a) := by
  apply Act.casesOn (motive := fun a => Decidable (s.Attends a)) a <;> intros <;>
    dsimp only [Attends] <;> infer_instance

/-- An accepted request is a new promise. -/
theorem promises_accepted (h : s.Base) {sub : Submitted} (hsubs : t.subs = sub :: s.subs)
    (hlog : t.loop.callLog = s.loop.callLog)
    (hnew : s.loop.nextFuture ≤ sub.registration.future)
    (hdead : s.loop.registry.liveSlot sub.index = none)
    (hlive : ∀ j, t.loop.registry.liveSlot j =
      if j = sub.index then some (sub.registration.slot sub.index)
      else s.loop.registry.liveSlot j) : Promises.Keeps s.promises t.promises := by
  have hfresh : sub.registration.future ∉ s.issued := by
    rintro ⟨x, hx, he⟩
    exact Nat.not_le_of_lt (h.futures.lt x hx) (he ▸ hnew)
  have hissued : t.issued = insert sub.registration.future s.issued := by
    unfold issued
    rw [hsubs]
    ext f
    simp [eq_comm]
  have hpending : t.loop.registry.pendingFutures =
      insert sub.registration.future s.loop.registry.pendingFutures := by
    ext f
    constructor
    · rintro ⟨j, slot, hj, hf⟩
      rw [hlive] at hj
      split at hj
      · obtain rfl := Option.some.inj hj
        exact .inl (Option.some.inj hf).symm
      · exact .inr ⟨j, slot, hj, hf⟩
    · rintro (rfl | ⟨j, slot, hj, hf⟩)
      · exact ⟨sub.index, _, (hlive _).trans (if_pos rfl), rfl⟩
      · refine ⟨j, slot, (hlive j).trans ?_, hf⟩
        rw [if_neg]
        · exact hj
        · rintro rfl
          rw [hdead] at hj
          cases hj
  have heq : t.promises = s.promises.issue sub.registration.future := by
    unfold promises Loop.promises Promises.issue
    rw [hissued, hpending, hlog]
  rw [heq]
  exact .issue hfresh

/-- A CQE of a live slot: its promise is answered when it can be, and forgotten else. -/
theorem promises_read {env : ReadEnv} {c : Cqe} {cs : List Cqe} {slot : RequestSlot}
    {future : FutureId} {l1 : Loop} (h : s.Base) (hcq : s.loop.ring.cq = c :: cs)
    (hl : s.loop.registry.liveSlot (toInt c.userData) = some slot)
    (hf : slot.future = some future)
    (hr : readLive env s.loop (toInt c.userData) slot future c = .ok l1)
    (hlive : ∀ j, l1.registry.liveSlot j =
      if j = toInt c.userData then none else s.loop.registry.liveSlot j) :
    Promises.Step s.promises (s.consume c l1).promises ∧
      (s.Attends (.read env) → Promises.Keeps s.promises (s.consume c l1).promises) := by
  obtain ⟨answer, hlog, hiff⟩ := readLive_answer (h.registry.sound.valid_of_live hl) hl
    (h.slotFits hl) (ne_wakeupFdTag_of_live hl) hr
  have hremove : Promises.Step (s.loop.promises s.issued) (l1.promises s.issued) ∧ _ :=
    promises_remove h.distinct hl hf hlive hlog
  obtain ⟨hstep, hkeeps⟩ := hremove
  exact ⟨hstep, fun ha => hkeeps (hiff.mp (ha _ (nextSlot_eq_some.mpr ⟨cs, hcq, hl⟩)))⟩

theorem steps_of_keeps {p q : Promises FutureId FutureCall} {P : Prop} (h : p.Keeps q) :
    Promises.Steps p q ∧ (P → Promises.KeepsAll p q) :=
  ⟨.single (.keeps h), fun _ => .single h⟩

/-- A step before the shutdown is at most one step of the protocol. -/
theorem promises_step (h : s.Base) (hs : s.step a = .ok t) (hd : t.down = false) :
    Promises.Steps s.promises t.promises ∧
      (s.Attends a → Promises.KeepsAll s.promises t.promises) := by
  have hsame : t.promises = s.promises → Promises.Steps s.promises t.promises ∧
      (s.Attends a → Promises.KeepsAll s.promises t.promises) := by
    intro he
    rw [he]
    exact ⟨.refl, fun _ => .refl⟩
  obtain ⟨-, hstep⟩ := step_cases h hs
  cases hstep with
  | called _ ho =>
    cases ho with
    | refused hr =>
      obtain ⟨g, rfl, -⟩ := hr
      exact hsame (promises_same rfl rfl fun _ => rfl)
    | full _ _ _ _ => exact hsame (promises_same rfl rfl fun _ => rfl)
    | rejected _ _ _ _ _ _ _ _ hlive _ =>
      refine hsame (promises_same rfl ?_ fun j => ?_)
      · simp only [answer, withLoop, Loop.setClosed_callLog]
        rfl
      · simp only [answer, withLoop, Loop.setClosed_registry]
        exact hlive j
    | accepted _ hp htop _ _ _ _ =>
      obtain ⟨-, -, -, hdead, hlive⟩ := (h.registry.sound.valid_of_room htop).add _ htop
      refine steps_of_keeps (promises_accepted h rfl ?_ (Nat.le_of_eq hp.future.symm)
        (Option.not_isSome_iff_eq_none.mp hdead) fun j => ?_)
      · simp only [answer, withLoop, Loop.setClosed_callLog]
        rfl
      · simp only [answer, withLoop, Loop.setClosed_registry]
        exact hlive j
  | posted _ => exact hsame (promises_same rfl rfl fun _ => rfl)
  | dropped _ _ => exact hsame (promises_same rfl rfl fun _ => rfl)
  | skipped _ _ _ => exact hsame (promises_same rfl rfl fun _ => rfl)
  | handled hcq hl hf hr hh =>
    obtain ⟨hstep, hkeeps⟩ := promises_read h hcq hl hf hr hh.live
    exact ⟨.single hstep, fun ha => .single (hkeeps ha)⟩
  | quiet _ hq => exact hsame (promises_same hq.subs hq.callLog fun j => by rw [hq.registry])
  | shutdown _ _ => exact absurd hd (by simp)

/-! ## The shutdown -/

/-- The end of an iteration: the slot is gone, the others stay. -/
theorem finishCqe_live {l l' : Loop} {index : Int} (h : finishCqe l index = .ok l') (j : Int) :
    l'.registry.liveSlot j = if j = index then none else l.registry.liveSlot j := by
  unfold finishCqe at h
  split at h
  · cases h
  · rename_i registry heap hrem
    cases h
    split
    · rename_i hj
      rw [hj]
      exact RequestRegistry.liveSlot_registryRemove hrem
    · rename_i hj
      exact RequestRegistry.liveSlot_of_remove hrem hj

/-- One iteration of the drain loop: a live slot is answered or forgotten. -/
theorem shutdownCqe_promises {l l' : Loop} {d : Drained} {issued : Set FutureId}
    (hd : l.registry.Distinct) (h : shutdownCqe l d = .ok l') :
    l'.registry.Distinct ∧ Promises.Steps (l.promises issued) (l'.promises issued) := by
  have hsame : l'.callLog = l.callLog → (∀ j, l'.registry.liveSlot j = l.registry.liveSlot j) →
      l'.registry.Distinct ∧ Promises.Steps (l.promises issued) (l'.promises issued) := by
    intro hlog hlive
    rw [promises_congr hlog hlive]
    refine ⟨?_, .refl⟩
    unfold RequestRegistry.Distinct
    simp only [hlive]
    exact hd
  unfold shutdownCqe at h
  split at h
  · cases h
    exact hsame rfl fun _ => rfl
  · split at h
    · cases h
      exact hsame rfl fun _ => rfl
    · rename_i slot hget
      have hlog := (finishCqe_objects h).1
      have hlive := finishCqe_live h
      cases hf : slot.future with
      | none =>
        -- The slot is dead, so that its removal changes no live one.
        simp only [hf] at hlog hlive
        have hdead : l.registry.liveSlot (toInt d.cqe.userData) = none := by
          unfold RequestRegistry.liveSlot
          rw [hget, Option.filter_some, hf]
          rfl
        refine hsame hlog fun j => (hlive j).trans ?_
        split
        · rename_i hj
          rw [hj, hdead]
        · rfl
      | some future =>
        simp only [hf] at hlog hlive
        have hl : l.registry.liveSlot (toInt d.cqe.userData) = some slot :=
          RequestRegistry.liveSlot_eq_some.mpr ⟨hget, by rw [hf]; rfl⟩
        have hremove : ∀ answer : Option FutureCall,
            l'.callLog = l.callLog ++ answer.toList.map (fun k => (future, k)) →
            (∀ j, l'.registry.liveSlot j =
              if j = toInt d.cqe.userData then none else l.registry.liveSlot j) →
            l'.registry.Distinct ∧ Promises.Steps (l.promises issued) (l'.promises issued) :=
          fun answer hlog hlive =>
            ⟨Distinct.remove hd hlive, .single (promises_remove hd hl hf hlive hlog).1⟩
        cases hexc : d.exc with
        | true =>
          simp only [hexc, if_true] at hlog hlive
          exact hremove (some closedCall) hlog hlive
        | false =>
          simp only [hexc, Bool.false_eq_true, if_false] at hlog hlive
          exact hremove none (hlog.trans (List.append_nil _).symm) hlive

/-- The shutdown answers or forgets what is pending. -/
theorem gracefulShutdown_promises {l l' : Loop} {drained : List Drained} {submit : Int}
    {issued : Set FutureId} (hd : l.registry.Distinct)
    (h : gracefulShutdown l drained submit = .ok l') :
    Promises.Steps (l.promises issued) (l'.promises issued) := by
  obtain ⟨m, hrun, rfl⟩ := except_map_ok h
  have hdrain : m.registry.Distinct ∧ Promises.Steps (l.promises issued) (m.promises issued) := by
    refine Lib.Meets.invariant (fun n : Loop => n.registry.Distinct ∧
      Promises.Steps (l.promises issued) (n.promises issued)) (fun n d n' hn _ hs => ?_)
      Lib.meets_true ⟨hd, .refl⟩ hrun
    obtain ⟨hd', hsteps⟩ := shutdownCqe_promises hn.1 hs
    exact ⟨hd', hn.2.trans hsteps⟩
  refine hdrain.2.tail ?_
  have hnone : (shutdownTail m submit).promises issued = (m.promises issued).forget ∅ := by
    have hempty : (shutdownTail m submit).registry.pendingFutures = ∅ := by
      refine Set.eq_empty_of_forall_notMem fun f hm => ?_
      obtain ⟨i, slot, hi, -⟩ := hm
      have hget := (RequestRegistry.liveSlot_eq_some.mp hi).1
      unfold registryGet at hget
      split at hget
      · cases hget
      · cases hget
    unfold Loop.promises Promises.forget
    rw [hempty]
    rfl
  rw [hnone]
  exact .forget (Set.empty_subset _)

/-! ## All runs -/

/-- Every run is one of the protocol. -/
theorem promises_of_run {acts : List Act} (h : s.Base) (hr : s.run acts = .ok t) :
    Promises.Steps s.promises t.promises := by
  have hinv : (t.down = false → t.Base) ∧ Promises.Steps s.promises t.promises := by
    refine Lib.Meets.invariant (fun u => (u.down = false → u.Base) ∧
      Promises.Steps s.promises u.promises) (fun u a v hu _ hs => ?_) Lib.meets_true
      ⟨fun _ => h, .refl⟩ hr
    have hb := hu.1 (down_of_step hs)
    refine ⟨fun hd => hb.step hs hd, hu.2.trans ?_⟩
    obtain ⟨-, hstep⟩ := step_cases hb hs
    cases hd : v.down with
    | false => exact (promises_step hb hs hd).1
    | true =>
      cases hstep with
      | shutdown _ hg => exact gracefulShutdown_promises hb.distinct hg
      | called _ _ => exact absurd ((answer_down u _).symm.trans hd) (by simp [down_of_step hs])
      | posted _ | dropped _ _ | skipped _ _ _ | handled _ _ _ _ _ =>
        exact absurd ((down_of_step hs).symm.trans hd) (by simp)
      | quiet _ hq => exact absurd (hq.down.symm.trans hd) (by simp [down_of_step hs])
  exact hinv.2

theorem length_calls (l : Loop) (issued : Set FutureId) (f : FutureId) :
    (l.calls f).length = ((l.promises issued).answers.filter fun e => e.1 == f).length :=
  List.length_map ..

/-- The promise of a request is pending as long as the request has its slot. -/
theorem Base.pending_iff (h : s.Base) {sub : Submitted} (hm : sub ∈ s.subs) :
    sub.registration.future ∈ s.promises.pending ↔ s.Holds sub := by
  constructor
  · rintro ⟨i, slot, hl, hf⟩
    obtain ⟨x, hx, rfl⟩ := h.registry.holder i slot hl
    obtain ⟨hxm, hxi⟩ := mem_of_holder hx
    obtain rfl := h.futures.eq hxm hm (Option.some.inj hf)
    unfold Holds
    rw [hxi, hl]
  · exact fun hh => ⟨_, _, hh, rfl⟩

variable {registrySize : Nat} {setup : SignalSetup} {wakeupFd submit : Int}

theorem newLoop_promises (h : registrySize < 2 ^ 32) :
    (init (uringioLoopInit registrySize setup wakeupFd submit)).promises = .empty := by
  obtain ⟨-, hlive⟩ := RequestRegistry.registryNew_sound h
  have hissued : (init (uringioLoopInit registrySize setup wakeupFd submit)).issued = ∅ :=
    Set.eq_empty_of_forall_notMem fun f hm => by
      obtain ⟨sub, hs, -⟩ := hm
      cases hs
  have hpending : (registryNew registrySize).pendingFutures = ∅ :=
    Set.eq_empty_of_forall_notMem fun f hm => by
      obtain ⟨i, slot, hl, -⟩ := hm
      rw [hlive] at hl
      cases hl
  unfold promises Loop.promises
  rw [hissued]
  show Promises.mk ∅ (registryNew registrySize).pendingFutures [] = _
  rw [hpending]
  rfl

/-- In every run of a new loop, the shutdown included, the calls on the futures follow the
    protocol of promises: none has two, and one that was called has a request that is accepted
    and has lost its slot. -/
theorem run_promises {acts : List Act} (h : registrySize < 2 ^ 32)
    (hr : (init (uringioLoopInit registrySize setup wakeupFd submit)).run acts = .ok t) :
    Promises.Steps .empty t.promises ∧
      (∀ f, (t.loop.calls f).length ≤ 1) ∧
      ∀ e ∈ t.loop.callLog, ∃ sub ∈ t.subs, sub.registration.future = e.1 ∧ ¬ t.Holds sub := by
  have hsteps := promises_of_run (newLoop_base h) hr
  rw [newLoop_promises h] at hsteps
  have hsound := Promises.sound_empty.steps hsteps
  refine ⟨hsteps, fun f => ?_, fun e he => ?_⟩
  · rw [length_calls t.loop t.issued]
    exact hsound.length_le f
  · obtain ⟨hi, hp⟩ := hsound.answered e he
    obtain ⟨sub, hm, hf⟩ := hi
    exact ⟨sub, hm, hf, fun hh => hp ⟨_, _, hh, congrArg some hf⟩⟩

/-- An open that fails, a `prep_socket` that succeeds and a read that the shutdown drains. -/
def closingRun : List Act :=
  [.call (.open 0 (.ok "f") 0 0 0 none) .ok, .call (.prepSocket 2 1 none) .ok, .post 2 6 0,
    .post 1 (-2) 0, .read .ok, .read .ok, .call (.open 0 (.ok "g") 0 0 0 none) .ok,
    .post 3 7 0, .read .ok, .call (.read 1 0 8 none) .ok, .post 4 8 0,
    .shutdown [⟨⟨3, 8, 0, 4⟩, true⟩] 1]

theorem run_promises_closingRun :
    ∃ t, (init (uringioLoopInit 4 .failed 3 1)).run closingRun = .ok t ∧
      Promises.Steps .empty t.promises ∧ (∀ f, (t.loop.calls f).length ≤ 1) ∧
      ∀ e ∈ t.loop.callLog, ∃ sub ∈ t.subs, sub.registration.future = e.1 ∧ ¬ t.Holds sub := by
  have hrun : ∃ t, (init (uringioLoopInit 4 .failed 3 1)).run closingRun = .ok t := by
    decide +kernel
  obtain ⟨t, ht⟩ := hrun
  exact ⟨t, ht, run_promises (by decide) ht⟩

/-- A step that attends keeps the requests with a slot unfinished. -/
theorem Vacated.step (h : s.Base) (hv : s.Vacated) (ha : s.Attends a) (hs : s.step a = .ok t)
    (hd : t.down = false) : t.Vacated := by
  obtain ⟨-, hstep⟩ := step_cases h hs
  cases hstep with
  | called _ _ => exact Counted.vacated_call h hv hs hd
  | posted _ => exact hv
  | dropped _ _ | skipped _ _ _ | handled _ _ _ _ _ =>
    refine (Counted.vacated_read_iff h hv hs).mpr fun x hx hk => ?_
    obtain ⟨hfailed, hskip, -⟩ := hk
    have hans := ha x hx
    unfold Answerable at hans
    rw [if_neg hfailed] at hans
    have hkind : resultKind _ s.loop x.2 = .skipped := resultKind_of_skipped hskip
    rw [hkind] at hans
    exact hans
  | quiet _ hq => exact Counted.vacated_of_seen hv hq.seen hq.subs fun j => by rw [hq.registry]
  | shutdown _ _ => exact absurd hd (by simp)

/-- Where the reads can make their answers nothing is forgotten, and a finished request has
    lost its slot. -/
theorem attending_of_run {acts : List Act} (h : registrySize < 2 ^ 32)
    (hr : (init (uringioLoopInit registrySize setup wakeupFd submit)).run acts = .ok t)
    (ha : Lib.Meets step Attends (init (uringioLoopInit registrySize setup wakeupFd submit)) acts)
    (hd : t.down = false) : t.Vacated ∧ Promises.KeepsAll .empty t.promises := by
  have hinv : t.down = false →
      t.Base ∧ t.Vacated ∧ Promises.KeepsAll .empty t.promises := by
    refine ha.invariant (fun u => u.down = false →
      u.Base ∧ u.Vacated ∧ Promises.KeepsAll .empty u.promises) (fun u a v hu hatt hs hdv => ?_)
      (fun _ => ?_) hr
    · obtain ⟨hb, hv, hsteps⟩ := hu (down_of_step hs)
      exact ⟨hb.step hs hdv, hv.step hb hatt hs hdv, hsteps.trans ((promises_step hb hs hdv).2 hatt)⟩
    · refine ⟨newLoop_base h, fun sub hm => absurd hm List.not_mem_nil, ?_⟩
      rw [newLoop_promises h]
  exact (hinv hd).2

/-- There a request has its slot exactly as long as its future was not called. -/
theorem Base.calls_eq_nil_iff (h : s.Base) (hk : Promises.KeepsAll .empty s.promises)
    {sub : Submitted} (hm : sub ∈ s.subs) :
    s.loop.calls sub.registration.future = [] ↔ s.Holds sub := by
  have hsound := Promises.sound_empty.steps hk.steps
  rw [← h.pending_iff hm, ← List.length_eq_zero_iff, length_calls s.loop s.issued]
  constructor
  · intro hlen
    by_contra hp
    have hone := hsound.length_of_kept (Promises.kept_empty.keepsAll hk) ⟨sub, hm, rfl⟩ hp
    exact absurd (hlen.symm.trans hone) (by decide)
  · exact hsound.length_of_pending

end System

end Uringio
