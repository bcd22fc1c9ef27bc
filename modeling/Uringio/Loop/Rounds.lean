/-
  The callbacks over whole runs: iterations of the loop, and between them handles that are
  queued, timers that are scheduled and handles that are cancelled.

  A run is one of the dispatch protocol (`Lib.Dispatch`): the ready queue of asyncio is its
  queue, the heap its waiting timers, and one iteration is a release of the due timers with a
  turn for each handle that is queued by then. asyncio makes a new handle for every
  `call_soon` and `call_at`.
-/
import Uringio.Lib.Dispatch
import Uringio.Lib.Machine
import Uringio.Loop.Scheduling
import Uringio.Types

namespace Uringio

open Lib

/-- The queues of a loop with their history: the handles that had their turn, whether they ran
    or were skipped, the timers that were ever scheduled, and the end times of the iterations. -/
structure Rounds (T : Type) where
  queues : Queues
  turned : List HandleId
  planned : List HandleId
  ends : List T
deriving DecidableEq, Repr

/-- What happens to the queues: the reader or another thread calls `call_soon`, timers are
    scheduled, handles are cancelled, and the loop makes an iteration. -/
inductive RoundAct (T : Type) where
  | callSoon (handles : List HandleId)
  | callAt (handles : List HandleId)
  | cancel (handles : List HandleId)
  | iterate (behave : Behaviour) (loopTime clockRes : T)

namespace Rounds

variable {T : Type}

def empty : Rounds T := ⟨⟨[], [], [], [], []⟩, [], [], []⟩

/-- Every handle so far. -/
def known (s : Rounds T) : List HandleId :=
  s.turned ++ s.queues.ready ++ s.queues.scheduled

/-- The handles are new. -/
def Fresh (s : Rounds T) (handles : List HandleId) : Prop := (s.known ++ handles).Nodup

instance (s : Rounds T) (handles : List HandleId) : Decidable (s.Fresh handles) :=
  inferInstanceAs (Decidable (List.Nodup _))

/-- The queues with other entries. -/
def dispatch (s : Rounds T) : Dispatch HandleId T :=
  ⟨↑s.queues.scheduled, s.queues.ready, s.turned, s.planned, s.ends⟩

variable [LinearOrder T] [Add T] {when : HandleId → T} (q : Lib.HeapQ when)

/-- The turns of an iteration. -/
def turnsIn (behave : Behaviour) (loopTime clockRes : T) (s : Queues) :
    List (HandleId × Queues) :=
  turns q behave (promoteScheduled q loopTime clockRes s).ready
    (promoteScheduled q loopTime clockRes s)

/-- The handles that the callbacks of an iteration make. -/
def made (behave : Behaviour) (ts : List (HandleId × Queues)) : List HandleId :=
  appendedBy behave ts ++ timersOf behave ts

/-- A step; no handle can be made twice. -/
def step (s : Rounds T) : RoundAct T → Except Stop (Rounds T)
  | .callSoon handles =>
    if s.Fresh handles then
      .ok { s with queues := { s.queues with ready := s.queues.ready ++ handles } }
    else .error .stuck
  | .callAt handles =>
    if s.Fresh handles then
      .ok { s with
        queues := { s.queues with scheduled := handles.foldl q.heappush s.queues.scheduled }
        planned := s.planned ++ handles }
    else .error .stuck
  | .cancel handles =>
    .ok { s with queues := { s.queues with cancelled := s.queues.cancelled ++ handles } }
  | .iterate behave loopTime clockRes =>
    let ts := turnsIn q behave loopTime clockRes s.queues
    if s.Fresh (made behave ts) then
      .ok
        { queues := runQueues q behave loopTime clockRes s.queues
          turned := s.turned ++ ts.map Prod.fst
          planned := s.planned ++ timersOf behave ts
          ends := s.ends ++ [loopTime + clockRes] }
    else .error .stuck

abbrev run (s : Rounds T) (acts : List (RoundAct T)) : Except Stop (Rounds T) :=
  Lib.run (step q) s acts

/-! ## One iteration -/

/-- `promote_scheduled` on a heap: the due timers join the ready queue in order. -/
theorem promoteScheduled_popped (loopTime clockRes : T) {s : Queues}
    (hheap : IsHeap when s.scheduled) :
    ∃ due later, PoppedBelow when (loopTime + clockRes) s.scheduled due later ∧
      promoteScheduled q loopTime clockRes s =
        { s with
          scheduled := later, unscheduled := s.unscheduled ++ due, ready := s.ready ++ due } :=
  ⟨_, _, popBelow_spec q (loopTime + clockRes) (Nat.le_refl _) hheap, promoteLoop_eq q _ _ s⟩

theorem iterated (behave : Behaviour) (loopTime clockRes : T) {s : Queues}
    (hheap : IsHeap when s.scheduled) :
    ∃ due later, Iterated behave when (loopTime + clockRes) s due later
      (turnsIn q behave loopTime clockRes s) (runQueues q behave loopTime clockRes s) := by
  obtain ⟨due, later, hpop, hprom⟩ := promoteScheduled_popped q loopTime clockRes hheap
  have hready : (promoteScheduled q loopTime clockRes s).ready = s.ready ++ due := by rw [hprom]
  have hran : (promoteScheduled q loopTime clockRes s).ran = s.ran := by rw [hprom]
  have hleft : (promoteScheduled q loopTime clockRes s).scheduled = later := by rw [hprom]
  have hdrain := @drain_turns T _ when q behave (promoteScheduled q loopTime clockRes s).ready []
    (promoteScheduled q loopTime clockRes s) (by simp) (by rw [hprom]; exact hpop.heap)
  refine ⟨due, later, hpop, ?_, ?_, hdrain.ready.trans (List.nil_append _), ?_, hdrain.heap⟩
  · exact (turns_handles q behave _ _).trans hready
  · refine hdrain.ran.trans ?_
    rw [hran]
    rfl
  · refine hdrain.scheduled.trans ?_
    rw [hleft]
    exact .refl _

variable {q} {s t : Rounds T} {a : RoundAct T} {h : HandleId}

/-! ### Cancelled handles -/

section Cancelled

variable (q) (behave : Behaviour)

omit [Add T] in
theorem cancelled_drainStep (s : Queues) : s.cancelled ⊆ (drainStep q behave s).cancelled := by
  unfold drainStep
  split
  · exact List.Subset.refl _
  · dsimp only
    split
    · exact List.Subset.refl _
    · exact List.subset_append_left _ _

omit [Add T] in
/-- A handle stays cancelled to the end of the iteration. -/
theorem cancelled_turns {todo : List HandleId} {s : Queues} :
    ∀ x ∈ turns q behave todo s, s.cancelled ⊆ x.2.cancelled := by
  induction todo generalizing s with
  | nil => exact fun x hx => absurd hx List.not_mem_nil
  | cons handle rest ih =>
    intro x hx
    rcases List.mem_cons.mp hx with rfl | hx
    · exact List.Subset.refl _
    · exact List.Subset.trans (cancelled_drainStep q behave s) (ih x hx)

omit [Add T] in
theorem cancelled_drain (n : Nat) (s : Queues) :
    s.cancelled ⊆ ((drainStep q behave)^[n] s).cancelled := by
  induction n generalizing s with
  | zero => exact List.Subset.refl _
  | succ n ih =>
    rw [Function.iterate_succ_apply]
    exact List.Subset.trans (cancelled_drainStep q behave s) (ih _)

theorem cancelled_promoteScheduled (loopTime clockRes : T) (s : Queues) :
    (promoteScheduled q loopTime clockRes s).cancelled = s.cancelled := by
  unfold promoteScheduled
  rw [promoteLoop_eq]

end Cancelled

/-! ### What a step does -/

/-- What a step can do. -/
inductive Stepped (when : HandleId → T) (s : Rounds T) : RoundAct T → Rounds T → Prop
  | queued {handles : List HandleId} (fresh : s.Fresh handles) :
      Stepped when s (.callSoon handles)
        { s with queues := { s.queues with ready := s.queues.ready ++ handles } }
  | scheduled {handles heap : List HandleId} (fresh : s.Fresh handles)
      (perm : heap.Perm (s.queues.scheduled ++ handles)) :
      Stepped when s (.callAt handles)
        { s with
          queues := { s.queues with scheduled := heap }, planned := s.planned ++ handles }
  | cancelled {handles : List HandleId} :
      Stepped when s (.cancel handles)
        { s with queues := { s.queues with cancelled := s.queues.cancelled ++ handles } }
  | iterated {behave : Behaviour} {loopTime clockRes : T} {due later : List HandleId}
      {ts : List (HandleId × Queues)} {queues : Queues} (fresh : s.Fresh (made behave ts))
      (hi : Iterated behave when (loopTime + clockRes) s.queues due later ts queues)
      (hturns : ∀ x ∈ ts, s.queues.cancelled ⊆ x.2.cancelled)
      (hkept : s.queues.cancelled ⊆ queues.cancelled) :
      Stepped when s (.iterate behave loopTime clockRes)
        { queues := queues
          turned := s.turned ++ ts.map Prod.fst
          planned := s.planned ++ timersOf behave ts
          ends := s.ends ++ [loopTime + clockRes] }

theorem step_cases (hheap : IsHeap when s.queues.scheduled) (hs : step q s a = .ok t) :
    Stepped when s a t ∧ IsHeap when t.queues.scheduled := by
  cases a with
  | callSoon handles =>
    simp only [step] at hs
    split at hs
    · rename_i hf
      cases hs
      exact ⟨.queued hf, hheap⟩
    · cases hs
  | callAt handles =>
    simp only [step] at hs
    split at hs
    · rename_i hf
      cases hs
      obtain ⟨hheap', hperm⟩ := q.pushes hheap handles
      exact ⟨.scheduled hf hperm, hheap'⟩
    · cases hs
  | cancel handles =>
    cases hs
    exact ⟨.cancelled, hheap⟩
  | iterate behave loopTime clockRes =>
    simp only [step] at hs
    split at hs
    · rename_i hf
      cases hs
      obtain ⟨due, later, hi⟩ := iterated q behave loopTime clockRes hheap
      have hsame := cancelled_promoteScheduled q loopTime clockRes s.queues
      refine ⟨.iterated hf hi (fun x hx => ?_) ?_, hi.heap⟩
      · rw [← hsame]
        exact cancelled_turns q behave x hx
      · rw [← hsame]
        exact cancelled_drain q behave _ _
    · cases hs

/-! ## The protocol -/

omit [LinearOrder T] [Add T] in
theorem handles_dispatch (s : Rounds T) : s.dispatch.handles = ↑s.known := rfl

omit [LinearOrder T] [Add T] in
theorem nodup_of_fresh {handles : List HandleId} (hf : s.Fresh handles) :
    (s.dispatch.handles + ↑handles).Nodup := hf

/-- A step is one of the protocol, or several. -/
theorem Stepped.steps (hs : Stepped when s a t) : Dispatch.Steps when s.dispatch t.dispatch := by
  cases hs with
  | queued hf => exact Dispatch.steps_arrive (nodup_of_fresh hf)
  | @scheduled handles heap hf hperm =>
    have hplan := @Dispatch.steps_plan _ _ _ _ when _ (nodup_of_fresh hf)
    have hwaiting : (↑heap : Multiset HandleId) = ↑s.queues.scheduled + ↑handles := by
      rw [Multiset.coe_add]
      exact Multiset.coe_eq_coe.mpr hperm
    unfold dispatch
    dsimp only
    rw [hwaiting]
    exact hplan
  | cancelled => exact .refl
  | @iterated behave loopTime clockRes due later ts queues hf hi _ _ =>
    have hsplit : (↑s.queues.scheduled : Multiset HandleId) = ↑due + ↑later := by
      rw [Multiset.coe_add]
      exact Multiset.coe_eq_coe.mpr hi.promoted.perm.symm
    have hround := Dispatch.steps_round hsplit hi.promoted.sorted hi.promoted.below
      (fun z hz => hi.promoted.above z (Multiset.mem_coe.mp hz)) (nodup_of_fresh hf)
    have hwaiting : (↑later + ↑(timersOf behave ts) : Multiset HandleId) = ↑queues.scheduled := by
      rw [Multiset.coe_add]
      exact Multiset.coe_eq_coe.mpr hi.scheduled.symm
    have hturned : s.turned ++ ts.map Prod.fst = s.turned ++ (s.queues.ready ++ due) :=
      congrArg (s.turned ++ ·) hi.order
    unfold dispatch at hround ⊢
    dsimp only at hround ⊢
    rw [hturned, hi.ready, ← hwaiting]
    exact hround

/-! ## Runs -/

/-- What holds in every state of every run. -/
structure Inv (when : HandleId → T) (s : Rounds T) : Prop where
  heap : IsHeap when s.queues.scheduled
  sound : s.dispatch.Sound when
  ran : s.queues.ran.Sublist s.turned

omit [Add T] in
theorem inv_empty : (empty : Rounds T).Inv when :=
  ⟨isHeap_nil, Dispatch.sound_empty, List.nil_sublist []⟩

theorem Inv.step (hi : s.Inv when) (hs : step q s a = .ok t) : t.Inv when := by
  obtain ⟨hstep, hheap⟩ := step_cases hi.heap hs
  refine ⟨hheap, hi.sound.steps hstep.steps, ?_⟩
  cases hstep with
  | queued | scheduled | cancelled => exact hi.ran
  | @iterated _ _ _ _ _ ts _ _ hit _ _ =>
    show List.Sublist _ (s.turned ++ ts.map Prod.fst)
    rw [hit.ran]
    exact hi.ran.append (List.filter_sublist.map Prod.fst)

/-- A run is one of the protocol. -/
theorem Inv.run {acts : List (RoundAct T)} (hi : s.Inv when) (hr : s.run q acts = .ok t) :
    t.Inv when ∧ Dispatch.Steps when s.dispatch t.dispatch := by
  refine Meets.invariant (fun u : Rounds T => u.Inv when ∧
    Dispatch.Steps when s.dispatch u.dispatch) (fun u a v hu _ hs => ?_) meets_true ⟨hi, .refl⟩ hr
  exact ⟨hu.1.step hs, hu.2.trans (step_cases hu.1.heap hs).1.steps⟩

/-- Two handles and three timers; the times of the handles are their numbers. -/
def someHandles : List (RoundAct Nat) := [.callSoon [0, 5], .callAt [8, 1, 2]]

/-- Two iterations: in the first one the handle 0 cancels a timer, schedules the handle 9 and
    queues the handle 7. -/
def twoIterations : List (RoundAct Nat) :=
  [.iterate cancelling 3 1, .callSoon [12], .iterate (fun _ _ => ⟨[], [], []⟩) 9 1]

/-- An iteration gives a turn to what is ready and to the timers that are due. -/
def Prompt (when : HandleId → T) (s : Rounds T) (a : RoundAct T) (t : Rounds T) : Prop :=
  match a with
  | .iterate _ loopTime clockRes =>
    ∀ h, h ∈ s.queues.ready ∨ h ∈ s.queues.scheduled ∧ when h < loopTime + clockRes →
      h ∈ t.turned
  | _ => True

theorem Stepped.prompt (hs : Stepped when s a t) : Prompt when s a t := by
  cases hs with
  | queued | scheduled | cancelled => trivial
  | @iterated _ _ _ due later ts _ _ hit _ _ =>
    intro h hh
    refine List.mem_append_right _ ?_
    rw [hit.order]
    rcases hh with hready | ⟨hsched, hlt⟩
    · exact List.mem_append_left _ hready
    · rcases List.mem_append.mp (hit.promoted.perm.symm.subset hsched) with hdue | hlater
      · exact List.mem_append_right _ hdue
      · exact absurd hlt (not_lt_of_ge (hit.promoted.above h hlater))

/-- A handle that was cancelled before it ran does not run. -/
theorem Stepped.idle (hs : Stepped when s a t) (hc : h ∈ s.queues.cancelled)
    (hr : h ∉ s.queues.ran) : h ∈ t.queues.cancelled ∧ h ∉ t.queues.ran := by
  cases hs with
  | queued | scheduled => exact ⟨hc, hr⟩
  | cancelled => exact ⟨List.mem_append_left _ hc, hr⟩
  | @iterated _ _ _ _ _ ts _ _ hit hturns hkept =>
    refine ⟨hkept hc, fun hm => ?_⟩
    rw [hit.ran] at hm
    rcases List.mem_append.mp hm with hm | hm
    · exact hr hm
    · obtain ⟨x, hx, rfl⟩ := List.mem_map.mp hm
      obtain ⟨hx, hruns⟩ := List.mem_filter.mp hx
      exact of_decide_eq_true hruns (hturns x hx hc)

end Rounds

end Uringio
