/-
  The Python callbacks of one iteration (`promote_scheduled` and `drain_ready` in
  `src/python_api/loop/helpers.c`).

  The queues belong to asyncio's base class: `_ready` is a deque of handles, `_scheduled` a
  heap of timer handles ordered by `_when`, which `heapq` works on (`Lib.HeapQ`). A callback
  can do anything that asyncio offers: append handles, push timers, set `_cancelled`.
  Here nothing raises and no exception is pending; `System/Iteration.lean` adds that.
-/
import Mathlib.Logic.Function.Iterate
import Uringio.Lib.Heap

namespace Uringio

abbrev HandleId := Nat

/-- The handles of a loop. `cancelled` has those with `_cancelled` set, `unscheduled` the
    timer handles with `_scheduled` cleared, and `ran` every call of `_run`, in order. -/
structure Queues where
  ready : List HandleId
  scheduled : List HandleId
  cancelled : List HandleId
  unscheduled : List HandleId
  ran : List HandleId
deriving DecidableEq, Repr

/-- What one callback does to the queues: the handles that it appends, the timers that it
    schedules and the handles that it cancels. -/
structure Effect where
  appended : List HandleId
  timers : List HandleId
  cancels : List HandleId
deriving DecidableEq, Repr

/-- What the callbacks of the handles do, in whatever state they are called. No two calls of
    an iteration find the same `ran`, so every sequence of effects is one of these. -/
abbrev Behaviour : Type := HandleId → Queues → Effect

section Scheduling

variable {T : Type} [LinearOrder T] {when : HandleId → T} (q : Lib.HeapQ when)
  (behave : Behaviour)

/-! ## The two loops -/

/-- The loop of `promote_scheduled`; `n` bounds the number of iterations. -/
def promoteLoop (endTime : T) : Nat → Queues → Queues
  | 0, s => s
  | n + 1, s =>
    match s.scheduled with
    | [] => s
    | handle :: _ =>
      if endTime ≤ when handle then s
      else
        match q.heappop s.scheduled with
        | none => s
        | some (popped, rest) =>
          promoteLoop endTime n { s with
            scheduled := rest, unscheduled := s.unscheduled ++ [popped]
            ready := s.ready ++ [popped] }

/-- `promote_scheduled`; every iteration takes an entry from the heap. -/
def promoteScheduled [Add T] (loopTime clockRes : T) (s : Queues) : Queues :=
  promoteLoop q (loopTime + clockRes) s.scheduled.length s

/-- `handle._run()`. -/
def runHandle (s : Queues) (handle : HandleId) : Queues :=
  let e := behave handle s
  { s with
    ready := s.ready ++ e.appended, scheduled := e.timers.foldl q.heappush s.scheduled
    cancelled := s.cancelled ++ e.cancels, ran := s.ran ++ [handle] }

/-- One iteration of `drain_ready`; where the deque is empty the loop has ended. -/
def drainStep (s : Queues) : Queues :=
  match s.ready with
  | [] => s
  | handle :: rest =>
    let s := { s with ready := rest }
    if handle ∈ s.cancelled then s else runHandle q behave s handle

/-- `drain_ready`: as many iterations as there were handles at the start. -/
def drainReady (s : Queues) : Queues := (drainStep q behave)^[s.ready.length] s

/-- What `UringioLoop_run_once` does after the reader. -/
def runQueues [Add T] (loopTime clockRes : T) (s : Queues) : Queues :=
  drainReady q behave (promoteScheduled q loopTime clockRes s)

/-! ## Promotion -/

/-- The loop moves what it pops to the end of the ready queue. -/
theorem promoteLoop_eq (endTime : T) (n : Nat) (s : Queues) :
    promoteLoop q endTime n s =
      { s with
        scheduled := (Lib.popBelow q endTime n s.scheduled).2
        unscheduled := s.unscheduled ++ (Lib.popBelow q endTime n s.scheduled).1
        ready := s.ready ++ (Lib.popBelow q endTime n s.scheduled).1 } := by
  induction n generalizing s with
  | zero => simp [promoteLoop, Lib.popBelow]
  | succ n ih =>
    obtain ⟨ready, scheduled, cancelled, unscheduled, ran⟩ := s
    cases scheduled with
    | nil => simp [promoteLoop, Lib.popBelow]
    | cons handle rest =>
      unfold promoteLoop Lib.popBelow
      dsimp only
      by_cases hb : endTime ≤ when handle
      · rw [if_pos hb, if_pos hb]
        simp
      · rw [if_neg hb, if_neg hb]
        cases hp : q.heappop (handle :: rest) with
        | none => simp
        | some r =>
          obtain ⟨popped, rest⟩ := r
          dsimp only
          rw [ih]
          simp

/-! ## Draining -/

/-- The turns of the handles: each with the queues that it finds. -/
def turns : List HandleId → Queues → List (HandleId × Queues)
  | [], _ => []
  | handle :: rest, s => (handle, s) :: turns rest (drainStep q behave s)

/-- The handle is not cancelled by the time its turn comes. -/
def runs (turn : HandleId × Queues) : Bool := decide (turn.1 ∉ turn.2.cancelled)

/-- What the callback of a turn does. -/
def effectAt (turn : HandleId × Queues) : Effect :=
  behave turn.1 { turn.2 with ready := turn.2.ready.tail }

theorem turns_handles (todo : List HandleId) (s : Queues) :
    (turns q behave todo s).map Prod.fst = todo := by
  induction todo generalizing s with
  | nil => rfl
  | cons handle rest ih => rw [turns, List.map_cons, ih]

/-- What the first iterations leave: the handles that ran, what they appended behind the
    handles that were queued already, and the heap with their timers. -/
structure DrainedQueues (todo extra : List HandleId) (s s' : Queues) : Prop where
  ran : s'.ran = s.ran ++ ((turns q behave todo s).filter runs).map Prod.fst
  ready : s'.ready = extra ++
    ((turns q behave todo s).filter runs).flatMap fun t => (effectAt behave t).appended
  scheduled : s'.scheduled.Perm (s.scheduled ++
    ((turns q behave todo s).filter runs).flatMap fun t => (effectAt behave t).timers)
  heap : Lib.IsHeap when s'.scheduled

theorem drain_turns {todo : List HandleId} (extra : List HandleId) {s : Queues}
    (hready : s.ready = todo ++ extra) (hheap : Lib.IsHeap when s.scheduled) :
    DrainedQueues q behave todo extra s ((drainStep q behave)^[todo.length] s) := by
  induction todo generalizing s extra with
  | nil => exact ⟨by simp [turns], by simpa [turns] using hready, by simp [turns], hheap⟩
  | cons handle rest ih =>
    rw [List.length_cons, Function.iterate_succ_apply]
    have htail : s.ready.tail = rest ++ extra := by rw [hready]; rfl
    by_cases hc : handle ∈ s.cancelled
    · -- the turn is skipped
      have hstep : drainStep q behave s = { s with ready := rest ++ extra } := by
        unfold drainStep
        rw [hready]
        exact if_pos hc
      have hskip : runs (handle, s) = false := by simp [runs, hc]
      obtain ⟨h1, h2, h3, h4⟩ := ih extra (s := drainStep q behave s)
        (by rw [hstep]) (by rw [hstep]; exact hheap)
      constructor
      case ran =>
        rw [h1, turns, List.filter_cons_of_neg (by simp [hskip]), hstep]
      case ready => rw [h2, turns, List.filter_cons_of_neg (by simp [hskip])]
      case scheduled =>
        rw [turns, List.filter_cons_of_neg (by simp [hskip])]
        refine h3.trans ?_
        rw [hstep]
      case heap => exact h4
    · -- the callback runs, with its handle taken from the queue
      have hrun : runs (handle, s) = true := by simp [runs, hc]
      have heff : effectAt behave (handle, s) = behave handle { s with ready := rest ++ extra } := by
        unfold effectAt
        dsimp only
        rw [htail]
      have hstep : drainStep q behave s =
          { s with
            ready := rest ++ (extra ++ (effectAt behave (handle, s)).appended)
            scheduled := (effectAt behave (handle, s)).timers.foldl q.heappush s.scheduled
            cancelled := s.cancelled ++ (effectAt behave (handle, s)).cancels
            ran := s.ran ++ [handle] } := by
        rw [heff]
        unfold drainStep
        rw [hready]
        dsimp only [List.cons_append]
        rw [if_neg hc]
        simp only [runHandle, List.append_assoc]
      obtain ⟨hpheap, hperm⟩ := q.pushes hheap (effectAt behave (handle, s)).timers
      obtain ⟨h1, h2, h3, h4⟩ := ih
        (extra ++ (effectAt behave (handle, s)).appended) (s := drainStep q behave s)
        (by rw [hstep]) (by rw [hstep]; exact hpheap)
      constructor
      case ran =>
        rw [h1, turns, List.filter_cons_of_pos hrun, List.map_cons, hstep]
        simp
      case ready =>
        rw [h2, turns, List.filter_cons_of_pos hrun, List.flatMap_cons, List.append_assoc]
      case scheduled =>
        rw [turns, List.filter_cons_of_pos hrun, List.flatMap_cons, ← List.append_assoc]
        refine h3.trans (List.Perm.append_right _ ?_)
        rw [hstep]
        exact hperm
      case heap => exact h4

/-! ## One iteration -/

/-- The handles of the turns that were not skipped. -/
def executed (ts : List (HandleId × Queues)) : List HandleId := (ts.filter runs).map Prod.fst

/-- The handles of the turns that were skipped. -/
def skipped (ts : List (HandleId × Queues)) : List HandleId :=
  (ts.filter fun t => !runs t).map Prod.fst

/-- What the callbacks of the turns append to the ready queue. -/
def appendedBy (ts : List (HandleId × Queues)) : List HandleId :=
  (ts.filter runs).flatMap fun t => (effectAt behave t).appended

/-- The timers that the callbacks of the turns schedule. -/
def timersOf (ts : List (HandleId × Queues)) : List HandleId :=
  (ts.filter runs).flatMap fun t => (effectAt behave t).timers

theorem executed_skipped (ts : List (HandleId × Queues)) :
    (executed ts ++ skipped ts).Perm (ts.map Prod.fst) := by
  unfold executed skipped
  rw [← List.map_append]
  exact (List.filter_append_perm runs ts).map Prod.fst

/-- One iteration from `s` to `s'` with the turns `ts`: `due` are the scheduled handles below
    the bound, in order, and `later` the others. -/
structure Iterated (when : HandleId → T) (endTime : T) (s : Queues) (due later : List HandleId)
    (ts : List (HandleId × Queues)) (s' : Queues) : Prop where
  promoted : Lib.PoppedBelow when endTime s.scheduled due later
  order : ts.map Prod.fst = s.ready ++ due
  ran : s'.ran = s.ran ++ executed ts
  ready : s'.ready = appendedBy behave ts
  scheduled : s'.scheduled.Perm (later ++ timersOf behave ts)
  heap : Lib.IsHeap when s'.scheduled

namespace Iterated

variable {behave} {endTime : T} {s s' : Queues} {due later : List HandleId}
  {ts : List (HandleId × Queues)} (h : Iterated behave when endTime s due later ts s')

include h

/-- The handles run in the order of the ready queue and then of their times. -/
theorem executed_sublist : (executed ts).Sublist (s.ready ++ due) := by
  rw [← h.order]
  exact List.filter_sublist.map Prod.fst

/-- A handle that is queued once runs at most once. -/
theorem executed_nodup (hn : (s.ready ++ s.scheduled).Nodup) : (executed ts).Nodup := by
  have hn' : (s.ready ++ (due ++ later)).Nodup :=
    (h.promoted.perm.append_left s.ready).nodup_iff.mpr hn
  refine hn'.sublist (h.executed_sublist.trans ?_)
  exact (List.sublist_append_left due later).append_left s.ready

/-- A timer at or past the bound stays in the heap. -/
theorem later_stays {z : HandleId} (hz : z ∈ s.scheduled) (hb : endTime ≤ when z) :
    z ∈ s'.scheduled := by
  rcases List.mem_append.mp (h.promoted.perm.symm.subset hz) with hd | hl
  · exact absurd hb (not_le_of_gt (h.promoted.below z hd))
  · exact h.scheduled.symm.subset (List.mem_append_left _ hl)

/-- A timer at or past the bound does not run. -/
theorem later_waits {z : HandleId} (hz : z ∉ s.ready) (hb : endTime ≤ when z) :
    z ∉ executed ts := by
  intro hx
  rcases List.mem_append.mp (h.executed_sublist.subset hx) with hr | hd
  · exact hz hr
  · exact absurd hb (not_le_of_gt (h.promoted.below z hd))

/-- Every handle that was queued, scheduled or added is executed, skipped, queued or
    scheduled, as often as it was there. -/
theorem conserved :
    (s.ready ++ s.scheduled ++ (appendedBy behave ts ++ timersOf behave ts)).Perm
      (executed ts ++ skipped ts ++ (s'.ready ++ s'.scheduled)) := by
  have hdone : (executed ts ++ skipped ts).Perm (s.ready ++ due) := by
    rw [← h.order]
    exact executed_skipped ts
  have hold : (s.ready ++ s.scheduled).Perm (s.ready ++ due ++ later) := by
    rw [List.append_assoc]
    exact h.promoted.perm.symm.append_left s.ready
  have hnew : (later ++ (appendedBy behave ts ++ timersOf behave ts)).Perm
      (s'.ready ++ s'.scheduled) := by
    rw [h.ready]
    refine List.Perm.trans ?_ (h.scheduled.symm.append_left _)
    rw [← List.append_assoc, ← List.append_assoc]
    exact List.perm_append_comm.append_right _
  refine (hold.append_right _).trans ?_
  rw [List.append_assoc]
  exact hdone.symm.append hnew

end Iterated

/-- The handles of one iteration with the queues that each finds when its turn comes. -/
def turnsOf [Add T] (loopTime clockRes : T) (due : List HandleId) (s : Queues) :
    List (HandleId × Queues) :=
  turns q behave (s.ready ++ due) (promoteScheduled q loopTime clockRes s)

theorem runQueues_iterated [Add T] (loopTime clockRes : T) {s : Queues}
    (hheap : Lib.IsHeap when s.scheduled) :
    ∃ due later, Iterated behave when (loopTime + clockRes) s due later
      (turnsOf q behave loopTime clockRes due s) (runQueues q behave loopTime clockRes s) := by
  have hpop := Lib.popBelow_spec q (loopTime + clockRes) (Nat.le_refl s.scheduled.length) hheap
  have hprom : promoteScheduled q loopTime clockRes s = _ := promoteLoop_eq q _ _ s
  generalize Lib.popBelow q (loopTime + clockRes) s.scheduled.length s.scheduled = popped
    at hpop hprom
  obtain ⟨due, later⟩ := popped
  dsimp only at hpop hprom
  have hdrain := @drain_turns T _ when q behave (s.ready ++ due) []
    (promoteScheduled q loopTime clockRes s) (by rw [hprom]; simp)
    (by rw [hprom]; exact hpop.heap)
  have hlen : (promoteScheduled q loopTime clockRes s).ready.length =
      (s.ready ++ due).length := by rw [hprom]
  have hran : (promoteScheduled q loopTime clockRes s).ran = s.ran := by rw [hprom]
  have hleft : (promoteScheduled q loopTime clockRes s).scheduled = later := by rw [hprom]
  rw [← hlen] at hdrain
  refine ⟨due, later, ?_⟩
  constructor
  case promoted => exact hpop
  case order => exact turns_handles q behave _ _
  case ran =>
    refine hdrain.ran.trans ?_
    rw [hran]
    rfl
  case ready => exact hdrain.ready.trans (List.nil_append _)
  case scheduled =>
    refine hdrain.scheduled.trans ?_
    rw [hleft]
    exact .refl _
  case heap => exact hdrain.heap

end Scheduling

/-- A ready handle that cancels a due timer and appends another handle. -/
def cancelling : Behaviour := fun handle _ =>
  if handle = 0 then ⟨[7], [9], [2]⟩ else ⟨[], [], []⟩

end Uringio
