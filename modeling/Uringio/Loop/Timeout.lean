/-
  The timeout of the wait (`compute_timeout` in `src/python_api/loop/helpers.c`).

  Times are rational numbers; a cast from `double` to `double` is the identity. The
  nanoseconds are computed from the delay less the delay itself, so that the timeout is the
  whole seconds of the delay (`computeTimeout_scheduled`).
-/
import Uringio.Lib.Timespec
import Uringio.Ring.Ring
import Uringio.Loop.Scheduling

namespace Uringio

/-- What `compute_timeout` gets from Python: the length of `_ready`, the length of
    `_scheduled` with the `_when` of its first handle, the truth of `_stopping`, and
    `time()`. Each lookup can fail; a failed length or truth is -1. -/
structure TimeoutLookups where
  ready : Option Int
  scheduled : Option (Int × Option (Option ℚ))
  stopping : Option Int
  time : Option ℚ

/-- `(long)x`. -/
def toLong (x : ℚ) : Int := x.num.tdiv x.den

/-- `delay` cut off at both ends. -/
def clampDelay (delay : ℚ) : ℚ :=
  let delay := if delay < 0 then 0 else delay
  if delay > 86400 then 86400 else delay

def computeTimeout (lookups : TimeoutLookups) : Timespec :=
  match lookups.ready, lookups.scheduled, lookups.stopping with
  | some ready, some (length, first), some stopping =>
    if ready > 0 ∨ stopping ≠ 0 then ⟨0, 0⟩
    else if length > 0 then
      match first with
      | some (some due) =>
        match lookups.time with
        | some loopTime =>
          let delay := clampDelay (due - loopTime)
          ⟨toLong delay, toLong ((delay - delay) * 1e9)⟩
        | none => ⟨0, 0⟩
      | _ => ⟨0, 0⟩
    else ⟨86400, 0⟩
  | _, _, _ => ⟨0, 0⟩

/-- The lookups on a loop. -/
def Queues.lookups (s : Queues) (due : HandleId → ℚ) (stopping : Bool) (time : ℚ) :
    TimeoutLookups :=
  { ready := some s.ready.length
    scheduled := some (s.scheduled.length, s.scheduled.head?.map fun handle => some (due handle))
    stopping := some (if stopping then 1 else 0)
    time := some time }

/-! ## The delay -/

theorem clampDelay_mem (delay : ℚ) : 0 ≤ clampDelay delay ∧ clampDelay delay ≤ 86400 := by
  unfold clampDelay
  dsimp only
  split
  · split
    · norm_num
    · norm_num
  · rename_i h0
    split
    · norm_num
    · rename_i h1
      exact ⟨not_lt.mp h0, not_lt.mp h1⟩

theorem clampDelay_eq (delay : ℚ) : clampDelay delay = min (max delay 0) 86400 := by
  unfold clampDelay
  dsimp only
  split
  · rename_i h0
    rw [max_eq_right h0.le]
    norm_num
  · rename_i h0
    rw [max_eq_left (not_lt.mp h0)]
    split
    · rename_i h1
      rw [min_eq_right h1.le]
    · rename_i h1
      rw [min_eq_left (not_lt.mp h1)]

theorem toLong_of_nonneg {x : ℚ} (h : 0 ≤ x) : toLong x = ⌊x⌋ := by
  unfold toLong
  rw [Int.tdiv_eq_ediv_of_nonneg (Rat.num_nonneg.mpr h), Rat.floor_def']

section ComputeTimeout

variable {s : Queues} {due : HandleId → ℚ} {stopping : Bool} {time : ℚ}

/-- Something is ready, or the loop is stopping. -/
def Queues.Busy (s : Queues) (stopping : Bool) : Prop := s.ready ≠ [] ∨ stopping = true

theorem computeTimeout_busy (h : s.Busy stopping) :
    computeTimeout (s.lookups due stopping time) = ⟨0, 0⟩ := by
  have hcond : (s.ready.length : Int) > 0 ∨ (if stopping then (1 : Int) else 0) ≠ 0 := by
    rcases h with hready | hstop
    · exact .inl (Int.natCast_pos.mpr (List.length_pos_iff.mpr hready))
    · exact .inr (by simp [hstop])
  unfold computeTimeout Queues.lookups
  dsimp only
  rw [if_pos hcond]

theorem not_busy (h : ¬ s.Busy stopping) : s.ready = [] ∧ stopping = false := by
  obtain ⟨hready, hstop⟩ := not_or.mp h
  exact ⟨not_not.mp hready, Bool.eq_false_iff.mpr hstop⟩

theorem computeTimeout_idle (h : ¬ s.Busy stopping) (hs : s.scheduled = []) :
    computeTimeout (s.lookups due stopping time) = ⟨86400, 0⟩ := by
  obtain ⟨hready, rfl⟩ := not_busy h
  unfold computeTimeout Queues.lookups
  rw [hready, hs]
  rfl

/-- The timeout is the whole seconds of the delay. -/
theorem computeTimeout_scheduled {first : HandleId} {rest : List HandleId}
    (h : ¬ s.Busy stopping) (hs : s.scheduled = first :: rest) :
    computeTimeout (s.lookups due stopping time) = ⟨⌊clampDelay (due first - time)⌋, 0⟩ := by
  obtain ⟨hready, rfl⟩ := not_busy h
  have hlen : ((first :: rest).length : Int) > 0 := by simp
  have hnone : ¬ ((([] : List HandleId).length : Int) > 0 ∨
      (if false then (1 : Int) else 0) ≠ 0) := by simp
  unfold computeTimeout Queues.lookups
  rw [hready, hs]
  dsimp only [List.head?_cons, Option.map_some]
  rw [if_neg hnone, if_pos hlen, toLong_of_nonneg (clampDelay_mem _).1, sub_self, zero_mul]
  rfl

/-- The timeout that the loop should wait for: nothing if something is ready or the loop is
    stopping, a day if nothing is scheduled, and otherwise the delay until the first timer,
    to the nanosecond. -/
def Queues.WaitsFor (s : Queues) (due : HandleId → ℚ) (stopping : Bool) (time : ℚ)
    (ts : Timespec) : Prop :=
  (s.Busy stopping → ts = ⟨0, 0⟩) ∧
  (¬ s.Busy stopping → s.scheduled = [] → ts = ⟨86400, 0⟩) ∧
  ∀ first rest, ¬ s.Busy stopping → s.scheduled = first :: rest →
    Lib.Represents ts.tvSec ts.tvNsec (min (max (due first - time) 0) 86400)

/-- While the next timer is a millisecond or more away, the timeout is not zero. -/
theorem Queues.WaitsFor.not_zero {ts : Timespec} {first : HandleId} {rest : List HandleId}
    (h : s.WaitsFor due stopping time ts) (hb : ¬ s.Busy stopping)
    (hs : s.scheduled = first :: rest) (hdue : time + 1 / 1000 ≤ due first) : ts ≠ ⟨0, 0⟩ := by
  rintro rfl
  have hnext := (h.2.2 first rest hb hs).next
  have hdelay : (1 : ℚ) / 1000 ≤ min (max (due first - time) 0) 86400 :=
    le_min (le_max_of_le_left (by linarith)) (by norm_num)
  have hlt := lt_of_le_of_lt hdelay hnext
  norm_num at hlt

/-- `compute_timeout` gives the delay exactly when it has to give no nanoseconds: something
    is ready, the loop is stopping, nothing is scheduled, or the delay is whole seconds up to
    a nanosecond. -/
theorem computeTimeout_waits_iff (s : Queues) (due : HandleId → ℚ) (stopping : Bool) (time : ℚ) :
    s.WaitsFor due stopping time (computeTimeout (s.lookups due stopping time)) ↔
      s.Busy stopping ∨ ∀ first ∈ s.scheduled.head?,
        Int.fract (min (max (due first - time) 0) 86400) < 1 / 10 ^ 9 := by
  by_cases hb : s.Busy stopping
  · refine iff_of_true ⟨fun _ => computeTimeout_busy hb, fun hn => absurd hb hn,
      fun _ _ hn => absurd hb hn⟩ (.inl hb)
  rw [or_iff_right hb]
  cases hs : s.scheduled with
  | nil =>
    refine iff_of_true ⟨fun h => absurd h hb, fun _ _ => computeTimeout_idle hb hs, ?_⟩ (by simp)
    intro first rest _ h
    exact absurd (hs.symm.trans h) (by simp)
  | cons first rest =>
    have hts : computeTimeout (s.lookups due stopping time) =
        ⟨⌊clampDelay (due first - time)⌋, 0⟩ := computeTimeout_scheduled hb hs
    rw [hts, clampDelay_eq, List.head?_cons]
    constructor
    · rintro ⟨-, -, h⟩ first' hfirst
      obtain rfl := Option.mem_some_iff.mp hfirst
      exact (Lib.floor_zero_represents_iff _).mp (h _ _ hb hs)
    · intro h
      refine ⟨fun h => absurd h hb, fun _ hn => absurd (hs.symm.trans hn) (by simp), ?_⟩
      intro first' rest' _ heq
      obtain ⟨rfl, rfl⟩ := List.cons_eq_cons.mp (hs.symm.trans heq)
      exact (Lib.floor_zero_represents_iff _).mpr (h first rfl)

/-- A timer due in half a second: the timeout is zero. -/
theorem computeTimeout_spins :
    ¬ Queues.WaitsFor ⟨[], [7], [], [], []⟩ (fun _ => 1 / 2) false 0
      (computeTimeout (Queues.lookups ⟨[], [7], [], [], []⟩ (fun _ => 1 / 2) false 0)) := by
  have hb : ¬ Queues.Busy ⟨[], [7], [], [], []⟩ false := by simp [Queues.Busy]
  have hts : computeTimeout (Queues.lookups ⟨[], [7], [], [], []⟩ (fun _ => 1 / 2) false 0) =
      ⟨0, 0⟩ := by decide +kernel
  intro h
  exact h.not_zero hb rfl (by norm_num) hts

end ComputeTimeout

end Uringio
