/-
  A time as seconds and nanoseconds.

  `Represents sec nsec q` says that the two are `q` rounded down to whole nanoseconds, with
  the nanoseconds in range. There is exactly one such pair for every `q` (`represents_iff`).
-/
import Mathlib.Algebra.Order.Floor.Ring
import Mathlib.Algebra.Order.Ring.Rat
import Mathlib.Data.Rat.Floor
import Mathlib.Tactic.Linarith
import Mathlib.Tactic.FieldSimp

namespace Uringio.Lib

section Represents

variable {K : Type} [Field K] [LinearOrder K]

/-- The time lies in the nanosecond that begins there, and the nanoseconds make less than a
    second. -/
structure Represents (sec nsec : Int) (q : K) : Prop where
  nonneg : 0 ≤ nsec
  lt : nsec < 10 ^ 9
  le : (sec : K) + nsec / 10 ^ 9 ≤ q
  next : q < sec + (nsec + 1) / 10 ^ 9

variable [IsStrictOrderedRing K] [FloorRing K]

theorem floor_represents (q : K) : Represents ⌊q⌋ ⌊Int.fract q * 10 ^ 9⌋ q := by
  have hpos : (0 : K) < 10 ^ 9 := by positivity
  have hfract : (⌊q⌋ : K) + Int.fract q = q := Int.floor_add_fract q
  have hlow : (⌊Int.fract q * 10 ^ 9⌋ : K) / 10 ^ 9 ≤ Int.fract q :=
    (div_le_iff₀ hpos).mpr (Int.floor_le _)
  have hhigh : Int.fract q < ((⌊Int.fract q * 10 ^ 9⌋ : K) + 1) / 10 ^ 9 :=
    (lt_div_iff₀ hpos).mpr (Int.lt_floor_add_one _)
  refine ⟨Int.floor_nonneg.mpr (by positivity), Int.floor_lt.mpr ?_, ?_, ?_⟩
  · have hone := mul_lt_mul_of_pos_right (Int.fract_lt_one q) hpos
    rw [one_mul] at hone
    exact_mod_cast hone
  · linarith
  · linarith

/-- The seconds are the whole part, and the nanoseconds what is left. -/
theorem represents_iff {sec nsec : Int} {q : K} :
    Represents sec nsec q ↔ sec = ⌊q⌋ ∧ nsec = ⌊Int.fract q * 10 ^ 9⌋ := by
  constructor
  · intro h
    have hpos : (0 : K) < 10 ^ 9 := by positivity
    have hnonneg : (0 : K) ≤ nsec := by exact_mod_cast h.nonneg
    have hlast : (nsec : K) + 1 ≤ 10 ^ 9 := by exact_mod_cast h.lt
    have hsec : ⌊q⌋ = sec := by
      have hfrac : (0 : K) ≤ nsec / 10 ^ 9 := div_nonneg hnonneg hpos.le
      have hone : ((nsec : K) + 1) / 10 ^ 9 ≤ 1 := (div_le_one hpos).mpr hlast
      have hle := h.le
      have hnext := h.next
      exact Int.floor_eq_iff.mpr ⟨by linarith, by linarith⟩
    have hnsec : ⌊Int.fract q * 10 ^ 9⌋ = nsec := by
      have hle : (nsec : K) / 10 ^ 9 ≤ Int.fract q := by
        have hle := h.le
        rw [Int.fract, hsec]
        linarith
      have hnext : Int.fract q < ((nsec : K) + 1) / 10 ^ 9 := by
        have hnext := h.next
        rw [Int.fract, hsec]
        linarith
      exact Int.floor_eq_iff.mpr ⟨(div_le_iff₀ hpos).mp hle, (lt_div_iff₀ hpos).mp hnext⟩
    exact ⟨hsec.symm, hnsec.symm⟩
  · rintro ⟨rfl, rfl⟩
    exact floor_represents q

/-- Whole seconds represent what is less than a nanosecond after them. -/
theorem floor_zero_represents_iff (q : K) :
    Represents ⌊q⌋ 0 q ↔ Int.fract q < 1 / 10 ^ 9 := by
  have hpos : (0 : K) < 10 ^ 9 := by positivity
  have hnonneg : 0 ≤ Int.fract q * 10 ^ 9 := by positivity
  rw [represents_iff, and_iff_right rfl, eq_comm, Int.floor_eq_zero_iff, Set.mem_Ico,
    lt_div_iff₀ hpos]
  exact and_iff_right hnonneg

end Represents

end Uringio.Lib
