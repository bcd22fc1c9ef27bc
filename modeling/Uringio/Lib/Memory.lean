/-
  Memory in which every byte says what was written there last.

  A region is a sequence of addresses, with `none` where a pointer leads nowhere. `write`
  stores one datum after another along a region, and `read` takes what lies along it.
-/
import Mathlib.Data.List.Basic

namespace Uringio.Lib

universe u

/-- The last datum at every address. -/
abbrev Memory (δ : Type u) : Type u := Nat → Option δ

/-- The addresses of consecutive bytes. -/
abbrev Region : Type := List (Option Nat)

namespace Memory

variable {δ : Type u} {m : Memory δ} {data : Nat → δ} {region : Region} {a k : Nat}

def set (m : Memory δ) (a : Nat) (d : δ) : Memory δ := fun b => if b = a then some d else m b

/-- Stores `data k`, `data (k + 1)`, ... along the region. -/
def write (m : Memory δ) (data : Nat → δ) : Nat → Region → Memory δ
  | _, [] => m
  | k, none :: region => m.write data (k + 1) region
  | k, some a :: region => (m.set a (data k)).write data (k + 1) region

def read (m : Memory δ) (region : Region) : List (Option δ) := region.map fun a => a.bind m

theorem set_self : m.set a (data k) a = some (data k) := if_pos rfl

theorem set_of_ne {b : Nat} (h : b ≠ a) : m.set a (data k) b = m b := if_neg h

/-- What is found at an address after a write is old, or a datum that was written there. -/
theorem write_cases (m : Memory δ) (data : Nat → δ) (k : Nat) (region : Region) (a : Nat) :
    m.write data k region a = m a ∨
      ∃ i, region[i]? = some (some a) ∧ m.write data k region a = some (data (k + i)) := by
  induction region generalizing m k with
  | nil => exact .inl rfl
  | cons x region ih =>
    have hnext : ∀ m' : Memory δ,
        (∃ i, region[i]? = some (some a) ∧
          m'.write data (k + 1) region a = some (data (k + 1 + i))) →
        ∃ i, (x :: region)[i]? = some (some a) ∧
          m'.write data (k + 1) region a = some (data (k + i)) := by
      rintro m' ⟨i, hi, hw⟩
      exact ⟨i + 1, by simpa using hi, by rw [hw, Nat.add_assoc, Nat.add_comm 1 i]⟩
    cases x with
    | none => exact (ih m (k + 1)).imp id (hnext m)
    | some b =>
      rcases ih (m.set b (data k)) (k + 1) with hold | hnew
      · by_cases hb : a = b
        · subst hb
          exact .inr ⟨0, rfl, hold.trans set_self⟩
        · exact .inl (hold.trans (set_of_ne hb))
      · exact .inr (hnext _ hnew)

theorem read_congr {m' : Memory δ} (h : ∀ a, some a ∈ region → m a = m' a) :
    m.read region = m'.read region := by
  unfold read
  refine List.map_congr_left fun x hx => ?_
  cases x with
  | none => rfl
  | some a => exact h a hx

theorem write_of_not_mem (m : Memory δ) (data : Nat → δ) (k : Nat) (h : some a ∉ region) :
    m.write data k region a = m a := by
  rcases write_cases m data k region a with hold | ⟨i, hi, -⟩
  · exact hold
  · exact absurd (List.mem_of_getElem? hi) h

/-- What was written along addresses of their own is read back in order. -/
theorem read_write (m : Memory δ) (data : Nat → δ) (k : Nat) (hnone : none ∉ region)
    (hdup : region.Nodup) :
    (m.write data k region).read region =
      (List.range region.length).map fun i => some (data (k + i)) := by
  induction region generalizing m k with
  | nil => rfl
  | cons x region ih =>
    have hne : x ≠ none := fun h => hnone (h ▸ List.mem_cons_self)
    obtain ⟨a, rfl⟩ : ∃ a, x = some a := Option.ne_none_iff_exists'.mp hne
    obtain ⟨hx, hrest⟩ := List.nodup_cons.mp hdup
    have htail := ih (m.set a (data k)) (k + 1) (fun h => hnone (List.mem_cons_of_mem _ h)) hrest
    have hhead : (m.set a (data k)).write data (k + 1) region a = some (data k) :=
      (write_of_not_mem _ data (k + 1) hx).trans set_self
    rw [List.length_cons, List.range_succ_eq_map, List.map_cons, List.map_map]
    show (m.set a (data k)).write data (k + 1) region a ::
      ((m.set a (data k)).write data (k + 1) region).read region = _
    rw [hhead, htail]
    refine congrArg (some (data k) :: ·) (List.map_congr_left fun i _ => ?_)
    show some (data (k + 1 + i)) = some (data (k + (i + 1)))
    rw [Nat.add_assoc, Nat.add_comm 1 i]

theorem read_length : (m.read region).length = region.length := List.length_map ..

end Memory

end Uringio.Lib
