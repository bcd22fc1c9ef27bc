/-
  Index pools kept as an array stack.

  A pool hands out the indices `0 .. n-1` and takes them back. Its free indices are the
  entries `xs[0 .. top]` of an array (`occupied xs top`); taking an index pops the top
  entry, giving one back writes above it (`occupied_pop`, `occupied_push`).

  Two ways to say that no index is lost or doubled:
  * `Complement n free live`: the free indices are, without duplicates, the ones below
    `n` that are not live (`live` is a predicate on indices);
  * `Conserved n free held`: free and held indices together are a rearrangement of
    `0 .. n-1` (`held` is a list, so an index held twice is visible).
-/
import Mathlib.Data.List.Basic
import Mathlib.Data.List.Nodup
import Mathlib.Data.List.Perm.Basic
import Mathlib.Data.List.Perm.Subperm

namespace Uringio.Lib

variable {α : Type}

/-! ## The array stack -/

/-- The entries of the array up to `top`, the last one handed out first. -/
def occupied (xs : List α) (top : Int) : List α := xs.take (top + 1).toNat

theorem length_occupied {xs : List α} {top : Int} (h0 : -1 ≤ top) (h : top < xs.length) :
    ((occupied xs top).length : Int) = top + 1 := by
  unfold occupied
  rw [List.length_take]
  omega

theorem occupied_of_neg {xs : List α} {top : Int} (h : top < 0) : occupied xs top = [] := by
  unfold occupied
  rw [show (top + 1).toNat = 0 by omega, List.take_zero]

/-- Popping hands out the last occupied entry. -/
theorem occupied_pop [Inhabited α] {xs : List α} {top : Int} (h0 : 0 ≤ top)
    (h : top < xs.length) :
    occupied xs top = occupied xs (top - 1) ++ [xs.getD top.toNat default] := by
  have hlt : top.toNat < xs.length := by omega
  unfold occupied
  rw [show (top + 1).toNat = top.toNat + 1 by omega, show (top - 1 + 1).toNat = top.toNat by omega,
    List.take_add_one, List.getD_eq_getElem?_getD, List.getElem?_eq_getElem hlt]
  rfl

/-- Pushing appends to the occupied entries and leaves the ones below as they are. -/
theorem occupied_push {xs : List α} {top : Int} (h0 : -1 ≤ top) (h : top + 1 < xs.length)
    (x : α) :
    occupied (xs.set (top + 1).toNat x) (top + 1) = occupied xs top ++ [x] := by
  have hlt : (top + 1).toNat < xs.length := by omega
  unfold occupied
  rw [show (top + 1 + 1).toNat = (top + 1).toNat + 1 by omega, List.take_add_one,
    List.take_set_of_le (Nat.le_refl _), List.getElem?_set_self hlt]
  rfl

/-- The whole array is occupied when `top` is its last position. -/
theorem occupied_full (xs : List α) : occupied xs ((xs.length : Int) - 1) = xs := by
  unfold occupied
  rw [show ((xs.length : Int) - 1 + 1).toNat = xs.length by omega, List.take_length]

/-! ## Free indices as the complement of the live ones -/

/-- The indices `0 .. n-1`. -/
def indices (n : Nat) : List Int := (List.range n).map Int.ofNat

theorem mem_indices {n : Nat} {i : Int} : i ∈ indices n ↔ 0 ≤ i ∧ i < n := by
  simp only [indices, List.mem_map, List.mem_range, Int.ofNat_eq_natCast]
  constructor
  · rintro ⟨k, hk, rfl⟩
    omega
  · rintro ⟨h0, hlt⟩
    exact ⟨i.toNat, by omega, by omega⟩

theorem nodup_indices (n : Nat) : (indices n).Nodup :=
  List.Nodup.map (fun _ _ => Int.ofNat.inj) List.nodup_range

@[simp] theorem length_indices (n : Nat) : (indices n).length = n := by
  simp [indices]

/-- The free indices are exactly the ones below `n` that are not live, each once. -/
structure Complement (n : Nat) (free : List Int) (live : Int → Prop) : Prop where
  nodup : free.Nodup
  mem : ∀ i, i ∈ free ↔ (0 ≤ i ∧ i < n) ∧ ¬ live i

namespace Complement

variable {n : Nat} {free : List Int} {live live' : Int → Prop} {i : Int}

theorem congr (h : Complement n free live) (hl : ∀ j, live j ↔ live' j) :
    Complement n free live' :=
  ⟨h.nodup, fun j => by rw [h.mem, hl]⟩

/-- The last free index becomes live. -/
theorem take (h : Complement n (free ++ [i]) live) :
    Complement n free fun j => j = i ∨ live j := by
  have hnd := h.nodup
  rw [List.nodup_append] at hnd
  refine ⟨hnd.1, fun j => ?_⟩
  have hj := h.mem j
  simp only [List.mem_append, List.mem_singleton] at hj
  constructor
  · intro hm
    obtain ⟨hb, hl⟩ := hj.mp (Or.inl hm)
    refine ⟨hb, ?_⟩
    rintro (rfl | hl')
    · exact hnd.2.2 j hm j (List.mem_singleton_self j) rfl
    · exact hl hl'
  · rintro ⟨hb, hl⟩
    rcases hj.mpr ⟨hb, fun h' => hl (Or.inr h')⟩ with hm | rfl
    · exact hm
    · exact absurd (Or.inl rfl) hl

theorem take_not_live (h : Complement n (free ++ [i]) live) : (0 ≤ i ∧ i < n) ∧ ¬ live i :=
  (h.mem i).mp (by simp)

/-- A live index becomes free. -/
theorem give (h : Complement n free live) (hb : 0 ≤ i ∧ i < n) (hi : live i) :
    Complement n (free ++ [i]) fun j => j ≠ i ∧ live j := by
  have hni : i ∉ free := fun hm => ((h.mem i).mp hm).2 hi
  refine ⟨?_, fun j => ?_⟩
  · rw [List.nodup_append]
    refine ⟨h.nodup, List.nodup_singleton i, ?_⟩
    intro a ha b hb' hab
    rw [List.mem_singleton] at hb'
    exact hni (hb' ▸ hab ▸ ha)
  · simp only [List.mem_append, List.mem_singleton, h.mem j]
    constructor
    · rintro (⟨hbj, hl⟩ | rfl)
      · exact ⟨hbj, fun h' => hl h'.2⟩
      · exact ⟨hb, fun h' => h'.1 rfl⟩
    · rintro ⟨hbj, hl⟩
      by_cases hji : j = i
      · exact Or.inr hji
      · exact Or.inl ⟨hbj, fun h' => hl ⟨hji, h'⟩⟩

theorem subset_indices (h : Complement n free live) : free ⊆ indices n :=
  fun j hj => mem_indices.mpr ((h.mem j).mp hj).1

theorem length_le (h : Complement n free live) : free.length ≤ n := by
  have := (List.subperm_of_subset h.nodup h.subset_indices).length_le
  rwa [length_indices] at this

/-- As long as one index is live the free indices do not fill the pool. -/
theorem length_lt (h : Complement n free live) (hb : 0 ≤ i ∧ i < n) (hi : live i) :
    free.length < n := by
  have := (h.give hb hi).length_le
  rw [List.length_append] at this
  exact this

/-- Nothing is free exactly when every index is live. -/
theorem eq_nil_iff (h : Complement n free live) :
    free = [] ↔ ∀ j, 0 ≤ j ∧ j < (n : Int) → live j := by
  constructor
  · intro he j hb
    by_contra hl
    have := (h.mem j).mpr ⟨hb, hl⟩
    rw [he] at this
    exact absurd this (List.not_mem_nil)
  · intro hall
    apply List.eq_nil_iff_forall_not_mem.mpr
    intro j hj
    obtain ⟨hb, hl⟩ := (h.mem j).mp hj
    exact hl (hall j hb)

theorem initial (n : Nat) : Complement n (indices n) fun _ => False :=
  ⟨nodup_indices n, fun j => by rw [mem_indices]; simp⟩

end Complement

/-! ## Conservation of a pool whose indices are held by someone -/

/-- Free and held indices together are `0 .. n-1`, each once. -/
def Conserved (n : Nat) (free held : List Int) : Prop :=
  (free ++ held).Perm (indices n)

instance (n : Nat) (free held : List Int) : Decidable (Conserved n free held) :=
  inferInstanceAs (Decidable (List.Perm _ _))

namespace Conserved

variable {n : Nat} {free held : List Int} {i : Int}

theorem initial (n : Nat) : Conserved n (indices n) [] := by
  unfold Conserved
  rw [List.append_nil]

theorem nodup (h : Conserved n free held) : (free ++ held).Nodup :=
  h.nodup_iff.mpr (nodup_indices n)

theorem mem_range (h : Conserved n free held) (hi : i ∈ free ∨ i ∈ held) : 0 ≤ i ∧ i < n :=
  mem_indices.mp (h.mem_iff.mp (List.mem_append.mpr hi))

theorem length (h : Conserved n free held) : free.length + held.length = n := by
  have := h.length_eq
  simpa using this

/-- An index leaves the free ones and is held. -/
theorem take (h : Conserved n (free ++ [i]) held) : Conserved n free (held ++ [i]) := by
  unfold Conserved at h ⊢
  refine List.Perm.trans ?_ h
  rw [List.append_assoc]
  exact List.Perm.append_left free List.perm_append_comm

/-- A held index is given back. -/
theorem give {held' : List Int} (h : Conserved n free held) (hp : held.Perm (i :: held')) :
    Conserved n (free ++ [i]) held' := by
  unfold Conserved at h ⊢
  refine List.Perm.trans ?_ h
  rw [List.append_assoc, List.singleton_append]
  exact List.Perm.append_left free hp.symm

theorem congr {held' : List Int} (h : Conserved n free held) (hp : held.Perm held') :
    Conserved n free held' :=
  (List.Perm.append_left free hp.symm).trans h

end Conserved

/-- The live indices, listed once each, are the held ones. -/
theorem Complement.conserved {n : Nat} {free held : List Int} {live : Int → Prop}
    (h : Complement n free live) (hnd : held.Nodup)
    (hheld : ∀ i, i ∈ held ↔ (0 ≤ i ∧ i < n) ∧ live i) : Conserved n free held := by
  have hdisjoint : (free ++ held).Nodup := by
    refine List.nodup_append.mpr ⟨h.nodup, hnd, fun i hi j hj hij => ?_⟩
    exact ((h.mem i).mp hi).2 ((hheld i).mp (hij ▸ hj)).2
  refine (List.perm_ext_iff_of_nodup hdisjoint (nodup_indices n)).mpr fun i => ?_
  rw [List.mem_append, h.mem, hheld, mem_indices, ← and_or_left]
  exact and_iff_left (Classical.em (live i)).symm

end Uringio.Lib
