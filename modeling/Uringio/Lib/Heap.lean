/-
  Binary heaps in a list, ordered by a key.

  `IsHeap key xs` is the invariant of a heap that lies in an array: no entry has a smaller
  key than its parent. `HeapQ` is a pair of functions with the behaviour that a heap library
  documents: a pop returns the first entry and leaves a heap of the others, a push adds one.
  `popBelow` pops while the first entry lies below a bound; it returns exactly the entries
  below the bound, in nondecreasing order (`popBelow_spec`).
-/
import Mathlib.Data.List.Sort
import Mathlib.Order.Defs.LinearOrder

namespace Uringio.Lib

universe u v

section Heap

variable {α : Type u} {T : Type v} [LinearOrder T] {key : α → T} {x a : α} {xs ys zs : List α}

/-- Every entry but the first has a key at least that of its parent. -/
def IsHeap (key : α → T) (xs : List α) : Prop :=
  ∀ (i : Nat) (x y : α), 0 < i → xs[(i - 1) / 2]? = some x → xs[i]? = some y → key x ≤ key y

theorem isHeap_nil : IsHeap key ([] : List α) := by
  intro i x y _ hx
  simp at hx

/-- The first entry of a heap is a smallest one. -/
theorem IsHeap.head_le (h : IsHeap key (x :: xs)) : ∀ y ∈ x :: xs, key x ≤ key y := by
  have hat : ∀ (i : Nat) (y : α), (x :: xs)[i]? = some y → key x ≤ key y := by
    intro i
    induction i using Nat.strongRecOn with
    | ind i ih =>
      intro y hy
      by_cases hi : i = 0
      · subst hi
        rw [List.getElem?_cons_zero] at hy
        rw [Option.some.inj hy]
      · -- the parent lies before the entry
        have hlt : i < (x :: xs).length := (List.getElem?_eq_some_iff.mp hy).1
        have hp : (i - 1) / 2 < i := by omega
        have hpar := List.getElem?_eq_getElem (l := x :: xs) (Nat.lt_trans hp hlt)
        exact le_trans (ih _ hp _ hpar) (h i _ y (by omega) hpar hy)
  intro y hy
  obtain ⟨i, hi⟩ := List.mem_iff_getElem?.mp hy
  exact hat i y hi

/-- A list in order is a heap. -/
theorem isHeap_of_sorted (h : xs.Pairwise fun a b => key a ≤ key b) : IsHeap key xs := by
  intro i x y hi hx hy
  obtain ⟨hi', rfl⟩ := List.getElem?_eq_some_iff.mp hy
  obtain ⟨hp', rfl⟩ := List.getElem?_eq_some_iff.mp hx
  exact List.pairwise_iff_getElem.mp h _ _ hp' hi' (by omega)

/-- The two operations of a heap library. -/
structure HeapQ (key : α → T) where
  heappop : List α → Option (α × List α)
  heappush : List α → α → List α
  pop_cons : ∀ x xs, IsHeap key (x :: xs) →
    ∃ rest, heappop (x :: xs) = some (x, rest) ∧ rest.Perm xs ∧ IsHeap key rest
  push : ∀ xs a, IsHeap key xs → IsHeap key (heappush xs a) ∧ (heappush xs a).Perm (a :: xs)

theorem pairwise_insertionSort_key (key : α → T) (xs : List α) :
    (xs.insertionSort fun a b => key a ≤ key b).Pairwise fun a b => key a ≤ key b := by
  have : Std.Total fun a b : α => key a ≤ key b := ⟨fun a b => le_total (key a) (key b)⟩
  have : IsTrans α fun a b => key a ≤ key b := ⟨fun _ _ _ h h' => le_trans h h'⟩
  exact List.pairwise_insertionSort _ xs

/-- A heap library that keeps its heaps sorted. -/
def sortedHeapQ (key : α → T) : HeapQ key where
  heappop
    | [] => none
    | x :: xs => some (x, xs.insertionSort fun a b => key a ≤ key b)
  heappush xs a := (a :: xs).insertionSort fun a b => key a ≤ key b
  pop_cons _ xs _ :=
    ⟨_, rfl, List.perm_insertionSort _ xs, isHeap_of_sorted (pairwise_insertionSort_key key xs)⟩
  push xs a _ :=
    ⟨isHeap_of_sorted (pairwise_insertionSort_key key (a :: xs)),
      List.perm_insertionSort _ (a :: xs)⟩

variable (q : HeapQ key)

/-- Pushing several entries. -/
theorem HeapQ.pushes (h : IsHeap key xs) (as : List α) :
    IsHeap key (as.foldl q.heappush xs) ∧ (as.foldl q.heappush xs).Perm (xs ++ as) := by
  induction as generalizing xs with
  | nil => exact ⟨h, by simp⟩
  | cons a as ih =>
    obtain ⟨hheap, hperm⟩ := q.push xs a h
    obtain ⟨hheap', hperm'⟩ := ih hheap
    exact ⟨hheap', hperm'.trans ((hperm.append_right as).trans List.perm_middle.symm)⟩

/-- Pops at most `n` entries, while the first one lies below the bound: the popped entries
    in order, and what is left. -/
def popBelow (bound : T) : Nat → List α → List α × List α
  | 0, xs => ([], xs)
  | _ + 1, [] => ([], [])
  | n + 1, x :: xs =>
    if bound ≤ key x then ([], x :: xs)
    else
      match q.heappop (x :: xs) with
      | none => ([], x :: xs)
      | some (y, rest) => (y :: (popBelow bound n rest).1, (popBelow bound n rest).2)

/-- What popping below a bound gives. -/
structure PoppedBelow (key : α → T) (bound : T) (xs ys zs : List α) : Prop where
  perm : (ys ++ zs).Perm xs
  sorted : ys.Pairwise fun a b => key a ≤ key b
  below : ∀ y ∈ ys, key y < bound
  above : ∀ z ∈ zs, bound ≤ key z
  heap : IsHeap key zs

/-- With a step for every entry, the entries below the bound are popped in order, and no
    other entry is. -/
theorem popBelow_spec (bound : T) {n : Nat} (hn : xs.length ≤ n) (h : IsHeap key xs) :
    PoppedBelow key bound xs (popBelow q bound n xs).1 (popBelow q bound n xs).2 := by
  induction n generalizing xs with
  | zero =>
    obtain rfl := List.eq_nil_of_length_eq_zero (Nat.le_zero.mp hn)
    exact ⟨.refl _, .nil, by simp [popBelow], by simp [popBelow], h⟩
  | succ n ih =>
    cases xs with
    | nil => exact ⟨.refl _, .nil, by simp [popBelow], by simp [popBelow], h⟩
    | cons x xs =>
      by_cases hb : bound ≤ key x
      · have he : popBelow q bound (n + 1) (x :: xs) = ([], x :: xs) := by
          rw [popBelow, if_pos hb]
        rw [he]
        exact ⟨.refl _, .nil, by simp, fun z hz => le_trans hb (h.head_le z hz), h⟩
      · obtain ⟨rest, hpop, hperm, hheap⟩ := q.pop_cons x xs h
        have he : popBelow q bound (n + 1) (x :: xs) =
            (x :: (popBelow q bound n rest).1, (popBelow q bound n rest).2) := by
          rw [popBelow, if_neg hb, hpop]
        have hlen : rest.length ≤ n := by
          rw [hperm.length_eq]
          exact Nat.le_of_succ_le_succ hn
        obtain ⟨hp, hs, hbelow, habove, hz⟩ := ih hlen hheap
        rw [he]
        refine ⟨(hp.cons x).trans (hperm.cons x), ?_, ?_, habove, hz⟩
        · refine List.pairwise_cons.mpr ⟨fun y hy => ?_, hs⟩
          have hmem : y ∈ xs := (hp.trans hperm).subset (List.mem_append_left _ hy)
          exact h.head_le y (List.mem_cons_of_mem _ hmem)
        · intro y hy
          rcases List.mem_cons.mp hy with rfl | hy
          · exact lt_of_not_ge hb
          · exact hbelow y hy

end Heap

end Uringio.Lib
