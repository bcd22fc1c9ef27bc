/-
  Counted references.

  A program counts references to objects: an increment adds one to those that it holds, a
  decrement drops one, and one that is given goes to somebody else. `replay` runs a list of
  such events over the references that are held, and stops at a reference that is not there.
  `Moves a es b` says that the events turn `a` into `b` whatever else is held, so that what two
  programs do with their references can be told apart and put together again.
-/
import Mathlib.Algebra.BigOperators.Group.List.Basic
import Mathlib.Algebra.Order.Group.Multiset

namespace Uringio.Lib

inductive RefEvent (ο : Type) where
  | incref (o : ο)
  | decref (o : ο)
  | give (o : ο)
deriving DecidableEq, Repr

def increfs {ο : Type} (os : List ο) : List (RefEvent ο) := os.map .incref

def decrefs {ο : Type} (os : List ο) : List (RefEvent ο) := os.map .decref

namespace RefEvent

variable {ο : Type} [DecidableEq ο]

/-- What is held after an event; a reference that is not held cannot be dropped. -/
def apply (held : Multiset ο) : RefEvent ο → Option (Multiset ο)
  | .incref o => some (o ::ₘ held)
  | .decref o | .give o => if o ∈ held then some (held.erase o) else none

def replay : Multiset ο → List (RefEvent ο) → Option (Multiset ο)
  | held, [] => some held
  | held, e :: es => (apply held e).bind fun held => replay held es

/-- The events turn `a` into `b` whatever else is held. -/
def Moves (a : Multiset ο) (es : List (RefEvent ο)) (b : Multiset ο) : Prop :=
  ∀ rest, replay (a + rest) es = some (b + rest)

variable {a b c held : Multiset ο} {es fs : List (RefEvent ο)} {o : ο} {os : List ο}

theorem replay_append :
    replay held (es ++ fs) = (replay held es).bind fun held => replay held fs := by
  induction es generalizing held with
  | nil => rfl
  | cons e es ih =>
    show ((apply held e).bind fun held => replay held (es ++ fs)) =
      ((apply held e).bind fun held => replay held es).bind _
    rw [Option.bind_assoc]
    exact congrArg _ (funext fun _ => ih)

namespace Moves

theorem nil : Moves a [] a := fun _ => rfl

theorem append (h : Moves a es b) (h' : Moves b fs c) : Moves a (es ++ fs) c := by
  intro rest
  rw [replay_append, h rest]
  exact h' rest

theorem of_eq {a' b' : Multiset ο} (h : Moves a es b) (ha : a' = a) (hb : b' = b) :
    Moves a' es b' := by
  rw [ha, hb]
  exact h

/-- The frame rule. -/
theorem frame (h : Moves a es b) (c : Multiset ο) : Moves (a + c) es (b + c) := by
  intro rest
  rw [Multiset.add_assoc, h (c + rest), Multiset.add_assoc]

theorem incref : Moves 0 [.incref o] {o} := by
  intro rest
  show some (o ::ₘ (0 + rest)) = some ({o} + rest)
  rw [Multiset.zero_add, Multiset.singleton_add]

theorem drop_held (rest : Multiset ο) :
    (if o ∈ {o} + rest then some (({o} + rest).erase o) else none) = some (0 + rest) := by
  rw [Multiset.singleton_add, if_pos (Multiset.mem_cons_self o rest), Multiset.erase_cons_head,
    Multiset.zero_add]

theorem decref : Moves {o} [.decref o] 0 := fun rest => congrArg (Option.bind · _) (drop_held rest)

theorem give : Moves {o} [.give o] 0 := fun rest => congrArg (Option.bind · _) (drop_held rest)

theorem increfs : Moves 0 (increfs os) ↑os := by
  induction os with
  | nil => exact nil
  | cons o os ih =>
    have hrest : Moves {o} (Lib.increfs os) ↑(o :: os) := by
      have h := ih.frame {o}
      rwa [Multiset.zero_add, Multiset.add_comm, Multiset.singleton_add] at h
    exact incref.append hrest

theorem decrefs : Moves ↑os (decrefs os) 0 := by
  induction os with
  | nil => exact nil
  | cons o os ih =>
    have hfirst : Moves ↑(o :: os) [.decref o] ↑os := by
      have h := (decref (o := o)).frame ↑os
      rwa [Multiset.singleton_add, Multiset.zero_add] at h
    exact hfirst.append ih

end Moves

end RefEvent

/-! ## What a row of owners has -/

section Total

variable {α ο : Type} {owned : α → Multiset ο} {xs : List α} {x y : α} {i : Nat}

def total (owned : α → Multiset ο) (xs : List α) : Multiset ο := (xs.map owned).sum

/-- One owner is replaced. -/
theorem total_set (h : xs[i]? = some x) :
    total owned (xs.set i y) + owned x = total owned xs + owned y := by
  unfold total
  induction xs generalizing i with
  | nil => exact absurd h (by simp)
  | cons z xs ih =>
    cases i with
    | zero =>
      obtain rfl := Option.some.inj h
      simp only [List.set_cons_zero, List.map_cons, List.sum_cons]
      rw [add_right_comm, add_comm (owned y), add_right_comm]
    | succ i =>
      have hi := ih (i := i) h
      simp only [List.set_cons_succ, List.map_cons, List.sum_cons]
      rw [add_assoc, hi, add_assoc]

theorem total_add {owned' : α → Multiset ο} :
    total (fun x => owned x + owned' x) xs = total owned xs + total owned' xs :=
  List.sum_map_add

/-- Owners that agree on what counts have the same. -/
theorem total_congr {β : Type} {g : α → β} {ys : List α} (h : xs.map g = ys.map g)
    (hg : ∀ x y, g x = g y → owned x = owned y) : total owned xs = total owned ys := by
  unfold total
  induction xs generalizing ys with
  | nil =>
    obtain rfl := List.map_eq_nil_iff.mp h.symm
    rfl
  | cons x xs ih =>
    obtain ⟨y, ys, rfl, hy, hys⟩ := List.map_eq_cons_iff.mp h.symm
    rw [List.map_cons, List.map_cons, List.sum_cons, List.sum_cons, hg x y hy.symm, ih hys.symm]

/-- Owners are counted in two parts. -/
theorem total_filter_add (p : α → Bool) :
    total owned (xs.filter p) + total owned (xs.filter fun x => !p x) = total owned xs := by
  unfold total
  induction xs with
  | nil => rfl
  | cons x xs ih =>
    rw [List.map_cons, List.sum_cons, ← ih]
    cases hp : p x with
    | true => simp [hp, add_assoc]
    | false => simp [hp, add_left_comm]

/-- In any order. -/
theorem total_perm {ys : List α} (h : xs.Perm ys) : total owned xs = total owned ys :=
  (h.map owned).sum_eq

theorem total_eq_zero_iff : total owned xs = 0 ↔ ∀ x ∈ xs, owned x = 0 := by
  unfold total
  induction xs with
  | nil => simp
  | cons x xs ih =>
    rw [List.map_cons, List.sum_cons, ← Multiset.card_eq_zero, Multiset.card_add,
      Nat.add_eq_zero_iff, Multiset.card_eq_zero, Multiset.card_eq_zero, ih]
    simp

end Total

end Uringio.Lib
