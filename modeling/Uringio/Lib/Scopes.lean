/-
  Scopes that override parts of one value and give it back when they are left.

  The scopes in force are a list, the innermost first. `Nested before after base v fs` says
  that the value is `v` and that every scope was entered where the one around it had left
  the value: what `after` a scope is what `before` the next one was. Leaving the innermost
  scope with its old value keeps that (`Nested.outer`). A part of the value that a scope
  sets or leaves alone is the one of the innermost scope that sets it (`read_overlay`).
-/
import Mathlib.Data.List.Basic

namespace Uringio.Lib

universe u v w

section Scopes

variable {φ : Type u} {ν : Type v} {δ : Type w} {before after : φ → ν} {base v : ν} {f : φ}
  {fs : List φ}

/-- The scopes `fs` lie one inside the other between the values `base` and `v`. -/
inductive Nested (before after : φ → ν) (base : ν) : ν → List φ → Prop
  | nil : Nested before after base base []
  | cons {f : φ} {fs : List φ} (outer : Nested before after base (before f) fs) :
      Nested before after base (after f) (f :: fs)

theorem Nested.outer (h : Nested before after base v (f :: fs)) :
    v = after f ∧ Nested before after base (before f) fs := by
  cases h with
  | cons outer => exact ⟨rfl, outer⟩

theorem Nested.enter (h : Nested before after base v fs) (hb : before f = v) :
    Nested before after base (after f) (f :: fs) := by
  subst hb
  exact .cons h

/-- Outside of every scope the value is the one at the start. -/
theorem Nested.base_eq (h : Nested before after base v []) : v = base := by
  cases h with
  | nil => rfl

/-- The value inside scopes that override parts of it. -/
def overlay (override : φ → ν → ν) (base : ν) (fs : List φ) : ν := fs.foldr override base

@[simp] theorem overlay_nil (override : φ → ν → ν) : overlay override base [] = base := rfl

@[simp] theorem overlay_cons (override : φ → ν → ν) :
    overlay override base (f :: fs) = override f (overlay override base fs) := rfl

/-- A part of the value is what the innermost scope that sets it says, or what it was
    outside. -/
theorem read_overlay {override : φ → ν → ν} {read : ν → δ} {sets : φ → Option δ}
    (hread : ∀ f v, read (override f v) = (sets f).getD (read v)) (base : ν) (fs : List φ) :
    read (overlay override base fs) = (fs.findSome? sets).getD (read base) := by
  induction fs with
  | nil => rfl
  | cons f fs ih =>
    rw [overlay_cons, hread, ih, List.findSome?_cons]
    cases sets f with
    | none => rfl
    | some d => rfl

/-- Nested scopes that all override the value in the same way give the overlay. -/
theorem Nested.value_eq {override : φ → ν → ν} (h : Nested before after base v fs)
    (ho : ∀ f ∈ fs, after f = override f (before f)) : v = overlay override base fs := by
  induction h with
  | nil => rfl
  | cons outer ih =>
    rw [overlay_cons, ho _ List.mem_cons_self, ← ih fun g hg => ho g (List.mem_cons_of_mem _ hg)]

end Scopes

end Uringio.Lib
