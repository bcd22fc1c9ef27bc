/-
  Programs over a state that can stop, fail or return, and their triples.

  `Program σ ε η α` reads and writes a state `σ`. It stops with an `ε` (nothing runs after
  that and there is no state left), fails with an `η` (the caller sees the failure and the
  state), or returns an `α`. `Triple P m Q E` is partial correctness: from a state that
  satisfies `P`, a return satisfies `Q` and a failure satisfies `E`; there is one rule for
  each way to build a program. `Ends` says also how a program may stop. `Keeps P m` is the
  triple with `P` everywhere. `Commutes u m` is a frame condition: the program does not depend
  on what `u` changes.
-/
import Mathlib.Data.List.Basic

namespace Uringio.Lib

/-- A program over the state `σ`. -/
def Program (σ ε η α : Type) : Type := σ → Except ε (Except η α × σ)

namespace Program

variable {σ ε η α β : Type}

/-- Returns a value and leaves the state. -/
def ret (a : α) : Program σ ε η α := fun s => .ok (.ok a, s)

/-- Runs `m` and goes on with what it returns. -/
def seq (m : Program σ ε η α) (f : α → Program σ ε η β) : Program σ ε η β := fun s =>
  match m s with
  | .error e => .error e
  | .ok (.error x, t) => .ok (.error x, t)
  | .ok (.ok a, t) => f a t

instance : Monad (Program σ ε η) where
  pure := ret
  bind := seq

def fail (x : η) : Program σ ε η α := fun s => .ok (.error x, s)

def stop (e : ε) : Program σ ε η α := fun _ => .error e

/-- A value read from the state. -/
def look (f : σ → α) : Program σ ε η α := fun s => .ok (.ok (f s), s)

/-- A change of the state that returns a value. -/
def change (f : σ → α × σ) : Program σ ε η α := fun s => .ok (.ok (f s).1, (f s).2)

/-- Fails with the value given, if there is one. -/
def check : Option η → Program σ ε η Unit
  | some x => fail x
  | none => ret ()

/-- Runs `m` and goes on, whether it returns or fails. -/
def attempt {η' : Type} (m : Program σ ε η α) : Program σ ε η' (Option α) := fun s =>
  match m s with
  | .error e => .error e
  | .ok (.error _, t) => .ok (.ok none, t)
  | .ok (.ok a, t) => .ok (.ok (some a), t)

/-- Runs `m` and changes what it fails with. -/
def mapFail {η' : Type} (g : η → η') (m : Program σ ε η α) : Program σ ε η' α := fun s =>
  match m s with
  | .error e => .error e
  | .ok (.error x, t) => .ok (.error (g x), t)
  | .ok (.ok a, t) => .ok (.ok a, t)

section Run

variable {m : Program σ ε η α} {f : α → Program σ ε η β} {s t : σ}

theorem bind_returned {a : α} (h : m s = .ok (.ok a, t)) : (m >>= f) s = f a t := by
  show seq m f s = _
  unfold seq
  rw [h]

theorem bind_failed {x : η} (h : m s = .ok (.error x, t)) : (m >>= f) s = .ok (.error x, t) := by
  show seq m f s = _
  unfold seq
  rw [h]

theorem bind_stopped {e : ε} (h : m s = .error e) : (m >>= f) s = .error e := by
  show seq m f s = _
  unfold seq
  rw [h]

theorem attempt_returned {η' : Type} {a : α} (h : m s = .ok (.ok a, t)) :
    (attempt m : Program σ ε η' _) s = .ok (.ok (some a), t) := by
  unfold attempt
  rw [h]

theorem attempt_failed {η' : Type} {x : η} (h : m s = .ok (.error x, t)) :
    (attempt m : Program σ ε η' _) s = .ok (.ok none, t) := by
  unfold attempt
  rw [h]

theorem mapFail_returned {η' : Type} {a : α} (g : η → η') (h : m s = .ok (.ok a, t)) :
    mapFail g m s = .ok (.ok a, t) := by
  unfold mapFail
  rw [h]

theorem mapFail_failed {η' : Type} {x : η} (g : η → η') (h : m s = .ok (.error x, t)) :
    mapFail g m s = .ok (.error (g x), t) := by
  unfold mapFail
  rw [h]

end Run

/-- How a program in two parts ends: the first part fails, or both run. -/
theorem bind_eq_ok {m : Program σ ε η α} {f : α → Program σ ε η β} {s : σ}
    {r : Except η β × σ} (h : (m >>= f) s = .ok r) :
    (∃ x t, m s = .ok (.error x, t) ∧ r = (.error x, t)) ∨
      ∃ a t, m s = .ok (.ok a, t) ∧ f a t = .ok r := by
  change seq m f s = .ok r at h
  unfold seq at h
  cases he : m s with
  | error e =>
    rw [he] at h
    exact absurd h (by simp)
  | ok r' =>
    obtain ⟨r', t⟩ := r'
    rw [he] at h
    cases r' with
    | error x => exact Or.inl ⟨x, t, rfl, (Except.ok.inj h).symm⟩
    | ok a => exact Or.inr ⟨a, t, rfl, h⟩

/-- From this state the program returns. -/
def Passes (m : Program σ ε η α) (s : σ) : Prop := ∃ a t, m s = .ok (.ok a, t)

/-- From this state the program fails. -/
def Rejects (m : Program σ ε η α) (s : σ) : Prop := ∃ x t, m s = .ok (.error x, t)

theorem Rejects.not_passes {m : Program σ ε η α} {s : σ} (h : m.Rejects s) : ¬ m.Passes s := by
  obtain ⟨x, t, hx⟩ := h
  rintro ⟨a, t', ha⟩
  exact absurd (hx.symm.trans ha) (by simp)

/-- From `P`, a return of `m` satisfies `Q` and a failure satisfies `E`. -/
def Triple (P : σ → Prop) (m : Program σ ε η α) (Q : α → σ → Prop) (E : η → σ → Prop) : Prop :=
  ∀ s, P s → match m s with
    | .error _ => True
    | .ok (.ok a, t) => Q a t
    | .ok (.error x, t) => E x t

variable {P P' : σ → Prop} {m : Program σ ε η α} {Q Q' : α → σ → Prop} {E E' : η → σ → Prop}

theorem Triple.pure {a : α} (h : ∀ s, P s → Q a s) :
    Triple P (Pure.pure a : Program σ ε η α) Q E :=
  fun s hs => h s hs

theorem Triple.bind {f : α → Program σ ε η β} {R : β → σ → Prop} (hm : Triple P m Q E)
    (hf : ∀ a, Triple (Q a) (f a) R E) : Triple P (m >>= f) R E := by
  intro s hs
  have h := hm s hs
  change match seq m f s with
    | .error _ => True
    | .ok (.ok a, t) => R a t
    | .ok (.error x, t) => E x t
  unfold seq
  cases he : m s with
  | error e => trivial
  | ok r =>
    obtain ⟨r, t⟩ := r
    rw [he] at h
    cases r with
    | error x => exact h
    | ok a => exact hf a t h

theorem Triple.fail {x : η} (h : ∀ s, P s → E x s) :
    Triple P (Program.fail x : Program σ ε η α) Q E :=
  fun s hs => h s hs

theorem Triple.stop {e : ε} : Triple P (Program.stop e : Program σ ε η α) Q E :=
  fun _ _ => trivial

theorem Triple.look {f : σ → α} (h : ∀ s, P s → Q (f s) s) :
    Triple P (Program.look f : Program σ ε η α) Q E :=
  fun s hs => h s hs

theorem Triple.change {f : σ → α × σ} (h : ∀ s, P s → Q (f s).1 (f s).2) :
    Triple P (Program.change f : Program σ ε η α) Q E :=
  fun s hs => h s hs

/-- A check that fails leaves the state, and one that passes leaves it too. -/
theorem Triple.check {x : Option η} {R : Unit → σ → Prop}
    (he : ∀ e s, x = some e → P s → E e s) (h : ∀ s, x = none → P s → R () s) :
    Triple P (Program.check x : Program σ ε η Unit) R E := by
  cases x with
  | none => exact fun s hs => h s rfl hs
  | some e => exact fun s hs => he e s rfl hs

/-- A fact that does not depend on the state is assumed for the rest of the program. -/
theorem Triple.given {φ : Prop} (h : φ → Triple P m Q E) : Triple (fun s => P s ∧ φ) m Q E :=
  fun s hs => h hs.2 s hs.1

/-- Nothing is said of how the program ends. -/
theorem Triple.top {m : Program σ ε η α} : Triple P m (fun _ _ => True) (fun _ _ => True) := by
  intro s _
  split
  · trivial
  · trivial
  · trivial

theorem Triple.conseq (h : Triple P m Q E) (hp : ∀ s, P' s → P s) (hq : ∀ a s, Q a s → Q' a s)
    (he : ∀ x s, E x s → E' x s) : Triple P' m Q' E' := by
  intro s hs
  have hm := h s (hp s hs)
  cases hr : m s with
  | error e => trivial
  | ok r =>
    obtain ⟨r, t⟩ := r
    rw [hr] at hm
    cases r with
    | error x => exact he x t hm
    | ok a => exact hq a t hm

/-- A triple read back at one run. -/
theorem Triple.returned (h : Triple P m Q E) {s t : σ} {a : α} (hs : P s)
    (hr : m s = .ok (.ok a, t)) : Q a t := by
  have hm := h s hs
  rwa [hr] at hm

theorem Triple.failed (h : Triple P m Q E) {s t : σ} {x : η} (hs : P s)
    (hr : m s = .ok (.error x, t)) : E x t := by
  have hm := h s hs
  rwa [hr] at hm

/-- A triple that says also how the program may stop. -/
def Ends (S : ε → Prop) (P : σ → Prop) (m : Program σ ε η α) (Q : α → σ → Prop)
    (E : η → σ → Prop) : Prop :=
  ∀ s, P s → match m s with
    | .error e => S e
    | .ok (.ok a, t) => Q a t
    | .ok (.error x, t) => E x t

section Ends

variable {S : ε → Prop}

theorem Ends.pure {a : α} (h : ∀ s, P s → Q a s) :
    Ends S P (Pure.pure a : Program σ ε η α) Q E :=
  fun s hs => h s hs

theorem Ends.bind {f : α → Program σ ε η β} {R : β → σ → Prop} (hm : Ends S P m Q E)
    (hf : ∀ a, Ends S (Q a) (f a) R E) : Ends S P (m >>= f) R E := by
  intro s hs
  have h := hm s hs
  change match seq m f s with
    | .error e => S e
    | .ok (.ok a, t) => R a t
    | .ok (.error x, t) => E x t
  unfold seq
  cases he : m s with
  | error e =>
    rw [he] at h
    exact h
  | ok r =>
    obtain ⟨r, t⟩ := r
    rw [he] at h
    cases r with
    | error x => exact h
    | ok a => exact hf a t h

theorem Ends.fail {x : η} (h : ∀ s, P s → E x s) :
    Ends S P (Program.fail x : Program σ ε η α) Q E :=
  fun s hs => h s hs

theorem Ends.stop {e : ε} (h : S e) : Ends S P (Program.stop e : Program σ ε η α) Q E :=
  fun _ _ => h

theorem Ends.look {f : σ → α} (h : ∀ s, P s → Q (f s) s) :
    Ends S P (Program.look f : Program σ ε η α) Q E :=
  fun s hs => h s hs

theorem Ends.change {f : σ → α × σ} (h : ∀ s, P s → Q (f s).1 (f s).2) :
    Ends S P (Program.change f : Program σ ε η α) Q E :=
  fun s hs => h s hs

theorem Ends.check {x : Option η} {R : Unit → σ → Prop}
    (he : ∀ e s, x = some e → P s → E e s) (h : ∀ s, x = none → P s → R () s) :
    Ends S P (Program.check x : Program σ ε η Unit) R E := by
  cases x with
  | none => exact fun s hs => h s rfl hs
  | some e => exact fun s hs => he e s rfl hs

/-- A fact that does not depend on the state is assumed for the rest of the program. -/
theorem Ends.given {φ : Prop} (h : φ → Ends S P m Q E) : Ends S (fun s => P s ∧ φ) m Q E :=
  fun s hs => h hs.2 s hs.1

theorem Ends.conseq (h : Ends S P m Q E) (hp : ∀ s, P' s → P s) (hq : ∀ a s, Q a s → Q' a s)
    (he : ∀ x s, E x s → E' x s) : Ends S P' m Q' E' := by
  intro s hs
  have hm := h s (hp s hs)
  cases hr : m s with
  | error e =>
    rw [hr] at hm
    exact hm
  | ok r =>
    obtain ⟨r, t⟩ := r
    rw [hr] at hm
    cases r with
    | error x => exact he x t hm
    | ok a => exact hq a t hm

/-- `Ends` read back at one run. -/
theorem Ends.stopped (h : Ends S P m Q E) {s : σ} {e : ε} (hs : P s) (hr : m s = .error e) :
    S e := by
  have hm := h s hs
  rwa [hr] at hm

theorem Ends.returned (h : Ends S P m Q E) {s t : σ} {a : α} (hs : P s)
    (hr : m s = .ok (.ok a, t)) : Q a t := by
  have hm := h s hs
  rwa [hr] at hm

theorem Ends.failed (h : Ends S P m Q E) {s t : σ} {x : η} (hs : P s)
    (hr : m s = .ok (.error x, t)) : E x t := by
  have hm := h s hs
  rwa [hr] at hm

end Ends

/-- The program keeps what holds of the state, also where it fails. -/
def Keeps (P : σ → Prop) (m : Program σ ε η α) : Prop :=
  Triple P m (fun _ s => P s) (fun _ s => P s)

section Keeps

theorem Keeps.bind {f : α → Program σ ε η β} (hm : Keeps P m) (hf : ∀ a, Keeps P (f a)) :
    Keeps P (m >>= f) :=
  Triple.bind hm hf

theorem Keeps.pure (a : α) : Keeps P (Pure.pure a : Program σ ε η α) := fun _ hs => hs

theorem Keeps.ret (a : α) : Keeps P (Program.ret a : Program σ ε η α) := fun _ hs => hs

theorem Keeps.fail (x : η) : Keeps P (Program.fail x : Program σ ε η α) := fun _ hs => hs

theorem Keeps.stop (e : ε) : Keeps P (Program.stop e : Program σ ε η α) := fun _ _ => trivial

theorem Keeps.look (f : σ → α) : Keeps P (Program.look f : Program σ ε η α) := fun _ hs => hs

theorem Keeps.change {f : σ → α × σ} (h : ∀ s, P s → P (f s).2) :
    Keeps P (Program.change f : Program σ ε η α) :=
  fun s hs => h s hs

theorem Keeps.check (x : Option η) : Keeps P (Program.check x : Program σ ε η Unit) := by
  cases x with
  | none => exact .ret ()
  | some e => exact .fail e

end Keeps

/-! ## Programs as a monad -/

theorem map_id (m : Program σ ε η α) : id <$> m = m := by
  funext s
  show seq m ret s = m s
  unfold seq
  cases m s with
  | error e => rfl
  | ok r =>
    obtain ⟨r, t⟩ := r
    cases r with
    | error x => rfl
    | ok a => rfl

theorem seq_assoc {γ : Type} (m : Program σ ε η α) (f : α → Program σ ε η β)
    (g : β → Program σ ε η γ) : m >>= f >>= g = m >>= fun a => f a >>= g := by
  funext s
  show seq (seq m f) g s = seq m (fun a => seq (f a) g) s
  unfold seq
  cases m s with
  | error e => rfl
  | ok r =>
    obtain ⟨r, t⟩ := r
    cases r with
    | error x => rfl
    | ok a => rfl

instance : LawfulMonad (Program σ ε η) :=
  LawfulMonad.mk' _ map_id (fun _ _ => rfl) seq_assoc

/-- The program does the same before and after the change `u` of the state: it neither reads
    nor writes what `u` changes. -/
def Commutes (u : σ → σ) (m : Program σ ε η α) : Prop :=
  ∀ s, m (u s) = (m s).map fun r => (r.1, u r.2)

section Commutes

variable {u : σ → σ}

theorem Commutes.pure (a : α) : Commutes u (Pure.pure a : Program σ ε η α) := fun _ => rfl

theorem Commutes.fail (x : η) : Commutes u (Program.fail x : Program σ ε η α) := fun _ => rfl

theorem Commutes.stop (e : ε) : Commutes u (Program.stop e : Program σ ε η α) := fun _ => rfl

theorem Commutes.check (x : Option η) : Commutes u (Program.check x : Program σ ε η Unit) := by
  intro s
  cases x with
  | none => rfl
  | some x => rfl

theorem Commutes.look {f : σ → α} (h : ∀ s, f (u s) = f s) :
    Commutes u (Program.look f : Program σ ε η α) := by
  intro s
  show Except.ok (Except.ok (f (u s)), u s) = _
  rw [h]
  rfl

theorem Commutes.change {f : σ → α × σ} (h : ∀ s, f (u s) = ((f s).1, u (f s).2)) :
    Commutes u (Program.change f : Program σ ε η α) := by
  intro s
  show Except.ok (Except.ok (f (u s)).1, (f (u s)).2) = _
  rw [h]
  rfl

theorem Commutes.bind {f : α → Program σ ε η β} (hm : Commutes u m)
    (hf : ∀ a, Commutes u (f a)) : Commutes u (m >>= f) := by
  intro s
  show seq m f (u s) = (seq m f s).map _
  unfold seq
  rw [hm s]
  cases m s with
  | error e => rfl
  | ok r =>
    obtain ⟨r, t⟩ := r
    cases r with
    | error x => rfl
    | ok a => exact hf a t

/-- A change that has nothing to change in the first state has nothing to change in the
    last. -/
theorem Commutes.keeps (hm : Commutes u m) {s t : σ} {r : Except η α} (hu : u s = s)
    (hr : m s = .ok (r, t)) : u t = t := by
  have h := hm s
  rw [hu, hr] at h
  exact (Prod.mk.inj (Except.ok.inj h)).2.symm

end Commutes

end Program

end Uringio.Lib
