/-
  Programs that keep notes.

  A noting program runs over the state of a plain program and a list of notes that only grows.
  `lift` runs a plain program and notes nothing, `note` writes a note, and `onFailure` writes
  one where a program fails. `Erases m' m` says that `m'` without its notes is `m`: what is
  proved of the notes of `m'` is then a fact about the runs of `m`.
-/
import Uringio.Lib.Program

namespace Uringio.Lib

/-- A state with the notes taken so far. -/
structure Noted (σ ω : Type) where
  state : σ
  notes : List ω

namespace Noted

open Program

variable {σ ω ε η α β : Type}

/-- Runs a plain program; the notes stay. -/
def lift (m : Program σ ε η α) : Program (Noted σ ω) ε η α := fun s =>
  (m s.state).map fun r => (r.1, ⟨r.2, s.notes⟩)

def note (ws : List ω) : Program (Noted σ ω) ε η Unit :=
  change fun s => ((), ⟨s.state, s.notes ++ ws⟩)

/-- Where `m` fails, the notes `ws` are added. -/
def onFailure (ws : List ω) (m : Program (Noted σ ω) ε η α) : Program (Noted σ ω) ε η α := fun s =>
  match m s with
  | .error e => .error e
  | .ok (.error x, t) => .ok (.error x, ⟨t.state, t.notes ++ ws⟩)
  | .ok (.ok a, t) => .ok (.ok a, t)

/-- `m'` without its notes is `m`. -/
def Erases (m' : Program (Noted σ ω) ε η α) (m : Program σ ε η α) : Prop :=
  ∀ s, (m' s).map (fun r => (r.1, r.2.state)) = m s.state

section Erases

variable {m' : Program (Noted σ ω) ε η α} {m : Program σ ε η α}

theorem Erases.lift (m : Program σ ε η α) : Erases (Noted.lift m : Program (Noted σ ω) ε η α) m := by
  intro s
  unfold Noted.lift
  cases m s.state with
  | error e => rfl
  | ok r => rfl

theorem Erases.pure (a : α) :
    Erases (Pure.pure a : Program (Noted σ ω) ε η α) (Pure.pure a) := fun _ => rfl

theorem Erases.fail (x : η) :
    Erases (Program.fail x : Program (Noted σ ω) ε η α) (Program.fail x) := fun _ => rfl

theorem Erases.stop (e : ε) :
    Erases (Program.stop e : Program (Noted σ ω) ε η α) (Program.stop e) := fun _ => rfl

theorem Erases.bind {f' : α → Program (Noted σ ω) ε η β} {f : α → Program σ ε η β}
    (hm : Erases m' m) (hf : ∀ a, Erases (f' a) (f a)) : Erases (m' >>= f') (m >>= f) := by
  intro s
  have h := hm s
  show (seq m' f' s).map _ = seq m f s.state
  unfold seq
  rw [← h]
  cases m' s with
  | error e => rfl
  | ok r =>
    obtain ⟨r, t⟩ := r
    cases r with
    | error x => rfl
    | ok a => exact hf a t

/-- A note leaves no trace. -/
theorem Erases.note (ws : List ω) (h : Erases m' m) :
    Erases ((Noted.note ws : Program (Noted σ ω) ε η Unit) >>= fun _ => m') m :=
  fun s => h ⟨s.state, s.notes ++ ws⟩

/-- A look at the state for a note leaves no trace. -/
theorem Erases.look {f : σ → β} {g : β → Program (Noted σ ω) ε η α} (h : ∀ b, Erases (g b) m) :
    Erases ((Noted.lift (Program.look f) : Program (Noted σ ω) ε η β) >>= g) m :=
  fun s => h (f s.state) s

theorem Erases.onFailure (ws : List ω) (h : Erases m' m) : Erases (Noted.onFailure ws m') m := by
  intro s
  rw [← h s]
  unfold Noted.onFailure
  cases m' s with
  | error e => rfl
  | ok r =>
    obtain ⟨r, t⟩ := r
    cases r with
    | error x => rfl
    | ok a => rfl

/-- A run of the noting program is one of the plain program. -/
theorem Erases.run (h : Erases m' m) {s t : Noted σ ω} {r : Except η α}
    (hr : m' s = .ok (r, t)) : m s.state = .ok (r, t.state) := by
  rw [← h s, hr]
  rfl

/-- A run of the plain program has its notes. -/
theorem Erases.exists_run (h : Erases m' m) {s : Noted σ ω} {t : σ} {r : Except η α}
    (hr : m s.state = .ok (r, t)) : ∃ ws, m' s = .ok (r, ⟨t, ws⟩) := by
  have he := h s
  rw [hr] at he
  cases hm : m' s with
  | error e =>
    rw [hm] at he
    exact absurd he (by simp [Except.map])
  | ok r' =>
    obtain ⟨r', t', ws⟩ := r'
    rw [hm] at he
    obtain ⟨rfl, rfl⟩ := Prod.mk.inj (Except.ok.inj he)
    exact ⟨ws, rfl⟩

end Erases

theorem notes_of_lift {m : Program σ ε η α} {s t : Noted σ ω} {r : Except η α}
    (h : Noted.lift m s = .ok (r, t)) : t.notes = s.notes := by
  unfold Noted.lift at h
  cases hm : m s.state with
  | error e =>
    rw [hm] at h
    exact absurd h (by simp [Except.map])
  | ok r' =>
    rw [hm] at h
    obtain ⟨-, rfl⟩ := Prod.mk.inj (Except.ok.inj h)
    rfl

section Triples

variable {m : Program (Noted σ ω) ε η α} {ws vs : List ω}

/-- The notes so far are `ws`. -/
def Has (ws : List ω) (s : Noted σ ω) : Prop := s.notes = ws

theorem Has.start (s : σ) : Has [] (⟨s, []⟩ : Noted σ ω) := rfl

theorem Has.lift (m : Program σ ε η α) :
    Triple (Has ws) (Noted.lift m) (fun _ => Has ws) (fun _ => Has ws) := by
  rintro s rfl
  unfold Noted.lift
  cases m s.state with
  | error e => trivial
  | ok r =>
    obtain ⟨r, t⟩ := r
    cases r with
    | error x => rfl
    | ok a => rfl

/-- A plain program that never fails. -/
theorem Has.lift_total {m : Program σ ε η α} {E : η → Noted σ ω → Prop}
    (h : Triple (fun _ => True) m (fun _ _ => True) fun _ _ => False) :
    Triple (Has ws) (Noted.lift m) (fun _ => Has ws) E := by
  rintro s rfl
  have hm := h s.state trivial
  unfold Noted.lift
  cases he : m s.state with
  | error e => trivial
  | ok r =>
    obtain ⟨r, t⟩ := r
    rw [he] at hm
    cases r with
    | error x => exact hm.elim
    | ok a => rfl

/-- What a plain program says of the value that it returns. -/
theorem Has.lift_of {m : Program σ ε η α} {V : α → Prop}
    (h : Triple (fun _ => True) m (fun a _ => V a) fun _ _ => True) :
    Triple (Has ws) (Noted.lift m) (fun a s => Has ws s ∧ V a) (fun _ => Has ws) := by
  rintro s rfl
  have hm := h s.state trivial
  unfold Noted.lift
  cases he : m s.state with
  | error e => trivial
  | ok r =>
    obtain ⟨r, t⟩ := r
    rw [he] at hm
    cases r with
    | error x => rfl
    | ok a => exact ⟨rfl, hm⟩

/-- What a plain program does with the state. -/
theorem Has.lift_spec {m : Program σ ε η α} {P : σ → Prop} {Q : α → σ → Prop} {E : η → σ → Prop}
    (h : Triple P m Q E) :
    Triple (fun s => Has ws s ∧ P s.state) (Noted.lift m) (fun a s => Has ws s ∧ Q a s.state)
      (fun x s => Has ws s ∧ E x s.state) := by
  rintro s ⟨rfl, hs⟩
  have hm := h s.state hs
  unfold Noted.lift
  cases he : m s.state with
  | error e => trivial
  | ok r =>
    obtain ⟨r, t⟩ := r
    rw [he] at hm
    cases r with
    | error x => exact ⟨rfl, hm⟩
    | ok a => exact ⟨rfl, hm⟩

theorem lift_look {P : Noted σ ω → Prop} {Q : β → Noted σ ω → Prop} {E : η → Noted σ ω → Prop}
    {f : σ → β} (h : ∀ s, P s → Q (f s.state) s) :
    Triple P (Noted.lift (Program.look f) : Program (Noted σ ω) ε η β) Q E :=
  fun s hs => h s hs

theorem Has.note {E : η → Noted σ ω → Prop} :
    Triple (Has ws) (Noted.note vs : Program (Noted σ ω) ε η Unit) (fun _ => Has (ws ++ vs)) E := by
  rintro s rfl
  rfl

theorem Has.note_spec {P : σ → Prop} {E : η → Noted σ ω → Prop} :
    Triple (fun s => Has ws s ∧ P s.state) (Noted.note vs : Program (Noted σ ω) ε η Unit)
      (fun _ s => Has (ws ++ vs) s ∧ P s.state) E := by
  rintro s ⟨rfl, hs⟩
  exact ⟨rfl, hs⟩

theorem Has.onFailure {P : Noted σ ω → Prop} {Q : α → Noted σ ω → Prop}
    (h : Triple P m Q (fun _ => Has ws)) :
    Triple P (Noted.onFailure vs m) Q (fun _ => Has (ws ++ vs)) := by
  intro s hs
  have hm := h s hs
  unfold Noted.onFailure
  cases he : m s with
  | error e => trivial
  | ok r =>
    obtain ⟨r, t⟩ := r
    rw [he] at hm
    cases r with
    | error x => exact congrArg (· ++ vs) hm
    | ok a => exact hm

theorem Has.onFailure_spec {P : Noted σ ω → Prop} {Q : α → Noted σ ω → Prop} {E : η → σ → Prop}
    (h : Triple P m Q (fun x s => Has ws s ∧ E x s.state)) :
    Triple P (Noted.onFailure vs m) Q (fun x s => Has (ws ++ vs) s ∧ E x s.state) := by
  intro s hs
  have hm := h s hs
  unfold Noted.onFailure
  cases he : m s with
  | error e => trivial
  | ok r =>
    obtain ⟨r, t⟩ := r
    rw [he] at hm
    cases r with
    | error x => exact ⟨congrArg (· ++ vs) hm.1, hm.2⟩
    | ok a => exact hm

end Triples

end Noted

end Uringio.Lib
