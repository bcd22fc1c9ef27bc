/-
  Deterministic machines that can stop with an error, and what holds along their runs.

  A machine is a function `step : σ → α → Except ε σ`. `run` folds it over a list of
  actions and stops at the first error. `Meets step guard s as` says that every action
  of the run is taken in a state that satisfies `guard`; `Each step post s as` says
  that every step taken satisfies `post`. An invariant is proved for one step under the
  guard and then holds after every run that meets the guard (`Meets.invariant`), and a
  property of one step from the invariant holds of every step (`Meets.each`).

  `Refinement` is forward simulation against a relational specification whose steps
  carry an output: a step lemma gives a trace of the specification for every run
  (`Refinement.run_trace`).
-/
import Mathlib.Data.List.Basic

namespace Uringio.Lib

universe u v w

section Runs

variable {σ : Type u} {α : Type v} {ε : Type w}

/-- Takes the actions in order; the first error ends the run. -/
def run (step : σ → α → Except ε σ) : σ → List α → Except ε σ
  | s, [] => .ok s
  | s, a :: as =>
    match step s a with
    | .ok t => run step t as
    | .error e => .error e

/-- Every action of the run is taken in a state that satisfies the guard. -/
def Meets (step : σ → α → Except ε σ) (guard : σ → α → Prop) : σ → List α → Prop
  | _, [] => True
  | s, a :: as =>
    guard s a ∧ match step s a with
      | .ok t => Meets step guard t as
      | .error _ => True

/-- Every step of the run satisfies `post`. -/
def Each (step : σ → α → Except ε σ) (post : σ → α → σ → Prop) : σ → List α → Prop
  | _, [] => True
  | s, a :: as =>
    match step s a with
    | .ok t => post s a t ∧ Each step post t as
    | .error _ => True

instance decidableMeets (step : σ → α → Except ε σ) (guard : σ → α → Prop)
    [h : ∀ s a, Decidable (guard s a)] : ∀ s as, Decidable (Meets step guard s as)
  | _, [] => inferInstanceAs (Decidable True)
  | s, a :: as => by
    unfold Meets
    exact @instDecidableAnd _ _ (h s a) (match step s a with
      | .ok t => decidableMeets step guard t as
      | .error _ => inferInstanceAs (Decidable True))

instance decidableEach (step : σ → α → Except ε σ) (post : σ → α → σ → Prop)
    [h : ∀ s a t, Decidable (post s a t)] : ∀ s as, Decidable (Each step post s as)
  | _, [] => inferInstanceAs (Decidable True)
  | s, a :: as => by
    unfold Each
    exact match step s a with
      | .ok t => @instDecidableAnd _ _ (h s a t) (decidableEach step post t as)
      | .error _ => inferInstanceAs (Decidable True)

variable {step : σ → α → Except ε σ} {guard guard' : σ → α → Prop}
  {post post' : σ → α → σ → Prop} {s s' t : σ} {a : α} {as bs : List α}

@[simp] theorem run_nil : run step s [] = .ok s := rfl

theorem run_cons_ok : run step s (a :: as) = .ok s' ↔
    ∃ t, step s a = .ok t ∧ run step t as = .ok s' := by
  rw [run]
  cases step s a with
  | ok t => simp
  | error e => simp

theorem run_append_ok : run step s (as ++ bs) = .ok s' ↔
    ∃ t, run step s as = .ok t ∧ run step t bs = .ok s' := by
  induction as generalizing s with
  | nil => simp
  | cons a as ih =>
    rw [List.cons_append, run_cons_ok]
    constructor
    · rintro ⟨t, ht, hr⟩
      obtain ⟨m, hm, hb⟩ := ih.mp hr
      exact ⟨m, run_cons_ok.mpr ⟨t, ht, hm⟩, hb⟩
    · rintro ⟨m, hm, hb⟩
      obtain ⟨t, ht, hr⟩ := run_cons_ok.mp hm
      exact ⟨t, ht, ih.mpr ⟨m, hr, hb⟩⟩

theorem Meets.head (h : Meets step guard s (a :: as)) : guard s a := h.1

theorem Meets.tail (h : Meets step guard s (a :: as)) (ht : step s a = .ok t) :
    Meets step guard t as := by
  have := h.2
  rwa [ht] at this

theorem Meets.cons (hg : guard s a) (h : ∀ t, step s a = .ok t → Meets step guard t as) :
    Meets step guard s (a :: as) := by
  refine ⟨hg, ?_⟩
  cases ht : step s a with
  | ok t => exact h t ht
  | error e => trivial

theorem Meets.mono (hg : ∀ s a, guard s a → guard' s a) (h : Meets step guard s as) :
    Meets step guard' s as := by
  induction as generalizing s with
  | nil => trivial
  | cons a as ih =>
    refine ⟨hg s a h.1, ?_⟩
    cases ht : step s a with
    | ok t => exact ih (h.tail ht)
    | error e => trivial

theorem Each.mono (hp : ∀ s a t, post s a t → post' s a t) (h : Each step post s as) :
    Each step post' s as := by
  induction as generalizing s with
  | nil => trivial
  | cons a as ih =>
    unfold Each at h ⊢
    cases ht : step s a with
    | ok t =>
      rw [ht] at h
      exact ⟨hp s a t h.1, ih h.2⟩
    | error e => trivial

theorem Each.cons (h : Each step post s (a :: as)) (ht : step s a = .ok t) :
    post s a t ∧ Each step post t as := by
  unfold Each at h
  rwa [ht] at h

/-- The last of the steps. -/
theorem Each.last (h : Each step post s (as ++ [a])) (hr : run step s as = .ok t)
    (ht : step t a = .ok s') : post t a s' := by
  induction as generalizing s with
  | nil =>
    obtain rfl := Except.ok.inj hr
    exact (h.cons ht).1
  | cons b as ih =>
    obtain ⟨m, hm, hr'⟩ := run_cons_ok.mp hr
    exact ih (Each.cons h hm).2 hr'

theorem Meets.and (h : Meets step guard s as) (h' : Meets step guard' s as) :
    Meets step (fun s a => guard s a ∧ guard' s a) s as := by
  induction as generalizing s with
  | nil => trivial
  | cons a as ih =>
    refine ⟨⟨h.1, h'.1⟩, ?_⟩
    cases ht : step s a with
    | ok t => exact ih (h.tail ht) (h'.tail ht)
    | error e => trivial

instance decidableReturns {α : Type u} {ε : Type w} {x : Except ε α} :
    Decidable (∃ a, x = .ok a) :=
  match x with
  | .ok a => .isTrue ⟨a, rfl⟩
  | .error _ => .isFalse (by simp)

/-- A property of the state that a run reaches is checked by taking the run. -/
instance decidableReaches {x : Except ε σ} {P : σ → Prop} [DecidablePred P] :
    Decidable (∃ t, x = .ok t ∧ P t) :=
  match x with
  | .ok t => decidable_of_iff (P t) (by simp)
  | .error _ => .isFalse (by simp)

theorem meets_true : Meets step (fun _ _ => True) s as := by
  induction as generalizing s with
  | nil => trivial
  | cons a as ih =>
    refine ⟨trivial, ?_⟩
    cases step s a with
    | ok t => exact ih
    | error e => trivial

/-- An invariant that every guarded step keeps holds after every run that meets the
    guard. -/
theorem Meets.invariant (Inv : σ → Prop)
    (hstep : ∀ s a t, Inv s → guard s a → step s a = .ok t → Inv t)
    (h : Meets step guard s as) (hs : Inv s) (hr : run step s as = .ok s') : Inv s' := by
  induction as generalizing s with
  | nil =>
    cases hr
    exact hs
  | cons a as ih =>
    obtain ⟨t, ht, hr'⟩ := run_cons_ok.mp hr
    exact ih (h.tail ht) (hstep s a t hs h.head ht) hr'

/-- A run whose guarded steps never stop reaches a state, with the invariant. -/
theorem Meets.total (Inv : σ → Prop)
    (hstep : ∀ s a, Inv s → guard s a → ∃ t, step s a = .ok t ∧ Inv t)
    (h : Meets step guard s as) (hs : Inv s) : ∃ t, run step s as = .ok t ∧ Inv t := by
  induction as generalizing s with
  | nil => exact ⟨s, rfl, hs⟩
  | cons a as ih =>
    obtain ⟨m, hm, hi⟩ := hstep s a hs h.head
    obtain ⟨t, ht, hit⟩ := ih (h.tail hm) hi
    exact ⟨t, run_cons_ok.mpr ⟨m, hm, ht⟩, hit⟩

/-- A guard that follows from another one under an invariant is met as well. -/
theorem Meets.strengthen {Inv : σ → Prop}
    (hstep : ∀ s a t, Inv s → guard s a → step s a = .ok t → Inv t)
    (hg : ∀ s a, Inv s → guard s a → guard' s a)
    (h : Meets step guard s as) (hs : Inv s) : Meets step guard' s as := by
  induction as generalizing s with
  | nil => trivial
  | cons a as ih =>
    refine ⟨hg s a hs h.head, ?_⟩
    cases ht : step s a with
    | ok t => exact ih (h.tail ht) (hstep s a t hs h.head ht)
    | error e => trivial

/-- Two guards that agree under an invariant are met by the same runs. -/
theorem Meets.congr (Inv : σ → Prop)
    (hstep : ∀ s a t, Inv s → guard s a → step s a = .ok t → Inv t)
    (hg : ∀ s a, Inv s → (guard s a ↔ guard' s a)) (hs : Inv s) :
    Meets step guard s as ↔ Meets step guard' s as := by
  constructor
  · exact fun h => h.strengthen hstep (fun s a hi => (hg s a hi).mp) hs
  · refine fun h => h.strengthen (fun s a t hi hg' => ?_) (fun s a hi => (hg s a hi).mpr) hs
    exact hstep s a t hi ((hg s a hi).mpr hg')

/-- Where one step satisfies `post` exactly when its action is `good`, and good steps keep
    the invariant, every step of a run satisfies `post` exactly when every action is good. -/
theorem Meets.each_iff (Inv : σ → Prop) {good : σ → α → Prop}
    (hstep : ∀ s a t, Inv s → guard s a → step s a = .ok t →
      (post s a t ↔ good s a) ∧ (good s a → Inv t))
    (hstop : ∀ s a e, Inv s → guard s a → step s a = .error e → good s a)
    (h : Meets step guard s as) (hs : Inv s) : Each step post s as ↔ Meets step good s as := by
  induction as generalizing s with
  | nil => exact Iff.rfl
  | cons a as ih =>
    unfold Each Meets
    cases ht : step s a with
    | error e => exact ⟨fun _ => ⟨hstop s a e hs h.head ht, trivial⟩, fun _ => trivial⟩
    | ok t =>
      obtain ⟨hpost, hinv⟩ := hstep s a t hs h.head ht
      constructor
      · rintro ⟨hp, he⟩
        have hg := hpost.mp hp
        exact ⟨hg, (ih (h.tail ht) (hinv hg)).mp he⟩
      · rintro ⟨hg, hm⟩
        exact ⟨hpost.mpr hg, (ih (h.tail ht) (hinv hg)).mpr hm⟩

/-- The same for a run that does not stop. -/
theorem Meets.each_iff_of_run (Inv : σ → Prop) {good : σ → α → Prop}
    (hstep : ∀ s a t, Inv s → guard s a → step s a = .ok t →
      (post s a t ↔ good s a) ∧ (good s a → Inv t))
    (h : Meets step guard s as) (hr : run step s as = .ok s') (hs : Inv s) :
    Each step post s as ↔ Meets step good s as := by
  induction as generalizing s with
  | nil => exact Iff.rfl
  | cons a as ih =>
    obtain ⟨t, ht, hr'⟩ := run_cons_ok.mp hr
    obtain ⟨hpost, hinv⟩ := hstep s a t hs h.head ht
    unfold Each Meets
    rw [ht]
    constructor
    · rintro ⟨hp, he⟩
      have hg := hpost.mp hp
      exact ⟨hg, (ih (h.tail ht) hr' (hinv hg)).mp he⟩
    · rintro ⟨hg, hm⟩
      exact ⟨hpost.mpr hg, (ih (h.tail ht) hr' (hinv hg)).mpr hm⟩

theorem each_iff_meets (Inv : σ → Prop) {good : σ → α → Prop}
    (hstep : ∀ s a t, Inv s → step s a = .ok t →
      (post s a t ↔ good s a) ∧ (good s a → Inv t))
    (hr : run step s as = .ok s') (hs : Inv s) : Each step post s as ↔ Meets step good s as :=
  meets_true.each_iff_of_run Inv (fun s a t hi _ ht => hstep s a t hi ht) hr hs

/-- A guard on the action only. -/
theorem meets_of_forall {P : α → Prop} (h : ∀ a ∈ as, P a) :
    Meets step (fun _ a => P a) s as := by
  induction as generalizing s with
  | nil => trivial
  | cons a as ih =>
    exact .cons (h a (List.mem_cons_self ..)) fun t _ => ih fun b hb => h b (List.mem_cons_of_mem _ hb)

/-- What one guarded step satisfies from the invariant, every step of the run does. -/
theorem Meets.each {Inv : σ → Prop}
    (hstep : ∀ s a t, Inv s → guard s a → step s a = .ok t → Inv t)
    (hpost : ∀ s a t, Inv s → guard s a → step s a = .ok t → post s a t)
    (h : Meets step guard s as) (hs : Inv s) : Each step post s as := by
  induction as generalizing s with
  | nil => trivial
  | cons a as ih =>
    unfold Each
    cases ht : step s a with
    | ok t => exact ⟨hpost s a t hs h.head ht, ih (h.tail ht) (hstep s a t hs h.head ht)⟩
    | error e => trivial

end Runs

/-! ## Refinement -/

section Refinement

variable {σ : Type u} {τ : Type u} {ι : Type v} {ο : Type v} {ε : Type w}

/-- The outputs of a run of a machine whose steps return one. -/
def outputs (step : σ → ι → Except ε (ο × σ)) : σ → List ι → Except ε (List ο × σ)
  | s, [] => .ok ([], s)
  | s, i :: is =>
    match step s i with
    | .error e => .error e
    | .ok (o, t) =>
      match outputs step t is with
      | .error e => .error e
      | .ok (os, s') => .ok (o :: os, s')

/-- The inputs and outputs are a trace of the specification from `t` to `t'`. -/
inductive Trace (spec : τ → ι → ο → τ → Prop) : τ → List ι → List ο → τ → Prop
  | nil (t : τ) : Trace spec t [] [] t
  | cons {t m t' : τ} {i : ι} {o : ο} {is : List ι} {os : List ο}
      (head : spec t i o m) (tail : Trace spec m is os t') :
      Trace spec t (i :: is) (o :: os) t'

/-- Every input is one that the machine may be given in the state it has reached. -/
def Allowed (step : σ → ι → Except ε (ο × σ)) (pre : σ → ι → Prop) : σ → List ι → Prop
  | _, [] => True
  | s, i :: is =>
    pre s i ∧ match step s i with
      | .ok (_, t) => Allowed step pre t is
      | .error _ => True

instance decidableAllowed (step : σ → ι → Except ε (ο × σ)) (pre : σ → ι → Prop)
    [h : ∀ s i, Decidable (pre s i)] : ∀ s is, Decidable (Allowed step pre s is)
  | _, [] => inferInstanceAs (Decidable True)
  | s, i :: is => by
    unfold Allowed
    exact @instDecidableAnd _ _ (h s i) (match step s i with
      | .ok (_, t) => decidableAllowed step pre t is
      | .error _ => inferInstanceAs (Decidable True))

/-- Forward simulation: from related states an allowed input does not stop the machine,
    the specification can take it with the same output, and the states stay related. -/
structure Refinement (step : σ → ι → Except ε (ο × σ)) (pre : σ → ι → Prop)
    (spec : τ → ι → ο → τ → Prop) (Rel : σ → τ → Prop) : Prop where
  simulate : ∀ s t i, Rel s t → pre s i →
    ∃ o s' t', step s i = .ok (o, s') ∧ spec t i o t' ∧ Rel s' t'

theorem Refinement.run_trace {step : σ → ι → Except ε (ο × σ)} {pre : σ → ι → Prop}
    {spec : τ → ι → ο → τ → Prop} {Rel : σ → τ → Prop}
    (h : Refinement step pre spec Rel) {s : σ} {t : τ} (hst : Rel s t) {is : List ι}
    (hpre : Allowed step pre s is) :
    ∃ os s' t', outputs step s is = .ok (os, s') ∧ Trace spec t is os t' ∧ Rel s' t' := by
  induction is generalizing s t with
  | nil => exact ⟨[], s, t, rfl, .nil t, hst⟩
  | cons i is ih =>
    obtain ⟨o, m, n, hm, hspec, hrel⟩ := h.simulate s t i hst hpre.1
    have htail : Allowed step pre m is := by
      have := hpre.2
      rwa [hm] at this
    obtain ⟨os, s', t', hos, htr, hrel'⟩ := ih hrel htail
    refine ⟨o :: os, s', t', ?_, .cons hspec htr, hrel'⟩
    simp only [outputs, hm, hos]

end Refinement

end Uringio.Lib
