/-
  A ledger of the resources that a program holds.

  Every attempt to acquire a resource is numbered, so that a resource can be named by the
  number of the attempt that got it. A release of what is not held stops the program: what a
  run releases it held, and it releases nothing twice. `acquireAll` acquires a row of
  resources; `taken` says what it gets, and where that is nothing it unwinds.
-/
import Mathlib.Data.Multiset.AddSub
import Uringio.Lib.Program

namespace Uringio.Lib

/-- The number of the next attempt, the resources that are held, and the rest of the state. -/
structure Ledger (ρ τ : Type) where
  next : Nat
  held : Multiset ρ
  rest : τ

namespace Ledger

open Program

variable {ρ τ ε η β : Type}

/-- One attempt. -/
def acquire (grants : Nat → Bool) (mk : Nat → ρ) : Program (Ledger ρ τ) ε η (Option Nat) :=
  fun s =>
    if grants s.next then
      .ok (.ok (some s.next), ⟨s.next + 1, mk s.next ::ₘ s.held, s.rest⟩)
    else .ok (.ok none, ⟨s.next + 1, s.held, s.rest⟩)

def release [DecidableEq ρ] (e : ε) (r : ρ) : Program (Ledger ρ τ) ε η Unit := fun s =>
  if r ∈ s.held then .ok (.ok (), ⟨s.next, s.held.erase r, s.rest⟩) else .error e

def releaseEach [DecidableEq ρ] (e : ε) : List ρ → Program (Ledger ρ τ) ε η Unit
  | [] => ret ()
  | r :: rs => do
    release e r
    releaseEach e rs

/-- Attempts `k` times to acquire a resource; the attempt at the position `i` with the number
    `n` gives `get i n`. Where one fails, `undo` ends the program with what was acquired. -/
def acquireAll (get : Nat → Nat → Option β) (mk : Nat → ρ)
    (undo : List (Nat × β) → Program (Ledger ρ τ) ε η (List (Nat × β))) :
    Nat → List (Nat × β) → Program (Ledger ρ τ) ε η (List (Nat × β))
  | 0, got => ret got
  | k + 1, got => fun s =>
    match get got.length s.next with
    | some b =>
      acquireAll get mk undo k (got ++ [(s.next, b)]) ⟨s.next + 1, mk s.next ::ₘ s.held, s.rest⟩
    | none => undo got ⟨s.next + 1, s.held, s.rest⟩

/-- What `k` attempts give, from the position `i` and the number `n` on. -/
def taken (get : Nat → Nat → Option β) : Nat → Nat → Nat → Option (List (Nat × β))
  | 0, _, _ => some []
  | k + 1, i, n =>
    (get i n).bind fun b => (taken get k (i + 1) (n + 1)).map fun got => (n, b) :: got

/-- The resources with these numbers. -/
def named (mk : Nat → ρ) (got : List (Nat × β)) : Multiset ρ := ↑(got.map fun x => mk x.1)

section Named

variable {mk : Nat → ρ}

@[simp] theorem named_nil : named mk ([] : List (Nat × β)) = 0 := rfl

@[simp] theorem named_cons {x : Nat × β} {got : List (Nat × β)} :
    named mk (x :: got) = mk x.1 ::ₘ named mk got := rfl

@[simp] theorem named_append {got rest : List (Nat × β)} :
    named mk (got ++ rest) = named mk got + named mk rest := by
  unfold named
  rw [List.map_append, ← Multiset.coe_add]

end Named

/-! ## Attempts -/

section Acquire

variable {grants : Nat → Bool} {mk : Nat → ρ} {n : Nat} {held : Multiset ρ} {rest : τ}

theorem acquire_granted (h : grants n = true) :
    (acquire grants mk : Program _ ε η _) ⟨n, held, rest⟩ =
      .ok (.ok (some n), ⟨n + 1, mk n ::ₘ held, rest⟩) :=
  if_pos h

theorem acquire_refused (h : grants n = false) :
    (acquire grants mk : Program _ ε η _) ⟨n, held, rest⟩ =
      .ok (.ok none, ⟨n + 1, held, rest⟩) := by
  unfold acquire
  rw [if_neg (by simp [h])]

end Acquire

/-! ## Releases -/

section Release

variable [DecidableEq ρ] {e : ε} {r : ρ} {rs : List ρ} {n : Nat} {held : Multiset ρ} {rest : τ}

theorem release_cons :
    (release e r : Program _ ε η _) ⟨n, r ::ₘ held, rest⟩ = .ok (.ok (), ⟨n, held, rest⟩) := by
  unfold release
  rw [if_pos (Multiset.mem_cons_self r held), Multiset.erase_cons_head]

theorem releaseEach_add :
    (releaseEach e rs : Program _ ε η _) ⟨n, ↑rs + held, rest⟩ =
      .ok (.ok (), ⟨n, held, rest⟩) := by
  induction rs with
  | nil =>
    show Except.ok _ = _
    rw [Multiset.coe_nil, Multiset.zero_add]
  | cons r rs ih =>
    have hheld : (↑(r :: rs) : Multiset ρ) + held = r ::ₘ (↑rs + held) := by
      rw [← Multiset.cons_coe, Multiset.cons_add]
    rw [hheld]
    exact (bind_returned release_cons).trans ih

end Release

/-! ## A row of attempts -/

section AcquireAll

variable {get : Nat → Nat → Option β} {mk : Nat → ρ}
  {undo : List (Nat × β) → Program (Ledger ρ τ) ε η (List (Nat × β))} {k i n : Nat}
  {got xs : List (Nat × β)} {held : Multiset ρ} {rest : τ}

theorem taken_cons_eq_some :
    taken get (k + 1) i n = some xs ↔
      ∃ b ys, get i n = some b ∧ taken get k (i + 1) (n + 1) = some ys ∧ xs = (n, b) :: ys := by
  show ((get i n).bind fun b => (taken get k (i + 1) (n + 1)).map fun got => (n, b) :: got) =
    some xs ↔ _
  rw [Option.bind_eq_some_iff]
  constructor
  · rintro ⟨b, hb, hgot⟩
    obtain ⟨ys, hys, hxs⟩ := Option.map_eq_some_iff.mp hgot
    exact ⟨b, ys, hb, hys, hxs.symm⟩
  · rintro ⟨b, ys, hb, hys, rfl⟩
    exact ⟨b, hb, Option.map_eq_some_iff.mpr ⟨ys, hys, rfl⟩⟩

theorem taken_length (h : taken get k i n = some xs) : xs.length = k := by
  induction k generalizing i n xs with
  | zero =>
    obtain rfl := Option.some.inj h
    rfl
  | succ k ih =>
    obtain ⟨b, ys, -, hys, rfl⟩ := taken_cons_eq_some.mp h
    rw [List.length_cons, ih hys]

/-- The attempts of a row are numbered one after another. -/
theorem taken_numbers (h : taken get k i n = some xs) : xs.map Prod.fst = List.range' n k := by
  induction k generalizing i n xs with
  | zero =>
    obtain rfl := Option.some.inj h
    rfl
  | succ k ih =>
    obtain ⟨b, ys, -, hys, rfl⟩ := taken_cons_eq_some.mp h
    rw [List.map_cons, ih hys, List.range'_succ]

/-- The entry at the position `j` is what the attempt there gave. -/
theorem taken_get (h : taken get k i n = some xs) {j : Nat} (hj : j < k) :
    ∃ b, get (i + j) (n + j) = some b ∧ xs[j]? = some (n + j, b) := by
  induction k generalizing i n xs j with
  | zero => exact absurd hj (Nat.not_lt_zero j)
  | succ k ih =>
    obtain ⟨b, ys, hb, hys, rfl⟩ := taken_cons_eq_some.mp h
    cases j with
    | zero => exact ⟨b, hb, rfl⟩
    | succ j =>
      obtain ⟨c, hc, hget⟩ := ih hys (Nat.lt_of_succ_lt_succ hj)
      refine ⟨c, ?_, ?_⟩
      · rw [← hc, Nat.add_right_comm i 1 j, Nat.add_right_comm n 1 j]
        rfl
      · rw [List.getElem?_cons_succ, hget, Nat.add_right_comm n 1 j]
        rfl

/-- Every attempt of the row succeeds. -/
theorem taken_isSome_iff :
    (taken get k i n).isSome ↔ ∀ j < k, (get (i + j) (n + j)).isSome := by
  induction k generalizing i n with
  | zero => simp [taken]
  | succ k ih =>
    have hstep : (taken get (k + 1) i n).isSome ↔
        (get i n).isSome ∧ (taken get k (i + 1) (n + 1)).isSome := by
      show ((get i n).bind fun b => _).isSome ↔ _
      cases get i n with
      | none => simp
      | some b => simp
    rw [hstep, ih]
    constructor
    · rintro ⟨hfirst, hlater⟩ j hj
      cases j with
      | zero => exact hfirst
      | succ j =>
        have := hlater j (Nat.lt_of_succ_lt_succ hj)
        rwa [Nat.add_right_comm i 1 j, Nat.add_right_comm n 1 j] at this
    · intro hall
      refine ⟨hall 0 (Nat.succ_pos k), fun j hj => ?_⟩
      rw [Nat.add_right_comm i 1 j, Nat.add_right_comm n 1 j]
      exact hall (j + 1) (Nat.succ_lt_succ hj)

/-- The whole row was acquired. -/
theorem acquireAll_taken (h : taken get k got.length n = some xs) :
    acquireAll get mk undo k got ⟨n, held, rest⟩ =
      .ok (.ok (got ++ xs), ⟨n + k, named mk xs + held, rest⟩) := by
  induction k generalizing got n xs held with
  | zero =>
    obtain rfl := Option.some.inj h
    show Except.ok _ = _
    rw [List.append_nil, named_nil, Multiset.zero_add]
    rfl
  | succ k ih =>
    obtain ⟨b, ys, hb, hys, rfl⟩ := taken_cons_eq_some.mp h
    have hlen : (got ++ [(n, b)]).length = got.length + 1 := by simp
    unfold acquireAll
    dsimp only
    rw [hb]
    dsimp only
    rw [ih (hlen ▸ hys), List.append_assoc, named_cons, Multiset.add_cons, Multiset.cons_add,
      Nat.add_right_comm n 1 k]
    rfl

/-- An attempt of the row failed: what was acquired before it is handed to `undo`. -/
theorem acquireAll_refused (mk : Nat → ρ)
    (undo : List (Nat × β) → Program (Ledger ρ τ) ε η (List (Nat × β))) (held : Multiset ρ)
    (rest : τ) (h : taken get k got.length n = none) :
    ∃ xs m, xs.length < k ∧
      acquireAll get mk undo k got ⟨n, held, rest⟩ =
        undo (got ++ xs) ⟨m, named mk xs + held, rest⟩ := by
  induction k generalizing got n held with
  | zero => exact absurd h (by simp [taken])
  | succ k ih =>
    cases hb : get got.length n with
    | none =>
      refine ⟨[], n + 1, Nat.succ_pos k, ?_⟩
      unfold acquireAll
      dsimp only
      rw [hb, List.append_nil, named_nil, Multiset.zero_add]
    | some b =>
      have hlen : (got ++ [(n, b)]).length = got.length + 1 := by simp
      have hnone : taken get k (got.length + 1) (n + 1) = none := by
        cases hys : taken get k (got.length + 1) (n + 1) with
        | none => rfl
        | some ys =>
          rw [taken_cons_eq_some.mpr ⟨b, ys, hb, hys, rfl⟩] at h
          exact absurd h (by simp)
      obtain ⟨xs, m, hlt, hrun⟩ := ih (mk n ::ₘ held) (hlen ▸ hnone)
      refine ⟨(n, b) :: xs, m, by simpa using hlt, ?_⟩
      unfold acquireAll
      dsimp only
      rw [hb]
      dsimp only
      rw [hrun, List.append_assoc, named_cons, Multiset.add_cons, Multiset.cons_add]
      rfl

/-- A row that is refused fails, where `undo` does. -/
theorem acquireAll_fails {γ : Type} {f : List (Nat × β) → Program (Ledger ρ τ) ε η γ} {x : η}
    {held' : Multiset ρ} {rest' : τ} (h : taken get k got.length n = none)
    (hundo : ∀ xs m, undo (got ++ xs) ⟨m, named mk xs + held, rest⟩ =
      .ok (.error x, ⟨m, held', rest'⟩)) :
    ∃ m, (acquireAll get mk undo k got >>= f) ⟨n, held, rest⟩ =
      .ok (.error x, ⟨m, held', rest'⟩) := by
  obtain ⟨xs, m, -, hrun⟩ := acquireAll_refused mk undo held rest h
  exact ⟨m, bind_failed (hrun.trans (hundo xs m))⟩

/-- A row that is refused stops, where `undo` does. -/
theorem acquireAll_stops {γ : Type} {f : List (Nat × β) → Program (Ledger ρ τ) ε η γ} {e : ε}
    (h : taken get k got.length n = none)
    (hundo : ∀ xs m, undo (got ++ xs) ⟨m, named mk xs + held, rest⟩ = .error e) :
    (acquireAll get mk undo k got >>= f) ⟨n, held, rest⟩ = .error e := by
  obtain ⟨xs, m, -, hrun⟩ := acquireAll_refused mk undo held rest h
  exact bind_stopped (hrun.trans (hundo xs m))

end AcquireAll

end Ledger

end Uringio.Lib
