/-
  The protocol of promises.

  Somebody issues promises under names of their own, and answers each one that is pending at
  most once. A promise may also be forgotten: it is no longer pending, and is never answered.
  `Sound` holds along every sequence of steps and says that each promise has one answer at
  most; along the steps that forget nothing each promise is pending or has its answer
  (`Kept`). A system that takes steps of the protocol has both.
-/
import Mathlib.Data.Set.Insert
import Mathlib.Logic.Relation

namespace Uringio.Lib

/-- The names issued so far, those that are pending, and the answers in order. -/
structure Promises (φ κ : Type) where
  issued : Set φ
  pending : Set φ
  answers : List (φ × κ)

namespace Promises

variable {φ κ : Type} {p q : Promises φ κ} {f : φ} {k : κ}

def empty : Promises φ κ := ⟨∅, ∅, []⟩

/-- A new promise. -/
def issue (p : Promises φ κ) (f : φ) : Promises φ κ :=
  ⟨insert f p.issued, insert f p.pending, p.answers⟩

/-- The answer of a promise. -/
def answer (p : Promises φ κ) (f : φ) (k : κ) : Promises φ κ :=
  ⟨p.issued, p.pending \ {f}, p.answers ++ [(f, k)]⟩

/-- The promises outside of `rest` are forgotten. -/
def forget (p : Promises φ κ) (rest : Set φ) : Promises φ κ := ⟨p.issued, rest, p.answers⟩

/-- A step that forgets nothing. -/
inductive Keeps (p : Promises φ κ) : Promises φ κ → Prop
  | issue {f : φ} (fresh : f ∉ p.issued) : Keeps p (p.issue f)
  | answer {f : φ} (k : κ) (pending : f ∈ p.pending) : Keeps p (p.answer f k)

/-- A step of the protocol. -/
inductive Step (p : Promises φ κ) : Promises φ κ → Prop
  | keeps {q : Promises φ κ} (h : p.Keeps q) : Step p q
  | forget {rest : Set φ} (h : rest ⊆ p.pending) : Step p (p.forget rest)

/-- Any number of steps. -/
abbrev Steps : Promises φ κ → Promises φ κ → Prop := Relation.ReflTransGen Step

/-- Any number of steps that forget nothing. -/
abbrev KeepsAll : Promises φ κ → Promises φ κ → Prop := Relation.ReflTransGen Keeps

theorem KeepsAll.steps (h : KeepsAll p q) : Steps p q :=
  Relation.ReflTransGen.mono (fun _ _ hk => Step.keeps hk) p q h

/-- A pending promise has no answer, and no promise has two. -/
structure Sound (p : Promises φ κ) : Prop where
  pending : p.pending ⊆ p.issued
  answered : ∀ e ∈ p.answers, e.1 ∈ p.issued ∧ e.1 ∉ p.pending
  once : (p.answers.map Prod.fst).Nodup

/-- A promise that is not pending has its answer. -/
def Kept (p : Promises φ κ) : Prop :=
  ∀ f ∈ p.issued, f ∈ p.pending ∨ ∃ e ∈ p.answers, e.1 = f

theorem sound_empty : (empty : Promises φ κ).Sound :=
  ⟨fun _ h => h, fun _ h => absurd h List.not_mem_nil, List.nodup_nil⟩

theorem kept_empty : (empty : Promises φ κ).Kept := fun _ h => h.elim

theorem Sound.issue (h : p.Sound) (hf : f ∉ p.issued) : (p.issue f).Sound := by
  refine ⟨Set.insert_subset_insert h.pending, fun e he => ?_, h.once⟩
  obtain ⟨hi, hp⟩ := h.answered e he
  refine ⟨Set.mem_insert_of_mem f hi, fun hm => ?_⟩
  rcases Set.mem_insert_iff.mp hm with he | hm
  · exact hf (he ▸ hi)
  · exact hp hm

theorem Sound.answer (h : p.Sound) (hf : f ∈ p.pending) (k : κ) : (p.answer f k).Sound := by
  refine ⟨fun g hg => h.pending hg.1, fun e he => ?_, ?_⟩
  · rcases List.mem_append.mp he with he | he
    · obtain ⟨hi, hp⟩ := h.answered e he
      exact ⟨hi, fun hm => hp hm.1⟩
    · obtain rfl := List.mem_singleton.mp he
      exact ⟨h.pending hf, fun hm => hm.2 rfl⟩
  · show ((p.answers ++ [(f, k)]).map Prod.fst).Nodup
    rw [List.map_append, List.nodup_append]
    refine ⟨h.once, by simp, fun g hg g' hg' he => ?_⟩
    obtain ⟨e, hm, rfl⟩ := List.mem_map.mp hg
    obtain rfl := List.mem_singleton.mp hg'
    exact (h.answered e hm).2 (he ▸ hf)

theorem Sound.step (h : p.Sound) (hs : p.Step q) : q.Sound := by
  cases hs with
  | keeps hk =>
    cases hk with
    | issue hf => exact h.issue hf
    | answer k hf => exact h.answer hf k
  | forget hrest =>
    refine ⟨hrest.trans h.pending, fun e he => ?_, h.once⟩
    obtain ⟨hi, hp⟩ := h.answered e he
    exact ⟨hi, fun hm => hp (hrest hm)⟩

/-- Each promise has one answer at most, whatever was done. -/
theorem Sound.steps (h : p.Sound) (hs : Steps p q) : q.Sound := by
  induction hs with
  | refl => exact h
  | tail _ hstep ih => exact ih.step hstep

theorem Kept.keeps (h : p.Kept) (hs : p.Keeps q) : q.Kept := by
  cases hs with
  | issue hf =>
    intro g hg
    rcases Set.mem_insert_iff.mp hg with rfl | hg
    · exact .inl (Set.mem_insert g p.pending)
    · exact (h g hg).imp (Set.mem_insert_of_mem _) id
  | @answer f k hf =>
    intro g hg
    rcases h g hg with hp | ⟨e, he, rfl⟩
    · by_cases hgf : g = f
      · exact .inr ⟨(f, k), List.mem_append_right _ (List.mem_singleton.mpr rfl), hgf.symm⟩
      · exact .inl ⟨hp, hgf⟩
    · exact .inr ⟨e, List.mem_append_left _ he, rfl⟩

/-- Where nothing is forgotten each promise is pending or has its answer. -/
theorem Kept.keepsAll (h : p.Kept) (hs : KeepsAll p q) : q.Kept := by
  induction hs with
  | refl => exact h
  | tail _ hstep ih => exact ih.keeps hstep

/-- A promise has one answer at most. -/
theorem Sound.length_le [DecidableEq φ] (h : p.Sound) (f : φ) :
    (p.answers.filter fun e => e.1 == f).length ≤ 1 := by
  have hcount := List.nodup_iff_count.mp h.once f
  rwa [List.count_eq_countP, List.countP_map, List.countP_eq_length_filter] at hcount

/-- A pending promise has none. -/
theorem Sound.length_of_pending [DecidableEq φ] (h : p.Sound) (hf : f ∈ p.pending) :
    (p.answers.filter fun e => e.1 == f).length = 0 := by
  rw [List.length_eq_zero_iff, List.filter_eq_nil_iff]
  intro e he hef
  exact (h.answered e he).2 (beq_iff_eq.mp hef ▸ hf)

/-- Where nothing was forgotten, one that is not pending has exactly one. -/
theorem Sound.length_of_kept [DecidableEq φ] (h : p.Sound) (hk : p.Kept) (hi : f ∈ p.issued)
    (hf : f ∉ p.pending) : (p.answers.filter fun e => e.1 == f).length = 1 := by
  obtain ⟨e, he, hef⟩ := (hk f hi).resolve_left hf
  have hmem : e ∈ p.answers.filter fun e => e.1 == f :=
    List.mem_filter.mpr ⟨he, beq_iff_eq.mpr hef⟩
  exact Nat.le_antisymm (h.length_le f) (List.length_pos_of_mem hmem)

/-- Answers and names stay. -/
theorem Step.grows (hs : p.Step q) : p.issued ⊆ q.issued ∧ p.answers <+: q.answers := by
  cases hs with
  | keeps hk =>
    cases hk with
    | issue _ => exact ⟨Set.subset_insert _ _, List.prefix_rfl⟩
    | answer k _ => exact ⟨subset_rfl, List.prefix_append _ _⟩
  | forget _ => exact ⟨subset_rfl, List.prefix_rfl⟩

theorem Steps.grows (hs : Steps p q) : p.issued ⊆ q.issued ∧ p.answers <+: q.answers := by
  induction hs with
  | refl => exact ⟨subset_rfl, List.prefix_rfl⟩
  | tail _ hstep ih =>
    exact ⟨ih.1.trans hstep.grows.1, ih.2.trans hstep.grows.2⟩

end Promises

end Uringio.Lib
