/-
  Dispatch in the order of arrival, with timers.

  A handle joins the end of a queue, or waits for a time of its own. From time to time the
  waiting handles below a bound are released into the queue, the earliest first; the head of
  the queue has its turn. `line` is the handles that had their turn and behind them those of
  the queue. It only grows at its end (`Steps.line_prefix`), no handle is in it twice
  (`Sound.steps`), a timer is not in it before its time, and of two timers that waited
  together the earlier one comes first (`Steps.in_order`).
-/
import Mathlib.Algebra.Order.Group.Multiset
import Mathlib.Data.Multiset.UnionInter
import Mathlib.Logic.Relation
import Mathlib.Order.Defs.LinearOrder

namespace Uringio.Lib

/-- `planned` has the handles that have waited, and `bounds` the bounds of the releases. -/
structure Dispatch (η T : Type) where
  waiting : Multiset η
  queue : List η
  turned : List η
  planned : List η
  bounds : List T

namespace Dispatch

variable {η T : Type} {p q : Dispatch η T} {h x y : η}

def empty : Dispatch η T := ⟨0, [], [], [], []⟩

/-- The order of the turns. -/
def line (p : Dispatch η T) : List η := p.turned ++ p.queue

/-- Every handle. -/
def handles (p : Dispatch η T) : Multiset η := ↑p.line + p.waiting

def arrive (p : Dispatch η T) (h : η) : Dispatch η T := { p with queue := p.queue ++ [h] }

def plan (p : Dispatch η T) (h : η) : Dispatch η T :=
  { p with waiting := h ::ₘ p.waiting, planned := p.planned ++ [h] }

def release (p : Dispatch η T) (bound : T) (due : List η) (later : Multiset η) : Dispatch η T :=
  { p with waiting := later, queue := p.queue ++ due, bounds := p.bounds ++ [bound] }

def turn (p : Dispatch η T) (h : η) (rest : List η) : Dispatch η T :=
  { p with queue := rest, turned := p.turned ++ [h] }

/-- What a step can do; only new handles are added. -/
inductive Step [LinearOrder T] (when : η → T) (p : Dispatch η T) : Dispatch η T → Prop
  | arrive {h : η} (fresh : h ∉ p.handles) : Step when p (p.arrive h)
  | plan {h : η} (fresh : h ∉ p.handles) : Step when p (p.plan h)
  | release {bound : T} {due : List η} {later : Multiset η} (split : p.waiting = ↑due + later)
      (sorted : due.Pairwise fun a b => when a ≤ when b) (below : ∀ h ∈ due, when h < bound)
      (above : ∀ h ∈ later, bound ≤ when h) : Step when p (p.release bound due later)
  | turn {h : η} {rest : List η} (head : p.queue = h :: rest) : Step when p (p.turn h rest)

abbrev Steps [LinearOrder T] (when : η → T) : Dispatch η T → Dispatch η T → Prop :=
  Relation.ReflTransGen (Step when)

/-! ## The line and the handles -/

theorem mem_handles : h ∈ p.handles ↔ h ∈ p.line ∨ h ∈ p.waiting := by
  unfold handles
  rw [Multiset.mem_add, Multiset.mem_coe]

theorem line_arrive : (p.arrive h).line = p.line ++ [h] := (List.append_assoc ..).symm

theorem line_release {bound : T} {due : List η} {later : Multiset η} :
    (p.release bound due later).line = p.line ++ due := (List.append_assoc ..).symm

theorem line_turn {rest : List η} (hq : p.queue = h :: rest) : (p.turn h rest).line = p.line := by
  unfold line turn
  rw [hq, List.append_assoc, List.singleton_append]

theorem handles_arrive : (p.arrive h).handles = h ::ₘ p.handles := by
  unfold handles
  rw [line_arrive, ← Multiset.coe_add, Multiset.coe_singleton, add_right_comm,
    Multiset.add_comm]
  exact Multiset.singleton_add ..

theorem handles_plan : (p.plan h).handles = h ::ₘ p.handles := Multiset.add_cons ..

theorem handles_release {bound : T} {due : List η} {later : Multiset η}
    (hs : p.waiting = ↑due + later) : (p.release bound due later).handles = p.handles := by
  unfold handles
  rw [line_release, ← Multiset.coe_add, hs, add_assoc]
  rfl

theorem handles_turn {rest : List η} (hq : p.queue = h :: rest) :
    (p.turn h rest).handles = p.handles := by
  unfold handles
  rw [line_turn hq]
  rfl

section Order

variable [LinearOrder T] {when : η → T}

/-- The line grows at its end. -/
theorem Step.line_prefix (hs : p.Step when q) : p.line <+: q.line := by
  cases hs with
  | arrive _ =>
    rw [line_arrive]
    exact List.prefix_append _ _
  | plan _ => exact List.prefix_rfl
  | release _ _ _ _ =>
    rw [line_release]
    exact List.prefix_append _ _
  | turn hq => exact ⟨[], (List.append_nil _).trans (line_turn hq).symm⟩

/-- No handle is lost. -/
theorem Step.handles_le (hs : p.Step when q) : p.handles ≤ q.handles := by
  cases hs with
  | arrive _ =>
    rw [handles_arrive]
    exact Multiset.le_cons_self _ _
  | plan _ =>
    rw [handles_plan]
    exact Multiset.le_cons_self _ _
  | release hs _ _ _ => rw [handles_release hs]
  | turn hq => rw [handles_turn hq]

theorem Steps.line_prefix (hs : Steps when p q) : p.line <+: q.line := by
  induction hs with
  | refl => exact List.prefix_rfl
  | tail _ hstep ih => exact ih.trans hstep.line_prefix

theorem Steps.handles_le (hs : Steps when p q) : p.handles ≤ q.handles := by
  induction hs with
  | refl => exact le_rfl
  | tail _ hstep ih => exact ih.trans hstep.handles_le

/-! ## Several steps -/

/-- New handles join the queue. -/
theorem steps_arrive {hs : List η} (hn : (p.handles + ↑hs).Nodup) :
    Steps when p { p with queue := p.queue ++ hs } := by
  induction hs generalizing p with
  | nil =>
    rw [List.append_nil]
  | cons h hs ih =>
    rw [← Multiset.cons_coe, Multiset.add_cons, Multiset.nodup_cons] at hn
    obtain ⟨hf, hn⟩ := hn
    have hfirst : p.Step when (p.arrive h) :=
      .arrive fun hm => hf (Multiset.mem_add.mpr (.inl hm))
    have hrest : Steps when (p.arrive h) { p.arrive h with queue := (p.arrive h).queue ++ hs } := by
      refine ih ?_
      rw [handles_arrive, Multiset.cons_add]
      exact Multiset.nodup_cons.mpr ⟨hf, hn⟩
    refine .head hfirst ?_
    have heq : p.queue ++ h :: hs = (p.arrive h).queue ++ hs :=
      (List.append_assoc p.queue [h] hs).symm
    rw [heq]
    exact hrest

/-- New timers. -/
theorem steps_plan {hs : List η} (hn : (p.handles + ↑hs).Nodup) :
    Steps when p { p with waiting := p.waiting + ↑hs, planned := p.planned ++ hs } := by
  induction hs generalizing p with
  | nil =>
    rw [List.append_nil, Multiset.coe_nil, add_zero]
  | cons h hs ih =>
    rw [← Multiset.cons_coe, Multiset.add_cons, Multiset.nodup_cons] at hn
    obtain ⟨hf, hn⟩ := hn
    have hfirst : p.Step when (p.plan h) := .plan fun hm => hf (Multiset.mem_add.mpr (.inl hm))
    have hrest : Steps when (p.plan h)
        { p.plan h with
          waiting := (p.plan h).waiting + ↑hs, planned := (p.plan h).planned ++ hs } := by
      refine ih ?_
      rw [handles_plan, Multiset.cons_add]
      exact Multiset.nodup_cons.mpr ⟨hf, hn⟩
    refine .head hfirst ?_
    have hwaiting : p.waiting + ↑(h :: hs) = (p.plan h).waiting + (↑hs : Multiset η) := by
      rw [← Multiset.cons_coe, Multiset.add_cons]
      exact (Multiset.cons_add ..).symm
    have hplanned : p.planned ++ h :: hs = (p.plan h).planned ++ hs :=
      (List.append_assoc p.planned [h] hs).symm
    rw [hwaiting, hplanned]
    exact hrest

/-- The first handles of the queue have their turns. -/
theorem steps_turn {todo rest : List η} (hq : p.queue = todo ++ rest) :
    Steps when p { p with queue := rest, turned := p.turned ++ todo } := by
  induction todo generalizing p with
  | nil =>
    rw [List.append_nil, ← hq.trans (List.nil_append rest)]
  | cons h todo ih =>
    have hfirst : p.Step when (p.turn h (todo ++ rest)) := .turn hq
    have hrest := ih (p := p.turn h (todo ++ rest)) rfl
    refine .head hfirst ?_
    have heq : p.turned ++ h :: todo = (p.turn h (todo ++ rest)).turned ++ todo :=
      (List.append_assoc p.turned [h] todo).symm
    rw [heq]
    exact hrest

/-- A round: what is due joins the queue, all that is queued has its turn, and what is made
    meanwhile is left for the next round. -/
theorem steps_round {bound : T} {due appended timers : List η} {later : Multiset η}
    (split : p.waiting = ↑due + later) (sorted : due.Pairwise fun a b => when a ≤ when b)
    (below : ∀ h ∈ due, when h < bound) (above : ∀ h ∈ later, bound ≤ when h)
    (fresh : (p.handles + ↑(appended ++ timers)).Nodup) :
    Steps when p ⟨later + ↑timers, appended, p.turned ++ (p.queue ++ due), p.planned ++ timers,
      p.bounds ++ [bound]⟩ := by
  have hrelease : p.Step when (p.release bound due later) := .release split sorted below above
  have hturn : Steps when (p.release bound due later)
      ⟨later, [], p.turned ++ (p.queue ++ due), p.planned, p.bounds ++ [bound]⟩ :=
    steps_turn (List.append_nil _).symm
  have hhandles : (⟨later, [], p.turned ++ (p.queue ++ due), p.planned, p.bounds ++ [bound]⟩ :
      Dispatch η T).handles = p.handles := by
    have hkept : (p.release bound due later).handles = p.handles := handles_release split
    rw [← hkept]
    unfold handles line release
    rw [List.append_nil]
  rw [← Multiset.coe_add, ← add_assoc, ← hhandles] at fresh
  have harrive := @steps_arrive _ _ _ _ when _ (Multiset.nodup_of_le (Multiset.le_add_right ..) fresh)
  have hall : (⟨later, appended, p.turned ++ (p.queue ++ due), p.planned, p.bounds ++ [bound]⟩ :
      Dispatch η T).handles = (⟨later, [], p.turned ++ (p.queue ++ due), p.planned,
        p.bounds ++ [bound]⟩ : Dispatch η T).handles + ↑appended := by
    unfold handles line
    rw [List.append_nil, ← Multiset.coe_add, add_right_comm]
  rw [← hall] at fresh
  exact .head hrelease (hturn.trans (harrive.trans (steps_plan fresh)))

/-! ## What holds of every run -/

/-- No handle is there twice, and a timer of the line lies below the bound of a release. -/
structure Sound (when : η → T) (p : Dispatch η T) : Prop where
  nodup : p.handles.Nodup
  planned : ∀ h ∈ p.planned, h ∈ p.handles
  waiting : ∀ h ∈ p.waiting, h ∈ p.planned
  onTime : ∀ h ∈ p.line, h ∈ p.planned → ∃ b ∈ p.bounds, when h < b

theorem sound_empty : (empty : Dispatch η T).Sound when :=
  ⟨Multiset.nodup_zero, fun _ hh => absurd hh List.not_mem_nil,
    fun _ hh => absurd hh (Multiset.notMem_zero _), fun _ hh => absurd hh List.not_mem_nil⟩

/-- A handle of the line does not wait. -/
theorem Sound.not_waiting (hp : p.Sound when) (hl : h ∈ p.line) : h ∉ p.waiting :=
  fun hw => (Multiset.disjoint_left.mp (Multiset.nodup_add.mp hp.nodup).2.2)
    (Multiset.mem_coe.mpr hl) hw

theorem Sound.nodup_line (hp : p.Sound when) : p.line.Nodup :=
  Multiset.coe_nodup.mp (Multiset.nodup_add.mp hp.nodup).1

theorem Sound.step (hp : p.Sound when) (hs : p.Step when q) : q.Sound when := by
  have hmono := Multiset.subset_of_le hs.handles_le
  cases hs with
  | @arrive h hf =>
    refine ⟨?_, fun g hg => hmono (hp.planned g hg), hp.waiting, fun g hg hgp => ?_⟩
    · rw [handles_arrive]
      exact Multiset.nodup_cons.mpr ⟨hf, hp.nodup⟩
    · rw [line_arrive] at hg
      rcases List.mem_append.mp hg with hg | hg
      · exact hp.onTime g hg hgp
      · obtain rfl := List.mem_singleton.mp hg
        exact absurd (hp.planned g hgp) hf
  | @plan h hf =>
    refine ⟨?_, fun g hg => ?_, fun g hg => ?_, fun g hg hgp => ?_⟩
    · rw [handles_plan]
      exact Multiset.nodup_cons.mpr ⟨hf, hp.nodup⟩
    · rw [handles_plan, Multiset.mem_cons]
      rcases List.mem_append.mp hg with hg | hg
      · exact .inr (hp.planned g hg)
      · exact .inl (List.mem_singleton.mp hg)
    · rcases Multiset.mem_cons.mp hg with rfl | hg
      · exact List.mem_append_right _ (List.mem_singleton_self g)
      · exact List.mem_append_left _ (hp.waiting g hg)
    · rcases List.mem_append.mp hgp with hgp | hgp
      · exact hp.onTime g hg hgp
      · obtain rfl := List.mem_singleton.mp hgp
        have hold : g ∈ p.line := hg
        exact absurd (mem_handles.mpr (.inl hold)) hf
  | @release bound due later hsplit _ hbelow _ =>
    refine ⟨?_, fun g hg => hmono (hp.planned g hg), fun g hg => ?_, fun g hg hgp => ?_⟩
    · rw [handles_release hsplit]
      exact hp.nodup
    · refine hp.waiting g ?_
      rw [hsplit]
      exact Multiset.mem_add.mpr (.inr hg)
    · rw [line_release] at hg
      rcases List.mem_append.mp hg with hg | hg
      · obtain ⟨b, hb, hlt⟩ := hp.onTime g hg hgp
        exact ⟨b, List.mem_append_left _ hb, hlt⟩
      · exact ⟨bound, List.mem_append_right _ (List.mem_singleton_self bound), hbelow g hg⟩
  | turn hq =>
    refine ⟨?_, fun g hg => hmono (hp.planned g hg), hp.waiting, fun g hg hgp => ?_⟩
    · rw [handles_turn hq]
      exact hp.nodup
    · rw [line_turn hq] at hg
      exact hp.onTime g hg hgp

theorem Sound.steps (hp : p.Sound when) (hs : Steps when p q) : q.Sound when := by
  induction hs with
  | refl => exact hp
  | tail _ hstep ih => exact ih.step hstep

/-! ## The order of the timers -/

/-- Where the times of a list do not fall, the earlier of two entries comes first. -/
theorem pair_sublist {l : List η} (hl : l.Pairwise fun a b => when a ≤ when b) (hx : x ∈ l)
    (hy : y ∈ l) (hlt : when x < when y) : [x, y].Sublist l := by
  induction l with
  | nil => exact absurd hx List.not_mem_nil
  | cons z l ih =>
    obtain ⟨hz, hl⟩ := List.pairwise_cons.mp hl
    rcases List.mem_cons.mp hy with rfl | hyl
    · -- the later one is first, so that the earlier one is not behind it
      rcases List.mem_cons.mp hx with rfl | hxl
      · exact absurd hlt (lt_irrefl _)
      · exact absurd hlt (not_lt_of_ge (hz x hxl))
    · rcases List.mem_cons.mp hx with rfl | hxl
      · exact (List.singleton_sublist.mpr hyl).cons_cons x
      · exact (ih hl hxl hyl).cons z

/-- The handle `y` waits and `x` waits as well or has joined the line, or both have in this
    order. -/
def Ahead (x y : η) (p : Dispatch η T) : Prop :=
  (y ∈ p.waiting ∧ x ∈ p.handles) ∨ [x, y].Sublist p.line

theorem Ahead.step (ha : p.Ahead x y) (hs : p.Step when q) (hlt : when x < when y) :
    q.Ahead x y := by
  have hmono := Multiset.subset_of_le hs.handles_le
  rcases ha with ⟨hy, hx⟩ | hl
  · cases hs with
    | arrive _ | turn _ => exact .inl ⟨hy, hmono hx⟩
    | plan _ => exact .inl ⟨Multiset.mem_cons_of_mem hy, hmono hx⟩
    | @release bound due later hsplit hsorted hbelow habove =>
      have hy' := hy
      rw [hsplit] at hy'
      rcases Multiset.mem_add.mp hy' with hydue | hylater
      · refine .inr ?_
        rw [line_release]
        have hydue := Multiset.mem_coe.mp hydue
        rcases mem_handles.mp hx with hxl | hxw
        · exact (List.singleton_sublist.mpr hxl).append (List.singleton_sublist.mpr hydue)
        · -- the earlier of the two lies below the bound as well
          rw [hsplit] at hxw
          rcases Multiset.mem_add.mp hxw with hxdue | hxlater
          · exact (pair_sublist hsorted (Multiset.mem_coe.mp hxdue) hydue hlt).trans
              (List.sublist_append_right _ _)
          · exact absurd (hlt.trans (hbelow y hydue)) (not_lt_of_ge (habove x hxlater))
      · exact .inl ⟨hylater, hmono hx⟩
  · exact .inr (hl.trans hs.line_prefix.sublist)

/-- Of two timers that wait together the earlier one has its turn first. -/
theorem Steps.in_order (hs : Steps when p q) (hp : p.Sound when) (hx : x ∈ p.waiting)
    (hy : y ∈ p.waiting) (hlt : when x < when y) (ht : y ∈ q.turned) :
    [x, y].Sublist q.turned := by
  have hsound := hp.steps hs
  have hahead : q.Ahead x y := by
    clear ht hsound
    induction hs with
    | refl => exact .inl ⟨hy, mem_handles.mpr (.inr hx)⟩
    | tail _ hstep ih => exact ih.step hstep hlt
  have hyl : y ∈ q.line := List.mem_append_left _ ht
  rcases hahead with ⟨hw, -⟩ | hl
  · exact absurd hw (hsound.not_waiting hyl)
  · obtain ⟨l₁, l₂, heq, hl₁, hl₂⟩ := List.sublist_append_iff.mp hl
    have hyq : y ∉ l₂ := fun hm =>
      (List.nodup_append.mp hsound.nodup_line).2.2 y ht y (hl₂.subset hm) rfl
    -- the last handle of the pair is not in the queue, so that the pair is not
    match l₁, heq with
    | [], heq =>
      have hpair : [x, y] = l₂ := heq
      exact absurd (hpair ▸ List.mem_cons_of_mem x (List.mem_singleton_self y)) hyq
    | [a], heq =>
      have hlast : [y] = l₂ := (List.cons.inj heq).2
      exact absurd (hlast ▸ List.mem_singleton_self y) hyq
    | a :: b :: l, heq =>
      obtain ⟨ha, htail⟩ := List.cons.inj heq
      obtain ⟨hb, -⟩ := List.cons.inj htail
      rw [ha, hb]
      exact (List.sublist_append_left [a, b] l).trans hl₁

end Order

end Dispatch

end Uringio.Lib
