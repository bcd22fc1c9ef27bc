/-
  Accepted requests and their slots.

  A request is unfinished as long as every CQE of it that the reader has consumed carried
  IORING_CQE_F_MORE. The reader removes a slot with the first CQE that it handles, so an
  unfinished request keeps its slot only in runs where no such CQE is consumed (`Kept`);
  where they are, it keeps its index as long as no other request is given it (`Orderly`).
-/
import Uringio.System.Reachable

namespace Uringio

namespace System

/-- No CQE of the request was consumed. -/
def Waiting (s : System) (sub : Submitted) : Prop := ∀ c ∈ s.seen, c.seq ≠ sub.seq

/-- Every CQE of the request that was consumed announced another one. -/
def Unfinished (s : System) (sub : Submitted) : Prop :=
  ∀ c ∈ s.seen, c.seq = sub.seq → c.hasMore = true

/-- The request has its slot. -/
def Holds (s : System) (sub : Submitted) : Prop :=
  s.loop.registry.liveSlot sub.index = some (sub.registration.slot sub.index)

/-- The CQE is of an accepted request: not of an SQE of the library's own, and not of one
    that a failed call left behind. -/
def OfRequest (s : System) (c : Cqe) : Prop := ∃ sub ∈ s.subs, sub.seq = c.seq

instance (s : System) (sub : Submitted) : Decidable (s.Waiting sub) :=
  inferInstanceAs (Decidable (∀ c ∈ s.seen, c.seq ≠ sub.seq))

instance (s : System) (sub : Submitted) : Decidable (s.Unfinished sub) :=
  inferInstanceAs (Decidable (∀ c ∈ s.seen, c.seq = sub.seq → c.hasMore = true))

instance (s : System) (sub : Submitted) : Decidable (s.Holds sub) :=
  inferInstanceAs (Decidable (_ = _))

instance (s : System) (c : Cqe) : Decidable (s.OfRequest c) :=
  inferInstanceAs (Decidable (∃ sub ∈ s.subs, sub.seq = c.seq))

theorem Waiting.unfinished {s : System} {sub : Submitted} (h : s.Waiting sub) :
    s.Unfinished sub := fun c hc he => absurd he (h c hc)

/-- The slot of the next CQE, when it is live. -/
def nextSlot (s : System) : Option (Cqe × RequestSlot) :=
  s.loop.ring.cq.head?.bind fun c =>
    (s.loop.registry.liveSlot (toInt c.userData)).map fun slot => (c, slot)

theorem nextSlot_eq_some {s : System} {c : Cqe} {slot : RequestSlot} :
    s.nextSlot = some (c, slot) ↔
      ∃ cs, s.loop.ring.cq = c :: cs ∧ s.loop.registry.liveSlot (toInt c.userData) = some slot := by
  unfold nextSlot
  cases s.loop.ring.cq with
  | nil => simp
  | cons d ds =>
    simp only [List.head?_cons, Option.bind_some, Option.map_eq_some_iff, Prod.mk.injEq]
    constructor
    · intro h
      obtain ⟨slot', hl, rfl, rfl⟩ := h
      exact ⟨ds, rfl, hl⟩
    · intro h
      obtain ⟨cs, hcq, hl⟩ := h
      obtain ⟨rfl, rfl⟩ := List.cons.inj hcq
      exact ⟨slot, hl, rfl, rfl⟩

/-! ## What a step does to requests and slots -/

/-- The part of a step that concerns the requests, the consumed CQEs and the live slots. -/
inductive Effect (s : System) (a : Act) (t : System) : Prop
  | same (hsubs : t.subs = s.subs) (hseen : t.seen = s.seen)
      (hlive : ∀ j, t.loop.registry.liveSlot j = s.loop.registry.liveSlot j)
  | accepted {call : OpCall} {env : CallEnv} {sub : Submitted} (ha : a = .call call env)
      (hsubm : (s.submission call env).isSome)
      (hsubs : t.subs = sub :: s.subs) (hseen : t.seen = s.seen)
      (htop : ¬ s.loop.registry.top < 0)
      (hindex : sub.index = (registryAdd s.loop.registry sub.registration).1)
      (hseq : sub.seq = s.loop.ring.tail) (hdead : s.loop.registry.liveSlot sub.index = none)
      (hlive : ∀ j, t.loop.registry.liveSlot j =
        if j = sub.index then some (sub.registration.slot sub.index)
        else s.loop.registry.liveSlot j)
  | ignored {env : ReadEnv} {c : Cqe} {cs : List Cqe} (ha : a = .read env)
      (hcq : s.loop.ring.cq = c :: cs)
      (hdead : s.loop.registry.liveSlot (toInt c.userData) = none ∨ env.object = false)
      (hsubs : t.subs = s.subs) (hseen : t.seen = c :: s.seen)
      (hlive : ∀ j, t.loop.registry.liveSlot j = s.loop.registry.liveSlot j)
  | handled {env : ReadEnv} {c : Cqe} {cs : List Cqe} {slot : RequestSlot} (ha : a = .read env)
      (hcq : s.loop.ring.cq = c :: cs)
      (hl : s.loop.registry.liveSlot (toInt c.userData) = some slot)
      (hsubs : t.subs = s.subs) (hseen : t.seen = c :: s.seen)
      (hlive : ∀ j, t.loop.registry.liveSlot j =
        if j = toInt c.userData then none else s.loop.registry.liveSlot j)

variable {s t : System} {a : Act}

theorem Stepped.effect (h : s.Base) (hs : Stepped s a t) (hd : t.down = false) :
    Effect s a t := by
  cases hs with
  | called _ ho =>
    cases ho with
    | refused h =>
      obtain ⟨g, rfl, -⟩ := h
      exact .same rfl rfl fun _ => rfl
    | full _ _ _ _ => exact .same rfl rfl fun _ => rfl
    | rejected _ _ _ _ _ _ _ _ hlive _ =>
      refine .same rfl rfl fun j => ?_
      simp only [answer, withLoop, Loop.setClosed_registry]
      exact hlive j
    | accepted hprep hp htop _ _ _ _ =>
      obtain ⟨-, -, -, hdead, hlive⟩ := (h.registry.sound.valid_of_room htop).add _ htop
      refine .accepted rfl ?_ rfl rfl htop rfl rfl (Option.not_isSome_iff_eq_none.mp hdead)
        fun j => ?_
      · unfold submission
        rw [if_neg htop, hprep]
        rfl
      simp only [answer, withLoop, Loop.setClosed_registry]
      exact hlive j
  | posted _ => exact .same rfl rfl fun _ => rfl
  | dropped hcq hl => exact .ignored rfl hcq (Or.inl hl) rfl rfl fun _ => rfl
  | skipped hcq _ ho => exact .ignored rfl hcq (Or.inr ho) rfl rfl fun _ => rfl
  | handled hcq hl _ _ hh => exact .handled rfl hcq hl rfl rfl hh.live
  | quiet _ hq => exact .same hq.subs hq.seen fun j => by rw [hq.registry]
  | shutdown _ _ => exact absurd hd (by simp)

/-! ## Facts about requests -/

namespace Base

variable {sub sub' : Submitted} {c : Cqe} {cs : List Cqe}

/-- The slot determines the request. -/
theorem eq_of_holds (h : s.Base) (hm : sub ∈ s.subs) (hm' : sub' ∈ s.subs) (hh : s.Holds sub)
    (hh' : s.Holds sub') (hi : sub.index = sub'.index) : sub = sub' := by
  unfold Holds at hh hh'
  rw [← hi] at hh'
  have hslot := Option.some.inj (hh.symm.trans hh')
  have hf := congrArg RequestSlot.future hslot
  exact h.futures.eq hm hm' (Option.some.inj hf)

/-- Positions determine the request. -/
theorem eq_of_seq (h : s.Base) (hm : sub ∈ s.subs) (hm' : sub' ∈ s.subs)
    (hs : sub.seq = sub'.seq) : sub = sub' := List.inj_on_of_nodup_map h.ring.seqs hm hm' hs

/-- A CQE of a request decodes to its index. -/
theorem decode (h : s.Base) (hc : c ∈ s.posted) (hm : sub ∈ s.subs) (hs : sub.seq = c.seq) :
    toInt c.userData = sub.index := by
  obtain ⟨h0, hlt⟩ := h.registry.index sub hm
  rw [h.ring.postedTag c hc sub hm hs.symm]
  exact toInt_toUint64 h0 hlt

theorem mem_posted_of_cq (hc : c ∈ s.loop.ring.cq) : c ∈ s.posted := List.mem_append_right _ hc

theorem mem_posted_of_seen (hc : c ∈ s.seen) : c ∈ s.posted :=
  List.mem_append_left _ (List.mem_reverse.mpr hc)

/-- Before a CQE of a request was consumed, all others of it announced another one. -/
theorem unfinished_of_next (h : s.Base) (hcq : s.loop.ring.cq = c :: cs)
    (hs : sub.seq = c.seq) : s.Unfinished sub := by
  intro d hd he
  have horder := h.ring.order
  unfold System.posted at horder
  rw [hcq, List.pairwise_append] at horder
  exact horder.2.2 d (List.mem_reverse.mpr hd) c (List.mem_cons_self ..) (by omega)

/-- No CQE that was posted is of an SQE that is still to come. -/
theorem waiting_of_tail (h : s.Base) (hs : sub.seq = s.loop.ring.tail) : s.Waiting sub := by
  intro c hc he
  have := h.ring.postedSeq c (mem_posted_of_seen hc)
  omega

/-- The request that has a slot is the latest with its index. -/
theorem holder_of_holds (h : s.Base) (hm : sub ∈ s.subs) (hh : s.Holds sub) :
    holder s.subs sub.index = some sub := by
  obtain ⟨x, hx, hslot⟩ := h.registry.holder _ _ hh
  obtain ⟨hxm, hxi⟩ := mem_of_holder hx
  have hf := congrArg RequestSlot.future hslot
  rw [h.futures.eq hm hxm (Option.some.inj hf)] at hx ⊢
  exact hxi ▸ hx

end Base

theorem Unfinished.of_cons {c : Cqe} {sub : Submitted} (hseen : t.seen = c :: s.seen)
    (h : t.Unfinished sub) : s.Unfinished sub := by
  intro d hd he
  exact h d (hseen ▸ List.mem_cons_of_mem _ hd) he

theorem Waiting.of_cons {c : Cqe} {sub : Submitted} (hseen : t.seen = c :: s.seen)
    (h : t.Waiting sub) : s.Waiting sub :=
  fun d hd => h d (hseen ▸ List.mem_cons_of_mem _ hd)

theorem Holds.congr {sub : Submitted}
    (hlive : t.loop.registry.liveSlot sub.index = s.loop.registry.liveSlot sub.index)
    (h : s.Holds sub) : t.Holds sub := by
  unfold Holds at h ⊢
  rw [hlive, h]

/-! ## Runs without IORING_CQE_F_MORE -/

/-- Every unfinished request has its slot. -/
def Kept (s : System) : Prop := ∀ sub ∈ s.subs, s.Unfinished sub → s.Holds sub

/-- The next CQE, if it has a live slot, is the last one of a request. -/
def LastCqe (s : System) (a : Act) : Prop :=
  ∀ env, a = .read env → ∀ c slot, s.nextSlot = some (c, slot) →
    s.OfRequest c ∧ c.hasMore = false

theorem Kept.step (hk : s.Kept) (h : s.Base) (hg : s.LastCqe a) (he : Effect s a t) : t.Kept := by
  intro sub hm hu
  cases he with
  | same hsubs hseen hlive =>
    rw [hsubs] at hm
    unfold Unfinished at hu
    rw [hseen] at hu
    exact (hk sub hm hu).congr (hlive _)
  | accepted ha _ hsubs hseen _ _ _ hdead hlive =>
    unfold Unfinished at hu
    rw [hseen] at hu
    rw [hsubs] at hm
    unfold Holds
    rw [hlive]
    rcases List.mem_cons.mp hm with rfl | hm
    · rw [if_pos rfl]
    · have hh := hk sub hm hu
      unfold Holds at hh
      rw [if_neg (fun e => by rw [e, hdead] at hh; exact absurd hh (by simp)), hh]
  | ignored ha hcq _ hsubs hseen hlive =>
    rw [hsubs] at hm
    exact (hk sub hm (hu.of_cons hseen)).congr (hlive _)
  | handled ha hcq hl hsubs hseen hlive =>
    rename_i env c cs slot
    rw [hsubs] at hm
    have hh := hk sub hm (hu.of_cons hseen)
    obtain ⟨⟨y, hy, hys⟩, hmore⟩ := hg env ha c slot (nextSlot_eq_some.mpr ⟨cs, hcq, hl⟩)
    have hne : sub.index ≠ toInt c.userData := by
      intro hi
      -- the CQE is of the request with the slot, and it was its last one
      have hyi := h.decode (Base.mem_posted_of_cq (hcq ▸ List.mem_cons_self ..)) hy hys
      have hyh := hk y hy (h.unfinished_of_next hcq hys)
      obtain rfl := h.eq_of_holds hm hy hh hyh (hi.trans hyi)
      have := hu c (hseen ▸ List.mem_cons_self ..) hys.symm
      rw [hmore] at this
      exact absurd this (by simp)
    exact hh.congr (by rw [hlive, if_neg hne])

/-! ## Runs with IORING_CQE_F_MORE -/

/-- A request has its slot until its first CQE, and is the latest with its index as long as
    it is unfinished. -/
structure Orderly (s : System) : Prop where
  first : ∀ sub ∈ s.subs, s.Waiting sub → s.Holds sub
  latest : ∀ sub ∈ s.subs, s.Unfinished sub → holder s.subs sub.index = some sub

/-- The index that the next call would be given. -/
def nextIndex (s : System) : Option Int :=
  if s.loop.registry.top < 0 then none
  else some (s.loop.registry.availableIndices.getD s.loop.registry.top.toNat default)

theorem nextIndex_of_top {s : System} (h : ¬ s.loop.registry.top < 0) (request : Registration) :
    s.nextIndex = some (registryAdd s.loop.registry request).1 := by
  unfold nextIndex registryAdd
  rw [if_neg h, if_neg h]

/-- A call that comes to its submission does not find the index of an unfinished request on
    top of the stack, and the next CQE, if it has a live slot, is of a request. -/
def FreshIndex (s : System) (a : Act) : Prop :=
  (∀ call env, a = .call call env → (s.submission call env).isSome →
    ∀ sub ∈ s.subs, s.Unfinished sub → s.nextIndex ≠ some sub.index) ∧
  ∀ env, a = .read env → ∀ c slot, s.nextSlot = some (c, slot) → s.OfRequest c

theorem Orderly.step (ho : s.Orderly) (h : s.Base) (hg : s.FreshIndex a) (he : Effect s a t) :
    t.Orderly := by
  cases he with
  | same hsubs hseen hlive =>
    refine ⟨fun sub hm hw => ?_, fun sub hm hu => ?_⟩
    · unfold Waiting at hw
      rw [hseen] at hw
      exact (ho.first sub (hsubs ▸ hm) hw).congr (hlive _)
    · unfold Unfinished at hu
      rw [hseen] at hu
      rw [hsubs] at hm ⊢
      exact ho.latest sub hm hu
  | accepted ha hsubm hsubs hseen htop hindex hseq hdead hlive =>
    refine ⟨fun sub hm hw => ?_, fun sub hm hu => ?_⟩
    · unfold Waiting at hw
      rw [hseen] at hw
      rw [hsubs] at hm
      unfold Holds
      rw [hlive]
      rcases List.mem_cons.mp hm with rfl | hm
      · rw [if_pos rfl]
      · have hh := ho.first sub hm hw
        unfold Holds at hh
        rw [if_neg (fun e => by rw [e, hdead] at hh; exact absurd hh (by simp)), hh]
    · unfold Unfinished at hu
      rw [hseen] at hu
      rw [hsubs] at hm ⊢
      unfold holder
      rcases List.mem_cons.mp hm with rfl | hm
      · rw [List.find?_cons_of_pos (by simp)]
      · have hne := hg.1 _ _ ha hsubm sub hm hu
        rw [nextIndex_of_top htop, ← hindex] at hne
        rw [List.find?_cons_of_neg (by simpa using fun e => hne (congrArg some e))]
        exact ho.latest sub hm hu
  | ignored ha hcq _ hsubs hseen hlive =>
    refine ⟨fun sub hm hw => ?_, fun sub hm hu => ?_⟩
    · exact (ho.first sub (hsubs ▸ hm) (hw.of_cons hseen)).congr (hlive _)
    · rw [hsubs] at hm ⊢
      exact ho.latest sub hm (hu.of_cons hseen)
  | handled ha hcq hl hsubs hseen hlive =>
    rename_i env c cs slot
    refine ⟨fun sub hm hw => ?_, fun sub hm hu => ?_⟩
    · rw [hsubs] at hm
      have hh := ho.first sub hm (hw.of_cons hseen)
      obtain ⟨y, hy, hys⟩ := hg.2 env ha c slot (nextSlot_eq_some.mpr ⟨cs, hcq, hl⟩)
      have hne : sub.index ≠ toInt c.userData := by
        intro hi
        -- the CQE is of the latest request with the index, and this one waits for its first
        have hyi := h.decode (Base.mem_posted_of_cq (hcq ▸ List.mem_cons_self ..)) hy hys
        have hylast := ho.latest y hy (h.unfinished_of_next hcq hys)
        have hlast := h.holder_of_holds hm hh
        rw [hi, hyi, hylast] at hlast
        obtain rfl := Option.some.inj hlast
        exact hw c (hseen ▸ List.mem_cons_self ..) hys.symm
      exact hh.congr (by rw [hlive, if_neg hne])
    · rw [hsubs] at hm ⊢
      exact ho.latest sub hm (hu.of_cons hseen)

/-- The CQE that the reader handles is of the request that has the slot. -/
theorem Orderly.owner (ho : s.Orderly) (h : s.Base) {c : Cqe} {cs : List Cqe} {sub : Submitted}
    (hcq : s.loop.ring.cq = c :: cs) (hm : sub ∈ s.subs) (hs : sub.seq = c.seq)
    {slot : RequestSlot} (hl : s.loop.registry.liveSlot (toInt c.userData) = some slot) :
    slot = sub.registration.slot sub.index := by
  have hi := h.decode (Base.mem_posted_of_cq (hcq ▸ List.mem_cons_self ..)) hm hs
  obtain ⟨x, hx, hslot⟩ := h.registry.holder _ _ hl
  have hlast := ho.latest sub hm (h.unfinished_of_next hcq hs)
  rw [hi, hlast] at hx
  obtain rfl := Option.some.inj hx
  rw [hslot, hi]

/-- Without IORING_CQE_F_MORE a run is orderly. -/
theorem Kept.orderly (hk : s.Kept) (h : s.Base) : s.Orderly :=
  ⟨fun sub hm hw => hk sub hm hw.unfinished,
    fun sub hm hu => h.holder_of_holds hm (hk sub hm hu)⟩

theorem init_kept {l : Loop} : (init l).Kept := by
  intro sub hm
  exact absurd hm (by simp [init])

theorem init_orderly {l : Loop} : (init l).Orderly :=
  ⟨fun sub hm => absurd hm (by simp [init]), fun sub hm => absurd hm (by simp [init])⟩

end System

end Uringio
