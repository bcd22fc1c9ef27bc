/-
  The `user_data` of the SQEs.

  Only requests, the wakeup read and the signal poll are given one. A linked timeout, a
  request for PROVIDED buffers and the cancel request keep what the previous use of their
  ring entry left there, which as a rule is the index of an earlier request, or the 0 of a
  fresh entry. So internal CQEs stay apart from requests exactly as long as every such
  entry happens to hold a value that is no index (`tags_separate`).
-/
import Uringio.System.Requests

namespace Uringio

/-! ## What the kernel still has -/

/-- The shutdown loop leaves the SQEs alone. -/
theorem shutdownCqe_pending {l l' : Loop} {d : Drained} (h : shutdownCqe l d = .ok l') :
    l'.ring.pending = l.ring.pending := by
  unfold shutdownCqe at h
  split at h
  · obtain rfl := Except.ok.inj h
    rfl
  · split at h
    · obtain rfl := Except.ok.inj h
      rfl
    · rename_i slot _
      have hcall : ∀ m : Loop, m.ring = l.ring →
          finishCqe m (toInt d.cqe.userData) = .ok l' → l'.ring.pending = l.ring.pending := by
        intro m hm hf
        unfold finishCqe at hf
        split at hf
        · exact absurd hf (by simp)
        · obtain rfl := Except.ok.inj hf
          show (ioUringCqeSeen m.ring).pending = l.ring.pending
          rw [hm]
          rfl
      refine hcall _ ?_ h
      split
      · split
        · rfl
        · rfl
      · rfl

/-- The shutdown adds the cancel request at most, and leaves no registry to decode with. -/
theorem gracefulShutdown_pending {l l' : Loop} {drained : List Drained} {submit : Int}
    (h : gracefulShutdown l drained submit = .ok l') :
    (∀ x ∈ l'.ring.pending, x ∈ l.ring.pending ∨ x.sqe.call = .cancelAny) ∧
      ∀ i, registryGet l'.registry i = none := by
  unfold gracefulShutdown at h
  cases hrun : Lib.run shutdownCqe l drained with
  | error e =>
    rw [hrun] at h
    exact absurd h (by simp [Except.map])
  | ok m =>
    rw [hrun] at h
    obtain rfl := Except.ok.inj h
    have hpend : m.ring.pending = l.ring.pending :=
      Lib.Meets.invariant (fun s : Loop => s.ring.pending = l.ring.pending)
        (fun s a t hs _ ht => (shutdownCqe_pending ht).trans hs) Lib.meets_true rfl hrun
    constructor
    · intro x hx
      change x ∈ (ringDestroy m.ring submit).pending at hx
      unfold ringDestroy at hx
      by_cases hs : m.ring.space = 0
      · rw [ioUringGetSqe_of_full hs, hpend] at hx
        exact Or.inl hx
      · rw [ioUringGetSqe_of_space hs] at hx
        have hadd := (Ring.added_prepared hs (ioUringPrep .cancelAny)).trans
          (Ring.added_ioUringSubmit submit)
        have hx : x ∈ (ioUringSubmit (m.ring.grow.modify m.ring.tail (ioUringPrep .cancelAny))
          submit).2.pending := hx
        rw [hadd.pending, hpend, List.append_nil] at hx
        rcases List.mem_append.mp hx with hx | hx
        · exact Or.inl hx
        · rw [List.mem_singleton.mp hx]
          exact Or.inr rfl
    · intro i
      refine RequestRegistry.registryGet_of_not_inRange ?_
      show (!(decide (i < 0) || decide (i ≥ toInt 0))) = false
      have : toInt 0 = 0 := rfl
      simp only [this, Bool.not_eq_false', Bool.or_eq_true, decide_eq_true_eq]
      omega

/-- The poll of the signal pipe carries a pointer that is no index. -/
def SignalSetup.Separate (setup : SignalSetup) (registrySize : Nat) : Prop :=
  ∀ x ∈ signalEntries setup, registryGet (registryNew registrySize) (toInt x.sqe.userData) = none

namespace System

/-! ## Tags -/

/-- The SQE is that of a request and carries its live index, or it is internal and its
    `user_data` decodes to no slot. -/
def Tagged (s : System) (x : Flight) : Prop :=
  (∃ sub ∈ s.subs, sub.seq = x.seq ∧ x.sqe.userData = toUint64 sub.index ∧ s.Holds sub) ∨
    (x.sqe.call.internal = true ∧ registryGet s.loop.registry (toInt x.sqe.userData) = none)

instance (s : System) (x : Flight) : Decidable (s.Tagged x) := by
  unfold Tagged
  infer_instance

/-- The SQEs that a step puts on the ring are tagged. -/
def PutsTagged (s : System) (_ : Act) (t : System) : Prop :=
  ∀ x ∈ t.loop.ring.pending, x ∉ s.loop.ring.pending → t.Tagged x

/-- A CQE of an internal SQE does nothing but leave the queue. -/
def IgnoresInternal (s : System) : Prop :=
  ∀ c ∈ s.loop.ring.cq, ¬ s.OfRequest c → ∀ env, readCqe env s.loop c = .ok s.loop.cqeSeen

/-- What lies in the entry at position `p` of the ring decodes to no slot. -/
def NoLeftover (s : System) (p : Nat) : Prop :=
  registryGet s.loop.registry (toInt (s.loop.ring.sqEntry p).userData) = none

instance (s : System) (p : Nat) : Decidable (s.NoLeftover p) :=
  inferInstanceAs (Decidable (_ = _))

/-- The submission of a call fails before it takes its SQE if it fails, and the entry of its
    linked timeout holds no index. -/
def CleanSubmission (s : System) (op : COp) (t : TimeoutParams) (submit : Int) : Prop :=
  op.CleanFailure s.loop.ring t submit ∧
    ((op.linked t).requested = true ∧ 2 ≤ s.loop.ring.space → s.NoLeftover (s.loop.ring.tail + 1))

instance (op : COp) (r : Ring) (t : TimeoutParams) (submit : Int) :
    Decidable (op.CleanFailure r t submit) := by
  unfold COp.CleanFailure
  infer_instance

instance (s : System) (op : COp) (t : TimeoutParams) (submit : Int) :
    Decidable (s.CleanSubmission op t submit) := by
  unfold CleanSubmission
  infer_instance

/-- The action puts no SQE on the ring whose `user_data` is an index by accident. -/
def SeparatesTags (s : System) (a : Act) : Prop :=
  match a with
  | .call call env => ∀ x, s.dispatched call env = some x → s.CleanSubmission x.1 x.2 env.submit
  | a => s.provides a = true ∧ s.loop.ring.space ≠ 0 → s.NoLeftover s.loop.ring.tail

instance (s : System) (a : Act) : Decidable (s.SeparatesTags a) := by
  apply Act.casesOn (motive := fun a => Decidable (s.SeparatesTags a)) a <;> intros <;>
    dsimp only [SeparatesTags] <;> infer_instance

/-! ## One step -/

variable {s t : System} {a : Act}

theorem Stepped.size (h : s.Base) (hs : Stepped s a t) (hd : t.down = false) :
    t.loop.registry.size = s.loop.registry.size := by
  cases hs with
  | called _ ho =>
    cases ho with
    | refused h =>
      obtain ⟨g, rfl, -⟩ := h
      rfl
    | full _ _ _ _ => rfl
    | rejected _ _ _ _ _ _ _ hsize _ _ =>
      simp only [answer, withLoop, Loop.setClosed_registry]
      exact hsize
    | accepted _ hp htop _ _ _ _ =>
      simp only [answer, withLoop, Loop.setClosed_registry]
      exact ((h.registry.sound.valid_of_room htop).add _ htop).2.1
  | posted _ | dropped _ _ | skipped _ _ _ => rfl
  | handled _ _ _ _ hh => exact hh.size
  | quiet _ hq => rw [hq.registry]
  | shutdown _ _ => exact absurd hd (by simp)

/-- A value that is no index stays one that is no index. -/
theorem Stepped.get_none (h : s.Base) (h' : t.Base) (hs : Stepped s a t) (hd : t.down = false)
    {i : Int} (hi : registryGet s.loop.registry i = none) :
    registryGet t.loop.registry i = none := by
  rw [h'.registry.sound.get_eq_none_iff]
  rw [h.registry.sound.get_eq_none_iff] at hi
  unfold RequestRegistry.inRange at hi ⊢
  rw [hs.size h hd]
  exact hi

/-- What a call that follows the rule puts on the ring. -/
theorem tagged_of_called (h : s.Base) {call : OpCall} {env : CallEnv}
    {r : Except (Option PyErr) Submitted × Loop} (hg : s.SeparatesTags (.call call env))
    (h' : (s.answer r).Base) (hr : call.run env s.loop = .ok r)
    (ho : RunOutcome call env s.loop r) (hd : (s.answer r).down = false) :
    ∀ x ∈ (s.answer r).loop.ring.pending, x ∈ s.loop.ring.pending ∨ (s.answer r).Tagged x := by
  have hstep : Stepped s (.call call env) (s.answer r) := .called hr ho
  intro x hx
  cases ho with
  | refused h =>
    obtain ⟨g, rfl, -⟩ := h
    exact Or.inl hx
  | full _ _ _ _ => exact Or.inl hx
  | rejected hprep _ htop hdisp hx1 hn _ _ _ _ =>
    simp only [answer, withLoop, Loop.setClosed_ring] at hx
    have hclean := (hg _ (dispatched_of_prepare hprep htop hdisp)).1
    have hfst := congrArg Prod.fst hx1
    have hq := COp.failure_keeps_queue hclean (by rw [hfst]; exact hn)
    rw [hx1] at hq
    obtain ⟨hk, -⟩ := COp.exec_rejected hx1 hn
    refine Or.inl ?_
    unfold Ring.pending at hx ⊢
    change x ∈ Ring.inflight _ ++ Ring.queued _ at hx
    rw [← hk.inflight, ← hq]
    exact hx
  | accepted hprep hp htop hdisp hx1 hn _ =>
    have hnew := hg _ (dispatched_of_prepare hprep htop hdisp)
    have hadd := (COp.exec_accepted hx1 hn).added
    simp only [answer, withLoop, Loop.setClosed_ring] at hx
    change x ∈ Ring.pending _ at hx
    rw [Loop.afterCall] at hx
    dsimp only at hx
    rw [hadd.pending] at hx
    rcases List.mem_append.mp hx with hx | hx
    · exact Or.inl hx
    · refine Or.inr ?_
      rcases List.mem_cons.mp hx with rfl | hx
      · refine Or.inl ⟨_, List.mem_cons_self .., rfl, rfl, ?_⟩
        obtain ⟨-, -, -, -, hlive⟩ :=
          (h.registry.sound.valid_of_room htop).add _ htop
        unfold Holds
        simp only [answer, withLoop, Loop.setClosed_registry]
        exact (hlive _).trans (if_pos rfl)
      · unfold linkTimeoutEntry at hx
        split at hx
        · rename_i hreq
          rw [List.mem_singleton.mp hx]
          exact Or.inr ⟨rfl, hstep.get_none h h' hd (hnew.2 hreq)⟩
        · exact absurd hx List.not_mem_nil

/-- What a step that follows the rule puts on the ring. -/
theorem Stepped.tagged (h : s.Base) (h' : t.Base) (hg : s.SeparatesTags a)
    (hs : Stepped s a t) (hd : t.down = false) :
    ∀ x ∈ t.loop.ring.pending, x ∈ s.loop.ring.pending ∨ t.Tagged x := by
  have hstep := hs
  intro x hx
  cases hs with
  | called hr ho => exact tagged_of_called h hg h' hr ho hd x hx
  | posted hp => exact Or.inl (h.ring.pending_post hp x hx)
  | dropped _ _ | skipped _ _ _ => exact Or.inl hx
  | handled _ _ _ _ hh =>
    change x ∈ Ring.pending _ at hx
    simp only [consume, withLoop, hh.ring] at hx
    exact Or.inl hx
  | quiet _ hq =>
    rw [hq.ring.pending] at hx
    rcases List.mem_append.mp hx with hx | hx
    · exact Or.inl hx
    · obtain ⟨ha, hspace, call, hc, rfl⟩ := hq.extra x hx
      refine Or.inr (Or.inr ⟨hc, hstep.get_none h h' hd ?_⟩)
      cases a with
      | call _ _ => exact absurd ha (by simp [provides])
      | _ => exact hg ⟨ha, hspace⟩
  | shutdown _ _ => exact absurd hd (by simp)

/-- What is known of the SQEs and CQEs as long as tags stay apart. -/
structure TagInv (s : System) : Prop where
  base : s.Base
  pending : ∀ x ∈ s.loop.ring.pending, (∃ sub ∈ s.subs, sub.seq = x.seq) ∨
    registryGet s.loop.registry (toInt x.sqe.userData) = none
  cq : ∀ c ∈ s.loop.ring.cq, s.OfRequest c ∨
    registryGet s.loop.registry (toInt c.userData) = none

theorem Tagged.weaken {x : Flight} (h : t.Tagged x) : (∃ sub ∈ t.subs, sub.seq = x.seq) ∨
    registryGet t.loop.registry (toInt x.sqe.userData) = none := by
  rcases h with ⟨sub, hm, hs, -⟩ | ⟨-, hn⟩
  · exact Or.inl ⟨sub, hm, hs⟩
  · exact Or.inr hn

theorem Stepped.subs_mono (h : s.Base) (hs : Stepped s a t) (hd : t.down = false) :
    ∀ sub ∈ s.subs, sub ∈ t.subs := by
  intro sub hm
  cases hs.effect h hd with
  | same hsubs _ _ | ignored _ _ _ hsubs _ _ | handled _ _ _ hsubs _ _ => rwa [hsubs]
  | accepted _ _ hsubs _ _ _ _ _ _ =>
    rw [hsubs]
    exact List.mem_cons_of_mem _ hm

/-- Where the CQEs in the queue come from. -/
theorem Stepped.cq (h : s.Base) (hs : Stepped s a t) (hd : t.down = false) :
    ∀ c ∈ t.loop.ring.cq, c ∈ s.loop.ring.cq ∨
      ∃ x ∈ s.loop.ring.inflight, c.seq = x.seq ∧ c.userData = x.sqe.userData := by
  intro c hc
  have htail : ∀ l : Loop, l.ring = ioUringCqeSeen s.loop.ring → c ∈ l.ring.cq →
      c ∈ s.loop.ring.cq := by
    intro l hl hm
    rw [hl] at hm
    exact List.mem_of_mem_tail hm
  cases hs with
  | called _ ho =>
    cases ho with
    | refused h =>
      obtain ⟨g, rfl, -⟩ := h
      exact Or.inl hc
    | full _ _ _ _ => exact Or.inl hc
    | rejected _ _ _ _ hx1 hn _ _ _ _ =>
      obtain ⟨hk, -⟩ := COp.exec_rejected hx1 hn
      simp only [answer, withLoop, Loop.setClosed_ring] at hc
      exact Or.inl (hk.cq ▸ hc)
    | accepted _ _ _ _ hx1 hn _ =>
      have hadd := (COp.exec_accepted hx1 hn).added
      simp only [answer, withLoop, Loop.setClosed_ring] at hc
      exact Or.inl (hadd.cq ▸ hc)
  | posted hp =>
    obtain ⟨d, hcq, -, -, -, x, hx, hseq, hd'⟩ := h.ring.post hp
    change c ∈ Ring.cq _ at hc
    simp only [withLoop, hcq] at hc
    rcases List.mem_append.mp hc with hc | hc
    · exact Or.inl hc
    · rw [List.mem_singleton.mp hc]
      exact Or.inr ⟨x, hx, by rw [hd']; exact hseq.symm, by rw [hd']⟩
  | dropped _ _ | skipped _ _ _ => exact Or.inl (htail _ rfl hc)
  | handled _ _ _ _ hh => exact Or.inl (htail _ hh.ring hc)
  | quiet _ hq => exact Or.inl (hq.ring.cq ▸ hc)
  | shutdown _ _ => exact absurd hd (by simp)

theorem TagInv.step (h : s.TagInv) (hg : s.SeparatesTags a) (hs : s.step a = .ok t)
    (hd : t.down = false) : t.TagInv := by
  have h' := h.base.step hs hd
  obtain ⟨-, hstep⟩ := step_cases h.base hs
  have hmono := hstep.subs_mono h.base hd
  have hnone : ∀ {i}, registryGet s.loop.registry i = none →
      registryGet t.loop.registry i = none := hstep.get_none h.base h' hd
  have hold : ∀ {seq : Nat} {data : Nat}, ((∃ sub ∈ s.subs, sub.seq = seq) ∨
      registryGet s.loop.registry (toInt data) = none) → (∃ sub ∈ t.subs, sub.seq = seq) ∨
      registryGet t.loop.registry (toInt data) = none := by
    intro seq data ho
    rcases ho with ⟨sub, hm, hq⟩ | hn
    · exact Or.inl ⟨sub, hmono sub hm, hq⟩
    · exact Or.inr (hnone hn)
  refine ⟨h', fun x hx => ?_, fun c hc => ?_⟩
  · rcases hstep.tagged h.base h' hg hd x hx with hx | hx
    · exact hold (h.pending x hx)
    · exact hx.weaken
  · rcases hstep.cq h.base hd c hc with hc | ⟨x, hx, hq, hu⟩
    · exact hold (h.cq c hc)
    · have := hold (h.pending x (List.mem_append_left _ hx))
      rw [← hq, ← hu] at this
      exact this

theorem TagInv.ignoresInternal (h : s.TagInv) : s.IgnoresInternal := by
  intro c hc hn env
  rcases h.cq c hc with ho | hget
  · exact absurd ho hn
  · unfold readCqe
    simp only [hget]

/-- The step puts tagged SQEs on the ring. -/
theorem TagInv.putsTagged (h : s.TagInv) (hg : s.SeparatesTags a) (hs : s.step a = .ok t) :
    s.PutsTagged a t := by
  obtain ⟨-, hstep⟩ := step_cases h.base hs
  intro x hx hnew
  cases hd : t.down with
  | false =>
    rcases hstep.tagged h.base (h.base.step hs hd) hg hd x hx with hx | hx
    · exact absurd hx hnew
    · exact hx
  | true =>
    obtain ⟨hds, -⟩ := step_cases h.base hs
    cases hstep with
    | called _ _ =>
      rw [answer_down, hds] at hd
      exact absurd hd (by simp)
    | posted _ | dropped _ _ | skipped _ _ _ | handled _ _ _ _ _ =>
      exact absurd (hds.symm.trans hd) (by simp)
    | quiet _ hq =>
      rw [hq.down, hds] at hd
      exact absurd hd (by simp)
    | shutdown _ hgr =>
      obtain ⟨hpend, hget⟩ := gracefulShutdown_pending hgr
      rcases hpend x hx with hx | hx
      · exact absurd hx hnew
      · exact Or.inr ⟨by rw [hx]; rfl, hget _⟩

/-! ## All runs -/

theorem newLoop_tagged {registrySize : Nat} {setup : SignalSetup} {wakeupFd submit : Int}
    (hsetup : setup.Separate registrySize) :
    ∀ x ∈ (uringioLoopInit registrySize setup wakeupFd submit).ring.pending,
      x.sqe.call.internal = true ∧
        registryGet (registryNew registrySize) (toInt x.sqe.userData) = none := by
  intro x hx
  rw [(uringioLoopInit_added registrySize setup wakeupFd submit).pending] at hx
  rcases List.mem_append.mp hx with hx | hx
  · exact absurd hx List.not_mem_nil
  · rcases List.mem_append.mp hx with hx | hx
    · refine ⟨?_, hsetup x hx⟩
      cases setup with
      | failed => exact absurd hx List.not_mem_nil
      | noMemory | armed =>
        rw [List.mem_singleton.mp hx]
        rfl
    · rw [List.mem_singleton.mp hx]
      refine ⟨rfl, ?_⟩
      show registryGet _ (toInt wakeupFdTag) = none
      rw [toInt_wakeupFdTag]
      exact RequestRegistry.registryGet_of_not_inRange (by simp [RequestRegistry.inRange])

theorem newLoop_tagInv {registrySize : Nat} {setup : SignalSetup} {wakeupFd submit : Int}
    (h : registrySize < 2 ^ 32) (hsetup : setup.Separate registrySize) :
    (init (uringioLoopInit registrySize setup wakeupFd submit)).TagInv :=
  ⟨newLoop_base h, fun x hx => Or.inr (newLoop_tagged hsetup x hx).2, fun c hc => by
    have hcq := (uringioLoopInit_added registrySize setup wakeupFd submit).cq
    change c ∈ (uringioLoopInit registrySize setup wakeupFd submit).ring.cq at hc
    rw [hcq] at hc
    exact absurd hc List.not_mem_nil⟩

/-- In every run of a new loop whose entries without a `user_data` of their own hold no index
    by accident, every SQE is tagged when it is put on the ring, and a CQE that is of no
    request does nothing. -/
theorem tags_separate {registrySize : Nat} {setup : SignalSetup} {wakeupFd submit : Int}
    (h : registrySize < 2 ^ 32) (hsetup : setup.Separate registrySize) {acts : List Act}
    (hg : Lib.Meets step SeparatesTags
      (init (uringioLoopInit registrySize setup wakeupFd submit)) acts)
    (hr : (init (uringioLoopInit registrySize setup wakeupFd submit)).run acts = .ok t) :
    (∀ x ∈ (uringioLoopInit registrySize setup wakeupFd submit).ring.pending,
      (init (uringioLoopInit registrySize setup wakeupFd submit)).Tagged x) ∧
    Lib.Each step PutsTagged (init (uringioLoopInit registrySize setup wakeupFd submit)) acts ∧
    (t.down = false → t.IgnoresInternal) := by
  have hstep : ∀ (s : System) a t, (s.down = false → s.TagInv) → s.SeparatesTags a →
      s.step a = .ok t → t.down = false → t.TagInv := by
    intro s a t hs hg ht hd
    exact (hs (down_of_step ht)).step hg ht hd
  have hinit : (init (uringioLoopInit registrySize setup wakeupFd submit)).down = false →
      (init (uringioLoopInit registrySize setup wakeupFd submit)).TagInv :=
    fun _ => newLoop_tagInv h hsetup
  refine ⟨fun x hx => Or.inr (newLoop_tagged hsetup x hx), ?_, fun hd => ?_⟩
  · exact hg.each hstep (fun s a t hs hg ht => (hs (down_of_step ht)).putsTagged hg ht) hinit
  · exact (Lib.Meets.invariant (fun s : System => s.down = false → s.TagInv) hstep hg hinit hr hd).ignoresInternal

/-- A `timeout_params` of one second. -/
def oneSecond : PyVal := .dict [("sec", .int 1), ("nsec", .int 0), ("is_required", .bool false)]

/-- Two sockets after each other, under the one index of the registry. -/
def twoSockets : List Act :=
  [.call (.prepSocket 2 1 none) .ok, .post 1 5 0, .read .ok, .call (.prepSocket 2 1 none) .ok]

theorem tags_separate_twoSockets :
    ∃ t, (init (uringioLoopInit 1 .failed 3 1)).run twoSockets = .ok t ∧
      (∀ x ∈ (uringioLoopInit 1 .failed 3 1).ring.pending,
        (init (uringioLoopInit 1 .failed 3 1)).Tagged x) ∧
      Lib.Each step PutsTagged (init (uringioLoopInit 1 .failed 3 1)) twoSockets ∧
      (t.down = false → t.IgnoresInternal) := by
  obtain ⟨t, ht, -⟩ : ∃ t,
      (init (uringioLoopInit 1 .failed 3 1)).run twoSockets = .ok t ∧ True := by
    decide +kernel
  exact ⟨t, ht, tags_separate (by decide) (fun _ hx => absurd hx List.not_mem_nil)
    (by decide +kernel) ht⟩

/-- The first socket gets a linked timeout, whose CQE arrives when the second one is under
    way. -/
def timedSockets : List Act :=
  [.call (.prepSocket 2 1 (some oneSecond)) .ok, .post 1 5 0, .read .ok,
    .call (.prepSocket 2 1 none) .ok, .post 2 (-125) 0, .read .ok]

/-- The linked timeout carries the index 0, and its CQE makes the second request fail while
    the kernel still has it. -/
theorem linkedTimeout_resolves_request :
    (∃ t, (init (uringioLoopInit 1 .failed 3 1)).run (timedSockets.take 1) = .ok t ∧
      ∃ x ∈ t.loop.ring.pending, ¬ t.Tagged x) ∧
    ∃ t, (init (uringioLoopInit 1 .failed 3 1)).run timedSockets = .ok t ∧
      t.loop.calls 1 = [.setException (.osError 125)] ∧
      t.loop.ring.inflight.map Flight.seq = [0, 3] := by
  decide +kernel

end System

end Uringio
