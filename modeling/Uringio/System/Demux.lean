/-
  Completions of a loop in its default context.

  Without timeouts, and as long as no call fails after it has taken an SQE, every SQE of the
  ring is that of a request, the wakeup read or the signal poll. If the kernel then posts
  one CQE for each request, the live slots are those of the requests that wait for their
  CQE, and each future is told exactly once, with the result of its own CQE (`demux`).
-/
import Uringio.System.Requests
import Uringio.Reader.Results

namespace Uringio

/-- The operation is a poll. -/
def PrepCall.isPoll : PrepCall → Bool
  | .pollAdd _ _ => true
  | _ => false

namespace System

/-! ## The runs -/

/-- The call fails without having taken an SQE, or it does not fail. -/
def TakesNoSqe (s : System) (call : OpCall) (env : CallEnv) : Prop :=
  match call.run env s.loop with
  | .ok (.error _, l) => l.ring.tail = s.loop.ring.tail
  | _ => True

instance (s : System) (call : OpCall) (env : CallEnv) : Decidable (s.TakesNoSqe call env) := by
  unfold TakesNoSqe
  split <;> infer_instance

/-- An action in the default context: a call without a timeout that takes no SQE when it
    fails, a submission, a wakeup, the one CQE of an SQE other than the signal poll, or an
    iteration of the reader with enough memory. -/
def DefaultStep (s : System) (a : Act) : Prop :=
  match a with
  | .call call env => (call.timeoutArg = none ∨ call.timeoutArg = some .none) ∧
      s.TakesNoSqe call env
  | .submit _ | .wake => True
  | .post seq res flags => (⟨0, res, flags, seq⟩ : Cqe).hasMore = false ∧
      ∀ x ∈ s.loop.ring.inflight, x.seq = seq → x.sqe.call.isPoll = false
  | .read env => env = .ok
  | _ => False

instance (s : System) (a : Act) : Decidable (s.DefaultStep a) := by
  apply Act.casesOn (motive := fun a => Decidable (s.DefaultStep a)) a <;> intros <;>
    dsimp only [DefaultStep] <;> infer_instance

/-! ## What holds -/

/-- The slots are those of the waiting requests, each future was called once its own CQE was
    consumed and only then, and the reader never stops. -/
structure Demultiplexed (s : System) : Prop where
  live : ∀ i slot, s.loop.registry.liveSlot i = some slot ↔
    ∃ sub ∈ s.subs, s.Waiting sub ∧ sub.index = i ∧ slot = sub.registration.slot i
  index : ∀ sub ∈ s.subs, ∀ sub' ∈ s.subs, s.Waiting sub → s.Waiting sub' →
    sub.index = sub'.index → sub = sub'
  waiting : ∀ sub ∈ s.subs, s.Waiting sub → s.loop.calls sub.registration.future = []
  completed : ∀ sub ∈ s.subs, ∀ c ∈ s.seen, c.seq = sub.seq →
    s.loop.calls sub.registration.future =
      [completion s.loop.heap (sub.registration.slot sub.index) c.res]
  reader : s.loop.ring.cq ≠ [] → ∃ t, s.step (.read .ok) = .ok t

/-- The invariant of these runs. -/
structure DemuxInv (s : System) : Prop where
  base : s.Base
  up : s.down = false
  kept : s.Kept
  context : s.loop.context = some .default
  contexts : s.contexts = []
  stream : ∀ sub ∈ s.subs, sub.registration.streamStrategy = .oneshot
  sqes : ∀ x ∈ s.loop.ring.pending, (∃ sub ∈ s.subs, sub.seq = x.seq) ∨
    x.sqe.userData = wakeupFdTag ∨ x.sqe.call.isPoll = true
  cqes : ∀ c ∈ s.loop.ring.cq, s.OfRequest c ∨ c.userData = wakeupFdTag
  last : ∀ c ∈ s.posted, c.hasMore = false
  freed : ∀ sub ∈ s.subs, ¬ s.Waiting sub → ¬ s.Holds sub
  fresh : ∀ f, s.loop.nextFuture ≤ f → s.loop.calls f = []
  waiting : ∀ sub ∈ s.subs, s.Waiting sub → s.loop.calls sub.registration.future = []
  completed : ∀ sub ∈ s.subs, ∀ c ∈ s.seen, c.seq = sub.seq →
    s.loop.calls sub.registration.future =
      [completion s.loop.heap (sub.registration.slot sub.index) c.res]

namespace DemuxInv

variable {s t : System} {a : Act} {sub : Submitted} {c : Cqe} {cs : List Cqe}

theorem plainRequest (h : s.DemuxInv) (hm : sub ∈ s.subs) : PlainRequest s.loop sub :=
  ⟨h.contexts ▸ h.base.heap.holds sub hm, h.stream sub hm, h.base.objects.names sub hm,
    h.base.objects.socket sub hm⟩

/-- Before the last CQE of a request was consumed none was. -/
theorem waiting_of_next (h : s.DemuxInv) (hcq : s.loop.ring.cq = c :: cs)
    (hs : sub.seq = c.seq) : s.Waiting sub := by
  intro d hd he
  have hmore := h.base.unfinished_of_next hcq hs d hd he
  rw [h.last d (Base.mem_posted_of_seen hd)] at hmore
  exact absurd hmore (by simp)

/-- The next CQE is of a request, or it decodes to no slot. -/
theorem next_cases (h : s.DemuxInv) (hcq : s.loop.ring.cq = c :: cs) :
    (∃ sub ∈ s.subs, sub.seq = c.seq ∧ s.Waiting sub ∧
      toInt c.userData = sub.index ∧ s.Holds sub) ∨
    (¬ s.OfRequest c ∧ s.loop.registry.liveSlot (toInt c.userData) = none) := by
  have hmem : c ∈ s.loop.ring.cq := hcq ▸ List.mem_cons_self ..
  by_cases ho : s.OfRequest c
  · obtain ⟨sub, hm, hs⟩ := ho
    have hw := h.waiting_of_next hcq hs
    exact Or.inl ⟨sub, hm, hs, hw, h.base.decode (Base.mem_posted_of_cq hmem) hm hs,
      h.kept sub hm hw.unfinished⟩
  · refine Or.inr ⟨ho, ?_⟩
    have htag := (h.cqes c hmem).resolve_left ho
    cases hl : s.loop.registry.liveSlot (toInt c.userData) with
    | none => rfl
    | some slot => exact absurd htag (ne_wakeupFdTag_of_live hl)

theorem lastCqe (h : s.DemuxInv) (a : Act) : s.LastCqe a := by
  intro env _ c slot hn
  obtain ⟨cs, hcq, hl⟩ := nextSlot_eq_some.mp hn
  refine ⟨?_, h.last c (Base.mem_posted_of_cq (hcq ▸ List.mem_cons_self ..))⟩
  rcases h.next_cases hcq with ⟨sub, hm, hs, -⟩ | ⟨-, hdead⟩
  · exact ⟨sub, hm, hs⟩
  · rw [hdead] at hl
    exact absurd hl (by simp)

/-- The reader can always go on. -/
theorem reader (h : s.DemuxInv) (hne : s.loop.ring.cq ≠ []) : ∃ t, s.step (.read .ok) = .ok t := by
  obtain ⟨c, cs, hcq⟩ := List.exists_cons_of_ne_nil hne
  have hstep : ∀ l1, readCqe .ok s.loop c = .ok l1 → ∃ t, s.step (.read .ok) = .ok t := by
    intro l1 hr
    refine ⟨s.consume c l1, ?_⟩
    unfold step stepRead
    rw [h.up, if_neg (by simp)]
    simp only [hcq, hr]
    rfl
  rcases h.next_cases hcq with ⟨sub, hm, -, -, hi, hh⟩ | ⟨-, hdead⟩
  · have hl : s.loop.registry.liveSlot (toInt c.userData) =
        some (sub.registration.slot sub.index) := by
      rw [hi]
      exact hh
    obtain ⟨future, hf, he⟩ := readCqe_of_live .ok hl
    obtain rfl : sub.registration.future = future := Option.some.inj hf
    obtain ⟨l1, h1, -⟩ := readLive_completes (h.plainRequest hm)
      (h.base.registry.sound.valid_of_live hh) hh (ne_wakeupFdTag_of_live hl)
    rw [← hi] at h1 he
    exact hstep l1 (he.trans h1)
  · exact hstep _ (readCqe_of_dead hdead)

theorem demultiplexed (h : s.DemuxInv) : s.Demultiplexed := by
  refine ⟨fun i slot => ⟨fun hl => ?_, fun hs => ?_⟩, fun x hx y hy hwx hwy hi => ?_, h.waiting,
    h.completed, h.reader⟩
  · obtain ⟨sub, hm, rfl, rfl⟩ := h.base.request hl
    refine ⟨sub, hm, ?_, rfl, rfl⟩
    by_contra hw
    exact h.freed sub hm hw hl
  · obtain ⟨sub, hm, hw, rfl, rfl⟩ := hs
    exact h.kept sub hm hw.unfinished
  · exact h.base.eq_of_holds hx hy (h.kept x hx hwx.unfinished) (h.kept y hy hwy.unfinished) hi

end DemuxInv

/-! ## One step -/

section Step

variable {s t : System} {a : Act}

/-- The steps that consume no CQE and accept no request. -/
theorem DemuxInv.same (h : s.DemuxInv) (hb : t.Base) (hk : t.Kept) (hup : t.down = false)
    (hctx : t.loop.context = some .default) (hcs : t.contexts = [])
    (hev : s.loop.heap.Evolves t.loop.heap) (hsubs : t.subs = s.subs) (hseen : t.seen = s.seen)
    (hlive : ∀ j, t.loop.registry.liveSlot j = s.loop.registry.liveSlot j)
    (hpend : ∀ x ∈ t.loop.ring.pending, x ∈ s.loop.ring.pending)
    (hcq : ∀ c ∈ t.loop.ring.cq, c ∈ s.loop.ring.cq ∨ c.hasMore = false ∧
      (t.OfRequest c ∨ c.userData = wakeupFdTag))
    (hlog : t.loop.callLog = s.loop.callLog) (hnf : s.loop.nextFuture ≤ t.loop.nextFuture) :
    t.DemuxInv := by
  have hw : ∀ sub, t.Waiting sub ↔ s.Waiting sub := fun sub => by
    unfold Waiting
    rw [hseen]
  have hcalls : ∀ f, t.loop.calls f = s.loop.calls f := Loop.calls_of_callLog hlog
  refine ⟨hb, hup, hk, hctx, hcs, hsubs ▸ h.stream, fun x hx => ?_, fun c hc => ?_,
    fun c hc => ?_, fun sub hm hnw hh => ?_, fun f hf => ?_, fun sub hm hwt => ?_,
    fun sub hm c hc he => ?_⟩
  · rw [hsubs]
    exact h.sqes x (hpend x hx)
  · rcases hcq c hc with hc | ⟨-, hc⟩
    · unfold OfRequest
      rw [hsubs]
      exact h.cqes c hc
    · exact hc
  · rcases List.mem_append.mp hc with hc | hc
    · rw [hseen] at hc
      exact h.last c (List.mem_append_left _ hc)
    · rcases hcq c hc with hc | ⟨hmore, -⟩
      · exact h.last c (List.mem_append_right _ hc)
      · exact hmore
  · rw [hsubs] at hm
    rw [hw] at hnw
    exact h.freed sub hm hnw (hh.congr (hlive _).symm)
  · rw [hcalls]
    exact h.fresh f (Nat.le_trans hnf hf)
  · rw [hcalls]
    exact h.waiting sub (hsubs ▸ hm) ((hw sub).mp hwt)
  · rw [hsubs] at hm
    rw [hseen] at hc
    rw [hcalls, completion_congr (h.plainRequest hm).payload hev]
    exact h.completed sub hm c hc he

/-- Without a timeout there is no linked SQE. -/
theorem linkTimeoutEntry_of_none {call : OpCall} {l : Loop} {g : Grown} {req : Request}
    (hp : Prepared call l g req) (ht : call.timeoutArg = none ∨ call.timeoutArg = some .none)
    (op : COp) (r : Ring) : linkTimeoutEntry r (op.linked req.timeoutParams) = [] := by
  obtain ⟨pending, hparse⟩ := hp.timeout
  have hzero : req.timeoutParams = .zero := by
    rcases ht with ht | ht
    · rw [ht] at hparse
      exact (congrArg Prod.fst (Except.ok.inj hparse)).symm
    · rw [ht] at hparse
      exact (congrArg Prod.fst (Except.ok.inj hparse)).symm
  have hlinked : op.linked req.timeoutParams = .zero := by
    rw [hzero]
    cases op with
    | _ => rfl
  rw [hlinked]
  unfold linkTimeoutEntry
  rw [if_neg (by simp)]

theorem DemuxInv.accepted (h : s.DemuxInv) {call : OpCall} {env : CallEnv}
    (ht : call.timeoutArg = none ∨ call.timeoutArg = some .none) {g : Grown} {req : Request}
    {op : COp} {heap : Heap} {ring : Ring} {n : Int} {r : Submitted × Loop}
    (hr : r = (⟨req.registration, (registryAdd s.loop.registry req.registration).1,
        s.loop.ring.tail, op, req.payload, req.pending⟩,
      (s.loop.afterCall g (registryAdd s.loop.registry req.registration).2 heap ring).setClosed
        true call.flag))
    (hb : (s.answer (.ok r.1, r.2)).Base) (hk : (s.answer (.ok r.1, r.2)).Kept)
    (hev : s.loop.heap.Evolves (s.answer (.ok r.1, r.2)).loop.heap)
    (hp : Prepared call s.loop g req) (htop : ¬ s.loop.registry.top < 0)
    (hx : op.exec s.loop.ring (registryAdd s.loop.registry req.registration).1 req.timeoutParams
      env.submit = (n, ring)) (hn : ¬ n < 1) : (s.answer (.ok r.1, r.2)).DemuxInv := by
  have hadd := (COp.exec_accepted hx hn).added
  rw [linkTimeoutEntry_of_none hp ht] at hadd
  have hring : (s.answer (.ok r.1, r.2)).loop.ring = ring := by
    rw [hr]
    simp only [answer, withLoop, Loop.setClosed_ring]
    rfl
  have hlog : (s.answer (.ok r.1, r.2)).loop.callLog = s.loop.callLog := by
    rw [hr]
    simp only [answer, withLoop, Loop.setClosed_callLog]
    rfl
  have hcalls : ∀ f, (s.answer (.ok r.1, r.2)).loop.calls f = s.loop.calls f :=
    Loop.calls_of_callLog hlog
  have hctx : (s.answer (.ok r.1, r.2)).loop.context = s.loop.context := by
    rw [hr]
    simp only [answer, withLoop, Loop.setClosed_context]
    rfl
  have hnf : (s.answer (.ok r.1, r.2)).loop.nextFuture = s.loop.nextFuture + 1 := by
    rw [hr]
    simp only [answer, withLoop, Loop.setClosed_nextFuture, Loop.afterCall, Loop.grow, hp.futures]
  have hnew : s.Waiting r.1 := h.base.waiting_of_tail (by rw [hr])
  have hfuture : r.1.registration.future = s.loop.nextFuture := by
    rw [hr]
    exact hp.future
  have hseq : r.1.seq = s.loop.ring.tail := by rw [hr]
  refine ⟨hb, h.up, hk, hctx.trans h.context, h.contexts, fun sub hm => ?_, fun x hx => ?_,
    fun c hc => ?_, fun c hc => ?_, fun sub hm hnw hh => ?_, fun f hf => ?_, fun sub hm hwt => ?_,
    fun sub hm c hc he => ?_⟩
  · rcases List.mem_cons.mp hm with rfl | hm
    · rw [hr]
      rcases hp.stream with hs | ⟨-, c, hc, hs⟩
      · exact hs
      · rw [h.context] at hc
        obtain rfl := Option.some.inj hc
        exact hs
    · exact h.stream sub hm
  · rw [hring, hadd.pending] at hx
    rcases List.mem_append.mp hx with hx | hx
    · rcases h.sqes x hx with ⟨sub, hm, hs⟩ | hx
      · exact Or.inl ⟨sub, List.mem_cons_of_mem _ hm, hs⟩
      · exact Or.inr hx
    · rw [List.mem_singleton.mp hx]
      exact Or.inl ⟨r.1, List.mem_cons_self .., hseq⟩
  · rw [hring, hadd.cq] at hc
    rcases h.cqes c hc with ⟨sub, hm, hs⟩ | hc
    · exact Or.inl ⟨sub, List.mem_cons_of_mem _ hm, hs⟩
    · exact Or.inr hc
  · unfold System.posted at hc
    rw [hring, hadd.cq] at hc
    exact h.last c hc
  · rcases List.mem_cons.mp hm with rfl | hm
    · exact hnw hnew
    · -- a slot of its own it has no more, and that of the new request is another one
      by_cases hi : sub.index = r.1.index
      · have hne := hb.eq_of_holds (List.mem_cons_of_mem _ hm) (List.mem_cons_self ..) hh
          (hk r.1 (List.mem_cons_self ..) hnew.unfinished) hi
        rw [hne] at hnw
        exact hnw hnew
      · refine h.freed sub hm hnw ?_
        obtain ⟨-, -, -, -, hlive⟩ :=
          (h.base.registry.sound.valid_of_room htop).add req.registration htop
        refine hh.congr (Eq.symm ?_)
        rw [hr] at hi ⊢
        simp only [answer, withLoop, Loop.setClosed_registry, Loop.afterCall]
        rw [hlive, if_neg hi]
  · rw [hcalls]
    rw [hnf] at hf
    exact h.fresh f (Nat.le_of_succ_le hf)
  · rw [hcalls]
    rcases List.mem_cons.mp hm with rfl | hm
    · rw [hfuture]
      exact h.fresh _ (Nat.le_refl _)
    · exact h.waiting sub hm hwt
  · rw [hcalls]
    rcases List.mem_cons.mp hm with rfl | hm
    · exact absurd he (hnew c hc)
    · rw [completion_congr (h.plainRequest hm).payload hev]
      exact h.completed sub hm c hc he

/-- A CQE of no request was consumed. -/
theorem DemuxInv.dropped (h : s.DemuxInv) {c : Cqe} {cs : List Cqe}
    (hcq : s.loop.ring.cq = c :: cs)
    (hdead : s.loop.registry.liveSlot (toInt c.userData) = none) :
    (s.consume c s.loop.cqeSeen).DemuxInv := by
  have hnot : ¬ s.OfRequest c := by
    rcases h.next_cases hcq with ⟨sub, -, -, -, hi, hh⟩ | ⟨hn, -⟩
    · rw [hi] at hdead
      exact absurd (hdead.symm.trans hh) (by simp)
    · exact hn
  have hposted : (s.consume c s.loop.cqeSeen).posted = s.posted := posted_consume hcq rfl
  have hwait : ∀ sub ∈ s.subs, s.Waiting sub → (s.consume c s.loop.cqeSeen).Waiting sub := by
    intro sub hm hw d hd he
    rcases List.mem_cons.mp hd with rfl | hd
    · exact hnot ⟨sub, hm, he.symm⟩
    · exact hw d hd he
  refine ⟨h.base.dropped hcq rfl, h.up, fun sub hm hu => ?_, h.context, h.contexts, h.stream,
    h.sqes, fun d hd => ?_, fun d hd => ?_, fun sub hm hnw => ?_, h.fresh, fun sub hm hw => ?_,
    fun sub hm d hd he => ?_⟩
  · exact h.kept sub hm (Unfinished.of_cons (c := c) rfl hu)
  · exact h.cqes d (List.mem_of_mem_tail hd)
  · exact h.last d (hposted ▸ hd)
  · exact h.freed sub hm fun hw => hnw (hwait sub hm hw)
  · exact h.waiting sub hm (Waiting.of_cons (c := c) rfl hw)
  · rcases List.mem_cons.mp hd with rfl | hd
    · exact absurd ⟨sub, hm, he.symm⟩ hnot
    · exact h.completed sub hm d hd he

/-- The CQE of a request was consumed. -/
theorem DemuxInv.handled (h : s.DemuxInv) {c : Cqe} {cs : List Cqe} {slot : RequestSlot}
    {future : FutureId} {l1 : Loop} (hcq : s.loop.ring.cq = c :: cs)
    (hl : s.loop.registry.liveSlot (toInt c.userData) = some slot)
    (hf : slot.future = some future)
    (hr : readLive .ok s.loop (toInt c.userData) slot future c = .ok l1)
    (hh : Handled s.loop (toInt c.userData) slot future c l1) (hk : (s.consume c l1).Kept)
    (hev : s.loop.heap.Evolves l1.heap) : (s.consume c l1).DemuxInv := by
  obtain ⟨own, hm, hseq, hwait, hi, hown⟩ := (h.next_cases hcq).resolve_right fun hd => by
    rw [hd.2] at hl
    exact absurd hl (by simp)
  have hslot : slot = own.registration.slot own.index := by
    rw [hi] at hl
    exact Option.some.inj (hl.symm.trans hown)
  subst hslot
  obtain rfl : own.registration.future = future := Option.some.inj hf
  have hlog : l1.callLog = s.loop.callLog ++ [(own.registration.future,
      completion s.loop.heap (own.registration.slot own.index) c.res)] := by
    obtain ⟨m, hm', hlog⟩ := readLive_completes (h.plainRequest hm)
      (h.base.registry.sound.valid_of_live hown) hown (ne_wakeupFdTag_of_live hl)
    rw [hi, hm'] at hr
    rw [← Except.ok.inj hr]
    exact hlog
  have hcalls : ∀ f, l1.calls f = s.loop.calls f ++ (if own.registration.future = f then
      [completion s.loop.heap (own.registration.slot own.index) c.res] else []) := by
    intro f
    unfold Loop.calls
    rw [hlog, List.filter_append, List.map_append]
    by_cases hfut : own.registration.future = f
    · simp [hfut]
    · simp [hfut]
  have hother : ∀ sub ∈ s.subs, sub.seq ≠ c.seq → l1.calls sub.registration.future =
      s.loop.calls sub.registration.future := by
    intro sub hs hne
    rw [hcalls, if_neg, List.append_nil]
    intro hfut
    rw [h.base.futures.eq hm hs hfut] at hseq
    exact hne hseq
  have hposted : (s.consume c l1).posted = s.posted := posted_consume hcq hh.ring
  have hpend : l1.ring.pending = s.loop.ring.pending := by
    rw [hh.ring]
    rfl
  refine ⟨h.base.handled hcq hl hh, h.up, hk, hh.context.trans h.context, h.contexts, h.stream,
    fun x hx => ?_, fun d hd => ?_, fun d hd => ?_, fun sub hs hnw hhold => ?_, fun f hle => ?_,
    fun sub hs hw => ?_, fun sub hs d hd he => ?_⟩
  · exact h.sqes x (hpend ▸ hx)
  · refine h.cqes d ?_
    change d ∈ l1.ring.cq at hd
    rw [hh.ring] at hd
    exact List.mem_of_mem_tail hd
  · exact h.last d (hposted ▸ hd)
  · have hlive := hh.live sub.index
    unfold Holds at hhold
    change l1.registry.liveSlot sub.index = _ at hhold
    rw [hlive] at hhold
    by_cases hs' : sub.index = toInt c.userData
    · rw [if_pos hs'] at hhold
      exact absurd hhold (by simp)
    · rw [if_neg hs'] at hhold
      refine h.freed sub hs (fun hw => hnw fun d hd he => ?_) hhold
      rcases List.mem_cons.mp hd with rfl | hd
      · rw [h.base.eq_of_seq hs hm (he.symm.trans hseq.symm)] at hs'
        exact hs' hi.symm
      · exact hw d hd he
  · change l1.nextFuture ≤ f at hle
    rw [hh.nextFuture] at hle
    show l1.calls f = []
    rw [hcalls, h.fresh f hle, if_neg, List.append_nil]
    intro hfut
    have hlt := h.base.futures.lt own hm
    rw [hfut] at hlt
    exact absurd hle (Nat.not_le_of_lt hlt)
  · have hne : sub.seq ≠ c.seq := fun he => hw c (List.mem_cons_self ..) he.symm
    show l1.calls sub.registration.future = []
    rw [hother sub hs hne]
    exact h.waiting sub hs (Waiting.of_cons (c := c) rfl hw)
  · show l1.calls sub.registration.future = [completion l1.heap _ d.res]
    rw [completion_congr (h.plainRequest hs).payload hev]
    by_cases hne : sub.seq = c.seq
    · obtain rfl := h.base.eq_of_seq hs hm (hne.trans hseq.symm)
      rcases List.mem_cons.mp hd with rfl | hd
      · rw [hcalls, if_pos rfl, h.waiting sub hs hwait]
        rfl
      · exact absurd he (hwait d hd)
    · rw [hother sub hs hne]
      rcases List.mem_cons.mp hd with rfl | hd
      · exact absurd he.symm hne
      · exact h.completed sub hs d hd he

theorem DemuxInv.called (h : s.DemuxInv) {call : OpCall} {env : CallEnv}
    (hg : s.DefaultStep (.call call env)) {r : Except (Option PyErr) Submitted × Loop}
    (hr : call.run env s.loop = .ok r) (ho : RunOutcome call env s.loop r) :
    (s.answer r).DemuxInv := by
  have hup : (s.answer r).down = false := by
    rw [answer_down]
    exact h.up
  have hstep : Stepped s (.call call env) (s.answer r) := .called hr ho
  have hb := h.base.called ho
  have hk := h.kept.step h.base (h.lastCqe _) (hstep.effect h.base hup)
  have hev := hstep.evolves hup
  cases ho with
  | refused href =>
    obtain ⟨g, rfl, -⟩ := href
    exact h.same hb hk hup h.context h.contexts hev rfl rfl (fun _ => rfl) (fun _ hx => hx)
      (fun _ hc => Or.inl hc) rfl (Nat.le_add_right _ _)
  | full _ _ _ _ =>
    exact h.same hb hk hup h.context h.contexts hev rfl rfl (fun _ => rfl) (fun _ hx => hx)
      (fun _ hc => Or.inl hc) rfl (Nat.le_add_right _ _)
  | @rejected g req e op heap1 heap reg ring n _ _ _ _ hx hn _ _ hlive _ =>
    have htail := hg.2
    unfold TakesNoSqe at htail
    rw [hr] at htail
    dsimp only at htail
    rw [Loop.setClosed_ring] at htail
    have hadd := COp.exec_rejected_same hx hn htail
    refine h.same hb hk hup ?_ h.contexts hev rfl rfl (fun j => ?_) (fun x hx => ?_)
      (fun c hc => ?_) ?_ ?_
    · simp only [answer, withLoop, Loop.setClosed_context]
      exact h.context
    · simp only [answer, withLoop, Loop.setClosed_registry]
      exact hlive j
    · simp only [answer, withLoop, Loop.setClosed_ring] at hx
      change x ∈ ring.pending at hx
      rw [hadd.pending, List.append_nil] at hx
      exact hx
    · simp only [answer, withLoop, Loop.setClosed_ring] at hc
      exact Or.inl (hadd.cq ▸ hc)
    · simp only [answer, withLoop, Loop.setClosed_callLog]
      rfl
    · simp only [answer, withLoop, Loop.setClosed_nextFuture]
      exact Nat.le_add_right _ _
  | accepted _ hp htop _ hx hn _ => exact h.accepted hg.1 rfl hb hk hev hp htop hx hn

/-- The invariant is kept by every step of these runs. -/
theorem DemuxInv.step (h : s.DemuxInv) (hg : s.DefaultStep a) (hs : s.step a = .ok t) :
    t.DemuxInv := by
  obtain ⟨-, hstep⟩ := step_cases h.base hs
  have hfull : t.down = false → t.Base ∧ t.Kept ∧ s.loop.heap.Evolves t.loop.heap := fun hd =>
    ⟨h.base.step hs hd, h.kept.step h.base (h.lastCqe a) (hstep.effect h.base hd),
      hstep.evolves hd⟩
  cases hstep with
  | called hr ho => exact h.called hg hr ho
  | posted hp =>
    obtain ⟨hb, hk, hev⟩ := hfull h.up
    obtain ⟨c, hcq, hseq, -, hsub, x, hx, hxs, hc⟩ := h.base.ring.post hp
    refine h.same hb hk h.up h.context h.contexts hev rfl rfl (fun _ => rfl) hsub
      (fun d hd => ?_) rfl (Nat.le_refl _)
    change d ∈ Ring.cq _ at hd
    simp only [withLoop, hcq] at hd
    rcases List.mem_append.mp hd with hd | hd
    · exact Or.inl hd
    · rw [List.mem_singleton.mp hd]
      refine Or.inr ⟨by rw [hc]; exact hg.1, ?_⟩
      rcases h.sqes x (List.mem_append_left _ hx) with ⟨sub, hm, hq⟩ | htag | hpoll
      · exact Or.inl ⟨sub, hm, hq.trans (hxs.trans hseq.symm)⟩
      · exact Or.inr (by rw [hc]; exact htag)
      · rw [hg.2 x hx hxs] at hpoll
        exact absurd hpoll (by simp)
  | dropped hcq hdead => exact h.dropped hcq hdead
  | skipped _ _ ho =>
    rw [show _ = ReadEnv.ok from hg] at ho
    exact absurd ho (by simp [ReadEnv.ok])
  | handled hcq hl hf hr hh =>
    obtain ⟨-, hk, hev⟩ := hfull h.up
    rw [show _ = ReadEnv.ok from hg] at hr
    exact h.handled hcq hl hf hr hh hk hev
  | quiet ha hq =>
    have hup : t.down = false := hq.down.trans h.up
    obtain ⟨hb, hk, hev⟩ := hfull hup
    have hextra : t.loop.ring.pending = s.loop.ring.pending ∧
        t.loop.context = s.loop.context ∧ t.contexts = s.contexts := by
      unfold System.step at hs
      rw [h.up, if_neg (by simp)] at hs
      cases a with
      | submit result =>
        obtain rfl := Except.ok.inj hs
        have hadd := Ring.added_ioUringSubmit (r := s.loop.ring) result
        exact ⟨hadd.pending.trans (List.append_nil _), rfl, rfl⟩
      | wake =>
        obtain rfl := Except.ok.inj hs
        exact ⟨rfl, rfl, rfl⟩
      | call _ _ | post _ _ _ | read _ | shutdown _ _ => exact absurd ha (by simp [Act.quiet])
      | _ => exact hg.elim
    refine h.same hb hk hup (hextra.2.1.trans h.context) (hextra.2.2.trans h.contexts) hev
      hq.subs hq.seen (fun j => by rw [hq.registry]) (fun x hx => hextra.1 ▸ hx) (fun c hc => ?_)
      hq.callLog (Nat.le_of_eq hq.nextFuture.symm)
    exact Or.inl (hq.ring.cq ▸ hc)
  | shutdown _ _ => exact hg.elim

end Step

/-! ## All runs -/

theorem newLoop_demuxInv {registrySize : Nat} {setup : SignalSetup} {wakeupFd submit : Int}
    (h : registrySize < 2 ^ 32) :
    (init (uringioLoopInit registrySize setup wakeupFd submit)).DemuxInv := by
  have hadd := uringioLoopInit_added registrySize setup wakeupFd submit
  have hposted : (init (uringioLoopInit registrySize setup wakeupFd submit)).posted = [] := by
    unfold System.posted init
    dsimp only
    rw [hadd.cq]
    rfl
  refine ⟨newLoop_base h, rfl, init_kept, rfl, rfl, by simp [init], fun x hx => Or.inr ?_,
    fun c hc => ?_, fun c hc => ?_, by simp [init], fun f _ => rfl, by simp [init],
    by simp [init]⟩
  · change x ∈ (uringioLoopInit registrySize setup wakeupFd submit).ring.pending at hx
    rw [hadd.pending] at hx
    rcases List.mem_append.mp hx with hx | hx
    · exact absurd hx List.not_mem_nil
    · rcases List.mem_append.mp hx with hx | hx
      · refine Or.inr ?_
        cases setup with
        | failed => exact absurd hx List.not_mem_nil
        | noMemory | armed =>
          rw [List.mem_singleton.mp hx]
          rfl
      · rw [List.mem_singleton.mp hx]
        exact Or.inl rfl
  · change c ∈ (uringioLoopInit registrySize setup wakeupFd submit).ring.cq at hc
    rw [hadd.cq] at hc
    exact absurd hc List.not_mem_nil
  · rw [hposted] at hc
    exact absurd hc List.not_mem_nil

/-- Two sockets whose CQEs arrive in the other order, with a wakeup between them, and a third
    one under the index that comes free first. -/
def reorderedSockets : List Act :=
  [.call (.prepSocket 2 1 none) .ok, .call (.prepSocket 10 1 (some .none)) .ok, .wake,
    .post 2 6 0, .post 0 8 0, .read .ok, .call (.prepSocket 2 2 none) .ok, .post 1 (-24) 0,
    .read .ok, .read .ok]

end System

end Uringio
