/-
  Requests with more than one completion.

  The reader does not look at IORING_CQE_F_MORE: it releases the payload and gives the index
  back with the first CQE. A request that is to get more CQEs is safe only as long as no
  payload of its own goes with its slot and nobody takes its index from the stack
  (`continued_keeps`). The branch that arms a multishot `recvmsg` again is never reached.
-/
import Uringio.System.Requests

namespace Uringio

namespace System

/-- The last CQE of the request that was consumed announced another one. -/
def Continued (s : System) (sub : Submitted) : Prop :=
  ∃ c, s.seen.find? (fun c => c.seq == sub.seq) = some c ∧ c.hasMore = true

instance (s : System) (sub : Submitted) : Decidable (s.Continued sub) :=
  match h : s.seen.find? (fun c => c.seq == sub.seq) with
  | none => .isFalse fun hc => by
      obtain ⟨c, hc, -⟩ := hc
      rw [h] at hc
      exact absurd hc (by simp)
  | some c => decidable_of_iff (c.hasMore = true) (by
      constructor
      · exact fun hm => ⟨c, h, hm⟩
      · intro hc
        obtain ⟨d, hd, hm⟩ := hc
        rw [h] at hd
        exact Option.some.inj hd ▸ hm)

/-- The payload of the slot was made for its request. -/
def OwnPayload (heap : Heap) (slot : RequestSlot) : Prop :=
  ∃ p, slot.bufferPayload = some p ∧ ∃ b, heap.payloads[p]? = some b ∧ b.mode = .normalBuf

instance (heap : Heap) (slot : RequestSlot) : Decidable (OwnPayload heap slot) :=
  match h : slot.bufferPayload with
  | none => .isFalse fun ho => by
      obtain ⟨p, hp, -⟩ := ho
      rw [h] at hp
      exact absurd hp (by simp)
  | some p =>
    decidable_of_iff ((heap.payloads[p]?).any fun b => b.mode == .normalBuf) (by
      rw [Option.any_eq_true]
      constructor
      · intro hb
        obtain ⟨b, hb, hm⟩ := hb
        exact ⟨p, h, b, hb, by simpa using hm⟩
      · intro ho
        obtain ⟨q, hq, b, hb, hm⟩ := ho
        rw [h] at hq
        obtain rfl := Option.some.inj hq
        exact ⟨b, hb, by simpa using hm⟩)

/-- The next CQE, if it has a live slot, is of a request, and no payload of the request's own
    goes with it if another CQE is to come. -/
def SafeRead (s : System) : Prop :=
  ∀ x, s.nextSlot = some x →
    s.OfRequest x.1 ∧ (x.1.hasMore = true → ¬ OwnPayload s.loop.heap x.2)

/-- The index on top of the stack, which a call that comes to its submission gets, is not
    that of a request with another CQE to come. -/
def SafeCall (s : System) (call : OpCall) (env : CallEnv) : Prop :=
  (s.submission call env).isSome = true →
    ∀ sub ∈ s.subs, s.Continued sub → s.nextIndex ≠ some sub.index

/-- The action gives away nothing of a request with another CQE to come. -/
def SafeStep (s : System) (a : Act) : Prop :=
  match a with
  | .call call env => s.SafeCall call env
  | .read _ => s.SafeRead
  | _ => True

instance (s : System) : Decidable s.SafeRead := by
  unfold SafeRead
  cases s.nextSlot with
  | none => exact .isTrue fun _ h => absurd h (by simp)
  | some x =>
    exact decidable_of_iff
      (s.OfRequest x.1 ∧ (x.1.hasMore = true → ¬ OwnPayload s.loop.heap x.2)) (by simp)

instance (s : System) (call : OpCall) (env : CallEnv) : Decidable (s.SafeCall call env) := by
  unfold SafeCall
  infer_instance

instance (s : System) (a : Act) : Decidable (s.SafeStep a) := by
  unfold SafeStep
  split <;> infer_instance

/-! ## The invariant -/

/-- A run in which nothing is given away is orderly, and a request with a payload of its own
    has its slot until its last CQE. -/
structure SafeInv (s : System) : Prop where
  base : s.Base
  orderly : s.Orderly
  own : ∀ sub ∈ s.subs, ∀ p, sub.registration.bufferPayload = some p → p ∉ s.contexts →
    s.Unfinished sub → s.Holds sub

variable {s t : System} {a : Act} {sub : Submitted}

/-- The last CQE that was consumed tells about all of them. -/
theorem Base.unfinished_of_continued (h : s.Base) (hc : s.Continued sub) : s.Unfinished sub := by
  obtain ⟨c, hfind, hmore⟩ := hc
  intro d hd he
  have horder := h.ring.order
  unfold System.posted at horder
  have hseen : s.seen.Pairwise fun c d => c.seq = d.seq → d.hasMore = true := by
    have := (List.pairwise_append.mp horder).1
    exact List.pairwise_reverse.mp this
  obtain ⟨hseq, before, after, hsplit, hnot⟩ := List.find?_eq_some_iff_append.mp hfind
  rw [hsplit] at hd hseen
  have hcs : c.seq = sub.seq := by simpa using hseq
  rcases List.mem_append.mp hd with hd | hd
  · have := hnot d hd
    simp [he] at this
  · rcases List.mem_cons.mp hd with rfl | hd
    · exact hmore
    · have htail := (List.pairwise_append.mp hseen).2.1
      exact (List.pairwise_cons.mp htail).1 d hd (hcs.trans he.symm)

/-- An unfinished request waits for its first CQE, or for another one. -/
theorem waiting_or_continued (hu : s.Unfinished sub) : s.Waiting sub ∨ s.Continued sub := by
  cases hf : s.seen.find? (fun c => c.seq == sub.seq) with
  | none =>
    refine Or.inl fun c hc he => ?_
    have := List.find?_eq_none.mp hf c hc
    simp [he] at this
  | some c =>
    have hm := List.mem_of_find?_eq_some hf
    have hs : c.seq = sub.seq := by simpa using List.find?_some hf
    exact Or.inr ⟨c, hf, hu c hm hs⟩

/-- A live index is not on the stack. -/
theorem Base.nextIndex_ne (h : s.Base) (hh : s.Holds sub) : s.nextIndex ≠ some sub.index := by
  intro he
  by_cases htop : s.loop.registry.top < 0
  · unfold nextIndex at he
    rw [if_pos htop] at he
    exact absurd he (by simp)
  · rw [nextIndex_of_top htop sub.registration] at he
    obtain ⟨-, -, -, hdead, -⟩ :=
      (h.registry.sound.valid_of_room htop).add sub.registration htop
    rw [Option.some.inj he] at hdead
    exact hdead (RequestRegistry.live_of_liveSlot hh)

theorem SafeInv.freshIndex (h : s.SafeInv) (hg : s.SafeStep a) : s.FreshIndex a := by
  constructor
  · intro call env ha hs sub hm hu
    subst ha
    rcases waiting_or_continued hu with hw | hc
    · exact h.base.nextIndex_ne (h.orderly.first sub hm hw)
    · exact hg hs sub hm hc
  · intro env ha c slot hn
    subst ha
    exact (hg (c, slot) hn).1

theorem SafeInv.step (h : s.SafeInv) (hg : s.SafeStep a) (hs : s.step a = .ok t)
    (hd : t.down = false) : t.SafeInv := by
  have hb := h.base.step hs hd
  obtain ⟨-, hstep⟩ := step_cases h.base hs
  have heff := hstep.effect h.base hd
  refine ⟨hb, h.orderly.step h.base (h.freshIndex hg) heff, fun sub hm p hp hc hu => ?_⟩
  have hcs : ∀ p ∈ s.contexts, p ∈ t.contexts := hstep.contexts_mono
  have hc' : p ∉ s.contexts := fun hm => hc (hcs p hm)
  cases heff with
  | same hsubs hseen hlive =>
    unfold Unfinished at hu
    rw [hseen] at hu
    exact (h.own sub (hsubs ▸ hm) p hp hc' hu).congr (hlive _)
  | accepted ha hsubm hsubs hseen htop hindex hseq hdead hlive =>
    unfold Unfinished at hu
    rw [hseen] at hu
    rw [hsubs] at hm
    unfold Holds
    rw [hlive]
    rcases List.mem_cons.mp hm with rfl | hm
    · rw [if_pos rfl]
    · have hh := h.own sub hm p hp hc' hu
      unfold Holds at hh
      rw [if_neg (fun e => by rw [e, hdead] at hh; exact absurd hh (by simp)), hh]
  | ignored ha hcq _ hsubs hseen hlive =>
    exact (h.own sub (hsubs ▸ hm) p hp hc' (hu.of_cons hseen)).congr (hlive _)
  | @handled env c cs slot ha hcq hl hsubs hseen hlive =>
    rw [hsubs] at hm
    have hh := h.own sub hm p hp hc' (hu.of_cons hseen)
    have hne : sub.index ≠ toInt c.userData := by
      intro hi
      subst ha
      obtain ⟨⟨y, hy, hys⟩, hmore⟩ := hg (c, slot) (nextSlot_eq_some.mpr ⟨cs, hcq, hl⟩)
      have hslot := h.orderly.owner h.base hcq hy hys hl
      have hyh : s.Holds y := by
        have hyi := h.base.decode (Base.mem_posted_of_cq (hcq ▸ List.mem_cons_self ..)) hy hys
        unfold Holds
        rw [← hyi, hl, hslot, hyi]
      have hyi := h.base.decode (Base.mem_posted_of_cq (hcq ▸ List.mem_cons_self ..)) hy hys
      obtain rfl := h.base.eq_of_holds hm hy hh hyh (hi.trans hyi)
      -- its CQE announces another one, so it has no payload of its own
      refine hmore (hu c (hseen ▸ List.mem_cons_self ..) hys.symm) ⟨p, by rw [hslot]; exact hp, ?_⟩
      obtain ⟨b, hb, hcase⟩ := (h.base.heap.holds sub hm).own_or_context hp
      rcases hcase with ⟨-, hm⟩ | ⟨hm, -⟩
      · exact ⟨b, hb, hm⟩
      · exact absurd hm hc'
    exact hh.congr (by rw [hlive, if_neg hne])

theorem init_safeInv {l : Loop} (h : (init l).Base) : (init l).SafeInv :=
  ⟨h, init_orderly, fun sub hm => absurd hm (by simp [init])⟩

/-! ## All runs -/

/-- What a request with another CQE to come keeps: its index, its payload, and every CQE of
    its SQE. -/
structure KeepsAll (s : System) (sub : Submitted) : Prop where
  index : holder s.subs sub.index = some sub
  payload : ∀ p, sub.registration.bufferPayload = some p →
    ∀ b, s.loop.heap.payloads[p]? = some b → b.frees = 0
  cqes : ∀ c ∈ s.loop.ring.cq, c.seq = sub.seq → ∀ slot,
    s.loop.registry.liveSlot (toInt c.userData) = some slot →
    slot.future = some sub.registration.future

theorem SafeInv.keepsAll (h : s.SafeInv) (hm : sub ∈ s.subs) (hc : s.Continued sub) :
    s.KeepsAll sub := by
  have hu := h.base.unfinished_of_continued hc
  have hlast := h.orderly.latest sub hm hu
  refine ⟨hlast, fun p hp b hb => ?_, fun c hcm hs slot hl => ?_⟩
  · by_cases hcx : p ∈ s.contexts
    · exact h.base.releases.context p hcx b hb
    · exact h.base.releases.live sub.index _ p b (h.own sub hm p hp hcx hu) hp hb
  · have hi := h.base.decode (Base.mem_posted_of_cq hcm) hm hs.symm
    obtain ⟨x, hx, hslot⟩ := h.base.registry.holder _ _ hl
    rw [hi, hlast] at hx
    obtain rfl := Option.some.inj hx
    rw [hslot]
    rfl

/-- In every run in which nothing of a request with another CQE to come is given away, such a
    request keeps its index and its payload, and its CQEs reach no other future. -/
theorem continued_keeps {registrySize : Nat} {setup : SignalSetup} {wakeupFd submit : Int}
    (h : registrySize < 2 ^ 32) {acts : List Act}
    (hg : Lib.Meets step SafeStep
      (init (uringioLoopInit registrySize setup wakeupFd submit)) acts)
    (hr : (init (uringioLoopInit registrySize setup wakeupFd submit)).run acts = .ok t)
    (hd : t.down = false) : ∀ sub ∈ t.subs, t.Continued sub → t.KeepsAll sub := by
  have hinv : t.down = false → t.SafeInv :=
    Lib.Meets.invariant (fun s => s.down = false → s.SafeInv)
      (fun s a t hs hg ht hd => (hs (down_of_step ht)).step hg ht hd) hg
      (fun _ => init_safeInv (newLoop_base h)) hr
  exact fun sub hm hc => (hinv hd).keepsAll hm hc

/-- A multishot accept whose first CQE is consumed before another socket is made, under an
    index that came free later. -/
def multishotAccept : List Act :=
  [.call (.prepSocket 2 1 none) .ok, .post 1 5 0, .read .ok, .stream .multishot,
    .call (.accept 0 none) .ok, .call (.prepSocket 2 1 none) .ok, .post 2 7 2, .read .ok,
    .post 3 6 0, .read .ok, .call (.prepSocket 2 1 none) .ok, .post 2 8 2, .read .ok]

theorem continued_keeps_accept :
    ∃ t, (init (uringioLoopInit 2 .failed 3 1)).run multishotAccept = .ok t ∧
      (∃ sub ∈ t.subs, t.Continued sub) ∧ ∀ sub ∈ t.subs, t.Continued sub → t.KeepsAll sub := by
  obtain ⟨t, ht, hd, hc⟩ : ∃ t, (init (uringioLoopInit 2 .failed 3 1)).run multishotAccept =
      .ok t ∧ t.down = false ∧ ∃ sub ∈ t.subs, t.Continued sub := by
    decide +kernel
  exact ⟨t, ht, hc, continued_keeps (by decide) (by decide +kernel) ht hd⟩

/-- A zero-copy send, the CQE that announces its notification, a new socket, and the
    notification. -/
def zeroCopySend : List Act :=
  [.call (.prepSocket 2 1 none) .ok, .post 1 5 0, .read .ok, .transfer .zeroCopy,
    .call (.send 0 false none) .ok, .post 2 16 2, .read .ok, .call (.prepSocket 2 1 none) .ok,
    .post 2 0 8, .read .ok]

/-- With the first CQE the payload that the kernel may still read is released; then the new
    socket gets the index, and the notification resolves its future. -/
theorem zeroCopySend_resolves_other :
    (∃ t, (init (uringioLoopInit 1 .failed 3 1)).run (zeroCopySend.take 7) = .ok t ∧
      ∃ sub ∈ t.subs, t.Continued sub ∧ sub.registration.bufferPayload = some 0 ∧
        (t.loop.heap.payloads[0]?).map BufferPayload.frees = some 1) ∧
    (∃ t, (init (uringioLoopInit 1 .failed 3 1)).run (zeroCopySend.take 8) = .ok t ∧
      ∃ sub ∈ t.subs, t.Continued sub ∧ holder t.subs sub.index ≠ some sub) ∧
    ∃ t, (init (uringioLoopInit 1 .failed 3 1)).run zeroCopySend = .ok t ∧
      t.loop.calls 2 = [.setResult (.socket 1)] ∧ 3 ∈ t.loop.ring.inflight.map Flight.seq := by
  decide +kernel

end System

end Uringio
