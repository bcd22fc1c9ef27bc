/-
  Who releases a payload, and when.

  A payload that an operation made for its request goes with the slot of the request: the
  reader and `registry_remove` release it with the CQE that removes the slot, and the error
  path of the call releases it when the request is taken back. Four things break this: the
  payload of `sendto` is in no slot, a CQE that is not the last one of its request takes the
  payload from the kernel, a CQE can remove the slot of another request, and
  `registry_destroy` releases whatever is left, payloads of contexts included. In runs
  without them every payload is released when it should be (`payloads_owned`).
-/
import Uringio.System.Requests

namespace Uringio

/-! ## Releases of one payload -/

namespace Heap

/-- How often `free_buffer_payload` took effect on a payload. -/
def frees (h : Heap) (p : PayloadId) : Option Nat := (h.payloads[p]?).map BufferPayload.frees

variable {h h' : Heap} {p : PayloadId} {b : BufferPayload} {payload : Option PayloadId}

theorem frees_of_payloads (he : h'.payloads = h.payloads) : h'.frees p = h.frees p := by
  unfold frees
  rw [he]

theorem Keeps.frees (hk : h.Keeps h') (hp : p < h.payloads.length) : h'.frees p = h.frees p := by
  obtain ⟨b', hb', -, hf⟩ := hk p _ (List.getElem?_eq_getElem hp)
  unfold Heap.frees
  rw [hb', List.getElem?_eq_getElem hp, Option.map_some, Option.map_some, hf]

theorem frees_release_of_ne (hne : payload ≠ some p) (force : Bool) :
    (freeBufferPayload h payload force).frees p = h.frees p := by
  cases payload with
  | none => rfl
  | some q =>
    unfold frees
    rw [freeBufferPayload_of_ne fun e => hne (congrArg some e)]

/-- A payload of a buffer context is not released without force. -/
theorem frees_release_of_context (hb : h.payloads[p]? = some b) (hm : b.mode ≠ .normalBuf)
    (payload : Option PayloadId) : (freeBufferPayload h payload false).frees p = h.frees p := by
  by_cases hp : payload = some p
  · unfold frees
    rw [hp, freeBufferPayload_self hb, hb, BufferPayload.release_of_context hm]
  · exact frees_release_of_ne hp false

theorem frees_release_of_own (hb : h.payloads[p]? = some b) (hm : b.mode = .normalBuf) :
    (freeBufferPayload h (some p) false).frees p = (h.frees p).map (· + 1) := by
  unfold frees
  rw [freeBufferPayload_self hb, hb, BufferPayload.release_of_normalBuf hm]
  rfl

theorem length_returnIndex (payload : Option PayloadId) :
    (returnIndex h payload).payloads.length = h.payloads.length := by
  unfold returnIndex
  split
  · rfl
  · split
    · rfl
    · split
      · split
        · rfl
        · simp [put]
      · rfl

theorem length_dispatch {call : OpCall} {l : Loop} {g : Grown} {req : Request} {op : COp}
    (hd : DispatchPart call l g req) (hx : req.dispatch (l.grow g).heap = .ok (op, h)) :
    h.payloads.length = (l.grow g).heap.payloads.length := by
  cases hd with
  | plain hp _ => rw [(hp op h hx).1]
  | fixed _ _ _ hf =>
    obtain ⟨b, reg, -, -, -, rfl, -, -⟩ := hf op h hx
    simp [put]

end Heap

namespace System

/-- How often `free_buffer_payload` took effect on a payload. -/
def frees (s : System) (p : PayloadId) : Option Nat := s.loop.heap.frees p

/-- The last CQE of the request was consumed. -/
def Finished (s : System) (sub : Submitted) : Prop :=
  ∃ c ∈ s.seen, c.seq = sub.seq ∧ c.hasMore = false

/-- The payload of a context was never released, that of a request once it lost its slot,
    after its last CQE, and one whose request was never accepted at once. -/
structure Owned (s : System) : Prop where
  shared : ∀ p ∈ s.contexts, s.frees p = some 0
  held : ∀ sub ∈ s.subs, s.Holds sub → ∀ p ∈ sub.payload, p ∉ s.contexts → s.frees p = some 0
  finished : ∀ sub ∈ s.subs, ¬ s.Holds sub → ∀ p ∈ sub.payload, p ∉ s.contexts →
    s.frees p = some 1 ∧ s.Finished sub
  failed : ∀ p < s.loop.heap.payloads.length, p ∉ s.contexts →
    (∀ sub ∈ s.subs, p ∉ sub.payload) → s.frees p = some 1

/-! ## The condition -/

/-- The request can lose its slot to this CQE: its payload, if it has one of its own, is in
    the slot, and the CQE is its last one. -/
def Ends (s : System) (sub : Submitted) (c : Cqe) : Prop :=
  ∀ p ∈ sub.payload, p ∉ s.contexts →
    sub.registration.bufferPayload = some p ∧ c.seq = sub.seq ∧ c.hasMore = false

/-- The next CQE ends the request whose slot it decodes to. -/
def OwnRead (s : System) : Prop :=
  ∀ c ∈ s.loop.ring.cq.head?, ∀ sub ∈ s.subs, s.Holds sub → toInt c.userData = sub.index →
    s.Ends sub c

/-- An operation that keeps its payload from the registry is submitted if it comes to that. -/
def OwnCall (s : System) (call : OpCall) (env : CallEnv) : Prop :=
  call.keepsPayload = true → ∀ x, s.dispatched call env = some x →
    x.1.Goes s.loop.ring x.2 env.submit

/-- The first of the drained CQEs that decodes to the slot of a request with a payload ends
    the request. -/
def OwnDrain (s : System) (drained : List Drained) : Prop :=
  ∀ sub ∈ s.subs, s.Holds sub → sub.payload.isSome = true →
    ∃ d ∈ drained.find? fun d => toInt d.cqe.userData == sub.index, s.Ends sub d.cqe

/-- The action releases no payload at the wrong time. -/
def OwnStep (s : System) (a : Act) : Prop :=
  match a with
  | .call call env => s.OwnCall call env
  | .read _ => s.OwnRead
  | .shutdown drained _ => s.OwnDrain drained
  | _ => True

instance (s : System) (sub : Submitted) : Decidable (s.Finished sub) :=
  inferInstanceAs (Decidable (∃ c ∈ s.seen, c.seq = sub.seq ∧ c.hasMore = false))

instance (s : System) : Decidable s.Owned := by
  have hshared : Decidable (∀ p ∈ s.contexts, s.frees p = some 0) := inferInstance
  have hheld : Decidable (∀ sub ∈ s.subs, s.Holds sub → ∀ p ∈ sub.payload, p ∉ s.contexts →
    s.frees p = some 0) := inferInstance
  have hfinished : Decidable (∀ sub ∈ s.subs, ¬ s.Holds sub → ∀ p ∈ sub.payload,
    p ∉ s.contexts → s.frees p = some 1 ∧ s.Finished sub) := inferInstance
  have hfailed : Decidable (∀ p < s.loop.heap.payloads.length, p ∉ s.contexts →
    (∀ sub ∈ s.subs, p ∉ sub.payload) → s.frees p = some 1) := inferInstance
  exact decidable_of_iff _ ⟨fun h : (_ ∧ _) ∧ _ ∧ _ => ⟨h.1.1, h.1.2, h.2.1, h.2.2⟩,
    fun h => ⟨⟨h.shared, h.held⟩, h.finished, h.failed⟩⟩

instance (s : System) (sub : Submitted) (c : Cqe) : Decidable (s.Ends sub c) := by
  unfold Ends
  infer_instance

instance (s : System) : Decidable s.OwnRead := by
  unfold OwnRead
  infer_instance

instance (s : System) (call : OpCall) (env : CallEnv) : Decidable (s.OwnCall call env) := by
  unfold OwnCall
  infer_instance

instance (s : System) (drained : List Drained) : Decidable (s.OwnDrain drained) := by
  unfold OwnDrain
  infer_instance

instance (s : System) (a : Act) : Decidable (s.OwnStep a) := by
  apply Act.casesOn (motive := fun a => Decidable (s.OwnStep a)) a <;> intros <;>
    dsimp only [OwnStep] <;> infer_instance

/-! ## A slot is emptied -/

/-- What releases rely on: only slots of requests have payloads, and an own payload has one
    request. -/
structure Slots (s : System) : Prop where
  cleared : s.loop.registry.Cleared
  request : ∀ i slot, s.loop.registry.liveSlot i = some slot →
    ∃ sub ∈ s.subs, sub.index = i ∧ slot = sub.registration.slot i
  futures : ∃ n, FutureInv n s.subs
  heap : ∃ context, HeapInv s.loop.heap s.subs s.contexts context

variable {s t : System} {a : Act} {sub : Submitted} {p : PayloadId} {c : Cqe} {i : Int}

theorem Base.slots (h : s.Base) : s.Slots :=
  ⟨h.registry.cleared, fun _ _ hl => h.request hl, ⟨_, h.futures⟩, ⟨_, h.heap⟩⟩

theorem Finished.cons (hseen : t.seen = c :: s.seen) (h : s.Finished sub) : t.Finished sub := by
  obtain ⟨d, hd, he⟩ := h
  exact ⟨d, hseen ▸ List.mem_cons_of_mem _ hd, he⟩

namespace Slots

variable {sub' : Submitted}

theorem eq_of_holds (h : s.Slots) (hm : sub ∈ s.subs) (hm' : sub' ∈ s.subs) (hh : s.Holds sub)
    (hh' : s.Holds sub') (hi : sub.index = sub'.index) : sub = sub' := by
  obtain ⟨n, hfut⟩ := h.futures
  unfold Holds at hh hh'
  rw [← hi] at hh'
  have hf := congrArg RequestSlot.future (Option.some.inj (hh.symm.trans hh'))
  exact hfut.eq hm hm' (Option.some.inj hf)

/-- Only its request has a payload that is no context's. -/
theorem eq_of_payload (h : s.Slots) (hm : sub ∈ s.subs) (hm' : sub' ∈ s.subs)
    (hp : p ∈ sub.payload) (hp' : p ∈ sub'.payload) (hc : p ∉ s.contexts) : sub = sub' := by
  obtain ⟨context, hheap⟩ := h.heap
  exact hheap.owner_eq hm hm' hp hp' hc

/-- The payload of a live slot is that of the request. -/
theorem payload_of_slot (h : s.Slots) (hm : sub ∈ s.subs)
    (hp : sub.registration.bufferPayload = some p) : p ∈ sub.payload := by
  obtain ⟨context, hheap⟩ := h.heap
  exact (hheap.holds sub hm).payload_of_registration hp

/-- The request of a live slot. -/
theorem holder (h : s.Slots) {slot : RequestSlot} (hl : s.loop.registry.liveSlot i = some slot) :
    ∃ sub ∈ s.subs, sub.index = i ∧ s.Holds sub ∧
      slot.bufferPayload = sub.registration.bufferPayload := by
  obtain ⟨sub, hm, hi, rfl⟩ := h.request i slot hl
  refine ⟨sub, hm, hi, ?_, rfl⟩
  unfold Holds
  rw [hi, hl]

/-- The payload of a slot is that of the request that holds it. -/
theorem holder_of_payload (h : s.Slots)
    (hp : (s.loop.registry.liveSlot i).bind RequestSlot.bufferPayload = some p) :
    ∃ sub ∈ s.subs, sub.index = i ∧ s.Holds sub ∧ sub.registration.bufferPayload = some p := by
  obtain ⟨slot, hl, hs⟩ := Option.bind_eq_some_iff.mp hp
  obtain ⟨sub, hm, hi, hh, hpay⟩ := h.holder hl
  exact ⟨sub, hm, hi, hh, hpay ▸ hs⟩

/-- The release of a slot's payload takes nothing from a context. -/
theorem frees_context (h : s.Slots) {heap : Heap} (hk : s.loop.heap.Keeps heap)
    (hc : p ∈ s.contexts) :
    (freeBufferPayload heap ((s.loop.registry.liveSlot i).bind RequestSlot.bufferPayload)
      false).frees p = s.frees p := by
  obtain ⟨context, hheap⟩ := h.heap
  obtain ⟨b, hb, -⟩ := hheap.managed p hc
  have hlt := (List.getElem?_eq_some_iff.mp hb).1
  by_cases hq : (s.loop.registry.liveSlot i).bind RequestSlot.bufferPayload = some p
  · obtain ⟨sub, hm, -, -, hr⟩ := h.holder_of_payload hq
    obtain ⟨b0, hb0, ⟨hnot, -⟩ | ⟨-, hmode⟩⟩ := (hheap.holds sub hm).own_or_context hr
    · exact absurd hc hnot
    · obtain ⟨b1, hb1, hev, -⟩ := hk p b0 hb0
      rw [Heap.frees_release_of_context hb1 (hev.mode ▸ hmode)]
      exact hk.frees hlt
  · rw [Heap.frees_release_of_ne hq]
    exact hk.frees hlt

end Slots

/-- A slot was emptied with a CQE that ends its request. -/
theorem Owned.emptied (ho : s.Owned) (h : s.Slots) (hsubs : t.subs = s.subs)
    (hctx : t.contexts = s.contexts) (hseen : t.seen = c :: s.seen) {heap : Heap}
    (hk : s.loop.heap.Keeps heap) (hlen : heap.payloads.length = s.loop.heap.payloads.length)
    (he : Emptied s.loop heap i t.loop)
    (hends : ∀ sub ∈ s.subs, s.Holds sub → i = sub.index → s.Ends sub c) : t.Owned := by
  have hholds : ∀ sub, t.Holds sub ↔ s.Holds sub ∧ sub.index ≠ i := by
    intro sub
    unfold Holds
    rw [he.live]
    by_cases hi : sub.index = i
    · simp [hi]
    · simp [hi]
  have hfrees : ∀ p, t.frees p = (freeBufferPayload heap
      ((s.loop.registry.liveSlot i).bind RequestSlot.bufferPayload) false).frees p :=
    fun p => Heap.frees_of_payloads he.payloads
  have hother : ∀ p, p < s.loop.heap.payloads.length →
      (s.loop.registry.liveSlot i).bind RequestSlot.bufferPayload ≠ some p →
      t.frees p = s.frees p := by
    intro p hlt hne
    rw [hfrees, Heap.frees_release_of_ne hne]
    exact hk.frees hlt
  obtain ⟨context, hheap⟩ := h.heap
  refine ⟨fun p hp => ?_, fun sub hm hh p hp hc => ?_, fun sub hm hh p hp hc => ?_,
    fun p hlt hc hnone => ?_⟩
  · rw [hctx] at hp
    rw [hfrees, h.frees_context hk hp]
    exact ho.shared p hp
  · rw [hsubs] at hm
    rw [hctx] at hc
    obtain ⟨hs, hi⟩ := (hholds sub).mp hh
    rw [hother p ((hheap.holds sub hm).lt hp)]
    · exact ho.held sub hm hs p hp hc
    · intro hq
      obtain ⟨x, hx, hxi, -, hr⟩ := h.holder_of_payload hq
      exact hi (h.eq_of_payload hm hx hp (h.payload_of_slot hx hr) hc ▸ hxi)
  · rw [hsubs] at hm
    rw [hctx] at hc
    by_cases hs : s.Holds sub
    · -- this is the request that lost its slot
      have hi : sub.index = i := by
        by_contra hne
        exact hh ((hholds sub).mpr ⟨hs, hne⟩)
      obtain ⟨hr, hseq, hmore⟩ := hends sub hm hs hi.symm p hp hc
      have hslot : (s.loop.registry.liveSlot i).bind RequestSlot.bufferPayload = some p := by
        unfold Holds at hs
        rw [← hi, hs]
        exact hr
      obtain ⟨b, hb, ⟨-, hmode⟩ | ⟨hin, -⟩⟩ := (hheap.holds sub hm).own_or_context hr
      · obtain ⟨b1, hb1, hev, -⟩ := hk p b hb
        refine ⟨?_, c, hseen ▸ List.mem_cons_self .., hseq, hmore⟩
        have hzero : heap.frees p = some 0 :=
          (hk.frees ((hheap.holds sub hm).lt hp)).trans (ho.held sub hm hs p hp hc)
        rw [hfrees, hslot, Heap.frees_release_of_own hb1 (hev.mode.trans hmode), hzero]
        rfl
      · exact absurd hin hc
    · obtain ⟨hf, hfin⟩ := ho.finished sub hm hs p hp hc
      refine ⟨?_, hfin.cons hseen⟩
      rw [hother p ((hheap.holds sub hm).lt hp)]
      · exact hf
      · intro hq
        obtain ⟨x, hx, -, hxh, hr⟩ := h.holder_of_payload hq
        exact hs (h.eq_of_payload hm hx hp (h.payload_of_slot hx hr) hc ▸ hxh)
  · rw [he.payloads, length_freeBufferPayload, hlen] at hlt
    rw [hctx] at hc
    rw [hsubs] at hnone
    rw [hother p hlt]
    · exact ho.failed p hlt hc hnone
    · intro hq
      obtain ⟨x, hx, -, -, hr⟩ := h.holder_of_payload hq
      exact hnone x hx (h.payload_of_slot hx hr)

/-! ## The other steps -/

/-- Nothing that the releases depend on has changed. -/
theorem Owned.same (ho : s.Owned) (hsubs : t.subs = s.subs)
    (hctx : t.contexts = s.contexts) (hseen : ∀ c ∈ s.seen, c ∈ t.seen)
    (hlive : ∀ j, t.loop.registry.liveSlot j = s.loop.registry.liveSlot j)
    (hpay : t.loop.heap.payloads = s.loop.heap.payloads) : t.Owned := by
  have hholds : ∀ sub, t.Holds sub ↔ s.Holds sub := by
    intro sub
    unfold Holds
    rw [hlive]
  have hfrees : ∀ p, t.frees p = s.frees p := fun p => Heap.frees_of_payloads hpay
  refine ⟨fun p hp => ?_, fun sub hm hh p hp hc => ?_, fun sub hm hh p hp hc => ?_,
    fun p hlt hc hnone => ?_⟩
  · rw [hfrees]
    exact ho.shared p (hctx ▸ hp)
  · rw [hfrees]
    exact ho.held sub (hsubs ▸ hm) ((hholds sub).mp hh) p hp (hctx ▸ hc)
  · rw [hfrees]
    obtain ⟨hf, d, hd, he⟩ := ho.finished sub (hsubs ▸ hm) (fun hs => hh ((hholds sub).mpr hs)) p hp
      (hctx ▸ hc)
    exact ⟨hf, d, hseen d hd, he⟩
  · rw [hfrees]
    exact ho.failed p (hpay ▸ hlt) (hctx ▸ hc) (hsubs ▸ hnone)

/-- The heap grew by payloads that were released at once, or by payloads of contexts. -/
theorem Owned.grown (ho : s.Owned) (h : s.Slots) (hsubs : t.subs = s.subs)
    (hseen : t.seen = s.seen) (hctx : ∀ p ∈ s.contexts, p ∈ t.contexts)
    (hlive : ∀ j, t.loop.registry.liveSlot j = s.loop.registry.liveSlot j)
    (hold : ∀ p, p < s.loop.heap.payloads.length → t.frees p = s.frees p)
    (hnew : ∀ p ∈ t.contexts, p ∈ s.contexts ∨ t.frees p = some 0)
    (hout : ∀ p, s.loop.heap.payloads.length ≤ p → p < t.loop.heap.payloads.length →
      p ∈ t.contexts ∨ t.frees p = some 1) : t.Owned := by
  obtain ⟨context, hheap⟩ := h.heap
  have hholds : ∀ sub, t.Holds sub ↔ s.Holds sub := by
    intro sub
    unfold Holds
    rw [hlive]
  refine ⟨fun p hp => ?_, fun sub hm hh p hp hc => ?_, fun sub hm hh p hp hc => ?_,
    fun p hlt hc hnone => ?_⟩
  · rcases hnew p hp with hp | hf
    · obtain ⟨b, hb, -⟩ := hheap.managed p hp
      rw [hold p (List.getElem?_eq_some_iff.mp hb).1]
      exact ho.shared p hp
    · exact hf
  · rw [hsubs] at hm
    rw [hold p ((hheap.holds sub hm).lt hp)]
    exact ho.held sub hm ((hholds sub).mp hh) p hp fun hp => hc (hctx p hp)
  · rw [hsubs] at hm
    rw [hold p ((hheap.holds sub hm).lt hp)]
    obtain ⟨hf, hfin⟩ := ho.finished sub hm (fun hs => hh ((hholds sub).mpr hs)) p hp
      fun hp => hc (hctx p hp)
    unfold Finished at hfin ⊢
    rw [hseen]
    exact ⟨hf, hfin⟩
  · by_cases hp : p < s.loop.heap.payloads.length
    · rw [hold p hp]
      exact ho.failed p hp (fun hp => hc (hctx p hp)) (hsubs ▸ hnone)
    · exact (hout p (Nat.le_of_not_lt hp) hlt).resolve_left hc

theorem Owned.quiet (ho : s.Owned) (h : s.Base) {extra : List Flight} (hq : Quiet s a t extra) :
    t.Owned := by
  refine ho.grown h.slots hq.subs hq.seen hq.contexts (fun j => by rw [hq.registry])
    (fun p hp => hq.heap.frees hp) (fun p hp => ?_) fun p hle hlt => ?_
  · rcases hq.managed p hp with hp | ⟨-, b, hb, hf, -⟩
    · exact Or.inl hp
    · refine Or.inr ?_
      unfold frees Heap.frees
      rw [hb, Option.map_some, hf]
  · exact Or.inl ((hq.others p hlt).resolve_left (Nat.not_lt_of_le hle))

/-- An operation that gives up has released what it made. -/
theorem Owned.refused (ho : s.Owned) (h : s.Base) {e : Option PyErr} {l1 : Loop}
    (hr : Refused s.loop l1) : (s.answer (.error e, l1)).Owned := by
  obtain ⟨g, rfl, -, -, hfreed⟩ := hr
  refine ho.grown h.slots rfl rfl (fun _ hp => hp) (fun _ => rfl)
    (fun p hp => (Heap.Keeps.grow s.loop g).frees hp) (fun p hp => Or.inl hp) fun p hle hlt => ?_
  refine Or.inr ?_
  have hlen : (s.loop.heap.payloads ++ g.payloads).length =
      s.loop.heap.payloads.length + g.payloads.length := List.length_append
  have hlt' : p - s.loop.heap.payloads.length < g.payloads.length := by
    have : p < (s.loop.heap.payloads ++ g.payloads).length := hlt
    omega
  have hget : (s.loop.heap.payloads ++ g.payloads)[p]? =
      some g.payloads[p - s.loop.heap.payloads.length] := by
    rw [List.getElem?_append_right hle, List.getElem?_eq_getElem hlt']
  show ((s.loop.heap.payloads ++ g.payloads)[p]?).map BufferPayload.frees = some 1
  rw [hget, Option.map_some, (hfreed _ (List.getElem_mem hlt')).2]

/-- An operation makes no payload but the one of its request. -/
theorem Prepared.made {call : OpCall} {l : Loop} {g : Grown} {req : Request}
    (hp : Prepared call l g req) : g.payloads = [] ∨
      req.payload = some l.heap.payloads.length ∧ ∃ b, g.payloads = [b] ∧ b.Own := by
  cases hreq : req.payload with
  | none =>
    cases hp.payload with
    | none hg _ _ _ => exact Or.inl hg
    | registered _ hq _ _ | kept _ hq _ _ =>
      rw [hreq] at hq
      exact absurd hq (by simp)
  | some q =>
    rcases hp.payload_cases hreq with ⟨rfl, b, hg, hown⟩ | ⟨hg, -⟩
    · exact Or.inr ⟨rfl, b, hg, hown⟩
    · exact Or.inl hg

/-- A call that comes to its submission and fails there releases the payload it made. -/
theorem Owned.gaveUp (ho : s.Owned) (h : s.Base) {call : OpCall} {g : Grown} {req : Request}
    (hp : Prepared call s.loop g req) {heap1 : Heap} (hk : (s.loop.grow g).heap.Keeps heap1)
    (hlen : heap1.payloads.length = (s.loop.grow g).heap.payloads.length)
    (hsubs : t.subs = s.subs) (hctx : t.contexts = s.contexts) (hseen : t.seen = s.seen)
    (hlive : ∀ j, t.loop.registry.liveSlot j = s.loop.registry.liveSlot j)
    (hpay : t.loop.heap.payloads = (freeBufferPayload heap1 req.payload false).payloads) :
    t.Owned := by
  have hgrow := Heap.Keeps.grow s.loop g
  have hfrees : ∀ p, t.frees p = (freeBufferPayload heap1 req.payload false).frees p :=
    fun p => Heap.frees_of_payloads hpay
  have hlen' : t.loop.heap.payloads.length = s.loop.heap.payloads.length + g.payloads.length := by
    rw [hpay, length_freeBufferPayload, hlen]
    exact List.length_append
  refine ho.grown h.slots hsubs hseen (fun _ hp => hctx ▸ hp) hlive (fun p hlt => ?_)
    (fun p hp => Or.inl (hctx ▸ hp)) fun p hle hlt => Or.inr ?_
  · rw [hfrees]
    have hkeep : heap1.frees p = s.frees p := (hgrow.trans hk).frees hlt
    by_cases hq : req.payload = some p
    · rcases hp.payload_cases hq with ⟨rfl, -⟩ | ⟨-, c, b, -, -, hb, hm⟩
      · exact absurd hlt (Nat.lt_irrefl _)
      · obtain ⟨b1, hb1, hev, -⟩ := (hgrow.trans hk) p b hb
        rw [Heap.frees_release_of_context hb1 (hev.mode ▸ hm), hkeep]
    · rw [Heap.frees_release_of_ne hq, hkeep]
  · -- the only new payload is the one that was released
    rcases Prepared.made hp with hg | ⟨hreq, b, hg, hown⟩
    · rw [hg, List.length_nil] at hlen'
      exact absurd (Nat.lt_of_lt_of_eq hlt hlen') (Nat.not_lt_of_le hle)
    rw [hg, List.length_singleton] at hlen'
    have hpl : p = s.loop.heap.payloads.length :=
      Nat.le_antisymm (Nat.lt_succ_iff.mp (Nat.lt_of_lt_of_eq hlt hlen')) hle
    have hb : (s.loop.grow g).heap.payloads[p]? = some b := by
      show (s.loop.heap.payloads ++ g.payloads)[p]? = some b
      rw [hg, hpl, List.getElem?_concat_length]
    obtain ⟨b1, hb1, hev, hf⟩ := hk p b hb
    have hzero : heap1.frees p = some 0 := by
      unfold Heap.frees
      rw [hb1, Option.map_some, hf, hown.frees]
    rw [hfrees, hreq, ← hpl, Heap.frees_release_of_own hb1 (hev.mode.trans hown.mode), hzero]
    rfl

/-- A request was accepted: its payload is new, or that of a context. -/
theorem Owned.accepted (ho : s.Owned) (h : s.Base) {call : OpCall} {g : Grown} {req : Request}
    (hp : Prepared call s.loop g req) {heap1 : Heap} (hk : (s.loop.grow g).heap.Keeps heap1)
    (hlen : heap1.payloads.length = (s.loop.grow g).heap.payloads.length)
    (hsubs : t.subs = sub :: s.subs) (hctx : t.contexts = s.contexts) (hseen : t.seen = s.seen)
    (hreg : sub.registration = req.registration) (hpayload : sub.payload = req.payload)
    (hdead : s.loop.registry.liveSlot sub.index = none)
    (hlive : ∀ j, t.loop.registry.liveSlot j =
      if j = sub.index then some (sub.registration.slot sub.index)
      else s.loop.registry.liveSlot j)
    (hpay : t.loop.heap.payloads = heap1.payloads) : t.Owned := by
  have hgrow := Heap.Keeps.grow s.loop g
  have hfrees : ∀ p, t.frees p = heap1.frees p := fun p => Heap.frees_of_payloads hpay
  have hold : ∀ p, p < s.loop.heap.payloads.length → t.frees p = s.frees p := by
    intro p hlt
    rw [hfrees]
    exact (hgrow.trans hk).frees hlt
  have hlen' : t.loop.heap.payloads.length = s.loop.heap.payloads.length + g.payloads.length := by
    rw [hpay, hlen]
    exact List.length_append
  -- an earlier request has its slot if and only if it had it before
  have hholds : ∀ x ∈ s.subs, t.Holds x ↔ s.Holds x := by
    intro x hx
    unfold Holds
    rw [hlive]
    by_cases hi : x.index = sub.index
    · rw [if_pos hi, hi, hdead]
      refine ⟨fun he => ?_, fun he => absurd he (by simp)⟩
      have hf := congrArg RequestSlot.future (Option.some.inj he)
      have hf' : sub.registration.future = x.registration.future := Option.some.inj hf
      rw [hreg, hp.future] at hf'
      have hlt := h.futures.lt x hx
      rw [← hf'] at hlt
      exact absurd hlt (Nat.lt_irrefl _)
    · rw [if_neg hi]
  have hnew : t.Holds sub := by
    unfold Holds
    rw [hlive, if_pos rfl]
  refine ⟨fun p hc => ?_, fun x hm hh p hq hc => ?_, fun x hm hh p hq hc => ?_,
    fun p hlt hc hnone => ?_⟩
  · rw [hctx] at hc
    rw [hold p (h.context_lt hc)]
    exact ho.shared p hc
  · rw [hsubs] at hm
    rw [hctx] at hc
    rcases List.mem_cons.mp hm with rfl | hm
    · rw [hpayload] at hq
      rcases hp.payload_cases hq with ⟨hpl, b, hg, hown⟩ | ⟨-, c, b, hcc, hcp, -, -⟩
      · have hb : (s.loop.grow g).heap.payloads[p]? = some b := by
          show (s.loop.heap.payloads ++ g.payloads)[p]? = some b
          rw [hg, hpl, List.getElem?_concat_length]
        obtain ⟨b1, hb1, -, hf⟩ := hk p b hb
        rw [hfrees]
        unfold Heap.frees
        rw [hb1, Option.map_some, hf, hown.frees]
      · exact absurd (h.heap.known c hcc p hcp) hc
    · rw [hold p ((h.heap.holds x hm).lt hq)]
      exact ho.held x hm ((hholds x hm).mp hh) p hq hc
  · rw [hsubs] at hm
    rw [hctx] at hc
    rcases List.mem_cons.mp hm with rfl | hm
    · exact absurd hnew hh
    · rw [hold p ((h.heap.holds x hm).lt hq)]
      obtain ⟨hf, hfin⟩ := ho.finished x hm (fun hs => hh ((hholds x hm).mpr hs)) p hq hc
      unfold Finished at hfin ⊢
      rw [hseen]
      exact ⟨hf, hfin⟩
  · rw [hctx] at hc
    rw [hsubs] at hnone
    by_cases hlt' : p < s.loop.heap.payloads.length
    · rw [hold p hlt']
      exact ho.failed p hlt' hc fun x hx => hnone x (List.mem_cons_of_mem _ hx)
    · -- the only new payload is that of the request
      have hnot := hnone sub (List.mem_cons_self ..)
      rw [hpayload] at hnot
      rcases Prepared.made hp with hg | ⟨hreq, b, hg, -⟩
      · rw [hg, List.length_nil] at hlen'
        exact absurd (Nat.lt_of_lt_of_eq hlt hlen') hlt'
      · rw [hg, List.length_singleton] at hlen'
        have hpl : p = s.loop.heap.payloads.length :=
          Nat.le_antisymm (Nat.lt_succ_iff.mp (Nat.lt_of_lt_of_eq hlt hlen')) (Nat.le_of_not_lt hlt')
        exact absurd (hpl ▸ hreq) hnot

theorem Owned.called (ho : s.Owned) (h : s.Base) {call : OpCall} {env : CallEnv}
    {r : Except (Option PyErr) Submitted × Loop} (hg : s.OwnCall call env)
    (hr : RunOutcome call env s.loop r) : (s.answer r).Owned := by
  cases hr with
  | refused hr => exact ho.refused h hr
  | full _ hp _ hh =>
    refine ho.gaveUp h hp (.of_payloads rfl) rfl rfl rfl rfl (fun _ => rfl) hh
  | @rejected g req e op heap1 heap reg ring n hprep hp htop hd hx hn hv _ hlive hh _ =>
    have hdk := Heap.Keeps.dispatch hp.dispatch hd
    refine ho.gaveUp h hp hdk (Heap.length_dispatch hp.dispatch hd) rfl (by simp [answer, withLoop]) rfl
      (fun j => ?_) ?_
    · simp only [answer, withLoop, Loop.setClosed_registry]
      exact hlive j
    · simp only [answer, withLoop, Loop.setClosed_heap]
      have hsame : req.registration.bufferPayload = req.payload := by
        cases hp.payload with
        | none _ hr hq _ => rw [hr, hq]
        | registered hr hq _ _ => rw [hr, hq]
        | kept _ _ hk _ =>
          -- such a call is submitted
          have hgo := (COp.goes_iff op s.loop.ring
            (registryAdd s.loop.registry req.registration).1 req.timeoutParams env.submit).mp
            (hg hk _ (dispatched_of_prepare hprep htop hd))
          rw [hx] at hgo
          exact absurd hn hgo
      exact hsame ▸ hh
  | accepted hprep hp htop hd hx hn hh =>
    obtain ⟨-, -, -, hdead, hlive⟩ := (h.registry.sound.valid_of_room htop).add _ htop
    refine ho.accepted h hp (Heap.Keeps.dispatch hp.dispatch hd)
      (Heap.length_dispatch hp.dispatch hd) rfl (by simp [answer, withLoop]) rfl rfl rfl
      (Option.not_isSome_iff_eq_none.mp hdead) (fun j => ?_) ?_
    · simp only [answer, withLoop, Loop.setClosed_registry]
      exact hlive j
    · simp only [answer, withLoop, Loop.setClosed_heap]
      exact hh

theorem Owned.handled (ho : s.Owned) (h : s.Base) {cs : List Cqe} {slot : RequestSlot}
    {future : FutureId} {l1 : Loop} (hcq : s.loop.ring.cq = c :: cs) (hg : s.OwnRead)
    (hl : s.loop.registry.liveSlot (toInt c.userData) = some slot)
    (hh : Handled s.loop (toInt c.userData) slot future c l1) : (s.consume c l1).Owned := by
  have hemptied : Emptied s.loop (Handled.heap s.loop.heap slot c) (toInt c.userData) l1 := by
    refine ⟨hh.live, ?_⟩
    rw [hl]
    exact hh.payloads
  have hlen : (Handled.heap s.loop.heap slot c).payloads.length =
      s.loop.heap.payloads.length := by
    unfold Handled.heap returned
    split
    · split
      · exact Heap.length_returnIndex _
      · rfl
    · rfl
  have hnext : c ∈ s.loop.ring.cq.head? := by
    rw [hcq]
    rfl
  exact ho.emptied h.slots rfl rfl rfl (Handled.keeps _ _ _) hlen hemptied
    fun sub hm hs hi => hg c hnext sub hm hs hi

/-! ## The shutdown -/

/-- The state after one CQE was drained. -/
def drain (s : System) (d : Drained) (l : Loop) : System :=
  { s.withLoop l with seen := d.cqe :: s.seen }

theorem Slots.drained (h : s.Slots) {d : Drained} {l : Loop}
    (hl : shutdownCqe s.loop d = .ok l) : (s.drain d l).Slots := by
  obtain ⟨hc, he⟩ := shutdownCqe_emptied h.cleared hl
  obtain ⟨context, hheap⟩ := h.heap
  refine ⟨hc, fun i slot hs => ?_, h.futures, context, ?_⟩
  · change l.registry.liveSlot i = some slot at hs
    rw [he.live] at hs
    split at hs
    · exact absurd hs (by simp)
    · exact h.request i slot hs
  · have hk : (freeBufferPayload s.loop.heap ((s.loop.registry.liveSlot
        (toInt d.cqe.userData)).bind RequestSlot.bufferPayload) false).Keeps l.heap :=
      .of_payloads he.payloads
    exact hheap.evolve ((Heap.Evolves.release _ _).trans hk.evolves)

/-- The drain loop releases what it should, and leaves no slot with a payload. -/
theorem Owned.drained {drained : List Drained} {l : Loop} (ho : s.Owned) (h : s.Slots)
    (hg : s.OwnDrain drained) (hr : Lib.run shutdownCqe s.loop drained = .ok l)
    (hl : t.loop = l) (hsubs : t.subs = s.subs) (hctx : t.contexts = s.contexts)
    (hseen : t.seen = (drained.map Drained.cqe).reverse ++ s.seen) :
    t.Owned ∧ t.Slots ∧ ∀ sub ∈ t.subs, t.Holds sub → sub.payload = none := by
  induction drained generalizing s with
  | nil =>
    obtain rfl : s.loop = l := Except.ok.inj hr
    have hheld : ∀ sub, t.Holds sub → s.Holds sub := fun sub hh => hh.congr (by rw [hl])
    refine ⟨ho.same hsubs hctx (fun c hc => hseen ▸ hc) (fun j => by rw [hl]) (by rw [hl]),
      ⟨hl ▸ h.cleared, fun i slot hs => ?_, hsubs ▸ h.futures, ?_⟩, fun sub hm hh => ?_⟩
    · rw [hsubs]
      exact h.request i slot (hl ▸ hs)
    · rw [hl, hsubs, hctx]
      exact h.heap
    · cases hp : sub.payload with
      | none => rfl
      | some p =>
        obtain ⟨d, hd, -⟩ := hg sub (hsubs ▸ hm) (hheld sub hh) (by rw [hp]; rfl)
        exact absurd hd (by simp)
  | cons d drained ih =>
    obtain ⟨l1, hl1, hr⟩ := Lib.run_cons_ok.mp hr
    obtain ⟨hc, he⟩ := shutdownCqe_emptied h.cleared hl1
    have hfirst : ∀ sub : Submitted, toInt d.cqe.userData = sub.index →
        (d :: drained).find? (fun d => toInt d.cqe.userData == sub.index) = some d := by
      intro sub hi
      rw [List.find?_cons_of_pos (by simpa using hi)]
    have hnext : (s.drain d l1).Owned := by
      refine ho.emptied h rfl rfl rfl (.of_payloads rfl) rfl he fun sub hm hs hi => ?_
      intro p hp hpc
      obtain ⟨d', hd', hends⟩ := hg sub hm hs (by rw [Option.mem_def.mp hp]; rfl)
      rw [hfirst sub hi] at hd'
      obtain rfl := Option.some.inj hd'
      exact hends p hp hpc
    refine ih hnext (h.drained hl1) (fun sub hm hs hp => ?_) hr hsubs hctx ?_
    · -- a request that still has its slot was not the one of this CQE
      change l1.registry.liveSlot sub.index = some (sub.registration.slot sub.index) at hs
      rw [he.live] at hs
      by_cases hi : sub.index = toInt d.cqe.userData
      · rw [if_pos hi] at hs
        exact absurd hs (by simp)
      · rw [if_neg hi] at hs
        obtain ⟨d', hd', hends⟩ := hg sub hm hs hp
        rw [List.find?_cons_of_neg (by simpa using fun e => hi e.symm)] at hd'
        exact ⟨d', hd', hends⟩
    · rw [hseen, List.map_cons, List.reverse_cons, List.append_assoc]
      rfl

theorem destroySlots_of_none {heap : Heap} {slots : List RequestSlot}
    (h : ∀ slot ∈ slots, slot.bufferPayload = none) : destroySlots heap slots = heap := by
  induction slots generalizing heap with
  | nil => rfl
  | cons slot slots ih =>
    unfold destroySlots
    rw [h slot (List.mem_cons_self ..)]
    exact ih fun x hx => h x (List.mem_cons_of_mem _ hx)

theorem Owned.shutdown (ho : s.Owned) (h : s.Slots) {drained : List Drained} {submit : Int}
    {l : Loop} (hg : s.OwnDrain drained) (hl : gracefulShutdown s.loop drained submit = .ok l)
    (hloop : t.loop = l) (hsubs : t.subs = s.subs) (hctx : t.contexts = s.contexts)
    (hseen : t.seen = (drained.map Drained.cqe).reverse ++ s.seen) : t.Owned := by
  obtain ⟨m, hm, rfl⟩ := gracefulShutdown_eq_ok.mp hl
  obtain ⟨hd, hslots, hnone⟩ := ho.drained (t := t.withLoop m) h hg hm rfl hsubs hctx hseen
  have hclear : ∀ slot ∈ m.registry.slots, slot.bufferPayload = none := by
    intro slot hs
    cases hp : slot.bufferPayload with
    | none => rfl
    | some p =>
      obtain ⟨i, hi⟩ := List.getElem?_of_mem hs
      obtain ⟨sub, hsm, -, hh, hpay⟩ := hslots.holder (hslots.cleared i slot p hi hp)
      have hmem := hslots.payload_of_slot hsm (hpay ▸ hp)
      rw [hnone sub hsm hh] at hmem
      exact absurd hmem (by simp)
  have hheap : t.loop.heap = m.heap := by
    rw [hloop]
    exact destroySlots_of_none hclear
  have hdead : ∀ sub, ¬ t.Holds sub := by
    intro sub hh
    unfold Holds at hh
    rw [hloop] at hh
    have hget := (RequestRegistry.liveSlot_eq_some.mp hh).1
    have hrange : (shutdownTail m submit).registry.inRange sub.index = false := by
      unfold shutdownTail registryDestroy RequestRegistry.inRange
      simp only [Bool.not_eq_false', Bool.or_eq_true, decide_eq_true_eq]
      rw [toInt_of_lt (by decide)]
      omega
    rw [RequestRegistry.registryGet_of_not_inRange hrange] at hget
    exact absurd hget (by simp)
  have hfrees : ∀ p, t.frees p = (t.withLoop m).frees p := fun p =>
    Heap.frees_of_payloads (congrArg Heap.payloads hheap)
  refine ⟨fun p hp => ?_, fun sub _ hh => absurd hh (hdead sub), fun sub hsm _ p hp hc => ?_,
    fun p hlt hc hn => ?_⟩
  · rw [hfrees]
    exact hd.shared p hp
  · rw [hfrees]
    refine hd.finished sub hsm (fun hh => ?_) p hp hc
    rw [hnone sub hsm hh] at hp
    exact absurd hp (by simp)
  · rw [hfrees]
    exact hd.failed p (hheap ▸ hlt) hc hn

/-! ## All runs -/

theorem Owned.step (ho : s.Owned) (h : s.Base) (hg : s.OwnStep a) (hs : s.step a = .ok t) :
    t.Owned := by
  obtain ⟨-, hstep⟩ := step_cases h hs
  cases hstep with
  | called _ hr => exact ho.called h hg hr
  | posted _ => exact ho.same rfl rfl (fun _ hc => hc) (fun _ => rfl) rfl
  | dropped _ _ | skipped _ _ _ =>
    exact ho.same rfl rfl (fun _ hc => List.mem_cons_of_mem _ hc) (fun _ => rfl) rfl
  | handled hcq hl _ _ hh => exact ho.handled h hcq hg hl hh
  | quiet _ hq => exact ho.quiet h hq
  | shutdown hd hl => exact ho.shutdown h.slots hg hl rfl rfl rfl rfl

theorem init_owned {l : Loop} (h : l.heap.payloads = []) : (init l).Owned := by
  refine ⟨fun p hp => absurd hp (by simp [init]), fun sub hm => absurd hm (by simp [init]),
    fun sub hm => absurd hm (by simp [init]), fun p hlt => ?_⟩
  change p < l.heap.payloads.length at hlt
  rw [h] at hlt
  exact absurd hlt (Nat.not_lt_zero p)

/-- In every run in which no payload is released at the wrong time, the shutdown included,
    every payload is released exactly when it should be. -/
theorem payloads_owned {registrySize : Nat} {setup : SignalSetup} {wakeupFd submit : Int}
    (h : registrySize < 2 ^ 32) {acts : List Act}
    (hg : Lib.Meets step OwnStep
      (init (uringioLoopInit registrySize setup wakeupFd submit)) acts)
    (hr : (init (uringioLoopInit registrySize setup wakeupFd submit)).run acts = .ok t) :
    t.Owned := by
  have hstep : ∀ (s : System) a t, (s.down = false → s.Base) ∧ s.Owned → s.OwnStep a →
      s.step a = .ok t → (t.down = false → t.Base) ∧ t.Owned := by
    intro s a t hs hg ht
    have hb := hs.1 (down_of_step ht)
    exact ⟨fun hd => hb.step ht hd, hs.2.step hb hg ht⟩
  have hinit := init_owned (l := uringioLoopInit registrySize setup wakeupFd submit) rfl
  exact (Lib.Meets.invariant (fun s : System => (s.down = false → s.Base) ∧ s.Owned) hstep hg
    ⟨fun _ => newLoop_base h, hinit⟩ hr).2

/-- Two sends, one completed by the reader and one by the shutdown, and a read into the
    buffer of a FIXED context between them. -/
def sendsAndRead : List Act :=
  [.call (.prepSocket 2 1 none) .ok, .post 1 5 0, .read .ok, .call (.send 0 false none) .ok,
    .post 2 16 0, .read .ok, .call (.open 0 (.ok "f") 0 0 0 none) .ok, .post 3 6 0, .read .ok,
    .newBuffers .fixed false (some [⟨.mem 512, 16⟩]) 0 0, .enterBuffers 1 true 1,
    .call (.read 0 0 16 none) .ok, .post 4 16 0, .read .ok, .call (.send 0 false none) .ok,
    .post 5 16 0, .shutdown [⟨⟨1, 16, 0, 5⟩, true⟩] 1]

theorem payloads_owned_sends :
    ∃ t, (init (uringioLoopInit 2 .failed 3 1)).run sendsAndRead = .ok t ∧ t.down = true ∧
      t.subs.length = 5 ∧ t.Owned := by
  obtain ⟨t, ht, hd, hl⟩ : ∃ t, (init (uringioLoopInit 2 .failed 3 1)).run sendsAndRead =
      .ok t ∧ t.down = true ∧ t.subs.length = 5 := by
    decide +kernel
  exact ⟨t, ht, hd, hl, payloads_owned (by decide) (by decide +kernel) ht⟩

/-- A `sendto` that completes. -/
def completedSendto : List Act :=
  [.call (.prepSocket 2 2 none) .ok, .post 1 5 0, .read .ok,
    .call (.sendto 0 [127, 0, 0, 1] true 9 2 false none) .ok, .post 2 16 0, .read .ok]

/-- A read into the buffer of a FIXED context that is in flight when the loop is closed. -/
def readAtShutdown : List Act :=
  [.call (.open 0 (.ok "f") 0 0 0 none) .ok, .post 1 6 0, .read .ok,
    .newBuffers .fixed false (some [⟨.mem 512, 16⟩]) 0 0, .enterBuffers 0 true 1,
    .call (.read 0 0 16 none) .ok, .shutdown [] 1]

/-- The payload of a `sendto` is never released, that of a zero-copy send is released with the
    CQE that announces the notification, and the shutdown releases the payload of a context
    that a request in flight uses. -/
theorem payloads_not_owned :
    (∃ t, (init (uringioLoopInit 2 .failed 3 1)).run completedSendto = .ok t ∧ ¬ t.Owned ∧
      ∃ sub ∈ t.subs, ¬ t.Holds sub ∧ sub.payload = some 0 ∧ t.frees 0 = some 0) ∧
    (∃ t, (init (uringioLoopInit 2 .failed 3 1)).run
        [.call (.prepSocket 2 1 none) .ok, .post 1 5 0, .read .ok, .transfer .zeroCopy,
          .call (.send 0 false none) .ok, .post 2 16 2, .read .ok] = .ok t ∧ ¬ t.Owned ∧
      ∃ sub ∈ t.subs, ¬ t.Finished sub ∧ sub.payload = some 0 ∧ t.frees 0 = some 1) ∧
    ∃ t, (init (uringioLoopInit 2 .failed 3 1)).run readAtShutdown = .ok t ∧ ¬ t.Owned ∧
      0 ∈ t.contexts ∧ t.frees 0 = some 1 := by
  decide +kernel

end System

end Uringio
