/-
  The payloads of a loop over a run: what never changes about a payload, whose payload a
  request uses, and which objects it names.

  A payload that an operation made keeps its mode, its shape and its buffers for ever, and
  no other request has it. A payload of a context manager may change its pool and its
  vector, but not its mode.
-/
import Uringio.System.Base

namespace Uringio

/-! ## Evolution of the heap -/

/-- What stays of a payload. -/
structure BufferPayload.Evolves (b b' : BufferPayload) : Prop where
  mode : b'.mode = b.mode
  payloadType : b.mode = .normalBuf → b'.payloadType = b.payloadType
  linear : b.mode = .normalBuf → b'.linear = b.linear
  vector : b.mode = .normalBuf → b'.vector = b.vector
  idxRegistry : b.mode = .normalBuf → b'.idxRegistry = b.idxRegistry

/-- Every payload is still there, with what stays of it. -/
def Heap.Evolves (h h' : Heap) : Prop :=
  ∀ (p : PayloadId) (b : BufferPayload), h.payloads[p]? = some b →
    ∃ b' : BufferPayload, h'.payloads[p]? = some b' ∧ b.Evolves b'

/-- As `Evolves`, and nothing was released. -/
def Heap.Keeps (h h' : Heap) : Prop :=
  ∀ (p : PayloadId) (b : BufferPayload), h.payloads[p]? = some b →
    ∃ b' : BufferPayload, h'.payloads[p]? = some b' ∧ b.Evolves b' ∧ b'.frees = b.frees

namespace BufferPayload.Evolves

variable {b b' b'' : BufferPayload}

theorem refl (b : BufferPayload) : b.Evolves b := ⟨rfl, fun _ => rfl, fun _ => rfl, fun _ => rfl,
  fun _ => rfl⟩

theorem trans (h : b.Evolves b') (h' : b'.Evolves b'') : b.Evolves b'' := by
  have hm : b.mode = .normalBuf → b'.mode = .normalBuf := fun e => h.mode.trans e
  exact ⟨h'.mode.trans h.mode, fun e => (h'.payloadType (hm e)).trans (h.payloadType e),
    fun e => (h'.linear (hm e)).trans (h.linear e), fun e => (h'.vector (hm e)).trans (h.vector e),
    fun e => (h'.idxRegistry (hm e)).trans (h.idxRegistry e)⟩

theorem release (b : BufferPayload) (force : Bool) : b.Evolves (b.release force) :=
  ⟨by simp, fun _ => by simp, fun _ => by simp, fun _ => by simp, fun _ => by simp⟩

/-- A payload of a context may change everything but its mode. -/
theorem of_mode (h : b.mode ≠ .normalBuf) (hm : b'.mode = b.mode) : b.Evolves b' :=
  ⟨hm, fun e => absurd e h, fun e => absurd e h, fun e => absurd e h, fun e => absurd e h⟩

end BufferPayload.Evolves

namespace Heap

variable {h h' h'' : Heap} {p q : PayloadId} {b b' : BufferPayload}

theorem Keeps.evolves (hk : h.Keeps h') : h.Evolves h' := by
  intro p b hb
  obtain ⟨b', hb', he, -⟩ := hk p b hb
  exact ⟨b', hb', he⟩

theorem Keeps.of_payloads (he : h'.payloads = h.payloads) : h.Keeps h' :=
  fun _ b hb => ⟨b, by rw [he, hb], .refl b, rfl⟩

theorem Evolves.trans (hk : h.Evolves h') (hk' : h'.Evolves h'') : h.Evolves h'' := by
  intro p b hb
  obtain ⟨b', hb', he⟩ := hk p b hb
  obtain ⟨b'', hb'', he'⟩ := hk' p b' hb'
  exact ⟨b'', hb'', he.trans he'⟩

theorem Keeps.trans (hk : h.Keeps h') (hk' : h'.Keeps h'') : h.Keeps h'' := by
  intro p b hb
  obtain ⟨b', hb', he, hf⟩ := hk p b hb
  obtain ⟨b'', hb'', he', hf'⟩ := hk' p b' hb'
  exact ⟨b'', hb'', he.trans he', hf'.trans hf⟩

theorem Keeps.append {new : List BufferPayload} (he : h'.payloads = h.payloads ++ new) :
    h.Keeps h' := by
  intro p b hb
  have hlt := (List.getElem?_eq_some_iff.mp hb).1
  exact ⟨b, by rw [he, List.getElem?_append_left hlt, hb], .refl b, rfl⟩

/-- A payload of a context was written. -/
theorem Keeps.put (hb : h.payloads[p]? = some b) (hm : b.mode ≠ .normalBuf)
    (hm' : b'.mode = b.mode) (hf : b'.frees = b.frees) : h.Keeps (h.put p b') := by
  have hlt := (List.getElem?_eq_some_iff.mp hb).1
  intro q c hc
  by_cases hq : p = q
  · subst hq
    rw [hb] at hc
    obtain rfl := Option.some.inj hc
    exact ⟨b', by simp [Heap.put, hlt], .of_mode hm hm', hf⟩
  · exact ⟨c, by simp [Heap.put, hq, hc], .refl c, rfl⟩

theorem Evolves.release (payload : Option PayloadId) (force : Bool) :
    h.Evolves (freeBufferPayload h payload force) := by
  intro q c hc
  cases payload with
  | none => exact ⟨c, hc, .refl c⟩
  | some p =>
    by_cases hq : p = q
    · subst hq
      exact ⟨_, freeBufferPayload_self hc, .release c force⟩
    · exact ⟨c, by rw [freeBufferPayload_of_ne hq, hc], .refl c⟩

theorem Keeps.returnIndex (payload : Option PayloadId) : h.Keeps (returnIndex h payload) := by
  unfold Uringio.returnIndex
  cases payload with
  | none => exact .of_payloads rfl
  | some p =>
    dsimp only
    cases hb : h.payloads[p]? with
    | none => exact .of_payloads rfl
    | some b =>
      dsimp only
      by_cases hm : b.mode = .fixed
      · rw [if_pos hm]
        cases b.idxRegistry with
        | none => exact .of_payloads rfl
        | some reg => exact .put hb (by simp [hm]) rfl rfl
      · rw [if_neg hm]
        exact .of_payloads rfl

theorem Keeps.returned (slot : RequestSlot) : h.Keeps (returned h slot) := by
  unfold Uringio.returned
  split
  · exact .returnIndex _
  · exact .of_payloads rfl

theorem Evolves.length_le (hk : h.Evolves h') : h.payloads.length ≤ h'.payloads.length := by
  by_contra hlt
  have hb := List.getElem?_eq_getElem (Nat.lt_of_not_le hlt)
  obtain ⟨b', hb', -⟩ := hk _ _ hb
  have := (List.getElem?_eq_some_iff.mp hb').1
  omega

/-- What a dispatcher does to the heap. -/
theorem Keeps.dispatch {call : OpCall} {l : Loop} {g : Grown} {req : Request} {op : COp}
    (hd : DispatchPart call l g req) (hx : req.dispatch (l.grow g).heap = .ok (op, h)) :
    (l.grow g).heap.Keeps h := by
  cases hd with
  | plain hp _ => exact .of_payloads (by rw [(hp op h hx).1])
  | fixed _ _ _ hf =>
    obtain ⟨b, reg, hb, hm, -, rfl, -, -⟩ := hf op h hx
    exact .put hb (by simp [hm]) rfl rfl

end Heap

/-! ## Payloads of requests -/

/-- The kind of payload that the reader finds for a request of its own payload. -/
def Registration.PayloadShape (reg : Registration) (b : BufferPayload) : Prop :=
  match reg.opcode with
  | .read => LinearShape false b
  | .write | .send | .recv => LinearShape true b
  | .readv | .writev | .sendmsg => VectorShape b
  | .recvmsg => LinearShape true b ∧ reg.streamStrategy = .oneshot ∨ VectorShape b
  | _ => False

/-- The opcodes of the operations that can use the payload of a context. -/
def Registration.UsesContext (reg : Registration) : Prop :=
  reg.opcode = .read ∨ reg.opcode = .readv ∨ reg.opcode = .recv ∨
    reg.opcode = .recvmsg ∧ reg.streamStrategy = .oneshot

/-- The opcodes of the operations without a payload. -/
def Opcode.plain : Opcode → Bool
  | .openat2 | .close | .fsync | .splice | .socket | .bind | .connect | .listen => true
  | .accept | .timeout => true
  | _ => false

/-- Whose payload an accepted request uses: none, its own, that of a context, or its own
    that the registry does not know of. -/
inductive Submitted.HoldsPayload (heap : Heap) (contexts : List PayloadId) (sub : Submitted) :
    Prop
  | none (hr : sub.registration.bufferPayload = none) (hp : sub.payload = none)
      (ho : sub.registration.opcode.plain = true)
  | own {p : PayloadId} {b : BufferPayload} (hr : sub.registration.bufferPayload = some p)
      (hp : sub.payload = some p) (hc : p ∉ contexts) (hb : heap.payloads[p]? = some b)
      (hm : b.mode = .normalBuf) (hi : b.idxRegistry = none)
      (hs : sub.registration.PayloadShape b)
  | context {p : PayloadId} {b : BufferPayload} (hr : sub.registration.bufferPayload = some p)
      (hp : sub.payload = some p) (hc : p ∈ contexts) (hb : heap.payloads[p]? = some b)
      (hm : b.mode ≠ .normalBuf) (ho : sub.registration.UsesContext)
  | kept {p : PayloadId} {b : BufferPayload} (hr : sub.registration.bufferPayload = none)
      (hp : sub.payload = some p) (hc : p ∉ contexts) (hb : heap.payloads[p]? = some b)
      (hm : b.mode = .normalBuf) (ho : sub.registration.opcode = .sendmsg)

theorem BufferPayload.Evolves.payloadShape {b b' : BufferPayload} {reg : Registration}
    (he : b.Evolves b') (hm : b.mode = .normalBuf) (hs : reg.PayloadShape b) :
    reg.PayloadShape b' := by
  unfold Registration.PayloadShape LinearShape VectorShape at hs ⊢
  rw [he.payloadType hm, he.linear hm, he.vector hm]
  exact hs

theorem Submitted.HoldsPayload.mono {heap heap' : Heap} {contexts contexts' : List PayloadId}
    {sub : Submitted} (h : sub.HoldsPayload heap contexts) (he : heap.Evolves heap')
    (hsub : ∀ p ∈ contexts, p ∈ contexts')
    (hnew : ∀ p ∈ contexts', p ∈ contexts ∨ heap.payloads.length ≤ p) :
    sub.HoldsPayload heap' contexts' := by
  have hfresh : ∀ {p b}, heap.payloads[p]? = some b → p ∉ contexts → p ∉ contexts' := by
    intro p b hb hc hp
    have hlt := (List.getElem?_eq_some_iff.mp hb).1
    rcases hnew p hp with hp | hp
    · exact hc hp
    · omega
  cases h with
  | none hr hp ho => exact .none hr hp ho
  | own hr hp hc hb hm hi hs =>
    obtain ⟨b', hb', hev⟩ := he _ _ hb
    exact .own hr hp (hfresh hb hc) hb' (hev.mode.trans hm) ((hev.idxRegistry hm).trans hi)
      (hev.payloadShape hm hs)
  | context hr hp hc hb hm ho =>
    obtain ⟨b', hb', hev⟩ := he _ _ hb
    exact .context hr hp (hsub _ hc) hb' (by rw [hev.mode]; exact hm) ho
  | kept hr hp hc hb hm ho =>
    obtain ⟨b', hb', hev⟩ := he _ _ hb
    exact .kept hr hp (hfresh hb hc) hb' (hev.mode.trans hm) ho

/-- The payload of a request lies in the heap. -/
theorem Submitted.HoldsPayload.lt {heap : Heap} {contexts : List PayloadId} {sub : Submitted}
    (h : sub.HoldsPayload heap contexts) {p : PayloadId} (hp : sub.payload = some p) :
    p < heap.payloads.length := by
  cases h with
  | none _ hn _ =>
    rw [hn] at hp
    exact absurd hp (by simp)
  | own _ hq _ hb _ _ _ | context _ hq _ hb _ _ | kept _ hq _ hb _ _ =>
    obtain rfl := Option.some.inj (hq.symm.trans hp)
    exact (List.getElem?_eq_some_iff.mp hb).1

/-! ## The heap of a system -/

/-- Every payload in use is there, and an own payload has one user. -/
structure HeapInv (heap : Heap) (subs : List Submitted) (contexts : List PayloadId)
    (context : Option ExecutionContext) : Prop where
  managed : ∀ p ∈ contexts, ∃ b, heap.payloads[p]? = some b ∧
    (b.mode = .normalBuf → b.payloadType = .payloadLinearAndIovec)
  known : ∀ c, context = some c → ∀ p, c.bufferPayload = some p → p ∈ contexts
  holds : ∀ sub ∈ subs, sub.HoldsPayload heap contexts
  owners : subs.Pairwise fun a b => ∀ p, a.payload = some p → b.payload = some p → p ∈ contexts

namespace HeapInv

variable {heap heap' : Heap} {subs : List Submitted} {contexts contexts' : List PayloadId}
  {context context' : Option ExecutionContext} {sub : Submitted}

theorem contextOk {l : Loop} (h : HeapInv l.heap subs contexts l.context) : ContextOk l := by
  intro c p b hc hp hb hm
  obtain ⟨b', hb', ht⟩ := h.managed p (h.known c hc p hp)
  rw [hb] at hb'
  obtain rfl := Option.some.inj hb'
  exact ht hm

theorem mono (h : HeapInv heap subs contexts context) (he : heap.Evolves heap')
    (hsub : ∀ p ∈ contexts, p ∈ contexts')
    (hnew : ∀ p ∈ contexts', p ∈ contexts ∨ heap.payloads.length ≤ p ∧
      ∃ b, heap'.payloads[p]? = some b ∧
        (b.mode = .normalBuf → b.payloadType = .payloadLinearAndIovec))
    (hctx : ∀ c, context' = some c → ∀ p, c.bufferPayload = some p → p ∈ contexts') :
    HeapInv heap' subs contexts' context' := by
  refine ⟨fun p hp => ?_, hctx, fun s hs => ?_, ?_⟩
  · rcases hnew p hp with hp | ⟨-, hb⟩
    · obtain ⟨b, hb, ht⟩ := h.managed p hp
      obtain ⟨b', hb', hev⟩ := he p b hb
      exact ⟨b', hb', fun hm => by
        have hm' : b.mode = .normalBuf := hev.mode ▸ hm
        rw [hev.payloadType hm', ht hm']⟩
    · exact hb
  · exact (h.holds s hs).mono he hsub fun p hp => (hnew p hp).imp id And.left
  · exact h.owners.imp fun hab p ha hb => hsub p (hab p ha hb)

/-- Only the heap and the current context differ. -/
theorem evolve (h : HeapInv heap subs contexts context) (he : heap.Evolves heap') :
    HeapInv heap' subs contexts context :=
  h.mono he (fun _ hp => hp) (fun _ hp => Or.inl hp) h.known

/-- A request was accepted whose payload is new or that of a context. -/
theorem cons (h : HeapInv heap subs contexts context) (hs : sub.HoldsPayload heap contexts)
    (hnew : ∀ p, sub.payload = some p → p ∈ contexts ∨ ∀ s ∈ subs, s.payload ≠ some p) :
    HeapInv heap (sub :: subs) contexts context := by
  refine ⟨h.managed, h.known, fun s hm => ?_, ?_⟩
  · rcases List.mem_cons.mp hm with rfl | hm
    · exact hs
    · exact h.holds s hm
  · rw [List.pairwise_cons]
    refine ⟨fun s hm p hp hq => ?_, h.owners⟩
    rcases hnew p hp with hc | hn
    · exact hc
    · exact absurd hq (hn s hm)

end HeapInv

/-! ## The payload of an accepted call -/

section Accepted

variable {call : OpCall} {l : Loop} {g : Grown} {req : Request} {heap1 : Heap}

theorem OpCall.shape_of_payloadShape (hp : Prepared call l g req) (hk : call.keepsPayload = false)
    {b : BufferPayload} (hs : call.PayloadShape b) : req.registration.PayloadShape b := by
  have hstream : call.usesStream = false → req.registration.streamStrategy = .oneshot := by
    intro hu
    rcases hp.stream with h | ⟨h, -⟩
    · exact h
    · rw [hu] at h
      exact absurd h (by simp)
  unfold Registration.PayloadShape
  rw [hp.opcode]
  cases call with
  | read | write | send | recv | readv | readvRaw | writev | writevRaw | sendmsg => exact hs
  | recvfrom => exact Or.inl ⟨hs, hstream rfl⟩
  | recvmsg => exact Or.inr hs
  | sendto => exact absurd hk (by simp [OpCall.keepsPayload])
  | _ => exact absurd hs (by simp [OpCall.PayloadShape])

theorem OpCall.usesContext_of_userBuffers (hp : Prepared call l g req)
    (hu : call.userBuffers = false) : req.registration.UsesContext := by
  unfold Registration.UsesContext
  rw [hp.opcode]
  cases call with
  | read => exact Or.inl rfl
  | readv => exact Or.inr (Or.inl rfl)
  | recv => exact Or.inr (Or.inr (Or.inl rfl))
  | recvfrom =>
    refine Or.inr (Or.inr (Or.inr ⟨rfl, ?_⟩))
    rcases hp.stream with h | ⟨h, -⟩
    · exact h
    · exact absurd h (by simp [OpCall.usesStream])
  | _ => exact absurd hu (by simp [OpCall.userBuffers])

theorem OpCall.plain_of_not_payloadShape (hs : ∀ b, ¬ call.PayloadShape b) :
    call.opcode.plain = true := by
  have hlinear : ∀ u, ∃ b, LinearShape u b := fun u =>
    ⟨⟨.payloadLinear, .payloadUser, .normalBuf, 0, some ⟨.wakeupBuf, 0⟩, none, none, 0, 0, 0⟩, rfl,
      _, rfl, by simp⟩
  have hvector : ∃ b, VectorShape b :=
    ⟨⟨.payloadIovec, .payloadUser, .normalBuf, 0, none, some ⟨[], 0⟩, none, 0, 0, 0⟩, rfl, rfl, rfl⟩
  cases call with
  | read =>
    obtain ⟨b, hb⟩ := hlinear false
    exact absurd hb (hs b)
  | write | send | recv | recvfrom | sendto =>
    obtain ⟨b, hb⟩ := hlinear true
    exact absurd hb (hs b)
  | readv | readvRaw | writev | writevRaw | sendmsg | recvmsg =>
    obtain ⟨b, hb⟩ := hvector
    exact absurd hb (hs b)
  | _ => rfl

/-- The payload that an operation made is the next one, and new. -/
theorem Prepared.fresh {p : PayloadId} {user : Bool} {shape : BufferPayload → Prop}
    (huse : PayloadUse l g user shape p) {subs : List Submitted} {contexts : List PayloadId}
    (h : HeapInv l.heap subs contexts l.context) :
    p ∈ contexts ∨ ∀ s ∈ subs, s.payload ≠ some p := by
  cases huse with
  | own hp _ _ _ =>
    refine Or.inr fun s hs he => ?_
    have hlt := (h.holds s hs).lt he
    rw [hp] at hlt
    exact Nat.lt_irrefl _ hlt
  | context _ _ hc =>
    obtain ⟨c, b, hctx, hp, -, -⟩ := hc
    exact Or.inl (h.known c hctx p hp)

/-- The heap of a call that was accepted, and what the request holds of it. -/
theorem HeapInv.accept (hp : Prepared call l g req) {subs : List Submitted}
    {contexts : List PayloadId} (h : HeapInv l.heap subs contexts l.context)
    (hk : (l.grow g).heap.Keeps heap1) {sub : Submitted}
    (hreg : sub.registration = req.registration) (hpay : sub.payload = req.payload) :
    HeapInv heap1 (sub :: subs) contexts l.context := by
  have hgrow : l.heap.Keeps (l.grow g).heap := .append rfl
  have hev := (hgrow.trans hk).evolves
  have hown : ∀ {p : PayloadId} {b : BufferPayload}, p = l.heap.payloads.length →
      g.payloads = [b] → b.Own → p ∉ contexts ∧ ∃ b', heap1.payloads[p]? = some b' ∧
        b.Evolves b' := by
    intro p b hlen hg ho
    constructor
    · intro hc
      obtain ⟨c, hb, -⟩ := h.managed p hc
      have hlt := (List.getElem?_eq_some_iff.mp hb).1
      rw [hlen] at hlt
      exact Nat.lt_irrefl _ hlt
    · have hb : (l.grow g).heap.payloads[p]? = some b := by
        show (l.heap.payloads ++ g.payloads)[p]? = some b
        rw [hg, hlen, List.getElem?_concat_length]
      obtain ⟨b', hb', he, -⟩ := hk p b hb
      exact ⟨b', hb', he⟩
  refine (h.evolve hev).cons ?_ ?_
  · cases hp.payload with
    | none _ hr hq hs =>
      exact .none (hreg ▸ hr) (hpay ▸ hq)
        (by rw [hreg, hp.opcode]; exact OpCall.plain_of_not_payloadShape hs)
    | registered hr hq hkeep huse =>
      cases huse with
      | own hlen hg ho hs =>
        obtain ⟨hc, b', hb', he⟩ := hown hlen hg ho
        exact .own (hreg ▸ hr) (hpay ▸ hq) hc hb' (he.mode.trans ho.mode)
          ((he.idxRegistry ho.mode).trans ho.idxRegistry)
          (hreg ▸ he.payloadShape ho.mode (OpCall.shape_of_payloadShape hp hkeep hs))
      | context hu _ hc =>
        obtain ⟨c, b, hctx, hcp, hb, hm⟩ := hc
        obtain ⟨b', hb', he⟩ := hev _ _ hb
        exact .context (hreg ▸ hr) (hpay ▸ hq) (h.known c hctx _ hcp) hb'
          (by rw [he.mode]; exact hm) (hreg ▸ OpCall.usesContext_of_userBuffers hp hu)
    | kept hr hq hkeep huse =>
      cases huse with
      | own hlen hg ho hs =>
        obtain ⟨hc, b', hb', he⟩ := hown hlen hg ho
        refine .kept (hreg ▸ hr) (hpay ▸ hq) hc hb' (he.mode.trans ho.mode) ?_
        rw [hreg, hp.opcode]
        cases call with
        | sendto => rfl
        | _ => exact absurd hkeep (by simp [OpCall.keepsPayload])
      | context hu _ _ => exact absurd hu (by simp)
  · intro p hs
    rw [hpay] at hs
    cases hp.payload with
    | none _ _ hq _ =>
      rw [hq] at hs
      exact absurd hs (by simp)
    | registered _ hq _ huse | kept _ hq _ huse =>
      rw [hq] at hs
      obtain rfl := Option.some.inj hs
      exact Prepared.fresh huse h

end Accepted

/-! ## Releases -/

/-- Neither the payload of a context nor one that a live slot has was released. -/
structure ReleaseInv (heap : Heap) (reg : RequestRegistry) (contexts : List PayloadId) : Prop where
  context : ∀ p ∈ contexts, ∀ b, heap.payloads[p]? = some b → b.frees = 0
  live : ∀ i slot p b, reg.liveSlot i = some slot → slot.bufferPayload = some p →
    heap.payloads[p]? = some b → b.frees = 0

namespace ReleaseInv

variable {heap heap' : Heap} {reg reg' : RequestRegistry} {contexts contexts' : List PayloadId}

theorem mono (h : ReleaseInv heap reg contexts) (hk : heap.Keeps heap')
    (hlive : ∀ i slot, reg'.liveSlot i = some slot → reg.liveSlot i = some slot)
    (hin : ∀ i slot p, reg.liveSlot i = some slot → slot.bufferPayload = some p →
      p < heap.payloads.length)
    (hctx : ∀ p ∈ contexts', p ∈ contexts ∧ p < heap.payloads.length ∨
      ∃ b, heap'.payloads[p]? = some b ∧ b.frees = 0) : ReleaseInv heap' reg' contexts' := by
  have hold : ∀ {p b}, p < heap.payloads.length → heap'.payloads[p]? = some b →
      ∃ c, heap.payloads[p]? = some c ∧ b.frees = c.frees := by
    intro p b hlt hb
    obtain ⟨b', hb', -, hf⟩ := hk p _ (List.getElem?_eq_getElem hlt)
    rw [hb] at hb'
    obtain rfl := Option.some.inj hb'
    exact ⟨_, List.getElem?_eq_getElem hlt, hf⟩
  refine ⟨fun p hp b hb => ?_, fun i slot p b hs hp hb => ?_⟩
  · rcases hctx p hp with ⟨hp, hlt⟩ | ⟨c, hc, hf⟩
    · obtain ⟨c, hc, hf⟩ := hold hlt hb
      rw [hf]
      exact h.context p hp c hc
    · rw [hb] at hc
      rw [Option.some.inj hc]
      exact hf
  · have hs' := hlive i slot hs
    obtain ⟨c, hc, hf⟩ := hold (hin i slot p hs' hp) hb
    rw [hf]
    exact h.live i slot p c hs' hp hc

/-- The release of a payload that neither a context nor a live slot has. -/
theorem release (h : ReleaseInv heap reg contexts) {payload : Option PayloadId}
    (hp : ∀ p b, payload = some p → heap.payloads[p]? = some b → b.mode = .normalBuf →
      p ∉ contexts ∧ ∀ i slot, reg.liveSlot i = some slot → slot.bufferPayload ≠ some p) :
    ReleaseInv (freeBufferPayload heap payload false) reg contexts := by
  cases payload with
  | none => exact h
  | some q =>
    have hback : ∀ p b, (freeBufferPayload heap (some q) false).payloads[p]? = some b →
        ∃ c, heap.payloads[p]? = some c ∧
          (b.frees = c.frees ∨ p = q ∧ c.mode = .normalBuf) := by
      intro p b hb
      by_cases hq : q = p
      · subst hq
        have hlt := (List.getElem?_eq_some_iff.mp hb).1
        rw [length_freeBufferPayload] at hlt
        have hc := List.getElem?_eq_getElem hlt
        rw [freeBufferPayload_self hc] at hb
        refine ⟨_, hc, ?_⟩
        rw [← Option.some.inj hb]
        by_cases hm : heap.payloads[q].mode = .normalBuf
        · exact Or.inr ⟨rfl, hm⟩
        · rw [BufferPayload.release_of_context hm]
          exact Or.inl rfl
      · rw [freeBufferPayload_of_ne hq] at hb
        exact ⟨b, hb, Or.inl rfl⟩
    refine ⟨fun p hm b hb => ?_, fun i slot p b hs hsp hb => ?_⟩
    · obtain ⟨c, hc, hf | ⟨rfl, hmode⟩⟩ := hback p b hb
      · rw [hf]
        exact h.context p hm c hc
      · exact absurd hm (hp p c rfl hc hmode).1
    · obtain ⟨c, hc, hf | ⟨rfl, hmode⟩⟩ := hback p b hb
      · rw [hf]
        exact h.live i slot p c hs hsp hc
      · exact absurd hsp ((hp p c rfl hc hmode).2 i slot hs)

end ReleaseInv

section Accepted

variable {call : OpCall} {l : Loop} {g : Grown} {req : Request} {p : PayloadId}

theorem Prepared.payload_of_registration (hp : Prepared call l g req)
    (hr : req.registration.bufferPayload = some p) : req.payload = some p := by
  cases hp.payload with
  | none _ hn _ _ | kept hn _ _ _ =>
    rw [hn] at hr
    exact absurd hr (by simp)
  | registered hr' hq _ _ => rw [hq, ← hr', hr]

/-- The payload of a request that is about to be submitted. -/
theorem Prepared.payload_cases (hp : Prepared call l g req) (hq : req.payload = some p) :
    (p = l.heap.payloads.length ∧ ∃ b, g.payloads = [b] ∧ b.Own) ∨
      (g.payloads = [] ∧ ContextPayload l p) := by
  have huse : ∀ {user : Bool} {shape : BufferPayload → Prop} {q : PayloadId},
      req.payload = some q → PayloadUse l g user shape q →
      (p = l.heap.payloads.length ∧ ∃ b, g.payloads = [b] ∧ b.Own) ∨
        (g.payloads = [] ∧ ContextPayload l p) := by
    intro user shape q he hu
    obtain rfl := Option.some.inj (hq.symm.trans he)
    cases hu with
    | own hlen hg ho _ => exact Or.inl ⟨hlen, _, hg, ho⟩
    | context _ hg hc => exact Or.inr ⟨hg, hc⟩
  cases hp.payload with
  | none _ _ hn _ =>
    rw [hn] at hq
    exact absurd hq (by simp)
  | registered _ he _ hu | kept _ he _ hu => exact huse he hu

theorem Prepared.payload_lt (hp : Prepared call l g req) (hq : req.payload = some p) :
    p < (l.grow g).heap.payloads.length := by
  simp only [Loop.grow, List.length_append]
  rcases hp.payload_cases hq with ⟨rfl, b, hg, -⟩ | ⟨-, c, b, -, -, hb, -⟩
  · rw [hg]
    exact Nat.lt_add_one _
  · exact Nat.lt_of_lt_of_le (List.getElem?_eq_some_iff.mp hb).1 (Nat.le_add_right _ _)

end Accepted

/-! ## Objects -/

/-- The objects without which the reader has nothing to complete. -/
def Registration.NamesObject (reg : Registration) : Prop :=
  match reg.opcode with
  | .openat2 => reg.file.isSome
  | .socket | .bind | .connect | .listen | .accept | .recv | .recvmsg => reg.socket.isSome
  | .close => reg.file.isSome ∨ reg.socket.isSome
  | _ => True

/-- The objects that requests name exist. -/
structure ObjectInv (l : Loop) (subs : List Submitted) : Prop where
  file : ∀ sub ∈ subs, ∀ id, sub.registration.file = some id → id < l.files.length
  socket : ∀ sub ∈ subs, ∀ id, sub.registration.socket = some id → id < l.sockets.length
  names : ∀ sub ∈ subs, sub.registration.NamesObject

theorem ObjectInv.mono {l l1 : Loop} {subs : List Submitted} (h : ObjectInv l subs)
    (hf : l.files.length ≤ l1.files.length) (hs : l.sockets.length ≤ l1.sockets.length) :
    ObjectInv l1 subs :=
  ⟨fun sub hm id hid => Nat.lt_of_lt_of_le (h.file sub hm id hid) hf,
    fun sub hm id hid => Nat.lt_of_lt_of_le (h.socket sub hm id hid) hs, h.names⟩

theorem Loop.KeepsObjects.length_files {l l1 : Loop} (h : l.KeepsObjects l1) :
    l.files.length ≤ l1.files.length := by
  by_contra hlt
  obtain ⟨f, hf, -⟩ := h.file _ _ (List.getElem?_eq_getElem (Nat.lt_of_not_le hlt))
  have := (List.getElem?_eq_some_iff.mp hf).1
  omega

theorem Loop.KeepsObjects.length_sockets {l l1 : Loop} (h : l.KeepsObjects l1) :
    l.sockets.length ≤ l1.sockets.length := by
  by_contra hlt
  obtain ⟨f, hf, -⟩ := h.socket _ _ (List.getElem?_eq_getElem (Nat.lt_of_not_le hlt))
  have := (List.getElem?_eq_some_iff.mp hf).1
  omega

theorem ObjectInv.cons {call : OpCall} {l l1 : Loop} {g : Grown} {req : Request}
    {subs : List Submitted} {sub : Submitted} (h : ObjectInv l subs) (hp : Prepared call l g req)
    (hreg : sub.registration = req.registration)
    (hf : l1.files.length = l.files.length + g.files.length)
    (hs : l1.sockets.length = l.sockets.length + g.sockets.length) :
    ObjectInv l1 (sub :: subs) := by
  have hold : ObjectInv l1 subs := h.mono (by omega) (by omega)
  rw [hp.files] at hf
  rw [hp.sockets] at hs
  refine ⟨fun x hx id hid => ?_, fun x hx id hid => ?_, fun x hx => ?_⟩
  · rcases List.mem_cons.mp hx with rfl | hx
    · rw [hreg, hp.file] at hid
      cases call with
      | «open» =>
        obtain rfl := Option.some.inj hid
        rw [hf]
        simp [OpCall.newFiles]
      | _ =>
        obtain ⟨fd, file, ⟨hget, -⟩, -⟩ := hp.ready.file id hid
        rw [hf]
        exact Nat.lt_add_right _ (List.getElem?_eq_some_iff.mp hget).1
    · exact hold.file x hx id hid
  · rcases List.mem_cons.mp hx with rfl | hx
    · rw [hreg, hp.socket] at hid
      cases call with
      | prepSocket =>
        obtain rfl := Option.some.inj hid
        rw [hs]
        simp [OpCall.newSockets]
      | _ =>
        obtain ⟨fd, sock, ⟨hget, -⟩, -⟩ := hp.ready.socket id hid
        rw [hs]
        exact Nat.lt_add_right _ (List.getElem?_eq_some_iff.mp hget).1
    · exact hold.socket x hx id hid
  · rcases List.mem_cons.mp hx with rfl | hx
    · unfold Registration.NamesObject
      rw [hreg, hp.opcode, hp.file, hp.socket]
      cases call with
      | fileAexit | fileClose => exact Or.inl rfl
      | socketAexit | socketClose => exact Or.inr rfl
      | «open» | prepSocket | bind | connect | listen | accept | recv | recvfrom | recvmsg => rfl
      | _ => trivial
    · exact hold.names x hx

/-! ## Slots -/

/-- The slot of a request that holds its payload is one that the reader can handle. -/
theorem slotFits_of_holdsPayload {heap : Heap} {contexts : List PayloadId}
    {sub : Submitted} (h : sub.HoldsPayload heap contexts)
    (hn : sub.registration.NamesObject) (i : Int) : SlotFits heap (sub.registration.slot i) := by
  have hshape : ∀ p b, sub.registration.bufferPayload = some p → heap.payloads[p]? = some b →
      b.mode = .normalBuf ∧ sub.registration.PayloadShape b ∨ sub.registration.UsesContext := by
    intro p b hp hb
    cases h with
    | none hr _ _ | kept hr _ _ _ _ _ =>
      rw [hr] at hp
      exact absurd hp (by simp)
    | own hr _ _ hb' hm _ hs =>
      obtain rfl := Option.some.inj (hr.symm.trans hp)
      obtain rfl := Option.some.inj (hb'.symm.trans hb)
      exact Or.inl ⟨hm, hs⟩
    | context _ _ _ _ _ ho => exact Or.inr ho
  refine ⟨fun ho p b hp hb => ?_, fun ho => ?_, fun ho => ?_, fun ho hst p b hp hb => ?_⟩
  · have ho' : sub.registration.opcode = .write := ho
    rcases hshape p b hp hb with ⟨hm, -⟩ | hu
    · exact hm
    · simp [Registration.UsesContext, ho'] at hu
  · have ho' : sub.registration.opcode = .accept := ho
    show sub.registration.bufferPayload = none
    cases h with
    | none hr _ _ | kept hr _ _ _ _ _ => exact hr
    | own _ _ _ _ _ _ hs => simp [Registration.PayloadShape, ho'] at hs
    | context _ _ _ _ _ hu => simp [Registration.UsesContext, ho'] at hu
  · have ho' : sub.registration.opcode = .recv := ho
    unfold Registration.NamesObject at hn
    rw [ho'] at hn
    exact hn
  · have ho' : sub.registration.opcode = .recvmsg := ho
    have hst' : sub.registration.streamStrategy = .multishot := hst
    rcases hshape p b hp hb with ⟨-, hs⟩ | hu
    · unfold Registration.PayloadShape at hs
      rw [ho'] at hs
      rcases hs with ⟨-, hone⟩ | hv
      · rw [hst'] at hone
        exact absurd hone (by simp)
      · exact hv.2.1
    · simp [Registration.UsesContext, ho', hst'] at hu

end Uringio
