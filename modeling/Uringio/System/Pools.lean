/-
  The pool of a FIXED context over one step of the system (`PoolStep`).

  Entering the context makes the pool and leaving it empties it; the submission of a fixed
  read takes an index, and the success branch of a request with the payload gives the index
  back that the payload holds by then. Nothing else touches the pool, so a payload that has
  one was entered, and every request that names a registered buffer is a read with the
  payload of an entered context (`PoolInv`).
-/
import Uringio.System.Ownership
import Uringio.System.Shapes

namespace Uringio

/-! ## A payload but for its releases -/

/-- The payload without the number of its releases, which no operation reads. -/
def BufferPayload.core (b : BufferPayload) : BufferPayload := { b with frees := 0 }

namespace BufferPayload

variable {b : BufferPayload}

@[simp] theorem core_mode : b.core.mode = b.mode := rfl

@[simp] theorem core_idxRegistry : b.core.idxRegistry = b.idxRegistry := rfl

@[simp] theorem core_bufIdx : b.core.bufIdx = b.bufIdx := rfl

@[simp] theorem core_vector : b.core.vector = b.vector := rfl

@[simp] theorem core_release (force : Bool) : (b.release force).core = b.core := by
  unfold release
  split
  · rfl
  · rfl

/-- The payload after an index was taken. -/
def takeIndex (b : BufferPayload) (reg : FixedBufferIdxRegistry) : BufferPayload :=
  { b with idxRegistry := some (getBufferIdx reg).2, bufIdx := (getBufferIdx reg).1 }

/-- The payload after its index was given back. -/
def giveBack (b : BufferPayload) (reg : FixedBufferIdxRegistry) : BufferPayload :=
  { b with idxRegistry := some (releaseBufferIdx reg b.bufIdx).2 }

/-- The payload after its context was entered. -/
def entered (b : BufferPayload) : BufferPayload :=
  { b with
    idxRegistry := some (bufferIdxRegistryCreate (toUnsigned b.amount))
    vector := none, payloadType := .payloadLinear }

/-- The payload after its context was left. -/
def left (b : BufferPayload) : BufferPayload :=
  { b with idxRegistry := b.idxRegistry.map bufferIdxRegistryDestroy }

end BufferPayload

namespace Heap

variable {h h' : Heap} {p q : PayloadId} {b b' : BufferPayload}

def core (h : Heap) (p : PayloadId) : Option BufferPayload :=
  (h.payloads[p]?).map BufferPayload.core

theorem core_of_some (hb : h.payloads[p]? = some b) : h.core p = some b.core := by
  unfold core
  rw [hb]
  rfl

theorem exists_of_core (hc : h.core p = some b) : ∃ b0, h.payloads[p]? = some b0 ∧ b = b0.core := by
  obtain ⟨b0, hb, he⟩ := Option.map_eq_some_iff.mp hc
  exact ⟨b0, hb, he.symm⟩

theorem core_of_payloads (he : h'.payloads = h.payloads) : h'.core p = h.core p := by
  unfold core
  rw [he]

@[simp] theorem core_freeBufferPayload (payload : Option PayloadId) (force : Bool) :
    (freeBufferPayload h payload force).core p = h.core p := by
  cases payload with
  | none => rfl
  | some q =>
    unfold core
    by_cases hq : q = p
    · subst hq
      cases hb : h.payloads[q]? with
      | none => simp [freeBufferPayload, hb]
      | some b =>
        rw [freeBufferPayload_self hb]
        simp
    · rw [freeBufferPayload_of_ne hq]

theorem core_append {new : List BufferPayload} (he : h'.payloads = h.payloads ++ new)
    (hc : h.core p = some b) : h'.core p = some b := by
  obtain ⟨b0, hb, rfl⟩ := exists_of_core hc
  have hlt := (List.getElem?_eq_some_iff.mp hb).1
  refine core_of_some ?_
  rw [he, List.getElem?_append_left hlt, hb]

theorem core_put_of_ne (hne : q ≠ p) : (h.put q b').core p = h.core p := by
  unfold core put
  rw [List.getElem?_set_ne hne]

theorem core_put_self (hb : h.payloads[p]? = some b) : (h.put p b').core p = some b'.core := by
  have hlt := (List.getElem?_eq_some_iff.mp hb).1
  refine core_of_some ?_
  simp [put, hlt]

/-- What is there after new payloads was there before, or is one of the new ones. -/
theorem core_of_append {new : List BufferPayload} (he : h'.payloads = h.payloads ++ new)
    (hc : h'.core p = some b) : h.core p = some b ∨ ∃ b0 ∈ new, b = b0.core := by
  obtain ⟨b0, hb, rfl⟩ := exists_of_core hc
  rw [he] at hb
  by_cases hlt : p < h.payloads.length
  · rw [List.getElem?_append_left hlt] at hb
    exact .inl (core_of_some hb)
  · rw [List.getElem?_append_right (Nat.not_lt.mp hlt)] at hb
    exact .inr ⟨b0, List.mem_of_getElem? hb, rfl⟩

end Heap

/-! ## The dispatcher and the reader -/

section Steps

variable {heap heap' : Heap} {p : PayloadId} {b : BufferPayload} {reg : FixedBufferIdxRegistry}

/-- The success branch of a request with the payload gives back the index in the payload. -/
theorem core_returned (hc : heap.core p = some b) (hm : b.mode = .fixed)
    (hr : b.idxRegistry = some reg) (slot : RequestSlot) :
    (returned heap slot).core p =
      some (if slot.opcode.returnsIndex = true ∧ slot.bufferPayload = some p then b.giveBack reg
        else b) := by
  obtain ⟨b0, hb, rfl⟩ := Heap.exists_of_core hc
  unfold returned
  by_cases hop : slot.opcode.returnsIndex = true
  · rw [if_pos hop]
    by_cases hp : slot.bufferPayload = some p
    · rw [if_pos ⟨hop, hp⟩, hp]
      have hm0 : b0.mode = .fixed := hm
      have hr0 : b0.idxRegistry = some reg := hr
      unfold returnIndex
      dsimp only
      rw [hb]
      dsimp only
      rw [if_pos hm0, hr0]
      exact Heap.core_put_self hb
    · rw [if_neg (fun h => hp h.2), ← hc]
      unfold returnIndex
      split
      · rfl
      · rename_i q hq
        have hne : q ≠ p := fun e => hp (hq.trans (congrArg some e))
        split
        · rfl
        · split
          · split
            · rfl
            · exact Heap.core_put_of_ne hne
          · rfl
  · rw [if_neg hop, if_neg (fun h => hop h.1), hc]

theorem core_returned_of_not (hc : heap.core p = some b)
    (hn : b.mode ≠ .fixed ∨ b.idxRegistry = none) (slot : RequestSlot) :
    (returned heap slot).core p = some b := by
  obtain ⟨b0, hb, rfl⟩ := Heap.exists_of_core hc
  rw [← hc]
  unfold returned returnIndex
  split
  · split
    · rfl
    · rename_i q hq
      split
      · rfl
      · rename_i b1 hb1
        split
        · rename_i hm
          split
          · rfl
          · rename_i reg hreg
            by_cases hne : q = p
            · subst hne
              obtain rfl := Option.some.inj (hb.symm.trans hb1)
              rcases hn with hn | hn
              · exact absurd hm hn
              · exact absurd (hreg.symm.trans hn) (by simp)
            · exact Heap.core_put_of_ne hne
        · rfl
  · rfl

variable {call : OpCall} {l : Loop} {g : Grown} {req : Request} {op : COp}

/-- The dispatcher of a read with the payload takes an index. -/
theorem DispatchPart.core_read (hd : DispatchPart call l g req)
    (hx : req.dispatch (l.grow g).heap = .ok (op, heap'))
    (hc : (l.grow g).heap.core p = some b) (hm : b.mode = .fixed)
    (hp : req.registration.bufferPayload = some p) (hop : call.opcode = .read) :
    ∃ reg, b.idxRegistry = some reg ∧ op.bufIndex = some (getBufferIdx reg).1 ∧
      heap'.core p = some (b.takeIndex reg) := by
  obtain ⟨b0, hb, rfl⟩ := Heap.exists_of_core hc
  cases hd with
  | plain _ hn => exact absurd hm (hn hop p b0 hp hb)
  | @fixed q hq _ _ hf =>
    obtain rfl : q = p := Option.some.inj (hq.symm.trans hp)
    obtain ⟨b1, reg, hb1, -, hr, rfl, -, hi⟩ := hf op heap' hx
    obtain rfl := Option.some.inj (hb.symm.trans hb1)
    exact ⟨reg, hr, hi, Heap.core_put_self hb⟩

/-- Every other dispatcher leaves the payload, and names no registered buffer with it. -/
theorem DispatchPart.core_other (hd : DispatchPart call l g req)
    (hx : req.dispatch (l.grow g).heap = .ok (op, heap'))
    (hn : ¬ (req.registration.bufferPayload = some p ∧ call.opcode = .read)) :
    heap'.core p = (l.grow g).heap.core p ∧
      (req.registration.bufferPayload = some p → op.bufIndex = none) := by
  cases hd with
  | plain h _ =>
    obtain ⟨rfl, -, hi⟩ := h op heap' hx
    exact ⟨rfl, fun _ => hi⟩
  | @fixed q hq hop _ hf =>
    have hne : q ≠ p := fun e => hn ⟨hq.trans (congrArg some e), hop⟩
    obtain ⟨b1, reg1, -, -, -, rfl, -, -⟩ := hf op heap' hx
    refine ⟨Heap.core_put_of_ne hne, fun hp => absurd ?_ hne⟩
    exact Option.some.inj (hq.symm.trans hp)

/-- Who names a registered buffer is a read with a payload that has a pool. -/
theorem DispatchPart.names_buffer (hd : DispatchPart call l g req)
    (hx : req.dispatch (l.grow g).heap = .ok (op, heap')) (hi : op.bufIndex.isSome = true) :
    call.opcode = .read ∧ ∃ q b, req.registration.bufferPayload = some q ∧
      heap'.core q = some b ∧ b.mode = .fixed ∧ b.idxRegistry.isSome = true := by
  cases hd with
  | plain h _ =>
    rw [(h op heap' hx).2.2] at hi
    exact absurd hi (by simp)
  | @fixed q hq hop _ hf =>
    obtain ⟨b, reg, hb, hm, -, rfl, -, -⟩ := hf op heap' hx
    exact ⟨hop, q, _, hq, Heap.core_put_self hb, hm, rfl⟩

/-- An operation that names a registered buffer takes any descriptor, and links its timeout. -/
theorem COp.of_bufIndex {i : Int} (h : op.bufIndex = some i) :
    op.Accepts ∧ ∀ t, op.linked t = t := by
  cases op with
  | readFixed _ _ _ _ _ | writeFixed _ _ _ _ _ | recvFixed _ _ _ _ _ => exact ⟨trivial, fun _ => rfl⟩
  | recvmsgFixed _ _ _ _ _ | sendZcFixed _ _ _ _ _ => exact ⟨trivial, fun _ => rfl⟩
  | sendmsgZc _ _ _ _ _ _ _ => exact ⟨trivial, fun _ => rfl⟩
  | _ => exact absurd h (by simp [COp.bufIndex])

end Steps

/-! ## One step -/

/-- The action enters the context of the payload. -/
def Act.enters (p : PayloadId) : Act → Bool
  | .enterBuffers q _ _ | .enterContext q _ _ _ _ => q == p
  | _ => false

/-- The action leaves the context of the payload. -/
def Act.exits (p : PayloadId) : Act → Bool
  | .exitBuffers q _ _ => q == p
  | _ => false

/-- What an action can do to the payload of a FIXED context. -/
inductive PoolStep (a : Act) (p : PayloadId) (b : BufferPayload) : BufferPayload → Prop
  | same : PoolStep a p b b
  | entered (ha : a.enters p = true) (hv : b.vector.isSome = true) : PoolStep a p b b.entered
  | left {token : Option ExecutionContext} {submit : Int} (ha : a = .exitBuffers p token submit) :
      PoolStep a p b b.left
  | taken {call : OpCall} {env : CallEnv} {reg : FixedBufferIdxRegistry} (ha : a = .call call env)
      (hr : b.idxRegistry = some reg) : PoolStep a p b (b.takeIndex reg)
  | returned {env : ReadEnv} {reg : FixedBufferIdxRegistry} (ha : a = .read env)
      (hr : b.idxRegistry = some reg) : PoolStep a p b (b.giveBack reg)

/-- What an action does to the payloads of FIXED contexts: each takes such a step, and the new
    ones have no pool yet. -/
structure PoolsStep (a : Act) (h h' : Heap) : Prop where
  old : ∀ p b, h.core p = some b → ∃ b', h'.core p = some b' ∧ PoolStep a p b b'
  new : ∀ p b, h.core p = none → h'.core p = some b → b.mode = .fixed → b.idxRegistry = none

namespace PoolsStep

variable {a : Act} {h h' h'' : Heap}

theorem of_core (hc : ∀ p, h'.core p = h.core p) : PoolsStep a h h' := by
  refine ⟨fun p b hb => ⟨b, (hc p).trans hb, .same⟩, fun p b hn hb _ => ?_⟩
  rw [hc, hn] at hb
  exact absurd hb (by simp)

theorem congr (hs : PoolsStep a h h') (hc : ∀ p, h''.core p = h'.core p) : PoolsStep a h h'' := by
  refine ⟨fun p b hb => ?_, fun p b hn hb hm => hs.new p b hn (hc p ▸ hb) hm⟩
  obtain ⟨b', hb', hstep⟩ := hs.old p b hb
  exact ⟨b', (hc p).trans hb', hstep⟩

/-- New payloads without a pool. -/
theorem of_append {new : List BufferPayload} (he : h'.payloads = h.payloads ++ new)
    (hn : ∀ b ∈ new, b.mode = .fixed → b.idxRegistry = none) : PoolsStep a h h' := by
  refine ⟨fun p b hb => ⟨b, Heap.core_append he hb, .same⟩, fun p b hc hb hm => ?_⟩
  rcases Heap.core_of_append he hb with hc' | ⟨b0, hm0, rfl⟩
  · rw [hc] at hc'
    exact absurd hc' (by simp)
  · exact hn b0 hm0 hm

/-- One payload takes a step. -/
theorem of_put {p : PayloadId} {b b' : BufferPayload} (hb : h.payloads[p]? = some b)
    (hs : PoolStep a p b.core b'.core) : PoolsStep a h (h.put p b') := by
  refine ⟨fun q c hc => ?_, fun q c hn hc _ => ?_⟩
  · by_cases hq : p = q
    · subst hq
      obtain rfl := Option.some.inj ((Heap.core_of_some hb).symm.trans hc)
      exact ⟨_, Heap.core_put_self hb, hs⟩
    · exact ⟨c, (Heap.core_put_of_ne hq).trans hc, .same⟩
  · by_cases hq : p = q
    · subst hq
      rw [Heap.core_of_some hb] at hn
      exact absurd hn (by simp)
    · rw [Heap.core_put_of_ne hq, hn] at hc
      exact absurd hc (by simp)

end PoolsStep

section Contexts

variable {l l1 : Loop} {context : ExecutionContext} {p : PayloadId} {registered : Bool}
  {submit : Int} {a : Act}

theorem openBuffers_pools (ha : a.enters p = true)
    (h : openBuffers l context p registered submit = .ok l1) : PoolsStep a l.heap l1.heap := by
  unfold openBuffers at h
  split at h
  · exact absurd h (by simp)
  · rename_i b hb
    split at h
    · split at h
      · exact absurd h (by simp)
      · rename_i vec hvec
        split at h
        · obtain rfl := Except.ok.inj h
          exact .of_core fun _ => rfl
        · obtain rfl := Except.ok.inj h
          refine .of_put hb (.entered ha ?_)
          rw [BufferPayload.core_vector, hvec]
          rfl
    · split at h
      · exact absurd h (by simp)
      · dsimp only at h
        split at h
        · obtain rfl := Except.ok.inj h
          exact .of_core fun _ => rfl
        · obtain rfl := Except.ok.inj h
          exact .of_core fun _ => rfl
    · split at h
      · exact absurd h (by simp)
      · obtain rfl := Except.ok.inj h
        exact .of_core fun _ => rfl
    · obtain rfl := Except.ok.inj h
      exact .of_core fun _ => rfl
    · obtain rfl := Except.ok.inj h
      exact .of_core fun _ => rfl

theorem BufferModeCtx.enter_pools (ha : a.enters p = true)
    (h : BufferModeCtx.enter l p registered submit = .ok l1) : PoolsStep a l.heap l1.heap := by
  unfold BufferModeCtx.enter at h
  split at h
  · exact openBuffers_pools ha h
  · obtain rfl := Except.ok.inj h
    exact .of_core fun _ => rfl

theorem ExecutionContextCtx.enter_pools {stream : StreamStrategy} {transferMode : TransferMode}
    (ha : a.enters p = true)
    (h : ExecutionContextCtx.enter l p stream transferMode registered submit = .ok l1) :
    PoolsStep a l.heap l1.heap := by
  unfold ExecutionContextCtx.enter at h
  split at h
  · exact openBuffers_pools ha h
  · exact absurd h (by simp)

theorem BufferModeCtx.exit_pools {token : Option ExecutionContext}
    (h : BufferModeCtx.exit l p token submit = .ok l1) :
    PoolsStep (.exitBuffers p token submit) l.heap l1.heap := by
  unfold BufferModeCtx.exit at h
  split at h
  · exact absurd h (by simp)
  · rename_i b hb
    split at h
    · obtain rfl := Except.ok.inj h
      exact .of_put hb (.left rfl)
    · obtain rfl := Except.ok.inj h
      exact .of_core fun _ => rfl
    · obtain rfl := Except.ok.inj h
      exact .of_core fun _ => rfl
    · obtain rfl := Except.ok.inj h
      exact .of_core fun _ => rfl
    · obtain rfl := Except.ok.inj h
      exact .of_core fun _ => rfl

theorem createBufferPayload_pools (h : Heap) (mode : BufferMode) (buffersObj : Bool)
    (buffers : Option (List LinearBuffer)) (bgid unassigned : Int) :
    PoolsStep a h (createBufferPayload h mode buffersObj buffers bgid unassigned).2 := by
  have hnew : ∀ b : BufferPayload, b.idxRegistry = none → PoolsStep a h (h.alloc b).2 := by
    intro b hb
    refine .of_append rfl fun c hc _ => ?_
    rw [List.mem_singleton.mp hc]
    exact hb
  unfold createBufferPayload
  cases buffers with
  | none =>
    cases mode with
    | normalBuf | fixed | provided | bufRing | bufNoVal => exact .of_core fun _ => rfl
  | some buffers =>
    cases mode with
    | normalBuf | fixed | provided | bufRing => exact hnew _ rfl
    | bufNoVal => exact .of_core fun _ => rfl

end Contexts

/-- What a call has added has no pool. -/
theorem PoolsStep.grow {a : Act} {call : OpCall} {l : Loop} {g : Grown} {req : Request}
    (hp : Prepared call l g req) : PoolsStep a l.heap (l.grow g).heap := by
  refine .of_append rfl fun b hb _ => ?_
  have huse : ∀ {user : Bool} {shape : BufferPayload → Prop} {p : PayloadId},
      PayloadUse l g user shape p → b.idxRegistry = none := by
    intro user shape p huse
    cases huse with
    | own _ hg ho _ =>
      rw [hg] at hb
      rw [List.mem_singleton.mp hb]
      exact ho.idxRegistry
    | context _ hg _ =>
      rw [hg] at hb
      exact absurd hb List.not_mem_nil
  cases hp.payload with
  | none hg _ _ _ =>
    rw [hg] at hb
    exact absurd hb List.not_mem_nil
  | registered _ _ _ hu => exact huse hu
  | kept _ _ _ hu => exact huse hu

/-- The dispatcher of a call takes an index at most. -/
theorem PoolsStep.dispatch {call : OpCall} {env : CallEnv} {l : Loop} {g : Grown}
    {req : Request} {op : COp} {heap : Heap} (hp : Prepared call l g req)
    (hx : req.dispatch (l.grow g).heap = .ok (op, heap)) :
    PoolsStep (.call call env) l.heap heap := by
  have hgrow := PoolsStep.grow (a := .call call env) hp
  cases hp.dispatch with
  | plain h _ => exact hgrow.congr fun q => by rw [(h op heap hx).1]
  | @fixed p _ _ hg hf =>
    obtain ⟨b, reg, hb, -, hr, rfl, -, -⟩ := hf op heap hx
    have hl : (l.grow g).heap = l.heap := by
      unfold Loop.grow
      rw [hg, List.append_nil]
    rw [hl] at hb ⊢
    have hstep : PoolStep (.call call env) p b.core (b.core.takeIndex reg) := .taken rfl hr
    exact .of_put hb hstep

theorem PoolsStep.returned {env : ReadEnv} {heap : Heap} (slot : RequestSlot) :
    PoolsStep (.read env) heap (returned heap slot) := by
  refine ⟨fun p b hb => ?_, fun p b hn hb _ => ?_⟩
  · by_cases hm : b.mode = .fixed
    · cases hr : b.idxRegistry with
      | none => exact ⟨b, core_returned_of_not hb (.inr hr) slot, .same⟩
      | some reg =>
        refine ⟨_, core_returned hb hm hr slot, ?_⟩
        split
        · exact .returned rfl hr
        · exact .same
    · exact ⟨b, core_returned_of_not hb (.inl hm) slot, .same⟩
  · obtain ⟨b0, hb0, -⟩ := Heap.exists_of_core hb
    have hlt := (List.getElem?_eq_some_iff.mp hb0).1
    have hlen : (Uringio.returned heap slot).payloads.length = heap.payloads.length := by
      unfold Uringio.returned
      split
      · exact Heap.length_returnIndex _
      · rfl
    rw [hlen] at hlt
    rw [Heap.core_of_some (List.getElem?_eq_getElem hlt)] at hn
    exact absurd hn (by simp)

/-! ## The shutdown -/

theorem core_destroySlots {heap : Heap} {slots : List RequestSlot} {p : PayloadId} :
    (destroySlots heap slots).core p = heap.core p := by
  induction slots generalizing heap with
  | nil => rfl
  | cons slot slots ih =>
    unfold destroySlots
    rw [ih, Heap.core_freeBufferPayload]

theorem core_drained {drained : List Drained} {l l1 : Loop} {p : PayloadId}
    (hc : l.registry.Cleared) (h : Lib.run shutdownCqe l drained = .ok l1) :
    l1.heap.core p = l.heap.core p := by
  induction drained generalizing l with
  | nil =>
    obtain rfl : l = l1 := Except.ok.inj h
    rfl
  | cons d drained ih =>
    obtain ⟨m, hm, h⟩ := Lib.run_cons_ok.mp h
    obtain ⟨hcm, he⟩ := shutdownCqe_emptied hc hm
    rw [ih hcm h, Heap.core_of_payloads he.payloads, Heap.core_freeBufferPayload]

/-- The shutdown releases payloads, and leaves their pools. -/
theorem core_gracefulShutdown {drained : List Drained} {submit : Int} {l l1 : Loop}
    {p : PayloadId} (hc : l.registry.Cleared) (h : gracefulShutdown l drained submit = .ok l1) :
    l1.heap.core p = l.heap.core p := by
  obtain ⟨m, hm, rfl⟩ := gracefulShutdown_eq_ok.mp h
  exact core_destroySlots.trans (core_drained hc hm)

/-! ## All steps -/

namespace System

variable {s t : System} {a : Act} {p : PayloadId}

theorem stepContext_pools {step : Loop → Except Stop Loop}
    (hk : ∀ l, step s.loop = .ok l → PoolsStep a s.loop.heap l.heap)
    (hs : s.stepContext p step = .ok t) : PoolsStep a s.loop.heap t.loop.heap := by
  unfold stepContext at hs
  split at hs
  · cases hl : step s.loop with
    | error e =>
      rw [hl] at hs
      exact absurd hs (by simp [Except.map])
    | ok l =>
      rw [hl] at hs
      obtain rfl := Except.ok.inj hs
      exact hk l hl
  · exact absurd hs (by simp)

theorem quiet_pools (ha : a.quiet = true) (hs : s.step a = .ok t) :
    PoolsStep a s.loop.heap t.loop.heap := by
  have hd := down_of_step hs
  unfold step at hs
  rw [hd, if_neg (by simp)] at hs
  cases a with
  | call call env => exact absurd ha (by simp [Act.quiet])
  | post seq res flags => exact absurd ha (by simp [Act.quiet])
  | read env => exact absurd ha (by simp [Act.quiet])
  | shutdown drained submit => exact absurd ha (by simp [Act.quiet])
  | submit result =>
    obtain rfl := Except.ok.inj hs
    exact .of_core fun _ => rfl
  | wake =>
    obtain rfl := Except.ok.inj hs
    exact .of_core fun _ => rfl
  | newBuffers mode buffersObj buffers bgid unassigned =>
    obtain rfl := Except.ok.inj hs
    have hk := createBufferPayload_pools (a := .newBuffers mode buffersObj buffers bgid unassigned)
      s.loop.heap mode buffersObj buffers bgid unassigned
    unfold stepNewBuffers
    split
    · rename_i heap he
      rw [he] at hk
      exact hk
    · rename_i q heap he
      rw [he] at hk
      exact hk
  | enterBuffers q registered submit =>
    exact stepContext_pools (fun _ => BufferModeCtx.enter_pools (by simp [Act.enters])) hs
  | enterContext q stream transferMode registered submit =>
    exact stepContext_pools (fun _ => ExecutionContextCtx.enter_pools (by simp [Act.enters])) hs
  | exitBuffers q token submit =>
    dsimp only at hs
    split at hs
    · exact stepContext_pools (fun _ => BufferModeCtx.exit_pools) hs
    · exact absurd hs (by simp)
  | stream stream =>
    obtain rfl := Except.ok.inj hs
    exact .of_core fun _ => rfl
  | transfer transferMode =>
    obtain rfl := Except.ok.inj hs
    exact .of_core fun _ => rfl
  | switch context =>
    dsimp only at hs
    split at hs
    · obtain rfl := Except.ok.inj hs
      exact .of_core fun _ => rfl
    · exact absurd hs (by simp)

theorem Stepped.pools (hst : Stepped s a t) (hb : s.Base) (hs : s.step a = .ok t) :
    PoolsStep a s.loop.heap t.loop.heap := by
  cases hst with
  | called _ ho =>
    cases ho with
    | refused h =>
      obtain ⟨g, rfl, -, -, hg⟩ := h
      refine .of_append rfl fun b hbm hm => ?_
      rw [(hg b hbm).1] at hm
      exact absurd hm (by simp)
    | full _ hp _ hh =>
      refine (PoolsStep.grow hp).congr fun q => ?_
      exact (Heap.core_of_payloads hh).trans (Heap.core_freeBufferPayload _ _)
    | rejected _ hp _ hdisp _ _ _ _ _ hh =>
      refine (PoolsStep.dispatch hp hdisp).congr fun q => ?_
      simp only [answer, withLoop, Loop.setClosed_heap]
      exact (Heap.core_of_payloads hh).trans (Heap.core_freeBufferPayload _ _)
    | accepted _ hp _ hdisp _ _ hh =>
      refine (PoolsStep.dispatch hp hdisp).congr fun q => ?_
      simp only [answer, withLoop, Loop.setClosed_heap]
      exact Heap.core_of_payloads hh
  | posted _ | dropped _ _ | skipped _ _ _ => exact .of_core fun _ => rfl
  | @handled env c cs slot _ _ _ _ _ _ hh =>
    have hret : PoolsStep (.read env) s.loop.heap
        (if 0 ≤ c.res then returned s.loop.heap slot else s.loop.heap) := by
      split
      · exact .returned slot
      · exact .of_core fun _ => rfl
    refine hret.congr fun q => ?_
    exact (Heap.core_of_payloads hh.payloads).trans (Heap.core_freeBufferPayload _ _)
  | quiet ha _ => exact quiet_pools ha hs
  | shutdown _ hg =>
    exact .of_core fun q => core_gracefulShutdown hb.registry.cleared hg

end System

/-! ## The invariant -/

namespace PoolStep

variable {a : Act} {p : PayloadId} {b b' : BufferPayload}

theorem mode (h : PoolStep a p b b') : b'.mode = b.mode := by
  cases h with
  | same | entered _ _ | left _ | taken _ _ | returned _ _ => rfl

theorem isSome (h : PoolStep a p b b') (hr : b.idxRegistry.isSome = true) :
    b'.idxRegistry.isSome = true := by
  cases h with
  | same => exact hr
  | entered _ _ | taken _ _ | returned _ _ => rfl
  | left _ =>
    unfold BufferPayload.left
    rw [Option.isSome_map]
    exact hr

/-- A payload with a pool was entered, and has no vector any more. -/
theorem opened (h : PoolStep a p b b') (ho : b.idxRegistry.isSome = true → b.vector = none)
    (hr : b'.idxRegistry.isSome = true) : b'.vector = none := by
  cases h with
  | same => exact ho hr
  | entered _ _ => rfl
  | left _ =>
    unfold BufferPayload.left at hr
    rw [Option.isSome_map] at hr
    exact ho hr
  | taken _ hreg | returned _ hreg =>
    refine ho ?_
    rw [hreg]
    rfl

end PoolStep

/-- The request is a read that names a registered buffer of an entered context. -/
def Submitted.ReadsFixed (heap : Heap) (sub : Submitted) : Prop :=
  sub.registration.opcode = .read ∧ ∃ p b, sub.registration.bufferPayload = some p ∧
    heap.core p = some b ∧ b.mode = .fixed ∧ b.idxRegistry.isSome = true

/-- A FIXED payload with a pool was entered, and who names a registered buffer reads with such
    a payload. -/
structure PoolInv (heap : Heap) (subs : List Submitted) : Prop where
  opened : ∀ p b, heap.core p = some b → b.mode = .fixed → b.idxRegistry.isSome = true →
    b.vector = none
  reads : ∀ sub ∈ subs, sub.op.bufIndex.isSome = true → sub.ReadsFixed heap

theorem PoolInv.pools {heap heap' : Heap} {subs : List Submitted} (h : PoolInv heap subs)
    (hs : PoolsStep a heap heap') : PoolInv heap' subs := by
  refine ⟨fun p b hb hm hr => ?_, fun sub hsub hi => ?_⟩
  · cases hc : heap.core p with
    | none =>
      rw [hs.new p b hc hb hm] at hr
      exact absurd hr (by simp)
    | some b0 =>
      obtain ⟨b', hb', hstep⟩ := hs.old p b0 hc
      obtain rfl := Option.some.inj (hb.symm.trans hb')
      exact hstep.opened (h.opened p b0 hc (hstep.mode.symm.trans hm)) hr
  · obtain ⟨hop, p, b, hp, hb, hm, hr⟩ := h.reads sub hsub hi
    obtain ⟨b', hb', hstep⟩ := hs.old p b hb
    exact ⟨hop, p, b', hp, hb', hstep.mode.trans hm, hstep.isSome hr⟩

namespace System

variable {s t : System} {a : Act}

theorem poolInv_step (h : PoolInv s.loop.heap s.subs) (hb : s.Base) (hs : s.step a = .ok t) :
    PoolInv t.loop.heap t.subs := by
  obtain ⟨-, hst⟩ := step_cases hb hs
  have hold := h.pools (hst.pools hb hs)
  refine ⟨hold.opened, ?_⟩
  cases hst with
  | called _ ho =>
    cases ho with
    | refused _ | full _ _ _ _ => exact hold.reads
    | rejected _ _ _ _ _ _ _ _ _ _ => exact hold.reads
    | accepted _ hp _ hdisp _ _ hh =>
      intro sub hsub hi
      rcases List.mem_cons.mp hsub with rfl | hsub
      · obtain ⟨hop, q, b, hq, hc, hm, hr⟩ := hp.dispatch.names_buffer hdisp hi
        refine ⟨hp.opcode.trans hop, q, b, hq, ?_, hm, hr⟩
        simp only [answer, withLoop, Loop.setClosed_heap]
        exact (Heap.core_of_payloads hh).trans hc
      · exact hold.reads sub hsub hi
  | posted _ | dropped _ _ | skipped _ _ _ | handled _ _ _ _ _ | shutdown _ _ => exact hold.reads
  | quiet _ hq =>
    intro sub hsub hi
    rw [hq.subs] at hsub
    exact hold.reads sub hsub hi

theorem init_poolInv {l : Loop} (h : l.heap.payloads = []) :
    PoolInv (init l).loop.heap (init l).subs := by
  refine ⟨fun p b hb => ?_, fun sub hsub => absurd hsub List.not_mem_nil⟩
  obtain ⟨b0, hb0, -⟩ := Heap.exists_of_core hb
  simp only [init, h, List.getElem?_nil] at hb0
  exact absurd hb0 (by simp)

theorem poolInv_of_run {acts : List Act} (hb : s.Base) (h : PoolInv s.loop.heap s.subs)
    (hr : s.run acts = .ok t) (hd : t.down = false) : PoolInv t.loop.heap t.subs := by
  have hg : Lib.Meets step (fun _ _ => True) s acts := Lib.meets_true
  have hinv := Lib.Meets.invariant
    (fun u => u.down = false → u.Base ∧ PoolInv u.loop.heap u.subs)
    (fun u a v hu _ hs hdv => by
      obtain ⟨hbu, hpu⟩ := hu (down_of_step hs)
      exact ⟨hbu.step hs hdv, poolInv_step hpu hbu hs⟩)
    hg (fun _ => ⟨hb, h⟩) hr
  exact (hinv hd).2

end System

end Uringio
