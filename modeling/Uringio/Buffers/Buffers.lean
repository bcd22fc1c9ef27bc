/-
  Buffer payloads (`src/python_api/buffers/buffers.c`).

  A `BufferPayload` is reached through its `PayloadId`. `frees` counts how often
  `free_buffer_payload` took effect on it; the library never reads it. Of an array of
  `LinearBuffer` only the first entry is kept, the one that operations read.

  `get_or_create_linear_buffer` ignores the result of its helper. When the helper fails
  the payload keeps the unassigned pointers that `malloc` left in it, and every path from
  there on reads or frees through them: the model stops at once.
-/
import Uringio.Types
import Uringio.Buffers.BufferIndex

namespace Uringio

structure LinearBuffer where
  buffer : Ptr
  len : Nat
deriving DecidableEq, Repr

structure VectoredBuffer where
  iovecs : List Iovec
  nrVecs : Nat
deriving DecidableEq, Repr

structure BufferPayload where
  payloadType : PayloadType
  payloadOrigin : PayloadOrigin
  mode : BufferMode
  amount : Int
  linear : Option LinearBuffer
  vector : Option VectoredBuffer
  idxRegistry : Option FixedBufferIdxRegistry
  bufIdx : Int
  bgid : Int
  frees : Nat
deriving DecidableEq, Repr

/-- The payloads that were ever created, and the other blocks that were freed. -/
structure Heap where
  payloads : List BufferPayload
  freed : List Block
deriving DecidableEq, Repr

namespace Heap

/-- Writes a payload. -/
def put (h : Heap) (p : PayloadId) (b : BufferPayload) : Heap :=
  { h with payloads := h.payloads.set p b }

/-- A new payload and the pointer to it. -/
def alloc (h : Heap) (b : BufferPayload) : PayloadId × Heap :=
  (h.payloads.length, { h with payloads := h.payloads ++ [b] })

/-- `free` of a block that is not a payload. -/
def freeBlock (h : Heap) (block : Option Block) : Heap :=
  { h with freed := h.freed ++ block.toList }

end Heap

/-! ## Release -/

/-- The release of one payload: without `force` it takes effect in NORMAL_BUF mode only. -/
def BufferPayload.release (b : BufferPayload) (force : Bool) : BufferPayload :=
  if b.mode ≠ .normalBuf ∧ ¬ force then b else { b with frees := b.frees + 1 }

/-- `free_buffer_payload`. -/
def freeBufferPayload (h : Heap) (payload : Option PayloadId) (force : Bool) : Heap :=
  match payload with
  | none => h
  | some p => { h with payloads := h.payloads.modify p (·.release force) }

/-! ## Creation -/

/-- What a call may take from memory: the block for the payload, the buffer behind it (its
    address), and what the buffer protocol gives for an argument. `unassigned` is what an
    `int` field holds that nobody assigned. -/
structure BufferEnv where
  payload : Bool
  runtime : Option Nat
  views : Option (List LinearBuffer)
  unassigned : Int
deriving DecidableEq, Repr

def LinearBuffer.iovec (b : LinearBuffer) : Iovec := ⟨b.buffer, b.len⟩

/-- `create_buffer_payload_from_data`. -/
def createBufferPayloadFromData (h : Heap) (env : BufferEnv) : Option PayloadId × Heap :=
  match env.payload, env.views with
  | true, some (view :: _) =>
    let (p, h) := h.alloc
      { payloadType := .payloadLinear, payloadOrigin := .payloadUser, mode := .normalBuf,
        amount := 1, linear := some view, vector := none, idxRegistry := none, bufIdx := 0,
        bgid := 0, frees := 0 }
    (some p, h)
  | _, _ => (none, h)

/-- `create_buffer_payload_from_pybuffer` for the iovecs that lie in the given buffer. -/
def createBufferPayloadFromPybuffer (h : Heap) (iovecs : List Iovec) (env : BufferEnv) :
    Option PayloadId × Heap :=
  if env.payload then
    let (p, h) := h.alloc
      { payloadType := .payloadIovec, payloadOrigin := .payloadUser, mode := .normalBuf,
        amount := 1, linear := none, vector := some ⟨iovecs, iovecs.length⟩,
        idxRegistry := none, bufIdx := 0, bgid := 0, frees := 0 }
    (some p, h)
  else (none, h)

/-- The payload of the current buffer context, when it can serve a linear operation. -/
def contextLinear (h : Heap) (context : Option PayloadId) : Option PayloadId :=
  context.filter fun p =>
    (h.payloads[p]?).any fun b => b.payloadType == .payloadLinear && b.linear.isSome

/-- The payload of the current buffer context, when it can serve a vectored operation. -/
def contextVectored (h : Heap) (context : Option PayloadId) : Option PayloadId :=
  context.filter fun p =>
    (h.payloads[p]?).any fun b => b.payloadType == .payloadIovec && b.vector.isSome

/-- `create_linear_buffers(1, bufsize, payload)` or `serialize_linear_buffers(buffers_obj, 1,
    payload)`. -/
def linearBuffers (buffersObj : Bool) (bufsize : Int) (env : BufferEnv) : Option LinearBuffer :=
  if buffersObj then env.views.bind List.head?
  else env.runtime.map fun p => ⟨.mem p, toUint64 bufsize⟩

/-- `create_vectored_buffers(1, 1024, payload)` or `serialize_vectored_buffers(buffers_obj,
    payload)`. -/
def vectoredBuffers (buffersObj : Bool) (env : BufferEnv) : Option VectoredBuffer :=
  if buffersObj then env.views.map fun views => ⟨views.map LinearBuffer.iovec, views.length⟩
  else env.runtime.map fun p => ⟨[⟨.mem p, 1024⟩], 1⟩

/-- `get_or_create_linear_buffer`; `buffersObj` says whether buffers were passed. -/
def getOrCreateLinearBuffer (h : Heap) (context : Option PayloadId) (buffersObj : Bool)
    (bufsize : Int) (env : BufferEnv) : Except Stop (Option PayloadId × Heap) :=
  match (if buffersObj then none else contextLinear h context) with
  | some p => .ok (some p, h)
  | none =>
    if !env.payload then .ok (none, h)
    else
      match linearBuffers buffersObj bufsize env with
      | none => .error .unassigned
      | some linear =>
        let (p, h) := h.alloc
          { payloadType := .payloadLinear
            payloadOrigin := if buffersObj then .payloadUser else .payloadRuntime
            mode := .normalBuf, amount := 1, linear := some linear, vector := none
            idxRegistry := none, bufIdx := env.unassigned, bgid := env.unassigned, frees := 0 }
        .ok (some p, h)

/-- `get_or_create_vectored_buffer`. -/
def getOrCreateVectoredBuffer (h : Heap) (context : Option PayloadId) (buffersObj : Bool)
    (env : BufferEnv) : Option PayloadId × Heap :=
  match (if buffersObj then none else contextVectored h context) with
  | some p => (some p, h)
  | none =>
    if !env.payload then (none, h)
    else
      match vectoredBuffers buffersObj env with
      | none => (none, h)
      | some vector =>
        let (p, h) := h.alloc
          { payloadType := .payloadIovec
            payloadOrigin := if buffersObj then .payloadUser else .payloadRuntime
            mode := .normalBuf, amount := vector.nrVecs, linear := none, vector := some vector
            idxRegistry := none, bufIdx := 0, bgid := 0, frees := 0 }
        (some p, h)

/-! ## Lemmas -/

/-- Two functions that agree on the entry make the same change. -/
theorem modify_congr_at {α : Type} {xs : List α} {i : Nat} {f g : α → α}
    (h : ∀ x, xs[i]? = some x → f x = g x) : xs.modify i f = xs.modify i g := by
  apply List.ext_getElem?
  intro j
  rw [List.getElem?_modify, List.getElem?_modify]
  by_cases hij : i = j
  · subst hij
    cases hx : xs[i]? with
    | none => rfl
    | some x => simp [h x hx]
  · cases xs[j]? with
    | none => rfl
    | some x => simp [hij]

theorem modify_eq_self {α : Type} {xs : List α} {i : Nat} {f : α → α}
    (h : ∀ x, xs[i]? = some x → f x = x) : xs.modify i f = xs :=
  (modify_congr_at h).trans (List.modify_id i xs)

/-- Changing an entry is setting it. -/
theorem modify_eq_set_of_some {α : Type} {xs : List α} {i : Nat} {f : α → α} {x : α}
    (h : xs[i]? = some x) : xs.modify i f = xs.set i (f x) := by
  have hlt := (List.getElem?_eq_some_iff.mp h).1
  apply List.ext_getElem?
  intro j
  rw [List.getElem?_modify, List.getElem?_set]
  by_cases hij : i = j
  · subst hij
    rw [h, if_pos rfl, if_pos hlt]
    simp
  · cases xs[j]? with
    | none => simp [hij]
    | some y => simp [hij]

namespace BufferPayload

variable {b : BufferPayload} {force : Bool}

@[simp] theorem release_mode : (b.release force).mode = b.mode := by
  unfold release
  split <;> rfl

@[simp] theorem release_linear : (b.release force).linear = b.linear := by
  unfold release
  split <;> rfl

@[simp] theorem release_vector : (b.release force).vector = b.vector := by
  unfold release
  split <;> rfl

@[simp] theorem release_payloadType : (b.release force).payloadType = b.payloadType := by
  unfold release
  split <;> rfl

@[simp] theorem release_idxRegistry : (b.release force).idxRegistry = b.idxRegistry := by
  unfold release
  split <;> rfl

@[simp] theorem release_bufIdx : (b.release force).bufIdx = b.bufIdx := by
  unfold release
  split <;> rfl

theorem release_of_normalBuf (h : b.mode = .normalBuf) :
    b.release force = { b with frees := b.frees + 1 } := by
  unfold release
  rw [if_neg (by simp [h])]

/-- A payload of a buffer context is released by force only. -/
theorem release_of_context (h : b.mode ≠ .normalBuf) : b.release false = b := by
  unfold release
  rw [if_pos ⟨h, by simp⟩]

end BufferPayload

section Lemmas

variable {h : Heap} {p q : PayloadId} {b : BufferPayload} {force : Bool}

@[simp] theorem freeBufferPayload_none : freeBufferPayload h none force = h := rfl

@[simp] theorem length_freeBufferPayload {payload : Option PayloadId} :
    (freeBufferPayload h payload force).payloads.length = h.payloads.length := by
  cases payload with
  | none => rfl
  | some p => simp [freeBufferPayload]

/-- Releases depend on the payloads only. -/
theorem payloads_freeBufferPayload {h' : Heap} {payload : Option PayloadId}
    (he : h.payloads = h'.payloads) :
    (freeBufferPayload h payload force).payloads = (freeBufferPayload h' payload force).payloads := by
  cases payload with
  | none => exact he
  | some p => simp only [freeBufferPayload, he]

theorem freeBufferPayload_self (hb : h.payloads[p]? = some b) :
    (freeBufferPayload h (some p) force).payloads[p]? = some (b.release force) := by
  simp [freeBufferPayload, hb]

theorem freeBufferPayload_of_ne (hne : p ≠ q) :
    (freeBufferPayload h (some p) force).payloads[q]? = h.payloads[q]? := by
  simp [freeBufferPayload, hne]

@[simp] theorem freeBlock_payloads {block : Option Block} :
    (h.freeBlock block).payloads = h.payloads := rfl

theorem alloc_payloads_self :
    (h.alloc b).2.payloads[(h.alloc b).1]? = some b := by
  simp [Heap.alloc]

theorem alloc_payloads_of_some {c : BufferPayload} (hc : h.payloads[q]? = some c) :
    (h.alloc b).2.payloads[q]? = some c := by
  have hlt : q < h.payloads.length := (List.getElem?_eq_some_iff.mp hc).1
  simp only [Heap.alloc]
  rw [List.getElem?_append_left hlt, hc]

end Lemmas

end Uringio
