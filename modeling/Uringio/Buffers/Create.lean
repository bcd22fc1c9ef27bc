/-
  The functions of `buffers.c` that build a payload: `create_buffer_payload` for a context,
  and the others for one request.

  In `create_buffer_payload` the inner `switch` of NORMAL_BUF ends without a `break`, so that
  the case runs on into FIXED and builds a second time over the first.
-/
import Uringio.Buffers.Construct

namespace Uringio.Buffers

open Lib Lib.Program

structure BufferMetadata where
  payloadOrigin : PayloadOrigin
  payloadType : PayloadType
  mode : BufferMode
  amount : Int
  bufsize : Int
deriving DecidableEq, Repr

/-- `BufferMetadata buffer_metadata = {0}`. -/
def BufferMetadata.zero : BufferMetadata := ⟨.payloadUser, .payloadLinear, .normalBuf, 0, 0⟩

/-- `_get_buffer_metadata`. On an error it returns zeros with the exception set. -/
def getBufferMetadata (buffersObj : Option PyBuffers) (mode : BufferMode)
    (payloadType : PayloadType) (amount bufsize : Int) : BufferProgram BufferMetadata :=
  let mode := if mode = .bufNoVal then .normalBuf else mode
  let payloadType := if payloadType = .payloadTypeNoVal then .payloadLinear else payloadType
  match buffersObj with
  | none => ret ⟨.payloadRuntime, payloadType, mode, amount, bufsize⟩
  | some obj =>
    if !obj.isSequence then do
      raise
      return .zero
    else
      match obj.length with
      | none => do
        raise
        return .zero
      | some pyLen =>
        let amount := toInt pyLen
        if amount = 0 then stop .divByZero
        else ret ⟨.payloadUser, payloadType, mode, amount,
          toInt (toUint64 ((obj.size : Int).tdiv amount))⟩

section Create

variable (grants : Nat → Bool)

/-- The linear buffers by their origin. -/
def linearByOrigin (m : BufferMetadata) (buffersObj : Option PyBuffers) (payload : Payload) :
    BufferProgram Payload :=
  match m.payloadOrigin, buffersObj with
  | .payloadRuntime, _ => createLinearBuffers grants m.amount m.bufsize payload
  | .payloadUser, some obj => serializeLinearBuffers grants obj m.amount payload
  | .payloadUser, none => stop .null
  | .originNoVal, _ => returnNull

/-- The vector by its origin. -/
def vectoredByOrigin (m : BufferMetadata) (buffersObj : Option PyBuffers) (payload : Payload) :
    BufferProgram Payload :=
  match m.payloadOrigin, buffersObj with
  | .payloadRuntime, _ => createVectoredBuffers grants m.amount m.bufsize payload
  | .payloadUser, some obj => serializeVectoredBuffers grants obj payload
  | .payloadUser, none => stop .null
  | .originNoVal, _ => returnNull

/-- Both by their origin. -/
def combinedByOrigin (m : BufferMetadata) (buffersObj : Option PyBuffers) (payload : Payload) :
    BufferProgram Payload :=
  match m.payloadOrigin, buffersObj with
  | .payloadRuntime, _ => makeBuffers grants m.amount (toUint64 m.bufsize) payload
  | .payloadUser, some obj => serializeBuffers grants obj m.amount payload
  | .payloadUser, none => stop .null
  | .originNoVal, _ => returnNull

/-- The assignments at the end of `create_buffer_payload`. -/
def Payload.finish (payload : Payload) (m : BufferMetadata) (mode : BufferMode)
    (payloadType : PayloadType) : Payload :=
  { payload with
    amount := some m.amount, payloadOrigin := some m.payloadOrigin, mode := some mode
    payloadType := some payloadType }

/-- The case FIXED. -/
def fixedCase (m : BufferMetadata) (mode : BufferMode) (buffersObj : Option PyBuffers)
    (payload : Payload) : BufferProgram Payload := do
  let payload ← combinedByOrigin grants m buffersObj payload
  return payload.finish m mode .payloadLinearAndIovec

/-- The inner `switch` of the case NORMAL_BUF. -/
def normalCase (m : BufferMetadata) (payloadType : PayloadType) (buffersObj : Option PyBuffers)
    (payload : Payload) : BufferProgram Payload :=
  match payloadType with
  | .payloadLinear => linearByOrigin grants m buffersObj payload
  | .payloadIovec => vectoredByOrigin grants m buffersObj payload
  | .payloadLinearAndIovec => combinedByOrigin grants m buffersObj payload
  | .payloadTypeNoVal => returnNull

/-- The cases PROVIDED and BUF_RING. -/
def providedCase (m : BufferMetadata) (mode : BufferMode) (buffersObj : Option PyBuffers)
    (payload : Payload) : BufferProgram Payload := do
  let payload ← linearByOrigin grants m buffersObj payload
  return payload.finish m mode .payloadLinear

/-- The `switch` of `create_buffer_payload`. -/
def createByMode (m : BufferMetadata) (mode : BufferMode) (payloadType : PayloadType)
    (buffersObj : Option PyBuffers) (rand : Int) (payload : Payload) : BufferProgram Payload :=
  match mode with
  | .normalBuf => do
    let payload ← normalCase grants m payloadType buffersObj payload
    -- no break
    fixedCase grants m mode buffersObj payload
  | .fixed => fixedCase grants m mode buffersObj payload
  | .provided => providedCase grants m mode buffersObj { payload with bgid := some rand }
  | .bufRing => providedCase grants m mode buffersObj payload
  | .bufNoVal => returnNull

/-- `create_buffer_payload`; `rand` is what `rand()` returns. -/
def createBufferPayload (mode : BufferMode) (payloadType : PayloadType)
    (buffersObj : Option PyBuffers) (amount bufsize rand : Int) : BufferProgram Payload := do
  let m ← getBufferMetadata buffersObj mode payloadType amount bufsize
  match ← malloc grants with
  | none => do
    raise
    returnNull
  | some block =>
    createByMode grants m mode payloadType buffersObj rand
      { Payload.unassigned block with bgid := some 0 }

/-- `create_buffer_payload_from_pybuffer`: the iovecs lie in the buffer, whose export `iovecsBuf`
    the caller has acquired. -/
def createBufferPayloadFromPybuffer (iovecsBuf : View) (iovecs : List Iovec) :
    BufferProgram Payload := do
  match ← malloc grants with
  | none => do
    raise
    returnNull
  | some block =>
    let payload := Payload.zeroed block
    let nrVecs : Nat := iovecs.length % 2 ^ 32
    match ← pyMemMalloc grants sizeofVectoredBuffer with
    | none => do
      free block
      raise
      returnNull
    | some vec =>
      match ← pyMemMalloc grants (arraySize sizeofIovec nrVecs) with
      | none => do
        pyMemFree (some vec)
        free block
        raise
        returnNull
      | some array =>
        match ← pyMemMalloc grants sizeofPyBuffer with
        | none => do
          pyMemFree (some array)
          pyMemFree (some vec)
          free block
          raise
          returnNull
        | some views =>
          let vector : Vector := {
            block := vec
            iovecs := some (some ⟨array, (iovecs.take nrVecs).map fun v =>
              some ⟨.user v.iovBase, v.iovLen⟩⟩)
            nrVecs := some nrVecs
            views := some (some ⟨views, [some iovecsBuf]⟩) }
          return { payload with
            payloadType := some .payloadIovec, amount := some 1, linear := some none
            vector := some (some vector), mode := some .normalBuf
            payloadOrigin := some .payloadUser }

/-- `create_buffer_payload_from_data`; the mode stays zero, which is NORMAL_BUF. -/
def createBufferPayloadFromData (data : Option LinearBuffer) : BufferProgram Payload := do
  match ← malloc grants with
  | none => do
    raise
    returnNull
  | some block =>
    let payload := Payload.zeroed block
    match ← pyMemMalloc grants sizeofLinearBuffer with
    | none => do
      free block
      raise
      returnNull
    | some buffer =>
      match ← pyMemMalloc grants sizeofPyBuffer with
      | none => do
        pyMemFree (some buffer)
        free block
        raise
        returnNull
      | some views =>
        let got ← acquireExports (fun _ => some data) 1 fun _ => do
          raise
          pyMemFree (some views)
          pyMemFree (some buffer)
          free block
          returnNull
        let linear ← setViews buffer (got.map userLinear)
          (some ⟨views, got.map fun x => some (viewOf x)⟩)
        return { payload with
          payloadType := some .payloadLinear, vector := some none, amount := some 1
          linear := some (some linear), payloadOrigin := some .payloadUser }

/-- The payload of the context, where it serves a request without buffers of its own. -/
def contextPayload (context : Option Payload) (buffersObj : Option PyBuffers)
    (payloadType : PayloadType) (usable : Payload → Bool) : Option Payload :=
  match buffersObj with
  | none => context.filter fun p => p.payloadType == some payloadType && usable p
  | some _ => none

/-- The context's `linear` is not NULL. -/
def Payload.hasLinear (payload : Payload) : Bool := payload.linear.join.isSome

/-- The context's `vector` is not NULL. -/
def Payload.hasVector (payload : Payload) : Bool := payload.vector.join.isSome

/-- The assignments at the end of the two `get_or_create` functions. -/
def Payload.forRequest (payload : Payload) (buffersObj : Option PyBuffers) (amount : Int)
    (payloadType : PayloadType) : Payload :=
  { payload with
    amount := some amount, mode := some .normalBuf
    payloadOrigin := some (if buffersObj.isSome then .payloadUser else .payloadRuntime)
    payloadType := some payloadType }

/-- `get_or_create_linear_buffer`, where `context` is what `_get_buffer` returns. The result
    of the helper is not looked at. -/
def getOrCreateLinearBuffer (context : Option Payload) (buffersObj : Option PyBuffers)
    (bufsize : Int) : BufferProgram Payload := do
  match contextPayload context buffersObj .payloadLinear Payload.hasLinear with
  | some payload => return payload
  | none =>
    match ← malloc grants with
    | none => returnNull
    | some block =>
      let payload := Payload.unassigned block
      let built ← attempt (match buffersObj with
        | some obj => serializeLinearBuffers grants obj 1 payload
        | none => createLinearBuffers grants 1 bufsize payload)
      return (built.getD payload).forRequest buffersObj 1 .payloadLinear

/-- `get_or_create_vectored_buffer`. -/
def getOrCreateVectoredBuffer (context : Option Payload) (buffersObj : Option PyBuffers) :
    BufferProgram Payload := do
  match contextPayload context buffersObj .payloadIovec Payload.hasVector with
  | some payload => return payload
  | none =>
    match ← malloc grants with
    | none => returnNull
    | some block =>
      let payload := Payload.zeroed block
      let built ← attempt (match buffersObj with
        | some obj => serializeVectoredBuffers grants obj payload
        | none => createVectoredBuffers grants 1 1024 payload)
      match built with
      | none => do
        free block
        returnNull
      | some built =>
        match built.vector.join with
        | none => stop .null
        | some vector =>
          let nrVecs ← get vector.nrVecs
          return built.forRequest buffersObj (toInt nrVecs) .payloadIovec

end Create

end Uringio.Buffers
