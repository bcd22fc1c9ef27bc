/-
  The methods of File (`src/python_api/ops/files`) up to the submission of their request:
  what each checks, which payload it takes, what it registers and which C-layer operation
  its dispatcher chooses.
-/
import Uringio.Loop.Request

namespace Uringio

open Lib Program

/-! ## Dispatchers -/

/-- Reads through a `BufferPayload *`. -/
def payloadAt (heap : Heap) (p : PayloadId) : Except Stop BufferPayload :=
  match heap.payloads[p]? with
  | some b => .ok b
  | none => .error .segv

/-- `payload->linear->...`. -/
def linearOf (b : BufferPayload) : Except Stop LinearBuffer :=
  match b.linear with
  | some linear => .ok linear
  | none => .error .segv

/-- `payload->vector->...`. -/
def vectorOf (b : BufferPayload) : Except Stop VectoredBuffer :=
  match b.vector with
  | some vector => .ok vector
  | none => .error .segv

/-- `payload->buf_idx = get_buffer_idx(payload->idx_registry)`. -/
def takeBufIdx (heap : Heap) (p : PayloadId) (b : BufferPayload) : Except Stop (Int × Heap) :=
  match b.idxRegistry with
  | none => .error .segv
  | some reg =>
    let (bufIdx, reg) := getBufferIdx reg
    .ok (bufIdx, heap.put p { b with idxRegistry := some reg, bufIdx := bufIdx })

def readDispatcher (fd : Int) (payload : PayloadId) (stream : StreamStrategy) (size offset : Int)
    (heap : Heap) : Except Stop (COp × Heap) := do
  let b ← payloadAt heap payload
  match b.mode with
  | .fixed =>
    let (bufIdx, heap) ← takeBufIdx heap payload b
    let linear ← linearOf b
    return (.readFixed fd linear.buffer (toUnsigned size) offset bufIdx, heap)
  | .provided | .bufRing =>
    if stream = .multishot then return (.readMultishot fd offset b.bgid, heap)
    else return (.readBufferSelect fd (toUnsigned size) offset b.bgid, heap)
  | .normalBuf | .bufNoVal =>
    let linear ← linearOf b
    return (.read fd linear.buffer (toUnsigned size) offset, heap)

def readvDispatcher (fd : Int) (payload : PayloadId) (offset : Int) (nowait : Bool)
    (heap : Heap) : Except Stop (COp × Heap) := do
  let b ← payloadAt heap payload
  match b.mode with
  | .provided | .bufRing =>
    let linear ← linearOf b
    return (.readvBufferSelect fd linear.len offset b.bgid nowait, heap)
  | .fixed | .normalBuf | .bufNoVal =>
    let vector ← vectorOf b
    return (.readv fd vector.iovecs vector.nrVecs offset nowait, heap)

def writeDispatcher (fd : Int) (payload : PayloadId) (offset : Int) (heap : Heap) :
    Except Stop (COp × Heap) := do
  let b ← payloadAt heap payload
  match b.mode with
  | .fixed =>
    let (bufIdx, heap) ← takeBufIdx heap payload b
    let linear ← linearOf b
    return (.writeFixed fd linear.buffer linear.len offset bufIdx, heap)
  | .provided | .bufRing | .normalBuf | .bufNoVal =>
    let linear ← linearOf b
    return (.write fd linear.buffer linear.len offset, heap)

/-- A call of `uringio_readv` or `uringio_writev` with the vector of the payload. -/
def vectoredCall (payload : PayloadId) (call : List Iovec → Nat → COp) (heap : Heap) :
    Except Stop (COp × Heap) := do
  let b ← payloadAt heap payload
  let vector ← vectorOf b
  return (call vector.iovecs vector.nrVecs, heap)

/-! ## Requests -/

/-- A request of a File that uses a payload; the caller drops the payload when the registry
    is full. -/
def fileRequest (self : FileId) (future : FutureId) (payload : Option PayloadId)
    (stream : StreamStrategy) (opcode : Opcode) (t : TimeoutParams × Option PyErr)
    (dispatch : Heap → Except Stop (COp × Heap)) : Request :=
  { registration := ⟨future, payload, stream, opcode, some self, none, none, none⟩
    dispatch := dispatch
    timeoutParams := t.1
    payload := payload
    freeOnFull := none
    freeMsgOnFull := none
    freeAfter := none
    flag := none
    error := checkFileResult
    pending := t.2 }

/-- The exception of `Uringio_open` for a result below 1. -/
def openResult (result : Int) : Option PyErr :=
  if result = -1 then some ⟨.runtimeError, "SQE is not awailable"⟩
  else if result = 0 then some ⟨.runtimeError, "SQE submission failed"⟩
  else none

/-- `Uringio_open`. `path` is what PyOS_FSPath and the UTF-8 conversion give. -/
def uringioOpen (dfd : Int) (path : Except PyErr String) (flags resolve mode : Int)
    (timeoutParams : Option PyVal) (env : CallEnv) : PyProgram Request := do
  assertLoopIsUringio env
  assertLoopThread env
  assertRingLoopIsClosing env
  check (if env.object then none else some (some ⟨.memoryError, ""⟩))
  parseArgs env
  match path with
  | .error e => fail (some e)
  | .ok path =>
    let t ← parseTimeout timeoutParams
    let future ← createFuture env
    let file ← change fun l => (l.files.length, { l with files := l.files ++ [⟨none, false⟩] })
    return { fileRequest file future none .oneshot .openat2 t
      (fun heap => .ok (.openFile dfd path flags resolve mode, heap)) with error := openResult }

/-- `UringioFile_aexit`: no check of the thread, of the loop or of the flag, and the flag is
    set before the submission. -/
def UringioFile.aexit (self : FileId) (env : CallEnv) : PyProgram Request := do
  let (_, fd) ← selfFile self
  parseArgs env
  let future ← createFuture env
  return { fileRequest self future none .oneshot .close (.zero, none)
    (fun heap => .ok (.closeFile fd, heap)) with flag := some (.file self) }

/-- `UringioFile_close`: the flag is left to the completion. -/
def UringioFile.close (self : FileId) (timeoutParams : Option PyVal) (env : CallEnv) :
    PyProgram Request := do
  let fd ← openFileMethod self env
  let t ← parseTimeout timeoutParams
  let future ← createFuture env
  return fileRequest self future none .oneshot .close t fun heap => .ok (.closeFile fd, heap)

def UringioFile.read (self : FileId) (offset size : Int) (timeoutParams : Option PyVal)
    (env : CallEnv) : PyProgram Request := do
  let fd ← openFileMethod self env
  let t ← parseTimeout timeoutParams
  let future ← createFuture env
  let payload ← linearPayload false size env
  let context ← getContext
  return fileRequest self future payload context.stream .read t
    (readDispatcher fd payload context.stream size offset)

/-- The payload of the current PROVIDED or BUF_RING context. -/
def selectedPayload : PyProgram (Option PayloadId) := do
  let context ← getContext
  look fun l => context.bufferPayload.filter fun p =>
    (l.heap.payloads[p]?).any fun b => b.mode == .provided || b.mode == .bufRing

def UringioFile.readv (self : FileId) (buffersObj : Bool) (offset : Int) (nowait : Bool)
    (timeoutParams : Option PyVal) (env : CallEnv) : PyProgram Request := do
  let fd ← openFileMethod self env
  let t ← parseTimeout timeoutParams
  let selected ← selectedPayload
  let payload ← match selected with
    | some p => ret p
    | none => vectoredPayload buffersObj env
  let future ← createFutureOrDrop payload env
  return fileRequest self future payload .oneshot .readv t
    (readvDispatcher fd payload offset nowait)

/-- `UringioFile_readv_raw`. `iovecs` is the array that lies in the buffer argument, or the
    error of an argument that is no such buffer. -/
def UringioFile.readvRaw (self : FileId) (iovecs : Except PyErr (List Iovec)) (offset : Int)
    (nowait : Bool) (timeoutParams : Option PyVal) (env : CallEnv) : PyProgram Request := do
  let fd ← openFileMethod self env
  let t ← parseTimeout timeoutParams
  match iovecs with
  | .error e => fail (some e)
  | .ok iovecs =>
    let payload ← pybufferPayload iovecs env
    let future ← createFutureOrDrop payload env
    return fileRequest self future payload .oneshot .readv t
      (vectoredCall payload fun iovecs nrVecs => .readv fd iovecs nrVecs offset nowait)

def UringioFile.write (self : FileId) (offset : Int) (timeoutParams : Option PyVal)
    (env : CallEnv) : PyProgram Request := do
  let fd ← openFileMethod self env
  let t ← parseTimeout timeoutParams
  let future ← createFuture env
  let payload ← dataPayload env
  return fileRequest self future payload .oneshot .write t (writeDispatcher fd payload offset)

def UringioFile.writev (self : FileId) (flags offset : Int) (timeoutParams : Option PyVal)
    (env : CallEnv) : PyProgram Request := do
  let fd ← openFileMethod self env
  let t ← parseTimeout timeoutParams
  let payload ← vectoredPayload true env
  let future ← createFutureOrDrop payload env
  return fileRequest self future payload .oneshot .writev t
    (vectoredCall payload fun iovecs nrVecs => .writev fd iovecs nrVecs offset flags)

def UringioFile.writevRaw (self : FileId) (iovecs : Except PyErr (List Iovec))
    (flags offset : Int) (timeoutParams : Option PyVal) (env : CallEnv) : PyProgram Request := do
  let fd ← openFileMethod self env
  let t ← parseTimeout timeoutParams
  match iovecs with
  | .error e => fail (some e)
  | .ok iovecs =>
    let payload ← pybufferPayload iovecs env
    let future ← createFutureOrDrop payload env
    return fileRequest self future payload .oneshot .writev t
      (vectoredCall payload fun iovecs nrVecs => .writev fd iovecs nrVecs offset flags)

/-- The methods of a File without a payload. -/
def fileOperation (self : FileId) (opcode : Opcode) (op : Int → COp)
    (timeoutParams : Option PyVal) (env : CallEnv) : PyProgram Request := do
  let fd ← openFileMethod self env
  let t ← parseTimeout timeoutParams
  let future ← createFuture env
  return fileRequest self future none .oneshot opcode t fun heap => .ok (op fd, heap)

def UringioFile.fsync (self : FileId) (timeoutParams : Option PyVal) (env : CallEnv) :
    PyProgram Request :=
  fileOperation self .fsync .fsync timeoutParams env

def UringioFile.fdatasync (self : FileId) (timeoutParams : Option PyVal) (env : CallEnv) :
    PyProgram Request :=
  fileOperation self .fsync .fdatasync timeoutParams env

/-- `UringioFile_splice`: the descriptors are the caller's, the File's own is not used. -/
def UringioFile.splice (self : FileId) (src dst count offsetSrc offsetDst flag : Int)
    (timeoutParams : Option PyVal) (env : CallEnv) : PyProgram Request :=
  fileOperation self .splice (fun _ => .splice src offsetSrc dst offsetDst count flag)
    timeoutParams env

end Uringio
