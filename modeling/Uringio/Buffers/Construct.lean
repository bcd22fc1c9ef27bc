/-
  How the payloads of `src/python_api/buffers/buffers.c` are built and released, down to the
  blocks and the buffer exports behind them.

  `Store` is a ledger of what the library holds, with whether an exception is pending. A
  struct that comes from `malloc` has fields that nobody assigned (`none` in a `Field`), and an
  array has entries that nobody assigned; reading one is a fault. `grants` says of every
  allocation attempt whether there is memory for it, so that every failure can be met.
-/
import Uringio.Lib.Ledger
import Uringio.Buffers.Buffers

namespace Uringio.Buffers

open Lib Lib.Program

/-! ## Memory -/

/-- A block of `malloc`, a block of `PyMem_Malloc`, and a buffer export of a Python object. -/
inductive Resource where
  | raw (id : Nat)
  | mem (id : Nat)
  | view (id : Nat)
deriving DecidableEq, Repr

/-- What a C program must not do. -/
inductive Fault where
  | unassigned
  | outOfBounds
  | notHeld
  | divByZero
  | null
deriving DecidableEq, Repr

/-- The resources, and whether an exception is pending. -/
abbrev Store : Type := Ledger Resource Bool

/-- A function of the C layer: NULL is a failure. -/
abbrev BufferProgram (α : Type) : Type := Program Store Fault Unit α

/-- A field of a struct, `none` before it is assigned. -/
abbrev Field (α : Type) : Type := Option α

def pySsizeTMax : Nat := 2 ^ 63 - 1

/-- `sizeof(T) * (size_t)len`. -/
def arraySize (sizeof : Nat) (len : Int) : Nat := sizeof * toUint64 len % 2 ^ 64

def sizeofLinearBuffer : Nat := 24
def sizeofVectoredBuffer : Nat := 24
def sizeofIovec : Nat := 16
def sizeofPyBuffer : Nat := 80

/-- Sets an exception. -/
def raise : BufferProgram Unit := change fun s => ((), ⟨s.next, s.held, true⟩)

def returnNull {α : Type} : BufferProgram α := fail ()

/-- Reads a field. -/
def get {α : Type} : Field α → BufferProgram α
  | some a => ret a
  | none => stop .unassigned

/-- Reads an entry of an array. -/
def getEntry {α : Type} (entries : List (Field α)) (i : Nat) : BufferProgram α :=
  match entries[i]? with
  | some entry => get entry
  | none => stop .outOfBounds

/-- Does something with the entries from `i` on, one after another. -/
def forEntries {α : Type} (entries : List (Field α)) (f : α → BufferProgram Unit) :
    Nat → Nat → BufferProgram Unit
  | 0, _ => ret ()
  | n + 1, i => do
    let entry ← getEntry entries i
    f entry
    forEntries entries f n (i + 1)

/-- The data of a buffer: NULL, a block of the library, or memory of an export. -/
inductive Data where
  | null
  | block (id : Nat)
  | user (buf : Ptr)
deriving DecidableEq, Repr

def free (id : Nat) : BufferProgram Unit := Ledger.release .notHeld (.raw id)

/-- `PyMem_Free`. -/
def pyMemFree : Option Nat → BufferProgram Unit
  | some id => Ledger.release .notHeld (.mem id)
  | none => ret ()

def freeData : Data → BufferProgram Unit
  | .null => ret ()
  | .block id => pyMemFree (some id)
  | .user .null => ret ()
  | .user _ => stop .notHeld

/-! ## Structs -/

/-- A `Py_buffer`; without an object there is nothing to release. -/
structure View where
  obj : Option Nat
  buf : Ptr
  len : Nat
deriving DecidableEq, Repr

/-- `PyBuffer_Release`. -/
def pyBufferRelease (view : View) : BufferProgram Unit :=
  match view.obj with
  | some id => Ledger.release .notHeld (.view id)
  | none => ret ()

/-- An array of `Py_buffer`. -/
structure Views where
  block : Nat
  slots : List (Field View)
deriving DecidableEq, Repr

/-- A `LinearBuffer`. -/
structure Linear where
  buffer : Data
  len : Nat
  views : Option Views
deriving DecidableEq, Repr

/-- An array of `LinearBuffer`. -/
structure LinearArray where
  block : Nat
  entries : List (Field Linear)
deriving DecidableEq, Repr

/-- An iovec of a payload. -/
structure Vec where
  iovBase : Data
  iovLen : Nat
deriving DecidableEq, Repr

structure IovecArray where
  block : Nat
  entries : List (Field Vec)
deriving DecidableEq, Repr

/-- A `VectoredBuffer`. -/
structure Vector where
  block : Nat
  iovecs : Field (Option IovecArray)
  nrVecs : Field Nat
  views : Field (Option Views)
deriving DecidableEq, Repr

/-- A `BufferPayload`, without the fields of the modes that use it later. -/
structure Payload where
  block : Nat
  payloadType : Field PayloadType
  payloadOrigin : Field PayloadOrigin
  mode : Field BufferMode
  amount : Field Int
  linear : Field (Option LinearArray)
  vector : Field (Option Vector)
  bgid : Field Int
deriving DecidableEq, Repr

/-- `malloc(sizeof(BufferPayload))`. -/
def Payload.unassigned (block : Nat) : Payload := ⟨block, none, none, none, none, none, none, none⟩

/-- The payload after `memset(buffer_payload, 0, sizeof(BufferPayload))`. -/
def Payload.zeroed (block : Nat) : Payload :=
  ⟨block, some .payloadLinear, some .payloadUser, some .normalBuf, some 0, some none, some none,
    some 0⟩

/-- The object passed as buffers: whether it is a sequence, its length, `Py_SIZE` of it, its
    items with the export that each gives, and what `PySequence_Fast` makes of it. Without an
    item or an export an exception is set. -/
structure PyBuffers where
  isSequence : Bool
  length : Option Nat
  size : Nat
  item : Nat → Option (Option LinearBuffer)
  fast : Option (List (Option LinearBuffer))

/-- A list of objects. -/
def PyBuffers.ofList (objects : List (Option LinearBuffer)) : PyBuffers :=
  ⟨true, some objects.length, objects.length, fun i => objects[i]?, some objects⟩

/-- A view of an export. -/
def viewOf (x : Nat × LinearBuffer) : View := ⟨some x.1, x.2.buffer, x.2.len⟩

def userLinear (x : Nat × LinearBuffer) : Linear := ⟨.user x.2.buffer, x.2.len, none⟩

def userVec (x : Nat × LinearBuffer) : Vec := ⟨.user x.2.buffer, x.2.len⟩

def runtimeLinear (bufsize : Nat) (x : Nat × Unit) : Linear := ⟨.block x.1, bufsize, none⟩

def runtimeVec (bufsize : Nat) (x : Nat × Unit) : Vec := ⟨.block x.1, bufsize⟩

/-- The array after `buffers->views = views`. -/
def withViews (block : Nat) (buffers : List Linear) (views : Option Views) : LinearArray :=
  ⟨block, (buffers.modifyHead fun first => { first with views := views }).map some⟩

/-- `buffers->views = views`, a write to the first entry. -/
def setViews (block : Nat) (buffers : List Linear) (views : Option Views) :
    BufferProgram LinearArray :=
  if buffers.isEmpty then stop .outOfBounds else ret (withViews block buffers views)

/-! ## Release -/

/-- The exports and their array, for either structure. -/
def freeViews (payload : Payload) : Option Views → BufferProgram Unit
  | some views => do
    let amount ← get payload.amount
    forEntries views.slots pyBufferRelease amount.toNat 0
    pyMemFree (some views.block)
  | none => ret ()

/-- The data of the linear buffers, where the library allocated it. -/
def freeLinearData (payload : Payload) (linear : LinearArray) : BufferProgram Unit := do
  let origin ← get payload.payloadOrigin
  if origin = .payloadRuntime then do
    let amount ← get payload.amount
    forEntries linear.entries (fun b => freeData b.buffer) amount.toNat 0
  else ret ()

/-- The data of the vector, where the library allocated it. -/
def freeVectorData (payload : Payload) (vector : Vector) : BufferProgram Unit := do
  let origin ← get payload.payloadOrigin
  if origin = .payloadRuntime then do
    let nrVecs ← get vector.nrVecs
    match ← get vector.iovecs with
    | some iovecs => forEntries iovecs.entries (fun v => freeData v.iovBase) nrVecs 0
    | none => if nrVecs = 0 then ret () else stop .null
  else ret ()

def freeLinear (payload : Payload) : Option LinearArray → BufferProgram Unit
  | some linear => do
    freeLinearData payload linear
    let first ← getEntry linear.entries 0
    freeViews payload first.views
    pyMemFree (some linear.block)
  | none => ret ()

def freeVector (payload : Payload) : Option Vector → BufferProgram Unit
  | some vector => do
    freeVectorData payload vector
    let views ← get vector.views
    freeViews payload views
    let iovecs ← get vector.iovecs
    pyMemFree (iovecs.map IovecArray.block)
    pyMemFree (some vector.block)
  | none => ret ()

/-- `free_buffer_payload`. -/
def freeBufferPayload (payload : Payload) (force : Bool) : BufferProgram Unit := do
  let mode ← get payload.mode
  if mode ≠ .normalBuf ∧ ¬ force then ret ()
  else do
    let linear ← get payload.linear
    freeLinear payload linear
    let vector ← get payload.vector
    freeVector payload vector
    free payload.block

/-! ## The builders -/

section Builders

variable (grants : Nat → Bool)

def malloc : BufferProgram (Option Nat) := Ledger.acquire grants .raw

/-- `PyMem_Malloc`. -/
def pyMemMalloc (size : Nat) : BufferProgram (Option Nat) :=
  Ledger.acquire (fun n => grants n && decide (size ≤ pySsizeTMax)) .mem

/-- `PyMem_Calloc`. -/
def pyMemCalloc (nelem elsize : Nat) : BufferProgram (Option Nat) :=
  Ledger.acquire (fun n => grants n && decide (nelem ≤ pySsizeTMax / elsize)) .mem

/-- One data block of `bufsize` bytes. -/
def dataBlock (bufsize : Nat) (_ n : Nat) : Option Unit :=
  if grants n && decide (bufsize ≤ pySsizeTMax) then some () else none

/-- The loop that allocates the data blocks, and `undo` where one is refused. -/
def allocate (bufsize : Nat) (len : Int)
    (undo : List (Nat × Unit) → BufferProgram (List (Nat × Unit))) :
    BufferProgram (List (Nat × Unit)) :=
  Ledger.acquireAll (dataBlock grants bufsize) .mem undo len.toNat []

/-- The loop that acquires the exports, and `undo` where an item or its export fails. -/
def acquireExports (item : Nat → Option (Option LinearBuffer)) (len : Int)
    (undo : List (Nat × LinearBuffer) → BufferProgram (List (Nat × LinearBuffer))) :
    BufferProgram (List (Nat × LinearBuffer)) :=
  Ledger.acquireAll (fun i _ => (item i).join) .view undo len.toNat []

/-- `PyBuffer_Release` of the views acquired so far. -/
def releaseViews (got : List (Nat × LinearBuffer)) : BufferProgram Unit :=
  Ledger.releaseEach .notHeld (got.map fun x => .view x.1)

/-- `PyMem_Free` of the data blocks allocated so far. -/
def freeBlocks (got : List (Nat × Unit)) : BufferProgram Unit :=
  Ledger.releaseEach .notHeld (got.map fun x => .mem x.1)

/-- `create_linear_buffers`. -/
def createLinearBuffers (len bufsize : Int) (payload : Payload) : BufferProgram Payload := do
  match ← pyMemMalloc grants (arraySize sizeofLinearBuffer len) with
  | none => do
    raise
    returnNull
  | some buffers =>
    let got ← allocate grants (toUint64 bufsize) len fun got => do
      freeBlocks got
      pyMemFree (some buffers)
      raise
      returnNull
    let linear ← setViews buffers (got.map (runtimeLinear (toUint64 bufsize))) none
    return { payload with linear := some (some linear), vector := some none }

/-- `serialize_linear_buffers`. -/
def serializeLinearBuffers (buffersObj : PyBuffers) (len : Int) (payload : Payload) :
    BufferProgram Payload := do
  let views ← pyMemMalloc grants (arraySize sizeofPyBuffer len)
  let buffers ← pyMemMalloc grants (arraySize sizeofLinearBuffer len)
  match views, buffers with
  | some views, some buffers =>
    let got ← acquireExports buffersObj.item len fun got => do
      raise
      releaseViews got
      pyMemFree (some views)
      pyMemFree (some buffers)
      returnNull
    let linear ← setViews buffers (got.map userLinear)
      (some ⟨views, got.map fun x => some (viewOf x)⟩)
    return { payload with linear := some (some linear), vector := some none }
  | views, buffers => do
    pyMemFree views
    pyMemFree buffers
    raise
    returnNull

/-- `create_vectored_buffers`. -/
def createVectoredBuffers (len bufsize : Int) (payload : Payload) : BufferProgram Payload := do
  match ← pyMemMalloc grants sizeofVectoredBuffer with
  | none => do
    raise
    returnNull
  | some vec =>
    match ← pyMemMalloc grants (arraySize sizeofIovec len) with
    | none => do
      pyMemFree (some vec)
      raise
      returnNull
    | some iovecs =>
      let got ← allocate grants (toUint64 bufsize) len fun got => do
        freeBlocks got
        pyMemFree (some iovecs)
        pyMemFree (some vec)
        raise
        returnNull
      let vector : Vector := {
        block := vec
        iovecs := some (some ⟨iovecs, got.map fun x => some (runtimeVec (toUint64 bufsize) x)⟩)
        nrVecs := some (toUnsigned len)
        views := some none }
      return { payload with vector := some (some vector), linear := some none }

/-- `serialize_vectored_buffers`. -/
def serializeVectoredBuffers (buffersObj : PyBuffers) (payload : Payload) :
    BufferProgram Payload :=
  match buffersObj.fast with
  | none => do
    raise
    returnNull
  | some fast => do
    let len := toInt fast.length
    let views ← pyMemMalloc grants (arraySize sizeofPyBuffer len)
    let vec ← pyMemMalloc grants sizeofVectoredBuffer
    match views, vec with
    | some views, some vec =>
      match ← pyMemMalloc grants (arraySize sizeofIovec len) with
      | none => do
        pyMemFree (some views)
        pyMemFree (some vec)
        raise
        returnNull
      | some iovecs =>
        let got ← acquireExports (fun i => fast[i]?) len fun got => do
          raise
          releaseViews got
          pyMemFree (some views)
          pyMemFree (some iovecs)
          pyMemFree (some vec)
          returnNull
        let vector : Vector := {
          block := vec
          iovecs := some (some ⟨iovecs, got.map fun x => some (userVec x)⟩)
          nrVecs := some (toUnsigned len)
          views := some (some ⟨views, got.map fun x => some (viewOf x)⟩) }
        return { payload with vector := some (some vector), linear := some none }
    | views, vec => do
      pyMemFree views
      pyMemFree vec
      raise
      returnNull

/-- A failure exit of the combined builders. -/
def dropPayload {α : Type} (payload : Payload) : BufferProgram α := do
  raise
  freeBufferPayload payload true
  returnNull

/-- `serialize_buffers`. On a failure the views are left to `free_buffer_payload`, which knows
    of them only through the linear buffers. -/
def serializeBuffers (bufObj : PyBuffers) (len : Int) (payload : Payload) :
    BufferProgram Payload := do
  let payload := { payload with linear := some none, vector := some none }
  match ← pyMemMalloc grants (arraySize sizeofPyBuffer len) with
  | none => dropPayload payload
  | some views =>
    match ← pyMemMalloc grants (arraySize sizeofLinearBuffer len) with
    | none => dropPayload payload
    | some buffers =>
      let linear (got : List (Nat × LinearBuffer)) : LinearArray :=
        ⟨buffers, (got.map fun x => some (userLinear x)) ++
          List.replicate (len.toNat - got.length) none⟩
      let payload := { payload with linear := some (some (linear [])) }
      match ← pyMemMalloc grants sizeofVectoredBuffer with
      | none => dropPayload payload
      | some vec =>
        match ← pyMemMalloc grants (arraySize sizeofIovec len) with
        | none => dropPayload { payload with vector := some (some ⟨vec, some none, none, none⟩) }
        | some iovecs =>
          let iovecArray (got : List (Nat × LinearBuffer)) : IovecArray :=
            ⟨iovecs, (got.map fun x => some (userVec x)) ++
              List.replicate (len.toNat - got.length) none⟩
          let got ← acquireExports bufObj.item len fun got => dropPayload { payload with
            linear := some (some (linear got))
            vector := some (some
              ⟨vec, some (some (iovecArray got)), some (toUnsigned len), none⟩) }
          let linear ← setViews buffers (got.map userLinear)
            (some ⟨views, got.map fun x => some (viewOf x)⟩)
          return { payload with
            linear := some (some linear)
            vector := some (some
              ⟨vec, some (some (iovecArray got)), some (toUnsigned len), some none⟩) }

/-- `make_buffers`. The views of the vector are never assigned. -/
def makeBuffers (len : Int) (bufsize : Nat) (payload : Payload) : BufferProgram Payload := do
  let payload := { payload with linear := some none, vector := some none }
  match ← pyMemCalloc grants (toUint64 len) sizeofLinearBuffer with
  | none => dropPayload payload
  | some buffers =>
    let linear (got : List (Nat × Unit)) : LinearArray :=
      ⟨buffers, (got.map fun x => some (runtimeLinear bufsize x)) ++
        List.replicate (len.toNat - got.length) (some ⟨.null, 0, none⟩)⟩
    let payload := { payload with linear := some (some (linear [])) }
    match ← pyMemMalloc grants sizeofVectoredBuffer with
    | none => dropPayload payload
    | some vec =>
      match ← pyMemMalloc grants (arraySize sizeofIovec len) with
      | none => dropPayload { payload with vector := some (some ⟨vec, some none, none, none⟩) }
      | some iovecs =>
        let made (got : List (Nat × Unit)) : Payload := { payload with
          linear := some (some (linear got))
          vector := some (some ⟨vec, some (some ⟨iovecs,
            (got.map fun x => some (runtimeVec bufsize x)) ++
              List.replicate (len.toNat - got.length) none⟩), some (toUnsigned len), none⟩) }
        let got ← allocate grants bufsize len fun got => dropPayload (made got)
        return made got

end Builders

end Uringio.Buffers
