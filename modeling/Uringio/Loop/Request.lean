/-
  The tail that all operations of the Python layer share: register the request, make the
  C-layer call, and on a result below 1 remove the request again and raise.

  An operation describes what it does there by a `Request`; `submitRequest` carries it out.
-/
import Uringio.Loop.Loop
import Uringio.Ops.COp

namespace Uringio

open Lib Program

/-- The object whose `closed` flag an operation sets while it submits. -/
inductive ClosedFlag where
  | file (id : FileId)
  | socket (id : SocketId)
deriving DecidableEq, Repr

def Loop.setClosed (l : Loop) (closed : Bool) : Option ClosedFlag → Loop
  | none => l
  | some (.file id) => l.setFile id fun f => { f with closed := closed }
  | some (.socket id) => l.setSocket id fun s => { s with closed := closed }

/-- What an operation registers and calls. `dispatch` is the dispatcher: it chooses the
    C-layer operation, and may take a registered buffer from the payload. `payload`,
    `freeOnFull` and `freeMsgOnFull` are what the operation releases when the registry is
    full, `freeAfter` what it frees after the call, `flag` is the object it marks as closed
    during the submission, `error` its exception for a result below 1, and `pending` an
    exception that parsing left behind. -/
structure Request where
  registration : Registration
  dispatch : Heap → Except Stop (COp × Heap)
  timeoutParams : TimeoutParams
  payload : Option PayloadId
  freeOnFull : Option Block
  freeMsgOnFull : Option Block
  freeAfter : Option Block
  flag : Option ClosedFlag
  error : Int → Option PyErr
  pending : Option PyErr

/-- An accepted request. The library returns its future, with an exception that parsing may
    have left pending; for the properties the model also names the registration, its index,
    the position and content of its SQE, and the payload that the operation used. -/
structure Submitted where
  registration : Registration
  index : Int
  seq : Nat
  op : COp
  payload : Option PayloadId
  pending : Option PyErr
deriving DecidableEq, Repr

/-- `registry_remove` in a program. -/
def removeRequest (index : Int) : PyProgram Unit := fun l =>
  match registryRemove l.registry l.heap index with
  | .error e => .error e
  | .ok (registry, heap) => .ok (.ok (), { l with registry := registry, heap := heap })

/-- The registration of a request, with what happens when the registry is full. -/
def registerRequest (req : Request) : PyProgram Int := fun l =>
  if l.ringNull then .error .segv
  else
    let (index, registry) := registryAdd l.registry req.registration
    if index < 0 then
      let heap := freeBufferPayload l.heap req.payload false
      let heap := (heap.freeBlock req.freeOnFull).freeBlock req.freeMsgOnFull
      .ok (.error (some ⟨.runtimeError, "Registry is full"⟩), { l with heap := heap })
    else .ok (.ok index, { l with registry := registry }.setClosed true req.flag)

/-- The dispatcher. -/
def dispatchRequest (req : Request) : PyProgram COp := fun l =>
  match req.dispatch l.heap with
  | .error e => .error e
  | .ok (op, heap) => .ok (.ok op, { l with heap := heap })

def submitRequest (req : Request) (submit : Int) : PyProgram Submitted := do
  let index ← registerRequest req
  let op ← dispatchRequest req
  let seq ← look fun l => l.ring.tail
  let result ← change fun l =>
    ((op.exec l.ring index req.timeoutParams submit).1,
      { l with
        ring := (op.exec l.ring index req.timeoutParams submit).2
        heap := l.heap.freeBlock req.freeAfter })
  if result < 1 then do
    removeRequest index
    change fun l => ((), l.setClosed false req.flag)
    fail (req.error result)
  else return ⟨req.registration, index, seq, op, req.payload, req.pending⟩

/-- `_check_file_result`. -/
def checkFileResult (result : Int) : Option PyErr :=
  if result = -1 then some ⟨.runtimeError, "SQE is not awailable\n"⟩
  else if result = 0 then some ⟨.runtimeError, "SQE submission failed\n"⟩
  else none

/-- `_check_sockets_result`. -/
def checkSocketsResult (result : Int) : Option PyErr :=
  if result = -1 then some ⟨.runtimeError, "SQE is not awailable\n"⟩
  else if result = -2 then some ⟨.runtimeError, "Wrong socket status.\n"⟩
  else if result = 0 then some ⟨.runtimeError, "SQE submission failed\n"⟩
  else none

end Uringio
