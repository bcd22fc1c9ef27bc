/-
  The state of an event loop as the Python layer sees it (`src/python_api/loop`).

  `Loop` holds the ring, the registry, the payloads, every File and Socket object, the
  calls made on every future, and the execution context of the caller. A program of the
  Python layer (`PyProgram`) stops, returns NULL with the exception that is then pending,
  or returns a value.
-/
import Uringio.Lib.Program
import Uringio.Registry.Registry
import Uringio.Timer.Timer

namespace Uringio

/-! ## Objects -/

/-- `fd` is unassigned until the open completes; before that nobody holds the object. -/
structure UringioFile where
  fd : Option Int
  closed : Bool
deriving DecidableEq, Repr

structure UringioSocket where
  sockFd : Option Int
  domain : Int
  addr : Option Block
  closed : Bool
deriving DecidableEq, Repr

/-- The object passed to `set_result`. Bytes are given by the memory they were copied from,
    a connection by what the reader writes into the new socket. -/
inductive ResultValue where
  | bytes (chunks : List Iovec)
  | number (n : Int)
  | file (id : FileId)
  | socket (id : SocketId)
  | connection (fd : Int) (listener : SocketId) (addr : Option Block)
  | message (bid : Nat) (res : Int)
  | none
deriving DecidableEq, Repr

/-- The exception object passed to `set_exception`. -/
inductive Exc where
  | osError (errno : Int)
  | runtimeError (message : String)
deriving DecidableEq, Repr

inductive FutureCall where
  | setResult (value : ResultValue)
  | setException (exc : Exc)
deriving DecidableEq, Repr

structure ExecutionContext where
  bufferMode : BufferMode
  stream : StreamStrategy
  transferMode : TransferMode
  bufferPayload : Option PayloadId
deriving DecidableEq, Repr

/-- The context that `ContextVar_init` sets. -/
def ExecutionContext.default : ExecutionContext := ⟨.normalBuf, .oneshot, .normalTransfer, none⟩

/-- The event loop. `nextFuture` is the future that the next `create_future` returns, and
    `callLog` has every call made on a future, in order. `context` is `none` after the
    shutdown, and in a thread or task that never got one; `ringNull` says that `ring` and
    `registry` are NULL. `eventfd` is the counter behind `wakeup_fd`. -/
structure Loop where
  ring : Ring
  registry : RequestRegistry
  heap : Heap
  files : List UringioFile
  sockets : List UringioSocket
  nextFuture : FutureId
  callLog : List (FutureId × FutureCall)
  context : Option ExecutionContext
  wakeupFd : Int
  eventfd : Nat
  closed : Bool
  ringNull : Bool
deriving DecidableEq, Repr

namespace Loop

/-- `PyObject_CallMethod(future, "set_result" / "set_exception", ...)`; what the call returns
    is dropped. -/
def callFuture (l : Loop) (future : FutureId) (call : FutureCall) : Loop :=
  { l with callLog := l.callLog ++ [(future, call)] }

def setFile (l : Loop) (id : FileId) (f : UringioFile → UringioFile) : Loop :=
  { l with files := l.files.modify id f }

def setSocket (l : Loop) (id : SocketId) (f : UringioSocket → UringioSocket) : Loop :=
  { l with sockets := l.sockets.modify id f }

/-- The calls made on a future. -/
def calls (l : Loop) (future : FutureId) : List FutureCall :=
  (l.callLog.filter fun e => e.1 == future).map Prod.snd

theorem calls_callFuture (l : Loop) (f g : FutureId) (call : FutureCall) :
    (l.callFuture f call).calls g = if f = g then l.calls g ++ [call] else l.calls g := by
  unfold calls callFuture
  by_cases h : f = g
  · simp [h]
  · simp [h]

theorem calls_of_callLog {l l' : Loop} (h : l'.callLog = l.callLog) (f : FutureId) :
    l'.calls f = l.calls f := by
  unfold calls
  rw [h]

end Loop

/-! ## The Python layer -/

/-- What the environment decides in one call of a method. -/
structure CallEnv where
  onLoopThread : Bool
  loopStr : String
  running : Option PyErr
  args : Option PyErr
  future : Option PyErr
  buffers : BufferEnv
  block : Option Block
  msghdr : Option Block
  object : Bool
  submit : Int
deriving DecidableEq, Repr

/-- Everything succeeds. -/
def CallEnv.ok : CallEnv :=
  { onLoopThread := true, loopStr := "", running := none, args := none, future := none
    buffers := ⟨true, some 4096, some [⟨.mem 8192, 16⟩], 0⟩
    block := some 1, msghdr := some 2, object := true, submit := 1 }

/-- A method call: it stops, or it returns NULL with the pending exception, or a value. -/
abbrev PyProgram (α : Type) : Type := Lib.Program Loop Stop (Option PyErr) α

open Lib Program

/-- ASSERT_LOOP_THREAD. -/
def assertLoopThread (env : CallEnv) : PyProgram Unit :=
  check (if env.onLoopThread then none
    else some (some ⟨.runtimeError, "io_uring operation called from wrong thread"⟩))

/-- ASSERT_RING_LOOP_IS_CLOSING. -/
def assertRingLoopIsClosing (env : CallEnv) : PyProgram Unit := do
  let closed ← look Loop.closed
  check (if closed then
    some (some ⟨.runtimeError, "Ring Event Loop is closing - " ++ env.loopStr⟩) else none)

/-- ASSERT_LOOP_IS_URINGIO. -/
def assertLoopIsUringio (env : CallEnv) : PyProgram Unit := check (env.running.map some)

/-- `PyArg_ParseTupleAndKeywords`; the parsed values are the arguments of the method. -/
def parseArgs (env : CallEnv) : PyProgram Unit := check (env.args.map some)

/-- `parse_timeout_params` with the exception it may leave pending. -/
def parseTimeout (obj : Option PyVal) : PyProgram (TimeoutParams × Option PyErr) :=
  match parseTimeoutParams obj with
  | .error e => fail (some e)
  | .ok r => ret r

/-- `create_future`. -/
def createFuture (env : CallEnv) : PyProgram FutureId := do
  check (env.future.map some)
  change fun l => (l.nextFuture, { l with nextFuture := l.nextFuture + 1 })

/-- The execution context; the getters read through the pointer without a check. -/
def getContext : PyProgram ExecutionContext := do
  match ← look Loop.context with
  | some c => return c
  | none => stop .segv

/-- A File object that the caller can hold. -/
def selfFile (self : FileId) : PyProgram (UringioFile × Int) := do
  match ← look fun l => l.files[self]? with
  | some ⟨some fd, closed⟩ => return (⟨some fd, closed⟩, fd)
  | _ => stop .stuck

/-- A Socket object that the caller can hold. -/
def selfSocket (self : SocketId) : PyProgram (UringioSocket × Int) := do
  match ← look fun l => l.sockets[self]? with
  | some ⟨some fd, domain, addr, closed⟩ => return (⟨some fd, domain, addr, closed⟩, fd)
  | _ => stop .stuck

/-- What every method of a File but `__aenter__` and `__aexit__` checks first. -/
def openFileMethod (self : FileId) (env : CallEnv) : PyProgram Int := do
  let (file, fd) ← selfFile self
  assertLoopThread env
  assertRingLoopIsClosing env
  check (if file.closed then some (some ⟨.brokenPipeError, "File is closed"⟩) else none)
  parseArgs env
  return fd

/-- What every method of a Socket but `__aenter__` and `__aexit__` checks first. -/
def openSocketMethod (self : SocketId) (env : CallEnv) : PyProgram (UringioSocket × Int) := do
  let (sock, fd) ← selfSocket self
  assertLoopThread env
  assertRingLoopIsClosing env
  check (if sock.closed then some (some ⟨.brokenPipeError, "Socket is closed"⟩) else none)
  parseArgs env
  return (sock, fd)

/-- The release of a payload by an operation that gives up. -/
def dropPayload (payload : Option PayloadId) : PyProgram Unit :=
  change fun l => ((), { l with heap := freeBufferPayload l.heap payload false })

/-- `create_future` of an operation that already holds a payload. -/
def createFutureOrDrop (payload : Option PayloadId) (env : CallEnv) : PyProgram FutureId :=
  match env.future with
  | none => createFuture env
  | some e => do
    dropPayload payload
    fail (some e)

/-- The payload that a helper returned, or NULL with the exception it left. -/
def orFail (payload : Option PayloadId) (e : Option PyErr) : PyProgram PayloadId :=
  match payload with
  | some p => ret p
  | none => fail e

/-- `get_or_create_linear_buffer`; without memory for the payload it raises nothing. -/
def linearPayload (buffersObj : Bool) (bufsize : Int) (env : CallEnv) : PyProgram PayloadId := do
  let context ← getContext
  let payload ← fun l =>
    match getOrCreateLinearBuffer l.heap context.bufferPayload buffersObj bufsize env.buffers with
    | .error e => .error e
    | .ok (p, heap) => .ok (.ok p, { l with heap := heap })
  orFail payload none

/-- `get_or_create_vectored_buffer`; without memory for the payload it raises nothing. -/
def vectoredPayload (buffersObj : Bool) (env : CallEnv) : PyProgram PayloadId := do
  let context ← getContext
  let payload ← change fun l =>
    ((getOrCreateVectoredBuffer l.heap context.bufferPayload buffersObj env.buffers).1,
      { l with
        heap := (getOrCreateVectoredBuffer l.heap context.bufferPayload buffersObj
          env.buffers).2 })
  orFail payload (if env.buffers.payload then some ⟨.raised, ""⟩ else none)

/-- `create_buffer_payload_from_data`. -/
def dataPayload (env : CallEnv) : PyProgram PayloadId := do
  let payload ← change fun l =>
    ((createBufferPayloadFromData l.heap env.buffers).1,
      { l with heap := (createBufferPayloadFromData l.heap env.buffers).2 })
  orFail payload (some ⟨.raised, ""⟩)

/-- `create_buffer_payload_from_pybuffer`. -/
def pybufferPayload (iovecs : List Iovec) (env : CallEnv) : PyProgram PayloadId := do
  let payload ← change fun l =>
    ((createBufferPayloadFromPybuffer l.heap iovecs env.buffers).1,
      { l with heap := (createBufferPayloadFromPybuffer l.heap iovecs env.buffers).2 })
  orFail payload (some ⟨.memoryError, ""⟩)

end Uringio
