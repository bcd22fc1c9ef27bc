/-
  The methods of Socket (`src/python_api/ops/sockets`) and the timer
  (`src/python_api/timer`) up to the submission of their request.

  `sendto` keeps its payload to itself: the registry never hears of it. The optional
  arguments of `recvfrom` and `recvmsg` without a default are read even when they were not
  passed; the model stops there.
-/
import Uringio.PyOps.Files

namespace Uringio

open Lib Program

/-! ## Addresses -/

/-- A host argument: not passed, refused by `inet_pton`, or its address. -/
abbrev HostArg : Type := Option (Option (List Nat))

/-- `_serialize_address`; an unsupported domain raises nothing. -/
def serializeAddress (host : HostArg) (port domain : Int) (env : CallEnv) :
    PyProgram (SockAddr × Block) :=
  match env.block with
  | none => fail (some ⟨.memoryError, ""⟩)
  | some block =>
    if domain = afInet then
      match host with
      | some none => fail (some ⟨.connectionRefusedError, "Invalid IPv4 address"⟩)
      | some (some addr) => ret (⟨afInet, toUint16 port, addr⟩, block)
      | none => ret (⟨afInet, toUint16 port, []⟩, block)
    else if domain = afInet6 then
      match host with
      | some none => fail (some ⟨.connectionRefusedError, "Invalid IPv6 address"⟩)
      | some (some addr) => ret (⟨afInet6, toUint16 port, addr⟩, block)
      | none => ret (⟨afInet6, toUint16 port, []⟩, block)
    else fail none

/-- `_get_socket_size`: the size of a `sockaddr_in6` or of a `sockaddr_in`. -/
def getSocketSize (domain : Int) : Nat := if domain = afInet6 then 28 else 16

/-! ## Dispatchers -/

def acceptDispatcher (fd : Int) (stream : StreamStrategy) (addr : Option Block) (heap : Heap) :
    Except Stop (COp × Heap) :=
  match stream with
  | .multishot => .ok (.acceptMultishot fd addr 0, heap)
  | .oneshot => .ok (.accept fd addr 0, heap)

def recvDispatcher (fd : Int) (payload : PayloadId) (stream : StreamStrategy)
    (isPollFirst : Bool) (heap : Heap) : Except Stop (COp × Heap) := do
  let b ← payloadAt heap payload
  let linear ← linearOf b
  match b.mode with
  | .provided | .bufRing =>
    if stream = .multishot then return (.recvMultishot fd linear.len b.bgid isPollFirst, heap)
    else return (.recvBufferSelect fd linear.len b.bgid isPollFirst, heap)
  | .normalBuf | .bufNoVal | .fixed =>
    return (.recv fd linear.buffer linear.len isPollFirst, heap)

/-- `recvmsg_dispatcher` passes the group and the flag to `uringio_recvmsg_buffer_select` in
    the order of the other functions. -/
def recvmsgDispatcher (fd : Int) (payload : PayloadId) (stream : StreamStrategy)
    (isPollFirst : Bool) (msghdr : Option Block) (heap : Heap) : Except Stop (COp × Heap) := do
  let b ← payloadAt heap payload
  match b.mode with
  | .provided | .bufRing =>
    if stream = .multishot then return (.recvmsgMultishot fd b.bgid isPollFirst msghdr, heap)
    else return (.recvmsgBufferSelect fd b.bgid (if isPollFirst then 1 else 0), heap)
  | .normalBuf | .bufNoVal | .fixed =>
    let vector ← vectorOf b
    return (.recvmsg fd vector.iovecs vector.nrVecs isPollFirst, heap)

def sendDispatcher (fd : Int) (payload : PayloadId) (transferMode : TransferMode)
    (isPollFirst : Bool) (heap : Heap) : Except Stop (COp × Heap) := do
  let b ← payloadAt heap payload
  if transferMode = .zeroCopy then
    if b.mode = .fixed then
      let (bufIdx, heap) ← takeBufIdx heap payload b
      let linear ← linearOf b
      return (.sendZcFixed fd linear.buffer linear.len isPollFirst bufIdx, heap)
    else
      let linear ← linearOf b
      return (.sendZc fd linear.buffer linear.len isPollFirst, heap)
  else
    let linear ← linearOf b
    return (.send fd linear.buffer linear.len isPollFirst, heap)

/-- `sendmsg_dispatcher` asks for a registered buffer in every zero-copy context. -/
def sendmsgDispatcher (fd : Int) (payload : PayloadId) (transferMode : TransferMode)
    (addr : Option SockAddr) (addrlen : Nat) (isPollFirst : Bool) (heap : Heap) :
    Except Stop (COp × Heap) := do
  let b ← payloadAt heap payload
  match transferMode with
  | .zeroCopy =>
    let (bufIdx, heap) ← takeBufIdx heap payload b
    let vector ← vectorOf b
    return (.sendmsgZc fd vector.iovecs vector.nrVecs addr addrlen isPollFirst bufIdx, heap)
  | .normalTransfer =>
    let vector ← vectorOf b
    return (.sendmsg fd vector.iovecs vector.nrVecs addr addrlen isPollFirst, heap)

/-- A C-layer call with the linear buffer of the payload. -/
def linearCall (payload : PayloadId) (call : Ptr → Nat → COp) (heap : Heap) :
    Except Stop (COp × Heap) := do
  let b ← payloadAt heap payload
  let linear ← linearOf b
  return (call linear.buffer linear.len, heap)

/-! ## Requests -/

/-- A request of a Socket. -/
def socketRequest (self : SocketId) (future : FutureId) (payload : Option PayloadId)
    (stream : StreamStrategy) (opcode : Opcode) (t : TimeoutParams × Option PyErr)
    (dispatch : Heap → Except Stop (COp × Heap)) : Request :=
  { registration := ⟨future, payload, stream, opcode, none, some self, none, none⟩
    dispatch := dispatch
    timeoutParams := t.1
    payload := payload
    freeOnFull := none
    freeMsgOnFull := none
    freeAfter := none
    flag := none
    error := checkSocketsResult
    pending := t.2 }

/-- The exception of `Uringio_prep_socket` for a result below 1. -/
def prepSocketResult (result : Int) : Option PyErr :=
  if result = -1 then some ⟨.runtimeError, "SQE is not awailable\n"⟩
  else if result = -2 then
    some ⟨.runtimeError, "Passed socket domain values are not awailable\n"⟩
  else if result = 0 then some ⟨.runtimeError, "SQE submission failed\n"⟩
  else none

/-- `Uringio_prep_socket`. -/
def uringioPrepSocket (domain socktype : Int) (timeoutParams : Option PyVal) (env : CallEnv) :
    PyProgram Request := do
  assertLoopIsUringio env
  assertLoopThread env
  assertRingLoopIsClosing env
  check (if env.object then none else some (some ⟨.memoryError, ""⟩))
  parseArgs env
  let t ← parseTimeout timeoutParams
  let future ← createFuture env
  let sock ← change fun l =>
    (l.sockets.length, { l with sockets := l.sockets ++ [⟨none, domain, none, false⟩] })
  return { socketRequest sock future none .oneshot .socket t
    (fun heap => .ok (.prepSocket domain socktype, heap)) with error := prepSocketResult }

/-- `UringioSocket_aexit`: no check of the thread, of the loop or of the flag. -/
def UringioSocket.aexit (self : SocketId) (env : CallEnv) : PyProgram Request := do
  let (_, fd) ← selfSocket self
  parseArgs env
  let future ← createFuture env
  return { socketRequest self future none .oneshot .close (.zero, none)
    (fun heap => .ok (.closeSocket fd, heap)) with flag := some (.socket self) }

/-- The methods that send an address: it is freed when the registry is full and after the
    call. -/
def addressedOperation (self : SocketId) (opcode : Opcode) (op : Int → SockAddr → Nat → COp)
    (host : HostArg) (port : Int) (timeoutParams : Option PyVal) (env : CallEnv) :
    PyProgram Request := do
  let (sock, fd) ← openSocketMethod self env
  let t ← parseTimeout timeoutParams
  let (addr, block) ← serializeAddress host port sock.domain env
  let future ← createFuture env
  return { socketRequest self future none .oneshot opcode t
    (fun heap => .ok (op fd addr (getSocketSize sock.domain), heap)) with
      freeOnFull := some block, freeAfter := some block }

def UringioSocket.bind (self : SocketId) (host : List Nat) (parsed : Bool) (port : Int)
    (timeoutParams : Option PyVal) (env : CallEnv) : PyProgram Request :=
  addressedOperation self .bind .bind (some (if parsed then some host else none)) port
    timeoutParams env

def UringioSocket.connect (self : SocketId) (host : List Nat) (parsed : Bool) (port : Int)
    (timeoutParams : Option PyVal) (env : CallEnv) : PyProgram Request :=
  addressedOperation self .connect .connect (some (if parsed then some host else none)) port
    timeoutParams env

def UringioSocket.listen (self : SocketId) (backlog : Int) (timeoutParams : Option PyVal)
    (env : CallEnv) : PyProgram Request := do
  let (_, fd) ← openSocketMethod self env
  let t ← parseTimeout timeoutParams
  let future ← createFuture env
  return socketRequest self future none .oneshot .listen t
    fun heap => .ok (.listen fd backlog, heap)

/-- `UringioSocket_accept`; `env.block` is the peer address, which may be NULL, and
    `env.msghdr` the block for its length. -/
def UringioSocket.accept (self : SocketId) (timeoutParams : Option PyVal) (env : CallEnv) :
    PyProgram Request := do
  let (_, fd) ← openSocketMethod self env
  let t ← parseTimeout timeoutParams
  let future ← createFuture env
  match env.msghdr with
  | none => fail (some ⟨.memoryError, ""⟩)
  | some addrlen =>
    let context ← getContext
    let req := socketRequest self future none context.stream .accept t
      (acceptDispatcher fd context.stream env.block)
    return { req with
      registration := { req.registration with sockaddr := env.block }
      freeOnFull := some addrlen }

/-- `UringioSocket_close`: the flag is set before the submission. -/
def UringioSocket.close (self : SocketId) (timeoutParams : Option PyVal) (env : CallEnv) :
    PyProgram Request := do
  let (_, fd) ← openSocketMethod self env
  let t ← parseTimeout timeoutParams
  let future ← createFuture env
  return { socketRequest self future none .oneshot .close t
    (fun heap => .ok (.closeSocket fd, heap)) with flag := some (.socket self) }

def UringioSocket.send (self : SocketId) (isPollFirst : Bool) (timeoutParams : Option PyVal)
    (env : CallEnv) : PyProgram Request := do
  let (_, fd) ← openSocketMethod self env
  let t ← parseTimeout timeoutParams
  let payload ← dataPayload env
  let context ← getContext
  let future ← createFutureOrDrop payload env
  return socketRequest self future payload .oneshot .send t
    (sendDispatcher fd payload context.transferMode isPollFirst)

def UringioSocket.recv (self : SocketId) (bufsize : Int) (bufferObj isPollFirst : Bool)
    (timeoutParams : Option PyVal) (env : CallEnv) : PyProgram Request := do
  let (_, fd) ← openSocketMethod self env
  let t ← parseTimeout timeoutParams
  let payload ← linearPayload bufferObj bufsize env
  let context ← getContext
  let future ← createFutureOrDrop payload env
  return socketRequest self future payload context.stream .recv t
    (recvDispatcher fd payload context.stream isPollFirst)

/-- `UringioSocket_sendto`: the slot gets no payload. -/
def UringioSocket.sendto (self : SocketId) (host : List Nat) (parsed : Bool)
    (port domain : Int) (isPollFirst : Bool) (timeoutParams : Option PyVal) (env : CallEnv) :
    PyProgram Request := do
  let (_, fd) ← openSocketMethod self env
  let t ← parseTimeout timeoutParams
  let (addr, block) ← serializeAddress (some (if parsed then some host else none)) port domain env
  let payload ← dataPayload env
  let future ← createFutureOrDrop payload env
  return { socketRequest self future none .oneshot .sendmsg t
    (linearCall payload fun buf len =>
      .sendto fd buf len addr (getSocketSize domain) isPollFirst) with
    payload := some payload, freeOnFull := some block, freeAfter := some block }

/-- `UringioSocket_recvfrom`. The address arguments have no default. -/
def UringioSocket.recvfrom (self : SocketId) (bufsize : Int) (bufferObj : Bool)
    (address : Option (HostArg × Int × Int)) (isPollFirst : Bool)
    (timeoutParams : Option PyVal) (env : CallEnv) : PyProgram Request := do
  let (_, fd) ← openSocketMethod self env
  let t ← parseTimeout timeoutParams
  match address with
  | none => stop .unassigned
  | some (host, port, domain) =>
    let (addr, block) ← serializeAddress host port domain env
    let payload ← linearPayload bufferObj bufsize env
    match env.msghdr with
    | none => do
      dropPayload payload
      fail (some ⟨.memoryError, ""⟩)
    | some msg =>
      let future ← createFutureOrDrop payload env
      let req := socketRequest self future payload .oneshot .recvmsg t
        (linearCall payload fun buf len =>
          .recvfrom fd buf len addr (getSocketSize domain) isPollFirst)
      return { req with
        registration := { req.registration with sockaddr := some block, msghdr := some msg }
        freeOnFull := some block
        freeMsgOnFull := some msg }

/-- The address of `UringioSocket_sendmsg`, which may be left out. -/
def sendmsgTarget (address : Option (HostArg × Int × Int)) (env : CallEnv) :
    PyProgram (Option SockAddr × Nat × Option Block) :=
  match address with
  | none => ret (none, 0, none)
  | some (host, port, domain) => do
    let (addr, block) ← serializeAddress host port domain env
    return (some addr, getSocketSize domain, some block)

/-- `UringioSocket_sendmsg`. -/
def UringioSocket.sendmsg (self : SocketId) (address : Option (HostArg × Int × Int))
    (isPollFirst : Bool) (timeoutParams : Option PyVal) (env : CallEnv) :
    PyProgram Request := do
  let (_, fd) ← openSocketMethod self env
  let t ← parseTimeout timeoutParams
  let (addr, addrlen, block) ← sendmsgTarget address env
  let payload ← vectoredPayload true env
  let context ← getContext
  let future ← createFutureOrDrop payload env
  return { socketRequest self future payload .oneshot .sendmsg t
    (sendmsgDispatcher fd payload context.transferMode addr addrlen isPollFirst) with
    freeOnFull := block, freeAfter := block }

/-- `UringioSocket_recvmsg`. The buffers have no default, and the block for the message
    header is not checked. -/
def UringioSocket.recvmsg (self : SocketId) (buffersObj isPollFirst : Bool)
    (timeoutParams : Option PyVal) (env : CallEnv) : PyProgram Request := do
  let (_, fd) ← openSocketMethod self env
  let t ← parseTimeout timeoutParams
  if !buffersObj then stop .unassigned
  else
    let payload ← vectoredPayload true env
    let context ← getContext
    let future ← createFutureOrDrop payload env
    let req := socketRequest self future payload context.stream .recvmsg t
      (recvmsgDispatcher fd payload context.stream isPollFirst env.msghdr)
    return { req with registration := { req.registration with msghdr := env.msghdr } }

/-! ## The timer -/

/-- The exception of `UringioLoop_timer` for a result below 1. -/
def timerResult (result : Int) : Option PyErr :=
  if result = -1 then some ⟨.runtimeError, "SQE is not awailable\n"⟩
  else if result = 0 then some ⟨.runtimeError, "SQE submission failed\n"⟩
  else none

/-- `timer_params_obj && timer_params_obj != Py_None`, parsed. -/
def parseTimer (obj : Option PyVal) (stream : StreamStrategy) :
    PyProgram (TimerParams × Option PyErr) :=
  match obj with
  | none => ret (.zero, none)
  | some .none => ret (.zero, none)
  | some obj =>
    match parseTimerParams obj stream with
    | .ok r => ret r
    | .error e =>
      fail (e.or (some ⟨.typeError, "timer_params requires int fields: sec, nsec, count"⟩))

/-- `UringioLoop_timer`. -/
def uringioLoopTimer (timerParams : Option PyVal) (env : CallEnv) : PyProgram Request := do
  parseArgs env
  assertLoopThread env
  assertRingLoopIsClosing env
  let context ← getContext
  let (t, pending) ← parseTimer timerParams context.stream
  let future ← createFuture env
  return {
    registration := ⟨future, none, .oneshot, .timeout, none, none, none, none⟩
    dispatch := fun heap => .ok (.timer (some t), heap)
    timeoutParams := .zero
    payload := none
    freeOnFull := none
    freeMsgOnFull := none
    freeAfter := none
    flag := none
    error := timerResult
    pending := pending }

/-! ## All operations -/

/-- A call of an operation of the Python layer with its arguments. -/
inductive OpCall where
  | open (dfd : Int) (path : Except PyErr String) (flags resolve mode : Int) (t : Option PyVal)
  | fileAexit (self : FileId)
  | fileClose (self : FileId) (t : Option PyVal)
  | read (self : FileId) (offset size : Int) (t : Option PyVal)
  | readv (self : FileId) (buffersObj : Bool) (offset : Int) (nowait : Bool) (t : Option PyVal)
  | readvRaw (self : FileId) (iovecs : Except PyErr (List Iovec)) (offset : Int) (nowait : Bool)
      (t : Option PyVal)
  | write (self : FileId) (offset : Int) (t : Option PyVal)
  | writev (self : FileId) (flags offset : Int) (t : Option PyVal)
  | writevRaw (self : FileId) (iovecs : Except PyErr (List Iovec)) (flags offset : Int)
      (t : Option PyVal)
  | fsync (self : FileId) (t : Option PyVal)
  | fdatasync (self : FileId) (t : Option PyVal)
  | splice (self : FileId) (src dst count offsetSrc offsetDst flag : Int) (t : Option PyVal)
  | prepSocket (domain socktype : Int) (t : Option PyVal)
  | socketAexit (self : SocketId)
  | bind (self : SocketId) (host : List Nat) (parsed : Bool) (port : Int) (t : Option PyVal)
  | connect (self : SocketId) (host : List Nat) (parsed : Bool) (port : Int) (t : Option PyVal)
  | listen (self : SocketId) (backlog : Int) (t : Option PyVal)
  | accept (self : SocketId) (t : Option PyVal)
  | socketClose (self : SocketId) (t : Option PyVal)
  | send (self : SocketId) (isPollFirst : Bool) (t : Option PyVal)
  | recv (self : SocketId) (bufsize : Int) (bufferObj isPollFirst : Bool) (t : Option PyVal)
  | sendto (self : SocketId) (host : List Nat) (parsed : Bool) (port domain : Int)
      (isPollFirst : Bool) (t : Option PyVal)
  | recvfrom (self : SocketId) (bufsize : Int) (bufferObj : Bool)
      (address : Option (HostArg × Int × Int)) (isPollFirst : Bool) (t : Option PyVal)
  | sendmsg (self : SocketId) (address : Option (HostArg × Int × Int)) (isPollFirst : Bool)
      (t : Option PyVal)
  | recvmsg (self : SocketId) (buffersObj isPollFirst : Bool) (t : Option PyVal)
  | timer (timerParams : Option PyVal)

namespace OpCall

/-- The operation up to its submission. -/
def prepare (call : OpCall) (env : CallEnv) : PyProgram Request :=
  match call with
  | .open dfd path flags resolve mode t => uringioOpen dfd path flags resolve mode t env
  | .fileAexit self => UringioFile.aexit self env
  | .fileClose self t => UringioFile.close self t env
  | .read self offset size t => UringioFile.read self offset size t env
  | .readv self buffersObj offset nowait t =>
    UringioFile.readv self buffersObj offset nowait t env
  | .readvRaw self iovecs offset nowait t => UringioFile.readvRaw self iovecs offset nowait t env
  | .write self offset t => UringioFile.write self offset t env
  | .writev self flags offset t => UringioFile.writev self flags offset t env
  | .writevRaw self iovecs flags offset t => UringioFile.writevRaw self iovecs flags offset t env
  | .fsync self t => UringioFile.fsync self t env
  | .fdatasync self t => UringioFile.fdatasync self t env
  | .splice self src dst count offsetSrc offsetDst flag t =>
    UringioFile.splice self src dst count offsetSrc offsetDst flag t env
  | .prepSocket domain socktype t => uringioPrepSocket domain socktype t env
  | .socketAexit self => UringioSocket.aexit self env
  | .bind self host parsed port t => UringioSocket.bind self host parsed port t env
  | .connect self host parsed port t => UringioSocket.connect self host parsed port t env
  | .listen self backlog t => UringioSocket.listen self backlog t env
  | .accept self t => UringioSocket.accept self t env
  | .socketClose self t => UringioSocket.close self t env
  | .send self isPollFirst t => UringioSocket.send self isPollFirst t env
  | .recv self bufsize bufferObj isPollFirst t =>
    UringioSocket.recv self bufsize bufferObj isPollFirst t env
  | .sendto self host parsed port domain isPollFirst t =>
    UringioSocket.sendto self host parsed port domain isPollFirst t env
  | .recvfrom self bufsize bufferObj address isPollFirst t =>
    UringioSocket.recvfrom self bufsize bufferObj address isPollFirst t env
  | .sendmsg self address isPollFirst t => UringioSocket.sendmsg self address isPollFirst t env
  | .recvmsg self buffersObj isPollFirst t =>
    UringioSocket.recvmsg self buffersObj isPollFirst t env
  | .timer timerParams => uringioLoopTimer timerParams env

/-- The operation. -/
def run (call : OpCall) (env : CallEnv) : PyProgram Submitted := do
  let req ← call.prepare env
  submitRequest req env.submit

end OpCall

/-- A loop with an open File, an open Socket and four free SQ entries. -/
def openLoop : Loop :=
  { ring := ⟨List.replicate 4 default, 0, 0, [], []⟩, registry := registryNew 2, heap := ⟨[], []⟩
    files := [⟨some 7, false⟩], sockets := [⟨some 5, afInet, none, false⟩], nextFuture := 0
    callLog := [], context := some .default, wakeupFd := 3, eventfd := 0, closed := false
    ringNull := false }

end Uringio
