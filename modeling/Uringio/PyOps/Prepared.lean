/-
  What an operation has got ready when it comes to its submission.

  `Prepared call l g req` describes the request `req` of an operation `call` that was called
  on the loop `l` and has added `g` to it: which future, opcode and object it registers,
  whose payload it uses, and what its dispatcher does to the heap. `prepare_spec` proves it
  for every operation; an operation that gives up before has released what it made.
-/
import Uringio.PyOps.Spec

namespace Uringio

open Lib Program

namespace COp

/-- The descriptor that the SQE names, for an operation of one descriptor. -/
def fd : COp → Option Int
  | .read fd _ _ _ | .readv fd _ _ _ _ | .write fd _ _ _ | .writev fd _ _ _ _ => some fd
  | .closeFile fd | .fsync fd | .fdatasync fd => some fd
  | .readFixed fd _ _ _ _ | .writeFixed fd _ _ _ _ | .readMultishot fd _ _ => some fd
  | .readBufferSelect fd _ _ _ | .readvBufferSelect fd _ _ _ _ => some fd
  | .bind fd _ _ | .connect fd _ _ | .listen fd _ | .accept fd _ _ | .closeSocket fd => some fd
  | .send fd _ _ _ | .recv fd _ _ _ | .sendto fd _ _ _ _ _ | .recvfrom fd _ _ _ _ _ => some fd
  | .sendmsg fd _ _ _ _ _ | .recvmsg fd _ _ _ | .recvFixed fd _ _ _ _ => some fd
  | .recvmsgFixed fd _ _ _ _ | .acceptMultishot fd _ _ | .recvMultishot fd _ _ _ => some fd
  | .recvmsgMultishot fd _ _ _ | .recvBufferSelect fd _ _ _ => some fd
  | .recvmsgBufferSelect fd _ _ | .sendZc fd _ _ _ | .sendZcFixed fd _ _ _ _ => some fd
  | .sendmsgZc fd _ _ _ _ _ _ => some fd
  | .openFile _ _ _ _ _ | .splice _ _ _ _ _ _ | .prepSocket _ _ | .timer _ => none

/-- The registered buffer that the SQE names. -/
def bufIndex : COp → Option Int
  | .readFixed _ _ _ _ i | .writeFixed _ _ _ _ i | .recvFixed _ _ _ _ i => some i
  | .recvmsgFixed _ _ _ _ i | .sendZcFixed _ _ _ _ i | .sendmsgZc _ _ _ _ _ _ i => some i
  | _ => none

end COp

/-! ## What the registration of an operation says -/

namespace OpCall

def opcode : OpCall → Opcode
  | .open .. => .openat2
  | .fileAexit .. | .fileClose .. | .socketAexit .. | .socketClose .. => .close
  | .read .. => .read
  | .readv .. | .readvRaw .. => .readv
  | .write .. => .write
  | .writev .. | .writevRaw .. => .writev
  | .fsync .. | .fdatasync .. => .fsync
  | .splice .. => .splice
  | .prepSocket .. => .socket
  | .bind .. => .bind
  | .connect .. => .connect
  | .listen .. => .listen
  | .accept .. => .accept
  | .send .. => .send
  | .recv .. => .recv
  | .sendto .. | .sendmsg .. => .sendmsg
  | .recvfrom .. | .recvmsg .. => .recvmsg
  | .timer .. => .timeout

/-- The File whose method is called. -/
def onFile : OpCall → Option FileId
  | .fileAexit self | .fileClose self _ | .read self _ _ _ | .readv self _ _ _ _ => some self
  | .readvRaw self _ _ _ _ | .write self _ _ | .writev self _ _ _ => some self
  | .writevRaw self _ _ _ _ | .fsync self _ | .fdatasync self _ => some self
  | .splice self _ _ _ _ _ _ _ => some self
  | _ => none

/-- The Socket whose method is called. -/
def onSocket : OpCall → Option SocketId
  | .socketAexit self | .bind self _ _ _ _ | .connect self _ _ _ _ | .listen self _ _ => some self
  | .accept self _ | .socketClose self _ | .send self _ _ | .recv self _ _ _ _ => some self
  | .sendto self _ _ _ _ _ _ | .recvfrom self _ _ _ _ _ | .sendmsg self _ _ _ => some self
  | .recvmsg self _ _ _ => some self
  | _ => none

def isAexit : OpCall → Bool
  | .fileAexit _ | .socketAexit _ => true
  | _ => false

/-- The objects that the operation makes. -/
def newFiles : OpCall → List UringioFile
  | .open .. => [⟨none, false⟩]
  | _ => []

def newSockets : OpCall → List UringioSocket
  | .prepSocket domain _ _ => [⟨none, domain, none, false⟩]
  | _ => []

/-- The File of the registration. -/
def file (call : OpCall) (l : Loop) : Option FileId :=
  match call with
  | .open .. => some l.files.length
  | call => call.onFile

/-- The Socket of the registration. -/
def socket (call : OpCall) (l : Loop) : Option SocketId :=
  match call with
  | .prepSocket .. => some l.sockets.length
  | call => call.onSocket

/-- The object that is marked as closed during the submission. -/
def flag : OpCall → Option ClosedFlag
  | .fileAexit self => some (.file self)
  | .socketAexit self | .socketClose self _ => some (.socket self)
  | _ => none

/-- The timeout argument. -/
def timeoutArg : OpCall → Option PyVal
  | .open _ _ _ _ _ t | .fileClose _ t | .read _ _ _ t | .readv _ _ _ _ t => t
  | .readvRaw _ _ _ _ t | .write _ _ t | .writev _ _ _ t | .writevRaw _ _ _ _ t => t
  | .fsync _ t | .fdatasync _ t | .splice _ _ _ _ _ _ _ t | .prepSocket _ _ t => t
  | .bind _ _ _ _ t | .connect _ _ _ _ t | .listen _ _ t | .accept _ t | .socketClose _ t => t
  | .send _ _ t | .recv _ _ _ _ t | .sendto _ _ _ _ _ _ t | .recvfrom _ _ _ _ _ t => t
  | .sendmsg _ _ _ t | .recvmsg _ _ _ t => t
  | .fileAexit _ | .socketAexit _ | .timer _ => none

/-- The descriptor that the object of the operation had at the call; a splice names the
    descriptors of its arguments instead. -/
def fd (call : OpCall) (l : Loop) : Option Int :=
  match call with
  | .splice .. => none
  | call =>
    match call.onFile, call.onSocket with
    | some id, _ => (l.files[id]?).bind UringioFile.fd
    | none, some id => (l.sockets[id]?).bind UringioSocket.sockFd
    | none, none => none

/-- A method needs its object, and one of an open object whose flag is not set. -/
structure Ready (call : OpCall) (l : Loop) : Prop where
  file : ∀ id, call.onFile = some id →
    ∃ fd file, HasFd l id fd file ∧ (call.isAexit = false → file.closed = false)
  socket : ∀ id, call.onSocket = some id →
    ∃ fd sock, HasSockFd l id fd sock ∧ (call.isAexit = false → sock.closed = false)

/-- The buffers are the caller's, whatever the context. -/
def userBuffers : OpCall → Bool
  | .read .. | .readv .. => false
  | .recv _ _ bufferObj _ _ => bufferObj
  | .recvfrom _ _ bufferObj _ _ _ => bufferObj
  | _ => true

/-- The kind of payload that the operation makes. -/
def PayloadShape : OpCall → BufferPayload → Prop
  | .read .. => LinearShape false
  | .write .. | .send .. | .recv .. | .recvfrom .. | .sendto .. => LinearShape true
  | .readv .. | .readvRaw .. | .writev .. | .writevRaw .. | .sendmsg .. | .recvmsg .. => VectorShape
  | _ => fun _ => False

/-- The operation asks for the stream strategy of the context. -/
def usesStream : OpCall → Bool
  | .read .. | .accept .. | .recv .. | .recvmsg .. => true
  | _ => false

/-- The payload stays with the operation. -/
def keepsPayload : OpCall → Bool
  | .sendto .. => true
  | _ => false

end OpCall

/-! ## The request -/

/-- The payload of a request: there is none, or it is registered, or the operation keeps it
    to itself. -/
inductive PayloadPart (call : OpCall) (l : Loop) (g : Grown) (req : Request) : Prop
  | none (hg : g.payloads = []) (hr : req.registration.bufferPayload = none)
      (hp : req.payload = none) (hs : ∀ b, ¬ call.PayloadShape b)
  | registered {p : PayloadId} (hr : req.registration.bufferPayload = some p)
      (hp : req.payload = some p) (hk : call.keepsPayload = false)
      (huse : PayloadUse l g call.userBuffers call.PayloadShape p)
  | kept {p : PayloadId} (hr : req.registration.bufferPayload = none)
      (hp : req.payload = some p) (hk : call.keepsPayload = true)
      (huse : PayloadUse l g true (LinearShape true) p)

/-- The dispatcher leaves the heap and names no registered buffer. -/
def PlainDispatch (fd : Option Int) (heap : Heap) (dispatched : Except Stop (COp × Heap)) :
    Prop :=
  ∀ op heap', dispatched = .ok (op, heap') → heap' = heap ∧ op.fd = fd ∧ op.bufIndex = none

/-- The dispatcher takes a registered buffer for a read into the payload `p`. -/
def FixedDispatch (fd : Option Int) (heap : Heap) (p : PayloadId)
    (dispatched : Except Stop (COp × Heap)) : Prop :=
  ∀ op heap', dispatched = .ok (op, heap') → ∃ b reg, heap.payloads[p]? = some b ∧
    b.mode = .fixed ∧ b.idxRegistry = some reg ∧
    heap' = heap.put p
      { b with idxRegistry := some (getBufferIdx reg).2, bufIdx := (getBufferIdx reg).1 } ∧
    op.fd = fd ∧ op.bufIndex = some (getBufferIdx reg).1

/-- Only a read with the payload of a FIXED context takes a registered buffer. -/
inductive DispatchPart (call : OpCall) (l : Loop) (g : Grown) (req : Request) : Prop
  | plain (h : PlainDispatch (call.fd l) (l.grow g).heap (req.dispatch (l.grow g).heap))
      (hn : call.opcode = .read → ∀ p b, req.registration.bufferPayload = some p →
        (l.grow g).heap.payloads[p]? = some b → b.mode ≠ .fixed)
  | fixed {p : PayloadId} (hr : req.registration.bufferPayload = some p)
      (hop : call.opcode = .read) (hg : g.payloads = [])
      (h : FixedDispatch (call.fd l) (l.grow g).heap p (req.dispatch (l.grow g).heap))

structure Prepared (call : OpCall) (l : Loop) (g : Grown) (req : Request) : Prop where
  futures : g.futures = 1
  files : g.files = call.newFiles
  sockets : g.sockets = call.newSockets
  future : req.registration.future = l.nextFuture
  opcode : req.registration.opcode = call.opcode
  file : req.registration.file = call.file l
  socket : req.registration.socket = call.socket l
  flag : req.flag = call.flag
  stream : req.registration.streamStrategy = .oneshot ∨
    call.usesStream = true ∧ ∃ c, l.context = some c ∧ req.registration.streamStrategy = c.stream
  timeout : ∃ pending, parseTimeoutParams call.timeoutArg = .ok (req.timeoutParams, pending)
  ready : call.Ready l
  payload : PayloadPart call l g req
  dispatch : DispatchPart call l g req

/-- The operation gets ready or gives up. -/
def Prepares (call : OpCall) (l : Loop) (program : PyProgram Request) : Prop :=
  Triple (fun s => s = l) program (fun req s => ∃ g, s = l.grow g ∧ Prepared call l g req)
    (fun _ s => Refused l s)

/-! ## Dispatchers -/

section Dispatchers

variable {heap : Heap} {p : PayloadId} {b : BufferPayload}

theorem payloadAt_of_some (hb : heap.payloads[p]? = some b) : payloadAt heap p = .ok b := by
  unfold payloadAt
  rw [hb]

theorem plain_of_const {op : COp} (h : op.bufIndex = none) :
    PlainDispatch op.fd heap (.ok (op, heap)) := by
  intro op' heap' he
  obtain ⟨rfl, rfl⟩ := Prod.mk.inj (Except.ok.inj he)
  exact ⟨rfl, rfl, h⟩

theorem plain_of_error {fd : Option Int} {e : Stop} : PlainDispatch fd heap (.error e) :=
  fun _ _ he => absurd he (by simp)

/-- A dispatcher that looks at the linear buffer of the payload. -/
theorem plain_linear {fd : Option Int} {f : LinearBuffer → COp}
    (h : ∀ linear, (f linear).fd = fd ∧ (f linear).bufIndex = none) :
    PlainDispatch fd heap ((linearOf b).map fun linear => (f linear, heap)) := by
  unfold linearOf
  cases b.linear with
  | none => exact plain_of_error
  | some linear => exact (h linear).1 ▸ plain_of_const (h linear).2

/-- A dispatcher that looks at the vector of the payload. -/
theorem plain_vector {fd : Option Int} {f : VectoredBuffer → COp}
    (h : ∀ vector, (f vector).fd = fd ∧ (f vector).bufIndex = none) :
    PlainDispatch fd heap ((vectorOf b).map fun vector => (f vector, heap)) := by
  unfold vectorOf
  cases b.vector with
  | none => exact plain_of_error
  | some vector => exact (h vector).1 ▸ plain_of_const (h vector).2

theorem takeBufIdx_of_none (h : b.idxRegistry = none) : takeBufIdx heap p b = .error .segv := by
  unfold takeBufIdx
  rw [h]

theorem takeBufIdx_of_some {reg : FixedBufferIdxRegistry} (h : b.idxRegistry = some reg) :
    takeBufIdx heap p b = .ok ((getBufferIdx reg).1, heap.put p
      { b with idxRegistry := some (getBufferIdx reg).2, bufIdx := (getBufferIdx reg).1 }) := by
  unfold takeBufIdx
  rw [h]

theorem readDispatcher_spec (hb : heap.payloads[p]? = some b) (fd : Int)
    (stream : StreamStrategy) (size offset : Int) :
    (b.mode ≠ .fixed →
      PlainDispatch (some fd) heap (readDispatcher fd p stream size offset heap)) ∧
    (b.mode = .fixed →
      FixedDispatch (some fd) heap p (readDispatcher fd p stream size offset heap)) := by
  unfold readDispatcher
  rw [payloadAt_of_some hb]
  simp only [bind, Except.bind, pure, Except.pure]
  constructor
  · intro hm
    cases hmode : b.mode with
    | fixed => exact absurd hmode hm
    | provided | bufRing =>
      dsimp only
      split
      · exact plain_of_const rfl
      · exact plain_of_const rfl
    | normalBuf | bufNoVal => exact plain_linear (b := b) fun _ => ⟨rfl, rfl⟩
  · intro hm op heap' he
    rw [hm] at he
    cases hreg : b.idxRegistry with
    | none =>
      rw [takeBufIdx_of_none hreg] at he
      exact absurd he (by simp)
    | some reg =>
      rw [takeBufIdx_of_some hreg] at he
      cases hlin : linearOf b with
      | error e =>
        rw [hlin] at he
        exact absurd he (by simp)
      | ok linear =>
        rw [hlin] at he
        obtain ⟨rfl, rfl⟩ := Prod.mk.inj (Except.ok.inj he)
        exact ⟨b, reg, hb, hm, hreg, rfl, rfl, rfl⟩

theorem readvDispatcher_spec (hb : heap.payloads[p]? = some b) (fd : Int) (offset : Int)
    (nowait : Bool) : PlainDispatch (some fd) heap (readvDispatcher fd p offset nowait heap) := by
  unfold readvDispatcher
  rw [payloadAt_of_some hb]
  simp only [bind, Except.bind, pure, Except.pure]
  cases b.mode with
  | provided | bufRing => exact plain_linear (b := b) fun _ => ⟨rfl, rfl⟩
  | fixed | normalBuf | bufNoVal => exact plain_vector (b := b) fun _ => ⟨rfl, rfl⟩

theorem writeDispatcher_spec (hb : heap.payloads[p]? = some b) (hm : b.mode ≠ .fixed) (fd : Int)
    (offset : Int) : PlainDispatch (some fd) heap (writeDispatcher fd p offset heap) := by
  unfold writeDispatcher
  rw [payloadAt_of_some hb]
  simp only [bind, Except.bind, pure, Except.pure]
  cases hmode : b.mode with
  | fixed => exact absurd hmode hm
  | provided | bufRing | normalBuf | bufNoVal => exact plain_linear (b := b) fun _ => ⟨rfl, rfl⟩

theorem vectoredCall_spec (hb : heap.payloads[p]? = some b) {fd : Option Int}
    {call : List Iovec → Nat → COp}
    (h : ∀ iovecs nrVecs, (call iovecs nrVecs).fd = fd ∧ (call iovecs nrVecs).bufIndex = none) :
    PlainDispatch fd heap (vectoredCall p call heap) := by
  unfold vectoredCall
  rw [payloadAt_of_some hb]
  exact plain_vector (b := b) (f := fun v => call v.iovecs v.nrVecs) fun v => h v.iovecs v.nrVecs

theorem linearCall_spec (hb : heap.payloads[p]? = some b) {fd : Option Int}
    {f : Ptr → Nat → COp} (h : ∀ buf len, (f buf len).fd = fd ∧ (f buf len).bufIndex = none) :
    PlainDispatch fd heap (linearCall p f heap) := by
  unfold linearCall
  rw [payloadAt_of_some hb]
  exact plain_linear (b := b) (f := fun v => f v.buffer v.len) fun v => h v.buffer v.len

theorem acceptDispatcher_spec (fd : Int) (stream : StreamStrategy) (addr : Option Block) :
    PlainDispatch (some fd) heap (acceptDispatcher fd stream addr heap) := by
  unfold acceptDispatcher
  cases stream with
  | multishot => exact plain_of_const rfl
  | oneshot => exact plain_of_const rfl

theorem recvDispatcher_spec (hb : heap.payloads[p]? = some b) (fd : Int)
    (stream : StreamStrategy) (isPollFirst : Bool) :
    PlainDispatch (some fd) heap (recvDispatcher fd p stream isPollFirst heap) := by
  unfold recvDispatcher
  rw [payloadAt_of_some hb]
  simp only [bind, Except.bind, pure, Except.pure]
  cases linearOf b with
  | error e => exact plain_of_error
  | ok linear =>
    dsimp only
    cases b.mode with
    | provided | bufRing =>
      cases stream with
      | multishot => exact plain_of_const rfl
      | oneshot => exact plain_of_const rfl
    | fixed | normalBuf | bufNoVal => exact plain_of_const rfl

theorem recvmsgDispatcher_spec (hb : heap.payloads[p]? = some b) (fd : Int)
    (stream : StreamStrategy) (isPollFirst : Bool) (msghdr : Option Block) :
    PlainDispatch (some fd) heap (recvmsgDispatcher fd p stream isPollFirst msghdr heap) := by
  unfold recvmsgDispatcher
  rw [payloadAt_of_some hb]
  simp only [bind, Except.bind, pure, Except.pure]
  cases hmode : b.mode with
  | provided | bufRing =>
    cases stream with
    | multishot => exact plain_of_const rfl
    | oneshot => exact plain_of_const rfl
  | fixed | normalBuf | bufNoVal => exact plain_vector (b := b) fun _ => ⟨rfl, rfl⟩

theorem sendDispatcher_spec (hb : heap.payloads[p]? = some b) (hm : b.mode ≠ .fixed) (fd : Int)
    (transferMode : TransferMode) (isPollFirst : Bool) :
    PlainDispatch (some fd) heap (sendDispatcher fd p transferMode isPollFirst heap) := by
  unfold sendDispatcher
  rw [payloadAt_of_some hb]
  simp only [bind, Except.bind, pure, Except.pure]
  cases transferMode with
  | zeroCopy =>
    rw [if_pos rfl, if_neg hm]
    exact plain_linear (b := b) fun _ => ⟨rfl, rfl⟩
  | normalTransfer =>
    rw [if_neg (by simp)]
    exact plain_linear (b := b) fun _ => ⟨rfl, rfl⟩

/-- Without a pool the zero-copy `sendmsg` does not get anywhere. -/
theorem sendmsgDispatcher_spec (hb : heap.payloads[p]? = some b) (hreg : b.idxRegistry = none)
    (fd : Int) (transferMode : TransferMode) (addr : Option SockAddr) (addrlen : Nat)
    (isPollFirst : Bool) :
    PlainDispatch (some fd) heap
      (sendmsgDispatcher fd p transferMode addr addrlen isPollFirst heap) := by
  unfold sendmsgDispatcher
  rw [payloadAt_of_some hb]
  simp only [bind, Except.bind, pure, Except.pure]
  cases transferMode with
  | zeroCopy =>
    rw [takeBufIdx_of_none hreg]
    exact plain_of_error
  | normalTransfer => exact plain_vector (b := b) fun _ => ⟨rfl, rfl⟩

end Dispatchers

end Uringio
