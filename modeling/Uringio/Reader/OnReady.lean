/-
  The reader (`src/python_api/reader/on_ready.c`): what `on_uring_ready` does with one CQE,
  and the loop over all of them.

  A CQE is decoded by truncating its `user_data` to an int and looking up the slot; a CQE
  whose slot is out of range or not live is dropped. WAKEUP_FD_TAG decodes to -1, so the
  branch that re-arms the wakeup read is never entered (`readCqe_wakeup`). Every branch that
  does not `continue` ends in `registry_remove`, whatever the flags of the CQE say.
-/
import Uringio.PyOps.Files
import Uringio.Ops.COp

namespace Uringio

/-- `-ETIME`. -/
def negEtime : Int := -62

/-- What the environment decides while one CQE is handled. -/
structure ReadEnv where
  exc : Bool
  result : Bool
  object : Bool
  submit : Int
deriving DecidableEq, Repr

/-- Everything succeeds. -/
def ReadEnv.ok : ReadEnv := ⟨true, true, true, 1⟩

namespace Loop

/-- A write through the slot pointer of the reader. -/
def modifySlot (l : Loop) (index : Int) (f : RequestSlot → RequestSlot) : Loop :=
  { l with registry := { l.registry with slots := l.registry.slots.modify index.toNat f } }

/-- `io_uring_cqe_seen`. -/
def cqeSeen (l : Loop) : Loop := { l with ring := ioUringCqeSeen l.ring }

/-- `free_buffer_payload(slot->buffer_payload, force); slot->buffer_payload = NULL`. -/
def releaseSlotPayload (l : Loop) (index : Int) (slot : RequestSlot) (force : Bool) : Loop :=
  { l with heap := freeBufferPayload l.heap slot.bufferPayload force }.modifySlot index
    fun s => { s with bufferPayload := none }

end Loop

/-- `IS_SIGNALS_DATA`: `_Generic` on the type of the expression, which is never
    `SignalsData`. -/
def isSignalsData (_userData : Nat) : Bool := false

/-- The payload of a slot. -/
def slotPayload (l : Loop) (slot : RequestSlot) : Except Stop (PayloadId × BufferPayload) :=
  match slot.bufferPayload with
  | none => .error .segv
  | some p => (payloadAt l.heap p).map fun b => (p, b)

/-- `if (payload->mode == FIXED) release_buffer_idx(payload->idx_registry, payload->buf_idx)`. -/
def releaseFixed (l : Loop) (p : PayloadId) (b : BufferPayload) : Except Stop Loop :=
  if b.mode = .fixed then
    match b.idxRegistry with
    | none => .error .segv
    | some reg =>
      let reg := (releaseBufferIdx reg b.bufIdx).2
      .ok { l with heap := l.heap.put p { b with idxRegistry := some reg } }
  else .ok l

/-- `PyBytes_FromStringAndSize` of a buffer. -/
def bytesOf (env : ReadEnv) (buffer : Ptr) (res : Int) : Option ResultValue :=
  if env.result then some (.bytes [⟨buffer, res.toNat⟩]) else none

/-- The loop that copies `remaining` bytes out of the iovecs. -/
def copyChunks : List Iovec → Nat → List Iovec
  | [], _ => []
  | v :: vs, remaining =>
    if remaining = 0 then []
    else ⟨v.iovBase, min v.iovLen remaining⟩ :: copyChunks vs (remaining - min v.iovLen remaining)

/-- The bytes object of a vectored read. -/
def bytesOfVector (env : ReadEnv) (b : BufferPayload) (res : Int) :
    Except Stop (Option ResultValue) :=
  if env.result then do
    let vec ← vectorOf b
    return some (.bytes (copyChunks (vec.iovecs.take vec.nrVecs) res.toNat))
  else .ok none

/-- `PyLong_FromLong`. -/
def number (env : ReadEnv) (n : Int) : Option ResultValue :=
  if env.result then some (.number n) else none

/-! ## The branches of the switch -/

/-- What a branch of the switch leaves behind: `continue`, or the result object. -/
inductive BranchResult where
  | skip
  | value (v : Option ResultValue)
deriving DecidableEq, Repr

/-- A branch of the switch. -/
abbrev Branch : Type := Except Stop (BranchResult × Loop)

section Branches

variable (env : ReadEnv) (l : Loop) (index : Int) (slot : RequestSlot) (c : Cqe)

def completeRead : Branch := do
  let (p, b) ← slotPayload l slot
  let linear ← linearOf b
  let result := if linear.buffer = .null then none else bytesOf env linear.buffer c.res
  let l ← releaseFixed l p b
  return (.value result, l.releaseSlotPayload index slot false)

def completeReadv : Branch := do
  let (_, b) ← slotPayload l slot
  let result ← bytesOfVector env b c.res
  return (.value result, l.releaseSlotPayload index slot false)

def completeWrite : Branch := do
  let (p, b) ← slotPayload l slot
  let l ← releaseFixed l p b
  return (.value (number env c.res), l.releaseSlotPayload index slot true)

def completeWritev : Branch :=
  if slot.bufferPayload.isSome then
    .ok (.value (number env c.res), l.releaseSlotPayload index slot false)
  else .ok (.value (number env c.res), l)

def completeOpenat2 : Branch :=
  match slot.file with
  | some file => .ok (.value (some (.file file)), l.setFile file fun f => { f with fd := some c.res })
  | none => .ok (.value none, l)

def completeSocket : Branch :=
  match slot.socket with
  | some sock =>
    .ok (.value (some (.socket sock)), l.setSocket sock fun s => { s with sockFd := some c.res })
  | none => .ok (.value none, l)

/-- BIND, CONNECT and LISTEN. -/
def completeSocketNumber : Branch :=
  if slot.socket.isSome then .ok (.value (number env c.res), l) else .ok (.value none, l)

def completeAccept : Branch :=
  match slot.socket with
  | none => .ok (.value none, l)
  | some sock =>
    if !env.object then .ok (.skip, { l with heap := l.heap.freeBlock slot.addr })
    else
      match l.sockets[sock]? with
      | none => .error .segv
      | some listener =>
        let conn : UringioSocket := ⟨some c.res, listener.domain, slot.addr, false⟩
        let l := { l with sockets := l.sockets ++ [conn] }
        .ok (.value (some (.connection c.res sock slot.addr)),
          l.modifySlot index fun s => { s with bufferPayload := none })

def completeRecv : Branch :=
  if slot.socket.isSome then do
    let (p, b) ← slotPayload l slot
    let result ←
      if c.res = 0 then pure (if env.result then some (.bytes []) else none)
      else do
        let linear ← linearOf b
        pure (bytesOf env linear.buffer c.res)
    let l ← releaseFixed l p b
    return (.value result, l.releaseSlotPayload index slot false)
  else .ok (.value none, l)

/-- The multishot part of RECVMSG: the request is armed again under its index when the
    kernel has finished it. -/
def completeRecvmsgMultishot (b : BufferPayload) : Branch := do
  let _ ← linearOf b
  let result := if env.result then some (.message (c.flags >>> ioringCqeBufferShift) c.res) else none
  if isUringioRecvmsgMultishotResubmitRequired c then
    match slot.socket.bind fun s => l.sockets[s]? with
    | some ⟨some fd, _, _, _⟩ =>
      let (_, ring) :=
        uringioRecvmsgMultishot l.ring index fd b.bgid false slot.msghdr .zero env.submit
      return (.value result, { l with ring := ring })
    | _ => .error .segv
  else return (.value result, l)

def completeRecvmsg : Branch := do
  let (p, b) ← slotPayload l slot
  let l ← releaseFixed l p b
  if slot.streamStrategy = .multishot then completeRecvmsgMultishot env l index slot c b
  else if b.payloadType = .payloadLinear then do
    let linear ← linearOf b
    let l := { l with heap := l.heap.freeBlock slot.addr }
    let l := l.modifySlot index fun s => { s with addr := none }
    return (.value (bytesOf env linear.buffer c.res), l.releaseSlotPayload index slot false)
  else do
    let result ← bytesOfVector env b c.res
    return (.value result, l.releaseSlotPayload index slot false)

/-- SEND and SENDMSG. -/
def completeSend : Branch :=
  match slot.bufferPayload with
  | none => .ok (.value (number env c.res), l)
  | some p => do
    let b ← payloadAt l.heap p
    let l ← releaseFixed l p b
    return (.value (number env c.res), l.releaseSlotPayload index slot false)

def completeClose : Branch :=
  match slot.socket, slot.file with
  | some sock, _ =>
    .ok (.value (number env c.res), l.setSocket sock fun s => { s with closed := true })
  | none, some file =>
    .ok (.value (number env c.res), l.setFile file fun f => { f with closed := true })
  | none, none => .ok (.value none, l)

/-- The switch on the opcode of the slot. -/
def complete : Branch :=
  match slot.opcode with
  | .read => completeRead env l index slot c
  | .readv => completeReadv env l index slot c
  | .write => completeWrite env l index slot c
  | .writev => completeWritev env l index slot c
  | .openat2 => completeOpenat2 l slot c
  | .socket => completeSocket l slot c
  | .bind | .connect | .listen => completeSocketNumber env l slot c
  | .accept => completeAccept env l index slot c
  | .recv => completeRecv env l index slot c
  | .recvmsg => completeRecvmsg env l index slot c
  | .send | .sendmsg => completeSend env l index slot c
  | .close => completeClose env l slot c
  | .timeout => .ok (.value (some .none), l)
  | .nop | .fsync | .splice | .other _ => .ok (.value (number env c.res), l)

end Branches

/-! ## One CQE, and all of them -/

/-- `slot->opcode == IORING_OP_TIMEOUT && cqe->res == -ETIME`. -/
def timeoutExpired (slot : RequestSlot) (c : Cqe) : Bool :=
  slot.opcode == .timeout && c.res == negEtime

/-- The end of an iteration that did not `continue`. -/
def finishCqe (l : Loop) (index : Int) : Except Stop Loop :=
  match registryRemove l.registry l.heap index with
  | .error e => .error e
  | .ok (registry, heap) => .ok { l with registry := registry, heap := heap }.cqeSeen

/-- The branch that prepares the wakeup read again; the SQE is left to the next
    submission. -/
def rearmWakeup (l : Loop) : Loop :=
  match ioUringGetSqe l.ring with
  | (none, ring) => { l with ring := ring, eventfd := 0 }.cqeSeen
  | (some p, ring) =>
    let ring := ring.modify p (ioUringPrep (.read l.wakeupFd .wakeupBuf 8 0))
    { l with ring := ring.modify p (ioUringSqeSetData64 wakeupFdTag), eventfd := 0 }.cqeSeen

/-- A CQE of a live slot. -/
def readLive (env : ReadEnv) (l : Loop) (index : Int) (slot : RequestSlot) (future : FutureId)
    (c : Cqe) : Except Stop Loop :=
  if c.res < 0 ∧ ¬ timeoutExpired slot c then
    let l := if env.exc then l.callFuture future (.setException (.osError (-c.res))) else l
    finishCqe l index
  else if c.userData = wakeupFdTag then .ok (rearmWakeup l)
  else
    match complete env l index slot c with
    | .error e => .error e
    | .ok (.skip, l) => .ok l.cqeSeen
    | .ok (.value none, l) => finishCqe l index
    | .ok (.value (some v), l) => finishCqe (l.callFuture future (.setResult v)) index

/-- One iteration of `on_uring_ready`. -/
def readCqe (env : ReadEnv) (l : Loop) (c : Cqe) : Except Stop Loop :=
  let index := toInt c.userData
  match registryGet l.registry index with
  | none => .ok l.cqeSeen
  | some slot =>
    match slot.future with
    | none => .ok l.cqeSeen
    | some future => readLive env l index slot future c

/-- The first `n` iterations; where no environment is given everything succeeds. -/
def readCqes : Nat → List ReadEnv → Loop → Except Stop Loop
  | 0, _, l => .ok l
  | n + 1, envs, l =>
    match l.ring.cq with
    | [] => .ok l
    | c :: _ => (readCqe (envs.headD .ok) l c).bind (readCqes n envs.tail)

/-- `on_uring_ready`: every CQE in the queue. -/
def onUringReady (envs : List ReadEnv) (l : Loop) : Except Stop Loop :=
  readCqes l.ring.cq.length envs l

/-- A wakeup CQE is dropped: the registry has no slot for its tag. -/
theorem readCqe_wakeup (env : ReadEnv) (l : Loop) (c : Cqe) (h : c.userData = wakeupFdTag) :
    readCqe env l c = .ok l.cqeSeen := by
  have hget : registryGet l.registry (toInt c.userData) = none := by
    rw [h, toInt_wakeupFdTag]
    exact RequestRegistry.registryGet_of_not_inRange (by simp [RequestRegistry.inRange])
  unfold readCqe
  simp only [hget]

end Uringio
