/-
  The address, length and message header blocks of the socket operations.

  Seven methods allocate blocks beside their payload. A method that gives up before its
  submission frees them itself, each exit with its own list; the submission frees what its
  `Request` says. Here the methods note every `malloc` and every `free` up to the submission;
  without the notes they are the methods of the other modules (`BlockCall.run_erases`). A
  request that got ready has its blocks in one of four ways (`BlockFate`).
-/
import Uringio.Lib.Noted
import Uringio.PyOps.Run

namespace Uringio

open Lib Program Noted

inductive BlockEvent where
  | malloc (b : Block)
  | free (b : Block)
deriving DecidableEq, Repr

/-- A method that notes its blocks. -/
abbrev BlockProgram (α : Type) : Type := Program (Noted Loop BlockEvent) Stop (Option PyErr) α

/-- The result of a `malloc`, and of a `free` of it. -/
def mallocs (b : Option Block) : List BlockEvent := b.toList.map .malloc

def frees (b : Option Block) : List BlockEvent := b.toList.map .free

/-- The blocks that were allocated. -/
def allocatedBlocks (events : List BlockEvent) : List Block :=
  events.filterMap fun
    | .malloc b => some b
    | .free _ => none

/-- The blocks that were freed. -/
def freedBlocks (events : List BlockEvent) : List Block :=
  events.filterMap fun
    | .malloc _ => none
    | .free b => some b

section Events

variable {b : Option Block} {xs ys : List BlockEvent}

@[simp] theorem allocatedBlocks_nil : allocatedBlocks [] = [] := rfl

@[simp] theorem freedBlocks_nil : freedBlocks [] = [] := rfl

@[simp] theorem allocatedBlocks_append :
    allocatedBlocks (xs ++ ys) = allocatedBlocks xs ++ allocatedBlocks ys :=
  List.filterMap_append

@[simp] theorem freedBlocks_append :
    freedBlocks (xs ++ ys) = freedBlocks xs ++ freedBlocks ys :=
  List.filterMap_append

@[simp] theorem allocatedBlocks_mallocs : allocatedBlocks (mallocs b) = b.toList := by
  cases b <;> rfl

@[simp] theorem allocatedBlocks_frees : allocatedBlocks (frees b) = [] := by
  cases b <;> rfl

@[simp] theorem freedBlocks_mallocs : freedBlocks (mallocs b) = [] := by
  cases b <;> rfl

@[simp] theorem freedBlocks_frees : freedBlocks (frees b) = b.toList := by
  cases b <;> rfl

end Events

/-- What was allocated was freed, each block once. -/
def Settled (events : List BlockEvent) : Prop :=
  (freedBlocks events).Perm (allocatedBlocks events)

/-! ## The methods -/

namespace Blocks

/-- `_serialize_address` frees its block when it fails. -/
def serializeAddress (host : HostArg) (port domain : Int) (env : CallEnv) :
    BlockProgram (SockAddr × Block) := do
  note (mallocs env.block)
  onFailure (frees env.block) (lift (Uringio.serializeAddress host port domain env))

/-- `UringioSocket_bind` and `UringioSocket_connect`. -/
def addressedOperation (self : SocketId) (opcode : Opcode) (op : Int → SockAddr → Nat → COp)
    (host : HostArg) (port : Int) (timeoutParams : Option PyVal) (env : CallEnv) :
    BlockProgram Request := do
  let (sock, fd) ← lift (openSocketMethod self env)
  let t ← lift (parseTimeout timeoutParams)
  let (addr, block) ← serializeAddress host port sock.domain env
  let future ← onFailure (frees block) (lift (createFuture env))
  return { socketRequest self future none .oneshot opcode t
    (fun heap => .ok (op fd addr (getSocketSize sock.domain), heap)) with
      freeOnFull := some block, freeAfter := some block }

/-- `UringioSocket_accept`. -/
def accept (self : SocketId) (timeoutParams : Option PyVal) (env : CallEnv) :
    BlockProgram Request := do
  let (_, fd) ← lift (openSocketMethod self env)
  let t ← lift (parseTimeout timeoutParams)
  let future ← lift (createFuture env)
  match env.msghdr with
  | none => fail (some ⟨.memoryError, ""⟩)
  | some addrlen =>
    note (mallocs addrlen)
    note (mallocs env.block)
    let context ← lift getContext
    let req := socketRequest self future none context.stream .accept t
      (acceptDispatcher fd context.stream env.block)
    return { req with
      registration := { req.registration with sockaddr := env.block }
      freeOnFull := some addrlen }

/-- `UringioSocket_sendto`. -/
def sendto (self : SocketId) (host : List Nat) (parsed : Bool) (port domain : Int)
    (isPollFirst : Bool) (timeoutParams : Option PyVal) (env : CallEnv) :
    BlockProgram Request := do
  let (_, fd) ← lift (openSocketMethod self env)
  let t ← lift (parseTimeout timeoutParams)
  let (addr, block) ← serializeAddress (some (if parsed then some host else none)) port domain env
  let payload ← onFailure (frees block) (lift (dataPayload env))
  let future ← onFailure (frees block) (lift (createFutureOrDrop payload env))
  return { socketRequest self future none .oneshot .sendmsg t
    (linearCall payload fun buf len =>
      .sendto fd buf len addr (getSocketSize domain) isPollFirst) with
    payload := some payload, freeOnFull := some block, freeAfter := some block }

/-- `UringioSocket_recvfrom`. -/
def recvfrom (self : SocketId) (bufsize : Int) (bufferObj : Bool)
    (address : Option (HostArg × Int × Int)) (isPollFirst : Bool)
    (timeoutParams : Option PyVal) (env : CallEnv) : BlockProgram Request := do
  let (_, fd) ← lift (openSocketMethod self env)
  let t ← lift (parseTimeout timeoutParams)
  match address with
  | none => stop .unassigned
  | some (host, port, domain) =>
    let (addr, block) ← serializeAddress host port domain env
    let payload ← onFailure (frees block) (lift (linearPayload bufferObj bufsize env))
    match env.msghdr with
    | none =>
      onFailure (frees block) (lift do
        dropPayload payload
        fail (some ⟨.memoryError, ""⟩))
    | some msg =>
      note (mallocs msg)
      let future ← onFailure (frees block ++ frees msg) (lift (createFutureOrDrop payload env))
      let req := socketRequest self future payload .oneshot .recvmsg t
        (linearCall payload fun buf len =>
          .recvfrom fd buf len addr (getSocketSize domain) isPollFirst)
      return { req with
        registration := { req.registration with sockaddr := some block, msghdr := some msg }
        freeOnFull := some block
        freeMsgOnFull := some msg }

/-- The address of `UringioSocket_sendmsg`. -/
def sendmsgTarget (address : Option (HostArg × Int × Int)) (env : CallEnv) :
    BlockProgram (Option SockAddr × Nat × Option Block) :=
  match address with
  | none => ret (none, 0, none)
  | some (host, port, domain) => do
    let (addr, block) ← serializeAddress host port domain env
    return (some addr, getSocketSize domain, some block)

/-- `UringioSocket_sendmsg` leaves its address when it gets no payload. -/
def sendmsg (self : SocketId) (address : Option (HostArg × Int × Int)) (isPollFirst : Bool)
    (timeoutParams : Option PyVal) (env : CallEnv) : BlockProgram Request := do
  let (_, fd) ← lift (openSocketMethod self env)
  let t ← lift (parseTimeout timeoutParams)
  let (addr, addrlen, block) ← sendmsgTarget address env
  let payload ← lift (vectoredPayload true env)
  let context ← lift getContext
  let future ← onFailure (frees block) (lift (createFutureOrDrop payload env))
  return { socketRequest self future payload .oneshot .sendmsg t
    (sendmsgDispatcher fd payload context.transferMode addr addrlen isPollFirst) with
    freeOnFull := block, freeAfter := block }

/-- `UringioSocket_recvmsg` does not check its block. -/
def recvmsg (self : SocketId) (buffersObj isPollFirst : Bool) (timeoutParams : Option PyVal)
    (env : CallEnv) : BlockProgram Request := do
  let (_, fd) ← lift (openSocketMethod self env)
  let t ← lift (parseTimeout timeoutParams)
  if !buffersObj then stop .unassigned
  else
    let payload ← lift (vectoredPayload true env)
    let context ← lift getContext
    let future ← lift (createFutureOrDrop payload env)
    note (mallocs env.msghdr)
    let req := socketRequest self future payload context.stream .recvmsg t
      (recvmsgDispatcher fd payload context.stream isPollFirst env.msghdr)
    return { req with registration := { req.registration with msghdr := env.msghdr } }

end Blocks

/-- The calls that allocate blocks. -/
inductive BlockCall where
  | bind (self : SocketId) (host : List Nat) (parsed : Bool) (port : Int) (t : Option PyVal)
  | connect (self : SocketId) (host : List Nat) (parsed : Bool) (port : Int) (t : Option PyVal)
  | accept (self : SocketId) (t : Option PyVal)
  | sendto (self : SocketId) (host : List Nat) (parsed : Bool) (port domain : Int)
      (isPollFirst : Bool) (t : Option PyVal)
  | recvfrom (self : SocketId) (bufsize : Int) (bufferObj : Bool)
      (address : Option (HostArg × Int × Int)) (isPollFirst : Bool) (t : Option PyVal)
  | sendmsg (self : SocketId) (address : Option (HostArg × Int × Int)) (isPollFirst : Bool)
      (t : Option PyVal)
  | recvmsg (self : SocketId) (buffersObj isPollFirst : Bool) (t : Option PyVal)

namespace BlockCall

def opCall : BlockCall → OpCall
  | .bind self host parsed port t => .bind self host parsed port t
  | .connect self host parsed port t => .connect self host parsed port t
  | .accept self t => .accept self t
  | .sendto self host parsed port domain isPollFirst t =>
    .sendto self host parsed port domain isPollFirst t
  | .recvfrom self bufsize bufferObj address isPollFirst t =>
    .recvfrom self bufsize bufferObj address isPollFirst t
  | .sendmsg self address isPollFirst t => .sendmsg self address isPollFirst t
  | .recvmsg self buffersObj isPollFirst t => .recvmsg self buffersObj isPollFirst t

/-- The call up to its submission. -/
def prepare (call : BlockCall) (env : CallEnv) : BlockProgram Request :=
  match call with
  | .bind self host parsed port t =>
    Blocks.addressedOperation self .bind .bind (some (if parsed then some host else none)) port t
      env
  | .connect self host parsed port t =>
    Blocks.addressedOperation self .connect .connect (some (if parsed then some host else none))
      port t env
  | .accept self t => Blocks.accept self t env
  | .sendto self host parsed port domain isPollFirst t =>
    Blocks.sendto self host parsed port domain isPollFirst t env
  | .recvfrom self bufsize bufferObj address isPollFirst t =>
    Blocks.recvfrom self bufsize bufferObj address isPollFirst t env
  | .sendmsg self address isPollFirst t => Blocks.sendmsg self address isPollFirst t env
  | .recvmsg self buffersObj isPollFirst t => Blocks.recvmsg self buffersObj isPollFirst t env

/-- The call; what its submission frees is on the heap. -/
def run (call : BlockCall) (env : CallEnv) : BlockProgram Submitted := do
  let req ← call.prepare env
  lift (submitRequest req env.submit)

end BlockCall

/-! ## Without the notes -/

section Erasure

variable {env : CallEnv}

theorem serializeAddress_erases (host : HostArg) (port domain : Int) :
    Erases (Blocks.serializeAddress host port domain env)
      (serializeAddress host port domain env) :=
  .note _ (.onFailure _ (.lift _))

theorem addressedOperation_erases (self : SocketId) (opcode : Opcode)
    (op : Int → SockAddr → Nat → COp) (host : HostArg) (port : Int) (t : Option PyVal) :
    Erases (Blocks.addressedOperation self opcode op host port t env)
      (addressedOperation self opcode op host port t env) :=
  .bind (.lift _) fun _ => .bind (.lift _) fun _ =>
    .bind (serializeAddress_erases _ _ _) fun _ => .bind (.onFailure _ (.lift _)) fun _ => .pure _

theorem accept_erases (self : SocketId) (t : Option PyVal) :
    Erases (Blocks.accept self t env) (UringioSocket.accept self t env) := by
  unfold Blocks.accept UringioSocket.accept
  refine .bind (.lift _) fun _ => .bind (.lift _) fun _ => .bind (.lift _) fun _ => ?_
  cases env.msghdr with
  | none => exact .fail _
  | some addrlen => exact .note _ (.note _ (.bind (.lift _) fun _ => .pure _))

theorem sendto_erases (self : SocketId) (host : List Nat) (parsed : Bool) (port domain : Int)
    (isPollFirst : Bool) (t : Option PyVal) :
    Erases (Blocks.sendto self host parsed port domain isPollFirst t env)
      (UringioSocket.sendto self host parsed port domain isPollFirst t env) :=
  .bind (.lift _) fun _ => .bind (.lift _) fun _ =>
    .bind (serializeAddress_erases _ _ _) fun _ => .bind (.onFailure _ (.lift _)) fun _ =>
      .bind (.onFailure _ (.lift _)) fun _ => .pure _

theorem recvfrom_erases (self : SocketId) (bufsize : Int) (bufferObj : Bool)
    (address : Option (HostArg × Int × Int)) (isPollFirst : Bool) (t : Option PyVal) :
    Erases (Blocks.recvfrom self bufsize bufferObj address isPollFirst t env)
      (UringioSocket.recvfrom self bufsize bufferObj address isPollFirst t env) := by
  unfold Blocks.recvfrom UringioSocket.recvfrom
  refine .bind (.lift _) fun _ => .bind (.lift _) fun _ => ?_
  cases address with
  | none => exact .stop _
  | some address =>
    refine .bind (serializeAddress_erases _ _ _) fun _ => ?_
    refine .bind (.onFailure _ (.lift _)) fun _ => ?_
    cases env.msghdr with
    | none => exact .onFailure _ (.lift _)
    | some msg => exact .note _ (.bind (.onFailure _ (.lift _)) fun _ => .pure _)

theorem sendmsgTarget_erases (address : Option (HostArg × Int × Int)) :
    Erases (Blocks.sendmsgTarget address env) (sendmsgTarget address env) := by
  cases address with
  | none => exact .pure _
  | some address => exact .bind (serializeAddress_erases _ _ _) fun _ => .pure _

theorem sendmsg_erases (self : SocketId) (address : Option (HostArg × Int × Int))
    (isPollFirst : Bool) (t : Option PyVal) :
    Erases (Blocks.sendmsg self address isPollFirst t env)
      (UringioSocket.sendmsg self address isPollFirst t env) :=
  .bind (.lift _) fun _ => .bind (.lift _) fun _ => .bind (sendmsgTarget_erases address) fun _ =>
    .bind (.lift _) fun _ => .bind (.lift _) fun _ => .bind (.onFailure _ (.lift _)) fun _ =>
      .pure _

theorem recvmsg_erases (self : SocketId) (buffersObj isPollFirst : Bool) (t : Option PyVal) :
    Erases (Blocks.recvmsg self buffersObj isPollFirst t env)
      (UringioSocket.recvmsg self buffersObj isPollFirst t env) := by
  unfold Blocks.recvmsg UringioSocket.recvmsg
  refine .bind (.lift _) fun _ => .bind (.lift _) fun _ => ?_
  cases buffersObj with
  | false => exact .stop _
  | true =>
    exact .bind (.lift _) fun _ => .bind (.lift _) fun _ => .bind (.lift _) fun _ =>
      .note _ (.pure _)

theorem BlockCall.prepare_erases (call : BlockCall) :
    Erases (call.prepare env) (call.opCall.prepare env) := by
  cases call with
  | bind self host parsed port t => exact addressedOperation_erases self _ _ _ port t
  | connect self host parsed port t => exact addressedOperation_erases self _ _ _ port t
  | accept self t => exact accept_erases self t
  | sendto self host parsed port domain isPollFirst t =>
    exact sendto_erases self host parsed port domain isPollFirst t
  | recvfrom self bufsize bufferObj address isPollFirst t =>
    exact recvfrom_erases self bufsize bufferObj address isPollFirst t
  | sendmsg self address isPollFirst t => exact sendmsg_erases self address isPollFirst t
  | recvmsg self buffersObj isPollFirst t => exact recvmsg_erases self buffersObj isPollFirst t

/-- Without the notes a call is the operation of the other modules. -/
theorem BlockCall.run_erases (call : BlockCall) :
    Erases (call.run env) (call.opCall.run env) :=
  .bind call.prepare_erases fun _ => .lift _

end Erasure

/-! ## Who frees the blocks of a request -/

/-- The SQE points at a sockaddr, a length or a message header of its caller. -/
def PrepCall.pointsAtBlocks : PrepCall → Bool
  | .bind _ _ _ | .connect _ _ _ | .sendto _ _ _ _ _ _ | .accept _ _ _
  | .multishotAccept _ _ _ => true
  | .sendmsg _ msg _ | .sendmsgZc _ msg _ | .recvmsg _ msg _ => msg.name.isSome
  | .recvmsgMultishot _ msg _ => msg.isSome
  | _ => false

/-- The kernel may post more than one CQE for the SQE and use its memory until the last. -/
def PrepCall.multishot : PrepCall → Bool
  | .multishotAccept _ _ _ | .recvMultishot _ _ _ _ | .recvmsgMultishot _ _ _
  | .readMultishot _ _ _ _ => true
  | _ => false

/-- The blocks of a request that got ready: an address that the call itself frees, the length
    and the peer address of an accept, the address and header of a `recvfrom`, or the header
    of a `recvmsg`. -/
inductive BlockFate where
  | sent (addr : Option Block)
  | accepting (addrlen : Block) (peer : Option Block)
  | receiving (addr msg : Block)
  | header (msghdr : Option Block)

namespace BlockFate

def blocks : BlockFate → List Block
  | .sent addr => addr.toList
  | .accepting addrlen peer => addrlen :: peer.toList
  | .receiving addr msg => [addr, msg]
  | .header msghdr => msghdr.toList

/-- What the call frees when the registry is full. -/
def freedOnFull : BlockFate → List Block
  | .sent addr => addr.toList
  | .accepting addrlen _ => [addrlen]
  | .receiving addr msg => [addr, msg]
  | .header _ => []

/-- What the call frees after its submission. -/
def freedAfter : BlockFate → Option Block
  | .sent addr => addr
  | _ => none

/-- The blocks that the slot gets: the one that the reader may use, and the one that
    `registry_remove` frees. -/
def sockaddr : BlockFate → Option Block
  | .accepting _ peer => peer
  | .receiving addr _ => some addr
  | _ => none

def msghdr : BlockFate → Option Block
  | .receiving _ msg => some msg
  | .header msghdr => msghdr
  | _ => none

def handles : BlockFate → Opcode → Prop
  | .sent _, opcode => opcode = .bind ∨ opcode = .connect ∨ opcode = .sendmsg
  | .accepting _ _, opcode => opcode = .accept
  | .receiving _ _, opcode => opcode = .recvmsg
  | .header _, opcode => opcode = .recvmsg

/-- The operation that the dispatcher chooses points at the blocks, or has none of them. -/
def Points : BlockFate → COp → Prop
  | .sent addr, op => op.call.pointsAtBlocks = addr.isSome
  | .accepting _ _, op => op.call.pointsAtBlocks = true
  | .receiving _ _, op => op.call.pointsAtBlocks = true ∧ op.call.multishot = false
  | .header _, op => op.call.pointsAtBlocks = false ∧ op.call.multishot = false

/-- An SQE of the operation points at one of the blocks. -/
def pointed : BlockFate → Bool
  | .sent addr => addr.isSome
  | .accepting _ _ | .receiving _ _ => true
  | .header _ => false

theorem Points.pointed {fate : BlockFate} {op : COp} (h : fate.Points op) :
    op.call.pointsAtBlocks = fate.pointed := by
  cases fate with
  | sent addr | accepting addrlen peer => exact h
  | receiving addr msg | header msghdr => exact h.1

/-- The request treats its blocks so. -/
structure Keeps (fate : BlockFate) (req : Request) : Prop where
  onFull : req.freeOnFull.toList ++ req.freeMsgOnFull.toList = fate.freedOnFull
  after : req.freeAfter = fate.freedAfter
  sockaddr : req.registration.sockaddr = fate.sockaddr
  msghdr : req.registration.msghdr = fate.msghdr
  opcode : fate.handles req.registration.opcode
  socket : req.registration.socket.isSome
  oneshot : ∀ addr msg, fate = .receiving addr msg →
    req.registration.streamStrategy = .oneshot
  dispatch : ∀ heap op heap1,
    (∀ m, fate = .header m → ∀ p b, req.registration.bufferPayload = some p →
      heap.payloads[p]? = some b → b.mode = .normalBuf) →
    req.dispatch heap = .ok (op, heap1) →
      fate.Points op ∧ op.Accepts ∧ ∀ t, op.linked t = t

end BlockFate

namespace BlockCall

/-- The blocks that the call has when it gets ready. -/
def Takes (call : BlockCall) (env : CallEnv) (fate : BlockFate) : Prop :=
  match call with
  | .bind _ _ _ _ _ | .connect _ _ _ _ _ | .sendto _ _ _ _ _ _ _ =>
    ∃ b, env.block = some b ∧ fate = .sent b
  | .accept _ _ => ∃ addrlen, env.msghdr = some addrlen ∧ fate = .accepting addrlen env.block
  | .recvfrom _ _ _ _ _ _ =>
    ∃ addr msg, env.block = some addr ∧ env.msghdr = some msg ∧ fate = .receiving addr msg
  | .sendmsg _ address _ _ =>
    (address = none ∧ fate = .sent none) ∨
      (address.isSome ∧ ∃ b, env.block = some b ∧ fate = .sent b)
  | .recvmsg _ _ _ _ => fate = .header env.msghdr

/-- The request got ready with its blocks. -/
def Ready (call : BlockCall) (env : CallEnv) (req : Request) (s : Noted Loop BlockEvent) : Prop :=
  ∃ fate, call.Takes env fate ∧ allocatedBlocks s.notes = fate.blocks ∧
    freedBlocks s.notes = [] ∧ fate.Keeps req

end BlockCall

/-! ## What each call does with its blocks -/

section Calls

variable {env : CallEnv} {ws vs : List BlockEvent}

theorem settled_nil : Settled [] := .nil

theorem lift_settled {α : Type} (m : PyProgram α) (h : Settled ws) :
    Triple (Has ws) (lift m) (fun _ => Has ws) (fun _ s => Settled s.notes) :=
  (Has.lift m).conseq (fun _ hs => hs) (fun _ _ hs => hs) fun _ _ hs => hs ▸ h

/-- A step that may fail, and frees then. -/
theorem onFailure_settled {α : Type} (m : PyProgram α) (h : Settled (ws ++ vs)) :
    Triple (Has ws) (onFailure vs (lift m)) (fun _ => Has ws) (fun _ s => Settled s.notes) :=
  (Has.onFailure (Has.lift m)).conseq (fun _ hs => hs) (fun _ _ hs => hs) fun _ _ hs => hs ▸ h

theorem settled_freed (b : Option Block) : Settled (mallocs b ++ frees b) := by
  unfold Settled
  simp

theorem settled_freed_both (b m : Option Block) :
    Settled (mallocs b ++ mallocs m ++ (frees b ++ frees m)) := by
  unfold Settled
  simp

theorem serializeAddress_block (host : HostArg) (port domain : Int) :
    Triple (fun _ => True) (serializeAddress host port domain env)
      (fun r _ => env.block = some r.2) fun _ _ => True := by
  unfold serializeAddress
  cases env.block with
  | none => exact .fail fun _ _ => trivial
  | some block =>
    dsimp only
    split
    · split
      · exact .fail fun _ _ => trivial
      · exact fun _ _ => rfl
      · exact fun _ _ => rfl
    · split
      · split
        · exact .fail fun _ _ => trivial
        · exact fun _ _ => rfl
        · exact fun _ _ => rfl
      · exact .fail fun _ _ => trivial

theorem serializeAddress_notes (host : HostArg) (port domain : Int) :
    Triple (Has []) (Blocks.serializeAddress host port domain env)
      (fun r s => Has (mallocs r.2) s ∧ env.block = some r.2) (fun _ s => Settled s.notes) := by
  refine .bind (Q := fun _ => Has (mallocs env.block)) Has.note fun _ => ?_
  refine (Has.onFailure (Has.lift_of (serializeAddress_block host port domain))).conseq
    (fun _ hs => hs) ?_ fun _ _ hs => hs ▸ settled_freed env.block
  rintro r s ⟨hs, hb⟩
  exact ⟨hb ▸ hs, hb⟩

theorem addressedOperation_notes (call : BlockCall) (self : SocketId) {opcode : Opcode}
    (op : Int → SockAddr → Nat → COp) (host : HostArg) (port : Int) (t : Option PyVal)
    (htakes : ∀ b, env.block = some b → call.Takes env (.sent b))
    (hopcode : opcode = .bind ∨ opcode = .connect ∨ opcode = .sendmsg)
    (hop : ∀ fd addr len, (op fd addr len).call.pointsAtBlocks = true ∧ (op fd addr len).Accepts ∧
      ∀ t, (op fd addr len).linked t = t) :
    Triple (Has []) (Blocks.addressedOperation self opcode op host port t env)
      (fun req s => call.Ready env req s) (fun _ s => Settled s.notes) := by
  refine .bind (lift_settled _ settled_nil) fun r => .bind (lift_settled _ settled_nil) fun _ => ?_
  refine .bind (serializeAddress_notes host port _) fun a => .given fun hb => ?_
  refine .bind (onFailure_settled _ (settled_freed a.2)) fun _ => .pure fun s hs => ?_
  refine ⟨.sent a.2, htakes _ hb, by rw [hs, allocatedBlocks_mallocs]; rfl,
    by rw [hs, freedBlocks_mallocs], rfl, rfl, rfl, rfl, hopcode, rfl,
    fun _ _ he => absurd he (by simp), ?_⟩
  rintro heap op heap1 - hd
  obtain ⟨rfl, rfl⟩ := Prod.mk.inj (Except.ok.inj hd)
  exact hop _ _ _

theorem accept_notes (self : SocketId) (t : Option PyVal) :
    Triple (Has []) (Blocks.accept self t env)
      (fun req s => (BlockCall.accept self t).Ready env req s) (fun _ s => Settled s.notes) := by
  unfold Blocks.accept
  refine .bind (lift_settled _ settled_nil) fun r => .bind (lift_settled _ settled_nil) fun _ => ?_
  refine .bind (lift_settled _ settled_nil) fun _ => ?_
  cases hm : env.msghdr with
  | none => exact .fail fun s hs => hs ▸ settled_nil
  | some addrlen =>
    dsimp only
    refine .bind (Q := fun _ => Has (mallocs addrlen)) Has.note fun _ => ?_
    refine .bind (Q := fun _ => Has (mallocs addrlen ++ mallocs env.block)) Has.note fun _ => ?_
    refine .bind (Has.lift_total getContext_returns) fun c => .pure fun s hs => ?_
    refine ⟨.accepting addrlen env.block, ⟨addrlen, hm, rfl⟩, ?_, ?_, rfl, rfl, rfl, rfl, rfl,
      rfl, fun _ _ he => absurd he (by simp), ?_⟩
    · rw [hs, allocatedBlocks_append, allocatedBlocks_mallocs, allocatedBlocks_mallocs]
      rfl
    · rw [hs, freedBlocks_append, freedBlocks_mallocs, freedBlocks_mallocs]
      rfl
    · rintro heap op heap1 - hd
      change acceptDispatcher _ c.stream env.block heap = _ at hd
      unfold acceptDispatcher at hd
      cases hstream : c.stream with
      | oneshot =>
        rw [hstream] at hd
        obtain ⟨rfl, rfl⟩ := Prod.mk.inj (Except.ok.inj hd)
        exact ⟨rfl, trivial, fun _ => rfl⟩
      | multishot =>
        rw [hstream] at hd
        obtain ⟨rfl, rfl⟩ := Prod.mk.inj (Except.ok.inj hd)
        exact ⟨rfl, trivial, fun _ => rfl⟩

theorem linearCall_eq_ok {p : PayloadId} {call : Ptr → Nat → COp} {heap heap1 : Heap} {op : COp}
    (h : linearCall p call heap = .ok (op, heap1)) : heap1 = heap ∧ ∃ buf len, op = call buf len := by
  obtain ⟨b, -, h⟩ := except_bind_ok h
  obtain ⟨linear, -, h⟩ := except_bind_ok h
  obtain ⟨rfl, rfl⟩ := Prod.mk.inj (Except.ok.inj h)
  exact ⟨rfl, _, _, rfl⟩

theorem sendto_notes (self : SocketId) (host : List Nat) (parsed : Bool) (port domain : Int)
    (isPollFirst : Bool) (t : Option PyVal) :
    Triple (Has []) (Blocks.sendto self host parsed port domain isPollFirst t env)
      (fun req s =>
        (BlockCall.sendto self host parsed port domain isPollFirst t).Ready env req s)
      (fun _ s => Settled s.notes) := by
  refine .bind (lift_settled _ settled_nil) fun r => .bind (lift_settled _ settled_nil) fun _ => ?_
  refine .bind (serializeAddress_notes _ port domain) fun a => .given fun hb => ?_
  refine .bind (onFailure_settled _ (settled_freed a.2)) fun p => ?_
  refine .bind (onFailure_settled _ (settled_freed a.2)) fun _ => .pure fun s hs => ?_
  refine ⟨.sent a.2, ⟨_, hb, rfl⟩, by rw [hs, allocatedBlocks_mallocs]; rfl,
    by rw [hs, freedBlocks_mallocs], rfl, rfl, rfl, rfl, .inr (.inr rfl), rfl,
    fun _ _ he => absurd he (by simp), ?_⟩
  rintro heap op heap1 - hd
  change linearCall p (fun buf len =>
    .sendto r.2 buf len a.1 (getSocketSize domain) isPollFirst) heap = .ok (op, heap1) at hd
  obtain ⟨rfl, buf, len, rfl⟩ := linearCall_eq_ok hd
  exact ⟨rfl, trivial, fun _ => rfl⟩

theorem recvfrom_notes (self : SocketId) (bufsize : Int) (bufferObj : Bool)
    (address : Option (HostArg × Int × Int)) (isPollFirst : Bool) (t : Option PyVal) :
    Triple (Has []) (Blocks.recvfrom self bufsize bufferObj address isPollFirst t env)
      (fun req s =>
        (BlockCall.recvfrom self bufsize bufferObj address isPollFirst t).Ready env req s)
      (fun _ s => Settled s.notes) := by
  unfold Blocks.recvfrom
  refine .bind (lift_settled _ settled_nil) fun r => .bind (lift_settled _ settled_nil) fun _ => ?_
  cases address with
  | none => exact .stop
  | some address =>
    obtain ⟨host, port, domain⟩ := address
    refine .bind (serializeAddress_notes host port domain) fun a => .given fun hb => ?_
    refine .bind (onFailure_settled _ (settled_freed a.2)) fun p => ?_
    cases hm : env.msghdr with
    | none =>
      -- The payload is dropped and the method fails: there is no return to speak of.
      have hfails : Triple (fun _ => True) (do
          dropPayload p
          fail (some ⟨.memoryError, ""⟩) : PyProgram Request) (fun _ _ => False)
          fun _ _ => True :=
        .bind (Q := fun _ _ => True) (.change fun _ _ => trivial) fun _ => .fail fun _ _ => trivial
      refine (Has.onFailure (Has.lift_of hfails)).conseq (fun _ hs => hs) ?_ fun _ _ hs =>
        hs ▸ settled_freed a.2
      exact fun _ _ hs => hs.2.elim
    | some msg =>
      refine .bind (Q := fun _ => Has (mallocs a.2 ++ mallocs msg)) Has.note fun _ => ?_
      refine .bind (onFailure_settled _ (settled_freed_both a.2 msg)) fun _ => .pure fun s hs => ?_
      refine ⟨.receiving a.2 msg, ⟨a.2, msg, hb, hm, rfl⟩, ?_, ?_, rfl, rfl, rfl, rfl, rfl, rfl,
        fun _ _ _ => rfl, ?_⟩
      · rw [hs, allocatedBlocks_append, allocatedBlocks_mallocs, allocatedBlocks_mallocs]
        rfl
      · rw [hs, freedBlocks_append, freedBlocks_mallocs, freedBlocks_mallocs]
        rfl
      · rintro heap op heap1 - hd
        change linearCall p (fun buf len =>
          .recvfrom r.2 buf len a.1 (getSocketSize domain) isPollFirst) heap = .ok (op, heap1) at hd
        obtain ⟨rfl, buf, len, rfl⟩ := linearCall_eq_ok hd
        exact ⟨⟨rfl, rfl⟩, trivial, fun _ => rfl⟩

theorem recvmsg_notes (self : SocketId) (buffersObj isPollFirst : Bool) (t : Option PyVal) :
    Triple (Has []) (Blocks.recvmsg self buffersObj isPollFirst t env)
      (fun req s => (BlockCall.recvmsg self buffersObj isPollFirst t).Ready env req s)
      (fun _ s => Settled s.notes) := by
  unfold Blocks.recvmsg
  refine .bind (lift_settled _ settled_nil) fun r => .bind (lift_settled _ settled_nil) fun _ => ?_
  cases buffersObj with
  | false => exact .stop
  | true =>
    refine .bind (lift_settled _ settled_nil) fun p => ?_
    refine .bind (lift_settled _ settled_nil) fun c => ?_
    refine .bind (lift_settled _ settled_nil) fun _ => ?_
    refine .bind (Q := fun _ => Has (mallocs env.msghdr)) Has.note fun _ => .pure fun s hs => ?_
    refine ⟨.header env.msghdr, rfl, by rw [hs, allocatedBlocks_mallocs]; rfl,
      by rw [hs, freedBlocks_mallocs], rfl, rfl, rfl, rfl, rfl, rfl,
      fun _ _ he => absurd he (by simp), ?_⟩
    intro heap op heap1 hnormal hd
    change recvmsgDispatcher _ p c.stream isPollFirst env.msghdr heap = _ at hd
    obtain ⟨b, hb, hd⟩ := except_bind_ok hd
    have hget : heap.payloads[p]? = some b := by
      unfold payloadAt at hb
      cases hp : heap.payloads[p]? with
      | none =>
        rw [hp] at hb
        exact absurd hb (by simp)
      | some b' =>
        rw [hp] at hb
        exact congrArg some (Except.ok.inj hb)
    rw [hnormal env.msghdr rfl p b rfl hget] at hd
    obtain ⟨vector, -, hd⟩ := except_bind_ok hd
    obtain ⟨rfl, rfl⟩ := Prod.mk.inj (Except.ok.inj hd)
    exact ⟨⟨rfl, rfl⟩, trivial, fun _ => rfl⟩

theorem sendmsgTarget_notes (address : Option (HostArg × Int × Int)) :
    Triple (Has []) (Blocks.sendmsgTarget address env)
      (fun r s => Has (mallocs r.2.2) s ∧ r.1.isSome = r.2.2.isSome ∧
        ((address = none ∧ r.2.2 = none) ∨
          (address.isSome ∧ ∃ b, env.block = some b ∧ r.2.2 = some b)))
      (fun _ s => Settled s.notes) := by
  cases address with
  | none => exact fun s hs => ⟨hs, rfl, .inl ⟨rfl, rfl⟩⟩
  | some address =>
    obtain ⟨host, port, domain⟩ := address
    refine .bind (serializeAddress_notes host port domain) fun a => .given fun hb => .pure ?_
    exact fun s hs => ⟨hs, rfl, .inr ⟨rfl, a.2, hb, rfl⟩⟩

theorem sendmsgDispatcher_eq_ok {fd : Int} {p : PayloadId} {mode : TransferMode}
    {addr : Option SockAddr} {addrlen : Nat} {isPollFirst : Bool} {heap heap1 : Heap} {op : COp}
    (h : sendmsgDispatcher fd p mode addr addrlen isPollFirst heap = .ok (op, heap1)) :
    op.call.pointsAtBlocks = addr.isSome ∧ op.Accepts ∧ ∀ t, op.linked t = t := by
  obtain ⟨b, -, h⟩ := except_bind_ok h
  cases mode with
  | zeroCopy =>
    obtain ⟨⟨i, heap2⟩, -, h⟩ := except_bind_ok h
    obtain ⟨vector, -, h⟩ := except_bind_ok h
    obtain ⟨rfl, rfl⟩ := Prod.mk.inj (Except.ok.inj h)
    exact ⟨rfl, trivial, fun _ => rfl⟩
  | normalTransfer =>
    obtain ⟨vector, -, h⟩ := except_bind_ok h
    obtain ⟨rfl, rfl⟩ := Prod.mk.inj (Except.ok.inj h)
    exact ⟨rfl, trivial, fun _ => rfl⟩

/-- `sendmsg` from its payload on. -/
theorem sendmsg_rest_notes (self : SocketId) (fd : Int) (r : TimeoutParams × Option PyErr)
    (address : Option (HostArg × Int × Int)) (isPollFirst : Bool) (t : Option PyVal)
    {addr : Option SockAddr} {addrlen : Nat} {block : Option Block} (p : PayloadId)
    (haddr : addr.isSome = block.isSome)
    (hblock : (address = none ∧ block = none) ∨
      (address.isSome ∧ ∃ b, env.block = some b ∧ block = some b)) :
    Triple (Has (mallocs block))
      (do
        let context ← lift getContext
        let future ← onFailure (frees block) (lift (createFutureOrDrop (some p) env))
        return { socketRequest self future (some p) .oneshot .sendmsg r
          (sendmsgDispatcher fd p context.transferMode addr addrlen isPollFirst) with
          freeOnFull := block, freeAfter := block } : BlockProgram Request)
      (fun req s => (BlockCall.sendmsg self address isPollFirst t).Ready env req s)
      (fun _ s => Settled s.notes) := by
  refine .bind (Has.lift_total getContext_returns) fun c => ?_
  refine .bind (onFailure_settled _ (settled_freed block)) fun _ => .pure fun s hs => ?_
  refine ⟨.sent block, ?_, by rw [hs, allocatedBlocks_mallocs]; rfl,
    by rw [hs, freedBlocks_mallocs], ?_, rfl, rfl, rfl, .inr (.inr rfl), rfl,
    fun _ _ he => absurd he (by simp), ?_⟩
  · rcases hblock with ⟨ha, rfl⟩ | ⟨ha, b, hb, rfl⟩
    · exact .inl ⟨ha, rfl⟩
    · exact .inr ⟨ha, b, hb, rfl⟩
  · exact List.append_nil _
  · rintro heap op heap1 - hd
    change sendmsgDispatcher fd p c.transferMode addr addrlen isPollFirst heap = _ at hd
    obtain ⟨hp, hx⟩ := sendmsgDispatcher_eq_ok hd
    exact ⟨hp.trans haddr, hx⟩

/-- `sendmsg` up to its address, and up to its payload. -/
def sendmsgAddress (self : SocketId) (address : Option (HostArg × Int × Int)) (t : Option PyVal)
    (env : CallEnv) : PyProgram (Option SockAddr × Nat × Option Block) := do
  let _ ← openSocketMethod self env
  let _ ← parseTimeout t
  sendmsgTarget address env

def sendmsgPayload (self : SocketId) (address : Option (HostArg × Int × Int)) (t : Option PyVal)
    (env : CallEnv) : PyProgram PayloadId := do
  let _ ← sendmsgAddress self address t env
  vectoredPayload true env

/-- The address of a `sendmsg` was serialized and its payload cannot be made. -/
def BlockCall.LosesAddress (call : BlockCall) (env : CallEnv) (l : Loop) : Prop :=
  match call with
  | .sendmsg self address _ t =>
    address.isSome ∧ (sendmsgAddress self address t env).Passes l ∧
      (sendmsgPayload self address t env).Rejects l
  | _ => False

theorem not_settled_mallocs (b : Block) : ¬ Settled (mallocs b) := by
  intro h
  have := h.length_eq
  simp at this

theorem sendmsg_ready {l : Loop} {self : SocketId} {address : Option (HostArg × Int × Int)}
    {isPollFirst : Bool} {t : Option PyVal} {req : Request} {s : Noted Loop BlockEvent}
    (h : Blocks.sendmsg self address isPollFirst t env ⟨l, []⟩ = .ok (.ok req, s)) :
    (BlockCall.sendmsg self address isPollFirst t).Ready env req s := by
  have hspec : Triple (Has []) (Blocks.sendmsg self address isPollFirst t env)
      (fun req s => (BlockCall.sendmsg self address isPollFirst t).Ready env req s)
      (fun _ _ => True) := by
    refine .bind ((Has.lift _).conseq (fun _ hs => hs) (fun _ _ hs => hs) fun _ _ _ => trivial)
      fun r => ?_
    refine .bind ((Has.lift _).conseq (fun _ hs => hs) (fun _ _ hs => hs) fun _ _ _ => trivial)
      fun _ => ?_
    refine .bind ((sendmsgTarget_notes address).conseq (fun _ hs => hs) (fun _ _ hs => hs)
      fun _ _ _ => trivial) fun a => .given fun ⟨haddr, hblock⟩ => ?_
    refine .bind ((Has.lift _).conseq (fun _ hs => hs) (fun _ _ hs => hs) fun _ _ _ => trivial)
      fun p => ?_
    exact (sendmsg_rest_notes self r.2 _ address isPollFirst t p haddr hblock).conseq
      (fun _ hs => hs) (fun _ _ hs => hs) fun _ _ _ => trivial
  exact hspec.returned (.start l) h

/-- A `sendmsg` that fails frees its address, except where it gets no payload. -/
theorem sendmsg_failed {l : Loop} {self : SocketId} {address : Option (HostArg × Int × Int)}
    {isPollFirst : Bool} {t : Option PyVal} {x : Option PyErr} {s : Noted Loop BlockEvent}
    (h : Blocks.sendmsg self address isPollFirst t env ⟨l, []⟩ = .ok (.error x, s)) :
    Settled s.notes ↔ ¬ (BlockCall.sendmsg self address isPollFirst t).LosesAddress env l := by
  -- An exit before the payload: the address does not pass.
  have hearly : ∀ {x : Option PyErr} {l' : Loop},
      sendmsgAddress self address t env l = .ok (.error x, l') → Settled s.notes →
      (Settled s.notes ↔ ¬ (BlockCall.sendmsg self address isPollFirst t).LosesAddress env l) := by
    intro x l' hx hs
    refine ⟨fun _ hloss => ?_, fun _ => hs⟩
    obtain ⟨a, t', ha⟩ := hloss.2.1
    exact absurd (hx.symm.trans ha) (by simp)
  rcases bind_eq_ok h with ⟨x1, t1, h1, he⟩ | ⟨r, t1, h1, h⟩
  · obtain ⟨-, rfl⟩ := Prod.mk.inj he
    exact hearly (bind_failed ((Erases.lift _).run h1))
      ((lift_settled _ settled_nil).failed (.start l) h1)
  have hn1 := (Has.lift _).returned (.start l) h1
  have hr1 := (Erases.lift _).run h1
  rcases bind_eq_ok h with ⟨x2, t2, h2, he⟩ | ⟨r2, t2, h2, h⟩
  · obtain ⟨-, rfl⟩ := Prod.mk.inj he
    exact hearly ((bind_returned hr1).trans (bind_failed ((Erases.lift _).run h2)))
      ((lift_settled _ settled_nil).failed hn1 h2)
  have hn2 := (Has.lift _).returned hn1 h2
  have hr2 := (Erases.lift _).run h2
  rcases bind_eq_ok h with ⟨x3, t3, h3, he⟩ | ⟨a, t3, h3, h⟩
  · obtain ⟨-, rfl⟩ := Prod.mk.inj he
    have hr3 := (sendmsgTarget_erases address).run h3
    exact hearly ((bind_returned hr1).trans ((bind_returned hr2).trans hr3))
      ((sendmsgTarget_notes address).failed hn2 h3)
  obtain ⟨hn3, haddr, hblock⟩ := (sendmsgTarget_notes address).returned hn2 h3
  have hr3 := (sendmsgTarget_erases address).run h3
  have hpass : sendmsgAddress self address t env l = .ok (.ok a, t3.state) :=
    (bind_returned hr1).trans ((bind_returned hr2).trans hr3)
  rcases bind_eq_ok h with ⟨x4, t4, h4, he⟩ | ⟨p, t4, h4, h⟩
  · -- There is no payload: what was allocated is lost.
    obtain ⟨-, rfl⟩ := Prod.mk.inj he
    have hn4 := (Has.lift _).failed hn3 h4
    have hrej : (sendmsgPayload self address t env).Rejects l :=
      ⟨_, _, (bind_returned hpass).trans ((Erases.lift _).run h4)⟩
    rcases hblock with ⟨ha, hb⟩ | ⟨ha, b, -, hb⟩
    · refine ⟨fun _ hloss => ?_, fun _ => ?_⟩
      · rw [ha] at hloss
        exact absurd hloss.1 (by simp)
      · rw [hn4, hb]
        exact settled_nil
    · refine ⟨fun hs => ?_, fun hloss => absurd ⟨ha, ⟨_, _, hpass⟩, hrej⟩ hloss⟩
      rw [hn4, hb] at hs
      exact absurd hs (not_settled_mallocs b)
  · have hn4 := (Has.lift _).returned hn3 h4
    have hpays : (sendmsgPayload self address t env).Passes l :=
      ⟨_, _, (bind_returned hpass).trans ((Erases.lift _).run h4)⟩
    have hs := (sendmsg_rest_notes self r.2 r2 address isPollFirst t p haddr hblock).failed hn4 h
    exact ⟨fun _ hloss => hloss.2.2.not_passes hpays, fun _ => hs⟩

/-- A call that gets ready has lost no address. -/
theorem BlockCall.not_losesAddress (call : BlockCall) {l : Loop}
    (h : (call.opCall.prepare env).Passes l) : ¬ call.LosesAddress env l := by
  cases call with
  | sendmsg self address isPollFirst t =>
    rintro ⟨-, -, hrej⟩
    obtain ⟨req, t5, h⟩ := h
    refine hrej.not_passes ?_
    rcases bind_eq_ok h with ⟨x, t1, -, he⟩ | ⟨r, t1, h1, h⟩
    · exact absurd (Prod.mk.inj he).1 (by simp)
    rcases bind_eq_ok h with ⟨x, t2, -, he⟩ | ⟨r2, t2, h2, h⟩
    · exact absurd (Prod.mk.inj he).1 (by simp)
    rcases bind_eq_ok h with ⟨x, t3, -, he⟩ | ⟨a, t3, h3, h⟩
    · exact absurd (Prod.mk.inj he).1 (by simp)
    rcases bind_eq_ok h with ⟨x, t4, -, he⟩ | ⟨p, t4, h4, h⟩
    · exact absurd (Prod.mk.inj he).1 (by simp)
    have haddr : sendmsgAddress self address t env l = .ok (.ok a, t3) :=
      (bind_returned h1).trans ((bind_returned h2).trans h3)
    exact ⟨p, t4, (bind_returned haddr).trans h4⟩
  | bind _ _ _ _ _ | connect _ _ _ _ _ | accept _ _ | sendto _ _ _ _ _ _ _
  | recvfrom _ _ _ _ _ _ | recvmsg _ _ _ _ => exact id

theorem getOrCreateLinearBuffer_linear {heap heap1 : Heap} {context : Option PayloadId}
    {buffersObj : Bool} {bufsize : Int} {buffers : BufferEnv} {p : PayloadId}
    (h : getOrCreateLinearBuffer heap context buffersObj bufsize buffers = .ok (some p, heap1)) :
    ∃ b, heap1.payloads[p]? = some b ∧ b.payloadType = .payloadLinear := by
  unfold getOrCreateLinearBuffer at h
  cases hc : (if buffersObj then none else contextLinear heap context) with
  | some q =>
    rw [hc] at h
    obtain ⟨hq, rfl⟩ := Prod.mk.inj (Except.ok.inj h)
    obtain rfl := Option.some.inj hq
    cases buffersObj with
    | true => exact absurd hc (by simp)
    | false =>
      obtain ⟨-, hany⟩ := Option.filter_eq_some_iff.mp hc
      obtain ⟨b, hb, hlin⟩ := (Option.any_eq_true _ _).mp hany
      exact ⟨b, hb, eq_of_beq (Bool.and_eq_true_iff.mp hlin).1⟩
  | none =>
    rw [hc] at h
    dsimp only at h
    split at h
    · exact absurd (Prod.mk.inj (Except.ok.inj h)).1 (by simp)
    · split at h
      · exact absurd h (by simp)
      · obtain ⟨hq, rfl⟩ := Prod.mk.inj (Except.ok.inj h)
        obtain rfl := Option.some.inj hq
        refine ⟨_, List.getElem?_concat_length, rfl⟩

/-- The payload of a `recvfrom` is linear, also where it is that of the context. -/
theorem linearPayload_linear (bufferObj : Bool) (bufsize : Int) :
    Triple (fun _ => True) (linearPayload bufferObj bufsize env)
      (fun p s => ∃ b, s.heap.payloads[p]? = some b ∧ b.payloadType = .payloadLinear)
      fun _ _ => True := by
  refine .bind (Q := fun _ _ => True) (getContext_returns.conseq (fun _ _ => trivial)
    (fun _ _ _ => trivial) fun _ _ h => h.elim) fun c => ?_
  refine .bind (Q := fun x s => ∀ p, x = some p →
    ∃ b, s.heap.payloads[p]? = some b ∧ b.payloadType = .payloadLinear) ?_ fun x => ?_
  · intro s _
    dsimp only
    cases he : getOrCreateLinearBuffer s.heap c.bufferPayload bufferObj bufsize env.buffers with
    | error e => trivial
    | ok r =>
      rintro p hp
      refine getOrCreateLinearBuffer_linear (he.trans ?_)
      exact congrArg _ (Prod.ext hp rfl)
  · cases x with
    | none => exact .fail fun _ _ => trivial
    | some p => exact fun s hs => hs p rfl

theorem recvfrom_linear (self : SocketId) (bufsize : Int) (bufferObj : Bool)
    (address : Option (HostArg × Int × Int)) (isPollFirst : Bool) (t : Option PyVal) :
    Triple (fun _ => True)
      (UringioSocket.recvfrom self bufsize bufferObj address isPollFirst t env)
      (fun req s => ∃ p b, req.registration.bufferPayload = some p ∧
        s.heap.payloads[p]? = some b ∧ b.payloadType = .payloadLinear)
      fun _ _ => True := by
  have hanyway : ∀ {α : Type} (m : PyProgram α),
      Triple (fun _ => True) m (fun _ _ => True) fun _ _ => True := fun _ => .top
  refine .bind (hanyway _) fun r => .bind (hanyway _) fun _ => ?_
  cases address with
  | none => exact .stop
  | some address =>
    obtain ⟨host, port, domain⟩ := address
    refine .bind (hanyway _) fun a => .bind (linearPayload_linear bufferObj bufsize) fun p => ?_
    cases env.msghdr with
    | none =>
      exact .bind (Q := fun _ _ => True) (.change fun _ _ => trivial) fun _ =>
        .fail fun _ _ => trivial
    | some msg =>
      refine .bind (Q := fun _ s =>
        ∃ b, s.heap.payloads[p]? = some b ∧ b.payloadType = .payloadLinear) ?_ fun _ => .pure ?_
      · unfold createFutureOrDrop
        cases env.future with
        | none =>
          refine .bind (Q := fun _ s =>
            ∃ b, s.heap.payloads[p]? = some b ∧ b.payloadType = .payloadLinear)
            (.check (fun _ _ _ _ => trivial) fun _ _ hs => hs) fun _ => .change fun _ hs => hs
        | some e =>
          exact .bind (Q := fun _ _ => True) (.change fun _ _ => trivial) fun _ =>
            .fail fun _ _ => trivial
      · rintro s ⟨b, hb, ht⟩
        exact ⟨p, b, rfl, hb, ht⟩

/-- A call that gets ready has its blocks. -/
theorem BlockCall.prepare_ready (call : BlockCall) {l : Loop} {req : Request}
    {s : Noted Loop BlockEvent} (h : call.prepare env ⟨l, []⟩ = .ok (.ok req, s)) :
    call.Ready env req s := by
  cases call with
  | bind self host parsed port t =>
    exact (addressedOperation_notes (.bind self host parsed port t) self .bind _ port t
      (fun b hb => ⟨b, hb, rfl⟩) (.inl rfl) fun _ _ _ => ⟨rfl, trivial, fun _ => rfl⟩).returned (.start l) h
  | connect self host parsed port t =>
    exact (addressedOperation_notes (.connect self host parsed port t) self .connect _ port t
      (fun b hb => ⟨b, hb, rfl⟩) (.inr (.inl rfl))
      fun _ _ _ => ⟨rfl, trivial, fun _ => rfl⟩).returned (.start l) h
  | accept self t => exact (accept_notes self t).returned (.start l) h
  | sendto self host parsed port domain isPollFirst t =>
    exact (sendto_notes self host parsed port domain isPollFirst t).returned (.start l) h
  | recvfrom self bufsize bufferObj address isPollFirst t =>
    exact (recvfrom_notes self bufsize bufferObj address isPollFirst t).returned (.start l) h
  | sendmsg self address isPollFirst t => exact sendmsg_ready h
  | recvmsg self buffersObj isPollFirst t =>
    exact (recvmsg_notes self buffersObj isPollFirst t).returned (.start l) h

/-- A call that fails before its submission frees what it allocated, but for the address that
    a `sendmsg` loses. -/
theorem BlockCall.prepare_failed (call : BlockCall) {l : Loop} {x : Option PyErr}
    {s : Noted Loop BlockEvent} (h : call.prepare env ⟨l, []⟩ = .ok (.error x, s)) :
    Settled s.notes ↔ ¬ call.LosesAddress env l := by
  cases call with
  | bind self host parsed port t =>
    exact iff_of_true ((addressedOperation_notes (.bind self host parsed port t) self .bind _ port t
      (fun b hb => ⟨b, hb, rfl⟩) (.inl rfl)
      fun _ _ _ => ⟨rfl, trivial, fun _ => rfl⟩).failed (.start l) h) id
  | connect self host parsed port t =>
    exact iff_of_true ((addressedOperation_notes (.connect self host parsed port t) self .connect _ port t
      (fun b hb => ⟨b, hb, rfl⟩) (.inr (.inl rfl))
      fun _ _ _ => ⟨rfl, trivial, fun _ => rfl⟩).failed (.start l) h) id
  | accept self t => exact iff_of_true ((accept_notes self t).failed (.start l) h) id
  | sendto self host parsed port domain isPollFirst t =>
    exact iff_of_true ((sendto_notes self host parsed port domain isPollFirst t).failed (.start l) h) id
  | recvfrom self bufsize bufferObj address isPollFirst t =>
    exact iff_of_true
      ((recvfrom_notes self bufsize bufferObj address isPollFirst t).failed (.start l) h) id
  | sendmsg self address isPollFirst t => exact sendmsg_failed h
  | recvmsg self buffersObj isPollFirst t =>
    exact iff_of_true ((recvmsg_notes self buffersObj isPollFirst t).failed (.start l) h) id

end Calls

end Uringio
