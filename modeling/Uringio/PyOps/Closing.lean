/-
  Which operations submit a close, and what a call does to the closed flag of its object.

  The dispatcher of a call comes to a close operation of the C layer exactly when the call
  is a `close` or an `__aexit__` (`OpCall.prepare_submits`). The flag is set before the
  submission and taken back when it fails; `File.close` leaves it to the completion
  (`OpCall.run_flags`).
-/
import Uringio.PyOps.Run

namespace Uringio

open Lib Program

/-! ## Closes -/

/-- The SQE closes a descriptor. -/
def PrepCall.isClose : PrepCall → Bool
  | .close _ => true
  | _ => false

/-- The operation of the C layer closes a descriptor. -/
def COp.closes : COp → Bool
  | .closeFile _ | .closeSocket _ => true
  | _ => false

theorem COp.isClose_call (op : COp) : op.call.isClose = op.closes := by
  cases op
  case timer timerParams =>
    cases timerParams with
    | none => rfl
    | some t => rfl
  all_goals rfl

/-- Whatever the dispatcher comes to satisfies `P`. -/
def Returns (P : COp → Prop) (x : Except Stop (COp × Heap)) : Prop :=
  ∀ op heap, x = .ok (op, heap) → P op

/-- Whatever request the operation comes to satisfies `P`. -/
def ComesTo (P : Request → Prop) (program : PyProgram Request) : Prop :=
  ∀ l req l', program l = .ok (.ok req, l') → P req

theorem Returns.ok {P : COp → Prop} {op : COp} {heap : Heap} (h : P op) :
    Returns P (.ok (op, heap)) := by
  intro op' heap' he
  obtain ⟨rfl, -⟩ := Prod.mk.inj (Except.ok.inj he)
  exact h

theorem Returns.bind {α : Type} {P : COp → Prop} {x : Except Stop α}
    {f : α → Except Stop (COp × Heap)} (h : ∀ a, Returns P (f a)) : Returns P (x >>= f) := by
  intro op heap he
  obtain ⟨a, -, ha⟩ := except_bind_ok he
  exact h a op heap ha

namespace ComesTo

variable {P : Request → Prop}

theorem pure {req : Request} (h : P req) : ComesTo P (Pure.pure req) := by
  intro l req' l' he
  obtain ⟨hreq, -⟩ := Prod.mk.inj (Except.ok.inj he)
  obtain rfl := Except.ok.inj hreq
  exact h

theorem fail (x : Option PyErr) : ComesTo P (Program.fail x) := by
  intro l req l' he
  exact absurd (Prod.mk.inj (Except.ok.inj he)).1 (by simp)

theorem stop (e : Stop) : ComesTo P (Program.stop e) :=
  fun _ _ _ he => absurd he (by simp [Program.stop])

theorem bind {α : Type} {m : PyProgram α} {f : α → PyProgram Request}
    (h : ∀ a, ComesTo P (f a)) : ComesTo P (m >>= f) := by
  intro l req l' he
  rcases bind_eq_ok he with ⟨x, t, -, hx⟩ | ⟨a, t, -, ha⟩
  · exact absurd (Prod.mk.inj hx).1 (by simp)
  · exact h a t req l' ha

end ComesTo

/-- The dispatcher of the request comes to a close, or to none. -/
def Request.Submits (closes : Bool) (req : Request) : Prop :=
  ∀ heap, Returns (fun op => op.closes = closes) (req.dispatch heap)

/-! ## The dispatchers -/

section Dispatchers

variable {payload : PayloadId} {heap : Heap} {fd : Int}

theorem readDispatcher_keepsOpen (stream : StreamStrategy) (size offset : Int) :
    Returns (fun op => op.closes = false)
      (readDispatcher fd payload stream size offset heap) := by
  refine .bind fun b => ?_
  split
  · exact .bind fun _ => .bind fun _ => .ok rfl
  · split
    · exact .ok rfl
    · exact .ok rfl
  · split
    · exact .ok rfl
    · exact .ok rfl
  · exact .bind fun _ => .ok rfl
  · exact .bind fun _ => .ok rfl

theorem readvDispatcher_keepsOpen (offset : Int) (nowait : Bool) :
    Returns (fun op => op.closes = false) (readvDispatcher fd payload offset nowait heap) := by
  refine .bind fun b => ?_
  split
  all_goals exact .bind fun _ => .ok rfl

theorem writeDispatcher_keepsOpen (offset : Int) :
    Returns (fun op => op.closes = false) (writeDispatcher fd payload offset heap) := by
  refine .bind fun b => ?_
  split
  · exact .bind fun _ => .bind fun _ => .ok rfl
  all_goals exact .bind fun _ => .ok rfl

theorem acceptDispatcher_keepsOpen (stream : StreamStrategy) (addr : Option Block) :
    Returns (fun op => op.closes = false) (acceptDispatcher fd stream addr heap) := by
  unfold acceptDispatcher
  split
  · exact .ok rfl
  · exact .ok rfl

theorem recvDispatcher_keepsOpen (stream : StreamStrategy) (isPollFirst : Bool) :
    Returns (fun op => op.closes = false)
      (recvDispatcher fd payload stream isPollFirst heap) := by
  refine .bind fun b => .bind fun _ => ?_
  split
  · split
    · exact .ok rfl
    · exact .ok rfl
  · split
    · exact .ok rfl
    · exact .ok rfl
  all_goals exact .ok rfl

theorem recvmsgDispatcher_keepsOpen (stream : StreamStrategy) (isPollFirst : Bool)
    (msghdr : Option Block) : Returns (fun op => op.closes = false)
      (recvmsgDispatcher fd payload stream isPollFirst msghdr heap) := by
  refine .bind fun b => ?_
  split
  · split
    · exact .ok rfl
    · exact .ok rfl
  · split
    · exact .ok rfl
    · exact .ok rfl
  all_goals exact .bind fun _ => .ok rfl

theorem sendDispatcher_keepsOpen (transferMode : TransferMode) (isPollFirst : Bool) :
    Returns (fun op => op.closes = false)
      (sendDispatcher fd payload transferMode isPollFirst heap) := by
  refine .bind fun b => ?_
  split
  · split
    · exact .bind fun _ => .bind fun _ => .ok rfl
    · exact .bind fun _ => .ok rfl
  · exact .bind fun _ => .ok rfl

theorem sendmsgDispatcher_keepsOpen (transferMode : TransferMode) (addr : Option SockAddr)
    (addrlen : Nat) (isPollFirst : Bool) : Returns (fun op => op.closes = false)
      (sendmsgDispatcher fd payload transferMode addr addrlen isPollFirst heap) := by
  refine .bind fun b => ?_
  split
  · exact .bind fun _ => .bind fun _ => .ok rfl
  · exact .bind fun _ => .ok rfl

end Dispatchers

/-! ## The operations -/

section Operations

variable {env : CallEnv}

/-- The operations without a payload: what they submit is what they are given. -/
theorem fileOperation_submits (self : FileId) (opcode : Opcode) {op : Int → COp}
    (t : Option PyVal) (h : ∀ fd, (op fd).closes = false) :
    ComesTo (Request.Submits false) (fileOperation self opcode op t env) :=
  .bind fun _ => .bind fun _ => .bind fun _ => .pure fun _ => .ok (h _)

theorem addressedOperation_submits (self : SocketId) (opcode : Opcode)
    {op : Int → SockAddr → Nat → COp} (host : HostArg) (port : Int) (t : Option PyVal)
    (h : ∀ fd addr n, (op fd addr n).closes = false) :
    ComesTo (Request.Submits false) (addressedOperation self opcode op host port t env) :=
  .bind fun _ => .bind fun _ => .bind fun _ => .bind fun _ => .pure fun _ => .ok (h _ _ _)

/-- `readv_raw` and `writev_raw`. -/
theorem rawOperation_submits (self : FileId) (iovecs : Except PyErr (List Iovec))
    (t : Option PyVal) {opcode : Opcode} {op : Int → List Iovec → Nat → COp}
    (h : ∀ fd iovecs n, (op fd iovecs n).closes = false) :
    ComesTo (Request.Submits false) (do
      let fd ← openFileMethod self env
      let t ← parseTimeout t
      match iovecs with
      | .error e => fail (some e)
      | .ok iovecs =>
        let payload ← pybufferPayload iovecs env
        let future ← createFutureOrDrop payload env
        return fileRequest self future payload .oneshot opcode t
          (vectoredCall payload fun iovecs nrVecs => op fd iovecs nrVecs)) := by
  refine .bind fun fd => .bind fun _ => ?_
  cases iovecs with
  | error e => exact .fail _
  | ok iovecs =>
    exact .bind fun _ => .bind fun _ => .pure fun _ =>
      .bind fun _ => .bind fun _ => .ok (h fd _ _)

theorem open_submits (dfd : Int) (path : Except PyErr String) (flags resolve mode : Int)
    (t : Option PyVal) :
    ComesTo (Request.Submits false) (uringioOpen dfd path flags resolve mode t env) := by
  refine .bind fun _ => .bind fun _ => .bind fun _ => .bind fun _ => .bind fun _ => ?_
  cases path with
  | error e => exact .fail _
  | ok path => exact .bind fun _ => .bind fun _ => .bind fun _ => .pure fun _ => .ok rfl

theorem readv_submits (self : FileId) (buffersObj : Bool) (offset : Int) (nowait : Bool)
    (t : Option PyVal) : ComesTo (Request.Submits false)
      (UringioFile.readv self buffersObj offset nowait t env) := by
  refine .bind fun _ => .bind fun _ => .bind fun selected => ?_
  cases selected with
  | some p =>
    exact .bind fun _ => .bind fun _ => .pure fun _ => readvDispatcher_keepsOpen offset nowait
  | none =>
    exact .bind fun _ => .bind fun _ => .pure fun _ => readvDispatcher_keepsOpen offset nowait

theorem accept_submits (self : SocketId) (t : Option PyVal) :
    ComesTo (Request.Submits false) (UringioSocket.accept self t env) := by
  refine .bind fun _ => .bind fun _ => .bind fun _ => ?_
  cases env.msghdr with
  | none => exact .fail _
  | some addrlen => exact .bind fun _ => .pure fun _ => acceptDispatcher_keepsOpen _ _

theorem recvfrom_submits (self : SocketId) (bufsize : Int) (bufferObj : Bool)
    (address : Option (HostArg × Int × Int)) (isPollFirst : Bool) (t : Option PyVal) :
    ComesTo (Request.Submits false)
      (UringioSocket.recvfrom self bufsize bufferObj address isPollFirst t env) := by
  refine .bind fun _ => .bind fun _ => ?_
  cases address with
  | none => exact .stop _
  | some a =>
    refine .bind fun _ => .bind fun _ => ?_
    cases env.msghdr with
    | none => exact .bind fun _ => .fail _
    | some msg =>
      refine .bind fun _ => .pure fun _ => ?_
      exact .bind fun _ => .bind fun _ => .ok rfl

theorem recvmsg_submits (self : SocketId) (buffersObj isPollFirst : Bool) (t : Option PyVal) :
    ComesTo (Request.Submits false)
      (UringioSocket.recvmsg self buffersObj isPollFirst t env) := by
  refine .bind fun _ => .bind fun _ => ?_
  cases buffersObj with
  | false => exact .stop _
  | true =>
    exact .bind fun _ => .bind fun _ => .bind fun _ => .pure fun _ =>
      recvmsgDispatcher_keepsOpen _ _ _

/-- The dispatcher comes to a close exactly for a close. -/
theorem OpCall.prepare_submits (call : OpCall) (env : CallEnv) :
    ComesTo (Request.Submits (call.opcode == .close)) (call.prepare env) := by
  cases call with
  | «open» dfd path flags resolve mode t => exact open_submits dfd path flags resolve mode t
  | fileAexit self => exact .bind fun _ => .bind fun _ => .bind fun _ => .pure fun _ => .ok rfl
  | fileClose self t =>
    exact .bind fun _ => .bind fun _ => .bind fun _ => .pure fun _ => .ok rfl
  | read self offset size t =>
    exact .bind fun _ => .bind fun _ => .bind fun _ => .bind fun _ => .bind fun _ =>
      .pure fun _ => readDispatcher_keepsOpen _ _ _
  | readv self buffersObj offset nowait t => exact readv_submits self buffersObj offset nowait t
  | readvRaw self iovecs offset nowait t =>
    exact rawOperation_submits self iovecs t fun _ _ _ => rfl
  | write self offset t =>
    exact .bind fun _ => .bind fun _ => .bind fun _ => .bind fun _ => .pure fun _ =>
      writeDispatcher_keepsOpen _
  | writev self flags offset t =>
    refine .bind fun _ => .bind fun _ => .bind fun _ => .bind fun _ => .pure fun _ => ?_
    exact .bind fun _ => .bind fun _ => .ok rfl
  | writevRaw self iovecs flags offset t =>
    exact rawOperation_submits self iovecs t fun _ _ _ => rfl
  | fsync self t => exact fileOperation_submits self _ t fun _ => rfl
  | fdatasync self t => exact fileOperation_submits self _ t fun _ => rfl
  | splice self src dst count offsetSrc offsetDst flag t =>
    exact fileOperation_submits self _ t fun _ => rfl
  | prepSocket domain socktype t =>
    exact .bind fun _ => .bind fun _ => .bind fun _ => .bind fun _ => .bind fun _ =>
      .bind fun _ => .bind fun _ => .bind fun _ => .pure fun _ => .ok rfl
  | socketAexit self => exact .bind fun _ => .bind fun _ => .bind fun _ => .pure fun _ => .ok rfl
  | bind self host parsed port t =>
    exact addressedOperation_submits self _ _ port t fun _ _ _ => rfl
  | connect self host parsed port t =>
    exact addressedOperation_submits self _ _ port t fun _ _ _ => rfl
  | listen self backlog t =>
    exact .bind fun _ => .bind fun _ => .bind fun _ => .pure fun _ => .ok rfl
  | accept self t => exact accept_submits self t
  | socketClose self t =>
    exact .bind fun _ => .bind fun _ => .bind fun _ => .pure fun _ => .ok rfl
  | send self isPollFirst t =>
    exact .bind fun _ => .bind fun _ => .bind fun _ => .bind fun _ => .bind fun _ =>
      .pure fun _ => sendDispatcher_keepsOpen _ _
  | recv self bufsize bufferObj isPollFirst t =>
    exact .bind fun _ => .bind fun _ => .bind fun _ => .bind fun _ => .bind fun _ =>
      .pure fun _ => recvDispatcher_keepsOpen _ _
  | sendto self host parsed port domain isPollFirst t =>
    refine .bind fun _ => .bind fun _ => .bind fun _ => .bind fun _ => .bind fun _ =>
      .pure fun _ => ?_
    exact .bind fun _ => .bind fun _ => .ok rfl
  | recvfrom self bufsize bufferObj address isPollFirst t =>
    exact recvfrom_submits self bufsize bufferObj address isPollFirst t
  | sendmsg self address isPollFirst t =>
    exact .bind fun _ => .bind fun _ => .bind fun _ => .bind fun _ => .bind fun _ =>
      .bind fun _ => .pure fun _ => sendmsgDispatcher_keepsOpen _ _ _ _
  | recvmsg self buffersObj isPollFirst t => exact recvmsg_submits self buffersObj isPollFirst t
  | timer timerParams =>
    exact .bind fun _ => .bind fun _ => .bind fun _ => .bind fun _ => .bind fun _ =>
      .bind fun _ => .pure fun _ => .ok rfl

end Operations

/-! ## The closed flag -/

/-- The object whose method is called. -/
def OpCall.self (call : OpCall) : Option ClosedFlag :=
  match call.onFile, call.onSocket with
  | some id, _ => some (.file id)
  | none, some id => some (.socket id)
  | none, none => none

/-- The closed flag of an object. -/
def Loop.closedFlag (l : Loop) : ClosedFlag → Option Bool
  | .file id => (l.files[id]?).map UringioFile.closed
  | .socket id => (l.sockets[id]?).map UringioSocket.closed

section Flags

variable {l l1 : Loop} {obj : ClosedFlag}

theorem Loop.closedFlag_congr (hf : l1.files = l.files) (hs : l1.sockets = l.sockets) :
    l1.closedFlag obj = l.closedFlag obj := by
  cases obj with
  | file id => exact congrArg (fun xs : List UringioFile => (xs[id]?).map UringioFile.closed) hf
  | socket id =>
    exact congrArg (fun xs : List UringioSocket => (xs[id]?).map UringioSocket.closed) hs

theorem Loop.closedFlag_grow (g : Grown) (h : (l.closedFlag obj).isSome) :
    (l.grow g).closedFlag obj = l.closedFlag obj := by
  cases obj with
  | file id =>
    have hlt : id < l.files.length := by simpa [Loop.closedFlag] using h
    show ((l.files ++ g.files)[id]?).map UringioFile.closed = _
    rw [List.getElem?_append_left hlt]
    rfl
  | socket id =>
    have hlt : id < l.sockets.length := by simpa [Loop.closedFlag] using h
    show ((l.sockets ++ g.sockets)[id]?).map UringioSocket.closed = _
    rw [List.getElem?_append_left hlt]
    rfl

theorem Loop.closedFlag_setClosed (closed : Bool) (flag : Option ClosedFlag)
    (h : (l.closedFlag obj).isSome) : (l.setClosed closed flag).closedFlag obj =
      if flag = some obj then some closed else l.closedFlag obj := by
  obtain ⟨b, hb⟩ := Option.isSome_iff_exists.mp h
  cases flag with
  | none => rfl
  | some f =>
    cases f with
    | file i =>
      cases obj with
      | socket id => rfl
      | file id =>
        obtain ⟨x, hx, -⟩ := Option.map_eq_some_iff.mp hb
        show ((l.files.modify i _)[id]?).map UringioFile.closed = _
        rw [List.getElem?_modify, hx]
        by_cases hi : i = id
        · simp [hi]
        · simp [hi, Loop.closedFlag, hx]
    | socket i =>
      cases obj with
      | file id => rfl
      | socket id =>
        obtain ⟨x, hx, -⟩ := Option.map_eq_some_iff.mp hb
        show ((l.sockets.modify i _)[id]?).map UringioSocket.closed = _
        rw [List.getElem?_modify, hx]
        by_cases hi : i = id
        · simp [hi]
        · simp [hi, Loop.closedFlag, hx]

/-- A method other than `__aexit__` has found the flag of its object unset. -/
theorem OpCall.Ready.closedFlag {call : OpCall} (h : call.Ready l) (hs : call.self = some obj) :
    ∃ b, l.closedFlag obj = some b ∧ (call.isAexit = false → b = false) := by
  unfold OpCall.self at hs
  split at hs
  · rename_i id hf
    obtain rfl := Option.some.inj hs
    obtain ⟨fd, file, hfd, hc⟩ := h.file id hf
    exact ⟨file.closed, Option.map_eq_some_iff.mpr ⟨file, hfd.1, rfl⟩, hc⟩
  · rename_i id _ hf
    obtain rfl := Option.some.inj hs
    obtain ⟨fd, sock, hfd, hc⟩ := h.socket id hf
    exact ⟨sock.closed, Option.map_eq_some_iff.mpr ⟨sock, hfd.1, rfl⟩, hc⟩
  · exact absurd hs (by simp)

end Flags

end Uringio
