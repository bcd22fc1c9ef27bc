/-
  NULL and exceptions of the operations.

  The interpreter takes a NULL without an exception, and a result with one, for an internal
  error. An operation keeps the two together when every helper that it calls after its
  timeout parameters raises where it fails, and when the timeout parameters have left no
  exception behind that nobody looked at (`coherent_of_clean`).
-/
import Uringio.PyOps.Raising

namespace Uringio

open Lib Program

namespace Fetched

/-- `create_buffer_payload_from_pybuffer` of an argument that may be no buffer. -/
def raw (iovecs : Except PyErr (List Iovec)) (env : BufferEnv) : Fetched :=
  match iovecs with
  | .error _ => .raises
  | .ok _ => if env.payload = false then .raises else .done

/-- The payload of `readv`, which in a PROVIDED or BUF_RING context is that of the context. -/
def selected (env : BufferEnv) : Fetched := if env.payload = false then .silent else .done

/-- The address of `sendmsg`, where there is one. -/
def target (address : Option (HostArg × Int × Int)) : Fetched :=
  match address with
  | none => .done
  | some (host, _, domain) => .address host domain

theorem raw_proper {iovecs : Except PyErr (List Iovec)} {env : BufferEnv} :
    (raw iovecs env).Proper := by
  unfold raw Proper
  cases iovecs with
  | error e => simp
  | ok iovecs => cases env.payload <;> simp

theorem selected_proper {env : BufferEnv} : (selected env).Proper ↔ env.payload = true := by
  unfold selected Proper
  cases env.payload <;> simp

theorem selected_done {env : BufferEnv} (h : env.payload = true) : selected env = .done := by
  simp [selected, h]

theorem raw_done {iovecs : List Iovec} {env : BufferEnv} (h : env.payload = true) :
    raw (.ok iovecs) env = .done := by
  simp [raw, h]

end Fetched

namespace OpCall

/-- What the helpers of the operation come to, on a Socket of the domain, and in a context
    that serves a request without buffers of its own or does not. -/
def fetches (call : OpCall) (served : Bool) (buffers : BufferEnv) (domain : Int) : Fetched :=
  match call with
  | .open _ path _ _ _ _ =>
    match path with
    | .error _ => .raises
    | .ok _ => .done
  | .read _ _ size _ => .orServed served (.linear false size buffers)
  | .readv _ _ _ _ _ => .orServed served (.selected buffers)
  | .readvRaw _ iovecs _ _ _ | .writevRaw _ iovecs _ _ _ => .raw iovecs buffers
  | .write _ _ _ | .send _ _ _ => .data buffers
  | .writev _ _ _ _ => .vectored buffers
  | .bind _ host parsed _ _ | .connect _ host parsed _ _ =>
    .address (some (if parsed then some host else none)) domain
  | .recv _ bufsize bufferObj _ _ =>
    .orServed (served && !bufferObj) (.linear bufferObj bufsize buffers)
  | .sendto _ host parsed _ domain _ _ =>
    (Fetched.address (some (if parsed then some host else none)) domain).andThen (.data buffers)
  | .recvfrom _ bufsize bufferObj address _ _ =>
    match address with
    | none => .unassigned
    | some (host, _, domain) => (Fetched.address host domain).andThen
      (.orServed (served && !bufferObj) (.linear bufferObj bufsize buffers))
  | .sendmsg _ address _ _ => (Fetched.target address).andThen (.vectored buffers)
  | .recvmsg _ buffersObj _ _ => if buffersObj then .vectored buffers else .unassigned
  | .fileAexit _ | .fileClose _ _ | .fsync _ _ | .fdatasync _ _ | .splice _ _ _ _ _ _ _ _ => .done
  | .prepSocket _ _ _ | .socketAexit _ | .listen _ _ _ | .accept _ _ | .socketClose _ _ => .done
  | .timer _ => .done

/-- The operation can come to its submission: the C layer refuses some domains. -/
def submits : OpCall → Prop
  | .prepSocket domain _ _ => Supported domain
  | _ => True

/-- The exceptions that the parsers of the arguments can leave behind when they return. -/
def LeftPending (call : OpCall) (e : Option PyErr) : Prop :=
  match call with
  | .timer none | .timer (some .none) => e = none
  | .timer (some obj) => ∃ p, parseTimerParams obj .oneshot = .ok (p, e)
  | call => ∃ p, parseTimeoutParams call.timeoutArg = .ok (p, e)

/-- The Socket that the operation is called on has the domain. -/
def On (call : OpCall) (domain : Int) (l : Loop) : Prop :=
  ∀ self ∈ call.onSocket, ∀ sock, l.sockets[self]? = some sock → sock.domain = domain

end OpCall

section Operations

variable {l : Loop} {r : Ring} {env : CallEnv}

/-- `parse_timer_params` looks at the stream strategy after it has parsed everything. -/
theorem parseTimerParams_pending {obj : PyVal} {stream : StreamStrategy} {p : TimerParams}
    {e : Option PyErr} (h : parseTimerParams obj stream = .ok (p, e)) :
    ∃ p', parseTimerParams obj .oneshot = .ok (p', e) := by
  unfold parseTimerParams at h ⊢
  split at h
  next => exact absurd h (by simp)
  next => exact absurd h (by simp)
  next items =>
    split at h
    next =>
      obtain ⟨-, rfl⟩ := Prod.mk.inj (Except.ok.inj h)
      exact ⟨_, rfl⟩
    next => exact absurd h (by simp)

theorem parseTimer_dict_ok {items : List (String × PyItem)} {stream : StreamStrategy}
    {t : TimerParams × Option PyErr} (hp : parseTimerParams (.dict items) stream = .ok t) :
    parseTimer (some (.dict items)) stream = ret t := by
  simp only [parseTimer, hp]

theorem parseTimer_dict_error {items : List (String × PyItem)} {stream : StreamStrategy}
    {e : Option PyErr} (hp : parseTimerParams (.dict items) stream = .error e) :
    parseTimer (some (.dict items)) stream =
      fail (e.or (some ⟨.typeError, "timer_params requires int fields: sec, nsec, count"⟩)) := by
  simp only [parseTimer, hp]

theorem parseTimer_raises (obj : Option PyVal) (stream : StreamStrategy) :
    Raises (OnRing r) r (parseTimer obj stream) fun t =>
      (OpCall.timer obj).LeftPending t.2 := by
  rcases obj with _ | obj
  · exact .ret rfl
  cases obj with
  | none => exact .ret rfl
  | other => exact .fail rfl
  | dict items =>
    cases hp : parseTimerParams (.dict items) stream with
    | error e =>
      rw [parseTimer_dict_error hp]
      exact .fail (by cases e <;> rfl)
    | ok t =>
      rw [parseTimer_dict_ok hp]
      exact .ret (parseTimerParams_pending hp)

/-! ## The operations -/

/-- The methods of a File without a payload. -/
theorem fileOperation_raises {self : FileId} {opcode : Opcode} {t : Option PyVal} (op : Int → COp)
    (hop : ∀ fd, (op fd).Accepts) :
    Raises (OnRing r) r (fileOperation self opcode op t env) fun req => req.After t :=
  fileMethod_raises self t fun _ p hp => createFuture_raises.step fun _ =>
    .pure ⟨reports_of_accepts checkFileResult_isSome fun _ => hop _, p.1, hp⟩

theorem openResult_isSome (n : Int) (h : n = -1 ∨ n = 0) : (openResult n).isSome := by
  rcases h with rfl | rfl <;> rfl

theorem timerResult_isSome (n : Int) (h : n = -1 ∨ n = 0) : (timerResult n).isSome := by
  rcases h with rfl | rfl <;> rfl

theorem open_raises {dfd flags resolve mode : Int} {path : Except PyErr String}
    {t : Option PyVal} :
    Raises (OnRing r) r (uringioOpen dfd path flags resolve mode t env) fun req =>
      req.After t ∧ ∃ s, path = .ok s := by
  refine .step checkMap_raises fun _ => .step assertLoopThread_raises fun _ => ?_
  refine .step assertRingLoopIsClosing_raises fun _ => .step checkUnless_raises fun _ => ?_
  refine .step checkMap_raises fun _ => ?_
  cases path with
  | error e => exact .fail rfl
  | ok path =>
    refine (parseTimeout_raises t).bind fun p hp => createFuture_raises.step fun _ => ?_
    refine .step (.change fun _ => rfl) fun _ => .pure ?_
    exact ⟨⟨reports_of_accepts openResult_isSome fun _ => trivial, p.1, hp⟩, path, rfl⟩

theorem read_raises {self : FileId} {offset size : Int} {t : Option PyVal}
    (hf : ∀ p, parseTimeoutParams t = .ok p → (Fetched.linear false size env.buffers).Proper) :
    Raises (OnRing r) r (UringioFile.read self offset size t env) fun req =>
      req.After t ∧ Fetched.linear false size env.buffers = .done := by
  refine fileMethod_raises self t fun fd p hp => createFuture_raises.step fun _ => ?_
  obtain ⟨hpay, hlin⟩ := Fetched.linear_proper.mp (hf p hp)
  refine (linearPayload_raises hpay hlin).step fun _ => getContext_raises.step fun _ => .pure ?_
  exact ⟨⟨reports_of_accepts checkFileResult_isSome fun _ => readDispatcher_dispatches _ _ _,
    p.1, hp⟩, Fetched.linear_done (hf p hp)⟩

theorem readv_raises {self : FileId} {buffersObj nowait : Bool} {offset : Int}
    {t : Option PyVal} (hf : ∀ p, parseTimeoutParams t = .ok p → env.buffers.payload = true) :
    Raises (OnRing r) r (UringioFile.readv self buffersObj offset nowait t env) fun req =>
      req.After t ∧ env.buffers.payload = true := by
  refine fileMethod_raises self t fun fd p hp => ?_
  have hselected : Raises (OnRing r) r selectedPayload fun _ => True :=
    getContext_raises.step fun _ => .lookAny
  refine hselected.step fun selected => ?_
  have hreq : ∀ payload future, (fileRequest self future (some payload) .oneshot .readv p
      (readvDispatcher fd payload offset nowait)).After t := fun payload future =>
    ⟨reports_of_accepts checkFileResult_isSome fun _ => readvDispatcher_dispatches _ _, p.1, hp⟩
  cases selected with
  | some payload =>
    refine .step (.ret trivial) fun payload => (createFutureOrDrop_raises _).step fun future => ?_
    exact .pure ⟨hreq payload future, hf p hp⟩
  | none =>
    refine ((vectoredPayload_raises (hf p hp)).mono fun _ _ => trivial).step fun payload => ?_
    refine (createFutureOrDrop_raises _).step fun future => ?_
    exact .pure ⟨hreq payload future, hf p hp⟩

/-- `readv_raw` and `writev_raw`. -/
theorem rawOperation_raises {self : FileId} {iovecs : Except PyErr (List Iovec)}
    {t : Option PyVal} {opcode : Opcode} (op : Int → List Iovec → Nat → COp)
    (hop : ∀ fd iovecs n, (op fd iovecs n).Accepts) :
    Raises (OnRing r) r (do
      let fd ← openFileMethod self env
      let t ← parseTimeout t
      match iovecs with
      | .error e => fail (some e)
      | .ok iovecs =>
        let payload ← pybufferPayload iovecs env
        let future ← createFutureOrDrop payload env
        return fileRequest self future payload .oneshot opcode t
          (vectoredCall payload fun iovecs nrVecs => op fd iovecs nrVecs)) fun req =>
      req.After t ∧ Fetched.raw iovecs env.buffers = .done := by
  refine fileMethod_raises self t fun fd p hp => ?_
  cases iovecs with
  | error e => exact .fail rfl
  | ok iovecs =>
    refine (pybufferPayload_raises iovecs).bind fun payload hpay => ?_
    refine (createFutureOrDrop_raises _).step fun future => .pure ⟨⟨?_, p.1, hp⟩, ?_⟩
    · exact reports_of_accepts checkFileResult_isSome fun _ =>
        vectoredCall_dispatches fun _ _ => hop fd _ _
    · exact Fetched.raw_done hpay

theorem write_raises {self : FileId} {offset : Int} {t : Option PyVal} :
    Raises (OnRing r) r (UringioFile.write self offset t env) fun req =>
      req.After t ∧ Fetched.data env.buffers = .done := by
  refine fileMethod_raises self t fun fd p hp => createFuture_raises.step fun _ => ?_
  refine dataPayload_raises.bind fun _ hd => .pure ⟨⟨?_, p.1, hp⟩, Fetched.data_done hd⟩
  exact reports_of_accepts checkFileResult_isSome fun _ => writeDispatcher_dispatches _

theorem writev_raises {self : FileId} {flags offset : Int} {t : Option PyVal}
    (hf : ∀ p, parseTimeoutParams t = .ok p → (Fetched.vectored env.buffers).Proper) :
    Raises (OnRing r) r (UringioFile.writev self flags offset t env) fun req =>
      req.After t ∧ Fetched.vectored env.buffers = .done := by
  refine fileMethod_raises self t fun fd p hp => ?_
  have hpay := Fetched.vectored_proper.mp (hf p hp)
  refine (vectoredPayload_raises hpay).bind fun payload hv => ?_
  have hreq : ∀ heap, Dispatches COp.Accepts
      (vectoredCall payload (fun iovecs nrVecs => .writev fd iovecs nrVecs offset flags) heap) :=
    fun _ => vectoredCall_dispatches fun _ _ => trivial
  refine (createFutureOrDrop_raises _).step fun future => .pure ⟨⟨?_, p.1, hp⟩, ?_⟩
  · exact reports_of_accepts checkFileResult_isSome hreq
  · exact Fetched.vectored_done hpay (hv rfl)

/-- The C layer refuses a domain with -2. -/
theorem prepSocket_reports {domain socktype : Int} {req : Request}
    (he : req.error = prepSocketResult)
    (hd : ∀ heap, req.dispatch heap = .ok (.prepSocket domain socktype, heap)) :
    req.Reports (Supported domain) := by
  intro heap
  rw [hd heap]
  refine ⟨fun ha => ha, fun ring idx submit hn => ?_⟩
  rw [he]
  by_cases ha : (COp.prepSocket domain socktype).Accepts
  · rcases exec_result ha ring idx _ submit hn with h | h
    · rw [h]
      rfl
    · rw [h]
      rfl
  · have hdom : ¬ (domain = afInet ∨ domain = afInet6) := ha
    simp only [COp.exec, Uringio.prepSocket]
    rcases sqeWithOptionalTimeout_cases ring req.timeoutParams with ⟨-, h⟩ | ⟨-, -, _, h, -, -⟩ |
      ⟨-, -, _, h, -, -⟩
    · rw [h]
      rfl
    · rw [h]
      rfl
    · rw [h]
      simp only [hdom, decide_false, Bool.not_false, if_true]
      rfl

theorem prepSocket_raises {domain socktype : Int} {t : Option PyVal} :
    Raises (OnRing r) r (uringioPrepSocket domain socktype t env) fun req =>
      (∃ p, parseTimeoutParams t = .ok (p, req.pending)) ∧ req.Reports (Supported domain) := by
  refine .step checkMap_raises fun _ => .step assertLoopThread_raises fun _ => ?_
  refine .step assertRingLoopIsClosing_raises fun _ => .step checkUnless_raises fun _ => ?_
  refine .step checkMap_raises fun _ => (parseTimeout_raises t).bind fun p hp => ?_
  refine createFuture_raises.step fun _ => .step (.change fun _ => rfl) fun _ => .pure ?_
  exact ⟨⟨p.1, hp⟩, prepSocket_reports rfl fun _ => rfl⟩

theorem accept_raises {self : SocketId} {t : Option PyVal} :
    Raises (OnRing r) r (UringioSocket.accept self t env) fun req => req.After t := by
  refine anySocketMethod_raises self t fun x p hp => createFuture_raises.step fun _ => ?_
  cases env.msghdr with
  | none => exact .fail rfl
  | some addrlen =>
    refine getContext_raises.step fun c => .pure ⟨?_, p.1, hp⟩
    exact reports_of_accepts checkSocketsResult_isSome fun _ => acceptDispatcher_dispatches _ _

theorem send_raises {self : SocketId} {isPollFirst : Bool} {t : Option PyVal} :
    Raises (OnRing r) r (UringioSocket.send self isPollFirst t env) fun req =>
      req.After t ∧ Fetched.data env.buffers = .done := by
  refine anySocketMethod_raises self t fun x p hp => dataPayload_raises.bind fun _ hd => ?_
  refine getContext_raises.step fun c => (createFutureOrDrop_raises _).step fun _ => .pure ?_
  refine ⟨⟨?_, p.1, hp⟩, Fetched.data_done hd⟩
  exact reports_of_accepts checkSocketsResult_isSome fun _ => sendDispatcher_dispatches _ _

theorem recv_raises {self : SocketId} {bufsize : Int} {bufferObj isPollFirst : Bool}
    {t : Option PyVal}
    (hf : ∀ p, parseTimeoutParams t = .ok p →
      (Fetched.linear bufferObj bufsize env.buffers).Proper) :
    Raises (OnRing r) r (UringioSocket.recv self bufsize bufferObj isPollFirst t env) fun req =>
      req.After t ∧ Fetched.linear bufferObj bufsize env.buffers = .done := by
  refine anySocketMethod_raises self t fun x p hp => ?_
  obtain ⟨hpay, hlin⟩ := Fetched.linear_proper.mp (hf p hp)
  refine (linearPayload_raises hpay hlin).step fun _ => getContext_raises.step fun _ => ?_
  refine (createFutureOrDrop_raises _).step fun _ => .pure ?_
  exact ⟨⟨reports_of_accepts checkSocketsResult_isSome fun _ => recvDispatcher_dispatches _ _,
    p.1, hp⟩, Fetched.linear_done (hf p hp)⟩

/-- `sendmsg` on a connected Socket. -/
theorem sendmsg_none_raises {self : SocketId} {isPollFirst : Bool} {t : Option PyVal}
    (hf : ∀ p, parseTimeoutParams t = .ok p → (Fetched.vectored env.buffers).Proper) :
    Raises (OnRing r) r (UringioSocket.sendmsg self none isPollFirst t env) fun req =>
      req.After t ∧ Fetched.vectored env.buffers = .done := by
  refine anySocketMethod_raises self t fun x p hp => .step (.ret trivial) fun target => ?_
  have hpay := Fetched.vectored_proper.mp (hf p hp)
  refine (vectoredPayload_raises hpay).bind fun payload hv => getContext_raises.step fun c => ?_
  refine (createFutureOrDrop_raises _).step fun _ => .pure ⟨⟨?_, p.1, hp⟩, ?_⟩
  · exact reports_of_accepts checkSocketsResult_isSome fun _ =>
      sendmsgDispatcher_dispatches _ (fun _ _ _ => trivial) fun _ _ => trivial
  · exact Fetched.vectored_done hpay (hv rfl)

theorem recvmsg_raises {self : SocketId} {isPollFirst : Bool} {t : Option PyVal}
    (hf : ∀ p, parseTimeoutParams t = .ok p → (Fetched.vectored env.buffers).Proper) :
    Raises (OnRing r) r (UringioSocket.recvmsg self true isPollFirst t env) fun req =>
      req.After t ∧ Fetched.vectored env.buffers = .done := by
  refine anySocketMethod_raises self t fun x p hp => ?_
  have hpay := Fetched.vectored_proper.mp (hf p hp)
  refine (vectoredPayload_raises hpay).bind fun payload hv => getContext_raises.step fun c => ?_
  refine (createFutureOrDrop_raises _).step fun _ => .pure ⟨⟨?_, p.1, hp⟩, ?_⟩
  · exact reports_of_accepts checkSocketsResult_isSome fun _ => recvmsgDispatcher_dispatches _ _ _
  · exact Fetched.vectored_done hpay (hv rfl)

theorem timer_raises {timerParams : Option PyVal} :
    Raises (OnRing r) r (uringioLoopTimer timerParams env) fun req =>
      (OpCall.timer timerParams).LeftPending req.pending ∧ req.Reports True := by
  refine .step checkMap_raises fun _ => .step assertLoopThread_raises fun _ => ?_
  refine .step assertRingLoopIsClosing_raises fun _ => getContext_raises.step fun c => ?_
  refine (parseTimer_raises timerParams c.stream).bind fun p hp => ?_
  refine createFuture_raises.step fun _ => .pure ⟨hp, ?_⟩
  exact reports_of_accepts timerResult_isSome fun _ => by simp [Dispatches, COp.Accepts]

/-- The exits have no timeout parameters. -/
theorem fileAexit_raises {self : FileId} :
    Raises (OnRing r) r (UringioFile.aexit self env) fun req => req.After none := by
  have hself : Raises (OnRing r) r (selfFile self) fun _ => True := by
    refine .step .lookAny fun x => ?_
    split
    · exact .pure trivial
    · exact Ends.stop (by simp)
  refine hself.step fun _ => .step checkMap_raises fun _ => createFuture_raises.step fun _ => ?_
  exact .pure ⟨reports_of_accepts checkFileResult_isSome fun _ => trivial, _, rfl⟩

theorem socketAexit_raises {self : SocketId} :
    Raises (OnRing r) r (UringioSocket.aexit self env) fun req => req.After none := by
  have hself : Raises (OnRing r) r (selfSocket self) fun _ => True := by
    refine .step .lookAny fun x => ?_
    split
    · exact .pure trivial
    · exact Ends.stop (by simp)
  refine hself.step fun _ => .step checkMap_raises fun _ => createFuture_raises.step fun _ => ?_
  exact .pure ⟨reports_of_accepts checkSocketsResult_isSome fun _ => trivial, _, rfl⟩

/-- What a request holds that has come to its submission. -/
structure OpCall.Arrives (call : OpCall) (buffers : BufferEnv) (domain : Int) (req : Request) :
    Prop where
  done : call.fetches false buffers domain = .done
  pending : call.LeftPending req.pending
  reports : req.Reports call.submits

/-- Past its timeout parameters an operation whose helpers all raise raises where it fails,
    up to its submission. -/
theorem OpCall.prepare_raises {call : OpCall} {domain : Int} (hon : call.On domain l)
    (hf : ∀ e, call.LeftPending e → (call.fetches false env.buffers domain).Proper) :
    Raises (fun s => s = l) l.ring (call.prepare env) (call.Arrives env.buffers domain) := by
  have hring : ∀ s, s = l → OnRing l.ring s := fun s hs => hs ▸ rfl
  cases call with
  | «open» dfd path flags resolve mode t =>
    refine (open_raises.of_pre hring).mono fun req h => ⟨?_, h.1.pending, h.1.reports⟩
    obtain ⟨-, path, rfl⟩ := h
    rfl
  | fileAexit self =>
    exact (fileAexit_raises.of_pre hring).mono fun req h => ⟨rfl, h.pending, h.reports⟩
  | fileClose self t =>
    refine Raises.of_pre ?_ hring
    refine fileMethod_raises self t fun _ p hp => createFuture_raises.step fun _ => .pure ?_
    exact ⟨rfl, ⟨p.1, hp⟩, reports_of_accepts checkFileResult_isSome fun _ => trivial⟩
  | read self offset size t =>
    exact ((read_raises fun p hp => hf p.2 ⟨p.1, hp⟩).of_pre hring).mono fun req h =>
      ⟨h.2, h.1.pending, h.1.reports⟩
  | readv self buffersObj offset nowait t =>
    exact ((readv_raises fun p hp => Fetched.selected_proper.mp (hf p.2 ⟨p.1, hp⟩)).of_pre
      hring).mono fun req h => ⟨Fetched.selected_done h.2, h.1.pending, h.1.reports⟩
  | readvRaw self iovecs offset nowait t =>
    exact ((rawOperation_raises (fun fd iovecs n => .readv fd iovecs n offset nowait)
      fun _ _ _ => trivial).of_pre hring).mono fun req h => ⟨h.2, h.1.pending, h.1.reports⟩
  | write self offset t =>
    exact (write_raises.of_pre hring).mono fun req h => ⟨h.2, h.1.pending, h.1.reports⟩
  | writev self flags offset t =>
    exact ((writev_raises fun p hp => hf p.2 ⟨p.1, hp⟩).of_pre hring).mono fun req h =>
      ⟨h.2, h.1.pending, h.1.reports⟩
  | writevRaw self iovecs flags offset t =>
    exact ((rawOperation_raises (fun fd iovecs n => .writev fd iovecs n offset flags)
      fun _ _ _ => trivial).of_pre hring).mono fun req h => ⟨h.2, h.1.pending, h.1.reports⟩
  | fsync self t =>
    exact ((fileOperation_raises .fsync fun _ => trivial).of_pre hring).mono fun req h =>
      ⟨rfl, h.pending, h.reports⟩
  | fdatasync self t =>
    exact ((fileOperation_raises .fdatasync fun _ => trivial).of_pre hring).mono fun req h =>
      ⟨rfl, h.pending, h.reports⟩
  | splice self src dst count offsetSrc offsetDst flag t =>
    exact ((fileOperation_raises (fun _ => .splice src offsetSrc dst offsetDst count flag)
      fun _ => trivial).of_pre hring).mono fun req h => ⟨rfl, h.pending, h.reports⟩
  | prepSocket domain' socktype t =>
    exact (prepSocket_raises.of_pre hring).mono fun req h => ⟨rfl, h.1, h.2⟩
  | socketAexit self =>
    exact (socketAexit_raises.of_pre hring).mono fun req h => ⟨rfl, h.pending, h.reports⟩
  | bind self host parsed port t =>
    exact (addressedOperation_raises (fun _ _ _ => rfl) (hon self rfl)
      fun p hp => hf p.2 ⟨p.1, hp⟩).mono fun req h => ⟨h.2.1, h.1.pending, h.1.reports⟩
  | connect self host parsed port t =>
    exact (addressedOperation_raises (fun _ _ _ => rfl) (hon self rfl)
      fun p hp => hf p.2 ⟨p.1, hp⟩).mono fun req h => ⟨h.2.1, h.1.pending, h.1.reports⟩
  | listen self backlog t =>
    refine Raises.of_pre ?_ hring
    refine anySocketMethod_raises self t fun _ p hp => createFuture_raises.step fun _ => .pure ?_
    exact ⟨rfl, ⟨p.1, hp⟩, reports_of_accepts checkSocketsResult_isSome fun _ => trivial⟩
  | accept self t =>
    exact (accept_raises.of_pre hring).mono fun req h => ⟨rfl, h.pending, h.reports⟩
  | socketClose self t =>
    refine Raises.of_pre ?_ hring
    refine anySocketMethod_raises self t fun _ p hp => createFuture_raises.step fun _ => .pure ?_
    exact ⟨rfl, ⟨p.1, hp⟩, reports_of_accepts checkSocketsResult_isSome fun _ => trivial⟩
  | send self isPollFirst t =>
    exact (send_raises.of_pre hring).mono fun req h => ⟨h.2, h.1.pending, h.1.reports⟩
  | recv self bufsize bufferObj isPollFirst t =>
    exact ((recv_raises fun p hp => hf p.2 ⟨p.1, hp⟩).of_pre hring).mono fun req h =>
      ⟨h.2, h.1.pending, h.1.reports⟩
  | sendto self host parsed port domain' isPollFirst t =>
    exact ((sendto_raises fun p hp =>
      (Fetched.andThen_proper.mp (hf p.2 ⟨p.1, hp⟩)).1).of_pre hring).mono fun req h =>
        ⟨h.2.1, h.1.pending, h.1.reports⟩
  | recvfrom self bufsize bufferObj address isPollFirst t =>
    cases address with
    | some a =>
      exact ((recvfrom_raises fun p hp => hf p.2 ⟨p.1, hp⟩).of_pre hring).mono fun req h =>
        ⟨h.2.1, h.1.pending, h.1.reports⟩
    | none =>
      -- the operation does not come to its address
      refine Raises.of_pre (anySocketMethod_raises self t fun _ p hp => ?_) hring
      exact ((hf p.2 ⟨p.1, hp⟩).2 rfl).elim
  | sendmsg self address isPollFirst t =>
    cases address with
    | some a =>
      exact ((sendmsg_raises fun p hp => hf p.2 ⟨p.1, hp⟩).of_pre hring).mono fun req h =>
        ⟨h.2.1, h.1.pending, h.1.reports⟩
    | none =>
      exact ((sendmsg_none_raises fun p hp => hf p.2 ⟨p.1, hp⟩).of_pre hring).mono fun req h =>
        ⟨h.2, h.1.pending, h.1.reports⟩
  | recvmsg self buffersObj isPollFirst t =>
    cases buffersObj with
    | true =>
      exact ((recvmsg_raises fun p hp => hf p.2 ⟨p.1, hp⟩).of_pre hring).mono fun req h =>
        ⟨h.2, h.1.pending, h.1.reports⟩
    | false =>
      refine Raises.of_pre (anySocketMethod_raises self t fun _ p hp => ?_) hring
      exact ((hf p.2 ⟨p.1, hp⟩).2 rfl).elim
  | timer timerParams =>
    exact (timer_raises.of_pre hring).mono fun req h => ⟨rfl, h.1, h.2⟩

/-! ## Operations that always fail -/

/-- The program fails, and reads nothing that is not assigned. -/
def Fails {α : Type} (P : Loop → Prop) (m : PyProgram α) : Prop :=
  Ends (fun e => e ≠ .unassigned) P m (fun _ _ => False) (fun _ _ => True)

namespace Fails

variable {α β : Type} {P : Loop → Prop} {m : PyProgram α} {f : α → PyProgram β}

theorem bind (hm : Fails P m) : Fails P (m >>= f) := Ends.bind hm fun _ _ hs => hs.elim

/-- What comes before may fail as well. -/
theorem after {Q : α → Prop} (hm : Raises P r m Q) (hf : ∀ a, Q a → Fails (OnRing r) (f a)) :
    Fails P (m >>= f) :=
  Ends.bind (hm.conseq (fun _ hs => hs) (fun _ _ hs => hs) fun _ _ _ => trivial)
    fun a => .given fun ha => hf a ha

theorem fail {e : Option PyErr} : Fails P (Program.fail e : PyProgram α) := fun _ _ => trivial

end Fails

theorem serializeAddress_fails {host : HostArg} {port domain : Int} (hd : ¬ Supported domain) :
    Fails (OnRing r) (serializeAddress host port domain env) := by
  obtain ⟨h4, h6⟩ := not_or.mp hd
  unfold serializeAddress
  cases env.block with
  | none => exact .fail
  | some block =>
    simp only [if_neg h4, if_neg h6]
    exact .fail

theorem orFail_fails {payload : Option PayloadId} {e : Option PyErr} :
    Fails (fun _ => payload = none) (orFail payload e) := by
  rintro s rfl
  trivial

/-- Without memory for a payload there is none for buffers that were passed. -/
theorem linearPayload_fails {bufsize : Int} (hp : env.buffers.payload = false) :
    Fails (OnRing r) (linearPayload true bufsize env) := by
  refine .after getContext_raises fun c _ => ?_
  refine Ends.bind (Q := fun payload _ => payload = none) (fun s _ => ?_) fun _ => orFail_fails
  have hget : getOrCreateLinearBuffer s.heap c.bufferPayload true bufsize env.buffers =
      .ok (none, s.heap) := by
    unfold getOrCreateLinearBuffer
    rw [hp]
    rfl
  simp only [hget]

theorem vectoredPayload_fails (hp : env.buffers.payload = false) :
    Fails (OnRing r) (vectoredPayload true env) := by
  refine .after getContext_raises fun c _ => ?_
  refine Ends.bind (Q := fun payload _ => payload = none) (fun s _ => ?_) fun _ => orFail_fails
  show (getOrCreateVectoredBuffer s.heap c.bufferPayload true env.buffers).1 = none
  unfold getOrCreateVectoredBuffer
  rw [hp]
  rfl

/-- The checks that the methods of a File or Socket begin with. -/
theorem fileMethod_fails (self : FileId) (t : Option PyVal)
    {f : Int → TimeoutParams × Option PyErr → PyProgram Request}
    (hf : ∀ fd p, Fails (OnRing r) (f fd p)) :
    Fails (OnRing r) (openFileMethod self env >>= fun fd => parseTimeout t >>= fun p => f fd p) :=
  .after (openFileMethod_raises self) fun fd _ => .after (parseTimeout_raises t) fun p _ => hf fd p

theorem socketMethod_fails {P : Loop → Prop} {D : UringioSocket → Prop} (self : SocketId)
    (t : Option PyVal) {f : UringioSocket × Int → TimeoutParams × Option PyErr → PyProgram Request}
    (hP : ∀ s, P s → s.ring = r) (hD : ∀ s sock, P s → s.sockets[self]? = some sock → D sock)
    (hf : ∀ x p, D x.1 → Fails (OnRing r) (f x p)) :
    Fails P (openSocketMethod self env >>= fun x => parseTimeout t >>= fun p => f x p) :=
  .after (openSocketMethod_raises self hP hD) fun x hx =>
    .after (parseTimeout_raises t) fun p _ => hf x p hx

theorem anySocketMethod_fails (self : SocketId) (t : Option PyVal)
    {f : UringioSocket × Int → TimeoutParams × Option PyErr → PyProgram Request}
    (hf : ∀ x p, Fails (OnRing r) (f x p)) :
    Fails (OnRing r) (openSocketMethod self env >>= fun x => parseTimeout t >>= fun p => f x p) :=
  socketMethod_fails (D := fun _ => True) self t (fun _ hs => hs) (fun _ _ _ _ => trivial)
    fun x p _ => hf x p

namespace Fetched

theorem address_silent {host : HostArg} {domain : Int} (h : address host domain = .silent) :
    ¬ Supported domain := by
  intro hd
  unfold address at h
  rw [if_neg (not_not.mpr hd)] at h
  split at h
  · exact absurd h (by simp)
  · exact absurd h (by simp)

theorem address_supported {host : HostArg} {domain : Int} (h : address host domain = .done) :
    Supported domain := by
  by_contra hd
  unfold address at h
  rw [if_pos hd] at h
  exact absurd h (by simp)

theorem linear_silent {buffersObj : Bool} {bufsize : Int} {env : BufferEnv}
    (h : linear buffersObj bufsize env = .silent) : env.payload = false := by
  by_contra hp
  unfold linear at h
  rw [if_neg hp] at h
  split at h
  · exact absurd h (by simp)
  · exact absurd h (by simp)

theorem vectored_silent {env : BufferEnv} (h : vectored env = .silent) : env.payload = false := by
  by_contra hp
  unfold vectored at h
  rw [if_neg hp] at h
  split at h
  · exact absurd h (by simp)
  · exact absurd h (by simp)

theorem data_silent {env : BufferEnv} : data env ≠ .silent := data_proper.1

/-- The first that does not return decides. -/
theorem andThen_silent {a b : Fetched} (h : a.andThen b = .silent) :
    a = .silent ∨ (a = .done ∧ b = .silent) := by
  cases a with
  | silent => exact .inl rfl
  | done => exact .inr ⟨rfl, h⟩
  | raises | unassigned => exact absurd h (by simp [andThen])

end Fetched

theorem addressedOperation_fails {self : SocketId} {opcode : Opcode} {domain port : Int}
    {op : Int → SockAddr → Nat → COp} {host : HostArg} {t : Option PyVal}
    (hself : ∀ sock, l.sockets[self]? = some sock → sock.domain = domain)
    (hf : Fetched.address host domain = .silent) :
    Fails (fun s => s = l) (addressedOperation self opcode op host port t env) := by
  have hd := Fetched.address_silent hf
  refine socketMethod_fails (D := fun sock => sock.domain = domain) (r := l.ring) self t
    (fun s hs => hs ▸ rfl) (fun s sock hs he => hself sock (hs ▸ he)) fun x p hx => ?_
  rw [hx]
  exact (serializeAddress_fails hd).bind

/-- An operation whose helpers fail without an exception, whatever the context has to offer. -/
theorem OpCall.prepare_fails {call : OpCall} {domain : Int} (hon : call.On domain l)
    (hf : call.fetches false env.buffers domain = .silent)
    (ht : call.fetches true env.buffers domain ≠ .done) :
    Fails (fun s => s = l) (call.prepare env) := by
  have hring : ∀ {m : PyProgram Request}, Fails (OnRing l.ring) m → Fails (fun s => s = l) m :=
    fun hm s hs => hm s (hs ▸ rfl)
  cases call with
  | writev self flags offset t =>
    refine hring (fileMethod_fails self t fun fd p => ?_)
    exact (vectoredPayload_fails (Fetched.vectored_silent hf)).bind
  | bind self host parsed port t => exact addressedOperation_fails (hon self rfl) hf
  | connect self host parsed port t => exact addressedOperation_fails (hon self rfl) hf
  | recv self bufsize bufferObj isPollFirst t =>
    cases bufferObj with
    | false => exact absurd rfl ht
    | true =>
      refine hring (anySocketMethod_fails self t fun x p => ?_)
      exact (linearPayload_fails (Fetched.linear_silent hf)).bind
  | sendto self host parsed port domain' isPollFirst t =>
    refine hring (anySocketMethod_fails self t fun x p => ?_)
    rcases Fetched.andThen_silent hf with h | ⟨-, h⟩
    · exact (serializeAddress_fails (Fetched.address_silent h)).bind
    · exact absurd h Fetched.data_silent
  | recvfrom self bufsize bufferObj address isPollFirst t =>
    rcases address with _ | ⟨host, port, domain'⟩
    · exact absurd hf (by simp [OpCall.fetches])
    refine hring (anySocketMethod_fails self t fun x p => ?_)
    rcases Fetched.andThen_silent hf with h | ⟨hdone, h⟩
    · exact (serializeAddress_fails (Fetched.address_silent h)).bind
    · cases bufferObj with
      | false => exact absurd (Fetched.andThen_done.mpr ⟨hdone, rfl⟩) ht
      | true =>
        have hd := Fetched.address_supported hdone
        refine .after (serializeAddress_raises hd) fun a _ => ?_
        exact (linearPayload_fails (Fetched.linear_silent h)).bind
  | sendmsg self address isPollFirst t =>
    rcases address with _ | ⟨host, port, domain'⟩
    · refine hring (anySocketMethod_fails self t fun x p => ?_)
      refine .after (Q := fun _ => True) (.ret trivial) fun _ _ => ?_
      exact (vectoredPayload_fails (Fetched.vectored_silent hf)).bind
    refine hring (anySocketMethod_fails self t fun x p => ?_)
    rcases Fetched.andThen_silent hf with h | ⟨hdone, h⟩
    · exact ((serializeAddress_fails (Fetched.address_silent h)).bind).bind
    · have hd : Supported domain' := Fetched.address_supported hdone
      have htarget : Raises (OnRing l.ring) l.ring (sendmsgTarget (some (host, port, domain')) env)
          fun _ => True :=
        ((serializeAddress_raises hd).mono fun _ _ => trivial).step fun a => .pure trivial
      refine .after htarget fun a _ => ?_
      exact (vectoredPayload_fails (Fetched.vectored_silent h)).bind
  | recvmsg self buffersObj isPollFirst t =>
    cases buffersObj with
    | false => exact absurd hf (by simp [OpCall.fetches])
    | true =>
      refine hring (anySocketMethod_fails self t fun x p => ?_)
      exact (vectoredPayload_fails (Fetched.vectored_silent hf)).bind
  | read self offset size t => exact absurd rfl ht
  | readv self buffersObj offset nowait t => exact absurd rfl ht
  | write self offset t => exact absurd hf Fetched.data_silent
  | send self isPollFirst t => exact absurd hf Fetched.data_silent
  | readvRaw self iovecs offset nowait t => exact absurd hf Fetched.raw_proper.1
  | writevRaw self iovecs flags offset t => exact absurd hf Fetched.raw_proper.1
  | «open» dfd path flags resolve mode t =>
    cases path with
    | error e => exact absurd hf (by simp [OpCall.fetches])
    | ok path => exact absurd hf (by simp [OpCall.fetches])
  | _ => exact absurd hf (by simp [OpCall.fetches])

theorem OpCall.submits_of_silent {call : OpCall} {served : Bool} {buffers : BufferEnv}
    {domain : Int} (h : call.fetches served buffers domain = .silent) : call.submits := by
  cases call with
  | prepSocket domain' socktype t => exact absurd h (by simp [OpCall.fetches])
  | _ => trivial

end Operations

/-! ## Calls whose NULL and exception go together -/

namespace OpCall

/-- At its return a call has an exception pending if and only if it returns NULL, and it has
    read nothing that is not assigned. With a NULL that has set no exception of its own, the
    one may be pending that the parsers left. -/
def Coherent (call : OpCall) (buffers : BufferEnv) (domain : Int) : Prop :=
  ∀ env l, env.buffers = buffers → call.On domain l →
    match call.run env l with
    | .error e => e ≠ .unassigned
    | .ok (.error e, _) => e.isSome ∨ ∃ err, call.LeftPending (some err)
    | .ok (.ok sub, _) => sub.pending = none

/-- If the call gets past its parsers, which leave `e`, no helper reads what is not assigned
    or fails without an exception while none is pending, and where the call is submitted none
    is pending. -/
def Clean (call : OpCall) (buffers : BufferEnv) (domain : Int) : Prop :=
  ∀ e, call.LeftPending e → ∀ served,
    match call.fetches served buffers domain with
    | .raises => True
    | .done => call.submits → e = none
    | .silent => e.isSome
    | .unassigned => False

section Coherence

variable {call : OpCall} {buffers : BufferEnv} {domain : Int} {env : CallEnv} {l : Loop}
  {e : Option PyErr}

theorem run_ends (hon : call.On domain l)
    (hf : ∀ e, call.LeftPending e → (call.fetches false env.buffers domain).Proper) :
    Ends (fun e => e ≠ .unassigned) (fun s => s = l) (call.run env)
      (fun sub _ => call.fetches false env.buffers domain = .done ∧ call.submits ∧
        call.LeftPending sub.pending)
      (fun e _ => e.isSome) := by
  refine Ends.bind ((prepare_raises hon hf).conseq (fun _ h => h) (fun _ _ h => h)
    fun _ _ h => h.1) fun req => .given fun h => ?_
  have hany : ∀ heap, Dispatches (fun _ => True) (req.dispatch heap) := fun heap =>
    (h.reports heap).mono fun _ _ => trivial
  refine (submitRequest_raises h.reports hany env.submit).conseq (fun _ h => h) ?_
    fun _ _ h => h.1
  rintro sub s ⟨hsent, hsub, -⟩
  refine ⟨h.done, hsub, ?_⟩
  rw [hsent.pending]
  exact h.pending

theorem LeftPending.unique {e e' : Option PyErr} (h : call.LeftPending e)
    (h' : call.LeftPending e') : e = e' := by
  have hparsed : ∀ {α ε : Type} {x : Except ε (α × Option PyErr)}, (∃ p, x = .ok (p, e)) →
      (∃ p, x = .ok (p, e')) → e = e' := by
    rintro α ε x ⟨p, hp⟩ ⟨p', hp'⟩
    exact (Prod.mk.inj (Except.ok.inj (hp.symm.trans hp'))).2
  cases call with
  | timer obj =>
    rcases obj with _ | obj
    · exact h.trans h'.symm
    · cases obj with
      | none => exact h.trans h'.symm
      | other | dict items => exact hparsed h h'
  | _ => exact hparsed h h'

/-- A submission that succeeds means that the helpers have. -/
theorem run_silent (hon : call.On domain l)
    (hf : call.fetches false env.buffers domain = .silent)
    (ht : call.fetches true env.buffers domain ≠ .done) :
    Ends (fun e => e ≠ .unassigned) (fun s => s = l) (call.run env) (fun _ _ => False)
      (fun _ _ => True) :=
  Ends.bind (prepare_fails hon hf ht) fun _ _ hs => hs.elim

theorem coherent_of_clean (h : call.Clean buffers domain) : call.Coherent buffers domain := by
  rintro env l rfl hon
  by_cases hsilent : (∃ e, call.LeftPending e) ∧ call.fetches false env.buffers domain = .silent
  · obtain ⟨⟨e, he⟩, hf⟩ := hsilent
    have hsome : e.isSome := by
      have hc := h e he false
      rw [hf] at hc
      exact hc
    obtain ⟨err, rfl⟩ := Option.isSome_iff_exists.mp hsome
    have ht : call.fetches true env.buffers domain ≠ .done := by
      intro ht
      have hc := h _ he true
      rw [ht] at hc
      exact absurd (hc (submits_of_silent hf)) (by simp)
    have hends := run_silent hon hf ht l rfl
    cases hrun : call.run env l with
    | error e =>
      rw [hrun] at hends
      exact hends
    | ok r =>
      obtain ⟨res, l'⟩ := r
      rw [hrun] at hends
      cases res with
      | error e => exact .inr ⟨err, he⟩
      | ok sub => exact hends.elim
  · have hf : ∀ e, call.LeftPending e → (call.fetches false env.buffers domain).Proper := by
      intro e he
      have hc := h e he false
      refine ⟨fun hs => hsilent ⟨⟨e, he⟩, hs⟩, fun hu => ?_⟩
      rw [hu] at hc
      exact hc
    have hends := run_ends hon hf l rfl
    cases hrun : call.run env l with
    | error e =>
      rw [hrun] at hends
      exact hends
    | ok r =>
      obtain ⟨res, l'⟩ := r
      rw [hrun] at hends
      cases res with
      | error e => exact .inl hends
      | ok sub =>
        obtain ⟨hdone, hsub, hleft⟩ := hends
        have hc := h _ hleft false
        rw [hdone] at hc
        exact hc hsub

end Coherence

end OpCall

end Uringio
