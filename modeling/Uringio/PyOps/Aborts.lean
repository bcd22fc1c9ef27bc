/-
  The assertion of `registry_remove` in a call of an operation.

  The only `abort()` of a call is in the removal of the request that the C layer rejects. What
  comes before it, and the dispatcher, stop elsewhere (`prepare_survives`), and the index that
  is removed is live (`run_survives`).
-/
import Uringio.PyOps.Run

namespace Uringio

open Lib Program

/-- The part of a call does not abort. -/
def Unaborted {α : Type} (x : Except Stop α) : Prop := x ≠ .error .abort

theorem Unaborted.bind {α β : Type} {x : Except Stop α} {f : α → Except Stop β}
    (hx : Unaborted x) (hf : ∀ a, Unaborted (f a)) : Unaborted (x >>= f) := by
  cases x with
  | error e =>
    intro h
    exact hx (congrArg Except.error (Except.error.inj h))
  | ok a => exact hf a

theorem Unaborted.ok {α : Type} {a : α} : Unaborted (.ok a : Except Stop α) := nofun

/-! ## Dispatchers -/

section Dispatchers

variable {heap : Heap} {fd : Int} {payload : PayloadId}

theorem payloadAt_unaborted : Unaborted (payloadAt heap payload) := by
  unfold payloadAt Unaborted
  split
  · exact Unaborted.ok
  · simp

theorem linearOf_unaborted {b : BufferPayload} : Unaborted (linearOf b) := by
  unfold linearOf Unaborted
  split
  · exact Unaborted.ok
  · simp

theorem vectorOf_unaborted {b : BufferPayload} : Unaborted (vectorOf b) := by
  unfold vectorOf Unaborted
  split
  · exact Unaborted.ok
  · simp

theorem takeBufIdx_unaborted {b : BufferPayload} : Unaborted (takeBufIdx heap payload b) := by
  unfold takeBufIdx Unaborted
  split
  · simp
  · exact Unaborted.ok

theorem readDispatcher_unaborted (stream : StreamStrategy) (size offset : Int) :
    Unaborted (readDispatcher fd payload stream size offset heap) := by
  refine .bind payloadAt_unaborted fun b => ?_
  split
  · exact .bind takeBufIdx_unaborted fun _ => .bind linearOf_unaborted fun _ => .ok
  · split
    · exact .ok
    · exact .ok
  · split
    · exact .ok
    · exact .ok
  · exact .bind linearOf_unaborted fun _ => .ok
  · exact .bind linearOf_unaborted fun _ => .ok

theorem readvDispatcher_unaborted (offset : Int) (nowait : Bool) :
    Unaborted (readvDispatcher fd payload offset nowait heap) := by
  refine .bind payloadAt_unaborted fun b => ?_
  split
  · exact .bind linearOf_unaborted fun _ => .ok
  · exact .bind linearOf_unaborted fun _ => .ok
  all_goals exact .bind vectorOf_unaborted fun _ => .ok

theorem writeDispatcher_unaborted (offset : Int) :
    Unaborted (writeDispatcher fd payload offset heap) := by
  refine .bind payloadAt_unaborted fun b => ?_
  split
  · exact .bind takeBufIdx_unaborted fun _ => .bind linearOf_unaborted fun _ => .ok
  all_goals exact .bind linearOf_unaborted fun _ => .ok

theorem acceptDispatcher_unaborted (stream : StreamStrategy) (addr : Option Block) :
    Unaborted (acceptDispatcher fd stream addr heap) := by
  cases stream with
  | oneshot => exact .ok
  | multishot => exact .ok

theorem recvDispatcher_unaborted (stream : StreamStrategy) (isPollFirst : Bool) :
    Unaborted (recvDispatcher fd payload stream isPollFirst heap) := by
  refine .bind payloadAt_unaborted fun b => .bind linearOf_unaborted fun _ => ?_
  split
  · split
    · exact .ok
    · exact .ok
  · split
    · exact .ok
    · exact .ok
  all_goals exact .ok

theorem recvmsgDispatcher_unaborted (stream : StreamStrategy) (isPollFirst : Bool)
    (msghdr : Option Block) :
    Unaborted (recvmsgDispatcher fd payload stream isPollFirst msghdr heap) := by
  refine .bind payloadAt_unaborted fun b => ?_
  split
  · split
    · exact .ok
    · exact .ok
  · split
    · exact .ok
    · exact .ok
  all_goals exact .bind vectorOf_unaborted fun _ => .ok

theorem sendDispatcher_unaborted (transferMode : TransferMode) (isPollFirst : Bool) :
    Unaborted (sendDispatcher fd payload transferMode isPollFirst heap) := by
  refine .bind payloadAt_unaborted fun b => ?_
  split
  · split
    · exact .bind takeBufIdx_unaborted fun _ => .bind linearOf_unaborted fun _ => .ok
    · exact .bind linearOf_unaborted fun _ => .ok
  · exact .bind linearOf_unaborted fun _ => .ok

theorem sendmsgDispatcher_unaborted (transferMode : TransferMode) (addr : Option SockAddr)
    (addrlen : Nat) (isPollFirst : Bool) :
    Unaborted (sendmsgDispatcher fd payload transferMode addr addrlen isPollFirst heap) := by
  refine .bind payloadAt_unaborted fun b => ?_
  cases transferMode with
  | zeroCopy => exact .bind takeBufIdx_unaborted fun _ => .bind vectorOf_unaborted fun _ => .ok
  | normalTransfer => exact .bind vectorOf_unaborted fun _ => .ok

end Dispatchers

/-! ## Operations up to their submission -/

/-- The program does not end in `abort()`, and what it returns satisfies `Q`. -/
def Survives {α : Type} (m : PyProgram α) (Q : α → Prop) : Prop :=
  Ends (· ≠ Stop.abort) (fun _ => True) m (fun a _ => Q a) fun _ _ => True

/-- So does the dispatcher of the request. -/
def Request.Unaborted (req : Request) : Prop := ∀ heap, Uringio.Unaborted (req.dispatch heap)

theorem linearCall_request {req : Request} {payload : PayloadId} (call : Ptr → Nat → COp)
    (h : req.dispatch = linearCall payload call) : req.Unaborted := by
  intro heap
  rw [h]
  exact .bind payloadAt_unaborted fun _ => .bind linearOf_unaborted fun _ => .ok

theorem vectoredCall_request {req : Request} {payload : PayloadId}
    (call : List Iovec → Nat → COp) (h : req.dispatch = vectoredCall payload call) :
    req.Unaborted := by
  intro heap
  rw [h]
  exact .bind payloadAt_unaborted fun _ => .bind vectorOf_unaborted fun _ => .ok

namespace Survives

variable {α β : Type} {Q : α → Prop} {R : β → Prop} {m : PyProgram α} {f : α → PyProgram β}

theorem bind (hm : Survives m Q) (hf : ∀ a, Q a → Survives (f a) R) : Survives (m >>= f) R :=
  Ends.bind hm fun a s hs => hf a hs s trivial

/-- What the first part returns does not matter. -/
theorem step (hm : Survives m fun _ => True) (hf : ∀ a, Survives (f a) R) :
    Survives (m >>= f) R :=
  hm.bind fun a _ => hf a

theorem pure {a : α} (h : Q a) : Survives (Pure.pure a : PyProgram α) Q := fun _ _ => h

theorem ret {a : α} (h : Q a) : Survives (Program.ret a : PyProgram α) Q := fun _ _ => h

theorem fail {e : Option PyErr} : Survives (Program.fail e : PyProgram α) Q :=
  fun _ _ => trivial

theorem stop {e : Stop} (h : e ≠ .abort) : Survives (Program.stop e : PyProgram α) Q :=
  Ends.stop h

theorem check {x : Option (Option PyErr)} :
    Survives (Program.check x : PyProgram Unit) fun _ => True :=
  Ends.check (fun _ _ _ _ => trivial) fun _ _ _ => trivial

theorem look {f : Loop → α} : Survives (Program.look f : PyProgram α) fun _ => True :=
  fun _ _ => trivial

theorem change {f : Loop → α × Loop} :
    Survives (Program.change f : PyProgram α) fun _ => True :=
  fun _ _ => trivial

end Survives

section Operations

variable {env : CallEnv}

theorem assertRingLoopIsClosing_survives :
    Survives (assertRingLoopIsClosing env) fun _ => True := .step .look fun _ => .check

theorem parseTimeout_survives (obj : Option PyVal) :
    Survives (parseTimeout obj) fun _ => True := by
  unfold parseTimeout
  split
  · exact .fail
  · exact .ret trivial

theorem createFuture_survives : Survives (createFuture env) fun _ => True :=
  .step .check fun _ => .change

theorem getContext_survives : Survives getContext fun _ => True := by
  refine .step .look fun context => ?_
  split
  · exact .pure trivial
  · exact .stop (by decide)

theorem selfFile_survives (self : FileId) : Survives (selfFile self) fun _ => True := by
  refine .step .look fun file => ?_
  split
  · exact .pure trivial
  · exact .stop (by decide)

theorem selfSocket_survives (self : SocketId) : Survives (selfSocket self) fun _ => True := by
  refine .step .look fun sock => ?_
  split
  · exact .pure trivial
  · exact .stop (by decide)

theorem openFileMethod_survives (self : FileId) :
    Survives (openFileMethod self env) fun _ => True :=
  .step (selfFile_survives self) fun _ => .step .check fun _ =>
    .step assertRingLoopIsClosing_survives fun _ => .step .check fun _ => .step .check fun _ =>
      .pure trivial

theorem openSocketMethod_survives (self : SocketId) :
    Survives (openSocketMethod self env) fun _ => True :=
  .step (selfSocket_survives self) fun _ => .step .check fun _ =>
    .step assertRingLoopIsClosing_survives fun _ => .step .check fun _ => .step .check fun _ =>
      .pure trivial

theorem createFutureOrDrop_survives (payload : Option PayloadId) :
    Survives (createFutureOrDrop payload env) fun _ => True := by
  unfold createFutureOrDrop
  split
  · exact createFuture_survives
  · exact .step .change fun _ => .fail

theorem orFail_survives (payload : Option PayloadId) (e : Option PyErr) :
    Survives (orFail payload e) fun _ => True := by
  unfold orFail
  split
  · exact .ret trivial
  · exact .fail

theorem getOrCreateLinearBuffer_unaborted {heap : Heap} {context : Option PayloadId}
    {buffersObj : Bool} {bufsize : Int} {buffers : BufferEnv} :
    Unaborted (getOrCreateLinearBuffer heap context buffersObj bufsize buffers) := by
  unfold getOrCreateLinearBuffer Unaborted
  split
  · exact Unaborted.ok
  · split
    · exact Unaborted.ok
    · split
      · simp
      · exact Unaborted.ok

theorem linearPayload_survives (buffersObj : Bool) (bufsize : Int) :
    Survives (linearPayload buffersObj bufsize env) fun _ => True := by
  refine .step getContext_survives fun context => .step (fun l _ => ?_) fun _ =>
    orFail_survives _ _
  cases h : getOrCreateLinearBuffer l.heap context.bufferPayload buffersObj bufsize
    env.buffers with
  | error e =>
    intro he
    exact getOrCreateLinearBuffer_unaborted (h.trans (congrArg Except.error he))
  | ok r => trivial

theorem vectoredPayload_survives (buffersObj : Bool) :
    Survives (vectoredPayload buffersObj env) fun _ => True :=
  .step getContext_survives fun _ => .step .change fun _ => orFail_survives _ _

theorem dataPayload_survives : Survives (dataPayload env) fun _ => True :=
  .step .change fun _ => orFail_survives _ _

theorem pybufferPayload_survives (iovecs : List Iovec) :
    Survives (pybufferPayload iovecs env) fun _ => True :=
  .step .change fun _ => orFail_survives _ _

theorem selectedPayload_survives : Survives selectedPayload fun _ => True :=
  .step getContext_survives fun _ => .look

theorem serializeAddress_survives (host : HostArg) (port domain : Int) :
    Survives (serializeAddress host port domain env) fun _ => True := by
  unfold serializeAddress
  split
  · exact .fail
  · split
    · split
      · exact .fail
      · exact .ret trivial
      · exact .ret trivial
    · split
      · split
        · exact .fail
        · exact .ret trivial
        · exact .ret trivial
      · exact .fail

theorem sendmsgTarget_survives (address : Option (HostArg × Int × Int)) :
    Survives (sendmsgTarget address env) fun _ => True := by
  unfold sendmsgTarget
  split
  · exact .ret trivial
  · exact .step (serializeAddress_survives _ _ _) fun _ => .pure trivial

theorem parseTimer_survives (obj : Option PyVal) (stream : StreamStrategy) :
    Survives (parseTimer obj stream) fun _ => True := by
  unfold parseTimer
  split
  · exact .ret trivial
  · exact .ret trivial
  · split
    · exact .ret trivial
    · exact .fail

/-- What every method of a File begins with. -/
theorem fileMethod_survives (self : FileId) (t : Option PyVal)
    {rest : Int → TimeoutParams × Option PyErr → PyProgram Request}
    (hr : ∀ fd p, Survives (rest fd p) Request.Unaborted) :
    Survives (openFileMethod self env >>= fun fd => parseTimeout t >>= rest fd)
      Request.Unaborted :=
  .step (openFileMethod_survives self) fun fd => .step (parseTimeout_survives t) (hr fd)

/-- What every method of a Socket begins with. -/
theorem socketMethod_survives (self : SocketId) (t : Option PyVal)
    {rest : UringioSocket × Int → TimeoutParams × Option PyErr → PyProgram Request}
    (hr : ∀ r p, Survives (rest r p) Request.Unaborted) :
    Survives (openSocketMethod self env >>= fun r => parseTimeout t >>= rest r)
      Request.Unaborted :=
  .step (openSocketMethod_survives self) fun r => .step (parseTimeout_survives t) (hr r)

theorem fileOperation_survives (self : FileId) (opcode : Opcode) (op : Int → COp)
    (t : Option PyVal) : Survives (fileOperation self opcode op t env) Request.Unaborted :=
  fileMethod_survives self t fun _ _ => .step createFuture_survives fun _ => .pure fun _ => .ok

theorem addressedOperation_survives (self : SocketId) (opcode : Opcode)
    (op : Int → SockAddr → Nat → COp) (host : HostArg) (port : Int) (t : Option PyVal) :
    Survives (addressedOperation self opcode op host port t env) Request.Unaborted :=
  socketMethod_survives self t fun _ _ => .step (serializeAddress_survives _ _ _) fun _ =>
    .step createFuture_survives fun _ => .pure fun _ => .ok

end Operations

namespace OpCall

/-- No operation aborts before its submission. -/
theorem prepare_survives (call : OpCall) (env : CallEnv) :
    Survives (call.prepare env) Request.Unaborted := by
  cases call with
  | «open» dfd path flags resolve mode t =>
    unfold prepare uringioOpen
    refine .step .check fun _ => .step .check fun _ => ?_
    refine .step assertRingLoopIsClosing_survives fun _ => .step .check fun _ => ?_
    refine .step .check fun _ => ?_
    split
    · exact .fail
    · refine .step (parseTimeout_survives t) fun _ => .step createFuture_survives fun _ => ?_
      exact .step .change fun _ => .pure fun _ => .ok
  | fileAexit self =>
    refine .step (selfFile_survives self) fun _ => .step .check fun _ => ?_
    exact .step createFuture_survives fun _ => .pure fun _ => .ok
  | fileClose self t =>
    refine fileMethod_survives self t fun _ _ => ?_
    exact .step createFuture_survives fun _ => .pure fun _ => .ok
  | read self offset size t =>
    refine fileMethod_survives self t fun _ _ => .step createFuture_survives fun _ => ?_
    refine .step (linearPayload_survives _ _) fun _ => .step getContext_survives fun _ => ?_
    exact .pure fun _ => readDispatcher_unaborted _ _ _
  | readv self buffersObj offset nowait t =>
    refine fileMethod_survives self t fun fd p => .step selectedPayload_survives fun selected => ?_
    cases selected with
    | some p =>
      refine .step (.ret trivial) fun _ => ?_
      exact .step (createFutureOrDrop_survives _) fun _ => .pure fun _ =>
        readvDispatcher_unaborted _ _
    | none =>
      refine .step (vectoredPayload_survives buffersObj) fun _ => ?_
      exact .step (createFutureOrDrop_survives _) fun _ => .pure fun _ =>
        readvDispatcher_unaborted _ _
  | readvRaw self iovecs offset nowait t =>
    refine fileMethod_survives self t fun fd p => ?_
    cases iovecs with
    | error e => exact .fail
    | ok iovecs =>
      refine .step (pybufferPayload_survives iovecs) fun _ => ?_
      exact .step (createFutureOrDrop_survives _) fun _ => .pure <|
        vectoredCall_request (fun iovecs nrVecs => .readv fd iovecs nrVecs offset nowait) rfl
  | write self offset t =>
    refine fileMethod_survives self t fun _ _ => .step createFuture_survives fun _ => ?_
    exact .step dataPayload_survives fun _ => .pure fun _ => writeDispatcher_unaborted _
  | writev self flags offset t =>
    refine fileMethod_survives self t fun fd _ => .step (vectoredPayload_survives true) fun _ => ?_
    exact .step (createFutureOrDrop_survives _) fun _ => .pure <|
      vectoredCall_request (fun iovecs nrVecs => .writev fd iovecs nrVecs offset flags) rfl
  | writevRaw self iovecs flags offset t =>
    refine fileMethod_survives self t fun fd p => ?_
    cases iovecs with
    | error e => exact .fail
    | ok iovecs =>
      refine .step (pybufferPayload_survives iovecs) fun _ => ?_
      exact .step (createFutureOrDrop_survives _) fun _ => .pure <|
        vectoredCall_request (fun iovecs nrVecs => .writev fd iovecs nrVecs offset flags) rfl
  | fsync self t => exact fileOperation_survives self .fsync .fsync t
  | fdatasync self t => exact fileOperation_survives self .fsync .fdatasync t
  | splice self src dst count offsetSrc offsetDst flag t =>
    exact fileOperation_survives self .splice _ t
  | prepSocket domain socktype t =>
    refine .step .check fun _ => .step .check fun _ => ?_
    refine .step assertRingLoopIsClosing_survives fun _ => .step .check fun _ => ?_
    refine .step .check fun _ => .step (parseTimeout_survives t) fun _ => ?_
    exact .step createFuture_survives fun _ => .step .change fun _ => .pure fun _ => .ok
  | socketAexit self =>
    refine .step (selfSocket_survives self) fun _ => .step .check fun _ => ?_
    exact .step createFuture_survives fun _ => .pure fun _ => .ok
  | bind self host parsed port t => exact addressedOperation_survives self .bind .bind _ port t
  | connect self host parsed port t =>
    exact addressedOperation_survives self .connect .connect _ port t
  | listen self backlog t =>
    refine socketMethod_survives self t fun _ _ => ?_
    exact .step createFuture_survives fun _ => .pure fun _ => .ok
  | accept self t =>
    refine socketMethod_survives self t fun _ _ => .step createFuture_survives fun _ => ?_
    split
    · exact .fail
    · exact .step getContext_survives fun _ => .pure fun _ => acceptDispatcher_unaborted _ _
  | socketClose self t =>
    refine socketMethod_survives self t fun _ _ => ?_
    exact .step createFuture_survives fun _ => .pure fun _ => .ok
  | send self isPollFirst t =>
    refine socketMethod_survives self t fun _ _ => .step dataPayload_survives fun _ => ?_
    refine .step getContext_survives fun _ => .step (createFutureOrDrop_survives _) fun _ => ?_
    exact .pure fun _ => sendDispatcher_unaborted _ _
  | recv self bufsize bufferObj isPollFirst t =>
    refine socketMethod_survives self t fun _ _ => .step (linearPayload_survives _ _) fun _ => ?_
    refine .step getContext_survives fun _ => .step (createFutureOrDrop_survives _) fun _ => ?_
    exact .pure fun _ => recvDispatcher_unaborted _ _
  | sendto self host parsed port domain isPollFirst t =>
    refine socketMethod_survives self t fun r _ => ?_
    refine .step (serializeAddress_survives _ _ _) fun a => .step dataPayload_survives fun _ => ?_
    exact .step (createFutureOrDrop_survives _) fun _ => .pure <|
      linearCall_request (fun buf len =>
        .sendto r.2 buf len a.1 (getSocketSize domain) isPollFirst) rfl
  | recvfrom self bufsize bufferObj address isPollFirst t =>
    refine socketMethod_survives self t fun r _ => ?_
    split
    · exact .stop (by decide)
    · rename_i host port domain
      refine .step (serializeAddress_survives _ _ _) fun a => ?_
      refine .step (linearPayload_survives _ _) fun _ => ?_
      split
      · exact .step .change fun _ => .fail
      · exact .step (createFutureOrDrop_survives _) fun _ => .pure <|
          linearCall_request (fun buf len =>
            .recvfrom r.2 buf len a.1 (getSocketSize domain) isPollFirst) rfl
  | sendmsg self address isPollFirst t =>
    refine socketMethod_survives self t fun _ _ => .step (sendmsgTarget_survives _) fun _ => ?_
    refine .step (vectoredPayload_survives true) fun _ => .step getContext_survives fun _ => ?_
    refine .step (createFutureOrDrop_survives _) fun _ => .pure fun _ => ?_
    exact sendmsgDispatcher_unaborted _ _ _ _
  | recvmsg self buffersObj isPollFirst t =>
    refine socketMethod_survives self t fun _ _ => ?_
    split
    · exact .stop (by decide)
    · refine .step (vectoredPayload_survives true) fun _ => .step getContext_survives fun _ => ?_
      refine .step (createFutureOrDrop_survives _) fun _ => .pure fun _ => ?_
      exact recvmsgDispatcher_unaborted _ _ _
  | timer timerParams =>
    refine .step .check fun _ => .step .check fun _ => ?_
    refine .step assertRingLoopIsClosing_survives fun _ => .step getContext_survives fun _ => ?_
    refine .step (parseTimer_survives _ _) fun _ => .step createFuture_survives fun _ => ?_
    exact .pure fun _ => .ok

end OpCall

/-! ## The submission -/

section Submission

/-- The request with this index has a slot. -/
def Loop.Serves (l : Loop) (index : Int) : Prop :=
  l.registry.Valid ∧ (l.registry.liveSlot index).isSome

theorem registerRequest_serves (req : Request) :
    Ends (· ≠ Stop.abort) (fun l : Loop => l.registry.Sound) (registerRequest req)
      (fun index l => l.Serves index) fun _ _ => True := by
  intro l hv
  cases hr : registerRequest req l with
  | error e =>
    unfold registerRequest at hr
    split at hr
    · cases hr
      exact nofun
    · dsimp only at hr
      split at hr
      · exact absurd hr nofun
      · exact absurd hr nofun
  | ok r =>
    rcases registerRequest_cases hr hv with ⟨-, e, heap, rfl, -⟩ | ⟨htop, rfl⟩
    · trivial
    · obtain ⟨hvalid, -, -, -, hlive⟩ := (hv.valid_of_room htop).add req.registration htop
      refine ⟨?_, ?_⟩
      · rw [Loop.setClosed_registry]
        exact hvalid
      · rw [Loop.setClosed_registry, hlive, if_pos rfl]
        rfl

theorem removeRequest_survives (index : Int) :
    Ends (· ≠ Stop.abort) (fun l : Loop => l.Serves index) (removeRequest index)
      (fun _ _ => True) fun _ _ => True := by
  rintro l ⟨hv, hl⟩
  obtain ⟨slot, hslot⟩ := Option.isSome_iff_exists.mp hl
  obtain ⟨reg, hrem, -⟩ := hv.remove l.heap hslot
  unfold removeRequest
  rw [hrem]
  trivial

/-- The removal after a rejected call is one of a live slot. -/
theorem submitRequest_survives {req : Request} (hreq : req.Unaborted) (submit : Int) :
    Ends (· ≠ Stop.abort) (fun l : Loop => l.registry.Sound) (submitRequest req submit)
      (fun _ _ => True) fun _ _ => True := by
  refine Ends.bind (registerRequest_serves req) fun index => ?_
  have hdispatch : Ends (· ≠ Stop.abort) (fun l : Loop => l.Serves index) (dispatchRequest req)
      (fun _ l => l.Serves index) fun _ _ => True := by
    intro l hl
    unfold dispatchRequest
    cases hd : req.dispatch l.heap with
    | error e =>
      intro he
      exact hreq l.heap (hd.trans (congrArg Except.error he))
    | ok r => exact hl
  refine Ends.bind hdispatch fun op => ?_
  refine Ends.bind (Q := fun _ l => l.Serves index) (.look fun _ hl => hl) fun seq => ?_
  refine Ends.bind (Q := fun _ l => l.Serves index) (.change fun _ hl => hl) fun result => ?_
  split
  · refine Ends.bind (removeRequest_survives index) fun _ => ?_
    exact Ends.bind (Q := fun _ _ => True) (.change fun _ _ => trivial) fun _ =>
      .fail fun _ _ => trivial
  · exact .pure fun _ _ => trivial

/-- In a sound registry no call of an operation aborts. -/
theorem OpCall.run_survives {l : Loop} (hctx : ContextOk l) (hv : l.registry.Sound)
    (call : OpCall) (env : CallEnv) : call.run env l ≠ .error .abort := by
  have hends : Ends (· ≠ Stop.abort) (fun s => s = l) (call.prepare env)
      (fun req s => s.registry.Sound ∧ req.Unaborted) fun _ _ => True := by
    rintro s rfl
    have hprep := call.prepare_survives env s trivial
    cases hr : call.prepare env s with
    | error e =>
      rw [hr] at hprep
      exact hprep
    | ok r =>
      obtain ⟨r, t⟩ := r
      cases r with
      | error x => trivial
      | ok req =>
        rw [hr] at hprep
        obtain ⟨g, rfl, -⟩ := (call.prepare_spec hctx env).returned rfl hr
        exact ⟨hv, hprep⟩
  have hrun : Ends (· ≠ Stop.abort) (fun s => s = l) (call.run env) (fun _ _ => True)
      fun _ _ => True :=
    Ends.bind hends fun _ => .given fun hreq => submitRequest_survives hreq env.submit
  exact fun he => hrun.stopped rfl he rfl

end Submission

end Uringio
