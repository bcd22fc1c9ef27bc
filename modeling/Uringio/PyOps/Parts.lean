/-
  The parts of a payload that an operation uses: the linear buffer, the vector and the pool of
  registered buffers.

  The shape of a payload is chosen by the helper that makes or finds it, the parts that are
  read by the dispatcher and later by the reader. `OpCall.prepare_parts` compares the first
  two for every operation: the dispatcher finds what it reads, but for a zero-copy `sendmsg`,
  which asks for a pool that its payload never has.
-/
import Uringio.PyOps.Prepared

namespace Uringio

open Lib Program

/-! ## Payloads -/

namespace BufferPayload

/-- The payload of a PROVIDED or BUF_RING context. -/
def Selects (b : BufferPayload) : Prop := b.mode = .provided ∨ b.mode = .bufRing

instance (b : BufferPayload) : Decidable b.Selects := inferInstanceAs (Decidable (_ ∨ _))

/-- What a linear operation reads: the buffer, and in FIXED mode the pool. -/
structure LinearReady (b : BufferPayload) : Prop where
  payloadType : b.payloadType = .payloadLinear
  linear : b.linear.isSome
  pool : b.mode = .fixed → b.idxRegistry.isSome

/-- The payload of a context: in FIXED mode it serves linear operations once it has its
    pool, and in the other modes it never has a vector that an operation takes. -/
structure Formed (b : BufferPayload) : Prop where
  pool : b.mode = .fixed → b.payloadType = .payloadLinear → b.idxRegistry.isSome
  vector : b.Selects → b.vector = none
  iovec : b.mode ≠ .normalBuf → b.payloadType ≠ .payloadIovec

theorem formed_of_normalBuf {b : BufferPayload} (h : b.mode = .normalBuf) : b.Formed := by
  refine ⟨fun hm => ?_, fun hs => ?_, fun hm => absurd h hm⟩
  · rw [h] at hm
    exact absurd hm (by simp)
  · rcases hs with hm | hm
    · rw [h] at hm
      exact absurd hm (by simp)
    · rw [h] at hm
      exact absurd hm (by simp)

end BufferPayload

/-- Every payload of the heap is formed. -/
def Heap.Formed (h : Heap) : Prop := ∀ (p : PayloadId) b, h.payloads[p]? = some b → b.Formed

/-- The payload is there, and `P` holds of it. -/
def Heap.Has (h : Heap) (payload : Option PayloadId) (P : BufferPayload → Prop) : Prop :=
  ∃ p b, payload = some p ∧ h.payloads[p]? = some b ∧ P b

/-- A vector of an operation's own. -/
def OwnVector (b : BufferPayload) : Prop :=
  b.mode = .normalBuf ∧ VectorShape b ∧ b.idxRegistry = none

/-- A linear buffer of an operation's own. -/
def OwnLinear (b : BufferPayload) : Prop := b.mode = .normalBuf ∧ b.linear.isSome

/-- What the reader may find in a slot. -/
def PartsFor (opcode : Opcode) (stream : StreamStrategy) (payload : Option PayloadId)
    (heap : Heap) : Prop :=
  match opcode with
  | .read | .recv => heap.Has payload BufferPayload.LinearReady
  | .readv => heap.Has payload fun b => OwnVector b ∨ b.Selects
  | .recvmsg => heap.Has payload fun b => b.LinearReady ∧ stream = .oneshot ∨ OwnVector b
  | .write => heap.Has payload fun b => b.mode = .normalBuf
  | .send | .sendmsg => payload = none ∨ heap.Has payload fun b => b.mode = .normalBuf
  | _ => True

def RequestSlot.Parts (slot : RequestSlot) (heap : Heap) : Prop :=
  PartsFor slot.opcode slot.streamStrategy slot.bufferPayload heap

/-- The dispatcher of the operation finds the parts that it reads. -/
def OpCall.FindsParts (call : OpCall) (l : Loop) : Prop :=
  match call with
  | .sendmsg .. => ∀ c, l.context = some c → c.transferMode ≠ .zeroCopy
  | .readv .. => ∀ c p b, l.context = some c → c.bufferPayload = some p →
      l.heap.payloads[p]? = some b → b.Selects → b.linear.isSome
  | _ => True

/-! ## Dispatchers -/

section Dispatchers

variable {heap : Heap} {p : PayloadId} {b : BufferPayload}

theorem linearOf_isSome (h : b.linear.isSome) : ∃ linear, linearOf b = .ok linear := by
  obtain ⟨linear, hl⟩ := Option.isSome_iff_exists.mp h
  unfold linearOf
  rw [hl]
  exact ⟨linear, rfl⟩

theorem vectorOf_isSome (h : b.vector.isSome) : ∃ vector, vectorOf b = .ok vector := by
  obtain ⟨vector, hv⟩ := Option.isSome_iff_exists.mp h
  unfold vectorOf
  rw [hv]
  exact ⟨vector, rfl⟩

theorem readDispatcher_ok (hb : heap.payloads[p]? = some b) (h : b.LinearReady) (fd : Int)
    (stream : StreamStrategy) (size offset : Int) :
    ∃ x, readDispatcher fd p stream size offset heap = .ok x := by
  obtain ⟨linear, hl⟩ := linearOf_isSome h.linear
  unfold readDispatcher
  rw [payloadAt_of_some hb]
  simp only [bind, Except.bind, pure, Except.pure, hl]
  cases hm : b.mode with
  | fixed =>
    obtain ⟨reg, hreg⟩ := Option.isSome_iff_exists.mp (h.pool hm)
    simp only [takeBufIdx_of_some hreg]
    exact ⟨_, rfl⟩
  | provided | bufRing =>
    dsimp only
    split
    · exact ⟨_, rfl⟩
    · exact ⟨_, rfl⟩
  | normalBuf | bufNoVal => exact ⟨_, rfl⟩

theorem readvDispatcher_ok (hb : heap.payloads[p]? = some b) (h : OwnVector b) (fd offset : Int)
    (nowait : Bool) : ∃ x, readvDispatcher fd p offset nowait heap = .ok x := by
  obtain ⟨vector, hv⟩ := vectorOf_isSome h.2.1.2.2
  unfold readvDispatcher
  rw [payloadAt_of_some hb]
  simp only [bind, Except.bind, pure, Except.pure, h.1, hv]
  exact ⟨_, rfl⟩

/-- In a PROVIDED or BUF_RING context the dispatcher of `readv` reads the linear buffer. -/
theorem readvDispatcher_selected (hb : heap.payloads[p]? = some b) (h : b.Selects)
    (fd offset : Int) (nowait : Bool) :
    (∃ x, readvDispatcher fd p offset nowait heap = .ok x) ↔ b.linear.isSome := by
  have hd : readvDispatcher fd p offset nowait heap = (linearOf b).map fun linear =>
      (.readvBufferSelect fd linear.len offset b.bgid nowait, heap) := by
    unfold readvDispatcher
    rw [payloadAt_of_some hb]
    rcases h with hm | hm
    · simp only [bind, Except.bind, pure, Except.pure, hm]
      cases linearOf b <;> rfl
    · simp only [bind, Except.bind, pure, Except.pure, hm]
      cases linearOf b <;> rfl
  rw [hd]
  unfold linearOf
  cases b.linear with
  | none => simp [Except.map]
  | some linear => simp [Except.map]

theorem writeDispatcher_ok (hb : heap.payloads[p]? = some b) (h : OwnLinear b)
    (fd offset : Int) : ∃ x, writeDispatcher fd p offset heap = .ok x := by
  obtain ⟨linear, hl⟩ := linearOf_isSome h.2
  unfold writeDispatcher
  rw [payloadAt_of_some hb]
  simp only [bind, Except.bind, pure, Except.pure, h.1, hl]
  exact ⟨_, rfl⟩

theorem vectoredCall_ok (hb : heap.payloads[p]? = some b) (h : b.vector.isSome)
    (call : List Iovec → Nat → COp) : ∃ x, vectoredCall p call heap = .ok x := by
  obtain ⟨vector, hv⟩ := vectorOf_isSome h
  unfold vectoredCall
  rw [payloadAt_of_some hb]
  simp only [bind, Except.bind, pure, Except.pure, hv]
  exact ⟨_, rfl⟩

theorem linearCall_ok (hb : heap.payloads[p]? = some b) (h : b.linear.isSome)
    (f : Ptr → Nat → COp) : ∃ x, linearCall p f heap = .ok x := by
  obtain ⟨linear, hl⟩ := linearOf_isSome h
  unfold linearCall
  rw [payloadAt_of_some hb]
  simp only [bind, Except.bind, pure, Except.pure, hl]
  exact ⟨_, rfl⟩

theorem recvDispatcher_ok (hb : heap.payloads[p]? = some b) (h : b.linear.isSome) (fd : Int)
    (stream : StreamStrategy) (isPollFirst : Bool) :
    ∃ x, recvDispatcher fd p stream isPollFirst heap = .ok x := by
  obtain ⟨linear, hl⟩ := linearOf_isSome h
  unfold recvDispatcher
  rw [payloadAt_of_some hb]
  simp only [bind, Except.bind, pure, Except.pure, hl]
  cases b.mode with
  | provided | bufRing =>
    dsimp only
    split
    · exact ⟨_, rfl⟩
    · exact ⟨_, rfl⟩
  | normalBuf | bufNoVal | fixed => exact ⟨_, rfl⟩

theorem recvmsgDispatcher_ok (hb : heap.payloads[p]? = some b) (h : OwnVector b) (fd : Int)
    (stream : StreamStrategy) (isPollFirst : Bool) (msghdr : Option Block) :
    ∃ x, recvmsgDispatcher fd p stream isPollFirst msghdr heap = .ok x := by
  obtain ⟨vector, hv⟩ := vectorOf_isSome h.2.1.2.2
  unfold recvmsgDispatcher
  rw [payloadAt_of_some hb]
  simp only [bind, Except.bind, pure, Except.pure, h.1, hv]
  exact ⟨_, rfl⟩

theorem sendDispatcher_ok (hb : heap.payloads[p]? = some b) (h : OwnLinear b) (fd : Int)
    (transferMode : TransferMode) (isPollFirst : Bool) :
    ∃ x, sendDispatcher fd p transferMode isPollFirst heap = .ok x := by
  obtain ⟨linear, hl⟩ := linearOf_isSome h.2
  unfold sendDispatcher
  rw [payloadAt_of_some hb]
  simp only [bind, Except.bind, pure, Except.pure, hl]
  split
  · rw [if_neg (by simp [h.1])]
    exact ⟨_, rfl⟩
  · exact ⟨_, rfl⟩

/-- The zero-copy `sendmsg` reads the pool, whatever the mode of its payload. -/
theorem sendmsgDispatcher_iff (hb : heap.payloads[p]? = some b) (h : OwnVector b) (fd : Int)
    (transferMode : TransferMode) (addr : Option SockAddr) (addrlen : Nat) (isPollFirst : Bool) :
    (∃ x, sendmsgDispatcher fd p transferMode addr addrlen isPollFirst heap = .ok x) ↔
      transferMode ≠ .zeroCopy := by
  obtain ⟨vector, hv⟩ := vectorOf_isSome h.2.1.2.2
  unfold sendmsgDispatcher
  rw [payloadAt_of_some hb]
  cases transferMode with
  | zeroCopy => simp [bind, Except.bind, takeBufIdx_of_none h.2.2]
  | normalTransfer => simp [bind, Except.bind, pure, Except.pure, hv]

end Dispatchers

/-! ## The steps of an operation -/

/-- A property of the payloads and of the execution context. -/
def Loop.On (Q : Heap → Option ExecutionContext → Prop) (s : Loop) : Prop := Q s.heap s.context

/-- The payloads and the context are those of `l`. -/
def SameHeap (l : Loop) : Loop → Prop := Loop.On fun heap context =>
  heap = l.heap ∧ context = l.context

/-- The context is that of `l`, and the operation has a payload with `P`. -/
def Loaded (l : Loop) (P : BufferPayload → Prop) (p : PayloadId) : Loop → Prop :=
  Loop.On fun heap context => context = l.context ∧ heap.Has (some p) P

section Steps

variable {l : Loop} {env : CallEnv} {P : Loop → Prop}
  {Q : Heap → Option ExecutionContext → Prop}

/-- Nothing is known of an operation that gives up. -/
def anyway : Option PyErr → Loop → Prop := fun _ _ => True

theorem check_keeps (x : Option (Option PyErr)) :
    Triple P (check x : PyProgram Unit) (fun _ => P) anyway :=
  .check (fun _ _ _ _ => trivial) fun _ _ hs => hs

theorem parseTimeout_keeps (obj : Option PyVal) :
    Triple P (parseTimeout obj) (fun _ => P) anyway := by
  unfold parseTimeout
  split
  · exact .fail fun _ _ => trivial
  · exact fun _ hs => hs

theorem assertRingLoopIsClosing_keeps :
    Triple P (assertRingLoopIsClosing env) (fun _ => P) anyway :=
  .bind (Q := fun _ => P) (.look fun _ hs => hs) fun _ => check_keeps _

theorem selfFile_keeps (self : FileId) : Triple P (selfFile self) (fun _ => P) anyway := by
  refine .bind (Q := fun _ => P) (.look fun _ hs => hs) fun _ => ?_
  split
  · exact .pure fun _ hs => hs
  · exact .stop

theorem selfSocket_keeps (self : SocketId) : Triple P (selfSocket self) (fun _ => P) anyway := by
  refine .bind (Q := fun _ => P) (.look fun _ hs => hs) fun _ => ?_
  split
  · exact .pure fun _ hs => hs
  · exact .stop

theorem openFileMethod_keeps (self : FileId) :
    Triple P (openFileMethod self env) (fun _ => P) anyway := by
  refine .bind (selfFile_keeps self) fun _ => .bind (check_keeps _) fun _ => ?_
  refine .bind assertRingLoopIsClosing_keeps fun _ => .bind (check_keeps _) fun _ => ?_
  exact .bind (check_keeps _) fun _ => .pure fun _ hs => hs

theorem openSocketMethod_keeps (self : SocketId) :
    Triple P (openSocketMethod self env) (fun _ => P) anyway := by
  refine .bind (selfSocket_keeps self) fun _ => .bind (check_keeps _) fun _ => ?_
  refine .bind assertRingLoopIsClosing_keeps fun _ => .bind (check_keeps _) fun _ => ?_
  exact .bind (check_keeps _) fun _ => .pure fun _ hs => hs

theorem serializeAddress_keeps (host : HostArg) (port domain : Int) :
    Triple P (serializeAddress host port domain env) (fun _ => P) anyway := by
  unfold serializeAddress
  split
  · exact .fail fun _ _ => trivial
  · split
    · split
      · exact .fail fun _ _ => trivial
      · exact fun _ hs => hs
      · exact fun _ hs => hs
    · split
      · split
        · exact .fail fun _ _ => trivial
        · exact fun _ hs => hs
        · exact fun _ hs => hs
      · exact .fail fun _ _ => trivial

theorem createFuture_keeps : Triple (Loop.On Q) (createFuture env) (fun _ => Loop.On Q) anyway :=
  .bind (check_keeps _) fun _ => .change fun _ hs => hs

theorem createFutureOrDrop_keeps (payload : Option PayloadId) :
    Triple (Loop.On Q) (createFutureOrDrop payload env) (fun _ => Loop.On Q) anyway := by
  unfold createFutureOrDrop
  split
  · exact createFuture_keeps
  · exact .bind (Q := fun _ _ => True) (.change fun _ _ => trivial) fun _ => .fail fun _ _ => trivial

theorem getContext_keeps (h : ∀ heap context, Q heap context → context = l.context) :
    Triple (Loop.On Q) getContext (fun c s => s.On Q ∧ l.context = some c) anyway := by
  refine .bind (Q := fun x s => s.On Q ∧ l.context = x) (.look fun s hs => ⟨hs, ?_⟩) fun x => ?_
  · exact (h _ _ hs).symm
  · cases x with
    | none => exact .stop
    | some c => exact .pure fun _ hs => hs

/-! ### Payloads -/

section Payloads

variable {R : BufferPayload → Prop} (hf : l.heap.Formed) (hctx : ContextOk l)

theorem has_alloc {heap : Heap} {b : BufferPayload} (h : R b) :
    (heap.alloc b).2.Has (some (heap.alloc b).1) R :=
  ⟨_, b, rfl, alloc_payloads_self, h⟩

/-- A helper that returns a payload with `R` or NULL. -/
theorem orFail_loaded (x : Option PayloadId) (e : Option PyErr) :
    Triple (Loop.On fun heap context => context = l.context ∧ (x.isSome → heap.Has x R))
      (orFail x e) (fun p => Loaded l R p) anyway := by
  cases x with
  | none => exact .fail fun _ _ => trivial
  | some p => exact fun s hs => ⟨hs.1, hs.2 rfl⟩

include hf in
theorem getOrCreateLinearBuffer_loaded (context : Option PayloadId) (buffersObj : Bool)
    (size : Int) (env : BufferEnv) :
    match getOrCreateLinearBuffer l.heap context buffersObj size env with
    | .error _ => True
    | .ok (x, heap) => x.isSome → heap.Has x BufferPayload.LinearReady := by
  unfold getOrCreateLinearBuffer
  cases hx : (if buffersObj then none else contextLinear l.heap context) with
  | some p =>
    cases buffersObj with
    | true => exact absurd hx (by simp)
    | false =>
      obtain ⟨-, hany⟩ := Option.filter_eq_some_iff.mp hx
      obtain ⟨b, hb, ht⟩ := (Option.any_eq_true _ _).mp hany
      rw [Bool.and_eq_true, beq_iff_eq] at ht
      exact fun _ => ⟨p, b, rfl, hb, ht.1, ht.2, fun hm => (hf p b hb).pool hm ht.1⟩
  | none =>
    cases env.payload with
    | false => exact fun h => absurd h (by simp)
    | true =>
      cases linearBuffers buffersObj size env with
      | none => trivial
      | some linear => exact fun _ => has_alloc ⟨rfl, rfl, fun hm => absurd hm (by simp)⟩

include hf in
theorem linearPayload_loaded (buffersObj : Bool) (size : Int) :
    Triple (SameHeap l) (linearPayload buffersObj size env)
      (fun p => Loaded l BufferPayload.LinearReady p) anyway := by
  refine .bind (getContext_keeps (l := l) fun _ _ h => h.2) fun c => ?_
  refine .bind (Q := fun x => Loop.On fun heap context =>
    context = l.context ∧ (x.isSome → heap.Has x BufferPayload.LinearReady)) ?_ fun x =>
      orFail_loaded x _
  rintro s ⟨⟨hheap, hc⟩, -⟩
  have hget := getOrCreateLinearBuffer_loaded hf c.bufferPayload buffersObj size env.buffers
  rw [← hheap] at hget
  cases he : getOrCreateLinearBuffer s.heap c.bufferPayload buffersObj size env.buffers with
  | error e => simp only [he]
  | ok r =>
    simp only [he] at hget ⊢
    exact ⟨hc, hget⟩

include hf hctx in
theorem vectoredPayload_loaded (buffersObj : Bool) :
    Triple (SameHeap l) (vectoredPayload buffersObj env) (fun p => Loaded l OwnVector p)
      anyway := by
  refine .bind (getContext_keeps (l := l) fun _ _ h => h.2) fun c => .given fun hctxt => ?_
  refine .bind (Q := fun x => Loop.On fun heap context =>
    context = l.context ∧ (x.isSome → heap.Has x OwnVector)) (.change ?_) fun x =>
      orFail_loaded x _
  rintro s ⟨hheap, hc⟩
  unfold getOrCreateVectoredBuffer
  rw [hheap]
  cases hx : (if buffersObj then none else contextVectored l.heap c.bufferPayload) with
  | some p =>
    -- no payload of a context has the type of a vector
    exfalso
    cases buffersObj with
    | true => exact absurd hx (by simp)
    | false =>
      obtain ⟨hcp, hany⟩ := Option.filter_eq_some_iff.mp hx
      obtain ⟨b, hb, ht⟩ := (Option.any_eq_true _ _).mp hany
      rw [Bool.and_eq_true, beq_iff_eq] at ht
      by_cases hm : b.mode = .normalBuf
      · have := hctx c p b hctxt hcp hb hm
        rw [ht.1] at this
        exact absurd this (by simp)
      · exact (hf p b hb).iovec hm ht.1
  | none =>
    cases env.buffers.payload with
    | false => exact ⟨hc, fun h => absurd h (by simp)⟩
    | true =>
      cases vectoredBuffers buffersObj env.buffers with
      | none => exact ⟨hc, fun h => absurd h (by simp)⟩
      | some vector => exact ⟨hc, fun _ => has_alloc ⟨rfl, ⟨rfl, rfl, rfl⟩, rfl⟩⟩

theorem dataPayload_loaded :
    Triple (SameHeap l) (dataPayload env) (fun p => Loaded l OwnLinear p) anyway := by
  refine .bind (Q := fun x => Loop.On fun heap context =>
    context = l.context ∧ (x.isSome → heap.Has x OwnLinear)) (.change ?_) fun x =>
      orFail_loaded x _
  rintro s ⟨hheap, hc⟩
  unfold createBufferPayloadFromData
  split
  · exact ⟨hc, fun _ => has_alloc ⟨rfl, rfl⟩⟩
  · exact ⟨hc, fun h => absurd h (by simp)⟩

theorem pybufferPayload_loaded (iovecs : List Iovec) :
    Triple (SameHeap l) (pybufferPayload iovecs env) (fun p => Loaded l OwnVector p) anyway := by
  refine .bind (Q := fun x => Loop.On fun heap context =>
    context = l.context ∧ (x.isSome → heap.Has x OwnVector)) (.change ?_) fun x =>
      orFail_loaded x _
  rintro s ⟨hheap, hc⟩
  unfold createBufferPayloadFromPybuffer
  split
  · exact ⟨hc, fun _ => has_alloc ⟨rfl, ⟨rfl, rfl, rfl⟩, rfl⟩⟩
  · exact ⟨hc, fun h => absurd h (by simp)⟩

end Payloads

end Steps

/-! ## Every operation -/

/-- The request of an operation: its dispatcher finds what it reads exactly when
    `FindsParts` says so, and its slot has the parts for the reader. -/
structure OpCall.HasParts (call : OpCall) (l : Loop) (req : Request) (s : Loop) : Prop where
  dispatch : (∃ x, req.dispatch s.heap = .ok x) ↔ call.FindsParts l
  registered : PartsFor req.registration.opcode req.registration.streamStrategy
    req.registration.bufferPayload s.heap

/-- The operation gets such a request ready or gives up. -/
def PreparesParts (call : OpCall) (l : Loop) (program : PyProgram Request) : Prop :=
  Triple (SameHeap l) program (fun req s => call.HasParts l req s) anyway

section Methods

variable {l : Loop} {env : CallEnv} {call : OpCall}

/-- A request whose dispatcher reads no payload. -/
theorem hasParts_const {req : Request} {s : Loop} {op : COp}
    (hd : req.dispatch s.heap = .ok (op, s.heap)) (hc : call.FindsParts l)
    (hr : PartsFor req.registration.opcode req.registration.streamStrategy
      req.registration.bufferPayload s.heap) : call.HasParts l req s :=
  ⟨⟨fun _ => hc, fun _ => ⟨_, hd⟩⟩, hr⟩

/-- A request whose dispatcher always finds what it reads. -/
theorem hasParts_of_ok {req : Request} {s : Loop} (hd : ∃ x, req.dispatch s.heap = .ok x)
    (hc : call.FindsParts l)
    (hr : PartsFor req.registration.opcode req.registration.streamStrategy
      req.registration.bufferPayload s.heap) : call.HasParts l req s :=
  ⟨⟨fun _ => hc, fun _ => hd⟩, hr⟩

theorem hasParts_vectoredCall {req : Request} {s : Loop} {p : PayloadId} {b : BufferPayload}
    (f : List Iovec → Nat → COp) (hreq : req.dispatch = vectoredCall p f)
    (hb : s.heap.payloads[p]? = some b) (hv : OwnVector b) (hc : call.FindsParts l)
    (hr : PartsFor req.registration.opcode req.registration.streamStrategy
      req.registration.bufferPayload s.heap) : call.HasParts l req s :=
  hasParts_of_ok (hreq ▸ vectoredCall_ok hb hv.2.1.2.2 f) hc hr

theorem hasParts_linearCall {req : Request} {s : Loop} {p : PayloadId} {b : BufferPayload}
    (f : Ptr → Nat → COp) (hreq : req.dispatch = linearCall p f)
    (hb : s.heap.payloads[p]? = some b) (hl : b.linear.isSome) (hc : call.FindsParts l)
    (hr : PartsFor req.registration.opcode req.registration.streamStrategy
      req.registration.bufferPayload s.heap) : call.HasParts l req s :=
  hasParts_of_ok (hreq ▸ linearCall_ok hb hl f) hc hr

/-! ### Files -/

theorem open_parts (dfd : Int) (path : Except PyErr String) (flags resolve mode : Int)
    (t : Option PyVal) :
    PreparesParts (.open dfd path flags resolve mode t) l
      (uringioOpen dfd path flags resolve mode t env) := by
  unfold PreparesParts uringioOpen
  refine .bind (check_keeps _) fun _ => .bind (check_keeps _) fun _ => ?_
  refine .bind assertRingLoopIsClosing_keeps fun _ => .bind (check_keeps _) fun _ => ?_
  refine .bind (check_keeps _) fun _ => ?_
  cases path with
  | error e => exact .fail fun _ _ => trivial
  | ok path =>
    refine .bind (parseTimeout_keeps _) fun _ => .bind createFuture_keeps fun _ => ?_
    refine .bind (Q := fun _ => SameHeap l) (.change fun _ hs => hs) fun _ => ?_
    exact .pure fun s _ => hasParts_const rfl trivial trivial

theorem fileAexit_parts (self : FileId) :
    PreparesParts (.fileAexit self) l (UringioFile.aexit self env) := by
  unfold PreparesParts UringioFile.aexit
  refine .bind (selfFile_keeps self) fun _ => .bind (check_keeps _) fun _ => ?_
  exact .bind createFuture_keeps fun _ => .pure fun s _ => hasParts_const rfl trivial trivial

/-- The methods of a File that use no payload. -/
theorem fileOperation_parts (self : FileId) (opcode : Opcode) (op : Int → COp)
    (t : Option PyVal) (hc : call.FindsParts l)
    (hr : ∀ stream payload heap, PartsFor opcode stream payload heap) :
    PreparesParts call l (fileOperation self opcode op t env) := by
  unfold PreparesParts fileOperation
  refine .bind (openFileMethod_keeps self) fun _ => .bind (parseTimeout_keeps _) fun _ => ?_
  exact .bind createFuture_keeps fun _ => .pure fun s _ => hasParts_const rfl hc (hr _ _ _)

theorem read_parts (hf : l.heap.Formed) (self : FileId) (offset size : Int) (t : Option PyVal) :
    PreparesParts (.read self offset size t) l (UringioFile.read self offset size t env) := by
  unfold PreparesParts UringioFile.read
  refine .bind (openFileMethod_keeps self) fun _ => .bind (parseTimeout_keeps _) fun _ => ?_
  refine .bind createFuture_keeps fun _ => .bind (linearPayload_loaded hf false size) fun p => ?_
  refine .bind (getContext_keeps fun _ _ h => h.1) fun c => .given fun _ => .pure ?_
  rintro s ⟨-, q, b, hq, hb, hlin⟩
  obtain rfl := Option.some.inj hq
  exact hasParts_of_ok (readDispatcher_ok hb hlin _ _ _ _) trivial ⟨p, b, rfl, hb, hlin⟩

/-- The payload that `readv` takes from a PROVIDED or BUF_RING context. -/
theorem selectedPayload_loaded :
    Triple (SameHeap l) selectedPayload
      (fun x s => SameHeap l s ∧ ∃ c, l.context = some c ∧
        x = c.bufferPayload.filter fun p =>
          (l.heap.payloads[p]?).any fun b => b.mode == .provided || b.mode == .bufRing)
      anyway := by
  refine .bind (getContext_keeps fun _ _ h => h.2) fun c => .look ?_
  rintro s ⟨hs, hc⟩
  exact ⟨hs, c, hc, by rw [hs.1]⟩

theorem readv_parts (hf : l.heap.Formed) (hctx : ContextOk l) (self : FileId)
    (buffersObj : Bool) (offset : Int) (nowait : Bool) (t : Option PyVal) :
    PreparesParts (.readv self buffersObj offset nowait t) l
      (UringioFile.readv self buffersObj offset nowait t env) := by
  unfold PreparesParts UringioFile.readv
  refine .bind (openFileMethod_keeps self) fun _ => .bind (parseTimeout_keeps _) fun _ => ?_
  refine .bind selectedPayload_loaded fun x => .given fun ⟨c, hc, hx⟩ => ?_
  cases x with
  | some p =>
    obtain ⟨hcp, hany⟩ := Option.filter_eq_some_iff.mp hx.symm
    obtain ⟨b, hb, ht⟩ := (Option.any_eq_true _ _).mp hany
    have hsel : b.Selects := by simpa [BufferPayload.Selects] using ht
    refine .bind (Q := fun q s => SameHeap l s ∧ q = p) (fun s hs => ⟨hs, rfl⟩) fun q =>
      .given fun hq => ?_
    subst hq
    refine .bind (createFutureOrDrop_keeps _) fun _ => .pure fun s hs => ?_
    have hb' : s.heap.payloads[q]? = some b := hs.1 ▸ hb
    refine ⟨(readvDispatcher_selected hb' hsel _ _ _).trans ⟨fun hl => ?_, fun hl => ?_⟩,
      q, b, rfl, hb', .inr hsel⟩
    · intro c' p' b' hc' hp' hb'' _
      obtain rfl := Option.some.inj (hc.symm.trans hc')
      obtain rfl := Option.some.inj (hcp.symm.trans hp')
      obtain rfl := Option.some.inj (hb.symm.trans hb'')
      exact hl
    · exact hl c q b hc hcp hb hsel
  | none =>
    have hnone : ∀ p b, c.bufferPayload = some p → l.heap.payloads[p]? = some b →
        ¬ b.Selects := by
      intro p b hp hb hsel
      have := Option.filter_eq_none_iff.mp hx.symm p hp
      rw [hb] at this
      rcases hsel with hm | hm
      · simp [hm] at this
      · simp [hm] at this
    refine .bind (vectoredPayload_loaded hf hctx buffersObj) fun p => ?_
    refine .bind (createFutureOrDrop_keeps _) fun _ => .pure ?_
    rintro s ⟨-, q, b, hq, hb, hvec⟩
    obtain rfl := Option.some.inj hq
    refine hasParts_of_ok (readvDispatcher_ok hb hvec _ _ _) ?_ ⟨p, b, rfl, hb, .inl hvec⟩
    intro c' p' b' hc' hp' hb' hsel
    obtain rfl := Option.some.inj (hc.symm.trans hc')
    exact absurd hsel (hnone p' b' hp' hb')

/-- The tail of the methods that use a vector of their own. -/
theorem vectored_parts {payload : PyProgram PayloadId} {request : PayloadId → FutureId → Request}
    (hp : Triple (SameHeap l) payload (fun p => Loaded l OwnVector p) anyway)
    (h : ∀ p future s b, s.heap.payloads[p]? = some b → OwnVector b →
      call.HasParts l (request p future) s) :
    Triple (SameHeap l) (do
      let p ← payload
      let future ← createFutureOrDrop p env
      return request p future) (fun req s => call.HasParts l req s) anyway := by
  refine .bind hp fun p => .bind (createFutureOrDrop_keeps _) fun future => .pure ?_
  rintro s ⟨-, q, b, hq, hb, hvec⟩
  obtain rfl := Option.some.inj hq
  exact h p future s b hb hvec

theorem readvRaw_parts (self : FileId) (iovecs : Except PyErr (List Iovec)) (offset : Int)
    (nowait : Bool) (t : Option PyVal) :
    PreparesParts (.readvRaw self iovecs offset nowait t) l
      (UringioFile.readvRaw self iovecs offset nowait t env) := by
  unfold PreparesParts UringioFile.readvRaw
  refine .bind (openFileMethod_keeps self) fun fd => .bind (parseTimeout_keeps _) fun _ => ?_
  cases iovecs with
  | error e => exact .fail fun _ _ => trivial
  | ok iovecs =>
    refine vectored_parts (pybufferPayload_loaded iovecs) fun p _ s b hb hvec => ?_
    exact hasParts_vectoredCall (fun iovecs nrVecs => .readv fd iovecs nrVecs offset nowait) rfl hb
      hvec trivial ⟨p, b, rfl, hb, .inl hvec⟩

theorem write_parts (self : FileId) (offset : Int) (t : Option PyVal) :
    PreparesParts (.write self offset t) l (UringioFile.write self offset t env) := by
  unfold PreparesParts UringioFile.write
  refine .bind (openFileMethod_keeps self) fun _ => .bind (parseTimeout_keeps _) fun _ => ?_
  refine .bind createFuture_keeps fun _ => .bind dataPayload_loaded fun p => .pure ?_
  rintro s ⟨-, q, b, hq, hb, hlin⟩
  obtain rfl := Option.some.inj hq
  exact hasParts_of_ok (writeDispatcher_ok hb hlin _ _) trivial ⟨p, b, rfl, hb, hlin.1⟩

theorem writev_parts (hf : l.heap.Formed) (hctx : ContextOk l) (self : FileId)
    (flags offset : Int) (t : Option PyVal) :
    PreparesParts (.writev self flags offset t) l
      (UringioFile.writev self flags offset t env) := by
  unfold PreparesParts UringioFile.writev
  refine .bind (openFileMethod_keeps self) fun fd => .bind (parseTimeout_keeps _) fun _ => ?_
  refine vectored_parts (vectoredPayload_loaded hf hctx true) fun p _ s b hb hvec => ?_
  exact hasParts_vectoredCall (fun iovecs nrVecs => .writev fd iovecs nrVecs offset flags) rfl hb
    hvec trivial trivial

theorem writevRaw_parts (self : FileId) (iovecs : Except PyErr (List Iovec))
    (flags offset : Int) (t : Option PyVal) :
    PreparesParts (.writevRaw self iovecs flags offset t) l
      (UringioFile.writevRaw self iovecs flags offset t env) := by
  unfold PreparesParts UringioFile.writevRaw
  refine .bind (openFileMethod_keeps self) fun fd => .bind (parseTimeout_keeps _) fun _ => ?_
  cases iovecs with
  | error e => exact .fail fun _ _ => trivial
  | ok iovecs =>
    refine vectored_parts (pybufferPayload_loaded iovecs) fun p _ s b hb hvec => ?_
    exact hasParts_vectoredCall (fun iovecs nrVecs => .writev fd iovecs nrVecs offset flags) rfl
      hb hvec trivial trivial

/-! ### Sockets -/

theorem prepSocket_parts (domain socktype : Int) (t : Option PyVal) :
    PreparesParts (.prepSocket domain socktype t) l
      (uringioPrepSocket domain socktype t env) := by
  unfold PreparesParts uringioPrepSocket
  refine .bind (check_keeps _) fun _ => .bind (check_keeps _) fun _ => ?_
  refine .bind assertRingLoopIsClosing_keeps fun _ => .bind (check_keeps _) fun _ => ?_
  refine .bind (check_keeps _) fun _ => .bind (parseTimeout_keeps _) fun _ => ?_
  refine .bind createFuture_keeps fun _ => ?_
  refine .bind (Q := fun _ => SameHeap l) (.change fun _ hs => hs) fun _ => ?_
  exact .pure fun s _ => hasParts_const rfl trivial trivial

theorem socketAexit_parts (self : SocketId) :
    PreparesParts (.socketAexit self) l (UringioSocket.aexit self env) := by
  unfold PreparesParts UringioSocket.aexit
  refine .bind (selfSocket_keeps self) fun _ => .bind (check_keeps _) fun _ => ?_
  exact .bind createFuture_keeps fun _ => .pure fun s _ => hasParts_const rfl trivial trivial

/-- The methods that send an address. -/
theorem addressedOperation_parts (self : SocketId) (opcode : Opcode)
    (op : Int → SockAddr → Nat → COp) (host : HostArg) (port : Int) (t : Option PyVal)
    (hc : call.FindsParts l) (hr : ∀ stream payload heap, PartsFor opcode stream payload heap) :
    PreparesParts call l (addressedOperation self opcode op host port t env) := by
  unfold PreparesParts addressedOperation
  refine .bind (openSocketMethod_keeps self) fun _ => .bind (parseTimeout_keeps _) fun _ => ?_
  refine .bind (serializeAddress_keeps _ _ _) fun _ => .bind createFuture_keeps fun _ => ?_
  exact .pure fun s _ => hasParts_const rfl hc (hr _ _ _)

theorem listen_parts (self : SocketId) (backlog : Int) (t : Option PyVal) :
    PreparesParts (.listen self backlog t) l (UringioSocket.listen self backlog t env) := by
  unfold PreparesParts UringioSocket.listen
  refine .bind (openSocketMethod_keeps self) fun _ => .bind (parseTimeout_keeps _) fun _ => ?_
  exact .bind createFuture_keeps fun _ => .pure fun s _ => hasParts_const rfl trivial trivial

theorem accept_parts (self : SocketId) (t : Option PyVal) :
    PreparesParts (.accept self t) l (UringioSocket.accept self t env) := by
  unfold PreparesParts UringioSocket.accept
  refine .bind (openSocketMethod_keeps self) fun _ => .bind (parseTimeout_keeps _) fun _ => ?_
  refine .bind createFuture_keeps fun _ => ?_
  split
  · exact .fail fun _ _ => trivial
  · refine .bind (getContext_keeps fun _ _ h => h.2) fun c => .pure fun s _ => ?_
    refine hasParts_of_ok ?_ trivial trivial
    dsimp only [socketRequest, acceptDispatcher]
    split
    · exact ⟨_, rfl⟩
    · exact ⟨_, rfl⟩

theorem socketClose_parts (self : SocketId) (t : Option PyVal) :
    PreparesParts (.socketClose self t) l (UringioSocket.close self t env) := by
  unfold PreparesParts UringioSocket.close
  refine .bind (openSocketMethod_keeps self) fun _ => .bind (parseTimeout_keeps _) fun _ => ?_
  exact .bind createFuture_keeps fun _ => .pure fun s _ => hasParts_const rfl trivial trivial

theorem send_parts (self : SocketId) (isPollFirst : Bool) (t : Option PyVal) :
    PreparesParts (.send self isPollFirst t) l (UringioSocket.send self isPollFirst t env) := by
  unfold PreparesParts UringioSocket.send
  refine .bind (openSocketMethod_keeps self) fun _ => .bind (parseTimeout_keeps _) fun _ => ?_
  refine .bind dataPayload_loaded fun p => ?_
  refine .bind (getContext_keeps fun _ _ h => h.1) fun c => .given fun _ => ?_
  refine .bind (createFutureOrDrop_keeps _) fun _ => .pure ?_
  rintro s ⟨-, q, b, hq, hb, hlin⟩
  obtain rfl := Option.some.inj hq
  exact hasParts_of_ok (sendDispatcher_ok hb hlin _ _ _) trivial (.inr ⟨p, b, rfl, hb, hlin.1⟩)

theorem recv_parts (hf : l.heap.Formed) (self : SocketId) (bufsize : Int)
    (bufferObj isPollFirst : Bool) (t : Option PyVal) :
    PreparesParts (.recv self bufsize bufferObj isPollFirst t) l
      (UringioSocket.recv self bufsize bufferObj isPollFirst t env) := by
  unfold PreparesParts UringioSocket.recv
  refine .bind (openSocketMethod_keeps self) fun _ => .bind (parseTimeout_keeps _) fun _ => ?_
  refine .bind (linearPayload_loaded hf bufferObj bufsize) fun p => ?_
  refine .bind (getContext_keeps fun _ _ h => h.1) fun c => .given fun _ => ?_
  refine .bind (createFutureOrDrop_keeps _) fun _ => .pure ?_
  rintro s ⟨-, q, b, hq, hb, hlin⟩
  obtain rfl := Option.some.inj hq
  exact hasParts_of_ok (recvDispatcher_ok hb hlin.linear _ _ _) trivial ⟨p, b, rfl, hb, hlin⟩

theorem sendto_parts (self : SocketId) (host : List Nat) (parsed : Bool) (port domain : Int)
    (isPollFirst : Bool) (t : Option PyVal) :
    PreparesParts (.sendto self host parsed port domain isPollFirst t) l
      (UringioSocket.sendto self host parsed port domain isPollFirst t env) := by
  unfold PreparesParts UringioSocket.sendto
  refine .bind (openSocketMethod_keeps self) fun r => .bind (parseTimeout_keeps _) fun _ => ?_
  refine .bind (serializeAddress_keeps _ _ _) fun addr => .bind dataPayload_loaded fun p => ?_
  refine .bind (createFutureOrDrop_keeps _) fun _ => .pure ?_
  rintro s ⟨-, q, b, hq, hb, hlin⟩
  obtain rfl := Option.some.inj hq
  exact hasParts_linearCall (fun buf len =>
    .sendto r.2 buf len addr.1 (getSocketSize domain) isPollFirst) rfl hb hlin.2 trivial (.inl rfl)

theorem recvfrom_parts (hf : l.heap.Formed) (self : SocketId) (bufsize : Int)
    (bufferObj : Bool) (address : Option (HostArg × Int × Int)) (isPollFirst : Bool)
    (t : Option PyVal) :
    PreparesParts (.recvfrom self bufsize bufferObj address isPollFirst t) l
      (UringioSocket.recvfrom self bufsize bufferObj address isPollFirst t env) := by
  unfold PreparesParts UringioSocket.recvfrom
  refine .bind (openSocketMethod_keeps self) fun r => .bind (parseTimeout_keeps _) fun _ => ?_
  cases address with
  | none => exact .stop
  | some address =>
    obtain ⟨host, port, domain⟩ := address
    refine .bind (serializeAddress_keeps _ _ _) fun addr => ?_
    refine .bind (linearPayload_loaded hf bufferObj bufsize) fun p => ?_
    split
    · refine .bind (Q := fun _ _ => True) (.change fun _ _ => trivial) fun _ => ?_
      exact .fail fun _ _ => trivial
    · refine .bind (createFutureOrDrop_keeps _) fun _ => .pure ?_
      rintro s ⟨-, q, b, hq, hb, hlin⟩
      obtain rfl := Option.some.inj hq
      exact hasParts_linearCall (fun buf len =>
        .recvfrom r.2 buf len addr.1 (getSocketSize domain) isPollFirst) rfl hb hlin.linear trivial
        ⟨p, b, rfl, hb, .inl ⟨hlin, rfl⟩⟩

theorem sendmsgTarget_keeps {P : Loop → Prop} (address : Option (HostArg × Int × Int)) :
    Triple P (sendmsgTarget address env) (fun _ => P) anyway := by
  unfold sendmsgTarget
  cases address with
  | none => exact fun _ hs => hs
  | some address => exact .bind (serializeAddress_keeps _ _ _) fun _ => .pure fun _ hs => hs

theorem sendmsg_parts (hf : l.heap.Formed) (hctx : ContextOk l) (self : SocketId)
    (address : Option (HostArg × Int × Int)) (isPollFirst : Bool) (t : Option PyVal) :
    PreparesParts (.sendmsg self address isPollFirst t) l
      (UringioSocket.sendmsg self address isPollFirst t env) := by
  unfold PreparesParts UringioSocket.sendmsg
  refine .bind (openSocketMethod_keeps self) fun _ => .bind (parseTimeout_keeps _) fun _ => ?_
  refine .bind (sendmsgTarget_keeps _) fun _ => ?_
  refine .bind (vectoredPayload_loaded hf hctx true) fun p => ?_
  refine .bind (getContext_keeps fun _ _ h => h.1) fun c => .given fun hc => ?_
  refine .bind (createFutureOrDrop_keeps _) fun _ => .pure ?_
  rintro s ⟨-, q, b, hq, hb, hvec⟩
  obtain rfl := Option.some.inj hq
  refine ⟨(sendmsgDispatcher_iff hb hvec _ _ _ _ _).trans ⟨fun hz c' hc' => ?_, fun h => ?_⟩,
    .inr ⟨p, b, rfl, hb, hvec.1⟩⟩
  · obtain rfl := Option.some.inj (hc.symm.trans hc')
    exact hz
  · exact h c hc

theorem recvmsg_parts (hf : l.heap.Formed) (hctx : ContextOk l) (self : SocketId)
    (buffersObj isPollFirst : Bool) (t : Option PyVal) :
    PreparesParts (.recvmsg self buffersObj isPollFirst t) l
      (UringioSocket.recvmsg self buffersObj isPollFirst t env) := by
  unfold PreparesParts UringioSocket.recvmsg
  refine .bind (openSocketMethod_keeps self) fun _ => .bind (parseTimeout_keeps _) fun _ => ?_
  split
  · exact .stop
  · refine .bind (vectoredPayload_loaded hf hctx true) fun p => ?_
    refine .bind (getContext_keeps fun _ _ h => h.1) fun c => .given fun _ => ?_
    refine .bind (createFutureOrDrop_keeps _) fun _ => .pure ?_
    rintro s ⟨-, q, b, hq, hb, hvec⟩
    obtain rfl := Option.some.inj hq
    exact hasParts_of_ok (recvmsgDispatcher_ok hb hvec _ _ _ _) trivial
      ⟨p, b, rfl, hb, .inr hvec⟩

theorem timer_parts (timerParams : Option PyVal) :
    PreparesParts (.timer timerParams) l (uringioLoopTimer timerParams env) := by
  unfold PreparesParts uringioLoopTimer
  refine .bind (check_keeps _) fun _ => .bind (check_keeps _) fun _ => ?_
  refine .bind assertRingLoopIsClosing_keeps fun _ => ?_
  refine .bind (getContext_keeps fun _ _ h => h.2) fun c => .given fun _ => ?_
  refine .bind (Q := fun _ => SameHeap l) ?_ fun _ => .bind createFuture_keeps fun _ => ?_
  · unfold parseTimer
    split
    · exact fun _ hs => hs
    · exact fun _ hs => hs
    · split
      · exact fun _ hs => hs
      · exact .fail fun _ _ => trivial
  · exact .pure fun s _ => hasParts_const rfl trivial trivial

end Methods

/-- Every operation. -/
theorem OpCall.prepare_parts {l : Loop} (hf : l.heap.Formed) (hctx : ContextOk l)
    (call : OpCall) (env : CallEnv) : PreparesParts call l (call.prepare env) := by
  cases call with
  | «open» dfd path flags resolve mode t => exact open_parts dfd path flags resolve mode t
  | fileAexit self => exact fileAexit_parts self
  | fileClose self t => exact fileOperation_parts self _ _ t trivial fun _ _ _ => trivial
  | read self offset size t => exact read_parts hf self offset size t
  | readv self buffersObj offset nowait t =>
    exact readv_parts hf hctx self buffersObj offset nowait t
  | readvRaw self iovecs offset nowait t => exact readvRaw_parts self iovecs offset nowait t
  | write self offset t => exact write_parts self offset t
  | writev self flags offset t => exact writev_parts hf hctx self flags offset t
  | writevRaw self iovecs flags offset t => exact writevRaw_parts self iovecs flags offset t
  | fsync self t => exact fileOperation_parts self _ _ t trivial fun _ _ _ => trivial
  | fdatasync self t => exact fileOperation_parts self _ _ t trivial fun _ _ _ => trivial
  | splice self src dst count offsetSrc offsetDst flag t =>
    exact fileOperation_parts self _ _ t trivial fun _ _ _ => trivial
  | prepSocket domain socktype t => exact prepSocket_parts domain socktype t
  | socketAexit self => exact socketAexit_parts self
  | bind self host parsed port t =>
    exact addressedOperation_parts self _ _ _ _ t trivial fun _ _ _ => trivial
  | connect self host parsed port t =>
    exact addressedOperation_parts self _ _ _ _ t trivial fun _ _ _ => trivial
  | listen self backlog t => exact listen_parts self backlog t
  | accept self t => exact accept_parts self t
  | socketClose self t => exact socketClose_parts self t
  | send self isPollFirst t => exact send_parts self isPollFirst t
  | recv self bufsize bufferObj isPollFirst t =>
    exact recv_parts hf self bufsize bufferObj isPollFirst t
  | sendto self host parsed port domain isPollFirst t =>
    exact sendto_parts self host parsed port domain isPollFirst t
  | recvfrom self bufsize bufferObj address isPollFirst t =>
    exact recvfrom_parts hf self bufsize bufferObj address isPollFirst t
  | sendmsg self address isPollFirst t => exact sendmsg_parts hf hctx self address isPollFirst t
  | recvmsg self buffersObj isPollFirst t =>
    exact recvmsg_parts hf hctx self buffersObj isPollFirst t
  | timer timerParams => exact timer_parts timerParams

end Uringio
