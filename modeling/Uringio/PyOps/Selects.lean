/-
  Where the kernel puts the bytes of an operation.

  An operation either names its buffers to the kernel, or the number of a group from which
  the kernel takes one (`COp.bgid`). What lies in the payload of the context matters for both:
  the operations that read into a PROVIDED or BUF_RING context select a buffer, but for
  `recvfrom`, which names the first one (`OpCall.prepare_fills`).
-/
import Uringio.PyOps.Parts
import Uringio.Lib.Memory

namespace Uringio

open Lib Program

/-! ## Buffers and addresses -/

/-- The buffer with the number `bid`, as the kernel counts from the address that it got. -/
def LinearBuffer.at (b : LinearBuffer) (bid : Nat) : LinearBuffer :=
  match b.buffer with
  | .mem n => ⟨.mem (n + bid * b.len), b.len⟩
  | p => ⟨p, b.len⟩

/-- The addresses of the bytes. -/
def Iovec.region (v : Iovec) : Region :=
  match v.iovBase with
  | .mem n => (List.range v.iovLen).map fun k => some (n + k)
  | _ => List.replicate v.iovLen none

def region (vs : List Iovec) : Region := vs.flatMap Iovec.region

theorem length_iovec_region (v : Iovec) : v.region.length = v.iovLen := by
  unfold Iovec.region
  split
  · rw [List.length_map, List.length_range]
  · exact List.length_replicate

namespace COp

/-- The group that the operation selects a buffer from. -/
def bgid : COp → Option Int
  | .readMultishot _ _ bgid | .readBufferSelect _ _ _ bgid => some bgid
  | .readvBufferSelect _ _ _ bgid _ | .recvMultishot _ _ bgid _ => some bgid
  | .recvmsgMultishot _ bgid _ _ | .recvBufferSelect _ _ bgid _ => some bgid
  | .recvmsgBufferSelect _ _ bgid => some bgid
  | _ => none

/-- Where the kernel writes what the operation reads; `selected` is the buffer that it has
    taken from the group. -/
def fills (op : COp) (selected : Option LinearBuffer) : List Iovec :=
  match op with
  | .read _ buf size _ | .readFixed _ buf size _ _ => [⟨buf, size⟩]
  | .recv _ buf len _ | .recvFixed _ buf len _ _ | .recvfrom _ buf len _ _ _ => [⟨buf, len⟩]
  | .readv _ iovecs nrVecs _ _ | .recvmsg _ iovecs nrVecs _ => iovecs.take nrVecs
  | .recvmsgFixed _ iovecs nrVecs _ _ => iovecs.take nrVecs
  | op => if op.bgid.isSome then selected.toList.map LinearBuffer.iovec else []

theorem fills_of_bgid {op : COp} (h : op.bgid.isSome) (selected : Option LinearBuffer) :
    op.fills selected = selected.toList.map LinearBuffer.iovec := by
  cases op with
  | readMultishot | readBufferSelect | readvBufferSelect | recvMultishot | recvmsgMultishot
  | recvBufferSelect | recvmsgBufferSelect => rfl
  | _ => exact absurd h (by simp [bgid])

end COp

/-! ## Dispatchers -/

/-- The opcodes whose branch gives out the bytes of a linear buffer. -/
def Opcode.linear : Opcode → Bool
  | .read | .recv | .recvmsg => true
  | _ => false

/-- The operation selects a buffer, or it names the first one of its payload. -/
def COp.FillsSelected (op : COp) (linear : LinearBuffer) : Prop :=
  op.bgid.isSome ∨ ∃ len, ∀ selected, op.fills selected = [⟨linear.buffer, len⟩]

/-- So does what the dispatcher of the request makes of a payload that selects. -/
def Request.FillsSelected (req : Request) : Prop :=
  ∀ heap op heap' p b linear, req.dispatch heap = .ok (op, heap') →
    req.registration.bufferPayload = some p → heap.payloads[p]? = some b → b.Selects →
    b.linear = some linear → op.FillsSelected linear

section Dispatchers

variable {heap heap' : Heap} {p : PayloadId} {b : BufferPayload} {op : COp}

theorem readDispatcher_bgid {fd size offset : Int} {stream : StreamStrategy}
    (hb : heap.payloads[p]? = some b) (hs : b.Selects)
    (h : readDispatcher fd p stream size offset heap = .ok (op, heap')) :
    op.bgid = some b.bgid := by
  unfold readDispatcher at h
  rw [payloadAt_of_some hb] at h
  simp only [bind, Except.bind, pure, Except.pure] at h
  rcases hs with hm | hm
  · rw [hm] at h
    cases stream with
    | multishot | oneshot =>
      obtain ⟨rfl, -⟩ := Prod.mk.inj (Except.ok.inj h)
      rfl
  · rw [hm] at h
    cases stream with
    | multishot | oneshot =>
      obtain ⟨rfl, -⟩ := Prod.mk.inj (Except.ok.inj h)
      rfl

theorem readvDispatcher_bgid {fd offset : Int} {nowait : Bool}
    (hb : heap.payloads[p]? = some b) (hs : b.Selects)
    (h : readvDispatcher fd p offset nowait heap = .ok (op, heap')) :
    op.bgid = some b.bgid := by
  unfold readvDispatcher at h
  rw [payloadAt_of_some hb] at h
  obtain ⟨_, hx, h⟩ := except_bind_ok h
  obtain rfl := Except.ok.inj hx
  rcases hs with hm | hm
  · rw [hm] at h
    obtain ⟨linear, -, h⟩ := except_bind_ok h
    obtain ⟨rfl, -⟩ := Prod.mk.inj (Except.ok.inj h)
    rfl
  · rw [hm] at h
    obtain ⟨linear, -, h⟩ := except_bind_ok h
    obtain ⟨rfl, -⟩ := Prod.mk.inj (Except.ok.inj h)
    rfl

theorem recvDispatcher_bgid {fd : Int} {stream : StreamStrategy} {isPollFirst : Bool}
    (hb : heap.payloads[p]? = some b) (hs : b.Selects)
    (h : recvDispatcher fd p stream isPollFirst heap = .ok (op, heap')) :
    op.bgid = some b.bgid := by
  unfold recvDispatcher at h
  rw [payloadAt_of_some hb] at h
  obtain ⟨_, hx, h⟩ := except_bind_ok h
  obtain rfl := Except.ok.inj hx
  obtain ⟨linear, -, h⟩ := except_bind_ok h
  rcases hs with hm | hm
  · rw [hm] at h
    cases stream with
    | multishot | oneshot =>
      obtain ⟨rfl, -⟩ := Prod.mk.inj (Except.ok.inj h)
      rfl
  · rw [hm] at h
    cases stream with
    | multishot | oneshot =>
      obtain ⟨rfl, -⟩ := Prod.mk.inj (Except.ok.inj h)
      rfl

/-- The one-shot `recvmsg` takes the flag for the group. -/
theorem recvmsgDispatcher_bgid {fd : Int} {stream : StreamStrategy} {isPollFirst : Bool}
    {msghdr : Option Block} (hb : heap.payloads[p]? = some b) (hs : b.Selects)
    (h : recvmsgDispatcher fd p stream isPollFirst msghdr heap = .ok (op, heap')) :
    op.bgid = some
      (if stream = .multishot then b.bgid else if isPollFirst then 1 else 0) := by
  unfold recvmsgDispatcher at h
  rw [payloadAt_of_some hb] at h
  simp only [bind, Except.bind, pure, Except.pure] at h
  rcases hs with hm | hm
  · rw [hm] at h
    cases stream with
    | multishot | oneshot =>
      obtain ⟨rfl, -⟩ := Prod.mk.inj (Except.ok.inj h)
      rfl
  · rw [hm] at h
    cases stream with
    | multishot | oneshot =>
      obtain ⟨rfl, -⟩ := Prod.mk.inj (Except.ok.inj h)
      rfl

theorem linearCall_fills {f : Ptr → Nat → COp} {linear : LinearBuffer}
    (hb : heap.payloads[p]? = some b) (hl : b.linear = some linear)
    (h : linearCall p f heap = .ok (op, heap')) : op = f linear.buffer linear.len := by
  unfold linearCall linearOf at h
  rw [payloadAt_of_some hb] at h
  simp only [bind, Except.bind, pure, Except.pure, hl] at h
  exact (Prod.mk.inj (Except.ok.inj h)).1.symm

end Dispatchers

/-- The four dispatchers that may select a buffer, with what they are called with besides the
    payload. -/
inductive ReadDispatcher where
  | read (fd : Int) (stream : StreamStrategy) (size offset : Int)
  | readv (fd offset : Int) (nowait : Bool)
  | recv (fd : Int) (stream : StreamStrategy) (isPollFirst : Bool)
  | recvmsg (fd : Int) (stream : StreamStrategy) (isPollFirst : Bool) (msghdr : Option Block)
deriving DecidableEq, Repr

namespace ReadDispatcher

def call (d : ReadDispatcher) (p : PayloadId) (heap : Heap) : Except Stop (COp × Heap) :=
  match d with
  | .read fd stream size offset => readDispatcher fd p stream size offset heap
  | .readv fd offset nowait => readvDispatcher fd p offset nowait heap
  | .recv fd stream isPollFirst => recvDispatcher fd p stream isPollFirst heap
  | .recvmsg fd stream isPollFirst msghdr =>
    recvmsgDispatcher fd p stream isPollFirst msghdr heap

/-- What the dispatcher passes on as the number of the group. -/
def bgid (d : ReadDispatcher) (b : BufferPayload) : Int :=
  match d with
  | .recvmsg _ .oneshot isPollFirst _ => if isPollFirst then 1 else 0
  | _ => b.bgid

theorem call_bgid {d : ReadDispatcher} {heap heap' : Heap} {p : PayloadId} {b : BufferPayload}
    {op : COp} (hb : heap.payloads[p]? = some b) (hs : b.Selects)
    (h : d.call p heap = .ok (op, heap')) : op.bgid = some (d.bgid b) := by
  cases d with
  | read fd stream size offset => exact readDispatcher_bgid hb hs h
  | readv fd offset nowait => exact readvDispatcher_bgid hb hs h
  | recv fd stream isPollFirst => exact recvDispatcher_bgid hb hs h
  | recvmsg fd stream isPollFirst msghdr =>
    have hgid := recvmsgDispatcher_bgid hb hs h
    cases stream with
    | multishot => exact hgid
    | oneshot => exact hgid

end ReadDispatcher

/-! ## The group of an SQE -/

/-- The group that the kernel takes a buffer from. `io_uring_prep_read_multishot` sets
    IOSQE_BUFFER_SELECT itself. -/
def Sqe.bufGroup (e : Sqe) : Option Nat :=
  match e.call with
  | .readMultishot _ _ _ bgid => some (toUint16 bgid)
  | _ => if e.flags &&& iosqeBufferSelect ≠ 0 then some e.bufIndex else none

theorem selectBuffer_bufGroup {t : TimeoutParams} {e : Sqe} {call : PrepCall} {bgid idx : Int}
    (h : ∀ fd n offset g, call ≠ .readMultishot fd n offset g) :
    (ioUringSqeSetData idx (selectBuffer bgid (ioUringPrep call (linkedEntry t e)))).bufGroup =
      some (toUint16 bgid) := by
  have hflag : ((linkedEntry t e).flags ||| iosqeBufferSelect) &&& iosqeBufferSelect ≠ 0 := by
    unfold linkedEntry
    split
    · show ((0 ||| iosqeIoLink) ||| iosqeBufferSelect) &&& iosqeBufferSelect ≠ 0
      decide
    · show (0 ||| iosqeBufferSelect) &&& iosqeBufferSelect ≠ 0
      decide
  unfold Sqe.bufGroup
  split
  · rename_i hc
    exact absurd hc (h _ _ _ _)
  · exact if_pos hflag

/-- The SQE of an operation that passes on the number of a group. -/
theorem COp.requestEntry_bufGroup {op : COp} {bgid : Int} (h : op.bgid = some bgid) (r : Ring)
    (idx : Int) (t : TimeoutParams) :
    (requestEntry r idx t op.prep).sqe.bufGroup = some (toUint16 bgid) := by
  cases op with
  | readMultishot fd offset g =>
    obtain rfl := Option.some.inj h
    rfl
  | readBufferSelect fd size offset g =>
    obtain rfl := Option.some.inj h
    exact selectBuffer_bufGroup (by simp)
  | readvBufferSelect fd size offset g nowait =>
    obtain rfl := Option.some.inj h
    exact selectBuffer_bufGroup (by simp)
  | recvMultishot fd len g isPollFirst =>
    obtain rfl := Option.some.inj h
    exact selectBuffer_bufGroup (by simp)
  | recvmsgMultishot fd g isPollFirst msghdr =>
    obtain rfl := Option.some.inj h
    exact selectBuffer_bufGroup (by simp)
  | recvBufferSelect fd len g isPollFirst =>
    obtain rfl := Option.some.inj h
    exact selectBuffer_bufGroup (by simp)
  | recvmsgBufferSelect fd isPollFirst g =>
    obtain rfl := Option.some.inj h
    exact selectBuffer_bufGroup (by simp)
  | _ => exact absurd h (by simp [COp.bgid])

theorem COp.accepts_of_bgid {op : COp} (h : op.bgid.isSome) : op.Accepts := by
  cases op with
  | timer t => exact absurd h (by simp [COp.bgid])
  | prepSocket domain type => exact absurd h (by simp [COp.bgid])
  | _ => trivial

/-- The SQE that a call has put on the ring, after all that were there. -/
def Ring.newSqe (r r' : Ring) : Option Sqe := (r'.pending[r.pending.length]?).map Flight.sqe

/-- A call that does not fail before it fills its SQE puts that of its request on the ring. -/
theorem COp.exec_newSqe {op : COp} (ha : op.Accepts) {r : Ring} {idx : Int} {t : TimeoutParams}
    {submit : Int} (h : 0 ≤ (op.exec r idx t submit).1) :
    r.newSqe (op.exec r idx t submit).2 =
      some (requestEntry r idx (op.linked t) op.prep).sqe := by
  have hat : ∀ (x : Flight) (xs : List Flight), (r.pending ++ x :: xs)[r.pending.length]? =
      some x := by simp
  have ho := op.exec_outcome ha r idx t submit
  generalize op.exec r idx t submit = out at ho h
  unfold Ring.newSqe
  cases ho with
  | full _ => exact absurd h (by simp)
  | noTimeout _ _ _ _ => exact absurd h (by simp)
  | failed _ _ _ hk hq =>
    show Option.map _ _ = _
    rw [Ring.pending, hq, hk.inflight, ← List.append_assoc]
    exact congrArg (Option.map Flight.sqe) (hat _ _)
  | accepted _ _ _ hc _ _ _ hi =>
    show Option.map _ _ = _
    rw [Ring.pending, Ring.queued_of_count hc, List.append_nil, hi]
    exact congrArg (Option.map Flight.sqe) (hat _ _)

/-! ## The operations that read -/

section Methods

variable {env : CallEnv}

/-- The payload of the request is the one that its dispatcher looks at. -/
theorem fillsSelected_of_bgid {req : Request} {p : PayloadId}
    (hp : req.registration.bufferPayload = some p)
    (h : ∀ heap op heap' b, req.dispatch heap = .ok (op, heap') → heap.payloads[p]? = some b →
      b.Selects → op.bgid.isSome) : req.FillsSelected := by
  intro heap op heap' q b linear hd hq hb hs _
  obtain rfl := Option.some.inj (hp.symm.trans hq)
  exact .inl (h heap op heap' b hd hb hs)

theorem read_fills (self : FileId) (offset size : Int) (t : Option PyVal) :
    Triple (fun _ => True) (UringioFile.read self offset size t env)
      (fun req _ => req.FillsSelected) anyway := by
  unfold UringioFile.read
  refine .bind .top fun _ => .bind .top fun _ => .bind .top fun _ => .bind .top fun p => ?_
  refine .bind .top fun _ => .pure fun _ _ => ?_
  refine fillsSelected_of_bgid rfl fun heap op heap' b hd hb hs => ?_
  rw [readDispatcher_bgid hb hs hd]
  rfl

theorem recv_fills (self : SocketId) (bufsize : Int) (bufferObj isPollFirst : Bool)
    (t : Option PyVal) :
    Triple (fun _ => True) (UringioSocket.recv self bufsize bufferObj isPollFirst t env)
      (fun req _ => req.FillsSelected) anyway := by
  unfold UringioSocket.recv
  refine .bind .top fun _ => .bind .top fun _ => .bind .top fun p => .bind .top fun _ => ?_
  refine .bind .top fun _ => .pure fun _ _ => ?_
  refine fillsSelected_of_bgid rfl fun heap op heap' b hd hb hs => ?_
  rw [recvDispatcher_bgid hb hs hd]
  rfl

theorem recvfrom_fills (self : SocketId) (bufsize : Int) (bufferObj : Bool)
    (address : Option (HostArg × Int × Int)) (isPollFirst : Bool) (t : Option PyVal) :
    Triple (fun _ => True) (UringioSocket.recvfrom self bufsize bufferObj address isPollFirst t env)
      (fun req _ => req.FillsSelected) anyway := by
  unfold UringioSocket.recvfrom
  refine .bind .top fun _ => .bind .top fun _ => ?_
  cases address with
  | none => exact .stop
  | some address =>
    obtain ⟨host, port, domain⟩ := address
    refine .bind .top fun _ => .bind .top fun p => ?_
    split
    · exact .bind .top fun _ => .fail fun _ _ => trivial
    · refine .bind .top fun _ => .pure fun _ _ => ?_
      intro heap op heap' q b linear hd hq hb _ hl
      obtain rfl := Option.some.inj hq
      have hcall : linearCall p (fun buf len => .recvfrom _ buf len _ _ isPollFirst) heap =
          .ok (op, heap') := hd
      rw [linearCall_fills hb hl hcall]
      exact .inr ⟨linear.len, fun _ => rfl⟩

theorem recvmsg_fills (self : SocketId) (buffersObj isPollFirst : Bool) (t : Option PyVal) :
    Triple (fun _ => True) (UringioSocket.recvmsg self buffersObj isPollFirst t env)
      (fun req _ => req.FillsSelected) anyway := by
  unfold UringioSocket.recvmsg
  refine .bind .top fun _ => .bind .top fun _ => ?_
  split
  · exact .stop
  · refine .bind .top fun p => .bind .top fun _ => .bind .top fun _ => .pure fun _ _ => ?_
    refine fillsSelected_of_bgid rfl fun heap op heap' b hd hb hs => ?_
    rw [recvmsgDispatcher_bgid hb hs hd]
    rfl

/-- Every operation whose branch gives out the bytes of a linear buffer. -/
theorem OpCall.prepare_fills {call : OpCall} (h : call.opcode.linear = true) (env : CallEnv) :
    Triple (fun _ => True) (call.prepare env) (fun req _ => req.FillsSelected) anyway := by
  cases call with
  | read self offset size t => exact read_fills self offset size t
  | recv self bufsize bufferObj isPollFirst t => exact recv_fills self bufsize bufferObj isPollFirst t
  | recvfrom self bufsize bufferObj address isPollFirst t =>
    exact recvfrom_fills self bufsize bufferObj address isPollFirst t
  | recvmsg self buffersObj isPollFirst t => exact recvmsg_fills self buffersObj isPollFirst t
  | _ => exact absurd h (by simp [OpCall.opcode, Opcode.linear])

end Methods

end Uringio
