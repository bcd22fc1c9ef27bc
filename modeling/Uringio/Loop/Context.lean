/-
  Execution contexts (`src/python_api/execution_context`) and the buffer modes they open
  (`src/buffer_controllers/buffer_modes.c`).

  A context manager of the buffer mode owns one payload, which every operation inside the
  block shares. The requests that hand PROVIDED buffers to the kernel and take them back are
  submitted without a `user_data`.
-/
import Uringio.Loop.Loop

namespace Uringio

/-! ## Buffer modes -/

/-- SQE_WITH_OPTIONAL_TIMEOUT with NULL, one prep helper and a submission: -1 without an
    SQE or when the submission fails, and 1 otherwise. -/
def submitUntagged (r : Ring) (call : PrepCall) (submit : Int) : Int × Ring :=
  match sqeWithOptionalTimeout r none with
  | (none, r) => (-1, r)
  | (some sqe, r) =>
    match ioUringSubmit (r.modify sqe (ioUringPrep call)) submit with
    | (result, r) => if result < 0 then (-1, r) else (1, r)

def initProvidedMode (r : Ring) (addr : Ptr) (len nr bgid submit : Int) : Int × Ring :=
  submitUntagged r (.provideBuffers addr len nr bgid 0) submit

def closeProvidedMode (r : Ring) (nr bgid submit : Int) : Int × Ring :=
  submitUntagged r (.removeBuffers nr bgid) submit

/-- The operations that the library submits for itself: the wakeup read, the poll of the
    signal pipe, linked timeouts, the requests for PROVIDED buffers, and the cancel request. -/
def PrepCall.internal : PrepCall → Bool
  | .read _ .wakeupBuf _ _ | .pollAdd _ _ | .linkTimeout _ _ => true
  | .provideBuffers _ _ _ _ _ | .removeBuffers _ _ | .cancelAny => true
  | _ => false

/-- The entry that `submitUntagged` prepares: its `user_data` is what the previous use of
    the ring entry left there. -/
def untaggedEntry (r : Ring) (call : PrepCall) : Flight :=
  ⟨r.tail, ioUringPrep call (r.sqEntry r.tail).clear⟩

theorem submitUntagged_added (r : Ring) (call : PrepCall) (submit : Int) :
    r.Added (submitUntagged r call submit).2
      (if r.space = 0 then [] else [untaggedEntry r call]) := by
  unfold submitUntagged sqeWithOptionalTimeout createSqe
  by_cases hs : r.space = 0
  · rw [ioUringGetSqe_of_full hs, if_pos hs]
    exact .refl r
  · have hadd := Ring.added_prepared hs (ioUringPrep call)
    rw [ioUringGetSqe_of_space hs, if_neg hs]
    simp only [timeout, Int.lt_irrefl, if_false]
    have hsub := Ring.added_ioUringSubmit (r := r.grow.modify r.tail (ioUringPrep call)) submit
    cases hx : ioUringSubmit (r.grow.modify r.tail (ioUringPrep call)) submit with
    | mk result r' =>
      rw [hx] at hsub
      dsimp only
      split
      · exact hadd.trans hsub
      · exact hadd.trans hsub

theorem submitUntagged_of_full {r : Ring} {call : PrepCall} {submit : Int} (hs : r.space = 0) :
    submitUntagged r call submit = (-1, r) := by
  unfold submitUntagged sqeWithOptionalTimeout createSqe
  rw [ioUringGetSqe_of_full hs]

/-- With a free SQE the request is queued, and submitted with what was queued before. -/
theorem submitUntagged_of_space {r : Ring} (call : PrepCall) (submit : Int) (hs : r.space ≠ 0) :
    ((submitUntagged r call submit).1 < 0 ↔ submit < 0) ∧
      (submitUntagged r call submit).2.inflight =
        (if submit < 0 then r.inflight else r.inflight ++ r.queued ++ [untaggedEntry r call]) ∧
      (submitUntagged r call submit).2.queued =
        (if submit < 0 then r.queued ++ [untaggedEntry r call] else []) := by
  have hfit : r.grow.count ≤ r.grow.entries.length := by
    unfold Ring.space at hs
    simp only [Ring.length_grow, Ring.grow_count]
    omega
  have hq : (r.grow.modify r.tail (ioUringPrep call)).queued =
      r.queued ++ [untaggedEntry r call] :=
    Ring.queued_modify_mid r.queued [] hfit (Ring.queued_grow hs)
      (fun x hx => Nat.ne_of_lt (Ring.seq_of_mem_queued hx).2) (by simp)
  unfold submitUntagged sqeWithOptionalTimeout createSqe
  rw [ioUringGetSqe_of_space hs]
  simp only [timeout, Int.lt_irrefl, if_false]
  by_cases h : submit < 0
  · rw [ioUringSubmit_of_neg h]
    simp only [if_pos h]
    exact ⟨by simp [h], rfl, hq⟩
  · rw [ioUringSubmit_of_nonneg h]
    simp only [if_neg h]
    refine ⟨by simp [h], ?_, Ring.queued_of_count rfl⟩
    rw [hq, List.append_assoc]
    rfl

/-! ## Payloads of a context -/

/-- `create_buffer_payload` for the buffers that the caller passed or memory gave. The case
    of NORMAL_BUF falls through to that of FIXED. `bgid` is what `rand()` returns, and
    `unassigned` what lies in a field that nobody assigned. -/
def createBufferPayload (h : Heap) (mode : BufferMode) (buffersObj : Bool)
    (buffers : Option (List LinearBuffer)) (bgid unassigned : Int) : Option PayloadId × Heap :=
  let origin := if buffersObj then .payloadUser else .payloadRuntime
  match mode, buffers with
  | .normalBuf, some buffers | .fixed, some buffers =>
    let (p, h) := h.alloc
      { payloadType := .payloadLinearAndIovec, payloadOrigin := origin, mode := mode
        amount := buffers.length, linear := buffers.head?
        vector := some ⟨buffers.map LinearBuffer.iovec, buffers.length⟩
        idxRegistry := none, bufIdx := unassigned, bgid := 0, frees := 0 }
    (some p, h)
  | .provided, some buffers | .bufRing, some buffers =>
    let (p, h) := h.alloc
      { payloadType := .payloadLinear, payloadOrigin := origin, mode := mode
        amount := buffers.length, linear := buffers.head?, vector := none
        idxRegistry := none, bufIdx := unassigned
        bgid := if mode = .provided then bgid else 0, frees := 0 }
    (some p, h)
  | .bufNoVal, _ | _, none => (none, h)

/-! ## Entering and leaving -/

/-- What a context manager does once its context is set; a failure sets the previous
    context again. `registered` is what `io_uring_register_buffers` says. -/
def openBuffers (l : Loop) (context : ExecutionContext) (p : PayloadId) (registered : Bool)
    (submit : Int) : Except Stop Loop :=
  match l.heap.payloads[p]? with
  | none => .error .segv
  | some b =>
    match b.mode with
    | .fixed =>
      match b.vector with
      | none => .error .segv
      | some _ =>
        if !registered then .ok l
        else
          let b := { b with
            idxRegistry := some (bufferIdxRegistryCreate (toUnsigned b.amount))
            vector := none, payloadType := .payloadLinear }
          .ok { l with context := some context, heap := l.heap.put p b }
    | .provided =>
      match b.linear with
      | none => .error .segv
      | some linear =>
        let (result, ring) :=
          initProvidedMode l.ring linear.buffer (toInt linear.len) b.amount b.bgid submit
        if result < 0 then .ok { l with ring := ring }
        else .ok { l with ring := ring, context := some context }
    | .bufRing =>
      match b.linear with
      | none => .error .segv
      | some _ => .ok { l with context := some context }
    | .normalBuf | .bufNoVal => .ok { l with context := some context }

/-- `BufferModeCtx_enter`; without a current context it only returns NULL. -/
def BufferModeCtx.enter (l : Loop) (p : PayloadId) (registered : Bool) (submit : Int) :
    Except Stop Loop :=
  match l.context, l.heap.payloads[p]? with
  | some context, some b =>
    openBuffers l { context with bufferMode := b.mode, bufferPayload := some p } p registered submit
  | _, _ => .ok l

/-- `ExecutionContextCtx_enter`. -/
def ExecutionContextCtx.enter (l : Loop) (p : PayloadId) (stream : StreamStrategy)
    (transferMode : TransferMode) (registered : Bool) (submit : Int) : Except Stop Loop :=
  match l.heap.payloads[p]? with
  | some b => openBuffers l ⟨b.mode, stream, transferMode, some p⟩ p registered submit
  | none => .error .segv

/-- `BufferModeCtx_exit`; `token` is the context that was set before. -/
def BufferModeCtx.exit (l : Loop) (p : PayloadId) (token : Option ExecutionContext)
    (submit : Int) : Except Stop Loop :=
  match l.heap.payloads[p]? with
  | none => .error .segv
  | some b =>
    match b.mode with
    | .fixed =>
      let b := { b with idxRegistry := b.idxRegistry.map bufferIdxRegistryDestroy }
      .ok { l with context := token, heap := l.heap.put p b }
    | .provided =>
      .ok { l with context := token, ring := (closeProvidedMode l.ring b.amount b.bgid submit).2 }
    | .normalBuf | .bufRing | .bufNoVal => .ok { l with context := token }

/-- `StreamStrategyCtx_enter`. -/
def StreamStrategyCtx.enter (l : Loop) (stream : StreamStrategy) : Loop :=
  { l with context := l.context.map fun c => { c with stream := stream } }

/-- `TransferModeCtx_enter`. -/
def TransferModeCtx.enter (l : Loop) (transferMode : TransferMode) : Loop :=
  { l with context := l.context.map fun c => { c with transferMode := transferMode } }

end Uringio
