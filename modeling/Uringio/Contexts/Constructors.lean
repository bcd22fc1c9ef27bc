/-
  The constructors of the context managers with their checks and exceptions
  (`UringioLoop_buffer_mode`, `UringioLoop_stream_strategy`, `UringioLoop_transfer_mode` and
  `UringioLoop_execution_context`).

  `Contexts/Managers.lean` takes what they build from arguments that are right; here the
  arguments are the integers and objects that the parser accepts. What a constructor returns
  without an exception, and where it goes on past one, is decided by the object passed as
  buffers (`coherent_iff`).
-/
import Uringio.Buffers.Settled
import Uringio.Loop.Loop

namespace Uringio

open Lib Lib.Program Buffers

/-! ## The constructors -/

/-- What the environment decides in a constructor: the thread and the state of the loop,
    whether the arguments have the types that the parser asks for, and whether there is
    memory for the payload, for the object and for its context. -/
structure ConstructorEnv where
  onLoopThread : Bool
  closed : Bool
  args : Bool
  grants : Nat → Bool
  rand : Int
  object : Bool
  context : Bool

/-- The new context manager. -/
inductive Constructed where
  | bufferMode (payload : BufferMode) (bufferPayload : Buffers.Payload)
  | streamStrategy (payload : StreamStrategy)
  | transferMode (payload : TransferMode)
  | executionContext (bufferMode : BufferMode) (stream : StreamStrategy)
      (transferMode : TransferMode) (bufferPayload : Buffers.Payload)
deriving DecidableEq, Repr

/-- Sets an exception and returns NULL. -/
def raiseNull {α : Type} : BufferProgram α := do
  raise
  returnNull

/-- NULL with an exception unless the condition holds. -/
def require (b : Bool) : BufferProgram Unit := if b then ret () else raiseNull

/-- ASSERT_LOOP_THREAD, ASSERT_RING_LOOP_IS_CLOSING and the parser. -/
def constructorChecks (env : ConstructorEnv) : BufferProgram Unit := do
  require env.onLoopThread
  require (!env.closed)
  require env.args

/-- The enumerator with this value. -/
def bufferModeOf (mode : Int) : BufferMode :=
  if mode = 0 then .normalBuf
  else if mode = 1 then .fixed
  else if mode = 2 then .provided
  else if mode = 3 then .bufRing
  else .bufNoVal

def payloadTypeOf (payloadType : Int) : PayloadType :=
  if payloadType = 0 then .payloadLinear
  else if payloadType = 1 then .payloadIovec
  else if payloadType = 2 then .payloadLinearAndIovec
  else .payloadTypeNoVal

/-- `_validate_buffer_mode`; the caller returns NULL for BUF_NO_VAL. -/
def validateBufferMode (mode : Int) : BufferProgram BufferMode :=
  match bufferModeOf mode with
  | .bufNoVal => do
    raise
    return .bufNoVal
  | mode => ret mode

/-- `_validate_payload_type`; the caller returns NULL for PAYLOAD_TYPE_NO_VAL. -/
def validatePayloadType (payloadType : Int) : BufferProgram PayloadType :=
  match payloadTypeOf payloadType with
  | .payloadTypeNoVal => do
    raise
    return .payloadTypeNoVal
  | payloadType => ret payloadType

/-- The switch over the stream strategy. -/
def checkStream (stream : Int) : BufferProgram StreamStrategy :=
  if stream = 0 then ret .oneshot else if stream = 1 then ret .multishot else raiseNull

/-- The switch over the transfer mode. -/
def checkTransfer (mode : Int) : BufferProgram TransferMode :=
  if mode = 0 then ret .normalTransfer else if mode = 1 then ret .zeroCopy else raiseNull

/-- The arguments of `buffer_mode` that are about buffers. -/
structure BufferArgs where
  mode : Int
  payloadType : Int
  buffersObj : Option PyBuffers
  amount : Int
  bufsize : Int

/-- The two validations. -/
def BufferArgs.validate (args : BufferArgs) : BufferProgram (BufferMode × PayloadType) := do
  let mode ← validateBufferMode args.mode
  if mode = .bufNoVal then returnNull
  else do
    let payloadType ← validatePayloadType args.payloadType
    if payloadType = .payloadTypeNoVal then returnNull
    else return (mode, payloadType)

/-- The payload of a constructor, with the mode that was passed. -/
def BufferArgs.create (args : BufferArgs) (env : ConstructorEnv) :
    BufferProgram (BufferMode × Buffers.Payload) := do
  let (mode, payloadType) ← args.validate
  let payload ← Buffers.createBufferPayload env.grants mode payloadType args.buffersObj
    args.amount args.bufsize env.rand
  return (mode, payload)

/-- `UringioLoop_buffer_mode`. -/
def constructBufferMode (args : BufferArgs) (env : ConstructorEnv) :
    BufferProgram Constructed := do
  constructorChecks env
  let (mode, payload) ← args.create env
  if env.object then return .bufferMode mode payload
  else do
    Buffers.freeBufferPayload payload true
    raiseNull

/-- `UringioLoop_stream_strategy`. -/
def constructStreamStrategy (stream : Int) (env : ConstructorEnv) :
    BufferProgram Constructed := do
  constructorChecks env
  let stream ← checkStream stream
  require env.object
  return .streamStrategy stream

/-- `UringioLoop_transfer_mode`. -/
def constructTransferMode (mode : Int) (env : ConstructorEnv) : BufferProgram Constructed := do
  constructorChecks env
  let mode ← checkTransfer mode
  require env.object
  return .transferMode mode

/-- `UringioLoop_execution_context`. The payload comes before the other two arguments are
    looked at, and stays where one of them is wrong. -/
def constructExecutionContext (args : BufferArgs) (stream transfer : Int)
    (env : ConstructorEnv) : BufferProgram Constructed := do
  constructorChecks env
  let (mode, payload) ← args.create env
  let stream ← checkStream stream
  let transfer ← checkTransfer transfer
  require env.object
  require env.context
  return .executionContext mode stream transfer payload

/-- A call of one of the four. -/
inductive ConstructorCall where
  | bufferMode (args : BufferArgs)
  | streamStrategy (stream : Int)
  | transferMode (mode : Int)
  | executionContext (args : BufferArgs) (stream transfer : Int)

namespace ConstructorCall

def run (call : ConstructorCall) (env : ConstructorEnv) : BufferProgram Constructed :=
  match call with
  | .bufferMode args => constructBufferMode args env
  | .streamStrategy stream => constructStreamStrategy stream env
  | .transferMode mode => constructTransferMode mode env
  | .executionContext args stream transfer => constructExecutionContext args stream transfer env

/-- The buffers of the call, with the mode and the payload type where they are valid. -/
def buffers : ConstructorCall → Option BufferArgs
  | .bufferMode args | .executionContext args _ _ => some args
  | .streamStrategy _ | .transferMode _ => none

end ConstructorCall

/-! ## NULL and exceptions -/

/-- The mode and the payload type are valid. -/
def BufferArgs.Valid (args : BufferArgs) : Prop :=
  bufferModeOf args.mode ≠ .bufNoVal ∧ payloadTypeOf args.payloadType ≠ .payloadTypeNoVal

instance : DecidablePred BufferArgs.Valid := fun _ => inferInstanceAs (Decidable (_ ∧ _))

/-- `_get_buffer_metadata` returns with an exception pending. -/
def BufferArgs.Passes (args : BufferArgs) (s : Store) : Prop :=
  args.Valid ∧ ∃ m t, Buffers.getBufferMetadata args.buffersObj (bufferModeOf args.mode)
    (payloadTypeOf args.payloadType) args.amount args.bufsize s = .ok (.ok m, t) ∧ Flagged true t

/-- The constructor returns NULL exactly with an exception, and where it has no return it has
    not gone on past an exception of a helper. -/
def ConstructorCall.Coherent (call : ConstructorCall) : Prop :=
  ∀ env s, Flagged false s →
    match call.run env s with
    | .ok (.ok _, t) => Flagged false t
    | .ok (.error (), t) => Flagged true t
    | .error _ => ∀ args ∈ call.buffers, ¬ args.Passes s

/-- With a valid mode and payload type, the buffers were left out or are a sequence with a
    length, or the first builder fails of itself. -/
def BufferArgs.Clean (args : BufferArgs) : Prop :=
  args.Valid → ∀ obj ∈ args.buffersObj, Sized (some obj) ∨
    Stopped (bufferModeOf args.mode) (payloadTypeOf args.payloadType) obj

def ConstructorCall.Clean (call : ConstructorCall) : Prop := ∀ args ∈ call.buffers, args.Clean

/-! ## The steps of a constructor -/

theorem require_settled (b : Bool) : Settled false (require b) := by
  cases b with
  | true => exact .pure ()
  | false => exact .refuse

theorem constructorChecks_settled (env : ConstructorEnv) :
    Settled false (constructorChecks env) :=
  (require_settled _).bind fun _ => (require_settled _).bind fun _ => require_settled _

theorem checkStream_settled (stream : Int) : Settled false (checkStream stream) := by
  unfold checkStream
  split
  · exact .pure _
  · split
    · exact .pure _
    · exact .refuse

theorem checkTransfer_settled (mode : Int) : Settled false (checkTransfer mode) := by
  unfold checkTransfer
  split
  · exact .pure _
  · split
    · exact .pure _
    · exact .refuse

namespace BufferArgs

variable {args : BufferArgs} {env : ConstructorEnv} {s : Store}

theorem validateBufferMode_valid {mode : Int} (h : bufferModeOf mode ≠ .bufNoVal) (s : Store) :
    validateBufferMode mode s = .ok (.ok (bufferModeOf mode), s) := by
  unfold validateBufferMode
  cases hm : bufferModeOf mode with
  | bufNoVal => exact absurd hm h
  | normalBuf | fixed | provided | bufRing => rfl

theorem validatePayloadType_valid {payloadType : Int}
    (h : payloadTypeOf payloadType ≠ .payloadTypeNoVal) (s : Store) :
    validatePayloadType payloadType s = .ok (.ok (payloadTypeOf payloadType), s) := by
  unfold validatePayloadType
  cases ht : payloadTypeOf payloadType with
  | payloadTypeNoVal => exact absurd ht h
  | payloadLinear | payloadIovec | payloadLinearAndIovec => rfl

theorem validate_valid (h : args.Valid) (s : Store) :
    args.validate s =
      .ok (.ok (bufferModeOf args.mode, payloadTypeOf args.payloadType), s) := by
  refine (bind_returned (validateBufferMode_valid h.1 s)).trans ?_
  rw [if_neg h.1]
  refine (bind_returned (validatePayloadType_valid h.2 s)).trans ?_
  rw [if_neg h.2]
  rfl

theorem validate_invalid (h : ¬ args.Valid) (s : Store) :
    args.validate s = .ok (.error (), ⟨s.next, s.held, true⟩) := by
  by_cases hmode : bufferModeOf args.mode = .bufNoVal
  · unfold validate validateBufferMode
    rw [hmode]
    rfl
  · have htype : payloadTypeOf args.payloadType = .payloadTypeNoVal := by
      by_contra ht
      exact h ⟨hmode, ht⟩
    refine (bind_returned (validateBufferMode_valid hmode s)).trans ?_
    rw [if_neg hmode]
    unfold validatePayloadType
    rw [htype]
    rfl

/-- The rest of a constructor after the validations. -/
theorem create_of_valid (h : args.Valid) (env : ConstructorEnv) (s : Store) :
    args.create env s = (Buffers.createBufferPayload env.grants (bufferModeOf args.mode)
      (payloadTypeOf args.payloadType) args.buffersObj args.amount args.bufsize env.rand >>=
        fun payload => ret (bufferModeOf args.mode, payload)) s :=
  bind_returned (validate_valid h s)

theorem create_of_invalid (h : ¬ args.Valid) (env : ConstructorEnv) (s : Store) :
    args.create env s = .ok (.error (), ⟨s.next, s.held, true⟩) :=
  bind_failed (validate_invalid h s)

/-- Either no helper goes on past an exception, or the first builder fails. -/
theorem clean_cases (h : args.Clean) :
    (¬ args.Valid ∨ Sized args.buffersObj) ∨
      args.Valid ∧ ∀ env s, ∃ t, args.create env s = .ok (.error (), t) ∧ Flagged true t := by
  by_cases hv : args.Valid
  · by_cases hsized : Sized args.buffersObj
    · exact .inl (.inr hsized)
    · refine .inr ⟨hv, fun env s => ?_⟩
      rw [create_of_valid hv]
      cases hobj : args.buffersObj with
      | none =>
        rw [hobj] at hsized
        exact absurd trivial hsized
      | some obj =>
        rw [hobj] at hsized
        obtain ⟨t, ht, hflag⟩ := createBufferPayload_stopped hsized
          ((h hv obj hobj).resolve_left hsized) s
        exact ⟨t, bind_failed ht, hflag⟩
  · exact .inl (.inl hv)

theorem create_settled (h : args.Clean) : Settled false (args.create env) := by
  intro s hs
  rcases clean_cases h with (hv | hsized) | ⟨-, hstopped⟩
  · rw [create_of_invalid hv]
    rfl
  · by_cases hv : args.Valid
    · rw [create_of_valid hv]
      exact ((createBufferPayload_settled hsized hv.1 hv.2).bind fun _ => .pure _) s hs
    · rw [create_of_invalid hv]
      rfl
  · obtain ⟨t, ht, hflag⟩ := hstopped env s
    rw [ht]
    exact hflag

theorem not_passes (h : ¬ args.Valid ∨ Sized args.buffersObj) (hs : Flagged false s) :
    ¬ args.Passes s := by
  rintro ⟨hv, m, t, hm, ht⟩
  have hcalm := ((getBufferMetadata_of_sized (h.resolve_left (not_not.mpr hv))).returned hs hm).1
  exact absurd (ht.symm.trans hcalm) (by simp)

end BufferArgs

/-! ## The constructors -/

namespace ConstructorCall

variable {call : ConstructorCall}

/-- Everything works. -/
def okEnv : ConstructorEnv :=
  { onLoopThread := true, closed := false, args := true, grants := fun _ => true, rand := 0
    object := true, context := true }

/-- Everything of a constructor but its payload. -/
theorem run_settled (h : ∀ args ∈ call.buffers, args.Clean) (env : ConstructorEnv) :
    Settled false (call.run env) := by
  cases call with
  | bufferMode args =>
    refine (constructorChecks_settled env).bind fun _ => ?_
    refine (BufferArgs.create_settled (h args rfl)).bind fun r => ?_
    dsimp only
    split
    · exact .pure _
    · exact (freeBufferPayload_steps _ _).then fun _ => .refuse
  | streamStrategy stream =>
    refine (constructorChecks_settled env).bind fun _ => (checkStream_settled _).bind fun _ => ?_
    exact (require_settled _).bind fun _ => .pure _
  | transferMode mode =>
    refine (constructorChecks_settled env).bind fun _ => (checkTransfer_settled _).bind fun _ => ?_
    exact (require_settled _).bind fun _ => .pure _
  | executionContext args stream transfer =>
    refine (constructorChecks_settled env).bind fun _ => ?_
    refine (BufferArgs.create_settled (h args rfl)).bind fun r => ?_
    refine (checkStream_settled _).bind fun _ => (checkTransfer_settled _).bind fun _ => ?_
    exact (require_settled _).bind fun _ => (require_settled _).bind fun _ => .pure _

theorem require_cases (b : Bool) (s : Store) :
    require b s = .ok (.ok (), s) ∨ ∃ t, require b s = .ok (.error (), t) := by
  cases b with
  | true => exact .inl rfl
  | false => exact .inr ⟨_, rfl⟩

theorem constructorChecks_cases (env : ConstructorEnv) (s : Store) :
    constructorChecks env s = .ok (.ok (), s) ∨
      ∃ t, constructorChecks env s = .ok (.error (), t) := by
  rcases require_cases env.onLoopThread s with h | ⟨t, h⟩
  · rcases require_cases (!env.closed) s with h' | ⟨t, h'⟩
    · rcases require_cases env.args s with h'' | ⟨t, h''⟩
      · exact .inl ((bind_returned h).trans ((bind_returned h').trans h''))
      · exact .inr ⟨t, (bind_returned h).trans ((bind_returned h').trans h'')⟩
    · exact .inr ⟨t, (bind_returned h).trans (bind_failed h')⟩
  · exact .inr ⟨t, bind_failed h⟩

/-- A constructor whose payload is NULL returns. -/
theorem run_of_null {args : BufferArgs} (hargs : args ∈ call.buffers) {env : ConstructorEnv}
    {s : Store} (h : ∃ t, args.create env s = .ok (.error (), t) ∧ Flagged true t) :
    ∃ t, call.run env s = .ok (.error (), t) := by
  obtain ⟨t, ht, -⟩ := h
  cases call with
  | bufferMode args' =>
    obtain rfl : args' = args := Option.some.inj hargs
    rcases constructorChecks_cases env s with hc | ⟨t', hc⟩
    · exact ⟨t, (bind_returned hc).trans (bind_failed ht)⟩
    · exact ⟨t', bind_failed hc⟩
  | executionContext args' stream transfer =>
    obtain rfl : args' = args := Option.some.inj hargs
    rcases constructorChecks_cases env s with hc | ⟨t', hc⟩
    · exact ⟨t, (bind_returned hc).trans (bind_failed ht)⟩
    · exact ⟨t', bind_failed hc⟩
  | streamStrategy stream => exact absurd hargs (by simp [buffers])
  | transferMode mode => exact absurd hargs (by simp [buffers])

theorem coherent_of_clean (h : call.Clean) : call.Coherent := by
  intro env s hs
  have hsettled := run_settled h env s hs
  cases hrun : call.run env s with
  | ok r =>
    rw [hrun] at hsettled
    obtain ⟨r, t⟩ := r
    cases r with
    | error e => exact hsettled
    | ok a => exact hsettled
  | error e =>
    intro args hargs
    rcases BufferArgs.clean_cases (h args hargs) with hn | ⟨-, hstopped⟩
    · exact BufferArgs.not_passes hn hs
    · obtain ⟨t, ht⟩ := run_of_null hargs (hstopped env s)
      exact absurd (ht.symm.trans hrun) (by simp)

/-- A constructor whose payload stops does not return. -/
theorem run_of_stop {args : BufferArgs} (hargs : args ∈ call.buffers) {s : Store} {e : Fault}
    (h : args.create okEnv s = .error e) : call.run okEnv s = .error e := by
  cases call with
  | bufferMode args' =>
    obtain rfl : args' = args := Option.some.inj hargs
    exact (bind_returned rfl).trans (bind_stopped h)
  | executionContext args' stream transfer =>
    obtain rfl : args' = args := Option.some.inj hargs
    exact (bind_returned rfl).trans (bind_stopped h)
  | streamStrategy stream => exact absurd hargs (by simp [buffers])
  | transferMode mode => exact absurd hargs (by simp [buffers])

theorem clean_of_coherent (h : call.Coherent) : call.Clean := by
  intro args hargs hv obj hobj
  by_contra hbad
  obtain ⟨hsized, hstopped⟩ := not_or.mp hbad
  have hcreate : args.create okEnv ⟨0, 0, false⟩ = .error .outOfBounds := by
    rw [BufferArgs.create_of_valid hv, show args.buffersObj = some obj from hobj]
    exact bind_stopped (createBufferPayload_passes hsized hv.1 hv.2 hstopped _)
  have hc := h okEnv ⟨0, 0, false⟩ rfl
  rw [run_of_stop hargs hcreate] at hc
  refine hc args hargs ⟨hv, .zero, ⟨0, 0, true⟩, ?_, rfl⟩
  rw [show args.buffersObj = some obj from hobj]
  exact getBufferMetadata_of_not_sized hsized _

theorem coherent_iff : call.Coherent ↔ call.Clean := ⟨clean_of_coherent, coherent_of_clean⟩

end ConstructorCall

end Uringio
