/-
  The objects behind `with loop.buffer_mode(...)`, `loop.stream_strategy(...)`,
  `loop.transfer_mode(...)` and `loop.execution_context(...)`
  (`src/python_api/execution_context/execution_context.c`).

  Here the enters and exits are written with the calls of `contextvar.c` that they make, the
  token that they keep, and what they register with the kernel: the fixed buffers of the
  ring and its buffer groups. `Loop/Context.lean` has the same functions as one step of the
  loop; the lemmas at the end say that the two agree on it.

  `io_uring_register_buffers` fails while buffers are registered, and
  `io_uring_setup_buf_ring` for a group that exists; both may fail for other reasons. The
  requests for PROVIDED buffers take effect when they are submitted, and none of them
  touches the group of a buffer ring.
-/
import Uringio.Loop.Context

namespace Uringio

/-! ## What is registered with the ring -/

/-- A buffer group of the ring: a buffer ring, or the buffers that were handed over and not
    taken back. A group of no buffers does not exist. -/
inductive BufferGroup where
  | provided (nr : Nat)
  | bufRing
deriving DecidableEq, Repr

/-- The registrations of one ring. A group id has 16 bits. -/
structure Registrations where
  fixed : Bool
  groups : Nat → BufferGroup

namespace Registrations

def setGroup (k : Registrations) (bgid : Nat) (g : BufferGroup) : Registrations :=
  { k with groups := fun i => if i = bgid then g else k.groups i }

/-- The numbers of buffers that the kernel accepts in one request. -/
def Countable (nr : Int) : Prop := 1 ≤ nr ∧ nr ≤ 65536

instance (nr : Int) : Decidable (Countable nr) := inferInstanceAs (Decidable (_ ∧ _))

/-- IORING_OP_PROVIDE_BUFFERS. -/
def provide (k : Registrations) (nr bgid : Int) : Registrations :=
  if Countable nr then
    match k.groups (toUint16 bgid) with
    | .provided n => k.setGroup (toUint16 bgid) (.provided (n + nr.toNat))
    | .bufRing => k
  else k

/-- IORING_OP_REMOVE_BUFFERS. -/
def remove (k : Registrations) (nr bgid : Int) : Registrations :=
  if Countable nr then
    match k.groups (toUint16 bgid) with
    | .provided n => k.setGroup (toUint16 bgid) (.provided (n - nr.toNat))
    | .bufRing => k
  else k

/-- What the kernel registers or takes back when it gets an SQE. -/
def take (k : Registrations) (e : Sqe) : Registrations :=
  match e.call with
  | .provideBuffers _ _ nr bgid _ => k.provide nr bgid
  | .removeBuffers nr bgid => k.remove nr bgid
  | _ => k

/-- The effect of the SQEs that a call submitted. -/
def advance (k : Registrations) (before after : Ring) : Registrations :=
  ((after.inflight.drop before.inflight.length).map Flight.sqe).foldl take k

/-- `io_uring_register_buffers`; `agreed` is what else it depends on. -/
def registerBuffers (k : Registrations) (agreed : Bool) : Bool × Registrations :=
  if k.fixed || !agreed then (false, k) else (true, { k with fixed := true })

/-- `io_uring_unregister_buffers`. -/
def unregisterBuffers (k : Registrations) : Registrations := { k with fixed := false }

/-- `io_uring_setup_buf_ring`, with whether it returns a ring. -/
def setupBufRing (k : Registrations) (bgid : Int) (agreed : Bool) : Bool × Registrations :=
  if k.groups (toUint16 bgid) = .provided 0 ∧ agreed then
    (true, k.setGroup (toUint16 bgid) .bufRing)
  else (false, k)

/-- `io_uring_free_buf_ring`. -/
def freeBufRing (k : Registrations) (bgid : Int) : Registrations :=
  if k.groups (toUint16 bgid) = .bufRing then k.setGroup (toUint16 bgid) (.provided 0) else k

end Registrations

/-- A loop and what its ring has registered. -/
structure Host where
  loop : Loop
  kernel : Registrations

/-! ## The context variable -/

/-- What a token restores: the value that the variable had. -/
abbrev Token : Type := Option ExecutionContext

/-- `ContextVar_set`. -/
def contextVarSet (h : Host) (value : ExecutionContext) : Token × Host :=
  (h.loop.context, { h with loop := { h.loop with context := some value } })

/-- `ContextVar_reset`. -/
def contextVarReset (h : Host) (token : Token) : Host :=
  { h with loop := { h.loop with context := token } }

/-- `_get_buffer`: it reads through what `ContextVar_get` returns. -/
def getBuffer (l : Loop) : Except Stop (Option PayloadId) :=
  match l.context with
  | some c => .ok c.bufferPayload
  | none => .error .segv

def getTransferMode (l : Loop) : Except Stop TransferMode :=
  match l.context with
  | some c => .ok c.transferMode
  | none => .error .segv

def getStreamStrategy (l : Loop) : Except Stop StreamStrategy :=
  match l.context with
  | some c => .ok c.stream
  | none => .error .segv

/-! ## The objects -/

/-- The four context managers with the fields that their constructors set. -/
inductive Manager where
  | bufferMode (payload : BufferMode) (bufferPayload : PayloadId)
  | streamStrategy (payload : StreamStrategy)
  | transferMode (payload : TransferMode)
  | executionContext (payload : ExecutionContext) (bufferPayload : PayloadId)
deriving DecidableEq, Repr

/-- What the caller passes to the four constructors; `bgid` is what `rand()` returns and
    `object` says whether there is memory for the object. -/
inductive ManagerArgs where
  | bufferMode (mode : BufferMode) (buffersObj : Bool) (buffers : Option (List LinearBuffer))
      (bgid unassigned : Int) (object : Bool)
  | streamStrategy (stream : StreamStrategy)
  | transferMode (mode : TransferMode)
  | executionContext (mode : BufferMode) (stream : StreamStrategy) (transferMode : TransferMode)
      (buffersObj : Bool) (buffers : Option (List LinearBuffer)) (bgid unassigned : Int)
      (object : Bool)
deriving DecidableEq, Repr

/-- `UringioLoop_buffer_mode`. -/
def uringioLoopBufferMode (l : Loop) (mode : BufferMode) (buffersObj : Bool)
    (buffers : Option (List LinearBuffer)) (bgid unassigned : Int) (object : Bool) :
    Option Manager × Loop :=
  match createBufferPayload l.heap mode buffersObj buffers bgid unassigned with
  | (none, heap) => (none, { l with heap := heap })
  | (some p, heap) =>
    if object then (some (.bufferMode mode p), { l with heap := heap })
    else (none, { l with heap := freeBufferPayload heap (some p) true })

/-- `UringioLoop_execution_context`; without memory for the object the payload is left
    behind. -/
def uringioLoopExecutionContext (l : Loop) (mode : BufferMode) (stream : StreamStrategy)
    (transferMode : TransferMode) (buffersObj : Bool) (buffers : Option (List LinearBuffer))
    (bgid unassigned : Int) (object : Bool) : Option Manager × Loop :=
  match createBufferPayload l.heap mode buffersObj buffers bgid unassigned with
  | (none, heap) => (none, { l with heap := heap })
  | (some p, heap) =>
    (if object then some (.executionContext ⟨mode, stream, transferMode, some p⟩ p) else none,
      { l with heap := heap })

/-- The four constructors. -/
def ManagerArgs.create (args : ManagerArgs) (l : Loop) : Option Manager × Loop :=
  match args with
  | .bufferMode mode buffersObj buffers bgid unassigned object =>
    uringioLoopBufferMode l mode buffersObj buffers bgid unassigned object
  | .streamStrategy stream => (some (.streamStrategy stream), l)
  | .transferMode mode => (some (.transferMode mode), l)
  | .executionContext mode stream transfer buffersObj buffers bgid unassigned object =>
    uringioLoopExecutionContext l mode stream transfer buffersObj buffers bgid unassigned object

/-- The array of buffers that goes to the kernel has a first entry, which the constructors
    write. -/
def ManagerArgs.Filled : ManagerArgs → Prop
  | .bufferMode mode _ buffers _ _ _ | .executionContext mode _ _ _ buffers _ _ _ =>
    mode = .provided ∨ mode = .bufRing → buffers ≠ some []
  | .streamStrategy _ | .transferMode _ => True

instance : DecidablePred ManagerArgs.Filled
  | .bufferMode _ _ _ _ _ _ => inferInstanceAs (Decidable (_ → _))
  | .executionContext _ _ _ _ _ _ _ _ => inferInstanceAs (Decidable (_ → _))
  | .streamStrategy _ => .isTrue trivial
  | .transferMode _ => .isTrue trivial

/-! ## Entering -/

/-- What the environment decides in an enter: whether the kernel agrees to a registration,
    whether there is memory for the index registry, and what `io_uring_submit` returns. -/
structure EnterEnv where
  agreed : Bool
  allocated : Bool
  submit : Int
deriving DecidableEq, Repr

/-- What an enter leaves in the object: the token, and whether `buf_ring` is set. -/
structure Entered where
  token : Token
  bufRing : Bool
deriving DecidableEq, Repr

/-- The switch over the buffer mode that `BufferModeCtx_enter` and
    `ExecutionContextCtx_enter` both have; `none` is the NULL that they return. -/
def initBuffers (h : Host) (p : PayloadId) (token : Token) (env : EnterEnv) :
    Except Stop (Option Entered × Host) :=
  match h.loop.heap.payloads[p]? with
  | none => .error .segv
  | some b =>
    match b.mode with
    | .fixed =>
      match b.vector with
      | none => .error .segv
      | some _ =>
        match h.kernel.registerBuffers env.agreed with
        | (false, _) => .ok (none, contextVarReset h token)
        | (true, kernel) =>
          if !env.allocated then .ok (none, contextVarReset { h with kernel := kernel } token)
          else
            let b := { b with
              idxRegistry := some (bufferIdxRegistryCreate (toUnsigned b.amount))
              vector := none, payloadType := .payloadLinear }
            .ok (some ⟨token, false⟩,
              ⟨{ h.loop with heap := h.loop.heap.put p b }, kernel⟩)
    | .provided =>
      match b.linear with
      | none => .error .segv
      | some linear =>
        let (result, ring) :=
          initProvidedMode h.loop.ring linear.buffer (toInt linear.len) b.amount b.bgid env.submit
        let opened : Host := ⟨{ h.loop with ring := ring }, h.kernel.advance h.loop.ring ring⟩
        if result < 0 then .ok (none, contextVarReset opened token)
        else .ok (some ⟨token, false⟩, opened)
    | .bufRing =>
      match b.linear with
      | none => .error .segv
      | some _ =>
        let (bufRing, kernel) := h.kernel.setupBufRing b.bgid env.agreed
        .ok (some ⟨token, bufRing⟩, { h with kernel := kernel })
    | .normalBuf | .bufNoVal => .ok (some ⟨token, false⟩, h)

/-- `BufferModeCtx_enter`. -/
def bufferModeCtxEnter (h : Host) (payload : BufferMode) (bufferPayload : PayloadId)
    (env : EnterEnv) : Except Stop (Option Entered × Host) :=
  match h.loop.context with
  | none => .ok (none, h)
  | some current =>
    let (token, h) :=
      contextVarSet h { current with bufferMode := payload, bufferPayload := some bufferPayload }
    initBuffers h bufferPayload token env

/-- `StreamStrategyCtx_enter`. -/
def streamStrategyCtxEnter (h : Host) (payload : StreamStrategy) : Option Entered × Host :=
  match h.loop.context with
  | none => (none, h)
  | some current =>
    let (token, h) := contextVarSet h { current with stream := payload }
    (some ⟨token, false⟩, h)

/-- `TransferModeCtx_enter`. -/
def transferModeCtxEnter (h : Host) (payload : TransferMode) : Option Entered × Host :=
  match h.loop.context with
  | none => (none, h)
  | some current =>
    let (token, h) := contextVarSet h { current with transferMode := payload }
    (some ⟨token, false⟩, h)

/-- `ExecutionContextCtx_enter`. -/
def executionContextCtxEnter (h : Host) (payload : ExecutionContext) (bufferPayload : PayloadId)
    (env : EnterEnv) : Except Stop (Option Entered × Host) :=
  let (token, h) := contextVarSet h payload
  initBuffers h bufferPayload token env

/-- `__enter__` of a manager. -/
def Manager.enter (m : Manager) (h : Host) (env : EnterEnv) :
    Except Stop (Option Entered × Host) :=
  match m with
  | .bufferMode payload p => bufferModeCtxEnter h payload p env
  | .streamStrategy payload => .ok (streamStrategyCtxEnter h payload)
  | .transferMode payload => .ok (transferModeCtxEnter h payload)
  | .executionContext payload p => executionContextCtxEnter h payload p env

/-! ## Leaving -/

/-- `BufferModeCtx_exit`; what the close functions return is not looked at. -/
def bufferModeCtxExit (h : Host) (bufferPayload : PayloadId) (self : Entered) (submit : Int) :
    Except Stop Host :=
  let h := contextVarReset h self.token
  match h.loop.heap.payloads[bufferPayload]? with
  | none => .error .segv
  | some b =>
    match b.mode with
    | .fixed =>
      let b := { b with idxRegistry := b.idxRegistry.map bufferIdxRegistryDestroy }
      .ok ⟨{ h.loop with heap := h.loop.heap.put bufferPayload b }, h.kernel.unregisterBuffers⟩
    | .provided =>
      let ring := (closeProvidedMode h.loop.ring b.amount b.bgid submit).2
      .ok ⟨{ h.loop with ring := ring }, h.kernel.advance h.loop.ring ring⟩
    | .bufRing =>
      if !self.bufRing then .ok h
      else .ok { h with kernel := h.kernel.freeBufRing b.bgid }
    | .normalBuf | .bufNoVal => .ok h

/-- `__exit__` of a manager. The other three only reset the variable. -/
def Manager.exit (m : Manager) (h : Host) (self : Entered) (submit : Int) : Except Stop Host :=
  match m with
  | .bufferMode _ p => bufferModeCtxExit h p self submit
  | .streamStrategy _ | .transferMode _ | .executionContext _ _ =>
    .ok (contextVarReset h self.token)

/-! ## Agreement with the steps of the loop -/

/-- Whether `io_uring_register_buffers` and the allocation of the index registry succeed. -/
def EnterEnv.registers (env : EnterEnv) (k : Registrations) : Bool :=
  !k.fixed && env.agreed && env.allocated

theorem initBuffers_loop {h : Host} {p : PayloadId} {b : BufferPayload} (token : Token)
    (env : EnterEnv) (context : ExecutionContext) (hb : h.loop.heap.payloads[p]? = some b)
    (hc : h.loop.context = some context) :
    (initBuffers h p token env).map (fun r => r.2.loop) =
      openBuffers { h.loop with context := token } context p (env.registers h.kernel)
        env.submit := by
  have hset : { h.loop with context := some context } = h.loop := by rw [← hc]
  unfold initBuffers openBuffers
  simp only [hb]
  cases b.mode with
  | normalBuf => exact congrArg Except.ok hset.symm
  | bufNoVal => exact congrArg Except.ok hset.symm
  | bufRing =>
    cases b.linear with
    | none => rfl
    | some linear => exact congrArg Except.ok hset.symm
  | provided =>
    cases b.linear with
    | none => rfl
    | some linear =>
      cases hi : initProvidedMode h.loop.ring linear.buffer (toInt linear.len) b.amount b.bgid
          env.submit with
      | mk result ring =>
        simp only [hi]
        split
        · rfl
        · simp only [Except.map, hc]
  | fixed =>
    cases b.vector with
    | none => rfl
    | some vector =>
      unfold Registrations.registerBuffers EnterEnv.registers
      cases h.kernel.fixed <;> cases env.agreed <;> cases env.allocated <;>
        simp [Except.map, contextVarReset, hc]

theorem bufferModeCtxEnter_loop {h : Host} {p : PayloadId} {b : BufferPayload} {env : EnterEnv}
    (hb : h.loop.heap.payloads[p]? = some b) :
    (bufferModeCtxEnter h b.mode p env).map (fun r => r.2.loop) =
      BufferModeCtx.enter h.loop p (env.registers h.kernel) env.submit := by
  unfold bufferModeCtxEnter BufferModeCtx.enter
  simp only [hb]
  cases hc : h.loop.context with
  | none => rfl
  | some context =>
    have hi := initBuffers_loop (some context) env
      { context with bufferMode := b.mode, bufferPayload := some p }
      (h := { h with loop := { h.loop with
        context := some { context with bufferMode := b.mode, bufferPayload := some p } } }) hb rfl
    simp only [contextVarSet, hc] at hi ⊢
    rw [hi, ← hc]

theorem executionContextCtxEnter_loop {h : Host} {p : PayloadId} {b : BufferPayload}
    {stream : StreamStrategy} {transfer : TransferMode} {env : EnterEnv}
    (hb : h.loop.heap.payloads[p]? = some b) :
    (executionContextCtxEnter h ⟨b.mode, stream, transfer, some p⟩ p env).map
        (fun r => r.2.loop) =
      ExecutionContextCtx.enter h.loop p stream transfer (env.registers h.kernel)
        env.submit := by
  unfold executionContextCtxEnter ExecutionContextCtx.enter
  simp only [hb]
  exact initBuffers_loop h.loop.context env ⟨b.mode, stream, transfer, some p⟩
    (h := { h with loop := { h.loop with
      context := some ⟨b.mode, stream, transfer, some p⟩ } }) hb rfl

theorem streamStrategyCtxEnter_loop (h : Host) (stream : StreamStrategy) :
    (streamStrategyCtxEnter h stream).2.loop = StreamStrategyCtx.enter h.loop stream := by
  unfold streamStrategyCtxEnter StreamStrategyCtx.enter
  cases hc : h.loop.context with
  | none =>
    simp only [Option.map_none]
    rw [← hc]
  | some context => rfl

theorem transferModeCtxEnter_loop (h : Host) (transfer : TransferMode) :
    (transferModeCtxEnter h transfer).2.loop = TransferModeCtx.enter h.loop transfer := by
  unfold transferModeCtxEnter TransferModeCtx.enter
  cases hc : h.loop.context with
  | none =>
    simp only [Option.map_none]
    rw [← hc]
  | some context => rfl

theorem bufferModeCtxExit_loop (h : Host) (p : PayloadId) (self : Entered) (submit : Int) :
    (bufferModeCtxExit h p self submit).map Host.loop =
      BufferModeCtx.exit h.loop p self.token submit := by
  unfold bufferModeCtxExit BufferModeCtx.exit contextVarReset
  dsimp only
  cases h.loop.heap.payloads[p]? with
  | none => rfl
  | some b =>
    dsimp only
    cases b.mode with
    | normalBuf => rfl
    | bufNoVal => rfl
    | fixed => rfl
    | provided => rfl
    | bufRing => cases self.bufRing <;> rfl

end Uringio
