/-
  The event loop together with its callers and the kernel, one action at a time.

  An action is a call of an operation, a submission, a CQE posted by the kernel, one
  iteration of the reader, a wakeup, a step of a context manager, a switch to another task,
  or the shutdown. The state adds to the loop what the properties speak about: the accepted
  requests, the CQEs that the reader has consumed, and the payloads that belong to context
  managers. Any order of actions is a run.
-/
import Uringio.Loop.Context
import Uringio.Loop.Shutdown
import Uringio.PyOps.Run
import Uringio.Reader.Handled

namespace Uringio

/-- `subs` has the accepted requests and `seen` the consumed CQEs, the latest first. -/
structure System where
  loop : Loop
  subs : List Submitted
  seen : List Cqe
  contexts : List PayloadId
  down : Bool
deriving DecidableEq, Repr

inductive Act where
  | call (call : OpCall) (env : CallEnv)
  | submit (result : Int)
  | post (seq : Nat) (res : Int) (flags : Nat)
  | read (env : ReadEnv)
  | wake
  | newBuffers (mode : BufferMode) (buffersObj : Bool) (buffers : Option (List LinearBuffer))
      (bgid unassigned : Int)
  | enterBuffers (p : PayloadId) (registered : Bool) (submit : Int)
  | enterContext (p : PayloadId) (stream : StreamStrategy) (transferMode : TransferMode)
      (registered : Bool) (submit : Int)
  | exitBuffers (p : PayloadId) (token : Option ExecutionContext) (submit : Int)
  | stream (stream : StreamStrategy)
  | transfer (transferMode : TransferMode)
  | switch (context : Option ExecutionContext)
  | shutdown (drained : List Drained) (submit : Int)

namespace System

/-- A loop before its first action. -/
def init (l : Loop) : System := ⟨l, [], [], [], false⟩

/-- A context that some task can have: its payload is that of a context manager. -/
def KnownContext (s : System) (context : Option ExecutionContext) : Prop :=
  ∀ c, context = some c → ∀ p, c.bufferPayload = some p → p ∈ s.contexts

instance (s : System) (context : Option ExecutionContext) : Decidable (s.KnownContext context) :=
  match context with
  | none => .isTrue fun _ h => absurd h (by simp)
  | some c =>
    match h : c.bufferPayload with
    | none => .isTrue fun _ hc _ hp => by
        rw [← Option.some.inj hc, h] at hp
        exact absurd hp (by simp)
    | some p => decidable_of_iff (p ∈ s.contexts) (by
        constructor
        · intro hp _ hc q hq
          rw [← Option.some.inj hc, h] at hq
          exact Option.some.inj hq ▸ hp
        · exact fun hk => hk c rfl p h)

/-- A new loop state in the same history. -/
def withLoop (s : System) (l : Loop) : System := { s with loop := l }

/-- A call of an operation. -/
def stepCall (s : System) (call : OpCall) (env : CallEnv) : Except Stop System :=
  match call.run env s.loop with
  | .error e => .error e
  | .ok (.error _, l) => .ok (s.withLoop l)
  | .ok (.ok sub, l) => .ok { s.withLoop l with subs := sub :: s.subs }

/-- One iteration of the reader. -/
def stepRead (s : System) (env : ReadEnv) : Except Stop System :=
  match s.loop.ring.cq with
  | [] => .error .stuck
  | c :: _ =>
    match readCqe env s.loop c with
    | .error e => .error e
    | .ok l => .ok { s.withLoop l with seen := c :: s.seen }

/-- The kernel posts a CQE of an SQE in flight. -/
def stepPost (s : System) (seq : Nat) (res : Int) (flags : Nat) : Except Stop System :=
  match s.loop.ring.post seq res flags with
  | none => .error .stuck
  | some ring => .ok (s.withLoop { s.loop with ring := ring })

/-- A new context manager with its payload. -/
def stepNewBuffers (s : System) (mode : BufferMode) (buffersObj : Bool)
    (buffers : Option (List LinearBuffer)) (bgid unassigned : Int) : System :=
  match createBufferPayload s.loop.heap mode buffersObj buffers bgid unassigned with
  | (none, heap) => s.withLoop { s.loop with heap := heap }
  | (some p, heap) =>
    { s.withLoop { s.loop with heap := heap } with contexts := p :: s.contexts }

/-- The shutdown drains the CQEs that are in the queue by then. -/
def stepShutdown (s : System) (drained : List Drained) (submit : Int) : Except Stop System :=
  if drained.map Drained.cqe = s.loop.ring.cq then
    match gracefulShutdown s.loop drained submit with
    | .error e => .error e
    | .ok l =>
      .ok { s.withLoop l with
        seen := (drained.map Drained.cqe).reverse ++ s.seen, down := true }
  else .error .stuck

/-- A step of the context manager of the payload `p`. -/
def stepContext (s : System) (p : PayloadId) (step : Loop → Except Stop Loop) :
    Except Stop System :=
  if p ∈ s.contexts then (step s.loop).map s.withLoop else .error .stuck

def step (s : System) (a : Act) : Except Stop System :=
  if s.down then .error .stuck
  else
    match a with
    | .call call env => s.stepCall call env
    | .submit result =>
      .ok (s.withLoop { s.loop with ring := (ioUringSubmit s.loop.ring result).2 })
    | .post seq res flags => s.stepPost seq res flags
    | .read env => s.stepRead env
    | .wake => .ok (s.withLoop (writeToSelf s.loop))
    | .newBuffers mode buffersObj buffers bgid unassigned =>
      .ok (s.stepNewBuffers mode buffersObj buffers bgid unassigned)
    | .enterBuffers p registered submit =>
      s.stepContext p fun l => BufferModeCtx.enter l p registered submit
    | .enterContext p stream transferMode registered submit =>
      s.stepContext p fun l => ExecutionContextCtx.enter l p stream transferMode registered submit
    | .exitBuffers p token submit =>
      if s.KnownContext token then
        s.stepContext p fun l => BufferModeCtx.exit l p token submit
      else .error .stuck
    | .stream stream => .ok (s.withLoop (StreamStrategyCtx.enter s.loop stream))
    | .transfer transferMode => .ok (s.withLoop (TransferModeCtx.enter s.loop transferMode))
    | .switch context =>
      if s.KnownContext context then .ok (s.withLoop { s.loop with context := context })
      else .error .stuck
    | .shutdown drained submit => s.stepShutdown drained submit

/-- A run of the whole system. -/
abbrev run (s : System) (acts : List Act) : Except Stop System := Lib.run step s acts

/-- What a call submits: the request, and the heap at its submission. A call that gives up
    before, or that finds the registry full, submits nothing. -/
def submission (s : System) (call : OpCall) (env : CallEnv) : Option (Request × Heap) :=
  if s.loop.registry.top < 0 then none
  else
    match call.prepare env s.loop with
    | .ok (.ok req, l) => some (req, l.heap)
    | _ => none

/-- The C-layer operation that a call comes to. -/
def dispatched (s : System) (call : OpCall) (env : CallEnv) : Option (COp × TimeoutParams) :=
  (s.submission call env).bind fun r =>
    match r.1.dispatch r.2 with
    | .ok (op, _) => some (op, r.1.timeoutParams)
    | .error _ => none

theorem dispatched_of_prepare {s : System} {call : OpCall} {env : CallEnv} {req : Request}
    {l1 : Loop} {op : COp} {heap1 : Heap} (hprep : call.prepare env s.loop = .ok (.ok req, l1))
    (htop : ¬ s.loop.registry.top < 0) (hd : req.dispatch l1.heap = .ok (op, heap1)) :
    s.dispatched call env = some (op, req.timeoutParams) := by
  unfold dispatched submission
  rw [if_neg htop, hprep]
  simp only [Option.bind_some, hd]

instance decidableOfSome {α : Type} {P : α → Prop} [DecidablePred P] :
    (o : Option α) → Decidable (∀ x, o = some x → P x)
  | none => .isTrue fun _ h => absurd h (by simp)
  | some x => decidable_of_iff (P x) (by simp)

/-! ## The functions of the library are runs -/

/-- The iterations of the reader are actions. -/
theorem readCqes_run {n : Nat} {envs : List ReadEnv} {s : System} {l : Loop}
    (hd : s.down = false) (h : readCqes n envs s.loop = .ok l) :
    ∃ acts t, s.run acts = .ok t ∧ t.loop = l := by
  induction n generalizing s envs with
  | zero => exact ⟨[], s, rfl, Except.ok.inj h⟩
  | succ n ih =>
    unfold readCqes at h
    split at h
    · exact ⟨[], s, rfl, Except.ok.inj h⟩
    · rename_i c cs hcq
      cases hr : readCqe (envs.headD .ok) s.loop c with
      | error e =>
        rw [hr] at h
        exact absurd h (by simp [Except.bind])
      | ok m =>
        rw [hr] at h
        obtain ⟨acts, t, hrun, ht⟩ :=
          ih (s := { s.withLoop m with seen := c :: s.seen }) hd h
        refine ⟨.read (envs.headD .ok) :: acts, t, Lib.run_cons_ok.mpr ⟨_, ?_, hrun⟩, ht⟩
        simp only [step, hd, Bool.false_eq_true, if_false, stepRead, hcq, hr]

theorem onUringReady_run {envs : List ReadEnv} {s : System} {l : Loop} (hd : s.down = false)
    (h : onUringReady envs s.loop = .ok l) : ∃ acts t, s.run acts = .ok t ∧ t.loop = l :=
  readCqes_run hd h

end System

end Uringio
