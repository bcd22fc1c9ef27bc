/-
  Nested `with` blocks of the four context managers in one Python context.

  A run creates manager objects, enters each of them at most once and leaves the innermost
  open one, in any order. `opened` has the managers that were entered and not yet left, the
  innermost first; `outer` and `inner` of a frame record the host right before and right
  after its `__enter__`, for the properties only.

  `reads_innermost`: in every state of a run the three getters return what the innermost
  open manager set, and leaving a manager, or a failing enter, gives back the context from
  before it.
-/
import Uringio.Contexts.Managers
import Uringio.Lib.Machine
import Uringio.Lib.Scopes
import Uringio.Loop.Init

namespace Uringio

/-! ## What one enter does -/

/-- What a manager makes of the current context. -/
def Manager.override (m : Manager) (c : ExecutionContext) : ExecutionContext :=
  match m with
  | .bufferMode payload p => { c with bufferMode := payload, bufferPayload := some p }
  | .streamStrategy payload => { c with stream := payload }
  | .transferMode payload => { c with transferMode := payload }
  | .executionContext payload _ => payload

/-- The buffer that a manager sets. -/
def Manager.buffer : Manager → Option (Option PayloadId)
  | .bufferMode _ p => some (some p)
  | .executionContext payload _ => some payload.bufferPayload
  | .streamStrategy _ | .transferMode _ => none

/-- The stream strategy that a manager sets. -/
def Manager.stream : Manager → Option StreamStrategy
  | .streamStrategy payload => some payload
  | .executionContext payload _ => some payload.stream
  | .bufferMode _ _ | .transferMode _ => none

/-- The transfer mode that a manager sets. -/
def Manager.transfer : Manager → Option TransferMode
  | .transferMode payload => some payload
  | .executionContext payload _ => some payload.transferMode
  | .bufferMode _ _ | .streamStrategy _ => none

/-- The payload that the object owns. -/
def Manager.owned : Manager → Option PayloadId
  | .bufferMode _ p | .executionContext _ p => some p
  | .streamStrategy _ | .transferMode _ => none

namespace Manager

theorem override_bufferPayload (m : Manager) (c : ExecutionContext) :
    (m.override c).bufferPayload = m.buffer.getD c.bufferPayload := by
  cases m <;> rfl

theorem override_stream (m : Manager) (c : ExecutionContext) :
    (m.override c).stream = m.stream.getD c.stream := by
  cases m <;> rfl

theorem override_transferMode (m : Manager) (c : ExecutionContext) :
    (m.override c).transferMode = m.transfer.getD c.transferMode := by
  cases m <;> rfl

end Manager

/-- A payload that can be registered: entering a FIXED context reads the vector, the
    PROVIDED modes read the first buffer. -/
structure BufferPayload.Enterable (b : BufferPayload) : Prop where
  vector : b.mode = .fixed → b.vector ≠ none
  linear : b.mode = .provided ∨ b.mode = .bufRing → b.linear ≠ none

/-- What a payload keeps while its context is entered and left. -/
structure BufferPayload.SameRequest (b b' : BufferPayload) : Prop where
  mode : b'.mode = b.mode
  amount : b'.amount = b.amount
  bgid : b'.bgid = b.bgid
  linear : b'.linear = b.linear

/-- The step of a manager changes at most the payload that it owns. -/
structure OwnPayload (owned : Option PayloadId) (h h' : Heap) : Prop where
  length : h'.payloads.length = h.payloads.length
  own : ∀ (p : PayloadId) (b : BufferPayload), h.payloads[p]? = some b →
    ∃ b', h'.payloads[p]? = some b' ∧ b.SameRequest b'
  other : ∀ p : PayloadId, owned ≠ some p → h'.payloads[p]? = h.payloads[p]?

theorem BufferPayload.SameRequest.refl (b : BufferPayload) : b.SameRequest b :=
  ⟨rfl, rfl, rfl, rfl⟩

theorem OwnPayload.refl (owned : Option PayloadId) (h : Heap) : OwnPayload owned h h :=
  ⟨rfl, fun _ b hb => ⟨b, hb, .refl b⟩, fun _ _ => rfl⟩

theorem OwnPayload.put {h : Heap} {p : PayloadId} {b b' : BufferPayload}
    (hb : h.payloads[p]? = some b) (hs : b.SameRequest b') :
    OwnPayload (some p) h (h.put p b') := by
  have hlt : p < h.payloads.length := (List.getElem?_eq_some_iff.mp hb).1
  constructor
  case length => simp [Heap.put]
  case own =>
    intro q c hc
    by_cases hqp : p = q
    · subst hqp
      rw [hb] at hc
      obtain rfl := Option.some.inj hc
      exact ⟨b', by simp [Heap.put, hlt], hs⟩
    · exact ⟨c, by simp [Heap.put, hqp, hc], .refl c⟩
  case other =>
    intro q hq
    have hqp : p ≠ q := fun h => hq (by rw [h])
    simp [Heap.put, hqp]

/-- What the switch over the buffer mode does: it fails and resets the variable, or it
    leaves the variable as it was set. -/
structure Inited (h : Host) (p : PayloadId) (token : Token) (r : Option Entered) (h' : Host) :
    Prop where
  heap : OwnPayload (some p) h.loop.heap h'.loop.heap
  failed : r = none → h'.loop.context = token
  entered : ∀ e, r = some e → e.token = token ∧ h'.loop.context = h.loop.context

theorem initBuffers_inited {h h' : Host} {p : PayloadId} {token : Token} {env : EnterEnv}
    {r : Option Entered} (hi : initBuffers h p token env = .ok (r, h')) :
    Inited h p token r h' := by
  unfold initBuffers at hi
  cases hb : h.loop.heap.payloads[p]? with
  | none => simp [hb] at hi
  | some b =>
    simp only [hb] at hi
    cases hm : b.mode with
    | normalBuf =>
      simp only [hm, Except.ok.injEq, Prod.mk.injEq] at hi
      obtain ⟨rfl, rfl⟩ := hi
      exact ⟨.refl _ _, by simp, by simp⟩
    | bufNoVal =>
      simp only [hm, Except.ok.injEq, Prod.mk.injEq] at hi
      obtain ⟨rfl, rfl⟩ := hi
      exact ⟨.refl _ _, by simp, by simp⟩
    | fixed =>
      simp only [hm] at hi
      cases hv : b.vector with
      | none => simp [hv] at hi
      | some v =>
        simp only [hv] at hi
        cases hk : h.kernel.registerBuffers env.agreed with
        | mk registered kernel =>
          simp only [hk] at hi
          cases registered with
          | false =>
            simp only [Except.ok.injEq, Prod.mk.injEq] at hi
            obtain ⟨rfl, rfl⟩ := hi
            exact ⟨.refl _ _, fun _ => rfl, by simp⟩
          | true =>
            simp only at hi
            split at hi
            · simp only [Except.ok.injEq, Prod.mk.injEq] at hi
              obtain ⟨rfl, rfl⟩ := hi
              exact ⟨.refl _ _, fun _ => rfl, by simp⟩
            · simp only [Except.ok.injEq, Prod.mk.injEq] at hi
              obtain ⟨rfl, rfl⟩ := hi
              exact ⟨.put hb ⟨hm.symm, rfl, rfl, rfl⟩, by simp, by simp⟩
    | provided =>
      simp only [hm] at hi
      cases hl : b.linear with
      | none => simp [hl] at hi
      | some linear =>
        simp only [hl] at hi
        split at hi
        · simp only [Except.ok.injEq, Prod.mk.injEq] at hi
          obtain ⟨rfl, rfl⟩ := hi
          exact ⟨.refl _ _, fun _ => rfl, by simp⟩
        · simp only [Except.ok.injEq, Prod.mk.injEq] at hi
          obtain ⟨rfl, rfl⟩ := hi
          exact ⟨.refl _ _, by simp, by simp⟩
    | bufRing =>
      simp only [hm] at hi
      cases hl : b.linear with
      | none => simp [hl] at hi
      | some linear =>
        simp only [hl, Except.ok.injEq, Prod.mk.injEq] at hi
        obtain ⟨rfl, rfl⟩ := hi
        exact ⟨.refl _ _, by simp, by simp⟩

/-- The switch does not read through a NULL of an enterable payload. -/
theorem initBuffers_ok {h : Host} {p : PayloadId} {token : Token} {env : EnterEnv}
    {b : BufferPayload} (hb : h.loop.heap.payloads[p]? = some b) (he : b.Enterable) :
    ∃ r, initBuffers h p token env = .ok r := by
  unfold initBuffers
  simp only [hb]
  cases hm : b.mode with
  | normalBuf => exact ⟨_, rfl⟩
  | bufNoVal => exact ⟨_, rfl⟩
  | fixed =>
    cases hv : b.vector with
    | none => exact absurd hv (he.vector hm)
    | some v =>
      cases hk : h.kernel.registerBuffers env.agreed with
      | mk registered kernel =>
        cases registered with
        | false => exact ⟨_, rfl⟩
        | true =>
          simp only
          split
          · exact ⟨_, rfl⟩
          · exact ⟨_, rfl⟩
  | provided =>
    cases hl : b.linear with
    | none => exact absurd hl (he.linear (.inl hm))
    | some linear =>
      simp only
      split
      · exact ⟨_, rfl⟩
      · exact ⟨_, rfl⟩
  | bufRing =>
    cases hl : b.linear with
    | none => exact absurd hl (he.linear (.inr hm))
    | some linear => exact ⟨_, rfl⟩

/-- What an enter does where a context is set. -/
structure EnteredBy (m : Manager) (h : Host) (c : ExecutionContext) (r : Option Entered)
    (h' : Host) : Prop where
  heap : OwnPayload m.owned h.loop.heap h'.loop.heap
  failed : r = none → h'.loop.context = h.loop.context
  entered : ∀ e, r = some e →
    e.token = h.loop.context ∧ h'.loop.context = some (m.override c)

theorem Manager.enter_spec {m : Manager} {h h' : Host} {c : ExecutionContext} {env : EnterEnv}
    {r : Option Entered} (hc : h.loop.context = some c) (he : m.enter h env = .ok (r, h')) :
    EnteredBy m h c r h' := by
  cases m with
  | bufferMode payload p =>
    simp only [Manager.enter, bufferModeCtxEnter, hc] at he
    have hi := initBuffers_inited he
    exact ⟨hi.heap, fun hr => hi.failed hr, fun e hr => hi.entered e hr⟩
  | streamStrategy payload =>
    simp only [Manager.enter, streamStrategyCtxEnter, hc, contextVarSet, Except.ok.injEq,
      Prod.mk.injEq] at he
    obtain ⟨rfl, rfl⟩ := he
    exact ⟨.refl _ _, by simp, fun e hr => by
      obtain rfl := Option.some.inj hr
      exact ⟨hc.symm, rfl⟩⟩
  | transferMode payload =>
    simp only [Manager.enter, transferModeCtxEnter, hc, contextVarSet, Except.ok.injEq,
      Prod.mk.injEq] at he
    obtain ⟨rfl, rfl⟩ := he
    exact ⟨.refl _ _, by simp, fun e hr => by
      obtain rfl := Option.some.inj hr
      exact ⟨hc.symm, rfl⟩⟩
  | executionContext payload p =>
    simp only [Manager.enter, executionContextCtxEnter] at he
    have hi := initBuffers_inited he
    exact ⟨hi.heap, fun hr => hi.failed hr, fun e hr => hi.entered e hr⟩

/-- The payload of an object can be registered. -/
def Manager.Ready (m : Manager) (h : Heap) : Prop :=
  ∀ p, m.owned = some p → ∃ b, h.payloads[p]? = some b ∧ b.Enterable

theorem Manager.enter_ok {m : Manager} {h : Host} (env : EnterEnv) (hm : m.Ready h.loop.heap) :
    ∃ r, m.enter h env = .ok r := by
  cases m with
  | bufferMode payload p =>
    obtain ⟨b, hb, he⟩ := hm p rfl
    unfold Manager.enter bufferModeCtxEnter
    cases h.loop.context with
    | none => exact ⟨_, rfl⟩
    | some c => exact initBuffers_ok (h := (contextVarSet h _).2) hb he
  | streamStrategy payload => exact ⟨_, rfl⟩
  | transferMode payload => exact ⟨_, rfl⟩
  | executionContext payload p =>
    obtain ⟨b, hb, he⟩ := hm p rfl
    exact initBuffers_ok (h := (contextVarSet h payload).2) hb he

/-! ## What one creation does -/

theorem createBufferPayload_cases (h : Heap) (mode : BufferMode) (buffersObj : Bool)
    (buffers : Option (List LinearBuffer)) (bgid unassigned : Int) :
    createBufferPayload h mode buffersObj buffers bgid unassigned = (none, h) ∨
      ∃ b : BufferPayload,
        createBufferPayload h mode buffersObj buffers bgid unassigned =
          (some h.payloads.length, (h.alloc b).2) ∧ b.mode = mode ∧
        ((mode = .provided ∨ mode = .bufRing → buffers ≠ some []) → b.Enterable) := by
  cases buffers with
  | none => cases mode <;> exact .inl rfl
  | some buffers =>
    have hhead : ∀ b : LinearBuffer, ∀ bs, (b :: bs : List LinearBuffer).head? ≠ none := by simp
    cases mode with
    | bufNoVal => exact .inl rfl
    | normalBuf => exact .inr ⟨_, rfl, rfl, fun _ => ⟨by simp, by simp⟩⟩
    | fixed => exact .inr ⟨_, rfl, rfl, fun _ => ⟨by simp, by simp⟩⟩
    | provided =>
      refine .inr ⟨_, rfl, rfl, fun hf => ⟨by simp, fun _ => ?_⟩⟩
      cases buffers with
      | nil => exact absurd rfl (hf (.inl rfl))
      | cons b bs => exact hhead b bs
    | bufRing =>
      refine .inr ⟨_, rfl, rfl, fun hf => ⟨by simp, fun _ => ?_⟩⟩
      cases buffers with
      | nil => exact absurd rfl (hf (.inr rfl))
      | cons b bs => exact hhead b bs

/-- What a constructor does: it adds at most one payload, that of the new object. -/
structure CreatedBy (args : ManagerArgs) (l : Loop) (r : Option Manager) (l' : Loop) : Prop where
  context : l'.context = l.context
  ring : l'.ring = l.ring
  kept : ∀ (p : PayloadId) (b : BufferPayload), l.heap.payloads[p]? = some b →
    l'.heap.payloads[p]? = some b
  fresh : ∀ m, r = some m → ∀ p, m.owned = some p → p = l.heap.payloads.length ∧
    ∃ b, l'.heap.payloads[p]? = some b ∧ (args.Filled → b.Enterable)

theorem ManagerArgs.create_spec (args : ManagerArgs) (l : Loop) :
    CreatedBy args l (args.create l).1 (args.create l).2 := by
  cases args with
  | streamStrategy stream =>
    refine ⟨rfl, rfl, fun _ _ hb => hb, fun m hm p hp => ?_⟩
    obtain rfl := Option.some.inj hm
    simp [Manager.owned] at hp
  | transferMode mode =>
    refine ⟨rfl, rfl, fun _ _ hb => hb, fun m hm p hp => ?_⟩
    obtain rfl := Option.some.inj hm
    simp [Manager.owned] at hp
  | bufferMode mode buffersObj buffers bgid unassigned object =>
    simp only [ManagerArgs.create, uringioLoopBufferMode]
    rcases createBufferPayload_cases l.heap mode buffersObj buffers bgid unassigned with
      h | ⟨b, h, _, he⟩
    · rw [h]
      exact ⟨rfl, rfl, fun _ _ hb => hb, by simp⟩
    · rw [h]
      dsimp only
      cases object with
      | true =>
        refine ⟨rfl, rfl, fun _ _ hb => alloc_payloads_of_some hb, fun m hm p hp => ?_⟩
        obtain rfl := Option.some.inj hm
        obtain rfl := Option.some.inj hp
        exact ⟨rfl, b, alloc_payloads_self, he⟩
      | false =>
        refine ⟨rfl, rfl, fun p c hc => ?_, by simp⟩
        have hlt : p < l.heap.payloads.length := (List.getElem?_eq_some_iff.mp hc).1
        exact (freeBufferPayload_of_ne (Nat.ne_of_gt hlt)).trans (alloc_payloads_of_some hc)
  | executionContext mode stream transfer buffersObj buffers bgid unassigned object =>
    simp only [ManagerArgs.create, uringioLoopExecutionContext]
    rcases createBufferPayload_cases l.heap mode buffersObj buffers bgid unassigned with
      h | ⟨b, h, _, he⟩
    · rw [h]
      exact ⟨rfl, rfl, fun _ _ hb => hb, by simp⟩
    · rw [h]
      dsimp only
      refine ⟨rfl, rfl, fun _ _ hb => alloc_payloads_of_some hb, fun m hm p hp => ?_⟩
      cases object with
      | true =>
        obtain rfl := Option.some.inj hm
        obtain rfl := Option.some.inj hp
        exact ⟨rfl, b, alloc_payloads_self, he⟩
      | false => simp at hm

/-! ## What one exit does -/

/-- What an exit does: it sets what the token has. -/
structure ExitedBy (m : Manager) (h : Host) (e : Entered) (h' : Host) : Prop where
  heap : OwnPayload m.owned h.loop.heap h'.loop.heap
  context : h'.loop.context = e.token

theorem Manager.exit_spec {m : Manager} {h h' : Host} {e : Entered} {submit : Int}
    (hx : m.exit h e submit = .ok h') : ExitedBy m h e h' := by
  cases m with
  | bufferMode payload p =>
    simp only [Manager.exit, bufferModeCtxExit, contextVarReset] at hx
    cases hb : h.loop.heap.payloads[p]? with
    | none => simp [hb] at hx
    | some b =>
      simp only [hb] at hx
      cases hm : b.mode with
      | normalBuf =>
        simp only [hm, Except.ok.injEq] at hx
        subst hx
        exact ⟨.refl _ _, rfl⟩
      | bufNoVal =>
        simp only [hm, Except.ok.injEq] at hx
        subst hx
        exact ⟨.refl _ _, rfl⟩
      | fixed =>
        simp only [hm, Except.ok.injEq] at hx
        subst hx
        exact ⟨.put hb ⟨hm.symm, rfl, rfl, rfl⟩, rfl⟩
      | provided =>
        simp only [hm, Except.ok.injEq] at hx
        subst hx
        exact ⟨.refl _ _, rfl⟩
      | bufRing =>
        simp only [hm] at hx
        split at hx
        · cases hx
          exact ⟨.refl _ _, rfl⟩
        · cases hx
          exact ⟨.refl _ _, rfl⟩
  | streamStrategy payload =>
    cases hx
    exact ⟨.refl _ _, rfl⟩
  | transferMode payload =>
    cases hx
    exact ⟨.refl _ _, rfl⟩
  | executionContext payload p =>
    cases hx
    exact ⟨.refl _ _, rfl⟩

theorem Manager.exit_ok {m : Manager} {h : Host} (e : Entered) (submit : Int)
    (hm : ∀ p, m.owned = some p → h.loop.heap.payloads[p]? ≠ none) :
    ∃ h', m.exit h e submit = .ok h' := by
  cases m with
  | bufferMode payload p =>
    simp only [Manager.exit, bufferModeCtxExit, contextVarReset]
    cases hb : h.loop.heap.payloads[p]? with
    | none => exact absurd hb (hm p rfl)
    | some b =>
      dsimp only
      cases hk : b.mode with
      | normalBuf => exact ⟨_, rfl⟩
      | bufNoVal => exact ⟨_, rfl⟩
      | fixed => exact ⟨_, rfl⟩
      | provided => exact ⟨_, rfl⟩
      | bufRing =>
        dsimp only
        split
        · exact ⟨_, rfl⟩
        · exact ⟨_, rfl⟩
  | streamStrategy payload => exact ⟨_, rfl⟩
  | transferMode payload => exact ⟨_, rfl⟩
  | executionContext payload p => exact ⟨_, rfl⟩

/-! ## Runs of nested blocks -/

/-- An open manager: the object, what its `__enter__` left in it, and the host right before
    and right after that call. -/
structure Frame where
  manager : Manager
  self : Entered
  outer : Host
  inner : Host

/-- What an open manager made of the context that it found. -/
structure Frame.Sets (f : Frame) : Prop where
  token : f.self.token = f.outer.loop.context
  context : f.inner.loop.context = f.outer.loop.context.map f.manager.override

/-- `managers` has the objects in the order of their creation, `entered` those whose
    `__enter__` was called, `opened` the frames, innermost first. -/
structure Nesting where
  host : Host
  managers : List Manager
  entered : List Nat
  opened : List Frame

inductive BlockAct where
  | create (args : ManagerArgs)
  | enter (object : Nat) (env : EnterEnv)
  | leave (submit : Int)
deriving DecidableEq, Repr

namespace Nesting

def init (h : Host) : Nesting := ⟨h, [], [], []⟩

def stepCreate (s : Nesting) (args : ManagerArgs) : Nesting :=
  { s with
    host := { s.host with loop := (args.create s.host.loop).2 }
    managers := s.managers ++ (args.create s.host.loop).1.toList }

def stepEnter (s : Nesting) (object : Nat) (env : EnterEnv) : Except Stop Nesting :=
  if object ∈ s.entered then .error .stuck
  else
    match s.managers[object]? with
    | none => .error .stuck
    | some m =>
      match m.enter s.host env with
      | .error e => .error e
      | .ok (none, h) => .ok { s with host := h, entered := object :: s.entered }
      | .ok (some self, h) =>
        .ok { s with
          host := h, entered := object :: s.entered
          opened := ⟨m, self, s.host, h⟩ :: s.opened }

def stepLeave (s : Nesting) (submit : Int) : Except Stop Nesting :=
  match s.opened with
  | [] => .error .stuck
  | f :: fs =>
    match f.manager.exit s.host f.self submit with
    | .error e => .error e
    | .ok h => .ok { s with host := h, opened := fs }

def step (s : Nesting) (a : BlockAct) : Except Stop Nesting :=
  match a with
  | .create args => .ok (s.stepCreate args)
  | .enter object env => s.stepEnter object env
  | .leave submit => s.stepLeave submit

abbrev run (s : Nesting) (acts : List BlockAct) : Except Stop Nesting := Lib.run step s acts

/-- What an enter makes of the state: the object counts as entered, and where its `__enter__`
    does not return NULL it has a frame. -/
theorem stepEnter_ok {s t : Nesting} {object : Nat} {env : EnterEnv}
    (ht : s.stepEnter object env = .ok t) :
    ∃ m r h, s.managers[object]? = some m ∧ m.enter s.host env = .ok (r, h) ∧
      t = ⟨h, s.managers, object :: s.entered,
        (r.map fun self => ⟨m, self, s.host, h⟩).toList ++ s.opened⟩ := by
  unfold stepEnter at ht
  split at ht
  · cases ht
  · cases hm : s.managers[object]? with
    | none => simp [hm] at ht
    | some m =>
      simp only [hm] at ht
      cases he : m.enter s.host env with
      | error e => simp [he] at ht
      | ok r =>
        obtain ⟨r, h⟩ := r
        refine ⟨m, r, h, rfl, he, ?_⟩
        cases r with
        | none =>
          simp only [he, Except.ok.injEq] at ht
          exact ht.symm
        | some self =>
          simp only [he, Except.ok.injEq] at ht
          exact ht.symm

/-- What an exit makes of the state: the innermost frame is gone. -/
theorem stepLeave_ok {s t : Nesting} {submit : Int} (ht : s.stepLeave submit = .ok t) :
    ∃ f fs h, s.opened = f :: fs ∧ f.manager.exit s.host f.self submit = .ok h ∧
      t = ⟨h, s.managers, s.entered, fs⟩ := by
  unfold stepLeave at ht
  cases ho : s.opened with
  | nil => simp [ho] at ht
  | cons f fs =>
    simp only [ho] at ht
    cases hx : f.manager.exit s.host f.self submit with
    | error e => simp [hx] at ht
    | ok h =>
      simp only [hx, Except.ok.injEq] at ht
      exact ⟨f, fs, h, rfl, hx, ht.symm⟩

/-- The next action keeps the sequence well nested: an object is entered once, and the
    innermost open manager is left. An array of buffers for the kernel is not empty. -/
def WellNested (s : Nesting) (a : BlockAct) : Prop :=
  match a with
  | .create args => args.Filled
  | .enter object _ => object < s.managers.length ∧ object ∉ s.entered
  | .leave _ => s.opened ≠ []

/-- Leaving a manager gives back the context from before its enter; an enter that fails and
    the creation of an object change nothing. -/
def Restores (s : Nesting) (a : BlockAct) (t : Nesting) : Prop :=
  match a with
  | .create _ => t.host.loop.context = s.host.loop.context
  | .enter _ _ => t.opened = s.opened → t.host.loop.context = s.host.loop.context
  | .leave _ =>
    ∃ f, s.opened = f :: t.opened ∧ t.host.loop.context = f.outer.loop.context

/-! ### The invariant of a run -/

/-- The objects and their payloads: each object owns its payload, and a payload is ready
    until its object is entered. -/
structure Objects (s : Nesting) : Prop where
  ready : ∀ i m, s.managers[i]? = some m → i ∉ s.entered → m.Ready s.host.loop.heap
  lives : ∀ m ∈ s.managers, ∀ p, m.owned = some p → p < s.host.loop.heap.payloads.length
  owner : ∀ (i j : Nat) (m m' : Manager) (p : PayloadId), s.managers[i]? = some m →
    s.managers[j]? = some m' → m.owned = some p → m'.owned = some p → i = j
  opened : ∀ f ∈ s.opened, ∃ i ∈ s.entered, s.managers[i]? = some f.manager

/-- The contexts of the open managers lie one inside the other, and the outermost one lies
    in the context `base`. -/
structure Scoped (base : ExecutionContext) (s : Nesting) : Prop where
  nested : Lib.Nested (fun f : Frame => f.outer.loop.context) (fun f => f.inner.loop.context)
    (some base) s.host.loop.context s.opened
  sets : ∀ f ∈ s.opened, f.Sets

theorem Scoped.context {base : ExecutionContext} {s : Nesting} (hs : s.Scoped base) :
    s.host.loop.context =
      some (Lib.overlay (fun f : Frame => f.manager.override) base s.opened) := by
  rw [hs.nested.value_eq fun f hf => (hs.sets f hf).context]
  induction s.opened with
  | nil => rfl
  | cons f fs ih => rw [Lib.overlay_cons, Lib.overlay_cons, ih, Option.map_some]

theorem Objects.create {s : Nesting} {args : ManagerArgs} (hs : s.Objects)
    (hf : args.Filled) : (s.stepCreate args).Objects := by
  have hc := args.create_spec s.host.loop
  have hlen : s.host.loop.heap.payloads.length ≤
      (args.create s.host.loop).2.heap.payloads.length := by
    by_contra hlt
    have hlast : (s.host.loop.heap.payloads.length - 1) < s.host.loop.heap.payloads.length := by
      omega
    have hk := hc.kept _ _ (List.getElem?_eq_getElem hlast)
    have := (List.getElem?_eq_some_iff.mp hk).1
    omega
  -- a new object is the only one at the end of the list, with a payload of its own
  have hnew : ∀ i m, (s.stepCreate args).managers[i]? = some m →
      s.managers[i]? = some m ∨
        i = s.managers.length ∧ (args.create s.host.loop).1 = some m := by
    intro i m hm
    simp only [stepCreate] at hm
    rcases Nat.lt_or_ge i s.managers.length with hlt | hge
    · rw [List.getElem?_append_left hlt] at hm
      exact .inl hm
    · rw [List.getElem?_append_right hge] at hm
      cases hr : (args.create s.host.loop).1 with
      | none => simp [hr] at hm
      | some m' =>
        rw [hr, Option.toList_some, List.getElem?_singleton] at hm
        split at hm
        · exact .inr ⟨by omega, hm⟩
        · exact absurd hm (by simp)
  constructor
  case ready =>
    intro i m hm hi p hp
    rcases hnew i m hm with hold | ⟨_, hr⟩
    · obtain ⟨b, hb, he⟩ := hs.ready i m hold hi p hp
      exact ⟨b, hc.kept p b hb, he⟩
    · obtain ⟨_, b, hb, he⟩ := hc.fresh m hr p hp
      exact ⟨b, hb, he hf⟩
  case lives =>
    intro m hm p hp
    obtain ⟨i, hi⟩ := List.mem_iff_getElem?.mp hm
    rcases hnew i m hi with hold | ⟨_, hr⟩
    · exact Nat.lt_of_lt_of_le (hs.lives m (List.mem_of_getElem? hold) p hp) hlen
    · obtain ⟨_, b, hb, _⟩ := hc.fresh m hr p hp
      exact (List.getElem?_eq_some_iff.mp hb).1
  case owner =>
    intro i j m m' p hi hj hp hp'
    rcases hnew i m hi with holdi | ⟨hi', hri⟩
    · rcases hnew j m' hj with holdj | ⟨_, hrj⟩
      · exact hs.owner i j m m' p holdi holdj hp hp'
      · have hlt := hs.lives m (List.mem_of_getElem? holdi) p hp
        exact absurd (hc.fresh m' hrj p hp').1 (Nat.ne_of_lt hlt)
    · rcases hnew j m' hj with holdj | ⟨hj', _⟩
      · have hlt := hs.lives m' (List.mem_of_getElem? holdj) p hp'
        exact absurd (hc.fresh m hri p hp).1 (Nat.ne_of_lt hlt)
      · omega
  case opened =>
    intro f hf
    obtain ⟨i, hi, hm⟩ := hs.opened f hf
    have hlt := (List.getElem?_eq_some_iff.mp hm).1
    exact ⟨i, hi, by simp only [stepCreate]; rw [List.getElem?_append_left hlt, hm]⟩

/-- A step of one object leaves the payloads of the others ready. -/
theorem Objects.ready_of_own {s : Nesting} {m : Manager} {object : Nat} {h : Heap}
    (hs : s.Objects) (hm : s.managers[object]? = some m)
    (hh : OwnPayload m.owned s.host.loop.heap h) (i : Nat) (m' : Manager)
    (hi : s.managers[i]? = some m') (hne : i ≠ object) (hent : i ∉ s.entered) : m'.Ready h := by
  intro p hp
  obtain ⟨b, hb, he⟩ := hs.ready i m' hi hent p hp
  have hother : m.owned ≠ some p := fun howned => hne (hs.owner i object m' m p hi hm hp howned)
  exact ⟨b, (hh.other p hother).trans hb, he⟩

theorem Objects.enter {s t : Nesting} {object : Nat} {env : EnterEnv} {c : ExecutionContext}
    (hs : s.Objects) (hc : s.host.loop.context = some c)
    (ht : s.stepEnter object env = .ok t) : t.Objects := by
  obtain ⟨m, r, h, hm, he, rfl⟩ := stepEnter_ok ht
  have hspec := Manager.enter_spec hc he
  constructor
  case ready =>
    intro i m' hi hent
    simp only [List.mem_cons, not_or] at hent
    exact hs.ready_of_own hm hspec.heap i m' hi hent.1 hent.2
  case lives =>
    intro m' hm' p hp
    rw [hspec.heap.length]
    exact hs.lives m' hm' p hp
  case owner => exact hs.owner
  case opened =>
    intro f hf
    rcases List.mem_append.mp hf with hf | hf
    · obtain ⟨self, _, rfl⟩ := Option.map_eq_some_iff.mp (Option.mem_toList.mp hf)
      exact ⟨object, List.mem_cons_self, hm⟩
    · obtain ⟨i, hi, hfm⟩ := hs.opened f hf
      exact ⟨i, List.mem_cons_of_mem _ hi, hfm⟩

theorem Objects.leave {s t : Nesting} {submit : Int} (hs : s.Objects)
    (ht : s.stepLeave submit = .ok t) : t.Objects := by
  obtain ⟨f, fs, h, ho, hx, rfl⟩ := stepLeave_ok ht
  have hspec := Manager.exit_spec hx
  constructor
  case ready =>
    intro i m hi hent
    obtain ⟨j, hj, hfm⟩ := hs.opened f (by rw [ho]; exact List.mem_cons_self)
    have hne : i ≠ j := fun h => hent (h ▸ hj)
    exact hs.ready_of_own hfm hspec.heap i m hi hne hent
  case lives =>
    intro m hm p hp
    rw [hspec.heap.length]
    exact hs.lives m hm p hp
  case owner => exact hs.owner
  case opened =>
    intro g hg
    exact hs.opened g (by rw [ho]; exact List.mem_cons_of_mem _ hg)

/-! ### Reads -/

theorem init_scoped {h : Host} {base : ExecutionContext} (hc : h.loop.context = some base) :
    (init h).Scoped base := by
  refine ⟨?_, by simp [init]⟩
  have : (init h).host.loop.context = some base := hc
  rw [this]
  exact .nil

theorem init_objects (h : Host) : (init h).Objects :=
  ⟨by simp [init], by simp [init], by simp [init], by simp [init]⟩

theorem Scoped.enter {base : ExecutionContext} {s t : Nesting} {object : Nat} {env : EnterEnv}
    (hs : s.Scoped base) (ht : s.stepEnter object env = .ok t) :
    t.Scoped base ∧ s.Restores (.enter object env) t := by
  have hctx := hs.context
  obtain ⟨m, r, h, hm, he, rfl⟩ := stepEnter_ok ht
  have hspec := Manager.enter_spec hctx he
  cases r with
  | none =>
    have hsame : h.loop.context = s.host.loop.context := hspec.failed rfl
    refine ⟨⟨?_, hs.sets⟩, fun _ => hsame⟩
    show Lib.Nested _ _ _ h.loop.context s.opened
    rw [hsame]
    exact hs.nested
  | some self =>
    obtain ⟨htok, hset⟩ := hspec.entered self rfl
    refine ⟨⟨hs.nested.enter (f := ⟨m, self, s.host, h⟩) rfl, fun f hf => ?_⟩,
      fun h => absurd h (by simp)⟩
    rcases List.mem_cons.mp hf with rfl | hf
    · exact ⟨htok, by rw [hset, hctx]; rfl⟩
    · exact hs.sets f hf

theorem Scoped.leave {base : ExecutionContext} {s t : Nesting} {submit : Int}
    (hs : s.Scoped base) (ht : s.stepLeave submit = .ok t) :
    t.Scoped base ∧ s.Restores (.leave submit) t := by
  obtain ⟨f, fs, h, ho, hx, rfl⟩ := stepLeave_ok ht
  have hf : f ∈ s.opened := by rw [ho]; exact List.mem_cons_self
  have hback : h.loop.context = f.outer.loop.context :=
    (Manager.exit_spec hx).context.trans (hs.sets f hf).token
  refine ⟨⟨?_, fun g hg => hs.sets g (by rw [ho]; exact List.mem_cons_of_mem _ hg)⟩,
    ⟨f, ho, hback⟩⟩
  have hn := hs.nested
  rw [ho] at hn
  show Lib.Nested _ _ _ h.loop.context fs
  rw [hback]
  exact hn.outer.2

/-- Every step keeps the contexts nested, and restores. -/
theorem Scoped.step {base : ExecutionContext} {s t : Nesting} {a : BlockAct}
    (hs : s.Scoped base) (ht : s.step a = .ok t) : t.Scoped base ∧ s.Restores a t := by
  cases a with
  | create args =>
    cases ht
    have hsame : (s.stepCreate args).host.loop.context = s.host.loop.context :=
      (args.create_spec s.host.loop).context
    refine ⟨⟨?_, hs.sets⟩, hsame⟩
    rw [hsame]
    exact hs.nested
  | enter object env => exact hs.enter ht
  | leave submit => exact hs.leave ht

/-- A well-nested action does not stop. -/
theorem Objects.step {base : ExecutionContext} {s : Nesting} {a : BlockAct} (hs : s.Objects)
    (hsc : s.Scoped base) (hw : s.WellNested a) : ∃ t, s.step a = .ok t ∧ t.Objects := by
  cases a with
  | create args => exact ⟨_, rfl, hs.create hw⟩
  | enter object env =>
    obtain ⟨hlt, hent⟩ := hw
    have hm := List.getElem?_eq_getElem hlt
    obtain ⟨⟨r, h⟩, he⟩ := Manager.enter_ok env (hs.ready object _ hm hent)
    have hok : ∃ t, s.stepEnter object env = .ok t := by
      simp only [stepEnter, if_neg hent, hm, he]
      cases r with
      | none => exact ⟨_, rfl⟩
      | some self => exact ⟨_, rfl⟩
    obtain ⟨t, ht⟩ := hok
    exact ⟨t, ht, hs.enter hsc.context ht⟩
  | leave submit =>
    cases ho : s.opened with
    | nil => exact absurd ho hw
    | cons f fs =>
      obtain ⟨i, _, hm⟩ := hs.opened f (by rw [ho]; exact List.mem_cons_self)
      have hlives : ∀ p, f.manager.owned = some p → s.host.loop.heap.payloads[p]? ≠ none := by
        intro p hp hnone
        have hlt := hs.lives _ (List.mem_of_getElem? hm) p hp
        exact absurd hlt (Nat.not_lt.mpr (List.getElem?_eq_none_iff.mp hnone))
      obtain ⟨h, hx⟩ := Manager.exit_ok f.self submit hlives
      have ht : s.stepLeave submit = .ok { s with host := h, opened := fs } := by
        simp only [stepLeave, ho, hx]
      exact ⟨_, ht, hs.leave ht⟩

/-- What the getters return: the value of the innermost open manager that sets it, and that
    of `ContextVar_init` when there is none. -/
structure Reads (s : Nesting) : Prop where
  buffer : getBuffer s.host.loop = .ok ((s.opened.findSome? fun f => f.manager.buffer).getD
    ExecutionContext.default.bufferPayload)
  stream : getStreamStrategy s.host.loop = .ok
    ((s.opened.findSome? fun f => f.manager.stream).getD ExecutionContext.default.stream)
  transfer : getTransferMode s.host.loop = .ok
    ((s.opened.findSome? fun f => f.manager.transfer).getD ExecutionContext.default.transferMode)

theorem Scoped.reads {s : Nesting} (hs : s.Scoped .default) : s.Reads := by
  have hctx := hs.context
  constructor
  case buffer =>
    rw [← Lib.read_overlay (fun f c => f.manager.override_bufferPayload c)]
    simp only [getBuffer, hctx]
  case stream =>
    rw [← Lib.read_overlay (fun f c => f.manager.override_stream c)]
    simp only [getStreamStrategy, hctx]
  case transfer =>
    rw [← Lib.read_overlay (fun f c => f.manager.override_transferMode c)]
    simp only [getTransferMode, hctx]

/-- Wherever a run has come to, the getters return the values of the innermost open
    managers; every exit and every failing enter gives back the context from before it; and
    a well-nested run does not stop. -/
theorem reads_innermost {h : Host} (hc : h.loop.context = some .default)
    (acts : List BlockAct) :
    (∀ t, (init h).run acts = .ok t → t.Reads) ∧
      Lib.Each step Restores (init h) acts ∧
      (Lib.Meets step WellNested (init h) acts → ∃ t, (init h).run acts = .ok t) := by
  have hall : Lib.Meets step (fun _ _ => True) (init h) acts := Lib.meets_true
  have hkeep : ∀ s a t, Scoped .default s → True → step s a = .ok t → Scoped .default t :=
    fun s a t hs _ ht => (hs.step ht).1
  refine ⟨fun t ht => ?_, ?_, fun hw => ?_⟩
  · exact (hall.invariant (Scoped .default) hkeep (init_scoped hc) ht).reads
  · exact hall.each hkeep (fun s a t hs _ ht => (hs.step ht).2) (init_scoped hc)
  · have hok : ∀ s a, Scoped .default s ∧ Objects s → WellNested s a →
        ∃ t, step s a = .ok t ∧ Scoped .default t ∧ Objects t := by
      intro s a hs ha
      obtain ⟨t, ht, ho⟩ := hs.2.step hs.1 ha
      exact ⟨t, ht, (hs.1.step ht).1, ho⟩
    obtain ⟨t, ht, _⟩ := hw.total _ hok ⟨init_scoped hc, init_objects h⟩
    exact ⟨t, ht⟩

/-- A new loop with nothing registered. -/
def newHost : Host := ⟨uringioLoopInit 4 .failed 3 1, ⟨false, fun _ => .provided 0⟩⟩

/-- An execution context with a stream strategy inside; a FIXED context inside of both fails
    to register its buffers. -/
def nestedBlocks : List BlockAct :=
  [.create (.executionContext .provided .oneshot .zeroCopy false (some [⟨.mem 1, 8⟩]) 5 0 true),
    .create (.streamStrategy .multishot),
    .create (.bufferMode .fixed false (some [⟨.mem 2, 8⟩]) 0 0 true),
    .enter 0 ⟨true, true, 1⟩, .enter 1 ⟨true, true, 1⟩, .enter 2 ⟨false, true, 1⟩]

theorem reads_innermost_failed :
    ∃ t, (init newHost).run nestedBlocks = .ok t ∧ t.opened.length = 2 ∧ t.Reads ∧
      getBuffer t.host.loop = .ok (some 0) := by
  obtain ⟨t, ht, hlen, hbuf⟩ : ∃ t, (init newHost).run nestedBlocks = .ok t ∧
      t.opened.length = 2 ∧ (t.opened.findSome? fun f => f.manager.buffer) = some (some 0) := by
    decide +kernel
  have hreads := (reads_innermost (h := newHost) rfl nestedBlocks).1 t ht
  refine ⟨t, ht, hlen, hreads, ?_⟩
  rw [hreads.buffer, hbuf]
  rfl

end Nesting

end Uringio
