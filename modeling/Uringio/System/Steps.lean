/-
  One step of the system, said once (`System.Stepped`), and the invariants of `Base` and
  `Payloads` along all runs.

  A step is a call with one of its four outcomes, a CQE posted, a CQE consumed in one of
  three ways, the shutdown, or it is quiet: it leaves the registry, the requests and the
  CQEs alone. Every property of the runs is derived from this case distinction.
-/
import Uringio.System.Payloads

namespace Uringio

/-- The actions of which every step is quiet. -/
def Act.quiet : Act → Bool
  | .call _ _ | .post _ _ _ | .read _ | .shutdown _ _ => false
  | _ => true

namespace System

/-- The CQEs so far, in the order in which the kernel posted them. -/
def posted (s : System) : List Cqe := s.seen.reverse ++ s.loop.ring.cq

/-- What holds in every state before the shutdown. -/
structure Base (s : System) : Prop where
  registry : RegistryInv s.loop.registry s.subs
  futures : FutureInv s.loop.nextFuture s.subs
  ring : RingInv s.loop.ring s.subs s.posted
  heap : HeapInv s.loop.heap s.subs s.contexts s.loop.context
  objects : ObjectInv s.loop s.subs
  releases : ReleaseInv s.loop.heap s.loop.registry s.contexts

/-- The state after a call. -/
def answer (s : System) : Except (Option PyErr) Submitted × Loop → System
  | (.error _, l) => s.withLoop l
  | (.ok sub, l) => { s.withLoop l with subs := sub :: s.subs }

@[simp] theorem answer_down (s : System) (r : Except (Option PyErr) Submitted × Loop) :
    (s.answer r).down = s.down := by
  unfold answer
  split
  · rfl
  · rfl

@[simp] theorem answer_contexts (s : System) (r : Except (Option PyErr) Submitted × Loop) :
    (s.answer r).contexts = s.contexts := by
  unfold answer
  split
  · rfl
  · rfl

/-- The state after a CQE was consumed. -/
def consume (s : System) (c : Cqe) (l : Loop) : System :=
  { s.withLoop l with seen := c :: s.seen }

/-- The payload is that of a PROVIDED context. -/
def providedPayload (s : System) (p : PayloadId) : Bool :=
  (s.loop.heap.payloads[p]?).any fun b => b.mode == .provided

/-- The action hands buffers of a PROVIDED context to the kernel or takes them back. -/
def provides (s : System) : Act → Bool
  | .enterBuffers p _ _ => s.loop.context.isSome && s.providedPayload p
  | .enterContext p _ _ _ _ | .exitBuffers p _ _ => s.providedPayload p
  | _ => false

/-- The SQEs of such an action. -/
def Untagged (s : System) (a : Act) (extra : List Flight) : Prop :=
  ∀ x ∈ extra, s.provides a = true ∧ s.loop.ring.space ≠ 0 ∧
    ∃ call, call.internal = true ∧ x = untaggedEntry s.loop.ring call

/-- A step that leaves the registry, the requests and the CQEs alone. -/
structure Quiet (s : System) (a : Act) (t : System) (extra : List Flight) : Prop where
  registry : t.loop.registry = s.loop.registry
  subs : t.subs = s.subs
  seen : t.seen = s.seen
  down : t.down = s.down
  ring : s.loop.ring.Added t.loop.ring extra
  extra : s.Untagged a extra
  callLog : t.loop.callLog = s.loop.callLog
  nextFuture : t.loop.nextFuture = s.loop.nextFuture
  files : t.loop.files = s.loop.files
  sockets : t.loop.sockets = s.loop.sockets
  heap : s.loop.heap.Keeps t.loop.heap
  contexts : ∀ p ∈ s.contexts, p ∈ t.contexts
  managed : ∀ p ∈ t.contexts, p ∈ s.contexts ∨ s.loop.heap.payloads.length ≤ p ∧
    ∃ b, t.loop.heap.payloads[p]? = some b ∧ b.frees = 0 ∧
      (b.mode = .normalBuf → b.payloadType = .payloadLinearAndIovec)
  others : ∀ p, p < t.loop.heap.payloads.length →
    p < s.loop.heap.payloads.length ∨ p ∈ t.contexts
  known : t.KnownContext t.loop.context

/-- What a step can do. -/
inductive Stepped (s : System) : Act → System → Prop
  | called {call : OpCall} {env : CallEnv} {r : Except (Option PyErr) Submitted × Loop}
      (hr : call.run env s.loop = .ok r) (ho : RunOutcome call env s.loop r) :
      Stepped s (.call call env) (s.answer r)
  | posted {seq : Nat} {res : Int} {flags : Nat} {ring : Ring}
      (hp : s.loop.ring.post seq res flags = some ring) :
      Stepped s (.post seq res flags) (s.withLoop { s.loop with ring := ring })
  | dropped {env : ReadEnv} {c : Cqe} {cs : List Cqe} (hcq : s.loop.ring.cq = c :: cs)
      (hl : s.loop.registry.liveSlot (toInt c.userData) = none) :
      Stepped s (.read env) (s.consume c s.loop.cqeSeen)
  | skipped {env : ReadEnv} {c : Cqe} {cs : List Cqe} {slot : RequestSlot}
      (hcq : s.loop.ring.cq = c :: cs)
      (hl : s.loop.registry.liveSlot (toInt c.userData) = some slot) (ho : env.object = false) :
      Stepped s (.read env)
        (s.consume c { s.loop with heap := s.loop.heap.freeBlock slot.addr }.cqeSeen)
  | handled {env : ReadEnv} {c : Cqe} {cs : List Cqe} {slot : RequestSlot} {future : FutureId}
      {l1 : Loop} (hcq : s.loop.ring.cq = c :: cs)
      (hl : s.loop.registry.liveSlot (toInt c.userData) = some slot)
      (hf : slot.future = some future)
      (hr : readLive env s.loop (toInt c.userData) slot future c = .ok l1)
      (hh : Handled s.loop (toInt c.userData) slot future c l1) :
      Stepped s (.read env) (s.consume c l1)
  | quiet {a : Act} {t : System} {extra : List Flight} (ha : a.quiet = true)
      (h : Quiet s a t extra) : Stepped s a t
  | shutdown {drained : List Drained} {submit : Int} {l : Loop}
      (hd : drained.map Drained.cqe = s.loop.ring.cq)
      (hg : gracefulShutdown s.loop drained submit = .ok l) :
      Stepped s (.shutdown drained submit)
        { s.withLoop l with
          seen := (drained.map Drained.cqe).reverse ++ s.seen, down := true }

/-! ## Quiet steps -/

/-- The heap and the ring of a loop after a quiet step. -/
structure QuietLoop (s : System) (a : Act) (l : Loop) (extra : List Flight) : Prop where
  registry : l.registry = s.loop.registry
  ring : s.loop.ring.Added l.ring extra
  extra : s.Untagged a extra
  callLog : l.callLog = s.loop.callLog
  nextFuture : l.nextFuture = s.loop.nextFuture
  files : l.files = s.loop.files
  sockets : l.sockets = s.loop.sockets
  heap : s.loop.heap.Keeps l.heap
  length : l.heap.payloads.length = s.loop.heap.payloads.length
  known : s.KnownContext l.context

theorem QuietLoop.quiet {s : System} {a : Act} {l : Loop} {extra : List Flight}
    (h : QuietLoop s a l extra) : Quiet s a (s.withLoop l) extra :=
  { registry := h.registry
    subs := rfl
    seen := rfl
    down := rfl
    ring := h.ring
    extra := h.extra
    callLog := h.callLog
    nextFuture := h.nextFuture
    files := h.files
    sockets := h.sockets
    heap := h.heap
    contexts := fun _ hp => hp
    managed := fun _ hp => Or.inl hp
    others := fun _ hp => Or.inl (h.length ▸ hp)
    known := h.known }

section QuietSteps

variable {s : System} {a : Act} {l : Loop}

theorem untagged_nil : s.Untagged a [] := fun _ hx => absurd hx List.not_mem_nil

/-- Only the ring and the context differ. -/
theorem quiet_ring {ring : Ring} {context : Option ExecutionContext} {extra : List Flight}
    (hr : s.loop.ring.Added ring extra)
    (hx : s.Untagged a extra)
    (hk : s.KnownContext context) :
    QuietLoop s a { s.loop with ring := ring, context := context } extra :=
  ⟨rfl, hr, hx, rfl, rfl, rfl, rfl, .of_payloads rfl, rfl, hk⟩

/-- Only the context differs. -/
theorem quiet_context {context : Option ExecutionContext} (hk : s.KnownContext context) :
    QuietLoop s a { s.loop with context := context } [] :=
  quiet_ring (.refl _) untagged_nil hk

/-- Only a payload of a FIXED context and the context differ. -/
theorem quiet_put {context : Option ExecutionContext} {p : PayloadId} {b b' : BufferPayload}
    (hb : s.loop.heap.payloads[p]? = some b) (hm : b.mode = .fixed) (hm' : b'.mode = b.mode)
    (hf : b'.frees = b.frees) (hk : s.KnownContext context) :
    QuietLoop s a { s.loop with context := context, heap := s.loop.heap.put p b' } [] :=
  ⟨rfl, .refl _, untagged_nil, rfl, rfl, rfl, rfl, .put hb (by simp [hm]) hm' hf,
    by simp [Heap.put], hk⟩

/-- What the entries of an untagged submission are. -/
theorem untagged_extra {call : PrepCall} (ha : s.provides a = true) (hc : call.internal = true) :
    s.Untagged a (if s.loop.ring.space = 0 then [] else [untaggedEntry s.loop.ring call]) := by
  intro x hx
  split at hx
  · exact absurd hx (by simp)
  · rename_i hs
    exact ⟨ha, hs, call, hc, List.mem_singleton.mp hx⟩

theorem providedPayload_of_mode {p : PayloadId} {b : BufferPayload}
    (hb : s.loop.heap.payloads[p]? = some b) (hm : b.mode = .provided) :
    s.providedPayload p = true := by
  unfold providedPayload
  rw [hb]
  simp [hm]

theorem quiet_openBuffers {context : ExecutionContext} {p : PayloadId} {registered : Bool}
    {submit : Int} (hk : s.KnownContext s.loop.context)
    (hk' : s.KnownContext (some context))
    (ha : s.providedPayload p = true → s.provides a = true)
    (h : openBuffers s.loop context p registered submit = .ok l) :
    ∃ extra, QuietLoop s a l extra := by
  unfold openBuffers at h
  split at h
  · exact absurd h (by simp)
  · rename_i b hb
    split at h
    · rename_i hm
      split at h
      · exact absurd h (by simp)
      · split at h
        · obtain rfl := Except.ok.inj h
          exact ⟨[], quiet_context hk⟩
        · obtain rfl := Except.ok.inj h
          exact ⟨[], quiet_put hb hm rfl rfl hk'⟩
    · rename_i hm
      split at h
      · exact absurd h (by simp)
      · rename_i linear _
        have hadd := submitUntagged_added s.loop.ring
          (.provideBuffers linear.buffer (toInt linear.len) b.amount b.bgid 0) submit
        dsimp only at h
        split at h
        · obtain rfl := Except.ok.inj h
          exact ⟨_, quiet_ring hadd (untagged_extra (ha (providedPayload_of_mode hb hm)) rfl) hk⟩
        · obtain rfl := Except.ok.inj h
          exact ⟨_, quiet_ring hadd (untagged_extra (ha (providedPayload_of_mode hb hm)) rfl) hk'⟩
    · split at h
      · exact absurd h (by simp)
      · obtain rfl := Except.ok.inj h
        exact ⟨[], quiet_context hk'⟩
    · obtain rfl := Except.ok.inj h
      exact ⟨[], quiet_context hk'⟩
    · obtain rfl := Except.ok.inj h
      exact ⟨[], quiet_context hk'⟩

/-- A context of the payload of a context manager. -/
theorem knownContext_of_mem {c : ExecutionContext} {p : PayloadId} (hp : p ∈ s.contexts)
    (hc : c.bufferPayload = some p) : s.KnownContext (some c) := by
  intro c' he q hq
  obtain rfl := Option.some.inj he
  rw [hc] at hq
  exact Option.some.inj hq ▸ hp

theorem quiet_enter {p : PayloadId} {registered : Bool} {submit : Int} (hp : p ∈ s.contexts)
    (hk : s.KnownContext s.loop.context)
    (h : BufferModeCtx.enter s.loop p registered submit = .ok l) :
    ∃ extra, QuietLoop s (.enterBuffers p registered submit) l extra := by
  unfold BufferModeCtx.enter at h
  split at h
  · rename_i context b hc hb
    refine quiet_openBuffers hk (knownContext_of_mem hp rfl) (fun hpp => ?_) h
    simp only [provides, hc, hpp, Option.isSome_some, Bool.and_true]
  · obtain rfl := Except.ok.inj h
    exact ⟨[], quiet_context hk⟩

theorem quiet_enterContext {p : PayloadId} {stream : StreamStrategy} {transferMode : TransferMode}
    {registered : Bool} {submit : Int} (hp : p ∈ s.contexts)
    (hk : s.KnownContext s.loop.context)
    (h : ExecutionContextCtx.enter s.loop p stream transferMode registered submit = .ok l) :
    ∃ extra, QuietLoop s (.enterContext p stream transferMode registered submit) l extra := by
  unfold ExecutionContextCtx.enter at h
  split at h
  · exact quiet_openBuffers hk (knownContext_of_mem hp rfl) id h
  · exact absurd h (by simp)

theorem quiet_exit {p : PayloadId} {token : Option ExecutionContext} {submit : Int}
    (hk : s.KnownContext token) (h : BufferModeCtx.exit s.loop p token submit = .ok l) :
    ∃ extra, QuietLoop s (.exitBuffers p token submit) l extra := by
  unfold BufferModeCtx.exit at h
  split at h
  · exact absurd h (by simp)
  · rename_i b hb
    split at h
    · rename_i hm
      obtain rfl := Except.ok.inj h
      exact ⟨[], quiet_put hb hm rfl rfl hk⟩
    · rename_i hm
      obtain rfl := Except.ok.inj h
      exact ⟨_, quiet_ring (submitUntagged_added ..) (untagged_extra (providedPayload_of_mode hb hm) rfl) hk⟩
    · obtain rfl := Except.ok.inj h
      exact ⟨[], quiet_context hk⟩
    · obtain rfl := Except.ok.inj h
      exact ⟨[], quiet_context hk⟩
    · obtain rfl := Except.ok.inj h
      exact ⟨[], quiet_context hk⟩

/-- Entering a stream strategy or a transfer mode keeps the payload. -/
theorem knownContext_map {f : ExecutionContext → ExecutionContext}
    (hf : ∀ c, (f c).bufferPayload = c.bufferPayload) (hk : s.KnownContext s.loop.context) :
    s.KnownContext (s.loop.context.map f) := by
  intro c hc p hp
  obtain ⟨c', hc', rfl⟩ := Option.map_eq_some_iff.mp hc
  rw [hf] at hp
  exact hk c' hc' p hp

/-- What `create_buffer_payload` gives is new, and was never released. -/
theorem createBufferPayload_cases (h : Heap) (mode : BufferMode) (buffersObj : Bool)
    (buffers : Option (List LinearBuffer)) (bgid unassigned : Int) :
    createBufferPayload h mode buffersObj buffers bgid unassigned = (none, h) ∨
    ∃ b, createBufferPayload h mode buffersObj buffers bgid unassigned =
        (some h.payloads.length, { h with payloads := h.payloads ++ [b] }) ∧
      b.mode = mode ∧ b.frees = 0 ∧
      (b.mode = .normalBuf → b.payloadType = .payloadLinearAndIovec) := by
  unfold createBufferPayload
  cases buffers with
  | none =>
    cases mode with
    | normalBuf | fixed | provided | bufRing | bufNoVal => exact Or.inl rfl
  | some buffers =>
    cases mode with
    | normalBuf | fixed => exact Or.inr ⟨_, rfl, rfl, rfl, fun _ => rfl⟩
    | provided | bufRing => exact Or.inr ⟨_, rfl, rfl, rfl, fun hm => absurd hm (by simp)⟩
    | bufNoVal => exact Or.inl rfl

theorem quiet_newBuffers (hk : s.KnownContext s.loop.context) (mode : BufferMode)
    (buffersObj : Bool) (buffers : Option (List LinearBuffer)) (bgid unassigned : Int) :
    Quiet s (.newBuffers mode buffersObj buffers bgid unassigned)
      (s.stepNewBuffers mode buffersObj buffers bgid unassigned) [] := by
  unfold stepNewBuffers
  rcases createBufferPayload_cases s.loop.heap mode buffersObj buffers bgid unassigned with
    he | ⟨b, he, -, hf, ht⟩
  · rw [he]
    exact QuietLoop.quiet (quiet_context hk)
  · rw [he]
    exact
      { registry := rfl
        subs := rfl
        seen := rfl
        down := rfl
        ring := .refl _
        extra := untagged_nil
        callLog := rfl
        nextFuture := rfl
        files := rfl
        sockets := rfl
        heap := .append rfl
        contexts := fun _ hp => List.mem_cons_of_mem _ hp
        managed := fun p hp => by
          rcases List.mem_cons.mp hp with rfl | hp
          · exact Or.inr ⟨Nat.le_refl _, b, List.getElem?_concat_length .., hf, ht⟩
          · exact Or.inl hp
        others := fun p hp => by
          have hlen : p < s.loop.heap.payloads.length + 1 := by
            simpa [withLoop] using hp
          rcases Nat.lt_succ_iff_lt_or_eq.mp hlen with hp | hp
          · exact Or.inl hp
          · exact Or.inr (hp ▸ List.mem_cons_self ..)
        known := fun c hc p hp => List.mem_cons_of_mem _ (hk c hc p hp) }

end QuietSteps

/-! ## All steps -/

variable {s t : System} {a : Act}

theorem Base.known (h : s.Base) : s.KnownContext s.loop.context := h.heap.known

/-- The slot of a live index is one that the reader can handle. -/
theorem Base.slotFits (h : s.Base) {i : Int} {slot : RequestSlot}
    (hl : s.loop.registry.liveSlot i = some slot) : SlotFits s.loop.heap slot := by
  obtain ⟨sub, hsub, rfl⟩ := h.registry.holder i slot hl
  have hm := (mem_of_holder hsub).1
  exact slotFits_of_holdsPayload (h.heap.holds sub hm) (h.objects.names sub hm) i

theorem stepped_read {env : ReadEnv} (h : s.Base) (hs : s.stepRead env = .ok t) :
    Stepped s (.read env) t := by
  unfold stepRead at hs
  split at hs
  · exact absurd hs (by simp)
  · rename_i c cs hcq
    split at hs
    · exact absurd hs (by simp)
    · rename_i l1 hr
      obtain rfl := Except.ok.inj hs
      cases hl : s.loop.registry.liveSlot (toInt c.userData) with
      | none =>
        rw [readCqe_of_dead hl] at hr
        obtain rfl := Except.ok.inj hr
        exact .dropped hcq hl
      | some slot =>
        obtain ⟨future, hf, he⟩ := readCqe_of_live env hl
        rw [he] at hr
        rcases readLive_handled (h.registry.sound.valid_of_live hl) hl (h.slotFits hl)
            (ne_wakeupFdTag_of_live hl) hr with hh | ⟨ho, -, rfl⟩
        · exact .handled hcq hl hf hr hh
        · exact .skipped hcq hl ho

theorem stepped_context {p : PayloadId} {step : Loop → Except Stop Loop} (ha : a.quiet = true)
    (hq : p ∈ s.contexts → ∀ l, step s.loop = .ok l → ∃ extra, QuietLoop s a l extra)
    (hs : s.stepContext p step = .ok t) : Stepped s a t := by
  unfold stepContext at hs
  split at hs
  · rename_i hp
    cases hl : step s.loop with
    | error e =>
      rw [hl] at hs
      exact absurd hs (by simp [Except.map])
    | ok l =>
      rw [hl] at hs
      obtain rfl := Except.ok.inj hs
      obtain ⟨extra, hquiet⟩ := hq hp l hl
      exact .quiet ha hquiet.quiet
  · exact absurd hs (by simp)

/-- Every step is one of these. -/
theorem step_cases (h : s.Base) (hs : s.step a = .ok t) : s.down = false ∧ Stepped s a t := by
  unfold step at hs
  cases hd : s.down with
  | true =>
    rw [hd] at hs
    exact absurd hs (by simp)
  | false =>
    rw [hd, if_neg (by simp)] at hs
    refine ⟨rfl, ?_⟩
    cases a with
    | call call env =>
      simp only [stepCall] at hs
      split at hs
      · exact absurd hs (by simp)
      · rename_i l hr
        obtain rfl := Except.ok.inj hs
        exact .called hr (call.run_outcome h.heap.contextOk h.registry.sound hr)
      · rename_i sub l hr
        obtain rfl := Except.ok.inj hs
        exact .called hr (call.run_outcome h.heap.contextOk h.registry.sound hr)
    | submit result =>
      obtain rfl := Except.ok.inj hs
      exact .quiet rfl (QuietLoop.quiet (quiet_ring (Ring.added_ioUringSubmit result) untagged_nil
        h.known))
    | post seq res flags =>
      simp only [stepPost] at hs
      split at hs
      · exact absurd hs (by simp)
      · rename_i ring hp
        obtain rfl := Except.ok.inj hs
        exact .posted hp
    | read env => exact stepped_read h hs
    | wake =>
      obtain rfl := Except.ok.inj hs
      have hq : QuietLoop s .wake (writeToSelf s.loop) [] :=
        ⟨rfl, .refl _, untagged_nil, rfl, rfl, rfl, rfl, .of_payloads rfl, rfl, h.known⟩
      exact .quiet rfl hq.quiet
    | newBuffers mode buffersObj buffers bgid unassigned =>
      obtain rfl := Except.ok.inj hs
      exact .quiet rfl (quiet_newBuffers h.known mode buffersObj buffers bgid unassigned)
    | enterBuffers p registered submit =>
      exact stepped_context rfl (fun hp l hl => quiet_enter hp h.known hl) hs
    | enterContext p stream transferMode registered submit =>
      exact stepped_context rfl (fun hp l hl => quiet_enterContext hp h.known hl) hs
    | exitBuffers p token submit =>
      dsimp only at hs
      split at hs
      · rename_i hk
        exact stepped_context rfl (fun _ l hl => quiet_exit hk hl) hs
      · exact absurd hs (by simp)
    | stream stream =>
      obtain rfl := Except.ok.inj hs
      exact .quiet rfl (QuietLoop.quiet (quiet_context (knownContext_map (fun _ => rfl) h.known)))
    | transfer transferMode =>
      obtain rfl := Except.ok.inj hs
      exact .quiet rfl (QuietLoop.quiet (quiet_context (knownContext_map (fun _ => rfl) h.known)))
    | switch context =>
      dsimp only at hs
      split at hs
      · rename_i hk
        obtain rfl := Except.ok.inj hs
        exact .quiet rfl (QuietLoop.quiet (quiet_context hk))
      · exact absurd hs (by simp)
    | shutdown drained submit =>
      simp only [stepShutdown] at hs
      split at hs
      · rename_i hdr
        split at hs
        · exact absurd hs (by simp)
        · rename_i l hg
          obtain rfl := Except.ok.inj hs
          exact .shutdown hdr hg
      · exact absurd hs (by simp)

end System

end Uringio
