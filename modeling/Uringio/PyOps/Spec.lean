/-
  What every operation of the Python layer does up to its submission.

  An operation adds at most a future, a payload of its own and a File or Socket object to
  the loop (`Loop.grow`). If it gives up, a payload it made has been released once
  (`Refused`). If it gets to its submission, `Prepared` says what it registers: the opcode
  and the object of the operation, a payload that is its own or that of the buffer context,
  and a dispatcher that takes a registered buffer for a fixed read only.
-/
import Uringio.PyOps.Sockets

namespace Uringio

open Lib Program

/-! ## What an operation adds to the loop -/

structure Grown where
  futures : Nat
  payloads : List BufferPayload
  files : List UringioFile
  sockets : List UringioSocket

namespace Grown

def none : Grown := ⟨0, [], [], []⟩

end Grown

def Loop.grow (l : Loop) (g : Grown) : Loop :=
  { l with
    nextFuture := l.nextFuture + g.futures
    heap := { l.heap with payloads := l.heap.payloads ++ g.payloads }
    files := l.files ++ g.files
    sockets := l.sockets ++ g.sockets }

@[simp] theorem Loop.grow_none (l : Loop) : l.grow .none = l := by
  simp [Loop.grow, Grown.none]

/-- A payload that an operation made for its own request. -/
structure BufferPayload.Own (b : BufferPayload) : Prop where
  mode : b.mode = .normalBuf
  frees : b.frees = 0
  idxRegistry : b.idxRegistry = none

/-- The operation has given up: it released what it made. -/
def Refused (l l1 : Loop) : Prop :=
  ∃ g, l1 = l.grow g ∧ g.files = [] ∧ g.sockets = [] ∧
    ∀ b ∈ g.payloads, b.mode = .normalBuf ∧ b.frees = 1

/-- A payload of NORMAL_BUF mode in a context is one that no operation takes from there. -/
def ContextOk (l : Loop) : Prop :=
  ∀ c p b, l.context = some c → c.bufferPayload = some p → l.heap.payloads[p]? = some b →
    b.mode = .normalBuf → b.payloadType = .payloadLinearAndIovec

/-- The payload of the caller's buffer context. -/
def ContextPayload (l : Loop) (p : PayloadId) : Prop :=
  ∃ c b, l.context = some c ∧ c.bufferPayload = some p ∧ l.heap.payloads[p]? = some b ∧
    b.mode ≠ .normalBuf

/-- The operation uses a payload it made, or that of its context. With buffers of the user
    (`user`) it always makes one. -/
inductive PayloadUse (l : Loop) (g : Grown) (user : Bool) (shape : BufferPayload → Prop)
    (p : PayloadId) : Prop
  | own {b : BufferPayload} (hp : p = l.heap.payloads.length) (hg : g.payloads = [b])
      (ho : b.Own) (hs : shape b)
  | context (hu : user = false) (hg : g.payloads = []) (hc : ContextPayload l p)

/-- A payload of an operation's own with a linear buffer, as the reader reads it. A buffer
    that the library allocated is not NULL. -/
def LinearShape (user : Bool) (b : BufferPayload) : Prop :=
  b.payloadType = .payloadLinear ∧
    ∃ linear, b.linear = some linear ∧ (user = false → linear.buffer ≠ .null)

/-- A payload of an operation's own with a vector. -/
def VectorShape (b : BufferPayload) : Prop :=
  b.payloadType = .payloadIovec ∧ b.linear = none ∧ b.vector.isSome

/-! ## The steps of an operation -/

section Steps

variable {l : Loop} {g : Grown} {env : CallEnv}

theorem refused_grow (h : g.payloads = []) (hf : g.files = []) (hs : g.sockets = []) :
    Refused l (l.grow g) :=
  ⟨g, rfl, hf, hs, by rw [h]; simp⟩

theorem refused_self : Refused l l :=
  ⟨.none, l.grow_none.symm, rfl, rfl, by simp [Grown.none]⟩

section Checks

variable {P : Loop → Prop}

/-- A check leaves the loop as it is. -/
theorem check_spec {x : Option (Option PyErr)} (h : ∀ s, P s → Refused l s) :
    Triple P (check x : PyProgram Unit) (fun _ s => P s ∧ x = none) (fun _ s => Refused l s) :=
  .check (fun _ s _ hs => h s hs) fun _ hx hs => ⟨hs, hx⟩

theorem assertLoopThread_spec (h : ∀ s, P s → Refused l s) :
    Triple P (assertLoopThread env) (fun _ s => P s) (fun _ s => Refused l s) :=
  (check_spec h).conseq (fun _ hs => hs) (fun _ _ hs => hs.1) fun _ _ hs => hs

theorem assertRingLoopIsClosing_spec (h : ∀ s, P s → Refused l s) :
    Triple P (assertRingLoopIsClosing env) (fun _ s => P s) (fun _ s => Refused l s) :=
  .bind (Q := fun _ s => P s) (.look fun _ hs => hs) fun _ =>
    (check_spec h).conseq (fun _ hs => hs) (fun _ _ hs => hs.1) fun _ _ hs => hs

theorem assertLoopIsUringio_spec (h : ∀ s, P s → Refused l s) :
    Triple P (assertLoopIsUringio env) (fun _ s => P s) (fun _ s => Refused l s) :=
  (check_spec h).conseq (fun _ hs => hs) (fun _ _ hs => hs.1) fun _ _ hs => hs

theorem parseArgs_spec (h : ∀ s, P s → Refused l s) :
    Triple P (parseArgs env) (fun _ s => P s) (fun _ s => Refused l s) :=
  (check_spec h).conseq (fun _ hs => hs) (fun _ _ hs => hs.1) fun _ _ hs => hs

theorem parseTimeout_spec (h : ∀ s, P s → Refused l s) (obj : Option PyVal) :
    Triple P (parseTimeout obj) (fun r s => P s ∧ parseTimeoutParams obj = .ok r)
      (fun _ s => Refused l s) := by
  unfold parseTimeout
  cases parseTimeoutParams obj with
  | error e => exact .fail h
  | ok r => exact fun _ hs => ⟨hs, rfl⟩

theorem getContext_spec {E : Option PyErr → Loop → Prop}
    (h : ∀ s, P s → s.context = l.context) :
    Triple P getContext (fun c s => P s ∧ l.context = some c) E := by
  refine .bind (Q := fun x s => P s ∧ l.context = x) (.look fun s hs => ⟨hs, (h s hs).symm⟩)
    fun x => ?_
  cases x with
  | none => exact .stop
  | some c => exact .pure fun _ hs => hs

/-- The getter of the context does not fail; without a context it stops. -/
theorem getContext_returns :
    Triple (fun _ => True) getContext (fun _ _ => True) fun _ _ => False := by
  refine .bind (Q := fun _ _ => True) (.look fun _ _ => trivial) fun c => ?_
  cases c with
  | none => exact .stop
  | some c => exact .pure fun _ _ => trivial

theorem serializeAddress_spec (h : ∀ s, P s → Refused l s) (host : HostArg)
    (port domain : Int) :
    Triple P (serializeAddress host port domain env) (fun _ s => P s)
      (fun _ s => Refused l s) := by
  unfold serializeAddress
  split
  · exact .fail h
  · split
    · split
      · exact .fail h
      · exact fun _ hs => hs
      · exact fun _ hs => hs
    · split
      · split
        · exact .fail h
        · exact fun _ hs => hs
        · exact fun _ hs => hs
      · exact .fail h

end Checks

/-- The future is the next one. -/
theorem createFuture_spec (h : g.payloads = []) (hf : g.files = []) (hs : g.sockets = []) :
    Triple (fun s => s = l.grow g) (createFuture env)
      (fun f s => s = l.grow { g with futures := g.futures + 1 } ∧ f = l.nextFuture + g.futures)
      (fun _ s => Refused l s) := by
  refine .bind (check_spec fun _ hg => hg ▸ refused_grow h hf hs) fun _ => .change ?_
  rintro _ ⟨rfl, -⟩
  exact ⟨rfl, rfl⟩

/-- A File object whose descriptor is known. -/
def HasFd (l : Loop) (self : FileId) (fd : Int) (file : UringioFile) : Prop :=
  l.files[self]? = some file ∧ file.fd = some fd

/-- A Socket object whose descriptor is known. -/
def HasSockFd (l : Loop) (self : SocketId) (fd : Int) (sock : UringioSocket) : Prop :=
  l.sockets[self]? = some sock ∧ sock.sockFd = some fd

theorem selfFile_spec (self : FileId) :
    Triple (fun s => s = l) (selfFile self) (fun r s => s = l ∧ HasFd l self r.2 r.1)
      (fun _ s => Refused l s) := by
  refine .bind (Q := fun x s => s = l ∧ l.files[self]? = x)
    (.look fun _ hs => ⟨hs, by rw [hs]⟩) fun x => ?_
  split
  · exact .pure fun _ hs => ⟨hs.1, hs.2, rfl⟩
  · exact .stop

theorem selfSocket_spec (self : SocketId) :
    Triple (fun s => s = l) (selfSocket self) (fun r s => s = l ∧ HasSockFd l self r.2 r.1)
      (fun _ s => Refused l s) := by
  refine .bind (Q := fun x s => s = l ∧ l.sockets[self]? = x)
    (.look fun _ hs => ⟨hs, by rw [hs]⟩) fun x => ?_
  split
  · exact .pure fun _ hs => ⟨hs.1, hs.2, rfl⟩
  · exact .stop

/-- A method of an open File gets past its checks only while the flag is not set. -/
theorem openFileMethod_spec (self : FileId) :
    Triple (fun s => s = l) (openFileMethod self env)
      (fun fd s => s = l ∧ ∃ file, HasFd l self fd file ∧ file.closed = false)
      (fun _ s => Refused l s) := by
  refine .bind (selfFile_spec self) fun r => ?_
  have hr : ∀ s, s = l ∧ HasFd l self r.2 r.1 → Refused l s := fun _ hs => hs.1 ▸ refused_self
  refine .bind (assertLoopThread_spec hr) fun _ => ?_
  refine .bind (assertRingLoopIsClosing_spec hr) fun _ => ?_
  refine .bind (check_spec hr) fun _ => ?_
  refine .bind (parseArgs_spec fun s hs => hr s hs.1) fun _ => .pure ?_
  rintro s ⟨⟨hs, hfd⟩, hx⟩
  refine ⟨hs, r.1, hfd, ?_⟩
  cases hc : r.1.closed with
  | false => rfl
  | true =>
    rw [hc] at hx
    exact absurd hx (by simp)

theorem openSocketMethod_spec (self : SocketId) :
    Triple (fun s => s = l) (openSocketMethod self env)
      (fun r s => s = l ∧ HasSockFd l self r.2 r.1 ∧ r.1.closed = false)
      (fun _ s => Refused l s) := by
  refine .bind (selfSocket_spec self) fun r => ?_
  have hr : ∀ s, s = l ∧ HasSockFd l self r.2 r.1 → Refused l s := fun _ hs => hs.1 ▸ refused_self
  refine .bind (assertLoopThread_spec hr) fun _ => ?_
  refine .bind (assertRingLoopIsClosing_spec hr) fun _ => ?_
  refine .bind (check_spec hr) fun _ => ?_
  refine .bind (parseArgs_spec fun s hs => hr s hs.1) fun _ => .pure ?_
  rintro s ⟨⟨hs, hfd⟩, hx⟩
  refine ⟨hs, hfd, ?_⟩
  cases hc : r.1.closed with
  | false => rfl
  | true =>
    rw [hc] at hx
    exact absurd hx (by simp)

/-! ### Payloads -/

/-- The operation holds a payload. -/
def Holding (l : Loop) (g : Grown) (user : Bool) (shape : BufferPayload → Prop) (p : PayloadId)
    (s : Loop) : Prop :=
  ∃ ps, s = l.grow { g with payloads := ps } ∧ PayloadUse l { g with payloads := ps } user shape p

variable {user : Bool} {shape : BufferPayload → Prop} {p : PayloadId}

/-- The payload of a context can be read as before. -/
theorem ContextPayload.get (h : ContextPayload l p) :
    ∃ b, (l.grow g).heap.payloads[p]? = some b ∧ l.heap.payloads[p]? = some b ∧
      b.mode ≠ .normalBuf := by
  obtain ⟨-, b, -, -, hb, hm⟩ := h
  refine ⟨b, ?_, hb, hm⟩
  have hlt : p < l.heap.payloads.length := (List.getElem?_eq_some_iff.mp hb).1
  simp only [Loop.grow]
  rw [List.getElem?_append_left hlt, hb]

/-- A payload that the helper allocates is the operation's own. -/
theorem holding_alloc {b : BufferPayload} (h : g.payloads = []) (ho : b.Own) (hs : shape b) :
    Holding l g user shape (((l.grow g).heap.alloc b).1)
      { l.grow g with heap := ((l.grow g).heap.alloc b).2 } := by
  refine ⟨[b], ?_, .own ?_ rfl ho hs⟩
  · simp [Loop.grow, Heap.alloc, h]
  · simp [Loop.grow, Heap.alloc, h]

theorem contextLinear_spec (hctx : ContextOk l) (h : g.payloads = []) {c : ExecutionContext}
    (hc : (l.grow g).context = some c)
    (hp : contextLinear (l.grow g).heap c.bufferPayload = some p) :
    Holding l g false shape p (l.grow g) := by
  obtain ⟨hcp, hany⟩ := Option.filter_eq_some_iff.mp hp
  have hheap : (l.grow g).heap.payloads = l.heap.payloads := by simp [Loop.grow, h]
  rw [hheap] at hany
  cases hb : l.heap.payloads[p]? with
  | none =>
    rw [hb] at hany
    exact absurd hany (by simp)
  | some b =>
    rw [hb] at hany
    simp only [Option.any_some, Bool.and_eq_true, beq_iff_eq] at hany
    refine ⟨g.payloads, rfl, .context rfl h ⟨c, b, hc, hcp, hb, fun hm => ?_⟩⟩
    have := hctx c p b hc hcp hb hm
    rw [hany.1] at this
    exact absurd this (by simp)

theorem contextVectored_spec (hctx : ContextOk l) (h : g.payloads = []) {c : ExecutionContext}
    (hc : (l.grow g).context = some c)
    (hp : contextVectored (l.grow g).heap c.bufferPayload = some p) :
    Holding l g false shape p (l.grow g) := by
  obtain ⟨hcp, hany⟩ := Option.filter_eq_some_iff.mp hp
  have hheap : (l.grow g).heap.payloads = l.heap.payloads := by simp [Loop.grow, h]
  rw [hheap] at hany
  cases hb : l.heap.payloads[p]? with
  | none =>
    rw [hb] at hany
    exact absurd hany (by simp)
  | some b =>
    rw [hb] at hany
    simp only [Option.any_some, Bool.and_eq_true, beq_iff_eq] at hany
    refine ⟨g.payloads, rfl, .context rfl h ⟨c, b, hc, hcp, hb, fun hm => ?_⟩⟩
    have := hctx c p b hc hcp hb hm
    rw [hany.1] at this
    exact absurd this (by simp)

/-- What a helper that may return NULL leaves. -/
def MaybeHolding (l : Loop) (g : Grown) (user : Bool) (shape : BufferPayload → Prop)
    (x : Option PayloadId) (s : Loop) : Prop :=
  (x = none ∧ s = l.grow g) ∨ ∃ p, x = some p ∧ Holding l g user shape p s

theorem orFail_spec (h : g.payloads = []) (hf : g.files = []) (hs : g.sockets = [])
    (x : Option PayloadId) (e : Option PyErr) :
    Triple (MaybeHolding l g user shape x) (orFail x e) (fun p s => Holding l g user shape p s)
      (fun _ s => Refused l s) := by
  cases x with
  | none =>
    refine .fail ?_
    rintro s (⟨-, rfl⟩ | ⟨p, hp, -⟩)
    · exact refused_grow h hf hs
    · exact absurd hp (by simp)
  | some p =>
    rintro s (⟨hp, -⟩ | ⟨q, hq, hold⟩)
    · exact absurd hp (by simp)
    · exact Option.some.inj hq ▸ hold

theorem linearBuffers_ne_null {buffersObj : Bool} {size : Int} {env : BufferEnv}
    {linear : LinearBuffer} (h : linearBuffers buffersObj size env = some linear) :
    buffersObj = false → linear.buffer ≠ .null := by
  intro hf
  subst hf
  obtain ⟨p, -, rfl⟩ := Option.map_eq_some_iff.mp h
  exact Ptr.noConfusion

theorem getOrCreateLinearBuffer_spec (hctx : ContextOk l) (h : g.payloads = [])
    {c : ExecutionContext} (hc : (l.grow g).context = some c) (buffersObj : Bool) (size : Int)
    (env : BufferEnv) :
    match getOrCreateLinearBuffer (l.grow g).heap c.bufferPayload buffersObj size env with
    | .error _ => True
    | .ok (x, heap) => MaybeHolding l g buffersObj (LinearShape buffersObj) x { l.grow g with heap := heap } := by
  unfold getOrCreateLinearBuffer
  cases hx : (if buffersObj then none else contextLinear (l.grow g).heap c.bufferPayload) with
  | some p =>
    cases buffersObj with
    | true => exact absurd hx (by simp)
    | false => exact Or.inr ⟨p, rfl, contextLinear_spec hctx h hc hx⟩
  | none =>
    cases env.payload with
    | false => exact Or.inl ⟨rfl, rfl⟩
    | true =>
      cases hlin : linearBuffers buffersObj size env with
      | none => trivial
      | some linear =>
        have hnull := linearBuffers_ne_null hlin
        exact Or.inr ⟨_, rfl, holding_alloc h ⟨rfl, rfl, rfl⟩ ⟨rfl, linear, rfl, hnull⟩⟩

theorem getOrCreateVectoredBuffer_spec (hctx : ContextOk l) (h : g.payloads = [])
    {c : ExecutionContext} (hc : (l.grow g).context = some c) (buffersObj : Bool)
    (env : BufferEnv) :
    MaybeHolding l g buffersObj VectorShape
      (getOrCreateVectoredBuffer (l.grow g).heap c.bufferPayload buffersObj env).1
      { l.grow g with
        heap := (getOrCreateVectoredBuffer (l.grow g).heap c.bufferPayload buffersObj env).2 } := by
  unfold getOrCreateVectoredBuffer
  cases hx : (if buffersObj then none else contextVectored (l.grow g).heap c.bufferPayload) with
  | some p =>
    cases buffersObj with
    | true => exact absurd hx (by simp)
    | false => exact Or.inr ⟨p, rfl, contextVectored_spec hctx h hc hx⟩
  | none =>
    cases env.payload with
    | false => exact Or.inl ⟨rfl, rfl⟩
    | true =>
      cases vectoredBuffers buffersObj env with
      | none => exact Or.inl ⟨rfl, rfl⟩
      | some vector => exact Or.inr ⟨_, rfl, holding_alloc h ⟨rfl, rfl, rfl⟩ ⟨rfl, rfl, rfl⟩⟩

theorem linearPayload_spec (hctx : ContextOk l) (h : g.payloads = []) (hf : g.files = [])
    (hs : g.sockets = []) (buffersObj : Bool) (size : Int) :
    Triple (fun s => s = l.grow g) (linearPayload buffersObj size env)
      (fun p s => Holding l g buffersObj (LinearShape buffersObj) p s) (fun _ s => Refused l s) := by
  refine .bind (getContext_spec (l := l) fun s hs => hs ▸ rfl) fun c => ?_
  refine .bind (Q := MaybeHolding l g buffersObj (LinearShape buffersObj)) ?_ fun x =>
    orFail_spec h hf hs x _
  rintro s ⟨rfl, hc⟩
  have hget := getOrCreateLinearBuffer_spec hctx h hc buffersObj size env.buffers
  cases he : getOrCreateLinearBuffer (l.grow g).heap c.bufferPayload buffersObj size
      env.buffers with
  | error e => simp only [he]
  | ok r =>
    simp only [he] at hget ⊢
    exact hget

theorem vectoredPayload_spec (hctx : ContextOk l) (h : g.payloads = []) (hf : g.files = [])
    (hs : g.sockets = []) (buffersObj : Bool) :
    Triple (fun s => s = l.grow g) (vectoredPayload buffersObj env)
      (fun p s => Holding l g buffersObj VectorShape p s) (fun _ s => Refused l s) := by
  refine .bind (getContext_spec (l := l) fun s hs => hs ▸ rfl) fun c => ?_
  refine .bind (Q := MaybeHolding l g buffersObj VectorShape) (.change ?_) fun x => orFail_spec h hf hs x _
  rintro s ⟨rfl, hc⟩
  exact getOrCreateVectoredBuffer_spec hctx h hc buffersObj env.buffers

theorem dataPayload_spec (h : g.payloads = []) (hf : g.files = []) (hs : g.sockets = []) :
    Triple (fun s => s = l.grow g) (dataPayload env)
      (fun p s => Holding l g true (LinearShape true) p s) (fun _ s => Refused l s) := by
  refine .bind (Q := MaybeHolding l g true (LinearShape true)) (.change ?_) fun x =>
    orFail_spec h hf hs x _
  intro s hg
  subst hg
  unfold createBufferPayloadFromData
  split
  · exact Or.inr ⟨_, rfl, holding_alloc h ⟨rfl, rfl, rfl⟩ ⟨rfl, _, rfl, by simp⟩⟩
  · exact Or.inl ⟨rfl, rfl⟩

theorem pybufferPayload_spec (h : g.payloads = []) (hf : g.files = []) (hs : g.sockets = [])
    (iovecs : List Iovec) :
    Triple (fun s => s = l.grow g) (pybufferPayload iovecs env)
      (fun p s => Holding l g true VectorShape p s) (fun _ s => Refused l s) := by
  refine .bind (Q := MaybeHolding l g true VectorShape) (.change ?_) fun x => orFail_spec h hf hs x _
  intro s hg
  subst hg
  unfold createBufferPayloadFromPybuffer
  split
  · exact Or.inr ⟨_, rfl, holding_alloc h ⟨rfl, rfl, rfl⟩ ⟨rfl, rfl, rfl⟩⟩
  · exact Or.inl ⟨rfl, rfl⟩

theorem modify_append_self {α : Type} (xs : List α) (x : α) (f : α → α) :
    (xs ++ [x]).modify xs.length f = xs ++ [f x] := by
  induction xs with
  | nil => rfl
  | cons y ys ih =>
    rw [List.cons_append, List.length_cons, List.modify_succ_cons, ih]
    rfl

/-- Dropping the payload releases one of the operation's own, and leaves one of a context. -/
theorem dropPayload_spec (hf : g.files = []) (hs : g.sockets = []) :
    Triple (Holding l g user shape p) (dropPayload p) (fun _ s => Refused l s)
      (fun _ s => Refused l s) := by
  refine .change ?_
  rintro s ⟨ps, rfl, huse⟩
  cases huse with
  | @own b hp hg ho hshape =>
    refine ⟨{ g with payloads := [b.release false] }, ?_, hf, hs, ?_⟩
    · simp only at hg
      subst hp hg
      simp only [Loop.grow, freeBufferPayload]
      rw [modify_append_self]
    · intro c hc
      rw [List.mem_singleton.mp hc, BufferPayload.release_of_normalBuf ho.mode]
      exact ⟨ho.mode, by simp [ho.frees]⟩
  | context hu hg hc =>
    simp only at hg
    subst hg
    obtain ⟨b, hb, -, hm⟩ := hc.get (g := { g with payloads := [] })
    refine ⟨{ g with payloads := [] }, ?_, hf, hs, by simp⟩
    have : freeBufferPayload (l.grow { g with payloads := [] }).heap (some p) false =
        (l.grow { g with payloads := [] }).heap := by
      rw [freeBufferPayload, modify_eq_self]
      intro c hc'
      rw [hb] at hc'
      rw [← Option.some.inj hc', BufferPayload.release_of_context hm]
    rw [this]

theorem createFutureOrDrop_spec (hf : g.files = []) (hs : g.sockets = []) :
    Triple (Holding l g user shape p) (createFutureOrDrop p env)
      (fun f s => Holding l { g with futures := g.futures + 1 } user shape p s ∧
        f = l.nextFuture + g.futures)
      (fun _ s => Refused l s) := by
  unfold createFutureOrDrop
  cases hfut : env.future with
  | some e => exact .bind (dropPayload_spec hf hs) fun _ => .fail fun _ hr => hr
  | none =>
    have hcheck : ∀ s, Holding l g user shape p s → createFuture env s =
        .ok (.ok s.nextFuture, { s with nextFuture := s.nextFuture + 1 }) := by
      intro s _
      unfold createFuture
      rw [hfut]
      rfl
    intro s hold
    have he := hcheck s hold
    simp only [he]
    obtain ⟨ps, rfl, huse⟩ := hold
    refine ⟨⟨ps, rfl, ?_⟩, rfl⟩
    cases huse with
    | own hp hg ho hshape => exact .own hp hg ho hshape
    | context hu hg hc => exact .context hu hg hc

end Steps

end Uringio
