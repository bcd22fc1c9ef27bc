/-
  Which failures of an operation raise.

  Almost every helper sets an exception where it fails. Three do not: an address of an
  unsupported domain, and the two functions that make a payload, when there is no memory for
  it. `Raises` is the triple of the ones that do; `prepare_raises` says for every operation
  what its arguments have to be.
-/
import Uringio.PyOps.Registered
import Uringio.PyOps.Aexit

namespace Uringio

open Lib Program

/-! ## Programs that raise where they fail -/

/-- Every failure has an exception, no unassigned variable is read, and the ring stays. -/
def Raises {α : Type} (P : Loop → Prop) (r : Ring) (m : PyProgram α) (Q : α → Prop) : Prop :=
  Ends (fun e => e ≠ .unassigned) P m (fun a s => s.ring = r ∧ Q a)
    (fun e s => e.isSome ∧ s.ring = r)

/-- The loop has the ring. -/
def OnRing (r : Ring) (s : Loop) : Prop := s.ring = r

namespace Raises

variable {α β : Type} {P : Loop → Prop} {r : Ring}

theorem bind {m : PyProgram α} {f : α → PyProgram β} {Q : α → Prop} {R : β → Prop}
    (hm : Raises P r m Q) (hf : ∀ a, Q a → Raises (OnRing r) r (f a) R) :
    Raises P r (m >>= f) R :=
  Ends.bind hm fun a => .given fun ha => hf a ha

/-- A step of whose value nothing is known. -/
theorem step {m : PyProgram α} {f : α → PyProgram β} {R : β → Prop}
    (hm : Raises P r m fun _ => True) (hf : ∀ a, Raises (OnRing r) r (f a) R) :
    Raises P r (m >>= f) R :=
  hm.bind fun a _ => hf a

theorem pure {a : α} {Q : α → Prop} (h : Q a) : Raises (OnRing r) r (Pure.pure a) Q :=
  fun _ hs => ⟨hs, h⟩

theorem ret {a : α} {Q : α → Prop} (h : Q a) :
    Raises (OnRing r) r (Program.ret a : PyProgram α) Q :=
  fun _ hs => ⟨hs, h⟩

theorem fail {e : Option PyErr} {Q : α → Prop} (h : e.isSome) :
    Raises (OnRing r) r (Program.fail e : PyProgram α) Q :=
  fun _ hs => ⟨h, hs⟩

theorem check {x : Option (Option PyErr)} (h : ∀ e, x = some e → e.isSome) :
    Raises (OnRing r) r (Program.check x : PyProgram Unit) fun _ => True :=
  Ends.check (fun e _ he hs => ⟨h e he, hs⟩) fun _ _ hs => ⟨hs, trivial⟩

theorem look {f : Loop → α} {Q : α → Prop} (hP : ∀ s, P s → s.ring = r) (h : ∀ s, P s → Q (f s)) :
    Raises P r (Program.look f : PyProgram α) Q :=
  fun s hs => ⟨hP s hs, h s hs⟩

theorem lookAny {f : Loop → α} : Raises (OnRing r) r (Program.look f : PyProgram α) fun _ => True :=
  fun _ hs => ⟨hs, trivial⟩

theorem change {f : Loop → α × Loop} (h : ∀ s, (f s).2.ring = s.ring) :
    Raises (OnRing r) r (Program.change f : PyProgram α) fun _ => True :=
  fun s hs => ⟨(h s).trans hs, trivial⟩

theorem mono {m : PyProgram α} {Q Q' : α → Prop} (hm : Raises P r m Q) (h : ∀ a, Q a → Q' a) :
    Raises P r m Q' :=
  Ends.conseq hm (fun _ hs => hs) (fun a _ hs => ⟨hs.1, h a hs.2⟩) fun _ _ hs => hs

theorem of_pre {P' : Loop → Prop} {m : PyProgram α} {Q : α → Prop} (hm : Raises P r m Q)
    (h : ∀ s, P' s → P s) : Raises P' r m Q :=
  Ends.conseq hm h (fun _ _ hs => hs) fun _ _ hs => hs

end Raises

/-! ## The steps of the operations -/

section Steps

variable {α : Type} {P : Loop → Prop} {r : Ring} {env : CallEnv}

theorem assertLoopThread_raises :
    Raises (OnRing r) r (assertLoopThread env) fun _ => True := by
  refine .check fun e he => ?_
  split at he
  · exact absurd he (by simp)
  · exact Option.some.inj he ▸ rfl

theorem assertRingLoopIsClosing_raises :
    Raises (OnRing r) r (assertRingLoopIsClosing env) fun _ => True := by
  refine .step .lookAny fun closed => .check fun e he => ?_
  split at he
  · exact Option.some.inj he ▸ rfl
  · exact absurd he (by simp)

/-- A check that raises an error of the interpreter. -/
theorem checkMap_raises {x : Option PyErr} :
    Raises (OnRing r) r (check (x.map some) : PyProgram Unit) fun _ => True := by
  refine .check fun e he => ?_
  obtain ⟨x, -, rfl⟩ := Option.map_eq_some_iff.mp he
  rfl

/-- A check that raises one error. -/
theorem checkIf_raises {c : Prop} [Decidable c] {e : PyErr} :
    Raises (OnRing r) r (check (if c then some (some e) else none) : PyProgram Unit)
      fun _ => True := by
  refine .check fun e he => ?_
  split at he
  · exact Option.some.inj he ▸ rfl
  · exact absurd he (by simp)

theorem checkUnless_raises {c : Prop} [Decidable c] {e : PyErr} :
    Raises (OnRing r) r (check (if c then none else some (some e)) : PyProgram Unit)
      fun _ => True := by
  refine .check fun e he => ?_
  split at he
  · exact absurd he (by simp)
  · exact Option.some.inj he ▸ rfl

theorem parseTimeout_raises (obj : Option PyVal) :
    Raises (OnRing r) r (parseTimeout obj) fun t => parseTimeoutParams obj = .ok t := by
  unfold parseTimeout
  cases parseTimeoutParams obj with
  | error e => exact .fail rfl
  | ok t => exact .ret rfl

theorem createFuture_raises : Raises (OnRing r) r (createFuture env) fun _ => True :=
  .step checkMap_raises fun _ => .change fun _ => rfl

theorem createFutureOrDrop_raises (payload : Option PayloadId) :
    Raises (OnRing r) r (createFutureOrDrop payload env) fun _ => True := by
  unfold createFutureOrDrop
  cases env.future with
  | none => exact createFuture_raises
  | some e => exact .step (.change fun _ => rfl) fun _ => .fail rfl

theorem getContext_raises : Raises (OnRing r) r getContext fun _ => True := by
  refine .step .lookAny fun c => ?_
  cases c with
  | none => exact Ends.stop (by simp)
  | some c => exact .pure trivial

/-- What is known of the Socket objects of the loop is known of the one that the method is
    called on. -/
theorem openSocketMethod_raises {D : UringioSocket → Prop} (self : SocketId)
    (hP : ∀ s, P s → s.ring = r) (hD : ∀ s sock, P s → s.sockets[self]? = some sock → D sock) :
    Raises P r (openSocketMethod self env) fun x => D x.1 := by
  have hself : Raises P r (selfSocket self) fun x => D x.1 := by
    refine .bind (Q := fun x => ∀ sock, x = some sock → D sock)
      (.look hP fun s hs sock he => hD s sock hs he) fun x hx => ?_
    cases x with
    | none => exact Ends.stop (by simp)
    | some sock =>
      obtain ⟨fd, domain, addr, closed⟩ := sock
      cases fd with
      | none => exact Ends.stop (by simp)
      | some fd => exact .pure (hx _ rfl)
  refine hself.bind fun x hx => .step assertLoopThread_raises fun _ => ?_
  refine .step assertRingLoopIsClosing_raises fun _ => .step checkIf_raises fun _ => ?_
  exact .step checkMap_raises fun _ => .pure hx

theorem openFileMethod_raises (self : FileId) :
    Raises (OnRing r) r (openFileMethod self env) fun _ => True := by
  have hself : Raises (OnRing r) r (selfFile self) fun _ => True := by
    refine .step .lookAny fun x => ?_
    split
    · exact .pure trivial
    · exact Ends.stop (by simp)
  refine hself.step fun x => .step assertLoopThread_raises fun _ => ?_
  refine .step assertRingLoopIsClosing_raises fun _ => .step checkIf_raises fun _ => ?_
  exact .step checkMap_raises fun _ => .pure trivial

/-- The domains that `_serialize_address` knows. -/
def Supported (domain : Int) : Prop := domain = afInet ∨ domain = afInet6

instance : DecidablePred Supported := fun _ => inferInstanceAs (Decidable (_ ∨ _))

/-- The address of a host argument; without one it is all zeros. -/
def HostArg.addr (host : HostArg) : List Nat := (host.getD (some [])).getD []

/-- The address of a host that is no address is an error, that of an unsupported domain is
    NULL and nothing else. -/
theorem serializeAddress_raises {host : HostArg} {port domain : Int} (hd : Supported domain) :
    Raises (OnRing r) r (serializeAddress host port domain env) fun a =>
      host ≠ some none ∧ a.1 = ⟨domain, toUint16 port, host.addr⟩ := by
  unfold serializeAddress
  cases env.block with
  | none => exact .fail rfl
  | some block =>
    rcases hd with rfl | rfl
    · rcases host with _ | _ | addr
      · exact .ret ⟨by simp, rfl⟩
      · exact .fail rfl
      · exact .ret ⟨by simp, rfl⟩
    · rcases host with _ | _ | addr
      · exact .ret ⟨by simp, rfl⟩
      · exact .fail rfl
      · exact .ret ⟨by simp, rfl⟩

theorem orFail_raises {payload : Option PayloadId} {e : Option PyErr}
    (h : payload = none → e.isSome) :
    Raises (OnRing r) r (orFail payload e) fun _ => payload.isSome := by
  unfold orFail
  cases payload with
  | none => exact .fail (h rfl)
  | some p => exact .ret rfl

/-- With memory for the payload and for what lies behind it a linear buffer is found. -/
theorem linearPayload_raises {buffersObj : Bool} {bufsize : Int}
    (hp : env.buffers.payload = true)
    (hl : (linearBuffers buffersObj bufsize env.buffers).isSome) :
    Raises (OnRing r) r (linearPayload buffersObj bufsize env) fun _ => True := by
  obtain ⟨linear, hl⟩ := Option.isSome_iff_exists.mp hl
  refine .step getContext_raises fun c => ?_
  refine .bind (Q := fun p => p.isSome) ?_ fun p hp' => ?_
  · intro s hs
    have hget : ∃ p heap, getOrCreateLinearBuffer s.heap c.bufferPayload buffersObj bufsize
        env.buffers = .ok (some p, heap) := by
      unfold getOrCreateLinearBuffer
      rw [hl, hp]
      cases (if buffersObj then none else contextLinear s.heap c.bufferPayload) with
      | none => exact ⟨_, _, rfl⟩
      | some p => exact ⟨_, _, rfl⟩
    obtain ⟨p, heap, hget⟩ := hget
    simp only [hget]
    exact ⟨hs, rfl⟩
  · exact (orFail_raises fun hn => absurd hp' (by simp [hn])).mono fun _ _ => trivial

/-- With memory for the payload the vectored buffers are there, or the failure has raised. -/
theorem vectoredPayload_raises {buffersObj : Bool} (hp : env.buffers.payload = true) :
    Raises (OnRing r) r (vectoredPayload buffersObj env) fun _ =>
      buffersObj = true → env.buffers.views.isSome := by
  refine .step getContext_raises fun c => ?_
  refine .bind (Q := fun p => p.isSome → buffersObj = true → env.buffers.views.isSome) ?_
    fun p hv => (orFail_raises fun _ => by rw [if_pos hp]; rfl).mono fun _ h => hv h
  intro s hs
  refine ⟨hs, fun hsome hb => ?_⟩
  subst hb
  cases hv : env.buffers.views with
  | some views => rfl
  | none =>
    simp [getOrCreateVectoredBuffer, vectoredBuffers, hv, hp] at hsome

/-- Whether `create_buffer_payload_from_data` gets its payload. -/
def BufferEnv.HasData (env : BufferEnv) : Prop :=
  env.payload = true ∧ ∃ v vs, env.views = some (v :: vs)

theorem dataPayload_raises :
    Raises (OnRing r) r (dataPayload env) fun _ => env.buffers.HasData := by
  refine .bind (Q := fun p => p.isSome → env.buffers.HasData) ?_ fun p h =>
    (orFail_raises fun _ => rfl).mono fun _ hp => h hp
  intro s hs
  refine ⟨hs, fun hsome => ?_⟩
  change (createBufferPayloadFromData s.heap env.buffers).1.isSome at hsome
  unfold createBufferPayloadFromData at hsome
  split at hsome
  next v vs hp hv => exact ⟨hp, v, vs, hv⟩
  next => exact absurd hsome (by simp)

theorem pybufferPayload_raises (iovecs : List Iovec) :
    Raises (OnRing r) r (pybufferPayload iovecs env) fun _ => env.buffers.payload = true := by
  refine .bind (Q := fun p => p.isSome → env.buffers.payload = true) ?_ fun p h =>
    (orFail_raises fun _ => rfl).mono fun _ hp => h hp
  intro s hs
  refine ⟨hs, fun hsome => ?_⟩
  change (createBufferPayloadFromPybuffer s.heap iovecs env.buffers).1.isSome at hsome
  unfold createBufferPayloadFromPybuffer at hsome
  split at hsome
  next hp => exact hp
  next => exact absurd hsome (by simp)

end Steps

/-! ## Dispatchers -/

/-- The dispatcher reads nothing unassigned, and what it comes to satisfies `P`. -/
def Dispatches (P : COp → Prop) : Except Stop (COp × Heap) → Prop
  | .error e => e ≠ .unassigned
  | .ok (op, _) => P op

/-- The program reads nothing unassigned. -/
def Assigned {α : Type} (x : Except Stop α) : Prop := x ≠ .error .unassigned

theorem Dispatches.bind {α : Type} {P : COp → Prop} {x : Except Stop α}
    {f : α → Except Stop (COp × Heap)} (hx : Assigned x) (hf : ∀ a, Dispatches P (f a)) :
    Dispatches P (x >>= f) := by
  cases x with
  | error e => exact fun h => hx (congrArg Except.error h)
  | ok a => exact hf a

section Dispatchers

variable {P : COp → Prop} {heap : Heap} {fd : Int} {payload : PayloadId}

theorem payloadAt_assigned : Assigned (payloadAt heap payload) := by
  unfold payloadAt
  cases heap.payloads[payload]? <;> simp [Assigned]

theorem linearOf_assigned {b : BufferPayload} : Assigned (linearOf b) := by
  unfold linearOf
  cases b.linear <;> simp [Assigned]

theorem vectorOf_assigned {b : BufferPayload} : Assigned (vectorOf b) := by
  unfold vectorOf
  cases b.vector <;> simp [Assigned]

theorem takeBufIdx_assigned {b : BufferPayload} : Assigned (takeBufIdx heap payload b) := by
  unfold takeBufIdx
  cases b.idxRegistry <;> simp [Assigned]

theorem readDispatcher_dispatches (stream : StreamStrategy) (size offset : Int) :
    Dispatches COp.Accepts (readDispatcher fd payload stream size offset heap) := by
  refine .bind payloadAt_assigned fun b => ?_
  split
  · exact .bind takeBufIdx_assigned fun _ => .bind linearOf_assigned fun _ => trivial
  · split
    · trivial
    · trivial
  · split
    · trivial
    · trivial
  · exact .bind linearOf_assigned fun _ => trivial
  · exact .bind linearOf_assigned fun _ => trivial

theorem readvDispatcher_dispatches (offset : Int) (nowait : Bool) :
    Dispatches COp.Accepts (readvDispatcher fd payload offset nowait heap) := by
  refine .bind payloadAt_assigned fun b => ?_
  split
  · exact .bind linearOf_assigned fun _ => trivial
  · exact .bind linearOf_assigned fun _ => trivial
  all_goals exact .bind vectorOf_assigned fun _ => trivial

theorem writeDispatcher_dispatches (offset : Int) :
    Dispatches COp.Accepts (writeDispatcher fd payload offset heap) := by
  refine .bind payloadAt_assigned fun b => ?_
  split
  · exact .bind takeBufIdx_assigned fun _ => .bind linearOf_assigned fun _ => trivial
  all_goals exact .bind linearOf_assigned fun _ => trivial

theorem acceptDispatcher_dispatches (stream : StreamStrategy) (addr : Option Block) :
    Dispatches COp.Accepts (acceptDispatcher fd stream addr heap) := by
  cases stream with
  | oneshot => trivial
  | multishot => trivial

theorem recvDispatcher_dispatches (stream : StreamStrategy) (isPollFirst : Bool) :
    Dispatches COp.Accepts (recvDispatcher fd payload stream isPollFirst heap) := by
  refine .bind payloadAt_assigned fun b => .bind linearOf_assigned fun _ => ?_
  split
  · split
    · trivial
    · trivial
  · split
    · trivial
    · trivial
  all_goals trivial

theorem recvmsgDispatcher_dispatches (stream : StreamStrategy) (isPollFirst : Bool)
    (msghdr : Option Block) :
    Dispatches COp.Accepts (recvmsgDispatcher fd payload stream isPollFirst msghdr heap) := by
  refine .bind payloadAt_assigned fun b => ?_
  split
  · split
    · trivial
    · trivial
  · split
    · trivial
    · trivial
  all_goals exact .bind vectorOf_assigned fun _ => trivial

theorem sendDispatcher_dispatches (transferMode : TransferMode) (isPollFirst : Bool) :
    Dispatches COp.Accepts (sendDispatcher fd payload transferMode isPollFirst heap) := by
  refine .bind payloadAt_assigned fun b => ?_
  split
  · split
    · exact .bind takeBufIdx_assigned fun _ => .bind linearOf_assigned fun _ => trivial
    · exact .bind linearOf_assigned fun _ => trivial
  · exact .bind linearOf_assigned fun _ => trivial

theorem sendmsgDispatcher_dispatches {addr : Option SockAddr} {addrlen : Nat}
    {isPollFirst : Bool} (transferMode : TransferMode)
    (hzc : ∀ iovecs n i, P (.sendmsgZc fd iovecs n addr addrlen isPollFirst i))
    (h : ∀ iovecs n, P (.sendmsg fd iovecs n addr addrlen isPollFirst)) :
    Dispatches P (sendmsgDispatcher fd payload transferMode addr addrlen isPollFirst heap) := by
  refine .bind payloadAt_assigned fun b => ?_
  cases transferMode with
  | zeroCopy =>
    exact .bind takeBufIdx_assigned fun _ => .bind vectorOf_assigned fun _ => hzc _ _ _
  | normalTransfer => exact .bind vectorOf_assigned fun _ => h _ _

theorem linearCall_dispatches {call : Ptr → Nat → COp} (h : ∀ buf len, P (call buf len)) :
    Dispatches P (linearCall payload call heap) :=
  .bind payloadAt_assigned fun _ => .bind linearOf_assigned fun _ => h _ _

theorem vectoredCall_dispatches {call : List Iovec → Nat → COp} (h : ∀ iovecs n, P (call iovecs n)) :
    Dispatches P (vectoredCall payload call heap) :=
  .bind payloadAt_assigned fun _ => .bind vectorOf_assigned fun _ => h _ _

end Dispatchers

/-! ## Helpers -/

/-- How the helpers end that an operation calls between its timeout parameters and its
    submission: one raises, one returns NULL and sets nothing, one or the operation itself
    reads what nobody assigned, or all return. -/
inductive Fetched where
  | raises
  | silent
  | unassigned
  | done
deriving DecidableEq, Repr

namespace Fetched

/-- One helper after another. -/
def andThen : Fetched → Fetched → Fetched
  | .done, b => b
  | a, _ => a

/-- `_serialize_address` and its block. -/
def address (host : HostArg) (domain : Int) : Fetched :=
  if ¬ Supported domain then .silent else if host = some none then .raises else .done

/-- `get_or_create_linear_buffer` where the context has no linear buffer. -/
def linear (buffersObj : Bool) (bufsize : Int) (env : BufferEnv) : Fetched :=
  if env.payload = false then .silent
  else if linearBuffers buffersObj bufsize env = none then .unassigned
  else .done

/-- A payload that the context may have to offer. -/
def orServed (served : Bool) (f : Fetched) : Fetched := if served then .done else f

/-- `get_or_create_vectored_buffer` of buffers that were passed. -/
def vectored (env : BufferEnv) : Fetched :=
  if env.payload = false then .silent else if env.views = none then .raises else .done

/-- `create_buffer_payload_from_data`. -/
def data (env : BufferEnv) : Fetched :=
  match env.payload, env.views with
  | true, some (_ :: _) => .done
  | _, _ => .raises

/-- The outcome is neither NULL without an exception nor a read of what nobody assigned. -/
def Proper (f : Fetched) : Prop := f ≠ .silent ∧ f ≠ .unassigned

instance : DecidablePred Proper := fun _ => inferInstanceAs (Decidable (_ ∧ _))

theorem andThen_proper {a b : Fetched} :
    (a.andThen b).Proper ↔ a.Proper ∧ (a = .done → b.Proper) := by
  cases a <;> simp [andThen, Proper]

theorem andThen_done {a b : Fetched} : a.andThen b = .done ↔ a = .done ∧ b = .done := by
  cases a <;> simp [andThen]

theorem address_proper {host : HostArg} {domain : Int} :
    (address host domain).Proper ↔ Supported domain := by
  unfold address Proper
  by_cases hd : Supported domain
  · by_cases hh : host = some none
    · simp [hd, hh]
    · simp [hd, hh]
  · simp [hd]

theorem address_done {host : HostArg} {domain : Int} (hd : Supported domain)
    (h : host ≠ some none) : address host domain = .done := by
  simp [address, hd, h]

theorem linear_proper {buffersObj : Bool} {bufsize : Int} {env : BufferEnv} :
    (linear buffersObj bufsize env).Proper ↔
      env.payload = true ∧ (linearBuffers buffersObj bufsize env).isSome := by
  unfold linear Proper
  cases env.payload with
  | false => simp
  | true =>
    cases linearBuffers buffersObj bufsize env with
    | none => simp
    | some v => simp

theorem linear_done {buffersObj : Bool} {bufsize : Int} {env : BufferEnv}
    (h : (linear buffersObj bufsize env).Proper) : linear buffersObj bufsize env = .done := by
  obtain ⟨hp, hl⟩ := linear_proper.mp h
  obtain ⟨v, hl⟩ := Option.isSome_iff_exists.mp hl
  simp [linear, hp, hl]

theorem vectored_proper {env : BufferEnv} : (vectored env).Proper ↔ env.payload = true := by
  unfold vectored Proper
  cases env.payload with
  | false => simp
  | true =>
    cases env.views with
    | none => simp
    | some vs => simp

theorem vectored_done {env : BufferEnv} (hp : env.payload = true) (hv : env.views.isSome) :
    vectored env = .done := by
  obtain ⟨vs, hv⟩ := Option.isSome_iff_exists.mp hv
  simp [vectored, hp, hv]

theorem data_proper {env : BufferEnv} : (data env).Proper := by
  unfold data Proper
  split
  · simp
  · simp

theorem data_done {env : BufferEnv} (h : env.HasData) : data env = .done := by
  obtain ⟨hp, v, vs, hv⟩ := h
  simp [data, hp, hv]

end Fetched

/-! ## Requests -/

/-- Every result below 1 of the operation that the dispatcher comes to is reported, and the
    operation gets as far as its submission only if `submits`. -/
def Request.Reports (req : Request) (submits : Prop) : Prop :=
  ∀ heap, Dispatches (fun op => (op.Accepts → submits) ∧ ∀ r idx submit,
    (op.exec r idx req.timeoutParams submit).1 < 1 →
      (req.error (op.exec r idx req.timeoutParams submit).1).isSome) (req.dispatch heap)

theorem Dispatches.mono {P Q : COp → Prop} {x : Except Stop (COp × Heap)} (hx : Dispatches P x)
    (h : ∀ op, P op → Q op) : Dispatches Q x := by
  cases x with
  | error e => exact hx
  | ok r => exact h r.1 hx

/-- An operation that fills its SQE comes back with -1 or 0 only. -/
theorem reports_of_accepts {req : Request} (he : ∀ n, n = -1 ∨ n = 0 → (req.error n).isSome)
    (hd : ∀ heap, Dispatches COp.Accepts (req.dispatch heap)) : req.Reports True :=
  fun heap => (hd heap).mono fun _ ha =>
    ⟨fun _ => trivial, fun r idx submit hn => he _ (exec_result ha r idx _ submit hn)⟩

theorem checkFileResult_isSome (n : Int) (h : n = -1 ∨ n = 0) : (checkFileResult n).isSome := by
  rcases h with rfl | rfl <;> rfl

theorem checkSocketsResult_isSome (n : Int) (h : n = -1 ∨ n = 0) :
    (checkSocketsResult n).isSome := by
  rcases h with rfl | rfl <;> rfl

/-- The sockaddr and its length that an SQE of the operation names. -/
def COp.sockaddr : COp → Option (SockAddr × Nat)
  | .bind _ addr addrlen | .connect _ addr addrlen => some (addr, addrlen)
  | .sendto _ _ _ addr addrlen _ | .recvfrom _ _ _ addr addrlen _ => some (addr, addrlen)
  | .sendmsg _ _ _ (some addr) addrlen _ | .sendmsgZc _ _ _ (some addr) addrlen _ _ =>
    some (addr, addrlen)
  | _ => none

theorem COp.accepts_of_sockaddr {op : COp} {a : SockAddr × Nat} (h : op.sockaddr = some a) :
    op.Accepts := by
  cases op with
  | prepSocket domain socktype => exact absurd h (by simp [sockaddr])
  | timer t => exact absurd h (by simp [sockaddr])
  | _ => trivial

/-- The operation that the dispatcher comes to names the sockaddr. -/
def Request.Addresses (req : Request) (addr : SockAddr) (addrlen : Nat) : Prop :=
  ∀ heap, Dispatches (fun op => op.sockaddr = some (addr, addrlen)) (req.dispatch heap)

theorem reports_of_sockaddr {req : Request} {addr : SockAddr} {addrlen : Nat}
    (he : ∀ n, n = -1 ∨ n = 0 → (req.error n).isSome) (h : req.Addresses addr addrlen) :
    req.Reports True :=
  reports_of_accepts he fun heap => (h heap).mono fun _ => COp.accepts_of_sockaddr

/-- What a request holds that has got past the timeout parameters `t`. -/
structure Request.After (req : Request) (t : Option PyVal) : Prop where
  reports : req.Reports True
  pending : ∃ p, parseTimeoutParams t = .ok (p, req.pending)

section Operations

variable {l : Loop} {r : Ring} {env : CallEnv}

/-- The checks that every method of a File begins with. -/
theorem fileMethod_raises (self : FileId) (t : Option PyVal) {Q : Request → Prop}
    {f : Int → TimeoutParams × Option PyErr → PyProgram Request}
    (hf : ∀ fd p, parseTimeoutParams t = .ok p → Raises (OnRing r) r (f fd p) Q) :
    Raises (OnRing r) r (do
      let fd ← openFileMethod self env
      let p ← parseTimeout t
      f fd p) Q :=
  (openFileMethod_raises self).step fun fd => (parseTimeout_raises t).bind fun p hp => hf fd p hp

/-- The checks that every method of a Socket begins with. -/
theorem socketMethod_raises {P : Loop → Prop} {D : UringioSocket → Prop} (self : SocketId)
    (t : Option PyVal) {Q : Request → Prop}
    {f : UringioSocket × Int → TimeoutParams × Option PyErr → PyProgram Request}
    (hP : ∀ s, P s → s.ring = r) (hD : ∀ s sock, P s → s.sockets[self]? = some sock → D sock)
    (hf : ∀ x p, D x.1 → parseTimeoutParams t = .ok p → Raises (OnRing r) r (f x p) Q) :
    Raises P r (do
      let x ← openSocketMethod self env
      let p ← parseTimeout t
      f x p) Q :=
  (openSocketMethod_raises self hP hD).bind fun x hx => (parseTimeout_raises t).bind fun p hp =>
    hf x p hx hp

/-- `socketMethod_raises` where nothing is asked of the Socket. -/
theorem anySocketMethod_raises (self : SocketId) (t : Option PyVal) {Q : Request → Prop}
    {f : UringioSocket × Int → TimeoutParams × Option PyErr → PyProgram Request}
    (hf : ∀ x p, parseTimeoutParams t = .ok p → Raises (OnRing r) r (f x p) Q) :
    Raises (OnRing r) r (do
      let x ← openSocketMethod self env
      let p ← parseTimeout t
      f x p) Q :=
  socketMethod_raises (D := fun _ => True) self t (fun _ hs => hs) (fun _ _ _ _ => trivial)
    fun x p _ hp => hf x p hp

/-- `bind` and `connect`, on a Socket of the domain. -/
theorem addressedOperation_raises {self : SocketId} {opcode : Opcode} {domain port : Int}
    {op : Int → SockAddr → Nat → COp} {host : HostArg} {t : Option PyVal}
    (hop : ∀ fd addr n, (op fd addr n).sockaddr = some (addr, n))
    (hself : ∀ sock, l.sockets[self]? = some sock → sock.domain = domain)
    (hf : ∀ p, parseTimeoutParams t = .ok p → (Fetched.address host domain).Proper) :
    Raises (fun s => s = l) l.ring (addressedOperation self opcode op host port t env) fun req =>
      req.After t ∧ Fetched.address host domain = .done ∧
        req.Addresses ⟨domain, toUint16 port, host.addr⟩ (getSocketSize domain) := by
  refine socketMethod_raises (D := fun sock => sock.domain = domain) self t
    (fun s hs => hs ▸ rfl) (fun s sock hs he => hself sock (hs ▸ he)) fun x p hx hp => ?_
  have hd := Fetched.address_proper.mp (hf p hp)
  rw [hx]
  refine (serializeAddress_raises hd).bind fun a ha => createFuture_raises.step fun _ => .pure ?_
  obtain ⟨addr, block⟩ := a
  obtain ⟨hhost, rfl⟩ := ha
  have hsockaddr : ∀ heap : Heap, Dispatches
      (fun op => op.sockaddr = some (⟨domain, toUint16 port, host.addr⟩, getSocketSize domain))
      (.ok (op x.2 ⟨domain, toUint16 port, host.addr⟩ (getSocketSize domain), heap)) :=
    fun _ => hop _ _ _
  exact ⟨⟨reports_of_sockaddr checkSocketsResult_isSome hsockaddr, p.1, hp⟩,
    Fetched.address_done hd hhost, hsockaddr⟩

theorem sendto_raises {self : SocketId} {host : List Nat} {parsed isPollFirst : Bool}
    {port domain : Int} {t : Option PyVal}
    (hf : ∀ p, parseTimeoutParams t = .ok p →
      (Fetched.address (some (if parsed then some host else none)) domain).Proper) :
    Raises (OnRing r) r (UringioSocket.sendto self host parsed port domain isPollFirst t env)
      fun req => req.After t ∧
        (Fetched.address (some (if parsed then some host else none)) domain).andThen
          (.data env.buffers) = .done ∧
        req.Addresses ⟨domain, toUint16 port, HostArg.addr (some (if parsed then some host else none))⟩
          (getSocketSize domain) := by
  refine anySocketMethod_raises self t fun x p hp => ?_
  have hd := Fetched.address_proper.mp (hf p hp)
  generalize (some (if parsed then some host else none) : HostArg) = arg
  refine (serializeAddress_raises hd).bind fun a ha => dataPayload_raises.bind fun _ hv => ?_
  obtain ⟨addr, block⟩ := a
  obtain ⟨hhost, rfl⟩ := ha
  refine (createFutureOrDrop_raises _).step fun _ => .pure ?_
  have hsockaddr : ∀ payload heap, Dispatches
      (fun op => op.sockaddr = some (⟨domain, toUint16 port, HostArg.addr arg⟩, getSocketSize domain))
      (linearCall payload (fun buf len => .sendto x.2 buf len ⟨domain, toUint16 port, HostArg.addr arg⟩
        (getSocketSize domain) isPollFirst) heap) :=
    fun _ _ => linearCall_dispatches fun _ _ => rfl
  refine ⟨⟨reports_of_sockaddr checkSocketsResult_isSome (hsockaddr _), p.1, hp⟩, ?_,
    hsockaddr _⟩
  rw [Fetched.address_done hd hhost]
  exact Fetched.data_done hv

theorem recvfrom_raises {self : SocketId} {bufsize port domain : Int}
    {bufferObj isPollFirst : Bool} {host : HostArg} {t : Option PyVal}
    (hf : ∀ p, parseTimeoutParams t = .ok p → ((Fetched.address host domain).andThen
      (.linear bufferObj bufsize env.buffers)).Proper) :
    Raises (OnRing r) r
      (UringioSocket.recvfrom self bufsize bufferObj (some (host, port, domain)) isPollFirst t env)
      fun req => req.After t ∧ (Fetched.address host domain).andThen
          (.linear bufferObj bufsize env.buffers) = .done ∧
        req.Addresses ⟨domain, toUint16 port, host.addr⟩ (getSocketSize domain) := by
  refine anySocketMethod_raises self t fun x p hp => ?_
  obtain ⟨hd, hl⟩ := Fetched.andThen_proper.mp (hf p hp)
  rw [Fetched.address_proper] at hd
  refine (serializeAddress_raises hd).bind fun a ha => ?_
  obtain ⟨addr, block⟩ := a
  obtain ⟨hhost, rfl⟩ := ha
  have haddress : Fetched.address host domain = .done := Fetched.address_done hd hhost
  have hlinear := hl haddress
  obtain ⟨hpay, hlin⟩ := Fetched.linear_proper.mp hlinear
  have hsockaddr : ∀ payload heap, Dispatches
      (fun op => op.sockaddr = some (⟨domain, toUint16 port, host.addr⟩, getSocketSize domain))
        (linearCall payload (fun buf len => .recvfrom x.2 buf len
          ⟨domain, toUint16 port, host.addr⟩ (getSocketSize domain) isPollFirst) heap) :=
    fun _ _ => linearCall_dispatches fun _ _ => rfl
  refine (linearPayload_raises hpay hlin).step fun payload => ?_
  cases env.msghdr with
  | none => exact .step (.change fun _ => rfl) fun _ => .fail rfl
  | some msg =>
    refine (createFutureOrDrop_raises _).step fun _ => .pure ?_
    refine ⟨⟨reports_of_sockaddr checkSocketsResult_isSome (hsockaddr payload), p.1, hp⟩, ?_,
      hsockaddr payload⟩
    rw [haddress]
    exact Fetched.linear_done hlinear

/-- `sendmsg` to an address. -/
theorem sendmsg_raises {self : SocketId} {port domain : Int} {isPollFirst : Bool}
    {host : HostArg} {t : Option PyVal}
    (hf : ∀ p, parseTimeoutParams t = .ok p →
      ((Fetched.address host domain).andThen (.vectored env.buffers)).Proper) :
    Raises (OnRing r) r
      (UringioSocket.sendmsg self (some (host, port, domain)) isPollFirst t env)
      fun req => req.After t ∧
        (Fetched.address host domain).andThen (.vectored env.buffers) = .done ∧
        req.Addresses ⟨domain, toUint16 port, host.addr⟩ (getSocketSize domain) := by
  refine anySocketMethod_raises self t fun x p hp => ?_
  obtain ⟨hd, hv⟩ := Fetched.andThen_proper.mp (hf p hp)
  rw [Fetched.address_proper] at hd
  have htarget : Raises (OnRing r) r (sendmsgTarget (some (host, port, domain)) env) fun a =>
      host ≠ some none ∧ a.1 = some ⟨domain, toUint16 port, host.addr⟩ ∧
        a.2.1 = getSocketSize domain :=
    (serializeAddress_raises hd).bind fun a ha => .pure ⟨ha.1, congrArg some ha.2, rfl⟩
  refine htarget.bind fun a ha => ?_
  obtain ⟨addr, addrlen, block⟩ := a
  obtain ⟨hhost, rfl, rfl⟩ := ha
  have haddress : Fetched.address host domain = .done := Fetched.address_done hd hhost
  have hpay := Fetched.vectored_proper.mp (hv haddress)
  refine (vectoredPayload_raises hpay).bind fun payload hviews => ?_
  refine getContext_raises.step fun c => (createFutureOrDrop_raises _).step fun _ => .pure ?_
  refine ⟨⟨reports_of_accepts checkSocketsResult_isSome fun _ =>
      sendmsgDispatcher_dispatches _ (fun _ _ _ => trivial) fun _ _ => trivial, p.1, hp⟩, ?_,
    fun _ => sendmsgDispatcher_dispatches _ (fun _ _ _ => rfl) fun _ _ => rfl⟩
  rw [haddress]
  exact Fetched.vectored_done hpay (hviews rfl)

end Operations

/-! ## The submission -/

section Submission

variable {r : Ring} {req : Request}

theorem registerRequest_raises (req : Request) :
    Raises (OnRing r) r (registerRequest req) fun _ => True := by
  intro s hs
  unfold registerRequest
  cases s.ringNull with
  | true => exact fun h => absurd h (by simp)
  | false =>
    by_cases hneg : (registryAdd s.registry req.registration).1 < 0
    · simp only [Bool.false_eq_true, if_false, hneg, if_true]
      exact ⟨rfl, hs⟩
    · simp only [Bool.false_eq_true, if_false, hneg]
      exact ⟨Loop.setClosed_ring.trans hs, trivial⟩

/-- The removal may abort, and leaves the ring. -/
theorem removeRequest_ends {P : Ring → Prop} (index : Int) :
    Ends (fun e => e ≠ .unassigned) (fun s : Loop => P s.ring) (removeRequest index)
      (fun _ s => P s.ring) (fun e s => e.isSome ∧ P s.ring) := by
  intro s hs
  unfold removeRequest registryRemove
  by_cases hrange : !s.registry.inRange index
  · rw [if_pos hrange]
    exact hs
  · rw [if_neg hrange]
    by_cases htop : s.registry.top ≥ toInt s.registry.size - 1
    · rw [if_pos htop]
      exact fun h => absurd h (by simp)
    · rw [if_neg htop]
      exact hs

/-- What a submission returns: the operation of the dispatcher, which is in flight. -/
structure Request.Sent (req : Request) (r : Ring) (sub : Submitted) (s : Loop) : Prop where
  pending : sub.pending = req.pending
  seq : sub.seq = r.tail
  ring : RingAccepted r sub.op sub.index req.timeoutParams s.ring

/-- A submission that fails raises and leaves what is in flight. -/
theorem submitRequest_raises {submits : Prop} {Q : COp → Prop} (hr : req.Reports submits)
    (hq : ∀ heap, Dispatches Q (req.dispatch heap)) (submit : Int) :
    Ends (fun e => e ≠ .unassigned) (OnRing r) (submitRequest req submit)
      (fun sub s => req.Sent r sub s ∧ submits ∧ Q sub.op)
      (fun e s => e.isSome ∧ s.ring.inflight = r.inflight) := by
  refine Ends.bind (Ends.conseq (registerRequest_raises req) (fun _ h => h) (fun _ _ h => h)
    fun _ _ h => ⟨h.1, congrArg Ring.inflight h.2⟩) fun index => ?_
  let Reported (op : COp) : Prop := (op.Accepts → submits) ∧ (∀ r idx submit,
    (op.exec r idx req.timeoutParams submit).1 < 1 →
      (req.error (op.exec r idx req.timeoutParams submit).1).isSome) ∧ Q op
  have hdispatch : Ends (fun e => e ≠ .unassigned) (fun s : Loop => s.ring = r ∧ True)
      (dispatchRequest req) (fun op s => s.ring = r ∧ Reported op)
      (fun e s => e.isSome ∧ s.ring.inflight = r.inflight) := by
    intro s hs
    have h1 := hr s.heap
    have h2 := hq s.heap
    unfold dispatchRequest
    cases hd : req.dispatch s.heap with
    | error e =>
      rw [hd] at h1
      exact h1
    | ok x =>
      rw [hd] at h1 h2
      exact ⟨hs.1, h1.1, h1.2, h2⟩
  refine Ends.bind hdispatch fun op => .given fun hop => ?_
  refine Ends.bind (Q := fun seq s => s.ring = r ∧ seq = r.tail)
    (.look fun s hs => ⟨hs, hs ▸ rfl⟩) fun seq => .given fun hseq => ?_
  refine Ends.bind (Q := fun n s => op.exec r index req.timeoutParams submit = (n, s.ring))
    (.change fun s hs => by rw [← hs]) fun n => ?_
  by_cases hn : n < 1
  · rw [if_pos hn]
    refine Ends.bind (removeRequest_ends (P := fun ring =>
      op.exec r index req.timeoutParams submit = (n, ring)) index |>.conseq (fun _ h => h)
        (fun _ _ h => h) fun x s h => ⟨h.1, (COp.exec_rejected h.2 hn).1.inflight⟩) fun _ => ?_
    refine Ends.bind (Q := fun _ s => op.exec r index req.timeoutParams submit = (n, s.ring))
      (.change fun s hs => ?_) fun _ => .fail fun s hs => ⟨?_, (COp.exec_rejected hs hn).1.inflight⟩
    · rw [Loop.setClosed_ring]
      exact hs
    · have he := hop.2.1 r index submit
      rw [hs] at he
      exact he hn
  · rw [if_neg hn]
    refine .pure fun s hs => ?_
    have hacc := COp.exec_accepted hs hn
    exact ⟨⟨rfl, hseq, hacc⟩, hop.1 hacc.accepts, hop.2.2⟩

end Submission

end Uringio
