/-
  Loops that show what the helpers of an operation come to.

  For every operation, every outcome of its parsers and every outcome of its helpers there is
  a loop in which the call comes to it (`exists_shows`): the object is open, and the context is
  the default one or a PROVIDED one. With `coherent_of_clean` that makes the condition exact
  (`coherent_iff`).
-/
import Uringio.PyOps.Exceptions

namespace Uringio

open Lib Program

namespace OpCall

section Coherence

variable {call : OpCall} {buffers : BufferEnv} {domain : Int} {env : CallEnv} {l : Loop}
  {e : Option PyErr}

/-! ## Loops in which everything works -/

/-- Everything but the buffers works. -/
def okEnv (buffers : BufferEnv) : CallEnv := { CallEnv.ok with buffers := buffers }

/-- `openLoop` with an open File and an open Socket of the domain under the number `self`. -/
def heldLoop (self : Nat) (domain : Int) : Loop :=
  { openLoop with
    files := List.replicate (self + 1) ⟨some 7, false⟩
    sockets := List.replicate (self + 1) ⟨some 5, domain, none, false⟩ }

/-- `heldLoop` inside a PROVIDED context of one buffer. -/
def selectingLoop (self : Nat) (domain : Int) : Loop :=
  { heldLoop self domain with
    heap := ⟨[{ payloadType := .payloadLinear, payloadOrigin := .payloadUser, mode := .provided
                amount := 1, linear := some ⟨.mem 9, 4⟩, vector := none, idxRegistry := none
                bufIdx := 0, bgid := 3, frees := 0 }], []⟩
    context := some ⟨.provided, .oneshot, .normalTransfer, some 0⟩ }

/-- The operation comes to its submission with `e` pending, and nothing stands in the way of
    the submission. -/
structure Arrived (call : OpCall) (env : CallEnv) (l : Loop) (e : Option PyErr) (req : Request)
    (l' : Loop) (op : COp) (heap : Heap) : Prop where
  prepare : call.prepare env l = .ok (.ok req, l')
  pending : req.pending = e
  registry : l'.registry = registryNew 2
  ring : l'.ring = openLoop.ring
  ringNull : l'.ringNull = false
  dispatch : req.dispatch l'.heap = .ok (op, heap)
  accepts : op.Accepts
  submit : env.submit = 1

/-- The submission then returns the future. -/
theorem run_of_arrived {req : Request} {l' : Loop} {op : COp} {heap : Heap}
    (h : Arrived call env l e req l' op heap) :
    ∃ sub l1, call.run env l = .ok (.ok sub, l1) ∧ sub.pending = e := by
  have hidx : ¬ (registryAdd l'.registry req.registration).1 < 0 := by
    rw [h.registry, registryAdd_index _ _ ⟨0, none, .oneshot, .nop, none, none, none, none⟩]
    decide
  let s := { l' with registry := (registryAdd l'.registry req.registration).2 }.setClosed true
    req.flag
  have hreg : registerRequest req l' =
      .ok (.ok (registryAdd l'.registry req.registration).1, s) := by
    unfold registerRequest
    rw [if_neg (by simp [h.ringNull])]
    exact if_neg hidx
  have hdis : dispatchRequest req s = .ok (.ok op, { s with heap := heap }) := by
    unfold dispatchRequest
    rw [show s.heap = l'.heap from Loop.setClosed_heap, h.dispatch]
  have hring : s.ring = openLoop.ring := Loop.setClosed_ring.trans h.ring
  have hgoes : ¬ (op.exec s.ring (registryAdd l'.registry req.registration).1 req.timeoutParams
      env.submit).1 < 1 := by
    rw [← op.goes_iff, hring, h.submit]
    exact ⟨h.accepts, by decide, fun hx => absurd hx.1 (by decide), by decide⟩
  let s' : Loop := { s with
    ring := (op.exec s.ring (registryAdd l'.registry req.registration).1 req.timeoutParams
      env.submit).2
    heap := heap.freeBlock req.freeAfter }
  have hret : call.run env l = .ok (.ok ⟨req.registration, (registryAdd l'.registry
      req.registration).1, s.ring.tail, op, req.payload, req.pending⟩, s') := by
    refine (bind_returned h.prepare).trans ((bind_returned hreg).trans
      ((bind_returned hdis).trans ((bind_returned rfl).trans ((bind_returned rfl).trans ?_))))
    exact congrFun (if_neg hgoes) s'
  exact ⟨_, s', hret, h.pending⟩

/-- What the operation shows when its helpers come to this outcome. -/
def Shows (call : OpCall) (env : CallEnv) (l : Loop) (e : Option PyErr) : Fetched → Prop
  | .raises => True
  | .silent => ∃ l', call.prepare env l = .ok (.error none, l')
  | .unassigned => call.prepare env l = .error .unassigned
  | .done => call.submits → ∃ req l' op heap, Arrived call env l e req l' op heap

theorem getElem?_held {α : Type} (self : Nat) (x : α) :
    (List.replicate (self + 1) x)[self]? = some x := by
  simp

theorem assertRingLoopIsClosing_open (hclosed : l.closed = false) :
    assertRingLoopIsClosing env l = .ok (.ok (), l) := by
  unfold assertRingLoopIsClosing
  rw [bind_returned rfl, hclosed]
  rfl

theorem parseTimeout_parsed {t : Option PyVal} {p : TimeoutParams × Option PyErr}
    (hp : parseTimeoutParams t = .ok p) : parseTimeout t l = .ok (.ok p, l) := by
  unfold parseTimeout
  rw [hp]
  rfl

theorem selfFile_held {self : FileId} (hfile : l.files[self]? = some ⟨some 7, false⟩) :
    selfFile self l = .ok (.ok (⟨some 7, false⟩, 7), l) := by
  have hlook : (look fun l => l.files[self]? : PyProgram (Option UringioFile)) l =
      .ok (.ok (some ⟨some 7, false⟩), l) :=
    congrArg (fun x => Except.ok (Except.ok x, l)) hfile
  exact (bind_returned hlook).trans rfl

theorem selfSocket_held {self : SocketId}
    (hsock : l.sockets[self]? = some ⟨some 5, domain, none, false⟩) :
    selfSocket self l = .ok (.ok (⟨some 5, domain, none, false⟩, 5), l) := by
  have hlook : (look fun l => l.sockets[self]? : PyProgram (Option UringioSocket)) l =
      .ok (.ok (some ⟨some 5, domain, none, false⟩), l) :=
    congrArg (fun x => Except.ok (Except.ok x, l)) hsock
  exact (bind_returned hlook).trans rfl

/-- An open File: its methods get to their own part. -/
theorem fileMethod_held {α : Type} {self : FileId} {t : Option PyVal}
    {p : TimeoutParams × Option PyErr} (hfile : l.files[self]? = some ⟨some 7, false⟩)
    (hclosed : l.closed = false) (hp : parseTimeoutParams t = .ok p)
    (k : Int → TimeoutParams × Option PyErr → PyProgram α) :
    (openFileMethod self (okEnv buffers) >>= fun fd => parseTimeout t >>= fun t => k fd t) l =
      k 7 p l := by
  have hopen : openFileMethod self (okEnv buffers) l = .ok (.ok 7, l) := by
    refine (bind_returned (selfFile_held hfile)).trans ?_
    exact (bind_returned rfl).trans ((bind_returned (assertRingLoopIsClosing_open hclosed)).trans rfl)
  exact (bind_returned hopen).trans (bind_returned (parseTimeout_parsed hp))

/-- The same for an open Socket of the domain. -/
theorem socketMethod_held {α : Type} {self : SocketId} {t : Option PyVal}
    {p : TimeoutParams × Option PyErr} (hsock : l.sockets[self]? = some ⟨some 5, domain, none, false⟩)
    (hclosed : l.closed = false) (hp : parseTimeoutParams t = .ok p)
    (k : UringioSocket × Int → TimeoutParams × Option PyErr → PyProgram α) :
    (openSocketMethod self (okEnv buffers) >>= fun x => parseTimeout t >>= fun t => k x t) l =
      k (⟨some 5, domain, none, false⟩, 5) p l := by
  have hopen : openSocketMethod self (okEnv buffers) l =
      .ok (.ok (⟨some 5, domain, none, false⟩, 5), l) := by
    refine (bind_returned (selfSocket_held hsock)).trans ?_
    exact (bind_returned rfl).trans ((bind_returned (assertRingLoopIsClosing_open hclosed)).trans rfl)
  exact (bind_returned hopen).trans (bind_returned (parseTimeout_parsed hp))

theorem shows_done {req : Request} {l' : Loop} {op : COp} {heap : Heap}
    (hprepare : call.prepare (okEnv buffers) l = .ok (.ok req, l')) (hpending : req.pending = e)
    (hsame : l'.registry = registryNew 2 ∧ l'.ring = openLoop.ring ∧ l'.ringNull = false)
    (hdispatch : req.dispatch l'.heap = .ok (op, heap)) (haccepts : call.submits → op.Accepts) :
    Shows call (okEnv buffers) l e .done := fun hs =>
  ⟨req, l', op, heap, hprepare, hpending, hsame.1, hsame.2.1, hsame.2.2, hdispatch, haccepts hs, rfl⟩

/-! ### Files -/

section Files

variable {self : FileId} {t : Option PyVal} {p : TimeoutParams × Option PyErr}
  (hp : parseTimeoutParams t = .ok p)

include hp

theorem open_shows (dfd : Int) (path : Except PyErr String) (flags resolve mode : Int) :
    Shows (.open dfd path flags resolve mode t) (okEnv buffers) openLoop p.2
      (fetches (.open dfd path flags resolve mode t) false buffers domain) := by
  cases path with
  | error err => trivial
  | ok path =>
    refine shows_done ((bind_returned rfl).trans ((bind_returned rfl).trans ((bind_returned
      rfl).trans ((bind_returned rfl).trans ((bind_returned rfl).trans ((bind_returned
      (parseTimeout_parsed hp)).trans rfl)))))) rfl ⟨rfl, rfl, rfl⟩ rfl fun _ => trivial

theorem fileOperation_shows {opcode : Opcode} {op : Int → COp}
    (hcall : call.prepare (okEnv buffers) = fileOperation self opcode op t (okEnv buffers))
    (hop : ∀ fd, (op fd).Accepts) :
    Shows call (okEnv buffers) (heldLoop self domain) p.2 .done := by
  exact shows_done ((congrFun hcall _).trans ((fileMethod_held (getElem?_held self _) rfl hp
    _).trans rfl)) rfl ⟨rfl, rfl, rfl⟩ rfl fun _ => hop 7

theorem read_shows (offset size : Int) :
    Shows (.read self offset size t) (okEnv buffers) (heldLoop self domain) p.2
      (.linear false size buffers) := by
  have hheld := @fileMethod_held buffers (heldLoop self domain) Request self t p
    (getElem?_held self _) rfl hp
  obtain ⟨payload, runtime, views, unassigned⟩ := buffers
  cases payload with
  | false => exact ⟨_, (hheld _).trans rfl⟩
  | true =>
    cases runtime with
    | none => exact (hheld _).trans rfl
    | some p => exact shows_done ((hheld _).trans rfl) rfl ⟨rfl, rfl, rfl⟩ rfl fun _ => trivial

theorem readv_shows (buffersObj : Bool) (offset : Int) (nowait : Bool) :
    ∃ l, OpCall.On (.readv self buffersObj offset nowait t) domain l ∧
      Shows (.readv self buffersObj offset nowait t) (okEnv buffers) l p.2 (.selected buffers) := by
  obtain ⟨payload, runtime, views, unassigned⟩ := buffers
  cases payload with
  | false =>
    have hheld := @fileMethod_held ⟨false, runtime, views, unassigned⟩ (heldLoop self domain)
      Request self t p (getElem?_held self _) rfl hp
    refine ⟨heldLoop self domain, fun _ h => absurd h (by simp [onSocket]), ?_⟩
    cases buffersObj with
    | false => exact ⟨_, (hheld _).trans rfl⟩
    | true => exact ⟨_, (hheld _).trans rfl⟩
  | true =>
    -- the vector of the context's payload may be missing
    refine ⟨selectingLoop self domain, fun _ h => absurd h (by simp [onSocket]), ?_⟩
    exact shows_done ((fileMethod_held (getElem?_held self _) rfl hp _).trans rfl) rfl
      ⟨rfl, rfl, rfl⟩ rfl fun _ => trivial

theorem readvRaw_shows (iovecs : Except PyErr (List Iovec)) (offset : Int) (nowait : Bool) :
    Shows (.readvRaw self iovecs offset nowait t) (okEnv buffers) (heldLoop self domain) p.2
      (.raw iovecs buffers) := by
  have hheld := @fileMethod_held buffers (heldLoop self domain) Request self t p
    (getElem?_held self _) rfl hp
  obtain ⟨payload, runtime, views, unassigned⟩ := buffers
  cases iovecs with
  | error err => trivial
  | ok iovecs =>
    cases payload with
    | false => trivial
    | true => exact shows_done ((hheld _).trans rfl) rfl ⟨rfl, rfl, rfl⟩ rfl fun _ => trivial

theorem writevRaw_shows (iovecs : Except PyErr (List Iovec)) (flags offset : Int) :
    Shows (.writevRaw self iovecs flags offset t) (okEnv buffers) (heldLoop self domain) p.2
      (.raw iovecs buffers) := by
  have hheld := @fileMethod_held buffers (heldLoop self domain) Request self t p
    (getElem?_held self _) rfl hp
  obtain ⟨payload, runtime, views, unassigned⟩ := buffers
  cases iovecs with
  | error err => trivial
  | ok iovecs =>
    cases payload with
    | false => trivial
    | true => exact shows_done ((hheld _).trans rfl) rfl ⟨rfl, rfl, rfl⟩ rfl fun _ => trivial

theorem write_shows (offset : Int) :
    Shows (.write self offset t) (okEnv buffers) (heldLoop self domain) p.2 (.data buffers) := by
  have hheld := @fileMethod_held buffers (heldLoop self domain) Request self t p
    (getElem?_held self _) rfl hp
  obtain ⟨payload, runtime, views, unassigned⟩ := buffers
  rcases payload with _ | _
  · trivial
  rcases views with _ | _ | ⟨v, vs⟩
  · trivial
  · trivial
  · exact shows_done ((hheld _).trans rfl) rfl ⟨rfl, rfl, rfl⟩ rfl fun _ => trivial

theorem writev_shows (flags offset : Int) :
    Shows (.writev self flags offset t) (okEnv buffers) (heldLoop self domain) p.2
      (.vectored buffers) := by
  have hheld := @fileMethod_held buffers (heldLoop self domain) Request self t p
    (getElem?_held self _) rfl hp
  obtain ⟨payload, runtime, views, unassigned⟩ := buffers
  cases payload with
  | false => exact ⟨_, (hheld _).trans rfl⟩
  | true =>
    cases views with
    | none => trivial
    | some vs => exact shows_done ((hheld _).trans rfl) rfl ⟨rfl, rfl, rfl⟩ rfl fun _ => trivial

end Files

/-! ### Sockets -/

section Sockets

theorem address_cases (host : HostArg) (domain : Int) :
    (¬ Supported domain ∧ Fetched.address host domain = .silent) ∨
      Fetched.address host domain = .raises ∨
      (Supported domain ∧ host ≠ some none ∧ Fetched.address host domain = .done) := by
  by_cases hd : Supported domain
  · by_cases hh : host = some none
    · exact .inr (.inl (by simp [Fetched.address, hd, hh]))
    · exact .inr (.inr ⟨hd, hh, Fetched.address_done hd hh⟩)
  · exact .inl ⟨hd, by simp [Fetched.address, hd]⟩

theorem serializeAddress_silent {host : HostArg} {port : Int} (hd : ¬ Supported domain) :
    serializeAddress host port domain (okEnv buffers) l = .ok (.error none, l) := by
  obtain ⟨h4, h6⟩ := not_or.mp hd
  simp only [serializeAddress, okEnv, CallEnv.ok, if_neg h4, if_neg h6]
  rfl

theorem serializeAddress_done {host : HostArg} {port : Int} (hd : Supported domain)
    (hh : host ≠ some none) : serializeAddress host port domain (okEnv buffers) l =
      .ok (.ok (⟨domain, toUint16 port, host.addr⟩, 1), l) := by
  rcases hd with rfl | rfl
  · rcases host with _ | _ | addr
    · rfl
    · exact absurd rfl hh
    · rfl
  · rcases host with _ | _ | addr
    · rfl
    · exact absurd rfl hh
    · rfl

theorem sendmsgTarget_silent {host : HostArg} {port : Int} (hd : ¬ Supported domain) :
    sendmsgTarget (some (host, port, domain)) (okEnv buffers) l = .ok (.error none, l) :=
  bind_failed (serializeAddress_silent hd)

theorem sendmsgTarget_done {host : HostArg} {port : Int} (hd : Supported domain)
    (hh : host ≠ some none) : sendmsgTarget (some (host, port, domain)) (okEnv buffers) l =
      .ok (.ok (some ⟨domain, toUint16 port, host.addr⟩, getSocketSize domain, some 1), l) :=
  bind_returned (serializeAddress_done hd hh)

variable {self : SocketId} {t : Option PyVal} {p : TimeoutParams × Option PyErr}

theorem prepSocket_shows (hp : parseTimeoutParams t = .ok p) (domain' socktype : Int) :
    Shows (.prepSocket domain' socktype t) (okEnv buffers) openLoop p.2 .done :=
  shows_done ((bind_returned rfl).trans ((bind_returned rfl).trans ((bind_returned
    rfl).trans ((bind_returned rfl).trans ((bind_returned rfl).trans ((bind_returned
    (parseTimeout_parsed hp)).trans rfl)))))) rfl ⟨rfl, rfl, rfl⟩ rfl fun hs => hs

variable (hp : parseTimeoutParams t = .ok p)

include hp

theorem addressedOperation_shows {opcode : Opcode} {op : Int → SockAddr → Nat → COp}
    {host : HostArg} {port : Int} (hcall : call.prepare (okEnv buffers) =
      addressedOperation self opcode op host port t (okEnv buffers))
    (hop : ∀ fd addr n, (op fd addr n).Accepts) :
    Shows call (okEnv buffers) (heldLoop self domain) p.2 (.address host domain) := by
  have hheld := @socketMethod_held buffers domain (heldLoop self domain) Request self t p
    (getElem?_held self _) rfl hp
  rcases address_cases host domain with ⟨hd, h⟩ | h | ⟨hd, hh, h⟩
  · rw [h]
    exact ⟨_, (congrFun hcall _).trans ((hheld _).trans
      (bind_failed (serializeAddress_silent hd)))⟩
  · rw [h]
    trivial
  · rw [h]
    exact shows_done ((congrFun hcall _).trans ((hheld _).trans ((bind_returned
      (serializeAddress_done hd hh)).trans rfl))) rfl ⟨rfl, rfl, rfl⟩ rfl fun _ => hop _ _ _

theorem listen_shows (backlog : Int) :
    Shows (.listen self backlog t) (okEnv buffers) (heldLoop self domain) p.2 .done :=
  shows_done ((socketMethod_held (getElem?_held self _) rfl hp _).trans rfl) rfl
    ⟨rfl, rfl, rfl⟩ rfl fun _ => trivial

theorem accept_shows :
    Shows (.accept self t) (okEnv buffers) (heldLoop self domain) p.2 .done :=
  shows_done ((socketMethod_held (getElem?_held self _) rfl hp _).trans rfl) rfl
    ⟨rfl, rfl, rfl⟩ rfl fun _ => trivial

theorem socketClose_shows :
    Shows (.socketClose self t) (okEnv buffers) (heldLoop self domain) p.2 .done :=
  shows_done ((socketMethod_held (getElem?_held self _) rfl hp _).trans rfl) rfl
    ⟨rfl, rfl, rfl⟩ rfl fun _ => trivial

theorem send_shows (isPollFirst : Bool) :
    Shows (.send self isPollFirst t) (okEnv buffers) (heldLoop self domain) p.2
      (.data buffers) := by
  have hheld := @socketMethod_held buffers domain (heldLoop self domain) Request self t p
    (getElem?_held self _) rfl hp
  obtain ⟨payload, runtime, views, unassigned⟩ := buffers
  rcases payload with _ | _
  · trivial
  rcases views with _ | _ | ⟨v, vs⟩
  · trivial
  · trivial
  · exact shows_done ((hheld _).trans rfl) rfl ⟨rfl, rfl, rfl⟩ rfl fun _ => trivial

theorem recv_shows (bufsize : Int) (bufferObj isPollFirst : Bool) :
    Shows (.recv self bufsize bufferObj isPollFirst t) (okEnv buffers) (heldLoop self domain) p.2
      (.linear bufferObj bufsize buffers) := by
  have hheld := @socketMethod_held buffers domain (heldLoop self domain) Request self t p
    (getElem?_held self _) rfl hp
  obtain ⟨payload, runtime, views, unassigned⟩ := buffers
  rcases payload with _ | _
  · cases bufferObj with
    | true => exact ⟨_, (hheld _).trans rfl⟩
    | false => exact ⟨_, (hheld _).trans rfl⟩
  cases bufferObj with
  | true =>
    rcases views with _ | _ | ⟨v, vs⟩
    · exact (hheld _).trans rfl
    · exact (hheld _).trans rfl
    · exact shows_done ((hheld _).trans rfl) rfl ⟨rfl, rfl, rfl⟩ rfl fun _ => trivial
  | false =>
    rcases runtime with _ | n
    · exact (hheld _).trans rfl
    · exact shows_done ((hheld _).trans rfl) rfl ⟨rfl, rfl, rfl⟩ rfl fun _ => trivial

theorem sendto_shows (host : List Nat) (parsed : Bool) (port domain' : Int)
    (isPollFirst : Bool) :
    Shows (.sendto self host parsed port domain' isPollFirst t) (okEnv buffers)
      (heldLoop self domain) p.2
      ((Fetched.address (some (if parsed then some host else none)) domain').andThen
        (.data buffers)) := by
  have hheld := @socketMethod_held buffers domain (heldLoop self domain) Request self t p
    (getElem?_held self _) rfl hp
  rcases address_cases (some (if parsed then some host else none)) domain' with
    ⟨hd, h⟩ | h | ⟨hd, hh, h⟩
  · rw [h]
    exact ⟨_, (hheld _).trans (bind_failed (serializeAddress_silent hd))⟩
  · rw [h]
    trivial
  · rw [h]
    have haddr := fun l => @serializeAddress_done buffers domain' l _ port hd hh
    obtain ⟨payload, runtime, views, unassigned⟩ := buffers
    rcases payload with _ | _
    · trivial
    rcases views with _ | _ | ⟨v, vs⟩
    · trivial
    · trivial
    · exact shows_done ((hheld _).trans ((bind_returned (haddr _)).trans rfl)) rfl
        ⟨rfl, rfl, rfl⟩ rfl fun _ => trivial

theorem recvfrom_shows (bufsize : Int) (bufferObj : Bool) (host : HostArg) (port domain' : Int)
    (isPollFirst : Bool) :
    Shows (.recvfrom self bufsize bufferObj (some (host, port, domain')) isPollFirst t)
      (okEnv buffers) (heldLoop self domain) p.2
      ((Fetched.address host domain').andThen (.linear bufferObj bufsize buffers)) := by
  have hheld := @socketMethod_held buffers domain (heldLoop self domain) Request self t p
    (getElem?_held self _) rfl hp
  rcases address_cases host domain' with ⟨hd, h⟩ | h | ⟨hd, hh, h⟩
  · rw [h]
    exact ⟨_, (hheld _).trans (bind_failed (serializeAddress_silent hd))⟩
  · rw [h]
    trivial
  · rw [h]
    have haddr := fun l => @serializeAddress_done buffers domain' l _ port hd hh
    obtain ⟨payload, runtime, views, unassigned⟩ := buffers
    rcases payload with _ | _
    · cases bufferObj with
      | true => exact ⟨_, (hheld _).trans ((bind_returned (haddr _)).trans rfl)⟩
      | false => exact ⟨_, (hheld _).trans ((bind_returned (haddr _)).trans rfl)⟩
    cases bufferObj with
    | true =>
      rcases views with _ | _ | ⟨v, vs⟩
      · exact (hheld _).trans ((bind_returned (haddr _)).trans rfl)
      · exact (hheld _).trans ((bind_returned (haddr _)).trans rfl)
      · exact shows_done ((hheld _).trans ((bind_returned (haddr _)).trans rfl)) rfl
          ⟨rfl, rfl, rfl⟩ rfl fun _ => trivial
    | false =>
      rcases runtime with _ | n
      · exact (hheld _).trans ((bind_returned (haddr _)).trans rfl)
      · exact shows_done ((hheld _).trans ((bind_returned (haddr _)).trans rfl)) rfl
          ⟨rfl, rfl, rfl⟩ rfl fun _ => trivial

theorem sendmsg_shows (address : Option (HostArg × Int × Int)) (isPollFirst : Bool) :
    Shows (.sendmsg self address isPollFirst t) (okEnv buffers) (heldLoop self domain) p.2
      ((Fetched.target address).andThen (.vectored buffers)) := by
  have hheld := @socketMethod_held buffers domain (heldLoop self domain) Request self t p
    (getElem?_held self _) rfl hp
  have hrest : ∀ target : Option SockAddr × Nat × Option Block,
      sendmsgTarget address (okEnv buffers) (heldLoop self domain) =
        .ok (.ok target, heldLoop self domain) →
      Shows (.sendmsg self address isPollFirst t) (okEnv buffers) (heldLoop self domain) p.2
        (.vectored buffers) := by
    rintro ⟨addr, addrlen, block⟩ htarget
    obtain ⟨payload, runtime, views, unassigned⟩ := buffers
    rcases payload with _ | _
    · exact ⟨_, (hheld _).trans ((bind_returned htarget).trans rfl)⟩
    rcases views with _ | vs
    · trivial
    · exact shows_done ((hheld _).trans ((bind_returned htarget).trans rfl)) rfl
        ⟨rfl, rfl, rfl⟩ rfl fun _ => trivial
  rcases address with _ | ⟨host, port, domain'⟩
  · exact hrest _ rfl
  unfold Fetched.target
  dsimp only
  rcases address_cases host domain' with ⟨hd, h⟩ | h | ⟨hd, hh, h⟩
  · rw [h]
    exact ⟨_, (hheld _).trans (bind_failed (sendmsgTarget_silent hd))⟩
  · rw [h]
    trivial
  · rw [h]
    exact hrest _ (sendmsgTarget_done hd hh)

theorem recvmsg_shows (isPollFirst : Bool) :
    Shows (.recvmsg self true isPollFirst t) (okEnv buffers) (heldLoop self domain) p.2
      (.vectored buffers) := by
  have hheld := @socketMethod_held buffers domain (heldLoop self domain) Request self t p
    (getElem?_held self _) rfl hp
  obtain ⟨payload, runtime, views, unassigned⟩ := buffers
  rcases payload with _ | _
  · exact ⟨_, (hheld _).trans rfl⟩
  rcases views with _ | vs
  · trivial
  · exact shows_done ((hheld _).trans rfl) rfl ⟨rfl, rfl, rfl⟩ rfl fun _ => trivial

end Sockets

/-! ### The timer and the exits -/

theorem timer_shows {timerParams : Option PyVal} (h : LeftPending (.timer timerParams) e) :
    Shows (.timer timerParams) (okEnv buffers) openLoop e .done := by
  have hctx : getContext openLoop = .ok (.ok ExecutionContext.default, openLoop) := rfl
  have hshow : ∀ p, parseTimer timerParams .oneshot openLoop = .ok (.ok (p, e), openLoop) →
      Shows (.timer timerParams) (okEnv buffers) openLoop e .done := fun p hp =>
    shows_done ((bind_returned rfl).trans ((bind_returned rfl).trans ((bind_returned rfl).trans
      ((bind_returned hctx).trans ((bind_returned hp).trans rfl))))) rfl ⟨rfl, rfl, rfl⟩ rfl
      fun _ => by simp [COp.Accepts]
  rcases timerParams with _ | obj
  · obtain rfl := h
    exact hshow _ rfl
  cases obj with
  | none =>
    obtain rfl := h
    exact hshow _ rfl
  | other =>
    obtain ⟨p, hp⟩ := h
    exact absurd hp (by simp [parseTimerParams])
  | dict items =>
    obtain ⟨p, hp⟩ := h
    refine hshow p ?_
    rw [parseTimer_dict_ok hp]
    rfl

theorem fileAexit_shows (self : FileId) :
    Shows (.fileAexit self) (okEnv buffers) (heldLoop self domain) none .done := by
  have hself : selfFile self (heldLoop self domain) =
      .ok (.ok (⟨some 7, false⟩, 7), heldLoop self domain) := selfFile_held (getElem?_held self _)
  exact shows_done ((bind_returned hself).trans rfl) rfl ⟨rfl, rfl, rfl⟩ rfl fun _ => trivial

theorem socketAexit_shows (self : SocketId) :
    Shows (.socketAexit self) (okEnv buffers) (heldLoop self domain) none .done := by
  have hself : selfSocket self (heldLoop self domain) =
      .ok (.ok (⟨some 5, domain, none, false⟩, 5), heldLoop self domain) :=
    selfSocket_held (getElem?_held self _)
  exact shows_done ((bind_returned hself).trans rfl) rfl ⟨rfl, rfl, rfl⟩ rfl fun _ => trivial

theorem on_held {self : SocketId} (hs : call.onSocket = some self)
    (hl : l.sockets[self]? = some ⟨some 5, domain, none, false⟩) : call.On domain l := by
  intro self' hself sock hsock
  obtain rfl : self = self' := Option.some.inj (hs.symm.trans hself)
  exact Option.some.inj (hl.symm.trans hsock) ▸ rfl

/-- Whatever a call's parsers leave and its helpers come to, some loop shows it. -/
theorem exists_shows_unserved (call : OpCall) (buffers : BufferEnv) (domain : Int)
    (h : call.LeftPending e) :
    ∃ l, call.On domain l ∧ Shows call (okEnv buffers) l e (call.fetches false buffers domain) := by
  have hfile : call.onSocket = none → ∀ l, call.On domain l := fun hs l self hself =>
    absurd (hs.symm.trans hself) (by simp)
  have hsock : ∀ self, call.onSocket = some self → call.On domain (heldLoop self domain) :=
    fun self hs => on_held hs (getElem?_held self _)
  cases call with
  | «open» dfd path flags resolve mode t =>
    obtain ⟨p, hp⟩ := h
    exact ⟨openLoop, hfile rfl _, open_shows hp dfd path flags resolve mode⟩
  | fileAexit self =>
    obtain ⟨p, hp⟩ := h
    obtain rfl : none = e := (Prod.mk.inj (Except.ok.inj hp)).2
    exact ⟨heldLoop self domain, hfile rfl _, fileAexit_shows self⟩
  | fileClose self t =>
    obtain ⟨p, hp⟩ := h
    exact ⟨heldLoop self domain, hfile rfl _, fileOperation_shows hp rfl fun _ => trivial⟩
  | read self offset size t =>
    obtain ⟨p, hp⟩ := h
    exact ⟨heldLoop self domain, hfile rfl _, read_shows hp offset size⟩
  | readv self buffersObj offset nowait t =>
    obtain ⟨p, hp⟩ := h
    exact readv_shows hp buffersObj offset nowait
  | readvRaw self iovecs offset nowait t =>
    obtain ⟨p, hp⟩ := h
    exact ⟨heldLoop self domain, hfile rfl _, readvRaw_shows hp iovecs offset nowait⟩
  | write self offset t =>
    obtain ⟨p, hp⟩ := h
    exact ⟨heldLoop self domain, hfile rfl _, write_shows hp offset⟩
  | writev self flags offset t =>
    obtain ⟨p, hp⟩ := h
    exact ⟨heldLoop self domain, hfile rfl _, writev_shows hp flags offset⟩
  | writevRaw self iovecs flags offset t =>
    obtain ⟨p, hp⟩ := h
    exact ⟨heldLoop self domain, hfile rfl _, writevRaw_shows hp iovecs flags offset⟩
  | fsync self t | fdatasync self t | splice self src dst count offsetSrc offsetDst flag t =>
    obtain ⟨p, hp⟩ := h
    exact ⟨heldLoop self domain, hfile rfl _, fileOperation_shows hp rfl fun _ => trivial⟩
  | prepSocket domain' socktype t =>
    obtain ⟨p, hp⟩ := h
    exact ⟨openLoop, hfile rfl _, prepSocket_shows hp domain' socktype⟩
  | socketAexit self =>
    obtain ⟨p, hp⟩ := h
    obtain rfl : none = e := (Prod.mk.inj (Except.ok.inj hp)).2
    exact ⟨_, hsock self rfl, socketAexit_shows self⟩
  | bind self host parsed port t | connect self host parsed port t =>
    obtain ⟨p, hp⟩ := h
    exact ⟨_, hsock self rfl, addressedOperation_shows hp rfl fun _ _ _ => trivial⟩
  | listen self backlog t =>
    obtain ⟨p, hp⟩ := h
    exact ⟨_, hsock self rfl, listen_shows hp backlog⟩
  | accept self t =>
    obtain ⟨p, hp⟩ := h
    exact ⟨_, hsock self rfl, accept_shows hp⟩
  | socketClose self t =>
    obtain ⟨p, hp⟩ := h
    exact ⟨_, hsock self rfl, socketClose_shows hp⟩
  | send self isPollFirst t =>
    obtain ⟨p, hp⟩ := h
    exact ⟨_, hsock self rfl, send_shows hp isPollFirst⟩
  | recv self bufsize bufferObj isPollFirst t =>
    obtain ⟨p, hp⟩ := h
    exact ⟨_, hsock self rfl, recv_shows hp bufsize bufferObj isPollFirst⟩
  | sendto self host parsed port domain' isPollFirst t =>
    obtain ⟨p, hp⟩ := h
    exact ⟨_, hsock self rfl, sendto_shows hp host parsed port domain' isPollFirst⟩
  | recvfrom self bufsize bufferObj address isPollFirst t =>
    obtain ⟨p, hp⟩ := h
    rcases address with _ | ⟨host, port, domain'⟩
    · exact ⟨_, hsock self rfl, (socketMethod_held (getElem?_held self _) rfl hp _).trans rfl⟩
    · exact ⟨_, hsock self rfl, recvfrom_shows hp bufsize bufferObj host port domain' isPollFirst⟩
  | sendmsg self address isPollFirst t =>
    obtain ⟨p, hp⟩ := h
    exact ⟨_, hsock self rfl, sendmsg_shows hp address isPollFirst⟩
  | recvmsg self buffersObj isPollFirst t =>
    obtain ⟨p, hp⟩ := h
    cases buffersObj with
    | true => exact ⟨_, hsock self rfl, recvmsg_shows hp isPollFirst⟩
    | false =>
      exact ⟨_, hsock self rfl, (socketMethod_held (getElem?_held self _) rfl hp _).trans rfl⟩
  | timer timerParams => exact ⟨openLoop, hfile rfl _, timer_shows h⟩

/-- The same in a context that serves the request. -/
theorem exists_shows (call : OpCall) (served : Bool) (buffers : BufferEnv) (domain : Int)
    (h : call.LeftPending e) :
    ∃ l, call.On domain l ∧ Shows call (okEnv buffers) l e (call.fetches served buffers domain) := by
  cases served with
  | false => exact exists_shows_unserved call buffers domain h
  | true =>
    have hsock : ∀ self, call.onSocket = some self →
        call.On domain (selectingLoop self domain) := fun self hs =>
      on_held hs (getElem?_held self _)
    cases call with
    | read self offset size t =>
      obtain ⟨p, hp⟩ := h
      refine ⟨selectingLoop self domain, fun _ h => absurd h (by simp [onSocket]), ?_⟩
      exact shows_done ((fileMethod_held (getElem?_held self _) rfl hp _).trans rfl) rfl
        ⟨rfl, rfl, rfl⟩ rfl fun _ => trivial
    | readv self buffersObj offset nowait t =>
      obtain ⟨p, hp⟩ := h
      refine ⟨selectingLoop self domain, fun _ h => absurd h (by simp [onSocket]), ?_⟩
      exact shows_done ((fileMethod_held (getElem?_held self _) rfl hp _).trans rfl) rfl
        ⟨rfl, rfl, rfl⟩ rfl fun _ => trivial
    | recv self bufsize bufferObj isPollFirst t =>
      cases bufferObj with
      | true => exact exists_shows_unserved _ buffers domain h
      | false =>
        obtain ⟨p, hp⟩ := h
        refine ⟨selectingLoop self domain, hsock self rfl, ?_⟩
        exact shows_done ((socketMethod_held (getElem?_held self _) rfl hp _).trans rfl) rfl
          ⟨rfl, rfl, rfl⟩ rfl fun _ => trivial
    | recvfrom self bufsize bufferObj address isPollFirst t =>
      rcases address with _ | ⟨host, port, domain'⟩
      · exact exists_shows_unserved _ buffers domain h
      cases bufferObj with
      | true => exact exists_shows_unserved _ buffers domain h
      | false =>
        rcases address_cases host domain' with ⟨hd, hx⟩ | hx | ⟨hd, hh, hx⟩
        · obtain ⟨l, hon, hshow⟩ := exists_shows_unserved _ buffers domain h
          unfold fetches at hshow ⊢
          simp only [hx] at hshow ⊢
          exact ⟨l, hon, hshow⟩
        · obtain ⟨l, hon, hshow⟩ := exists_shows_unserved _ buffers domain h
          unfold fetches at hshow ⊢
          simp only [hx] at hshow ⊢
          exact ⟨l, hon, hshow⟩
        · obtain ⟨p, hp⟩ := h
          refine ⟨selectingLoop self domain, hsock self rfl, ?_⟩
          have haddr := fun l => @serializeAddress_done buffers domain' l _ port hd hh
          unfold fetches
          simp only [hx]
          exact shows_done ((socketMethod_held (getElem?_held self _) rfl hp _).trans
            ((bind_returned (haddr _)).trans rfl)) rfl ⟨rfl, rfl, rfl⟩ rfl fun _ => trivial
    | _ => exact exists_shows_unserved _ buffers domain h

theorem clean_of_coherent (h : call.Coherent buffers domain) : call.Clean buffers domain := by
  intro e he served
  obtain ⟨l, hon, hshow⟩ := exists_shows call served buffers domain he
  have hc := h (okEnv buffers) l rfl hon
  cases hf : call.fetches served buffers domain with
  | raises => trivial
  | silent =>
    rw [hf] at hshow
    obtain ⟨l', hp⟩ := hshow
    rw [show call.run (okEnv buffers) l = .ok (.error none, l') from bind_failed hp] at hc
    rcases hc with hn | ⟨err, herr⟩
    · exact absurd hn (by simp)
    · rw [he.unique herr]
      rfl
  | unassigned =>
    rw [hf] at hshow
    rw [show call.run (okEnv buffers) l = .error .unassigned from bind_stopped hshow] at hc
    exact hc rfl
  | done =>
    rw [hf] at hshow
    intro hs
    obtain ⟨req, l', op, heap, ha⟩ := hshow hs
    obtain ⟨sub, l1, hrun, rfl⟩ := run_of_arrived ha
    rw [hrun] at hc
    exact hc

/-- An operation returns NULL exactly with an exception, in every loop and however memory,
    the ring and its arguments turn out, if and only if it is clean. -/
theorem coherent_iff : call.Coherent buffers domain ↔ call.Clean buffers domain :=
  ⟨clean_of_coherent, coherent_of_clean⟩

end Coherence

end OpCall

end Uringio
