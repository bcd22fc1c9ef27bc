/-
  The references to the future, the File and the Socket of a request, up to what its
  submission leaves.

  Every method creates its future, and nearly always as the last step that can fail
  (`futureLast`). `open` and `prep_socket` create their object first and drop it at every
  exit, `read` and `write` drop the future when they get no payload, and an accept whose
  `malloc` fails drops nothing. `registry_add` counts one reference to each object of the
  request and `registry_remove` drops them. Here the methods note every reference that they
  count, drop or give to their caller; without the notes they are the methods of the other
  modules (`References.run_erases`).
-/
import Uringio.Lib.Noted
import Uringio.PyOps.Run
import Uringio.Registry.References

namespace Uringio

open Lib Program Noted RefEvent

/-- A method that notes its references. -/
abbrev RefProgram (α : Type) : Type :=
  Program (Noted Loop (RefEvent PyObj)) Stop (Option PyErr) α

/-! ## The methods -/

namespace References

def createFuture (env : CallEnv) : RefProgram FutureId := do
  let future ← lift (Uringio.createFuture env)
  note [.incref (.future future)]
  return future

/-- A method whose last step that can fail is `create_future`. -/
def futureLast (m : PyProgram Request) : RefProgram Request := do
  let req ← lift m
  note [.incref (.future req.registration.future)]
  return req

/-- A method that has created an object, and drops it at every exit. -/
def holding (created : Loop → PyObj) (m : RefProgram Request) : RefProgram Request := do
  let obj ← lift (look created)
  note [.incref obj]
  onFailure [.decref obj] m

/-- `Uringio_open` creates its File before it looks at its arguments. -/
def uringioOpen (dfd : Int) (path : Except PyErr String) (flags resolve mode : Int)
    (timeoutParams : Option PyVal) (env : CallEnv) : RefProgram Request := do
  lift (assertLoopIsUringio env)
  lift (assertLoopThread env)
  lift (assertRingLoopIsClosing env)
  lift (check (if env.object then none else some (some ⟨.memoryError, ""⟩)))
  holding (fun l => .file l.files.length) do
    lift (parseArgs env)
    match path with
    | .error e => fail (some e)
    | .ok path =>
      let t ← lift (parseTimeout timeoutParams)
      let future ← createFuture env
      let file ← lift (change fun l =>
        (l.files.length, { l with files := l.files ++ [⟨none, false⟩] }))
      return { fileRequest file future none .oneshot .openat2 t
        (fun heap => .ok (.openFile dfd path flags resolve mode, heap)) with error := openResult }

/-- `Uringio_prep_socket`. -/
def uringioPrepSocket (domain socktype : Int) (timeoutParams : Option PyVal) (env : CallEnv) :
    RefProgram Request := do
  lift (assertLoopIsUringio env)
  lift (assertLoopThread env)
  lift (assertRingLoopIsClosing env)
  lift (check (if env.object then none else some (some ⟨.memoryError, ""⟩)))
  holding (fun l => .socket l.sockets.length) do
    lift (parseArgs env)
    let t ← lift (parseTimeout timeoutParams)
    let future ← createFuture env
    let sock ← lift (change fun l =>
      (l.sockets.length, { l with sockets := l.sockets ++ [⟨none, domain, none, false⟩] }))
    return { socketRequest sock future none .oneshot .socket t
      (fun heap => .ok (.prepSocket domain socktype, heap)) with error := prepSocketResult }

def read (self : FileId) (offset size : Int) (timeoutParams : Option PyVal) (env : CallEnv) :
    RefProgram Request := do
  let fd ← lift (openFileMethod self env)
  let t ← lift (parseTimeout timeoutParams)
  let future ← createFuture env
  let payload ← onFailure [.decref (.future future)] (lift (linearPayload false size env))
  let context ← lift getContext
  return fileRequest self future payload context.stream .read t
    (readDispatcher fd payload context.stream size offset)

def write (self : FileId) (offset : Int) (timeoutParams : Option PyVal) (env : CallEnv) :
    RefProgram Request := do
  let fd ← lift (openFileMethod self env)
  let t ← lift (parseTimeout timeoutParams)
  let future ← createFuture env
  let payload ← onFailure [.decref (.future future)] (lift (dataPayload env))
  return fileRequest self future payload .oneshot .write t (writeDispatcher fd payload offset)

/-- `UringioSocket_accept` leaves its future when it gets no memory for the length. -/
def accept (self : SocketId) (timeoutParams : Option PyVal) (env : CallEnv) :
    RefProgram Request := do
  let (_, fd) ← lift (openSocketMethod self env)
  let t ← lift (parseTimeout timeoutParams)
  let future ← createFuture env
  match env.msghdr with
  | none => fail (some ⟨.memoryError, ""⟩)
  | some addrlen =>
    let context ← lift getContext
    let req := socketRequest self future none context.stream .accept t
      (acceptDispatcher fd context.stream env.block)
    return { req with
      registration := { req.registration with sockaddr := env.block }
      freeOnFull := some addrlen }

/-- The operation up to its submission. -/
def prepare (call : OpCall) (env : CallEnv) : RefProgram Request :=
  match call with
  | .open dfd path flags resolve mode t => uringioOpen dfd path flags resolve mode t env
  | .prepSocket domain socktype t => uringioPrepSocket domain socktype t env
  | .read self offset size t => read self offset size t env
  | .write self offset t => write self offset t env
  | .accept self t => accept self t env
  | call => futureLast (call.prepare env)

/-! ## The submission -/

/-- The object that a call has created, and still holds. -/
def created (call : OpCall) (reg : Registration) : List PyObj :=
  match call with
  | .open .. => reg.file.toList.map .file
  | .prepSocket .. => reg.socket.toList.map .socket
  | _ => []

/-- What a call holds when it got ready. -/
def held (call : OpCall) (reg : Registration) : List PyObj :=
  created call reg ++ [.future reg.future]

/-- `registry_add`; when the registry is full the call drops what it has. -/
def registerRequest (objs : List PyObj) (req : Request) : RefProgram Int := do
  let index ← onFailure (decrefs objs) (lift (Uringio.registerRequest req))
  note (increfs req.registration.references)
  return index

/-- `registry_remove`. -/
def removeRequest (index : Int) : RefProgram Unit := do
  let objs ← lift (look fun l => l.registry.dropped index)
  note (decrefs objs)
  lift (Uringio.removeRequest index)

/-- Where the C layer refuses, the call drops what it has and removes the request; else the
    caller gets the future. -/
def submitRequest (call : OpCall) (req : Request) (submit : Int) : RefProgram Submitted := do
  let index ← registerRequest (held call req.registration) req
  let op ← lift (dispatchRequest req)
  let seq ← lift (look fun l => l.ring.tail)
  let result ← lift (change fun l =>
    ((op.exec l.ring index req.timeoutParams submit).1,
      { l with
        ring := (op.exec l.ring index req.timeoutParams submit).2
        heap := l.heap.freeBlock req.freeAfter }))
  if result < 1 then do
    note (decrefs (held call req.registration))
    removeRequest index
    lift (change fun l => ((), l.setClosed false req.flag))
    fail (req.error result)
  else do
    note [.give (.future req.registration.future)]
    return ⟨req.registration, index, seq, op, req.payload, req.pending⟩

/-- The operation. -/
def run (call : OpCall) (env : CallEnv) : RefProgram Submitted := do
  let req ← prepare call env
  submitRequest call req env.submit

/-! ## Without the notes -/

section Erasure

variable {env : CallEnv}

theorem createFuture_erases : Erases (createFuture env) (Uringio.createFuture env) := by
  have h := Erases.bind (.lift (Uringio.createFuture env)) fun a =>
    Erases.note [RefEvent.incref (PyObj.future a)] (.pure (η := Option PyErr) (ε := Stop) a)
  rwa [bind_pure] at h

theorem futureLast_erases (m : PyProgram Request) : Erases (futureLast m) m := by
  have h := Erases.bind (.lift m) fun req =>
    Erases.note [RefEvent.incref (PyObj.future req.registration.future)]
      (.pure (η := Option PyErr) (ε := Stop) req)
  rwa [bind_pure] at h

theorem holding_erases {obj : Loop → PyObj} {m' : RefProgram Request} {m : PyProgram Request}
    (h : Erases m' m) : Erases (holding obj m') m :=
  .look fun _ => .note _ (.onFailure _ h)

theorem open_erases (dfd : Int) (path : Except PyErr String) (flags resolve mode : Int)
    (t : Option PyVal) :
    Erases (uringioOpen dfd path flags resolve mode t env)
      (Uringio.uringioOpen dfd path flags resolve mode t env) := by
  refine .bind (.lift _) fun _ => .bind (.lift _) fun _ => .bind (.lift _) fun _ =>
    .bind (.lift _) fun _ => holding_erases (.bind (.lift _) fun _ => ?_)
  cases path with
  | error e => exact .fail _
  | ok path =>
    exact .bind (.lift _) fun _ => .bind createFuture_erases fun _ => .bind (.lift _) fun _ =>
      .pure _

theorem prepSocket_erases (domain socktype : Int) (t : Option PyVal) :
    Erases (uringioPrepSocket domain socktype t env)
      (Uringio.uringioPrepSocket domain socktype t env) :=
  .bind (.lift _) fun _ => .bind (.lift _) fun _ => .bind (.lift _) fun _ =>
    .bind (.lift _) fun _ => holding_erases <| .bind (.lift _) fun _ => .bind (.lift _) fun _ =>
      .bind createFuture_erases fun _ => .bind (.lift _) fun _ => .pure _

theorem read_erases (self : FileId) (offset size : Int) (t : Option PyVal) :
    Erases (read self offset size t env) (UringioFile.read self offset size t env) :=
  .bind (.lift _) fun _ => .bind (.lift _) fun _ => .bind createFuture_erases fun _ =>
    .bind (.onFailure _ (.lift _)) fun _ => .bind (.lift _) fun _ => .pure _

theorem write_erases (self : FileId) (offset : Int) (t : Option PyVal) :
    Erases (write self offset t env) (UringioFile.write self offset t env) :=
  .bind (.lift _) fun _ => .bind (.lift _) fun _ => .bind createFuture_erases fun _ =>
    .bind (.onFailure _ (.lift _)) fun _ => .pure _

theorem accept_erases (self : SocketId) (t : Option PyVal) :
    Erases (accept self t env) (UringioSocket.accept self t env) := by
  refine .bind (.lift _) fun _ => .bind (.lift _) fun _ => .bind createFuture_erases fun _ => ?_
  cases env.msghdr with
  | none => exact .fail _
  | some addrlen => exact .bind (.lift _) fun _ => .pure _

theorem prepare_erases (call : OpCall) : Erases (prepare call env) (call.prepare env) := by
  unfold prepare
  split
  · exact open_erases _ _ _ _ _ _
  · exact prepSocket_erases _ _ _
  · exact read_erases _ _ _ _
  · exact write_erases _ _ _
  · exact accept_erases _ _
  · exact futureLast_erases _

theorem registerRequest_erases (objs : List PyObj) (req : Request) :
    Erases (registerRequest objs req) (Uringio.registerRequest req) := by
  have h := Erases.bind (.onFailure (decrefs objs) (.lift (Uringio.registerRequest req)))
    fun index => Erases.note (increfs req.registration.references)
      (.pure (η := Option PyErr) (ε := Stop) index)
  rwa [bind_pure] at h

theorem removeRequest_erases (index : Int) :
    Erases (removeRequest index) (Uringio.removeRequest index) :=
  .look fun _ => .note _ (.lift _)

theorem submitRequest_erases (call : OpCall) (req : Request) (submit : Int) :
    Erases (submitRequest call req submit) (Uringio.submitRequest req submit) := by
  refine .bind (registerRequest_erases _ _) fun _ => .bind (.lift _) fun _ =>
    .bind (.lift _) fun _ => .bind (.lift _) fun result => ?_
  by_cases h : result < 1
  · rw [if_pos h, if_pos h]
    exact .note _ (.bind (removeRequest_erases _) fun _ => .bind (.lift _) fun _ => .fail _)
  · rw [if_neg h, if_neg h]
    exact .note _ (.pure _)

/-- Without the notes a call is the operation of the other modules. -/
theorem run_erases (call : OpCall) : Erases (run call env) (call.run env) :=
  .bind (prepare_erases call) fun _ => submitRequest_erases _ _ _

end Erasure

/-! ## What the methods do with their references -/

section Methods

variable {env : CallEnv} {l : Loop}

theorem createFuture_notes {ws : List (RefEvent PyObj)} :
    Triple (Has ws) (createFuture env) (fun f => Has (ws ++ [.incref (.future f)]))
      (fun _ => Has ws) :=
  .bind (Has.lift _) fun _ => .bind Has.note fun _ => .pure fun _ hs => hs

/-- Nothing is left of what was noted. -/
def Dropped (s : Noted Loop (RefEvent PyObj)) : Prop := Moves 0 s.notes 0

theorem dropped_of_nil {s : Noted Loop (RefEvent PyObj)} (h : Has [] s) : Dropped s := by
  unfold Dropped
  rw [h]
  exact .nil

theorem dropped_of_pair {s : Noted Loop (RefEvent PyObj)} {o : PyObj}
    (h : Has [.incref o, .decref o] s) : Dropped s := by
  unfold Dropped
  rw [h]
  exact Moves.incref.append .decref

/-- A step that may fail, before anything is noted. -/
theorem lift_dropped {α : Type} (m : PyProgram α) :
    Triple (Has []) (lift m) (fun _ => Has []) (fun _ => Dropped) :=
  (Has.lift m).conseq (fun _ hs => hs) (fun _ _ hs => hs) fun _ _ hs => dropped_of_nil hs

/-- A step that may fail and drops then what the method has. -/
theorem onFailure_dropped {α : Type} (m : PyProgram α) (o : PyObj) :
    Triple (Has [.incref o]) (onFailure [.decref o] (lift m)) (fun _ => Has [.incref o])
      (fun _ => Dropped) :=
  (Has.onFailure (Has.lift m)).conseq (fun _ hs => hs) (fun _ _ hs => hs) fun _ _ hs =>
    dropped_of_pair hs

theorem createFuture_dropped :
    Triple (Has []) (createFuture env) (fun f => Has [.incref (.future f)]) (fun _ => Dropped) :=
  createFuture_notes.conseq (fun _ hs => hs) (fun _ _ hs => hs) fun _ _ hs => dropped_of_nil hs

theorem futureLast_notes (m : PyProgram Request) :
    Triple (Has []) (futureLast m)
      (fun req => Has [.incref (.future req.registration.future)]) (fun _ => Dropped) :=
  .bind (lift_dropped m) fun _ => .bind Has.note fun _ => .pure fun _ hs => hs

theorem read_notes (self : FileId) (offset size : Int) (t : Option PyVal) :
    Triple (Has []) (read self offset size t env)
      (fun req => Has [.incref (.future req.registration.future)]) (fun _ => Dropped) := by
  refine .bind (lift_dropped _) fun _ => .bind (lift_dropped _) fun _ =>
    .bind createFuture_dropped fun f => .bind (onFailure_dropped _ _) fun _ => ?_
  exact .bind (Has.lift_total getContext_returns) fun _ => .pure fun _ hs => hs

theorem write_notes (self : FileId) (offset : Int) (t : Option PyVal) :
    Triple (Has []) (write self offset t env)
      (fun req => Has [.incref (.future req.registration.future)]) (fun _ => Dropped) :=
  .bind (lift_dropped _) fun _ => .bind (lift_dropped _) fun _ =>
    .bind createFuture_dropped fun _ => .bind (onFailure_dropped _ _) fun _ =>
      .pure fun _ hs => hs

/-- A step that may fail, before anything is noted, from the first state. -/
theorem lift_from {α : Type} {m : PyProgram α} {E : Option PyErr → Loop → Prop}
    (h : Triple (fun s => s = l) m (fun _ s => s = l) E) :
    Triple (fun s => Has [] s ∧ s.state = l) (lift m) (fun _ s => Has [] s ∧ s.state = l)
      (fun _ => Dropped) :=
  (Has.lift_spec h).conseq (fun _ hs => hs) (fun _ _ hs => hs) fun _ _ hs => dropped_of_nil hs.1

/-- The rest of a method that holds an object fails before it notes anything else. -/
theorem holding_notes {obj : Loop → PyObj} {m : RefProgram Request}
    {Q : Request → Noted Loop (RefEvent PyObj) → Prop}
    (h : Triple (Has [.incref (obj l)]) m Q (fun _ => Has [.incref (obj l)])) :
    Triple (fun s => Has [] s ∧ s.state = l) (holding obj m) Q (fun _ => Dropped) := by
  refine .bind (Q := fun o s => Has [] s ∧ o = obj l)
    (lift_look fun s hs => ⟨hs.1, congrArg obj hs.2⟩) fun o => .given fun ho => ?_
  subst ho
  refine .bind Has.note fun _ => (Has.onFailure h).conseq (fun _ hs => hs) (fun _ _ hs => hs) ?_
  exact fun _ _ hs => dropped_of_pair hs

theorem open_notes (dfd : Int) (path : Except PyErr String) (flags resolve mode : Int)
    (t : Option PyVal) :
    Triple (fun s => Has [] s ∧ s.state = l) (uringioOpen dfd path flags resolve mode t env)
      (fun req => Has [.incref (.file l.files.length), .incref (.future req.registration.future)])
      (fun _ => Dropped) := by
  have hr : ∀ s, s = l → Refused l s := fun _ hs => refused_of_eq hs
  refine .bind (lift_from (assertLoopIsUringio_spec hr)) fun _ =>
    .bind (lift_from (assertLoopThread_spec hr)) fun _ =>
    .bind (lift_from (assertRingLoopIsClosing_spec hr)) fun _ =>
    .bind (lift_from (check_spec hr |>.conseq (fun _ hs => hs) (fun _ _ hs => hs.1)
      fun _ _ hs => hs)) fun _ => holding_notes (.bind (Has.lift _) fun _ => ?_)
  cases path with
  | error e => exact .fail fun _ hs => hs
  | ok path =>
    refine .bind (Has.lift _) fun _ => .bind createFuture_notes fun f =>
      .bind (Has.lift_total (.change fun _ _ => trivial)) fun _ => .pure fun _ hs => hs

theorem prepSocket_notes (domain socktype : Int) (t : Option PyVal) :
    Triple (fun s => Has [] s ∧ s.state = l) (uringioPrepSocket domain socktype t env)
      (fun req =>
        Has [.incref (.socket l.sockets.length), .incref (.future req.registration.future)])
      (fun _ => Dropped) := by
  have hr : ∀ s, s = l → Refused l s := fun _ hs => refused_of_eq hs
  refine .bind (lift_from (assertLoopIsUringio_spec hr)) fun _ =>
    .bind (lift_from (assertLoopThread_spec hr)) fun _ =>
    .bind (lift_from (assertRingLoopIsClosing_spec hr)) fun _ =>
    .bind (lift_from (check_spec hr |>.conseq (fun _ hs => hs) (fun _ _ hs => hs.1)
      fun _ _ hs => hs)) fun _ => holding_notes (.bind (Has.lift _) fun _ => ?_)
  exact .bind (Has.lift _) fun _ => .bind createFuture_notes fun f =>
    .bind (Has.lift_total (.change fun _ _ => trivial)) fun _ => .pure fun _ hs => hs

/-- What an accept does before its `malloc`. -/
def acceptStart (self : SocketId) (timeoutParams : Option PyVal) (env : CallEnv) :
    PyProgram FutureId := do
  let _ ← openSocketMethod self env
  let _ ← parseTimeout timeoutParams
  Uringio.createFuture env

/-- The accept has its future and gets no memory for the length. -/
def LosesFuture (call : OpCall) (env : CallEnv) (l : Loop) : Prop :=
  match call with
  | .accept self t => env.msghdr = none ∧ (acceptStart self t env).Passes l
  | _ => False

/-- What a call loses: the future of such an accept. -/
def lostByCall (call : OpCall) (env : CallEnv) (l : Loop) : Multiset PyObj :=
  match call with
  | .accept self t =>
    match env.msghdr, acceptStart self t env l with
    | none, .ok (.ok future, _) => {.future future}
    | _, _ => 0
  | _ => 0

theorem lostByCall_eq_zero_iff {call : OpCall} :
    lostByCall call env l = 0 ↔ ¬ LosesFuture call env l := by
  unfold lostByCall LosesFuture
  split
  · rename_i self t
    split
    · rename_i future l' hmsg hstart
      refine iff_of_false (Multiset.singleton_ne_zero _) fun h => h ⟨hmsg, future, l', hstart⟩
    · rename_i hnot
      refine iff_of_true rfl fun h => ?_
      obtain ⟨hmsg, future, l', hstart⟩ := h
      exact hnot _ _ hmsg hstart
  · exact iff_of_true rfl id

/-- An accept fails without its future, or with it when the `malloc` failed. -/
theorem accept_failed {self : SocketId} {t : Option PyVal} {x : Option PyErr}
    {s : Noted Loop (RefEvent PyObj)} (h : accept self t env ⟨l, []⟩ = .ok (.error x, s)) :
    Moves 0 s.notes (lostByCall (.accept self t) env l) := by
  -- An exit before the future: the start of the accept does not pass.
  have hearly : ∀ {x : Option PyErr} {l' : Loop}, acceptStart self t env l = .ok (.error x, l') →
      Has [] s → Moves 0 s.notes (lostByCall (.accept self t) env l) := by
    intro x l' hx hs
    have hzero : lostByCall (.accept self t) env l = 0 := by
      have hrej : (acceptStart self t env).Rejects l := ⟨x, l', hx⟩
      exact lostByCall_eq_zero_iff.mpr fun hloss => hrej.not_passes hloss.2
    rw [hzero]
    exact dropped_of_nil hs
  rcases bind_eq_ok h with ⟨x1, t1, h1, he⟩ | ⟨r, t1, h1, h⟩
  · obtain ⟨-, rfl⟩ := Prod.mk.inj he
    exact hearly (bind_failed ((Erases.lift _).run h1)) ((Has.lift _).failed (.start l) h1)
  have hn1 := (Has.lift _).returned (.start l) h1
  have hr1 := (Erases.lift _).run h1
  rcases bind_eq_ok h with ⟨x2, t2, h2, he⟩ | ⟨tm, t2, h2, h⟩
  · obtain ⟨-, rfl⟩ := Prod.mk.inj he
    exact hearly ((bind_returned hr1).trans (bind_failed ((Erases.lift _).run h2)))
      ((Has.lift _).failed hn1 h2)
  have hn2 := (Has.lift _).returned hn1 h2
  have hr2 := (Erases.lift _).run h2
  rcases bind_eq_ok h with ⟨x3, t3, h3, he⟩ | ⟨f, t3, h3, h⟩
  · obtain ⟨-, rfl⟩ := Prod.mk.inj he
    exact hearly ((bind_returned hr1).trans ((bind_returned hr2).trans
      (createFuture_erases.run h3))) (createFuture_notes.failed hn2 h3)
  have hn3 : Has [.incref (.future f)] t3 := createFuture_notes.returned hn2 h3
  have hstart : acceptStart self t env l = .ok (.ok f, t3.state) :=
    (bind_returned hr1).trans ((bind_returned hr2).trans (createFuture_erases.run h3))
  cases hm : env.msghdr with
  | none =>
    rw [hm] at h
    obtain ⟨-, rfl⟩ := Prod.mk.inj (Except.ok.inj h)
    unfold lostByCall
    simp only [hm, hstart]
    rw [hn3]
    exact .incref
  | some addrlen =>
    -- With the length the accept gets ready.
    rw [hm] at h
    rcases bind_eq_ok h with ⟨x4, t4, h4, -⟩ | ⟨c, t4, -, h⟩
    · have hnever : False :=
        (Has.lift_total (E := fun _ _ => False) getContext_returns).failed hn3 h4
      exact hnever.elim
    · exact absurd (Prod.mk.inj (Except.ok.inj h)).1 (by simp)

theorem accept_notes (self : SocketId) (t : Option PyVal) :
    Triple (Has []) (accept self t env)
      (fun req => Has [.incref (.future req.registration.future)]) (fun _ _ => True) := by
  refine .bind ((lift_dropped _).conseq (fun _ hs => hs) (fun _ _ hs => hs) fun _ _ _ => trivial)
    fun _ => .bind ((lift_dropped _).conseq (fun _ hs => hs) (fun _ _ hs => hs) fun _ _ _ =>
      trivial) fun _ => .bind (createFuture_dropped.conseq (fun _ hs => hs) (fun _ _ hs => hs)
        fun _ _ _ => trivial) fun f => ?_
  cases env.msghdr with
  | none => exact .fail fun _ _ => trivial
  | some addrlen =>
    exact .bind (Has.lift_total getContext_returns) fun _ => .pure fun _ hs => hs

/-- A call that gets ready has counted its new object and its future. -/
theorem prepare_returned {call : OpCall} {req : Request} {s : Noted Loop (RefEvent PyObj)}
    (hctx : ContextOk l) (h : prepare call env ⟨l, []⟩ = .ok (.ok req, s)) :
    s.notes = increfs (held call req.registration) := by
  have hplain := (prepare_erases call).run h
  obtain ⟨g, -, hp⟩ := (call.prepare_spec hctx env).returned rfl hplain
  unfold prepare at h
  unfold held created
  split at h
  · have hn := (open_notes _ _ _ _ _ _).returned ⟨Has.start l, rfl⟩ h
    rw [hp.file]
    exact hn
  · have hn := (prepSocket_notes _ _ _).returned ⟨Has.start l, rfl⟩ h
    rw [hp.socket]
    exact hn
  · exact (read_notes _ _ _ _).returned (.start l) h
  · exact (write_notes _ _ _).returned (.start l) h
  · exact (accept_notes _ _).returned (.start l) h
  · rename_i hopen hsock _ _ _
    have hn := (futureLast_notes _).returned (.start l) h
    split
    · exact absurd rfl (hopen _ _ _ _ _ _)
    · exact absurd rfl (hsock _ _ _)
    · exact hn

/-- A call that gives up has dropped what it counted and did not lose. -/
theorem prepare_failed {call : OpCall} {x : Option PyErr} {s : Noted Loop (RefEvent PyObj)}
    (h : prepare call env ⟨l, []⟩ = .ok (.error x, s)) :
    Moves 0 s.notes (lostByCall call env l) := by
  unfold prepare at h
  split at h
  · exact (open_notes _ _ _ _ _ _).failed ⟨Has.start l, rfl⟩ h
  · exact (prepSocket_notes _ _ _).failed ⟨Has.start l, rfl⟩ h
  · exact (read_notes _ _ _ _).failed (.start l) h
  · exact (write_notes _ _ _).failed (.start l) h
  · exact accept_failed h
  · rename_i hacc
    have hzero : lostByCall call env l = 0 := by
      unfold lostByCall
      split
      · exact absurd rfl (hacc _ _)
      · rfl
    rw [hzero]
    exact (futureLast_notes _).failed (.start l) h

/-- A call that gets ready loses nothing. -/
theorem lostByCall_of_passes {call : OpCall} (h : (call.prepare env).Passes l) :
    lostByCall call env l = 0 := by
  refine lostByCall_eq_zero_iff.mpr fun hloss => ?_
  unfold LosesFuture at hloss
  split at hloss
  · rename_i self t
    obtain ⟨hmsg, -⟩ := hloss
    obtain ⟨req, l', h⟩ := h
    rcases bind_eq_ok h with ⟨x, t1, -, he⟩ | ⟨r, t1, -, h⟩
    · exact absurd (Prod.mk.inj he).1 (by simp)
    rcases bind_eq_ok h with ⟨x, t2, -, he⟩ | ⟨tm, t2, -, h⟩
    · exact absurd (Prod.mk.inj he).1 (by simp)
    rcases bind_eq_ok h with ⟨x, t3, -, he⟩ | ⟨f, t3, -, h⟩
    · exact absurd (Prod.mk.inj he).1 (by simp)
    rw [hmsg] at h
    exact absurd (Prod.mk.inj (Except.ok.inj h)).1 (by simp)
  · exact hloss

end Methods

/-! ## What the submission does with them -/

section Submission

variable {call : OpCall} {req : Request} {submit : Int} {l : Loop}
  {s : Noted Loop (RefEvent PyObj)} {r : Except (Option PyErr) Submitted}
  {t : Noted Loop (RefEvent PyObj)}

/-- How a submission ends, with what it notes. -/
inductive Noting (call : OpCall) (req : Request) (s : Noted Loop (RefEvent PyObj)) :
    Except (Option PyErr) Submitted → Noted Loop (RefEvent PyObj) → Prop
  | full {e : Option PyErr} {t : Noted Loop (RefEvent PyObj)}
      (hreg : t.state.registry = s.state.registry)
      (hn : t.notes = s.notes ++ decrefs (held call req.registration)) :
      Noting call req s (.error e) t
  | rejected {e : Option PyErr} {t : Noted Loop (RefEvent PyObj)} {heap heap' : Heap}
      (htop : ¬ s.state.registry.top < 0)
      (hrem : registryRemove (registryAdd s.state.registry req.registration).2 heap
        (registryAdd s.state.registry req.registration).1 = .ok (t.state.registry, heap'))
      (hn : t.notes = s.notes ++ increfs req.registration.references ++
        decrefs (held call req.registration) ++
        decrefs ((registryAdd s.state.registry req.registration).2.dropped
          (registryAdd s.state.registry req.registration).1)) :
      Noting call req s (.error e) t
  | accepted {sub : Submitted} {t : Noted Loop (RefEvent PyObj)}
      (htop : ¬ s.state.registry.top < 0)
      (hreg : t.state.registry = (registryAdd s.state.registry req.registration).2)
      (hn : t.notes = s.notes ++ increfs req.registration.references ++
        [.give (.future req.registration.future)]) :
      Noting call req s (.ok sub) t

/-- The registration: the registry is full, or the request has its index. -/
theorem registerRequest_registry {reg : RequestRegistry} (hv : reg.Sound) :
    Triple (fun l => l.registry = reg) (Uringio.registerRequest req)
      (fun index l => ¬ reg.top < 0 ∧ l.registry = (registryAdd reg req.registration).2 ∧
        index = (registryAdd reg req.registration).1)
      (fun _ l => l.registry = reg) := by
  rintro l rfl
  cases h : Uringio.registerRequest req l with
  | error e => trivial
  | ok r =>
    rcases registerRequest_cases h hv with ⟨-, e, heap, rfl, -⟩ | ⟨htop, rfl⟩
    · rfl
    · exact ⟨htop, Loop.setClosed_registry, rfl⟩

/-- The dispatcher leaves the registry. -/
theorem dispatchRequest_registry {reg : RequestRegistry} :
    Triple (fun l => l.registry = reg) (dispatchRequest req) (fun _ l => l.registry = reg)
      (fun _ _ => False) := by
  rintro l rfl
  unfold dispatchRequest
  cases req.dispatch l.heap with
  | error e => trivial
  | ok r => rfl

theorem removeRequest_registry {reg : RequestRegistry} {index : Int} :
    Triple (fun l => l.registry = reg) (Uringio.removeRequest index)
      (fun _ l => ∃ heap heap', registryRemove reg heap index = .ok (l.registry, heap'))
      (fun _ _ => False) := by
  rintro l rfl
  unfold Uringio.removeRequest
  cases h : registryRemove l.registry l.heap index with
  | error e => trivial
  | ok r => exact ⟨l.heap, r.2, h⟩

theorem registerRequest_notes {ws : List (RefEvent PyObj)} {objs : List PyObj}
    {reg : RequestRegistry} (hv : reg.Sound) :
    Triple (fun u => Has ws u ∧ u.state.registry = reg) (registerRequest objs req)
      (fun index u => (Has (ws ++ increfs req.registration.references) u ∧
        u.state.registry = (registryAdd reg req.registration).2) ∧
        ¬ reg.top < 0 ∧ index = (registryAdd reg req.registration).1)
      (fun _ u => Has (ws ++ decrefs objs) u ∧ u.state.registry = reg) := by
  refine .bind (Has.onFailure_spec (Has.lift_spec (registerRequest_registry hv))) fun index => ?_
  refine .bind (Has.note_spec (P := fun l : Loop => ¬ reg.top < 0 ∧
    l.registry = (registryAdd reg req.registration).2 ∧
    index = (registryAdd reg req.registration).1)) fun _ => .pure fun u hu => ?_
  exact ⟨⟨hu.1, hu.2.2.1⟩, hu.2.1, hu.2.2.2⟩

theorem removeRequest_notes {ws : List (RefEvent PyObj)} {reg : RequestRegistry} {index : Int}
    {E : Option PyErr → Noted Loop (RefEvent PyObj) → Prop} :
    Triple (fun u => Has ws u ∧ u.state.registry = reg) (removeRequest index)
      (fun _ u => Has (ws ++ decrefs (reg.dropped index)) u ∧
        ∃ heap heap', registryRemove reg heap index = .ok (u.state.registry, heap')) E := by
  refine .bind (Q := fun objs u => (Has ws u ∧ u.state.registry = reg) ∧ objs = reg.dropped index)
    (lift_look fun u hu => ⟨hu, by rw [hu.2]⟩) fun objs => .given fun hobjs => ?_
  subst hobjs
  refine .bind (Has.note_spec (P := fun l : Loop => l.registry = reg)) fun _ => ?_
  exact (Has.lift_spec removeRequest_registry).conseq (fun _ hs => hs) (fun _ _ hs => hs)
    fun _ _ hs => hs.2.elim

theorem submitRequest_noting (hv : s.state.registry.Sound)
    (h : submitRequest call req submit s = .ok (r, t)) : Noting call req s r t := by
  have hspec : Triple (fun u => Has s.notes u ∧ u.state.registry = s.state.registry)
      (submitRequest call req submit) (fun sub t => Noting call req s (.ok sub) t)
      (fun e t => Noting call req s (.error e) t) := by
    refine .bind ((registerRequest_notes hv).conseq (fun _ hu => hu) (fun _ _ hu => hu)
      fun _ u hu => .full hu.2 hu.1) fun index => .given fun ⟨htop, hindex⟩ => ?_
    subst hindex
    generalize hreg : (registryAdd s.state.registry req.registration).2 = reg
    refine .bind ((Has.lift_spec dispatchRequest_registry).conseq (fun _ hu => hu)
      (fun _ _ hu => hu) fun _ _ hu => hu.2.elim) fun op => ?_
    refine .bind (Q := fun _ u => Has (s.notes ++ increfs req.registration.references) u ∧
      u.state.registry = reg) (lift_look fun _ hu => hu) fun seq => ?_
    refine .bind ((Has.lift_spec (Q := fun _ l => l.registry = reg) (E := fun _ _ => False)
      (.change fun _ hl => hl)).conseq (fun _ hu => hu) (fun _ _ hu => hu)
      fun _ _ hu => hu.2.elim) fun n => ?_
    by_cases hn : n < 1
    · rw [if_pos hn]
      refine .bind (Has.note_spec (P := fun l : Loop => l.registry = reg)) fun _ => ?_
      refine .bind removeRequest_notes fun _ => ?_
      have hclosed : Triple (fun l : Loop => ∃ heap heap', registryRemove reg heap
          (registryAdd s.state.registry req.registration).1 = .ok (l.registry, heap'))
          (change fun l => ((), l.setClosed false req.flag) : PyProgram Unit)
          (fun _ l => ∃ heap heap', registryRemove reg heap
            (registryAdd s.state.registry req.registration).1 = .ok (l.registry, heap'))
          (fun _ _ => False) := by
        refine .change fun l hl => ?_
        rw [Loop.setClosed_registry]
        exact hl
      refine .bind ((Has.lift_spec hclosed).conseq (fun _ hu => hu) (fun _ _ hu => hu)
        fun _ _ hu => hu.2.elim) fun _ => .fail fun u hu => ?_
      obtain ⟨hnotes, heap, heap', hrem⟩ := hu
      exact .rejected htop (hreg ▸ hrem) (hreg ▸ hnotes)
    · rw [if_neg hn]
      refine .bind (Has.note_spec (P := fun l : Loop => l.registry = reg)) fun _ => .pure fun u hu => ?_
      exact .accepted htop (hu.2.trans hreg.symm) hu.1
  cases r with
  | error e => exact hspec.failed ⟨rfl, rfl⟩ h
  | ok sub => exact hspec.returned ⟨rfl, rfl⟩ h

/-- The references of an accepted request. -/
theorem owned_slot {g : Grown} (hp : Prepared call l g req) (index : Int) :
    (req.registration.slot index).owned =
      ↑(created call req.registration) + ↑req.registration.references := by
  have hop : (req.registration.slot index).opcode = call.opcode := hp.opcode
  unfold RequestSlot.owned RequestSlot.created
  rw [hop]
  cases call <;> rfl

/-- A full registry: the call drops what it had. -/
theorem full_moves (reg : Registration) :
    Moves 0 (increfs (held call reg) ++ decrefs (held call reg)) 0 :=
  Moves.increfs.append .decrefs

/-- A refused submission: everything that was counted is dropped. -/
theorem rejected_moves (reg : Registration) :
    Moves 0 (increfs (held call reg) ++ increfs reg.references ++ decrefs (held call reg) ++
      decrefs reg.references) 0 := by
  have hcount : Moves ↑(held call reg) (increfs reg.references)
      (↑(held call reg) + (↑reg.references : Multiset PyObj)) :=
    (Moves.increfs.frame ↑(held call reg)).of_eq (Multiset.zero_add _).symm (Multiset.add_comm _ _)
  have hdrop : Moves ((↑(held call reg) : Multiset PyObj) + (↑reg.references : Multiset PyObj))
      (decrefs (held call reg)) ↑reg.references :=
    (Moves.decrefs.frame (↑reg.references : Multiset PyObj)).of_eq rfl (Multiset.zero_add _).symm
  exact ((Moves.increfs.append hcount).append hdrop).append .decrefs

/-- An accepted request: its slot has its references, and the caller has the future. -/
theorem accepted_moves (reg : Registration) :
    Moves 0 (increfs (held call reg) ++ increfs reg.references ++ [.give (.future reg.future)])
      (↑(created call reg) + ↑reg.references) := by
  have hcount : Moves ↑(held call reg) (increfs reg.references)
      ({PyObj.future reg.future} + (↑(created call reg) + (↑reg.references : Multiset PyObj))) := by
    refine (Moves.increfs.frame ↑(held call reg)).of_eq (Multiset.zero_add _).symm ?_
    unfold held
    rw [← Multiset.coe_add, Multiset.coe_singleton]
    ac_rfl
  have hgive := (Moves.give (o := PyObj.future reg.future)).frame
    (↑(created call reg) + (↑reg.references : Multiset PyObj))
  exact (Moves.increfs.append hcount).append (hgive.of_eq rfl (Multiset.zero_add _).symm)

/-- What the library held for its requests, it holds for them after a call, but for what the
    call loses. -/
theorem run_moves {env : CallEnv} (hctx : ContextOk l) (hs : l.registry.Sound)
    (hb : l.registry.Bare) (h : run call env ⟨l, []⟩ = .ok (r, t)) :
    t.state.registry.Bare ∧
      Moves l.registry.owned t.notes (t.state.registry.owned + lostByCall call env l) := by
  rcases bind_eq_ok h with ⟨x, u, hprep, he⟩ | ⟨req, u, hprep, hsub⟩
  · obtain ⟨-, rfl⟩ := Prod.mk.inj he
    obtain ⟨g, hg, -⟩ :=
      (call.prepare_spec hctx env).failed rfl ((prepare_erases call).run hprep)
    have hreg : t.state.registry = l.registry := by rw [hg]; rfl
    refine ⟨hreg ▸ hb, ((prepare_failed hprep).frame l.registry.owned).of_eq
      (Multiset.zero_add _).symm ?_⟩
    rw [hreg, Multiset.add_comm]
  have hplain := (prepare_erases call).run hprep
  obtain ⟨g, hg, hp⟩ := (call.prepare_spec hctx env).returned rfl hplain
  have hreg : u.state.registry = l.registry := by rw [hg]; rfl
  have hnotes := prepare_returned hctx hprep
  rw [lostByCall_of_passes ⟨req, u.state, hplain⟩, Multiset.add_zero]
  have hnoting := submitRequest_noting (hreg ▸ hs) hsub
  cases hnoting with
  | full hsame hn =>
    rw [hreg] at hsame
    rw [hsame, hn, hnotes]
    exact ⟨hb, ((full_moves req.registration).frame l.registry.owned).of_eq
      (Multiset.zero_add _).symm (Multiset.zero_add _).symm⟩
  | rejected htop hrem hn =>
    rw [hreg] at htop hrem hn
    have hv := hs.valid_of_room htop
    obtain ⟨hbare, howned, hdropped, hcreated⟩ := hb.add hv req.registration htop
    obtain ⟨hbare', -, hremoved, -⟩ :=
      hbare.remove (RequestRegistry.Sound.covered (.inl (hv.add req.registration htop).1)) hrem
    rw [howned, hcreated, hdropped] at hremoved
    have hsame : t.state.registry.owned = l.registry.owned := add_right_cancel hremoved
    refine ⟨hbare', ?_⟩
    rw [hn, hnotes, hdropped, hsame]
    exact ((rejected_moves req.registration).frame l.registry.owned).of_eq
      (Multiset.zero_add _).symm (Multiset.zero_add _).symm
  | accepted htop hsame hn =>
    rw [hreg] at htop hsame
    obtain ⟨hbare, howned, -⟩ := hb.add (hs.valid_of_room htop) req.registration htop
    refine ⟨hsame ▸ hbare, ?_⟩
    rw [hsame, howned, hn, hnotes, owned_slot hp]
    exact ((accepted_moves req.registration).frame l.registry.owned).of_eq
      (Multiset.zero_add _).symm (Multiset.add_comm _ _)

end Submission

end References

end Uringio
