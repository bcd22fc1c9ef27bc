/-
  The end of an `async with` body that has raised (`_raise_file_exception_group`,
  `_raise_socket_exception_group`; the two have one text).

  The helper wraps the exception that is pending and that of the body in an ExceptionGroup.
  With a full registry nothing is pending when it is called, so only the body's exception
  is raised; and the group refuses a body exception that is not an Exception, after which
  neither is raised (`aexit_keeps_iff`).
-/
import Uringio.PyOps.Prepared

namespace Uringio

open Lib Program

/-! ## Exception objects -/

/-- The exception of the body; `isException` says that it is an instance of Exception, not
    only of BaseException. -/
structure BodyException where
  object : Nat
  isException : Bool
deriving DecidableEq, Repr

inductive ExcObject where
  | body (exc : BodyException)
  | error (e : PyErr)
deriving DecidableEq, Repr

/-- The exception that is pending at a return. -/
inductive Raised where
  | single (exc : ExcObject)
  | group (message : String) (excs : List ExcObject)
deriving DecidableEq, Repr

/-- The exception itself, or the members of the group. -/
def Raised.members : Raised → List ExcObject
  | .single exc => [exc]
  | .group _ excs => excs

/-- What the helper meets: the exception of each of its steps that fails, and whether what a
    failed call into Python raises is an instance of Exception. -/
structure GroupEnv where
  builtins : Option PyErr
  egType : Option PyErr
  excList : Option PyErr
  eg : Option PyErr
  raisedIsException : Bool
deriving DecidableEq, Repr

/-- Every step of the helper succeeds. -/
def GroupEnv.Available (g : GroupEnv) : Prop :=
  g.builtins = none ∧ g.egType = none ∧ g.excList = none ∧ g.eg = none

/-- `PyExc_Exception` is among the bases. -/
def ExcObject.isException (g : GroupEnv) : ExcObject → Bool
  | .body exc => exc.isException
  | .error e => if e.type = .raised then g.raisedIsException else true

/-- `ExceptionGroup(message, excs)`. -/
def exceptionGroup (g : GroupEnv) (message : String) (excs : List ExcObject) :
    Except PyErr Raised :=
  if excs.all (ExcObject.isException g) then
    match g.eg with
    | some e => .error e
    | none => .ok (.group message excs)
  else .error ⟨.typeError, "Cannot nest BaseExceptions in an ExceptionGroup"⟩

/-- The construction of the group in `_raise_file_exception_group`. -/
def groupWith (g : GroupEnv) (body : BodyException) (close : PyErr) : Except PyErr Raised := do
  (g.builtins.elim (.ok ()) .error : Except PyErr Unit)
  (g.egType.elim (.ok ()) .error : Except PyErr Unit)
  (g.excList.elim (.ok ()) .error : Except PyErr Unit)
  exceptionGroup g "socket close failed while handling another exception"
    [.body body, .error close]

/-- `_raise_file_exception_group` and `_raise_socket_exception_group` with what `PyErr_Fetch`
    takes: the exception that is then pending. -/
def raiseExceptionGroup (g : GroupEnv) (body : BodyException) (close : Option PyErr) : Raised :=
  match close with
  | none => .single (.body body)
  | some e =>
    match groupWith g body e with
    | .error err => .single (.error err)
    | .ok group => group

/-! ## The exit -/

/-- `submitRequest` after the registration. -/
def submitRegistered (req : Request) (index submit : Int) : PyProgram Submitted := do
  let op ← dispatchRequest req
  let seq ← look fun l => l.ring.tail
  let result ← change fun l =>
    ((op.exec l.ring index req.timeoutParams submit).1,
      { l with
        ring := (op.exec l.ring index req.timeoutParams submit).2
        heap := l.heap.freeBlock req.freeAfter })
  if result < 1 then do
    removeRequest index
    change fun l => ((), l.setClosed false req.flag)
    fail (req.error result)
  else return ⟨req.registration, index, seq, op, req.payload, req.pending⟩

theorem submitRequest_eq (req : Request) (submit : Int) :
    submitRequest req submit = registerRequest req >>= fun index =>
      submitRegistered req index submit := rfl

/-- `UringioFile_aexit` and `UringioSocket_aexit` after a body that has raised. The arguments
    are parsed before `had_exception` is known; a full registry sets no exception. -/
def aexitRaising (call : OpCall) (env : CallEnv) (g : GroupEnv) (body : BodyException) :
    Program Loop Stop Raised Submitted := do
  let req ← mapFail
    (fun e => match env.args with
      | some err => .single (.error err)
      | none => raiseExceptionGroup g body e)
    (call.prepare env)
  let index ← mapFail (fun _ => raiseExceptionGroup g body none) (registerRequest req)
  mapFail (raiseExceptionGroup g body) (submitRegistered req index env.submit)

/-- The exit raises the body's exception and the failure of the close, which is what the call
    raises after a body without an exception. -/
def AexitKeeps (call : OpCall) (env : CallEnv) (g : GroupEnv) (body : BodyException)
    (l : Loop) : Prop :=
  ∀ e l', call.run env l = .ok (.error e, l') →
    ∃ raised l'', aexitRaising call env g body l = .ok (.error raised, l'') ∧
      .body body ∈ raised.members ∧ ∃ err, e = some err ∧ .error err ∈ raised.members

/-- The close does not fail for want of an index, and the two exceptions can be grouped. -/
def AexitGroups (env : CallEnv) (g : GroupEnv) (body : BodyException) (l : Loop) : Prop :=
  env.args = none ∧ (env.future = none → ∀ r, 0 ≤ (registryAdd l.registry r).1) ∧
    g.Available ∧ body.isException ∧
    ∀ err, env.future = some err → ExcObject.isException g (.error err)

/-! ## The group -/

section Group

variable {g : GroupEnv} {body : BodyException} {e : PyErr}

theorem groupWith_of_available (hg : g.Available) (hb : body.isException)
    (he : ExcObject.isException g (.error e)) : groupWith g body e =
      .ok (.group "socket close failed while handling another exception"
        [.body body, .error e]) := by
  obtain ⟨h1, h2, h3, h4⟩ := hg
  have hall : [ExcObject.body body, .error e].all (ExcObject.isException g) = true := by
    simp [he, show ExcObject.isException g (.body body) = true from hb]
  unfold groupWith exceptionGroup
  rw [h1, h2, h3, h4, if_pos hall]
  rfl

/-- Where a step fails, or a member is refused, there is no group. -/
theorem groupWith_failed
    (h : ¬ (g.Available ∧ body.isException ∧ ExcObject.isException g (.error e))) :
    ∃ err, groupWith g body e = .error err := by
  unfold groupWith
  cases h1 : g.builtins with
  | some err => exact ⟨err, rfl⟩
  | none =>
    cases h2 : g.egType with
    | some err => exact ⟨err, rfl⟩
    | none =>
      cases h3 : g.excList with
      | some err => exact ⟨err, rfl⟩
      | none =>
        show ∃ err, exceptionGroup g _ _ = .error err
        unfold exceptionGroup
        split
        · rename_i hall
          cases h4 : g.eg with
          | some err => exact ⟨err, rfl⟩
          | none =>
            simp only [List.all_cons, List.all_nil, Bool.and_true, Bool.and_eq_true] at hall
            exact absurd ⟨⟨h1, h2, h3, h4⟩, hall.1, hall.2⟩ h
        · exact ⟨_, rfl⟩

/-- With nothing pending only the body's exception is raised. -/
theorem raise_none : raiseExceptionGroup g body none = .single (.body body) := rfl

theorem raise_of_group {group : Raised} (h : groupWith g body e = .ok group) :
    raiseExceptionGroup g body (some e) = group := by
  show (match groupWith g body e with
    | .error err => Raised.single (.error err)
    | .ok group => group) = group
  rw [h]

theorem raise_of_failed {err : PyErr} (h : groupWith g body e = .error err) :
    raiseExceptionGroup g body (some e) = .single (.error err) := by
  show (match groupWith g body e with
    | .error err => Raised.single (.error err)
    | .ok group => group) = _
  rw [h]

/-- The helper raises both exceptions exactly when they can be grouped. -/
theorem raise_members_iff :
    (.body body ∈ (raiseExceptionGroup g body (some e)).members ∧
        .error e ∈ (raiseExceptionGroup g body (some e)).members) ↔
      g.Available ∧ body.isException ∧ ExcObject.isException g (.error e) := by
  constructor
  · rintro ⟨hbody, -⟩
    by_contra h
    obtain ⟨err, he⟩ := groupWith_failed h
    rw [raise_of_failed he] at hbody
    exact absurd (List.mem_singleton.mp hbody) (by simp)
  · rintro ⟨hg, hb, he⟩
    rw [raise_of_group (groupWith_of_available hg hb he)]
    exact ⟨by simp [Raised.members], by simp [Raised.members]⟩

end Group

/-! ## How the close can fail -/

section Aexit

variable {call : OpCall} {env : CallEnv} {g : GroupEnv} {body : BodyException} {l t : Loop}

/-- The request of an exit closes a descriptor and has an exception for each failure. -/
structure ClosingRequest (req : Request) : Prop where
  dispatch : ∀ heap, ∃ op, req.dispatch heap = .ok (op, heap) ∧ op.Accepts
  error : ∀ n, n = -1 ∨ n = 0 → ∃ message, req.error n = some ⟨.runtimeError, message⟩

/-- Up to the registration an exit can fail on its arguments or for want of a future. -/
theorem exit_spec {req : FutureId → Request} (h : ∀ f, ClosingRequest (req f)) :
    Triple (fun s => s = l)
      (do
        parseArgs env
        let future ← createFuture env
        return req future)
      (fun r s => env.args = none ∧ env.future = none ∧ s.registry = l.registry ∧
        ClosingRequest r)
      (fun x _ => (∃ err, env.args = some err ∧ x = some err) ∨
        env.args = none ∧ ∃ err, env.future = some err ∧ x = some err) := by
  refine .bind (Q := fun _ s => s = l ∧ env.args = none) (.check ?_ ?_) fun _ => ?_
  · intro x s hx _
    obtain ⟨err, he, rfl⟩ := Option.map_eq_some_iff.mp hx
    exact .inl ⟨err, he, rfl⟩
  · exact fun s hx hs => ⟨hs, Option.map_eq_none_iff.mp hx⟩
  refine .bind (Q := fun _ s => env.args = none ∧ env.future = none ∧ s.registry = l.registry)
    (.bind (Q := fun _ s => (s = l ∧ env.args = none) ∧ env.future = none) (.check ?_ ?_)
      fun _ => .change ?_) fun f => .pure ?_
  · intro x s hx hs
    obtain ⟨err, he, rfl⟩ := Option.map_eq_some_iff.mp hx
    exact .inr ⟨hs.2, err, he, rfl⟩
  · exact fun s hx hs => ⟨hs, Option.map_eq_none_iff.mp hx⟩
  · rintro s ⟨⟨rfl, ha⟩, hf⟩
    exact ⟨ha, hf, rfl⟩
  · exact fun s hs => ⟨hs.1, hs.2.1, hs.2.2, h f⟩

theorem aexit_prepare (hc : call.isAexit) : Triple (fun s => s = l) (call.prepare env)
    (fun req s => env.args = none ∧ env.future = none ∧ s.registry = l.registry ∧
      ClosingRequest req)
    (fun x _ => (∃ err, env.args = some err ∧ x = some err) ∨
      env.args = none ∧ ∃ err, env.future = some err ∧ x = some err) := by
  cases call
  case fileAexit self =>
    refine .bind (Q := fun _ s => s = l) ?_ fun r => exit_spec fun f => ⟨?_, ?_⟩
    · refine .bind (Q := fun _ s => s = l) (.look fun _ hs => hs) fun x => ?_
      split
      · exact .pure fun _ hs => hs
      · exact .stop
    · exact fun heap => ⟨_, rfl, trivial⟩
    · rintro n (rfl | rfl)
      · exact ⟨_, rfl⟩
      · exact ⟨_, rfl⟩
  case socketAexit self =>
    refine .bind (Q := fun _ s => s = l) ?_ fun r => exit_spec fun f => ⟨?_, ?_⟩
    · refine .bind (Q := fun _ s => s = l) (.look fun _ hs => hs) fun x => ?_
      split
      · exact .pure fun _ hs => hs
      · exact .stop
    · exact fun heap => ⟨_, rfl, trivial⟩
    · rintro n (rfl | rfl)
      · exact ⟨_, rfl⟩
      · exact ⟨_, rfl⟩
  all_goals exact absurd hc (by simp [OpCall.isAexit])

/-- The registration fails exactly when the registry has no index. -/
theorem registerRequest_spec (reg : RequestRegistry) (req : Request) :
    Triple (fun s => s.registry = reg) (registerRequest req)
      (fun _ _ => 0 ≤ (registryAdd reg req.registration).1)
      (fun _ _ => (registryAdd reg req.registration).1 < 0) := by
  rintro s rfl
  unfold registerRequest
  cases s.ringNull with
  | true => trivial
  | false =>
    by_cases hneg : (registryAdd s.registry req.registration).1 < 0
    · simp only [Bool.false_eq_true, if_false, hneg, if_true]
    · simp only [Bool.false_eq_true, if_false, hneg]
      omega

theorem exec_result {op : COp} (ha : op.Accepts) (r : Ring) (idx : Int) (t : TimeoutParams)
    (submit : Int) (h : (op.exec r idx t submit).1 < 1) :
    (op.exec r idx t submit).1 = -1 ∨ (op.exec r idx t submit).1 = 0 := by
  have ho := op.exec_outcome ha r idx t submit
  generalize op.exec r idx t submit = out at ho h ⊢
  cases ho with
  | full _ => exact .inl rfl
  | noTimeout _ _ _ _ => exact .inl rfl
  | failed _ _ _ _ _ => exact .inr rfl
  | accepted _ _ _ _ _ _ _ _ => exact absurd h (by simp)

/-- After the registration a close fails with a RuntimeError. -/
theorem submitRegistered_spec {req : Request} (hr : ClosingRequest req) (index submit : Int) :
    Triple (fun _ => True) (submitRegistered req index submit) (fun _ _ => True)
      (fun x _ => ∃ message, x = some ⟨.runtimeError, message⟩) := by
  refine .bind (Q := fun op _ => op.Accepts) ?_ fun op => ?_
  · intro s _
    obtain ⟨op, hop, ha⟩ := hr.dispatch s.heap
    unfold dispatchRequest
    rw [hop]
    exact ha
  refine .bind (Q := fun _ _ => op.Accepts) (.look fun _ ha => ha) fun seq => ?_
  refine .bind (Q := fun n _ => n < 1 → n = -1 ∨ n = 0)
    (.change fun s ha => exec_result ha s.ring index req.timeoutParams submit) fun n => ?_
  split
  · rename_i hn
    refine .bind (Q := fun _ _ => n = -1 ∨ n = 0) ?_ fun _ =>
      .bind (Q := fun _ _ => n = -1 ∨ n = 0) (.change fun _ h => h) fun _ =>
        .fail fun _ h => hr.error n h
    intro s h
    unfold removeRequest
    split
    · rename_i hm
      split at hm
      · trivial
      · exact absurd hm (by simp)
    · exact h hn
    · rename_i hm
      split at hm
      · exact absurd hm (by simp)
      · exact absurd hm (by simp)
  · exact .pure fun _ _ => trivial

/-- The index does not depend on the request. -/
theorem registryAdd_index (reg : RequestRegistry) (a b : Registration) :
    (registryAdd reg a).1 = (registryAdd reg b).1 := by
  unfold registryAdd
  split
  · rfl
  · rfl

/-- What the property says of the one way in which the close has failed. -/
theorem aexitKeeps_iff_members {e : Option PyErr} {l' : Loop} {raised : Raised}
    (h : call.run env l = .ok (.error e, l'))
    (hr : aexitRaising call env g body l = .ok (.error raised, t)) :
    AexitKeeps call env g body l ↔
      .body body ∈ raised.members ∧ ∃ err, e = some err ∧ .error err ∈ raised.members := by
  constructor
  · intro hk
    obtain ⟨raised', l'', hr', hmem⟩ := hk e l' h
    obtain ⟨rfl, -⟩ : raised = raised' ∧ t = l'' := by
      simpa using hr.symm.trans hr'
    exact hmem
  · intro hmem e' l'' h'
    obtain ⟨rfl, -⟩ : e = e' ∧ l' = l'' := by
      simpa using h.symm.trans h'
    exact ⟨raised, t, hr, hmem⟩

/-- The failure of the close is pending when the helper is called. -/
theorem aexitKeeps_of_pending {err : PyErr} {l' : Loop}
    (h : call.run env l = .ok (.error (some err), l'))
    (hr : aexitRaising call env g body l =
      .ok (.error (raiseExceptionGroup g body (some err)), t)) :
    AexitKeeps call env g body l ↔
      g.Available ∧ body.isException ∧ ExcObject.isException g (.error err) := by
  rw [aexitKeeps_iff_members h hr, ← raise_members_iff]
  constructor
  · rintro ⟨hb, err', he, hm⟩
    obtain rfl := Option.some.inj he
    exact ⟨hb, hm⟩
  · exact fun hm => ⟨hm.1, err, rfl, hm.2⟩

/-- The exit raises both exceptions whenever its close fails exactly when an index is free
    for the close and the two exceptions can be grouped. -/
theorem aexit_keeps_iff (call : OpCall) (hc : call.isAexit) (env : CallEnv) (g : GroupEnv)
    (body : BodyException) (l : Loop) {e : Option PyErr} {l' : Loop}
    (h : call.run env l = .ok (.error e, l')) :
    AexitKeeps call env g body l ↔ AexitGroups env g body l := by
  have hprep : Triple (fun s => s = l) (call.prepare env) _ _ := aexit_prepare hc
  rcases bind_eq_ok h with ⟨x, t, hp, he⟩ | ⟨req, t, hp, hs⟩
  · obtain ⟨hx, rfl⟩ := Prod.mk.inj he
    obtain rfl := Except.error.inj hx
    rcases hprep.failed rfl hp with ⟨err, ha, rfl⟩ | ⟨ha, err, hf, rfl⟩
    · have hr : aexitRaising call env g body l = .ok (.error (.single (.error err)), l') := by
        refine bind_failed ((mapFail_failed _ hp).trans ?_)
        rw [ha]
      rw [aexitKeeps_iff_members h hr]
      refine ⟨fun hk => absurd (List.mem_singleton.mp hk.1) (by simp), fun hk => ?_⟩
      exact absurd (ha.symm.trans hk.1) (by simp)
    · have hr : aexitRaising call env g body l =
          .ok (.error (raiseExceptionGroup g body (some err)), l') := by
        refine bind_failed ((mapFail_failed _ hp).trans ?_)
        rw [ha]
      rw [aexitKeeps_of_pending h hr]
      constructor
      · rintro ⟨hg, hb, he⟩
        refine ⟨ha, fun hnone => absurd (hf.symm.trans hnone) (by simp), hg, hb, ?_⟩
        intro err' he'
        obtain rfl := Option.some.inj (hf.symm.trans he')
        exact he
      · exact fun hk => ⟨hk.2.2.1, hk.2.2.2.1, hk.2.2.2.2 err hf⟩
  · obtain ⟨ha, hf, hreg, hclose⟩ := hprep.returned rfl hp
    have hspec := registerRequest_spec l.registry req
    rw [submitRequest_eq] at hs
    have hpost : aexitRaising call env g body l =
        (mapFail (fun _ => raiseExceptionGroup g body none) (registerRequest req) >>= fun index =>
          mapFail (raiseExceptionGroup g body) (submitRegistered req index env.submit)) t :=
      bind_returned (mapFail_returned _ hp)
    rcases bind_eq_ok hs with ⟨x, t', hr, he⟩ | ⟨index, t', hr, hs⟩
    · have hfull := hspec.failed hreg hr
      have hraise : aexitRaising call env g body l = .ok (.error (.single (.body body)), t') :=
        hpost.trans (bind_failed (mapFail_failed _ hr))
      rw [aexitKeeps_iff_members h hraise]
      constructor
      · rintro ⟨-, err, -, hm⟩
        exact absurd (List.mem_singleton.mp hm) (by simp)
      · intro hk
        have := hk.2.1 hf req.registration
        omega
    · have hfree := hspec.returned hreg hr
      obtain ⟨message, rfl⟩ := (submitRegistered_spec hclose index env.submit).failed trivial hs
      have hraise := hpost.trans ((bind_returned (mapFail_returned _ hr)).trans
        (mapFail_failed _ hs))
      rw [aexitKeeps_of_pending h hraise]
      constructor
      · rintro ⟨hg, hb, -⟩
        refine ⟨ha, fun _ r => ?_, hg, hb, fun err he => absurd (hf.symm.trans he) (by simp)⟩
        rw [registryAdd_index _ r req.registration]
        exact hfree
      · exact fun hk => ⟨hk.2.2.1, hk.2.2.2.1, rfl⟩

end Aexit

/-- A loop with one open File. -/
def fileLoop (ring : Ring) (registry : RequestRegistry) : Loop :=
  { ring := ring, registry := registry, heap := ⟨[], []⟩, files := [⟨some 7, false⟩]
    sockets := [], nextFuture := 0, callLog := [], context := some .default, wakeupFd := 3
    eventfd := 0, closed := false, ringNull := false }

/-- The only index of the registry is taken. -/
def oneRequest : RequestRegistry :=
  (registryAdd (registryNew 1) ⟨0, none, .oneshot, .nop, none, none, none, none⟩).2

/-- A queue without entries. -/
def fullRing : Ring := ⟨[], 0, 0, [], []⟩

/-- Every step of the helper succeeds. -/
def GroupEnv.ok : GroupEnv := ⟨none, none, none, none, true⟩

/-- A ValueError of the body and a close that finds no SQE are raised together. -/
theorem aexit_keeps_iff_no_sqe :
    AexitKeeps (.fileAexit 0) .ok .ok ⟨1, true⟩ (fileLoop fullRing (registryNew 1)) := by
  obtain ⟨e, l', h⟩ : ∃ e l', (OpCall.fileAexit 0).run .ok (fileLoop fullRing (registryNew 1)) =
      .ok (.error e, l') := ⟨_, _, rfl⟩
  refine (aexit_keeps_iff (.fileAexit 0) rfl .ok .ok ⟨1, true⟩ _ h).mpr
    ⟨rfl, fun _ r => ?_, ⟨rfl, rfl, rfl, rfl⟩, rfl, nofun⟩
  rw [registryAdd_index _ r ⟨0, none, .oneshot, .nop, none, none, none, none⟩]
  decide

/-- With a full registry only the body's exception is raised; a KeyboardInterrupt of the
    body is replaced, together with the failure of the close, by a TypeError. -/
theorem exit_loses_exceptions :
    (¬ AexitKeeps (.fileAexit 0) .ok .ok ⟨1, true⟩ (fileLoop fullRing oneRequest) ∧
      ∃ t, aexitRaising (.fileAexit 0) .ok .ok ⟨1, true⟩ (fileLoop fullRing oneRequest) =
        .ok (.error (.single (.body ⟨1, true⟩)), t)) ∧
    ¬ AexitKeeps (.fileAexit 0) .ok .ok ⟨1, false⟩ (fileLoop fullRing (registryNew 1)) ∧
      ∃ t, aexitRaising (.fileAexit 0) .ok .ok ⟨1, false⟩ (fileLoop fullRing (registryNew 1)) =
        .ok (.error (.single (.error
          ⟨.typeError, "Cannot nest BaseExceptions in an ExceptionGroup"⟩)), t) := by
  have hfull : ∃ t, aexitRaising (.fileAexit 0) .ok .ok ⟨1, true⟩ (fileLoop fullRing oneRequest) =
      .ok (.error (.single (.body ⟨1, true⟩)), t) := ⟨_, rfl⟩
  have hbase : ∃ t, aexitRaising (.fileAexit 0) .ok .ok ⟨1, false⟩
      (fileLoop fullRing (registryNew 1)) = .ok (.error (.single (.error
        ⟨.typeError, "Cannot nest BaseExceptions in an ExceptionGroup"⟩)), t) := ⟨_, rfl⟩
  refine ⟨⟨fun hk => ?_, hfull⟩, fun hk => ?_, hbase⟩
  · obtain ⟨t, ht⟩ := hfull
    obtain ⟨e, l', h⟩ : ∃ e l', (OpCall.fileAexit 0).run .ok (fileLoop fullRing oneRequest) =
        .ok (.error e, l') := ⟨_, _, rfl⟩
    obtain ⟨-, err, -, hm⟩ := (aexitKeeps_iff_members h ht).mp hk
    exact absurd (List.mem_singleton.mp hm) (by simp)
  · obtain ⟨t, ht⟩ := hbase
    obtain ⟨e, l', h⟩ : ∃ e l', (OpCall.fileAexit 0).run .ok (fileLoop fullRing (registryNew 1)) =
        .ok (.error e, l') := ⟨_, _, rfl⟩
    have hm := ((aexitKeeps_iff_members h ht).mp hk).1
    exact absurd (List.mem_singleton.mp hm) (by simp)

end Uringio
