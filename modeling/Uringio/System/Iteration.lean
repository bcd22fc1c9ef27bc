/-
  One iteration of the loop with the exception indicator (`UringioLoop_run_once`).

  The reader calls `set_result` or `set_exception` on the future of every CQE that it
  handles and drops what the call returns; `drain_ready` does the same with `_run`. On a
  future that is done these calls raise InvalidStateError, and a handle may raise SystemExit
  or KeyboardInterrupt. Nothing looks at the indicator afterwards, and `run_once` returns
  None.

  What a call into Python leaves in the indicator when an exception was pending is up to the
  interpreter (`overwrite`); a call to `popleft` fails then.
-/
import Uringio.Loop.Init
import Uringio.Loop.Scheduling
import Uringio.System.System

namespace Uringio

/-- The loop with the Python side of an iteration. `resolved` are the futures that user code
    has cancelled or resolved, `err` is the exception indicator, and `escaped` has the
    exceptions that came out of a `_run`. -/
structure PyLoop where
  loop : Loop
  queues : Queues
  resolved : List FutureId
  err : Option PyErr
  escaped : List PyErr
deriving DecidableEq, Repr

/-- Set, cancelled, or given an exception. -/
def PyLoop.Done (s : PyLoop) (future : FutureId) : Prop :=
  future ∈ s.resolved ∨ s.loop.calls future ≠ []

instance (s : PyLoop) (future : FutureId) : Decidable (s.Done future) :=
  inferInstanceAs (Decidable (_ ∨ _))

def invalidState : PyErr := ⟨.invalidStateError, "invalid state"⟩
def noMemory : PyErr := ⟨.memoryError, ""⟩
def emptyDeque : PyErr := ⟨.raised, "pop from an empty deque"⟩

/-! ## The result of a CQE -/

/-- How a branch of the reader comes to its `result`: `continue`, NULL without an error, a
    new object, or an object that exists. -/
inductive ResultKind where
  | skipped
  | nothing
  | fresh
  | existing
deriving DecidableEq, Repr

def resultKind (env : ReadEnv) (l : Loop) (slot : RequestSlot) : ResultKind :=
  match slot.opcode with
  | .openat2 => if slot.file.isSome then .existing else .nothing
  | .socket => if slot.socket.isSome then .existing else .nothing
  | .bind | .connect | .listen | .recv => if slot.socket.isSome then .fresh else .nothing
  | .accept =>
    if slot.socket.isSome then (if env.object then .existing else .skipped) else .nothing
  | .close => if slot.socket.isSome || slot.file.isSome then .fresh else .nothing
  | .timeout => .existing
  | .read =>
    match slotPayload l slot with
    | .ok (_, b) => if b.linear.any fun linear => linear.buffer == .null then .nothing else .fresh
    | .error _ => .fresh
  | .readv | .write | .writev | .recvmsg | .send | .sendmsg | .nop | .fsync | .splice
  | .other _ => .fresh

/-- The result of a branch. -/
def ResultKind.result (kind : ResultKind) (env : ReadEnv) (r : BranchResult) : Prop :=
  match kind with
  | .skipped => r = .skip
  | .nothing => r = .value none
  | .fresh => if env.result then ∃ v, r = .value (some v) else r = .value none
  | .existing => ∃ v, r = .value (some v)

section Kinds

variable {env : ReadEnv} {l l1 : Loop} {index : Int} {slot : RequestSlot} {c : Cqe}
  {r : BranchResult}

theorem fresh_number (n : Int) : ResultKind.fresh.result env (.value (number env n)) := by
  unfold ResultKind.result number
  cases env.result with
  | true => exact ⟨_, rfl⟩
  | false => rfl

theorem fresh_bytesOf (buffer : Ptr) (res : Int) :
    ResultKind.fresh.result env (.value (bytesOf env buffer res)) := by
  unfold ResultKind.result bytesOf
  cases env.result with
  | true => exact ⟨_, rfl⟩
  | false => rfl

theorem fresh_bytesOfVector {b : BufferPayload} {res : Int} {v : Option ResultValue}
    (h : bytesOfVector env b res = .ok v) : ResultKind.fresh.result env (.value v) := by
  unfold bytesOfVector at h
  unfold ResultKind.result
  cases hr : env.result with
  | true =>
    rw [hr] at h
    obtain ⟨vec, -, h⟩ := except_bind_ok h
    cases h
    exact ⟨_, rfl⟩
  | false =>
    rw [hr] at h
    cases h
    rfl

theorem releaseFixed_cq {l2 : Loop} {p : PayloadId} {b : BufferPayload}
    (h : releaseFixed l p b = .ok l2) : l2.ring.cq = l.ring.cq := by
  unfold releaseFixed at h
  split at h
  · split at h
    · cases h
    · cases h
      rfl
  · cases h
    rfl

theorem released_cq {l2 : Loop} {p : PayloadId} {b : BufferPayload} {force : Bool}
    (h : releaseFixed l p b = .ok l2) :
    (l2.releaseSlotPayload index slot force).ring.cq = l.ring.cq := by
  show l2.ring.cq = l.ring.cq
  exact releaseFixed_cq h

theorem prepAndSubmit_cq (ring : Ring) (requestIdx : Int) (t : TimeoutParams)
    (prep : Sqe → Sqe) (submit : Int) :
    (prepAndSubmit ring requestIdx t prep submit).2.cq = ring.cq := by
  have h := prepAndSubmit_outcome ring requestIdx t prep submit
  generalize prepAndSubmit ring requestIdx t prep submit = x at h
  cases h with
  | full _ => rfl
  | noTimeout _ _ hs _ => exact hs.cq
  | failed _ _ _ hs _ => exact hs.cq
  | accepted _ _ _ _ hcq _ _ _ => exact hcq

/-- Every branch comes to its result in the way that `resultKind` says, and leaves the
    queue of CQEs. -/
theorem complete_result (h : complete env l index slot c = .ok (r, l1)) :
    (resultKind env l slot).result env r ∧ l1.ring.cq = l.ring.cq := by
  unfold complete at h
  unfold resultKind
  cases hop : slot.opcode with
  | nop | fsync | splice | other _ =>
    simp only [hop] at h
    cases h
    exact ⟨fresh_number c.res, rfl⟩
  | timeout =>
    simp only [hop] at h
    cases h
    exact ⟨⟨_, rfl⟩, rfl⟩
  | openat2 =>
    simp only [hop, completeOpenat2] at h
    cases hf : slot.file with
    | none =>
      simp only [hf] at h
      cases h
      exact ⟨rfl, rfl⟩
    | some file =>
      simp only [hf] at h
      cases h
      exact ⟨⟨_, rfl⟩, rfl⟩
  | socket =>
    simp only [hop, completeSocket] at h
    cases hf : slot.socket with
    | none =>
      simp only [hf] at h
      cases h
      exact ⟨rfl, rfl⟩
    | some sock =>
      simp only [hf] at h
      cases h
      exact ⟨⟨_, rfl⟩, rfl⟩
  | bind | connect | listen =>
    simp only [hop, completeSocketNumber] at h
    cases hf : slot.socket.isSome with
    | false =>
      simp only [hf, Bool.false_eq_true, if_false] at h
      cases h
      exact ⟨rfl, rfl⟩
    | true =>
      simp only [hf, if_true] at h
      cases h
      exact ⟨fresh_number c.res, rfl⟩
  | close =>
    simp only [hop, completeClose] at h
    cases hs : slot.socket with
    | some sock =>
      simp only [hs] at h
      cases h
      exact ⟨fresh_number c.res, rfl⟩
    | none =>
      cases hf : slot.file with
      | some file =>
        simp only [hs, hf] at h
        cases h
        exact ⟨fresh_number c.res, rfl⟩
      | none =>
        simp only [hs, hf] at h
        cases h
        exact ⟨rfl, rfl⟩
  | accept =>
    simp only [hop, completeAccept] at h
    cases hs : slot.socket with
    | none =>
      simp only [hs] at h
      cases h
      exact ⟨rfl, rfl⟩
    | some sock =>
      simp only [hs] at h
      cases ho : env.object with
      | false =>
        simp only [ho, Bool.not_false, if_true] at h
        cases h
        exact ⟨rfl, rfl⟩
      | true =>
        simp only [ho, Bool.not_true, Bool.false_eq_true, if_false] at h
        split at h
        · cases h
        · cases h
          exact ⟨⟨_, rfl⟩, rfl⟩
  | writev =>
    simp only [hop, completeWritev] at h
    split at h
    · cases h
      exact ⟨fresh_number c.res, rfl⟩
    · cases h
      exact ⟨fresh_number c.res, rfl⟩
  | write =>
    simp only [hop, completeWrite] at h
    obtain ⟨⟨p, b⟩, -, h⟩ := except_bind_ok h
    obtain ⟨l2, hl2, h⟩ := except_bind_ok h
    cases h
    exact ⟨fresh_number c.res, released_cq hl2⟩
  | readv =>
    simp only [hop, completeReadv] at h
    obtain ⟨⟨p, b⟩, -, h⟩ := except_bind_ok h
    obtain ⟨v, hv, h⟩ := except_bind_ok h
    cases h
    exact ⟨fresh_bytesOfVector hv, rfl⟩
  | read =>
    simp only [hop, completeRead] at h
    obtain ⟨⟨p, b⟩, hp, h⟩ := except_bind_ok h
    obtain ⟨linear, hl, h⟩ := except_bind_ok h
    obtain ⟨l2, hl2, h⟩ := except_bind_ok h
    cases h
    refine ⟨?_, released_cq hl2⟩
    have hlin : b.linear = some linear := by
      unfold linearOf at hl
      split at hl
      · rename_i x hx
        rw [hx, Except.ok.inj hl]
      · cases hl
    simp only [hp, hlin, Option.any_some]
    by_cases hn : linear.buffer = .null
    · rw [if_pos hn, if_pos (by simp [hn])]
      rfl
    · rw [if_neg hn, if_neg (by simp [hn])]
      exact fresh_bytesOf linear.buffer c.res
  | recv =>
    simp only [hop, completeRecv] at h
    cases hs : slot.socket.isSome with
    | false =>
      simp only [hs, Bool.false_eq_true, if_false] at h
      cases h
      exact ⟨rfl, rfl⟩
    | true =>
      simp only [hs, if_true] at h ⊢
      obtain ⟨⟨p, b⟩, -, h⟩ := except_bind_ok h
      dsimp only at h
      by_cases hz : c.res = 0
      · rw [if_pos hz] at h
        obtain ⟨v, hv, h⟩ := except_bind_ok h
        obtain ⟨l2, hl2, h⟩ := except_bind_ok h
        cases hv
        cases h
        refine ⟨?_, released_cq hl2⟩
        unfold ResultKind.result
        cases env.result with
        | true => exact ⟨_, rfl⟩
        | false => rfl
      · rw [if_neg hz] at h
        obtain ⟨linear, -, h⟩ := except_bind_ok h
        obtain ⟨v, hv, h⟩ := except_bind_ok h
        obtain ⟨l2, hl2, h⟩ := except_bind_ok h
        cases hv
        cases h
        exact ⟨fresh_bytesOf linear.buffer c.res, released_cq hl2⟩
  | send | sendmsg =>
    simp only [hop, completeSend] at h
    split at h
    · cases h
      exact ⟨fresh_number c.res, rfl⟩
    · obtain ⟨b, -, h⟩ := except_bind_ok h
      obtain ⟨l2, hl2, h⟩ := except_bind_ok h
      cases h
      exact ⟨fresh_number c.res, released_cq hl2⟩
  | recvmsg =>
    simp only [hop, completeRecvmsg] at h
    obtain ⟨⟨p, b⟩, -, h⟩ := except_bind_ok h
    obtain ⟨l2, hl2, h⟩ := except_bind_ok h
    rw [← releaseFixed_cq hl2]
    split at h
    · unfold completeRecvmsgMultishot at h
      obtain ⟨linear, -, h⟩ := except_bind_ok h
      have hres : ResultKind.fresh.result env (.value (if env.result then
          some (.message (c.flags >>> ioringCqeBufferShift) c.res) else none)) := by
        unfold ResultKind.result
        cases env.result with
        | true => exact ⟨_, rfl⟩
        | false => rfl
      dsimp only at h
      split at h
      · split at h
        · cases h
          exact ⟨hres, prepAndSubmit_cq _ _ _ _ _⟩
        · cases h
      · cases h
        exact ⟨hres, rfl⟩
    · split at h
      · obtain ⟨linear, -, h⟩ := except_bind_ok h
        cases h
        exact ⟨fresh_bytesOf linear.buffer c.res, rfl⟩
      · obtain ⟨v, hv, h⟩ := except_bind_ok h
        cases h
        exact ⟨fresh_bytesOfVector hv, rfl⟩

/-- Only the `continue` of ACCEPT skips the end of an iteration; it leaves the registry. -/
theorem complete_skipped (h : complete env l index slot c = .ok (r, l1))
    (hk : resultKind env l slot = .skipped) : l1.registry = l.registry := by
  have hr := (complete_result h).1
  rw [hk] at hr
  obtain rfl : r = .skip := hr
  unfold resultKind at hk
  cases hop : slot.opcode with
  | accept =>
    simp only [complete, hop, completeAccept] at h
    cases hs : slot.socket with
    | none =>
      simp only [hs] at h
      cases h
    | some sock =>
      simp only [hs] at h
      split at h
      · cases h
        rfl
      · split at h
        · cases h
        · cases h
  | openat2 | socket | bind | connect | listen | recv | close =>
    simp only [hop] at hk
    split at hk
    · cases hk
    · cases hk
  | read =>
    simp only [hop] at hk
    split at hk
    · split at hk
      · cases hk
      · cases hk
    · cases hk
  | timeout | readv | write | writev | recvmsg | send | sendmsg | nop | fsync | splice | other _ =>
    simp only [hop] at hk
    cases hk

end Kinds

/-! ## The reader -/

section Indicator

variable (overwrite : PyErr → Option PyErr)

namespace PyLoop

/-- The indicator after `set_result` or `set_exception`. -/
def afterCall (s : PyLoop) (future : FutureId) : Option PyErr :=
  if s.Done future then some invalidState else s.err.bind overwrite

/-- The indicator after one CQE; `PyErr_Print` clears it. -/
def errAfter (s : PyLoop) (env : ReadEnv) (c : Cqe) : Option PyErr :=
  match registryGet s.loop.registry (toInt c.userData) with
  | none => s.err
  | some slot =>
    match slot.future with
    | none => s.err
    | some future =>
      if c.res < 0 ∧ ¬ timeoutExpired slot c then
        if env.exc then s.afterCall overwrite future else none
      else if c.userData = wakeupFdTag then s.err
      else
        match resultKind env s.loop slot with
        | .skipped => none
        | .nothing => s.err
        | .fresh => if env.result then s.afterCall overwrite future else some noMemory
        | .existing => s.afterCall overwrite future

/-- One iteration of `on_uring_ready`; without a CQE the loop has ended. -/
def readNext (s : PyLoop) (env : ReadEnv) : Except Stop PyLoop :=
  match s.loop.ring.cq with
  | [] => .ok s
  | c :: _ =>
    match readCqe env s.loop c with
    | .error e => .error e
    | .ok l => .ok { s with loop := l, err := s.errAfter overwrite env c }

/-- An environment for each of `n` iterations; where none is given everything succeeds. -/
def envList : Nat → List ReadEnv → List ReadEnv
  | 0, _ => []
  | n + 1, envs => envs.headD .ok :: envList n envs.tail

/-- `on_uring_ready`. -/
def onReady (s : PyLoop) (envs : List ReadEnv) : Except Stop PyLoop :=
  Lib.run (readNext overwrite) s (envList s.loop.ring.cq.length envs)

end PyLoop

/-! ## The callbacks -/

/-- What the callbacks of the handles do: to the queues, what they raise out of `_run`, what
    they do to the loop, and the futures that they cancel or resolve. -/
structure Callbacks where
  behave : Behaviour
  raises : HandleId → Queues → Option PyErr
  outside : HandleId → Loop → Loop
  resolves : HandleId → Queues → List FutureId

/-- What one call of `run_once` meets: the result of its submission, the CQEs that arrive
    during the wait, the memory for the results, the clock, and the callbacks. -/
structure OnceArgs (T : Type) where
  submit : Int
  post : Ring → Ring
  envs : List ReadEnv
  loopTime : T
  clockRes : T
  callbacks : Callbacks

section Iteration

variable {T : Type} [LinearOrder T] {when : HandleId → T} (q : Lib.HeapQ when)

namespace PyLoop

/-- `promote_scheduled`; with an exception pending it fails to import `heapq` and returns. -/
def promote [Add T] (loopTime clockRes : T) (s : PyLoop) : PyLoop :=
  match s.err with
  | none => { s with queues := promoteScheduled q loopTime clockRes s.queues }
  | some e => { s with err := overwrite e }

/-- The iteration of `drain_ready` for a handle that was taken from the queue. -/
def turn (cb : Callbacks) (s : PyLoop) (handle : HandleId) : PyLoop :=
  if handle ∈ s.queues.cancelled then s
  else
    { s with
      loop := cb.outside handle s.loop
      queues := runHandle q cb.behave s.queues handle
      resolved := s.resolved ++ cb.resolves handle s.queues
      err := cb.raises handle s.queues
      escaped := s.escaped ++ (cb.raises handle s.queues).toList }

/-- The loop of `drain_ready`. A `popleft` that fails ends it: with an exception pending its
    handle is dropped, and on an empty deque it raises. -/
def drain (cb : Callbacks) : Nat → PyLoop → PyLoop
  | 0, s => s
  | n + 1, s =>
    match s.err, s.queues.ready with
    | some e, ready =>
      { s with queues := { s.queues with ready := ready.tail }, err := overwrite e }
    | none, [] => { s with err := some emptyDeque }
    | none, handle :: rest =>
      drain cb n (turn q cb { s with queues := { s.queues with ready := rest } } handle)

/-- What a call returns to the interpreter. -/
inductive Returned where
  | none
  | null
deriving DecidableEq, Repr

/-- The loop when `io_uring_submit_and_wait_timeout` returns. -/
def submitted (s : PyLoop) (a : OnceArgs T) : PyLoop :=
  { s with loop := { s.loop with ring := a.post (ioUringSubmit s.loop.ring a.submit).2 } }

/-- `UringioLoop_run_once`: it always returns None. -/
def runOnce [Add T] (s : PyLoop) (a : OnceArgs T) : Except Stop (Returned × PyLoop) :=
  match (s.submitted a).onReady overwrite a.envs with
  | .error e => .error e
  | .ok s =>
    let s := s.promote overwrite q a.loopTime a.clockRes
    .ok (.none, s.drain overwrite q a.callbacks s.queues.ready.length)

/-! ## What disturbs the indicator -/

/-- Handling the CQE raises nothing: it makes no call on a future that is done, and finds
    the memory for its result. A skipped CQE, which keeps its slot, is not one of a future
    that is done either. -/
def Accepts (s : PyLoop) (env : ReadEnv) (c : Cqe) : Prop :=
  match registryGet s.loop.registry (toInt c.userData) with
  | none => True
  | some slot =>
    match slot.future with
    | none => True
    | some future =>
      if c.res < 0 ∧ ¬ timeoutExpired slot c then env.exc = true → ¬ s.Done future
      else if c.userData = wakeupFdTag then True
      else
        match resultKind env s.loop slot with
        | .nothing => True
        | .fresh => env.result = true ∧ ¬ s.Done future
        | .skipped | .existing => ¬ s.Done future

instance (s : PyLoop) (env : ReadEnv) (c : Cqe) : Decidable (s.Accepts env c) :=
  match hg : registryGet s.loop.registry (toInt c.userData) with
  | none => .isTrue (by simp [Accepts, hg])
  | some slot =>
    match hf : slot.future with
    | none => .isTrue (by simp [Accepts, hg, hf])
    | some future =>
      if he : c.res < 0 ∧ ¬ timeoutExpired slot c then
        decidable_of_iff (env.exc = true → ¬ s.Done future)
          (by simp only [Accepts, hg, hf, if_pos he])
      else if hw : c.userData = wakeupFdTag then
        .isTrue (by simp only [Accepts, hg, hf, if_neg he, if_pos hw])
      else
        match hk : resultKind env s.loop slot with
        | .nothing => .isTrue (by simp only [Accepts, hg, hf, if_neg he, if_neg hw, hk])
        | .fresh => decidable_of_iff (env.result = true ∧ ¬ s.Done future)
            (by simp only [Accepts, hg, hf, if_neg he, if_neg hw, hk])
        | .skipped | .existing => decidable_of_iff (¬ s.Done future)
            (by simp only [Accepts, hg, hf, if_neg he, if_neg hw, hk])

/-- `Accepts` for the next CQE. -/
def AcceptsNext (s : PyLoop) (env : ReadEnv) : Prop :=
  ∀ c ∈ s.loop.ring.cq.head?, s.Accepts env c

instance (s : PyLoop) (env : ReadEnv) : Decidable (s.AcceptsNext env) :=
  inferInstanceAs (Decidable (∀ c ∈ s.loop.ring.cq.head?, s.Accepts env c))

theorem afterCall_iff {s : PyLoop} {future : FutureId} (hs : s.err = none) :
    s.afterCall overwrite future = none ↔ ¬ s.Done future := by
  unfold afterCall
  by_cases hd : s.Done future
  · simp [hd]
  · simp [hd, hs]

/-- The next CQE is taken from the queue, and where the future of its request is done the
    slot is freed. -/
def Consumes (s t : PyLoop) : Prop :=
  ∀ c cs, s.loop.ring.cq = c :: cs → t.loop.ring.cq = cs ∧
    ∀ slot future, s.loop.registry.liveSlot (toInt c.userData) = some slot →
      slot.future = some future → s.Done future →
      t.loop.registry.liveSlot (toInt c.userData) = none

theorem finishCqe_freed {l l1 : Loop} {index : Int} (h : finishCqe l index = .ok l1) :
    l1.registry.liveSlot index = none ∧ l1.ring.cq = l.ring.cq.tail := by
  unfold finishCqe at h
  split at h
  · cases h
  · rename_i hrem
    obtain rfl := Except.ok.inj h
    exact ⟨RequestRegistry.liveSlot_registryRemove hrem, rfl⟩

/-- Where the reader does not skip the end of the iteration, it frees the slot. -/
theorem readLive_freed {env : ReadEnv} {l l1 : Loop} {index : Int} {slot : RequestSlot}
    {future : FutureId} {c : Cqe} (h : readLive env l index slot future c = .ok l1)
    (hw : c.userData ≠ wakeupFdTag) :
    l1.ring.cq = l.ring.cq.tail ∧
      if ¬ (c.res < 0 ∧ ¬ timeoutExpired slot c) ∧ resultKind env l slot = .skipped then
        l1.registry = l.registry
      else l1.registry.liveSlot index = none := by
  unfold readLive at h
  by_cases he : c.res < 0 ∧ ¬ timeoutExpired slot c
  · rw [if_pos he] at h
    rw [if_neg (by tauto)]
    obtain ⟨hfree, hcq⟩ := finishCqe_freed h
    refine ⟨?_, hfree⟩
    cases hexc : env.exc with
    | true =>
      rw [hexc] at hcq
      exact hcq
    | false =>
      rw [hexc] at hcq
      exact hcq
  · rw [if_neg he, if_neg hw] at h
    cases hc : complete env l index slot c with
    | error e =>
      rw [hc] at h
      cases h
    | ok x =>
      obtain ⟨r, l2⟩ := x
      rw [hc] at h
      obtain ⟨hres, hcq⟩ := complete_result hc
      rw [← hcq]
      by_cases hk : resultKind env l slot = .skipped
      · have hreg := complete_skipped hc hk
        rw [hk] at hres
        obtain rfl : r = .skip := hres
        obtain rfl := Except.ok.inj h
        rw [if_pos ⟨he, hk⟩]
        exact ⟨rfl, hreg⟩
      · rw [if_neg fun h => hk h.2]
        cases r with
        | skip =>
          -- no other kind has this result
          exfalso
          unfold ResultKind.result at hres
          split at hres
          · exact hk ‹_›
          · cases hres
          · split at hres
            · obtain ⟨v, hv⟩ := hres
              cases hv
            · cases hres
          · obtain ⟨v, hv⟩ := hres
            cases hv
        | value v =>
          cases v with
          | none =>
            obtain ⟨hfree, htail⟩ := finishCqe_freed h
            exact ⟨htail, hfree⟩
          | some v =>
            obtain ⟨hfree, htail⟩ := finishCqe_freed h
            exact ⟨htail, hfree⟩

theorem liveSlot_of_registryGet {reg : RequestRegistry} {index : Int} {slot : RequestSlot}
    {future : FutureId} (hg : registryGet reg index = some slot)
    (hf : slot.future = some future) : reg.liveSlot index = some slot := by
  unfold RequestRegistry.liveSlot
  rw [hg]
  simp [hf]

/-- A CQE leaves the indicator clear and frees the slot where it has to exactly when it is
    accepted. -/
theorem readCqe_iff {s : PyLoop} {env : ReadEnv} {c : Cqe} {l : Loop} (hs : s.err = none)
    (hl : readCqe env s.loop c = .ok l) :
    l.ring.cq = s.loop.ring.cq.tail ∧
    (s.errAfter overwrite env c = none ∧
        (∀ slot future, s.loop.registry.liveSlot (toInt c.userData) = some slot →
          slot.future = some future → s.Done future →
          l.registry.liveSlot (toInt c.userData) = none) ↔
      s.Accepts env c) := by
  unfold errAfter Accepts
  cases hg : registryGet s.loop.registry (toInt c.userData) with
  | none =>
    simp only [readCqe, hg] at hl
    obtain rfl := Except.ok.inj hl
    have hnone : s.loop.registry.liveSlot (toInt c.userData) = none := by
      unfold RequestRegistry.liveSlot
      rw [hg]
      rfl
    exact ⟨rfl, by simp [hs, hnone]⟩
  | some slot =>
    cases hf : slot.future with
    | none =>
      simp only [readCqe, hg, hf] at hl
      obtain rfl := Except.ok.inj hl
      have hnone : s.loop.registry.liveSlot (toInt c.userData) = none := by
        unfold RequestRegistry.liveSlot
        rw [hg]
        simp [hf]
      exact ⟨rfl, by simp [hf, hs, hnone]⟩
    | some future =>
      simp only [readCqe, hg, hf] at hl
      have hlive := liveSlot_of_registryGet hg hf
      have hw : c.userData ≠ wakeupFdTag := ne_wakeupFdTag_of_live hlive
      obtain ⟨hcq, hfree⟩ := readLive_freed hl hw
      -- the slot and the future of the CQE are these
      have hthese : ∀ P : Prop, (∀ slot' future',
          s.loop.registry.liveSlot (toInt c.userData) = some slot' →
            slot'.future = some future' → s.Done future' → P) ↔ (s.Done future → P) := by
        intro P
        constructor
        · exact fun h => h slot future hlive hf
        · intro h slot' future' hl' hf' hd
          obtain rfl := Option.some.inj (hlive.symm.trans hl')
          obtain rfl := Option.some.inj (hf.symm.trans hf')
          exact h hd
      refine ⟨hcq, ?_⟩
      rw [hthese]
      simp only [hf]
      by_cases he : c.res < 0 ∧ ¬ timeoutExpired slot c
      · rw [if_neg (by tauto)] at hfree
        rw [if_pos he, if_pos he, hfree]
        cases env.exc with
        | false => simp
        | true => simp [afterCall_iff overwrite hs]
      · rw [if_neg he, if_neg he, if_neg hw, if_neg hw]
        cases hk : resultKind env s.loop slot with
        | skipped =>
          rw [if_pos ⟨he, hk⟩] at hfree
          rw [hfree, hlive]
          simp
        | nothing =>
          rw [if_neg (by simp [hk])] at hfree
          simp [hs, hfree]
        | existing =>
          rw [if_neg (by simp [hk])] at hfree
          simp [hfree, afterCall_iff overwrite hs]
        | fresh =>
          rw [if_neg (by simp [hk])] at hfree
          cases env.result with
          | false => simp
          | true => simp [hfree, afterCall_iff overwrite hs]

theorem readNext_iff {s t : PyLoop} {env : ReadEnv} (hs : s.err = none)
    (ht : s.readNext overwrite env = .ok t) :
    t.err = none ∧ s.Consumes t ↔ s.AcceptsNext env := by
  unfold readNext at ht
  unfold AcceptsNext Consumes
  cases hcq : s.loop.ring.cq with
  | nil =>
    simp only [hcq, Except.ok.injEq] at ht
    subst ht
    simp [hs]
  | cons c cs =>
    simp only [hcq] at ht
    split at ht
    · cases ht
    · rename_i l hl
      obtain rfl := Except.ok.inj ht
      obtain ⟨htail, hiff⟩ := readCqe_iff overwrite hs hl
      rw [hcq, List.tail_cons] at htail
      simp only [List.head?_cons, Option.mem_some_iff, forall_eq', ← hiff, List.cons.injEq]
      constructor
      · rintro ⟨herr, hc⟩
        exact ⟨herr, (hc c cs ⟨rfl, rfl⟩).2⟩
      · rintro ⟨herr, hc⟩
        refine ⟨herr, ?_⟩
        rintro _ _ ⟨rfl, rfl⟩
        exact ⟨htail, hc⟩

/-! ### The callbacks -/

theorem turn_queues (cb : Callbacks) {s : PyLoop} {handle : HandleId} {rest : List HandleId}
    (hr : s.queues.ready = handle :: rest) :
    (turn q cb { s with queues := { s.queues with ready := rest } } handle).queues =
      drainStep q cb.behave s.queues := by
  unfold turn drainStep
  rw [hr]
  dsimp only
  split
  · rfl
  · rfl

theorem drain_escaped (cb : Callbacks) (n : Nat) (s : PyLoop) :
    s.escaped <+: (drain overwrite q cb n s).escaped := by
  induction n generalizing s with
  | zero => exact List.prefix_rfl
  | succ n ih =>
    unfold drain
    split
    · exact List.prefix_rfl
    · exact List.prefix_rfl
    · refine List.IsPrefix.trans ?_ (ih _)
      unfold turn
      dsimp only
      split
      · exact List.prefix_rfl
      · exact List.prefix_append _ _

/-- The draining leaves the indicator clear, and nothing escapes, exactly when no handle
    that runs raises. -/
theorem drain_iff (cb : Callbacks) {n : Nat} {s : PyLoop} (hn : n ≤ s.queues.ready.length)
    (hs : s.err = none) :
    ((drain overwrite q cb n s).err = none ∧ (drain overwrite q cb n s).escaped = s.escaped) ↔
      ∀ x ∈ turns q cb.behave (s.queues.ready.take n) s.queues, runs x = true →
        cb.raises x.1 { x.2 with ready := x.2.ready.tail } = none := by
  induction n generalizing s with
  | zero => simp [drain, turns, hs]
  | succ n ih =>
    cases hr : s.queues.ready with
    | nil =>
      rw [hr] at hn
      exact absurd hn (by simp)
    | cons handle rest =>
      have hd : drain overwrite q cb (n + 1) s = drain overwrite q cb n
          (turn q cb { s with queues := { s.queues with ready := rest } } handle) := by
        rw [drain, hs, hr]
      have hq := turn_queues q cb hr
      have hturn : ∀ x : HandleId × Queues, x = (handle, s.queues) →
          ({ x.2 with ready := x.2.ready.tail } : Queues) = { s.queues with ready := rest } := by
        rintro x rfl
        rw [hr, List.tail_cons]
      rw [hd, List.take_succ_cons, turns, List.forall_mem_cons, hturn _ rfl]
      generalize hs1 : turn q cb { s with queues := { s.queues with ready := rest } } handle =
        s1 at hq
      have hready : n ≤ s1.queues.ready.length ∧ s1.queues.ready.take n = rest.take n := by
        obtain ⟨extra, hextra⟩ : ∃ extra, s1.queues.ready = rest ++ extra := by
          rw [hq]
          unfold drainStep
          rw [hr]
          dsimp only
          split
          · exact ⟨[], (List.append_nil _).symm⟩
          · exact ⟨_, rfl⟩
        have hle : n ≤ rest.length := by
          rw [hr, List.length_cons] at hn
          omega
        rw [hextra]
        exact ⟨by rw [List.length_append]; omega, List.take_append_of_le_length hle⟩
      by_cases hc : handle ∈ s.queues.cancelled
      · -- the turn is skipped
        have hskip : runs (handle, s.queues) = false := by simp [runs, hc]
        have h1 : s1.err = none ∧ s1.escaped = s.escaped := by
          rw [← hs1]
          unfold turn
          rw [if_pos hc]
          exact ⟨hs, rfl⟩
        have hrec := ih hready.1 h1.1
        rw [hready.2, hq, h1.2] at hrec
        rw [hrec]
        simp [hskip]
      · have hrun : runs (handle, s.queues) = true := by simp [runs, hc]
        have h1 : s1.err = cb.raises handle { s.queues with ready := rest } ∧
            s1.escaped = s.escaped ++
              (cb.raises handle { s.queues with ready := rest }).toList := by
          rw [← hs1]
          unfold turn
          rw [if_neg hc]
          exact ⟨rfl, rfl⟩
        cases hx : cb.raises handle { s.queues with ready := rest } with
        | none =>
          rw [hx] at h1
          have hrec := ih hready.1 h1.1
          rw [hready.2, hq, h1.2, Option.toList_none, List.append_nil] at hrec
          rw [hrec]
          simp
        | some e =>
          -- the exception has escaped for good
          rw [hx, Option.toList_some] at h1
          have hpre := drain_escaped overwrite q cb n s1
          rw [h1.2] at hpre
          constructor
          · rintro ⟨-, he⟩
            rw [he] at hpre
            have := hpre.length_le
            rw [List.length_append, List.length_singleton] at this
            omega
          · rintro ⟨h, -⟩
            exact absurd (h hrun) (by simp)

/-! ## One iteration -/

/-- `run_once` returns None only with nothing pending and otherwise NULL with the exception;
    every CQE is consumed and leaves the indicator clear, and what escapes a handle is what
    `run_once` returns with. -/
structure ReturnsClean [Add T] (s : PyLoop) (a : OnceArgs T) : Prop where
  cqes : Lib.Each (readNext overwrite) (fun s _ t => t.err = none ∧ s.Consumes t) (s.submitted a)
    (envList (s.submitted a).loop.ring.cq.length a.envs)
  returned : ∀ r t, s.runOnce overwrite q a = .ok (r, t) →
    (r = .none → t.err = none) ∧ (r = .null → t.err ≠ none)
  escaped : ∀ r t, s.runOnce overwrite q a = .ok (r, t) → ∀ e ∈ t.escaped,
    r = .null ∧ t.err = some e

/-- Every CQE of the iteration is accepted, and no handle that runs raises. -/
structure Undisturbed [Add T] (s : PyLoop) (a : OnceArgs T) : Prop where
  cqes : Lib.Meets (readNext overwrite) AcceptsNext (s.submitted a)
    (envList (s.submitted a).loop.ring.cq.length a.envs)
  handles : ∀ s1, (s.submitted a).onReady overwrite a.envs = .ok s1 →
    ∀ x ∈ turns q a.callbacks.behave
        (promoteScheduled q a.loopTime a.clockRes s1.queues).ready
        (promoteScheduled q a.loopTime a.clockRes s1.queues),
      runs x = true → a.callbacks.raises x.1 { x.2 with ready := x.2.ready.tail } = none

theorem readNext_escaped {s t : PyLoop} {env : ReadEnv}
    (ht : s.readNext overwrite env = .ok t) : t.escaped = s.escaped := by
  unfold readNext at ht
  split at ht
  · cases ht
    rfl
  · split at ht
    · cases ht
    · cases ht
      rfl

theorem onReady_escaped {s t : PyLoop} {envs : List ReadEnv}
    (ht : s.onReady overwrite envs = .ok t) : t.escaped = s.escaped :=
  Lib.Meets.invariant (fun u : PyLoop => u.escaped = s.escaped)
    (fun _ _ _ hu _ h => (readNext_escaped overwrite h).trans hu) Lib.meets_true rfl ht

/-- The iteration when the reader has left the indicator clear. -/
theorem runOnce_of_clear [Add T] {s s1 t : PyLoop} {a : OnceArgs T} {r : Returned}
    (h1 : (s.submitted a).onReady overwrite a.envs = .ok s1) (herr : s1.err = none)
    (ht : s.runOnce overwrite q a = .ok (r, t)) :
    r = .none ∧ s1.escaped = s.escaped ∧
      ((t.err = none ∧ t.escaped = s.escaped) ↔
        ∀ x ∈ turns q a.callbacks.behave
            (promoteScheduled q a.loopTime a.clockRes s1.queues).ready
            (promoteScheduled q a.loopTime a.clockRes s1.queues),
          runs x = true →
            a.callbacks.raises x.1 { x.2 with ready := x.2.ready.tail } = none) := by
  unfold runOnce at ht
  rw [h1] at ht
  obtain ⟨rfl, rfl⟩ := Prod.mk.inj (Except.ok.inj ht)
  have hesc : s1.escaped = s.escaped := onReady_escaped (s := s.submitted a) overwrite h1
  have hp : s1.promote overwrite q a.loopTime a.clockRes =
      { s1 with queues := promoteScheduled q a.loopTime a.clockRes s1.queues } := by
    unfold promote
    rw [herr]
  refine ⟨rfl, hesc, ?_⟩
  rw [hp]
  have hd := drain_iff overwrite q a.callbacks
    (s := { s1 with queues := promoteScheduled q a.loopTime a.clockRes s1.queues })
    (Nat.le_refl _) herr
  rw [List.take_length] at hd
  rw [← hesc]
  exact hd

/-- An iteration that returns leaves the indicator as it should exactly when nothing in it
    disturbs it, and then nothing is pending or has escaped. -/
theorem returnsClean_iff [Add T] {s t : PyLoop} {a : OnceArgs T} {r : Returned}
    (herr : s.err = none) (hesc : s.escaped = [])
    (ht : s.runOnce overwrite q a = .ok (r, t)) :
    (s.ReturnsClean overwrite q a ↔ s.Undisturbed overwrite q a) ∧
      (s.Undisturbed overwrite q a → t.err = none ∧ t.escaped = []) := by
  obtain ⟨s1, h1⟩ : ∃ s1, (s.submitted a).onReady overwrite a.envs = .ok s1 := by
    unfold runOnce at ht
    split at ht
    · cases ht
    · exact ⟨_, ‹_›⟩
  have hread : Lib.Each (readNext overwrite) (fun u _ t => t.err = none ∧ u.Consumes t)
      (s.submitted a) (envList (s.submitted a).loop.ring.cq.length a.envs) ↔
      Lib.Meets (readNext overwrite) AcceptsNext (s.submitted a)
        (envList (s.submitted a).loop.ring.cq.length a.envs) :=
    Lib.each_iff_meets (fun u : PyLoop => u.err = none) (fun _ _ _ hu hstep =>
      ⟨readNext_iff overwrite hu hstep, fun hg => ((readNext_iff overwrite hu hstep).mpr hg).1⟩)
    h1 herr
  -- the reader leaves the indicator clear
  have hclear : Lib.Meets (readNext overwrite) AcceptsNext (s.submitted a)
      (envList (s.submitted a).loop.ring.cq.length a.envs) → s1.err = none := fun hm =>
    hm.invariant (fun u : PyLoop => u.err = none)
      (fun _ _ _ hu hg hstep => ((readNext_iff overwrite hu hstep).mpr hg).1) herr h1
  refine ⟨⟨fun hc => ?_, fun hu => ?_⟩, fun hu => ?_⟩
  · have hcq := hread.mp hc.cqes
    obtain ⟨rfl, he1, hiff⟩ := runOnce_of_clear overwrite q h1 (hclear hcq) ht
    refine ⟨hcq, fun s2 h2 => ?_⟩
    rw [h1] at h2
    obtain rfl := Except.ok.inj h2
    refine hiff.mp ⟨(hc.returned _ _ ht).1 rfl, ?_⟩
    rw [hesc, List.eq_nil_iff_forall_not_mem]
    intro e hmem
    exact absurd (hc.escaped _ _ ht e hmem).1 (by simp)
  · obtain ⟨rfl, he1, hiff⟩ := runOnce_of_clear overwrite q h1 (hclear hu.cqes) ht
    obtain ⟨hnone, hsame⟩ := hiff.mpr (hu.handles s1 h1)
    refine ⟨hread.mpr hu.cqes, fun r t' ht' => ?_, fun r t' ht' e hmem => ?_⟩
    · rw [ht] at ht'
      obtain ⟨rfl, rfl⟩ := Prod.mk.inj (Except.ok.inj ht')
      exact ⟨fun _ => hnone, by simp⟩
    · rw [ht] at ht'
      obtain ⟨rfl, rfl⟩ := Prod.mk.inj (Except.ok.inj ht')
      rw [hsame, hesc] at hmem
      exact absurd hmem List.not_mem_nil
  · obtain ⟨_, _, hiff⟩ := runOnce_of_clear overwrite q h1 (hclear hu.cqes) ht
    obtain ⟨hnone, hsame⟩ := hiff.mpr (hu.handles s1 h1)
    exact ⟨hnone, hsame.trans hesc⟩

/-! ## Runs of a loop -/

/-- Between two iterations user code may do anything; it leaves no exception pending. -/
inductive LoopAct (T : Type) where
  | user (change : PyLoop → PyLoop)
  | once (a : OnceArgs T)

def step [Add T] (s : PyLoop) : LoopAct T → Except Stop PyLoop
  | .user change => .ok { change s with err := none, escaped := [] }
  | .once a => (s.runOnce overwrite q a).map Prod.snd

/-- An iteration of the run returns as it should. -/
def StepClean [Add T] (s : PyLoop) (act : LoopAct T) (_ : PyLoop) : Prop :=
  ∀ a, act = .once a → s.ReturnsClean overwrite q a

/-- Nothing disturbs an iteration of the run. -/
def StepUndisturbed [Add T] (s : PyLoop) (act : LoopAct T) : Prop :=
  ∀ a, act = .once a → s.Undisturbed overwrite q a

theorem step_clean [Add T] {s t : PyLoop} {act : LoopAct T}
    (hs : s.err = none ∧ s.escaped = []) (ht : step overwrite q s act = .ok t) :
    (s.StepClean overwrite q act t ↔ s.StepUndisturbed overwrite q act) ∧
      (s.StepUndisturbed overwrite q act → t.err = none ∧ t.escaped = []) := by
  unfold StepClean StepUndisturbed
  cases act with
  | user change =>
    obtain rfl := Except.ok.inj ht
    exact ⟨⟨fun _ a ha => by simp at ha, fun _ a ha => by simp at ha⟩, fun _ => ⟨rfl, rfl⟩⟩
  | once a =>
    change (s.runOnce overwrite q a).map Prod.snd = .ok t at ht
    cases hr : s.runOnce overwrite q a with
    | error e =>
      rw [hr] at ht
      cases ht
    | ok x =>
      obtain ⟨r, t'⟩ := x
      rw [hr] at ht
      obtain rfl : t' = t := Except.ok.inj ht
      obtain ⟨hiff, hclear⟩ := returnsClean_iff overwrite q hs.1 hs.2 hr
      simp only [LoopAct.once.injEq, forall_eq']
      exact ⟨hiff, hclear⟩

/-- In every run, whatever the interpreter does with a pending exception, all iterations
    return as they should exactly when nothing disturbs any of them. -/
theorem iterations_clean_iff [Add T] {s t : PyLoop} {acts : List (LoopAct T)}
    (herr : s.err = none) (hesc : s.escaped = [])
    (hr : Lib.run (step overwrite q) s acts = .ok t) :
    Lib.Each (step overwrite q) (StepClean overwrite q) s acts ↔
      Lib.Meets (step overwrite q) (StepUndisturbed overwrite q) s acts :=
  Lib.each_iff_meets (fun u : PyLoop => u.err = none ∧ u.escaped = [])
    (fun _ _ _ hu hstep => step_clean overwrite q hu hstep) hr ⟨herr, hesc⟩

end PyLoop

end Iteration

end Indicator

namespace PyLoop

/-- A new loop with its queues empty. -/
def newPyLoop : PyLoop := ⟨uringioLoopInit 1 .failed 3 1, ⟨[], [], [], [], []⟩, [], none, []⟩

/-- User code that calls `prep_socket`, which returns the future 0, with two handles queued. -/
def callPrepSocket (s : PyLoop) : PyLoop :=
  match (System.init s.loop).run [.call (.prepSocket 2 1 none) .ok] with
  | .ok t => { s with loop := t.loop, queues := { s.queues with ready := [4, 5] } }
  | .error _ => s

/-- An iteration in which the CQE of the socket arrives. -/
def socketArrives (raises : HandleId → Queues → Option PyErr) : OnceArgs Nat :=
  { submit := 1, post := fun r => (r.post 1 5 0).getD r, envs := [], loopTime := 3, clockRes := 1
    callbacks := ⟨fun _ _ => ⟨[], [], []⟩, raises, fun _ l => l, fun _ _ => []⟩ }

def systemError : PyErr := ⟨.raised, "returned a result with an exception set"⟩

/-- The interpreter replaces a pending exception by SystemError. -/
def replacing : PyErr → Option PyErr := fun _ => some systemError

def byNumber : Lib.HeapQ fun h : HandleId => h := Lib.sortedHeapQ _

/-- A socket that arrives and two handles that run. -/
def undisturbedRun : List (LoopAct Nat) :=
  [.user callPrepSocket, .once (socketArrives fun _ _ => none)]

theorem iterations_clean_iff_socket :
    (∃ t, Lib.run (step replacing byNumber) newPyLoop undisturbedRun = .ok t ∧
      t.queues.ran = [4, 5] ∧ t.loop.calls 0 ≠ []) ∧
    Lib.Each (step replacing byNumber) (StepClean replacing byNumber) newPyLoop
      undisturbedRun := by
  obtain ⟨t, ht, hran, hcall⟩ : ∃ t, Lib.run (step replacing byNumber) newPyLoop
      undisturbedRun = .ok t ∧ t.queues.ran = [4, 5] ∧ t.loop.calls 0 ≠ [] := by
    decide +kernel
  refine ⟨⟨t, ht, hran, hcall⟩, (iterations_clean_iff replacing byNumber rfl rfl ht).mpr ?_⟩
  refine .cons (fun a ha => by simp at ha) fun m hm => .cons (fun a ha => ?_) fun _ _ => trivial
  obtain rfl := LoopAct.once.inj ha
  obtain rfl := Except.ok.inj hm
  constructor
  case cqes => decide +kernel
  case handles => exact fun _ _ _ _ _ => rfl

/-- An iteration that returns None with an exception pending ends every run's cleanness. -/
theorem not_clean_of_pending {T : Type} [LinearOrder T] {when : HandleId → T} [Add T]
    {overwrite : PyErr → Option PyErr} {q : Lib.HeapQ when} {s m : PyLoop}
    {acts : List (LoopAct T)} {a : OnceArgs T}
    (hm : Lib.run (step overwrite q) s acts = .ok m)
    (hbad : ∃ x, m.runOnce overwrite q a = .ok x ∧ x.1 = .none ∧
      (x.2.err ≠ none ∨ x.2.escaped ≠ [])) :
    ¬ Lib.Each (step overwrite q) (StepClean overwrite q) s (acts ++ [.once a]) := by
  obtain ⟨⟨r, t⟩, hx, hr, hbad⟩ := hbad
  intro h
  have hstep : step overwrite q m (.once a) = .ok t := by
    change (m.runOnce overwrite q a).map Prod.snd = .ok t
    rw [hx]
    rfl
  have hc := h.last hm hstep a rfl
  rcases hbad with herr | hesc
  · exact herr ((hc.returned r t hx).1 hr)
  · obtain ⟨e, he⟩ := List.exists_mem_of_ne_nil _ hesc
    have hnull := (hc.escaped r t hx e he).1
    dsimp only at hr
    rw [hr] at hnull
    cases hnull

/-- User code that cancels the future 0. -/
def cancelFuture (s : PyLoop) : PyLoop := { s with resolved := 0 :: s.resolved }

def systemExit : PyErr := ⟨.raised, "SystemExit"⟩

/-- The CQE of a request whose future was cancelled: the slot is freed, the next `popleft`
    fails and its handle is lost, and `run_once` returns None with an exception pending. And a
    handle that raises SystemExit: the next `popleft` replaces the exception. -/
theorem iterations_not_clean :
    (∃ t, Lib.run (step replacing byNumber) newPyLoop [.user callPrepSocket, .user cancelFuture,
        .once (socketArrives fun _ _ => none)] = .ok t ∧
      t.err = some systemError ∧ t.loop.registry.top = 0 ∧ t.queues = ⟨[5], [], [], [], []⟩) ∧
    ¬ Lib.Each (step replacing byNumber) (StepClean replacing byNumber) newPyLoop
      [.user callPrepSocket, .user cancelFuture, .once (socketArrives fun _ _ => none)] ∧
    (∃ t, Lib.run (step replacing byNumber) newPyLoop [.user callPrepSocket,
        .once (socketArrives fun handle _ => if handle = 4 then some systemExit else none)] =
          .ok t ∧
      t.err = some systemError ∧ t.escaped = [systemExit] ∧
      t.queues = ⟨[], [], [], [], [4]⟩) ∧
    ¬ Lib.Each (step replacing byNumber) (StepClean replacing byNumber) newPyLoop
      [.user callPrepSocket,
        .once (socketArrives fun handle _ => if handle = 4 then some systemExit else none)] := by
  refine ⟨by decide +kernel, ?_, by decide +kernel, ?_⟩
  · obtain ⟨m, hm, hbad⟩ : ∃ m, Lib.run (step (T := Nat) replacing byNumber) newPyLoop
        [.user callPrepSocket, .user cancelFuture] = .ok m ∧
          ∃ x, m.runOnce replacing byNumber (socketArrives fun _ _ => none) = .ok x ∧
            x.1 = .none ∧ (x.2.err ≠ none ∨ x.2.escaped ≠ []) := by
      decide +kernel
    exact not_clean_of_pending hm hbad
  · obtain ⟨m, hm, hbad⟩ : ∃ m, Lib.run (step (T := Nat) replacing byNumber) newPyLoop
        [.user callPrepSocket] = .ok m ∧
          ∃ x, m.runOnce replacing byNumber
              (socketArrives fun handle _ => if handle = 4 then some systemExit else none) =
                .ok x ∧
            x.1 = .none ∧ (x.2.err ≠ none ∨ x.2.escaped ≠ []) := by
      decide +kernel
    exact not_clean_of_pending hm hbad

end PyLoop

end Uringio
