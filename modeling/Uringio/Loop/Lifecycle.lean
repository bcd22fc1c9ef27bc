/-
  The life of a loop object: `UringioLoop_new`, `UringioLoop_init`, `UringioLoop_clear`,
  `UringioLoop_close` and `UringioLoop_dealloc` (`src/python_api/loop/loop.c`), with what
  `ring_init`, `set_signals_handler`, `graceful_shutdown` and `ring_destroy` take and give back.

  A resource is named by its kind and by the number of the call that took it; a release of
  what is not held ends the run. The reference to the context variable is the subject of
  `Contexts/Variable.lean`.
-/
import Mathlib.Algebra.Order.Group.Multiset
import Mathlib.Tactic.Abel
import Uringio.Lib.Machine
import Uringio.Lib.Program
import Uringio.Types

namespace Uringio

open Lib Program

/-! ## State -/

/-- What a loop object takes: the registry, the block for the ring, the ring itself, the two ends
    of the signal pipe, the block with its descriptor, the dicts, and the eventfd. -/
inductive LoopResource where
  | registry
  | ringBlock
  | ring
  | signalPipe
  | signalsData
  | readers
  | writers
  | eventfd
deriving DecidableEq, Repr

/-- The field `wakeup_fd`: zero as `tp_alloc` leaves it, -1, or a descriptor. -/
inductive WakeupFd where
  | zero
  | closed
  | eventfd (call : Nat)
deriving DecidableEq, Repr

/-- The fields of a loop object. `queue` is the ring that `ring_init` has set up in the block,
    and `threadKnown` says that `loop_tid` is assigned. -/
structure LoopFields where
  ring : Option Nat
  queue : Option Nat
  registry : Option Nat
  wakeupFd : WakeupFd
  readers : Option Nat
  writers : Option Nat
  threadKnown : Bool
deriving DecidableEq, Repr

/-- The number of the call, what is held, and the object if there is one. -/
structure LoopLife where
  call : Nat
  held : Multiset (LoopResource × Nat)
  fields : Option LoopFields
deriving DecidableEq

/-- How a method may end the process: it reads through the pointers of a ring that was not set
    up, or gives back what is not held. `stuck` is a call without an object. -/
inductive LifeStop where
  | segv
  | notHeld
  | stuck
deriving DecidableEq, Repr

abbrev LifeProgram (α : Type) : Type := Lib.Program LoopLife LifeStop PyErr α

namespace LoopLife

/-- An attempt to take a resource. -/
def acquire (r : LoopResource) (granted : Bool) : LifeProgram (Option Nat) :=
  change fun s =>
    if granted then (some s.call, { s with held := (r, s.call) ::ₘ s.held }) else (none, s)

/-- A release; NULL is not released. -/
def release (r : LoopResource) (n : Option Nat) : LifeProgram Unit := fun s =>
  match n with
  | none => .ok (.ok (), s)
  | some n =>
    if (r, n) ∈ s.held then .ok (.ok (), { s with held := s.held.erase (r, n) })
    else .error .notHeld

def self : LifeProgram LoopFields := do
  match ← look LoopLife.fields with
  | some fields => return fields
  | none => stop .stuck

def assign (fields : LoopFields) : LifeProgram Unit :=
  change fun s => ((), { s with fields := some fields })

end LoopLife

/-! ## The methods -/

def noMemoryError : PyErr := ⟨.memoryError, ""⟩

/-- What decides in `UringioLoop_new`: the arguments, and the memory for the registry, the
    object and the ring. -/
structure NewEnv where
  args : Option PyErr
  registry : Bool
  object : Bool
  ringBlock : Bool
deriving DecidableEq, Repr

/-- What decides in `UringioLoop_init`: the `__init__` of the base class, the kernel, the signal
    module, the memory, and `ContextVar_init`. -/
structure LoopInitEnv where
  base : Option PyErr
  ring : Bool
  pipe : Bool
  signal : Bool
  signalsData : Bool
  readers : Bool
  writers : Bool
  eventfd : Bool
  context : Bool
deriving DecidableEq, Repr

/-- What decides in a close: the thread, the `close` of the base class, and whether
    `ring_destroy` gets an SQE and submits it. -/
structure CloseEnv where
  onThread : Bool
  base : Option PyErr
  space : Bool
  submit : Int
deriving DecidableEq, Repr

/-- `ring_destroy` comes to `io_uring_queue_exit`. -/
def CloseEnv.exits (env : CloseEnv) : Bool := env.space && !(env.submit < 0)

namespace UringioLoop

open LoopLife

def new (env : NewEnv) : LifeProgram Unit := do
  check env.args
  let registry ← acquire .registry env.registry
  match registry with
  | none => fail noMemoryError
  | some _ =>
    if env.object then do
      let ring ← acquire .ringBlock env.ringBlock
      match ring with
      | none => do
        release .registry registry
        fail noMemoryError
      | some _ =>
        assign
          { ring := ring, queue := none, registry := registry, wakeupFd := .zero
            readers := none, writers := none, threadKnown := false }
    else do
      release .registry registry
      fail noMemoryError

/-- `set_signals_handler`; nothing keeps the pipe or the pointer to its data. -/
def setSignalsHandler (env : LoopInitEnv) : LifeProgram Unit := do
  let _ ← acquire .signalPipe env.pipe
  if env.signal then do
    let _ ← acquire .signalsData env.signalsData
    return ()
  else return ()

/-- `UringioLoop_init`. `io_uring_queue_init` clears the block before anything else. -/
def init (env : LoopInitEnv) : LifeProgram Unit := do
  let fields ← self
  check env.base
  match fields.ring with
  | none => stop .segv
  | some _ => do
    let queue ← acquire .ring env.ring
    let fields := { fields with queue := queue }
    assign fields
    match queue with
    | none => fail ⟨.osError, ""⟩
    | some _ => do
      setSignalsHandler env
      let readers ← acquire .readers env.readers
      let writers ← acquire .writers env.writers
      let wakeup ← acquire .eventfd env.eventfd
      let fields := { fields with readers := readers, writers := writers }
      match wakeup with
      | none => do
        assign { fields with wakeupFd := .closed }
        fail ⟨.osError, ""⟩
      | some n => do
        assign { fields with wakeupFd := .eventfd n, threadKnown := true }
        check (if env.context then none
          else some ⟨.runtimeError, "Failed to register required contextvar"⟩)

/-- `UringioLoop_clear`. -/
def clear : LifeProgram Unit := do
  let fields ← self
  release .readers fields.readers
  release .writers fields.writers
  assign { fields with readers := none, writers := none }

/-- `close(wakeup_fd)` unless it is negative. The descriptor 0 is not the loop's. -/
def closeWakeup (fd : WakeupFd) : LifeProgram Unit :=
  match fd with
  | .eventfd n => release .eventfd (some n)
  | .zero | .closed => ret ()

/-- `graceful_shutdown` with `ring_destroy`. -/
def shutdown (fields : LoopFields) (env : CloseEnv) : LifeProgram Unit :=
  match fields.queue with
  | none => stop .segv
  | some _ => do
    release .registry fields.registry
    if env.exits then release .ring fields.queue else ret ()

/-- `UringioLoop_close`. -/
def close (env : CloseEnv) : LifeProgram Unit := do
  let fields ← self
  if fields.threadKnown && env.onThread then
    match fields.ring with
    | none => ret ()
    | some _ => do
      check env.base
      shutdown fields env
      closeWakeup fields.wakeupFd
      release .readers fields.readers
      release .writers fields.writers
      assign { fields with
        ring := none, queue := none, registry := none, wakeupFd := .closed, readers := none
        writers := none }
  else fail ⟨.runtimeError, "io_uring operation called from wrong thread"⟩

/-- `UringioLoop_dealloc`. -/
def dealloc (env : CloseEnv) : LifeProgram Unit := do
  clear
  let fields ← self
  closeWakeup fields.wakeupFd
  match fields.ring with
  | none => change fun s => ((), { s with fields := none })
  | some _ => do
    shutdown fields env
    change fun s => ((), { s with fields := none })

end UringioLoop

/-! ## Runs -/

/-- The calls on one object after another. The collector may call `tp_clear` at any time. -/
inductive LifeAct where
  | new (env : NewEnv)
  | init (env : LoopInitEnv)
  | clear
  | close (env : CloseEnv)
  | dealloc (env : CloseEnv)
deriving DecidableEq, Repr

namespace LoopLife

/-- Before the first loop. -/
def start : LoopLife := ⟨0, 0, none⟩

def program : LifeAct → LifeProgram Unit
  | .new env => do
    match ← look LoopLife.fields with
    | some _ => stop .stuck
    | none => UringioLoop.new env
  | .init env => UringioLoop.init env
  | .clear => UringioLoop.clear
  | .close env => UringioLoop.close env
  | .dealloc env => UringioLoop.dealloc env

def step (s : LoopLife) (a : LifeAct) : Except LifeStop LoopLife :=
  (program a s).map fun r => { r.2 with call := r.2.call + 1 }

abbrev run (s : LoopLife) (acts : List LifeAct) : Except LifeStop LoopLife := Lib.run step s acts

/-! ## What an object owns -/

/-- A pointer that may be NULL. -/
def optional (r : LoopResource) (n : Option Nat) : Multiset (LoopResource × Nat) :=
  ↑(n.toList.map fun n => (r, n))

/-- What an attempt in the call `n` gets. -/
def granted (g : Bool) (n : Nat) : Option Nat := if g then some n else none

end LoopLife

/-- The descriptor of the field. -/
def WakeupFd.taken : WakeupFd → Option Nat
  | .eventfd n => some n
  | .zero | .closed => none

open LoopLife

/-- What the fields point to. -/
def LoopFields.owned (f : LoopFields) : Multiset (LoopResource × Nat) :=
  optional .registry f.registry + optional .ringBlock f.ring + optional .ring f.queue +
    optional .readers f.readers + optional .writers f.writers +
    optional .eventfd f.wakeupFd.taken

/-- An object without its ring has given up the registry as well. -/
def LoopFields.Formed (f : LoopFields) : Prop :=
  f.ring = none → f.queue = none ∧ f.registry = none

namespace LoopLife

def owned (s : LoopLife) : Multiset (LoopResource × Nat) :=
  (s.fields.map LoopFields.owned).getD 0

/-- What the shutdown of an object drops: the block of the ring, which nothing frees, and the ring
    where `ring_destroy` gives up. -/
def dropped (f : LoopFields) (env : CloseEnv) : Multiset (LoopResource × Nat) :=
  optional .ringBlock f.ring + if env.exits then 0 else optional .ring f.queue

/-- What `UringioLoop_init` drops after `ring_init`: the pipe and its data, and what the fields
    pointed to. -/
def overwritten (f : LoopFields) (env : LoopInitEnv) (n : Nat) :
    Multiset (LoopResource × Nat) :=
  optional .signalPipe (granted env.pipe n) +
    optional .signalsData (granted (env.signal && env.signalsData) n) +
    optional .readers f.readers + optional .writers f.writers +
    optional .eventfd f.wakeupFd.taken

/-- What a call drops: nobody gives it back any more. -/
def loss (s : LoopLife) (a : LifeAct) : Multiset (LoopResource × Nat) :=
  match a, s.fields with
  | .init env, some f =>
    if env.base.isSome then 0
    else optional .ring f.queue + if env.ring then overwritten f env s.call else 0
  | .close env, some f =>
    if f.threadKnown && env.onThread && f.ring.isSome && env.base.isNone then dropped f env else 0
  | .dealloc env, some f => if f.ring.isSome then dropped f env else 0
  | _, _ => 0

/-! ## The steps -/

/-- The state in the call `n`. -/
def Has (n : Nat) (f : Option LoopFields) (held : Multiset (LoopResource × Nat)) (s : LoopLife) :
    Prop := s = ⟨n, held, f⟩

/-- The program gives back only what is held. -/
abbrev Frees {α : Type} (P : LoopLife → Prop) (m : LifeProgram α) (Q : α → LoopLife → Prop)
    (E : PyErr → LoopLife → Prop) : Prop :=
  Ends (fun e => e ≠ .notHeld) P m Q E

section Steps

variable {n : Nat} {f : Option LoopFields} {held : Multiset (LoopResource × Nat)}
  {E : PyErr → LoopLife → Prop} {r : LoopResource}

theorem acquire_frees {g : Bool} :
    Frees (Has n f held) (acquire r g)
      (fun o s => Has n f (optional r (granted g n) + held) s ∧ o = granted g n) E := by
  rintro s rfl
  cases g with
  | true => exact ⟨rfl, rfl⟩
  | false => exact ⟨congrArg (fun h => LoopLife.mk n h f) (Multiset.zero_add held).symm, rfl⟩

theorem release_frees {o : Option Nat} :
    Frees (Has n f (optional r o + held)) (release r o) (fun _ => Has n f held) E := by
  rintro s rfl
  cases o with
  | none => exact congrArg (fun h => LoopLife.mk n h f) (Multiset.zero_add held)
  | some k =>
    have hheld : optional r (some k) + held = (r, k) ::ₘ held := Multiset.singleton_add ..
    unfold release
    rw [hheld]
    simp only [Multiset.mem_cons_self, if_true, Multiset.erase_cons_head]
    rfl

theorem self_frees {f : LoopFields} :
    Frees (Has n (some f) held) self
      (fun x s => Has n (some f) held s ∧ x = f) E := by
  rintro s rfl
  exact ⟨rfl, rfl⟩

theorem assign_frees {f' : LoopFields} :
    Frees (Has n f held) (assign f') (fun _ => Has n (some f') held) E := by
  rintro s rfl
  rfl

theorem check_frees {x : Option PyErr} (h : x.isSome → ∀ e, E e ⟨n, held, f⟩) :
    Frees (Has n f held) (check x) (fun _ s => Has n f held s ∧ x = none) E :=
  Ends.check (fun e _ hx hs => hs ▸ h (hx ▸ rfl) e) fun _ hx hs => ⟨hs, hx⟩

end Steps

/-! ## The methods -/

/-- What is held is what the object points to, and `rest`. -/
structure Balanced (n : Nat) (rest : Multiset (LoopResource × Nat)) (s : LoopLife) : Prop where
  call : s.call = n
  held : s.held = s.owned + rest
  formed : ∀ f, s.fields = some f → f.Formed

section Methods

variable {n : Nat} {f : LoopFields} {rest held : Multiset (LoopResource × Nat)}

theorem balanced_none (h : held = rest) : Balanced n rest ⟨n, held, none⟩ :=
  ⟨rfl, h.trans (Multiset.zero_add rest).symm, fun _ hf => by cases hf⟩

theorem balanced_some (hf : f.Formed) (h : held = f.owned + rest) :
    Balanced n rest ⟨n, held, some f⟩ :=
  ⟨rfl, h, fun _ he => Option.some.inj he ▸ hf⟩

theorem formed_of_ring {block : Nat} (h : f.ring = some block) : f.Formed :=
  fun hn => by simp [h] at hn

theorem new_frees (env : NewEnv) :
    Frees (Has n none held) (UringioLoop.new env) (fun _ => Balanced n held)
      fun _ => Balanced n held := by
  refine Ends.bind (check_frees fun _ _ => balanced_none rfl) fun _ => .given fun _ => ?_
  refine Ends.bind acquire_frees fun registry => .given ?_
  rintro rfl
  cases env.registry with
  | false => exact Ends.fail fun s hs => hs ▸ balanced_none (Multiset.zero_add held)
  | true =>
    show Frees _ (if env.object then _ else _) _ _
    split
    · refine Ends.bind acquire_frees fun ring => .given ?_
      rintro rfl
      cases env.ringBlock with
      | false =>
        refine Ends.conseq (P := Has n none (optional .registry (some n) + held))
          (Ends.bind release_frees fun _ =>
            Ends.fail (E := fun _ => Balanced n held) fun s hs => hs ▸ balanced_none rfl)
          (fun s hs => ?_) (fun _ _ h => h) fun _ _ h => h
        rw [hs]
        exact congrArg (fun h => LoopLife.mk n h none) (Multiset.zero_add _)
      | true =>
        refine Ends.conseq assign_frees (fun _ h => h) (fun _ s hs => ?_) fun _ _ h => h
        rw [hs]
        refine balanced_some (formed_of_ring rfl) ?_
        show optional .ringBlock (some n) + (optional .registry (some n) + held) =
          optional .registry (some n) + optional .ringBlock (some n) + 0 + 0 + 0 + 0 + held
        abel
    · exact Ends.bind release_frees fun _ => Ends.fail fun s hs => hs ▸ balanced_none rfl

theorem setSignalsHandler_frees (env : LoopInitEnv) {f : Option LoopFields}
    {E : PyErr → LoopLife → Prop} :
    Frees (Has n f held) (UringioLoop.setSignalsHandler env)
      (fun _ => Has n f (optional .signalPipe (granted env.pipe n) +
        optional .signalsData (granted (env.signal && env.signalsData) n) + held)) E := by
  refine Ends.bind acquire_frees fun _ => .given fun _ => ?_
  split
  · rename_i hs
    refine Ends.bind acquire_frees fun _ => .given fun _ => Ends.pure fun s h => ?_
    rw [h, hs, Bool.true_and, ← add_assoc, add_comm (optional .signalsData _)]
    rfl
  · rename_i hs
    refine Ends.pure fun s h => ?_
    have hnone : optional .signalsData (granted (env.signal && env.signalsData) n) = 0 := by
      rw [Bool.eq_false_iff.mpr hs]
      rfl
    rw [h, hnone, add_zero]
    rfl

/-- The losses of an initialisation. -/
def initLoss (f : LoopFields) (env : LoopInitEnv) (n : Nat) : Multiset (LoopResource × Nat) :=
  if env.base.isSome then 0
  else optional .ring f.queue + if env.ring then overwritten f env n else 0

/-- After `ring_init` the object holds what it got, with what it pointed to before lost. -/
theorem initTaken (f : LoopFields) (env : LoopInitEnv) (fd : WakeupFd) (known : Bool) {g : Bool}
    (hfd : fd.taken = granted g n) :
    optional .eventfd (granted g n) + (optional .writers (granted env.writers n) +
        (optional .readers (granted env.readers n) + (optional .signalPipe (granted env.pipe n) +
          optional .signalsData (granted (env.signal && env.signalsData) n) +
            (optional .ring (some n) + (f.owned + rest))))) =
      LoopFields.owned { f with
        queue := some n, readers := granted env.readers n, writers := granted env.writers n
        wakeupFd := fd, threadKnown := known } +
        (rest + (optional .ring f.queue + overwritten f env n)) := by
  unfold LoopFields.owned overwritten
  dsimp only
  rw [hfd]
  abel

theorem init_frees (env : LoopInitEnv) (hformed : f.Formed) :
    Frees (Has n (some f) (f.owned + rest)) (UringioLoop.init env)
      (fun _ => Balanced n (rest + initLoss f env n))
      fun _ => Balanced n (rest + initLoss f env n) := by
  refine Ends.bind self_frees fun fields => .given fun hf => ?_
  rw [hf]
  refine Ends.bind (check_frees fun hb _ => ?_) fun _ => .given fun hb => ?_
  · -- nothing is taken
    unfold initLoss
    rw [if_pos hb, add_zero]
    exact balanced_some hformed rfl
  have hloss : initLoss f env n =
      optional .ring f.queue + if env.ring then overwritten f env n else 0 := by
    unfold initLoss
    rw [hb]
    rfl
  rw [hloss]
  obtain ⟨ring, queue, registry, wakeupFd, readers, writers, known⟩ := f
  cases ring with
  | none => exact Ends.stop (by simp)
  | some block =>
    refine Ends.bind acquire_frees fun queue => .given ?_
    rintro rfl
    refine Ends.bind assign_frees fun _ => ?_
    cases env.ring with
    | false =>
      refine Ends.fail fun s hs => ?_
      rw [hs]
      refine balanced_some (formed_of_ring rfl) ?_
      have hnull : optional .ring none = 0 := rfl
      show optional .ring none + (LoopFields.owned _ + rest) = LoopFields.owned _ +
        (rest + (optional .ring queue + 0))
      unfold LoopFields.owned
      rw [hnull]
      abel
    | true =>
      refine Ends.bind (setSignalsHandler_frees env) fun _ => ?_
      refine Ends.bind acquire_frees fun readers => .given ?_
      rintro rfl
      refine Ends.bind acquire_frees fun writers => .given ?_
      rintro rfl
      refine Ends.bind acquire_frees fun wakeup => .given ?_
      rintro rfl
      cases env.eventfd with
      | false =>
        refine Ends.bind assign_frees fun _ => Ends.fail fun s hs => ?_
        rw [hs]
        exact balanced_some (formed_of_ring rfl) (initTaken ⟨some block, queue, registry, wakeupFd,
          readers, writers, known⟩ env .closed known rfl)
      | true =>
        refine Ends.bind assign_frees fun _ => ?_
        refine Ends.conseq (check_frees (E := fun _ => Balanced n _) fun _ _ => ?_) (fun _ h => h)
          (fun _ s hs => ?_) fun _ _ h => h
        · exact balanced_some (formed_of_ring rfl) (initTaken ⟨some block, queue, registry,
            wakeupFd, readers, writers, known⟩ env (.eventfd n) true rfl)
        · rw [hs.1]
          exact balanced_some (formed_of_ring rfl) (initTaken ⟨some block, queue, registry,
            wakeupFd, readers, writers, known⟩ env (.eventfd n) true rfl)

theorem clear_frees {E : PyErr → LoopLife → Prop} :
    Frees (Has n (some f) (f.owned + rest)) UringioLoop.clear
      (fun _ => Has n (some { f with readers := none, writers := none })
        (LoopFields.owned { f with readers := none, writers := none } + rest)) E := by
  refine Ends.bind self_frees fun fields => .given fun hf => ?_
  rw [hf]
  have hheld : f.owned + rest = optional .readers f.readers + (optional .writers f.writers +
      (LoopFields.owned { f with readers := none, writers := none } + rest)) := by
    have hnull : ∀ r, optional r none = 0 := fun _ => rfl
    unfold LoopFields.owned
    rw [hnull, hnull]
    abel
  rw [hheld]
  exact Ends.bind release_frees fun _ => Ends.bind release_frees fun _ => assign_frees

/-- The eventfd is closed and forgotten. -/
theorem closeWakeup_frees {E : PyErr → LoopLife → Prop} {f : Option LoopFields} (fd : WakeupFd) :
    Frees (Has n f (optional .eventfd fd.taken + held)) (UringioLoop.closeWakeup fd)
      (fun _ => Has n f held) E := by
  cases fd with
  | eventfd k => exact release_frees
  | zero | closed =>
    rintro s rfl
    exact congrArg (fun h => LoopLife.mk n h f) (Multiset.zero_add held)

theorem shutdown_frees {E : PyErr → LoopLife → Prop} {f' : Option LoopFields} (env : CloseEnv) :
    Frees (Has n f' (optional .registry f.registry + optional .ring f.queue + held))
      (UringioLoop.shutdown f env)
      (fun _ => Has n f' ((if env.exits then 0 else optional .ring f.queue) + held)) E := by
  unfold UringioLoop.shutdown
  cases hq : f.queue with
  | none => exact Ends.stop (by simp)
  | some k =>
    rw [add_assoc]
    refine Ends.bind release_frees fun _ => ?_
    split
    · refine Ends.conseq release_frees (fun _ h => h) (fun _ s hs => ?_) fun _ _ h => h
      rw [hs]
      exact congrArg (fun h => LoopLife.mk n h f') (Multiset.zero_add held).symm
    · exact fun s hs => hs

/-- The losses of a close. -/
def closeLoss (f : LoopFields) (env : CloseEnv) : Multiset (LoopResource × Nat) :=
  if f.threadKnown && env.onThread && f.ring.isSome && env.base.isNone then dropped f env else 0

/-- The losses of a deallocation. -/
def deallocLoss (f : LoopFields) (env : CloseEnv) : Multiset (LoopResource × Nat) :=
  if f.ring.isSome then dropped f env else 0

theorem close_frees (env : CloseEnv) (hformed : f.Formed) :
    Frees (Has n (some f) (f.owned + rest)) (UringioLoop.close env)
      (fun _ => Balanced n (rest + closeLoss f env))
      fun _ => Balanced n (rest + closeLoss f env) := by
  refine Ends.bind self_frees fun fields => .given fun hf => ?_
  rw [hf]
  have hkept : ¬ (f.threadKnown && env.onThread && f.ring.isSome && env.base.isNone) = true →
      Balanced n (rest + closeLoss f env) ⟨n, f.owned + rest, some f⟩ := by
    intro hno
    unfold closeLoss
    rw [if_neg hno, add_zero]
    exact balanced_some hformed rfl
  split
  · rename_i hthread
    split
    · rename_i hring
      exact Ends.pure fun s hs => hs ▸ hkept (by simp [hring])
    · rename_i block hring
      refine Ends.bind (check_frees fun hb _ => hkept ?_) fun _ => .given fun hb => ?_
      · rw [Bool.and_eq_true, not_and, Option.isNone_iff_eq_none]
        exact fun _ hnone => by simp [hnone] at hb
      have hloss : closeLoss f env = dropped f env := by
        unfold closeLoss
        rw [hthread, hring, hb]
        rfl
      have hheld : f.owned + rest = optional .registry f.registry + optional .ring f.queue +
          (optional .eventfd f.wakeupFd.taken + (optional .readers f.readers +
            (optional .writers f.writers + (optional .ringBlock f.ring + rest)))) := by
        unfold LoopFields.owned
        abel
      rw [hheld]
      refine Ends.bind (shutdown_frees env) fun _ => ?_
      rw [add_left_comm]
      refine Ends.bind (closeWakeup_frees f.wakeupFd) fun _ => ?_
      rw [add_left_comm]
      refine Ends.bind release_frees fun _ => ?_
      rw [add_left_comm]
      refine Ends.bind release_frees fun _ => ?_
      refine Ends.conseq (E := fun _ _ => False) assign_frees (fun _ h => h) (fun _ s hs => ?_)
        fun _ _ h => h.elim
      rw [hs, hloss]
      refine balanced_some (fun _ => ⟨rfl, rfl⟩) ?_
      show _ = (0 + 0 + 0 + 0 + 0 + 0) + (rest + dropped f env)
      unfold dropped
      abel
  · rename_i hthread
    refine Ends.fail fun s hs => hs ▸ hkept ?_
    rw [Bool.eq_false_iff.mpr hthread]
    simp

theorem dealloc_frees (env : CloseEnv) (hformed : f.Formed) :
    Frees (Has n (some f) (f.owned + rest)) (UringioLoop.dealloc env)
      (fun _ => Balanced n (rest + deallocLoss f env))
      fun _ => Balanced n (rest + deallocLoss f env) := by
  refine Ends.bind clear_frees fun _ => Ends.bind self_frees fun fields => .given fun hf => ?_
  rw [hf]
  have hheld : LoopFields.owned { f with readers := none, writers := none } + rest =
      optional .eventfd f.wakeupFd.taken + (optional .registry f.registry +
        optional .ring f.queue + (optional .ringBlock f.ring + rest)) := by
    show optional .registry f.registry + optional .ringBlock f.ring + optional .ring f.queue + 0 +
      0 + optional .eventfd f.wakeupFd.taken + rest = _
    abel
  rw [hheld]
  refine Ends.bind (closeWakeup_frees f.wakeupFd) fun _ => ?_
  split
  · rename_i hring
    obtain ⟨hqueue, hregistry⟩ := hformed hring
    refine Ends.change fun s hs => ?_
    rw [hs]
    refine balanced_none ?_
    unfold deallocLoss
    rw [hregistry, hqueue, hring]
    show 0 + 0 + (0 + rest) = rest + 0
    abel
  · rename_i block hring
    have hloss : deallocLoss f env = dropped f env := by
      unfold deallocLoss
      rw [hring]
      rfl
    rw [hloss]
    refine Ends.bind (shutdown_frees env) fun _ => ?_
    refine Ends.change fun s hs => ?_
    rw [hs]
    refine balanced_none ?_
    unfold dropped
    show (if env.exits = true then 0 else optional .ring f.queue) +
      (optional .ringBlock f.ring + rest) = _
    abel

end Methods

/-! ## All runs -/

section Runs

variable {s t : LoopLife} {a : LifeAct} {n : Nat} {rest : Multiset (LoopResource × Nat)}

theorem program_frees (h : Balanced n rest s) :
    Frees (fun u => u = s) (program a) (fun _ => Balanced n (rest + loss s a))
      fun _ => Balanced n (rest + loss s a) := by
  obtain ⟨call, held, fields⟩ := s
  obtain ⟨hcall, hheld, hformed⟩ := h
  obtain rfl : call = n := hcall
  cases fields with
  | none =>
    obtain rfl : held = rest := hheld.trans (Multiset.zero_add rest)
    have hnothing : loss ⟨call, held, none⟩ a = 0 := by
      cases a with
      | new | init | clear | close | dealloc => rfl
    rw [hnothing, add_zero]
    cases a with
    | new env =>
      rintro u rfl
      exact new_frees env ⟨call, held, none⟩ rfl
    | init | clear | close | dealloc =>
      -- there is no object to call
      rintro u rfl
      exact LifeStop.noConfusion
  | some f =>
    obtain rfl : held = f.owned + rest := hheld
    cases a with
    | new env =>
      rintro u rfl
      exact LifeStop.noConfusion
    | init env => exact init_frees env (hformed f rfl)
    | clear =>
      refine Ends.conseq clear_frees (fun u hu => hu) (fun _ u hu => ?_) fun _ _ he => he
      rw [hu]
      exact balanced_some (hformed f rfl) (congrArg _ (add_zero rest).symm)
    | close env => exact close_frees env (hformed f rfl)
    | dealloc env => exact dealloc_frees env (hformed f rfl)

/-- A call balances what it takes, and gives back only what is held. -/
theorem step_balanced (h : Balanced n rest s) :
    step s a ≠ .error .notHeld ∧ ∀ t, step s a = .ok t → Balanced (n + 1) (rest + loss s a) t := by
  have hprogram := program_frees (a := a) h
  have hnext : ∀ u, Balanced n (rest + loss s a) u →
      Balanced (n + 1) (rest + loss s a) { u with call := u.call + 1 } := fun u hu =>
    ⟨congrArg (· + 1) hu.call, hu.held, hu.formed⟩
  unfold step
  cases hp : program a s with
  | error e =>
    refine ⟨fun he => ?_, fun t ht => (by cases ht)⟩
    exact hprogram.stopped rfl hp (Except.error.inj he)
  | ok r =>
    refine ⟨fun he => (by cases he), fun t ht => ?_⟩
    obtain rfl := Except.ok.inj ht
    obtain ⟨r, u⟩ := r
    cases r with
    | error x => exact hnext u (hprogram.failed rfl hp)
    | ok v => exact hnext u (hprogram.returned rfl hp)

/-- What the calls of a run drop. -/
def losses (s : LoopLife) : List LifeAct → Multiset (LoopResource × Nat)
  | [] => 0
  | a :: acts =>
    loss s a + match step s a with
      | .ok t => losses t acts
      | .error _ => 0

theorem run_balanced {acts : List LifeAct} (h : Balanced n rest s) :
    s.run acts ≠ .error .notHeld ∧
      ∀ t, s.run acts = .ok t → Balanced (n + acts.length) (rest + losses s acts) t := by
  induction acts generalizing s n rest with
  | nil =>
    refine ⟨fun he => (by cases he), fun t ht => ?_⟩
    obtain rfl := Except.ok.inj ht
    show Balanced n (rest + 0) s
    rw [add_zero]
    exact h
  | cons a acts ih =>
    obtain ⟨hheld, hnext⟩ := step_balanced (a := a) h
    unfold run Lib.run losses
    cases hs : step s a with
    | error e => exact ⟨fun he => hheld (hs.trans he), fun t ht => (by cases ht)⟩
    | ok u =>
      obtain ⟨hheld', hrun⟩ := ih (hnext u hs)
      refine ⟨hheld', fun t ht => ?_⟩
      have hlast := hrun t ht
      rw [add_assoc rest, Nat.add_assoc n, Nat.add_comm 1] at hlast
      exact hlast

/-- Everything succeeds. -/
def initOk : LoopInitEnv := ⟨none, true, true, true, true, true, true, true, true⟩

/-- A loop that is closed leaves its block, the signal pipe and the data of the pipe behind. One
    that is initialised twice leaves its first ring and its first eventfd as well. -/
example :
    (∃ t, start.run [.new ⟨none, true, true, true⟩, .init initOk, .close ⟨true, none, true, 1⟩,
      .dealloc ⟨true, none, true, 1⟩] = .ok t ∧
        t.held = {(.ringBlock, 0), (.signalPipe, 1), (.signalsData, 1)}) ∧
      ∃ t, start.run [.new ⟨none, true, true, true⟩, .init initOk, .init initOk,
        .dealloc ⟨true, none, true, 1⟩] = .ok t ∧
        t.held = {(.ringBlock, 0), (.signalPipe, 1), (.signalsData, 1), (.ring, 1),
          (.eventfd, 1), (.readers, 1), (.writers, 1), (.signalPipe, 2), (.signalsData, 2)} := by
  decide +kernel

end Runs

end LoopLife

end Uringio
