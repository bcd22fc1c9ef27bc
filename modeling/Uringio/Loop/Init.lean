/-
  A new loop (`UringioLoop_new`, `UringioLoop_init`), the wakeup, and one iteration
  (`UringioLoop_run_once`, `UringioLoop_write_to_self`).

  `set_signals_handler` queues a poll of the signal pipe whose `user_data` is a heap
  pointer, then `ring_prep_wakeup_read` queues the wakeup read and submits both. The result
  of the first and the submission of the second are not looked at.
-/
import Uringio.Reader.OnReady

namespace Uringio

/-- How far `set_signals_handler` gets: it may fail before it takes an SQE, or when it has
    queued the poll and finds no memory for the data, or set the pointer. -/
inductive SignalSetup where
  | failed
  | noMemory (pollFd : Int)
  | armed (pollFd : Int) (pointer : Nat)
deriving DecidableEq, Repr

def pollin : Nat := 1

/-- `set_signals_handler` on a ring with a free SQE. -/
def setSignalsHandler (r : Ring) (setup : SignalSetup) : Ring :=
  match setup, createSqe r with
  | .failed, _ => r
  | _, (none, r) => r
  | .noMemory pollFd, (some p, r) => r.modify p (ioUringPrep (.pollAdd pollFd pollin))
  | .armed pollFd pointer, (some p, r) =>
    (r.modify p (ioUringPrep (.pollAdd pollFd pollin))).modify p (ioUringSqeSetData64 pointer)

/-- `UringioLoop_new` and `UringioLoop_init` when ring, eventfd and context variable can be
    made. -/
def uringioLoopInit (registrySize : Nat) (setup : SignalSetup) (wakeupFd submit : Int) : Loop :=
  { ring := (ringPrepWakeupRead (setSignalsHandler ringInit setup) wakeupFd submit).2
    registry := registryNew registrySize
    heap := ⟨[], []⟩
    files := []
    sockets := []
    nextFuture := 0
    callLog := []
    context := some .default
    wakeupFd := wakeupFd
    eventfd := 0
    closed := false
    ringNull := false }

/-- `UringioLoop_write_to_self`: the counter of the eventfd goes up by one. -/
def writeToSelf (l : Loop) : Loop := { l with eventfd := l.eventfd + 1 }

/-- `UringioLoop_run_once` up to the Python callbacks: submit, let the kernel post, and read
    every CQE. `post` is what arrives during the wait. -/
def runOnce (submit : Int) (post : Ring → Ring) (envs : List ReadEnv) (l : Loop) :
    Except Stop Loop :=
  onUringReady envs { l with ring := post (ioUringSubmit l.ring submit).2 }

/-! ## The ring of a new loop -/

/-- The poll of the signal pipe, when it gets an SQE. -/
def signalEntries : SignalSetup → List Flight
  | .failed => []
  | .noMemory pollFd => [⟨0, { (default : Sqe) with call := .pollAdd pollFd pollin }⟩]
  | .armed pollFd pointer =>
    [⟨0, { (default : Sqe) with call := .pollAdd pollFd pollin, userData := pointer }⟩]

/-- The wakeup read. -/
def wakeupEntry (seq : Nat) (wakeupFd : Int) : Flight :=
  ⟨seq, { (default : Sqe) with
    call := .read wakeupFd .wakeupBuf 8 0, userData := wakeupFdTag }⟩

theorem ringInit_ordered : ringInit.Ordered :=
  ⟨fun _ hx => absurd hx List.not_mem_nil, List.nodup_nil⟩

/-- The ring with `n` queued SQEs of which nothing is known but that there are few of them
    and that the other entries are as they were at the start. -/
structure FreshFrom (r : Ring) (n : Nat) : Prop where
  tail : r.tail = n
  space : r.space = 256 - n
  entry : r.sqEntry n = default

theorem length_ringInit : ringInit.entries.length = 256 := by
  unfold ringInit
  rw [List.length_replicate]

theorem sqEntry_ringInit (p : Nat) : ringInit.sqEntry p = default := by
  unfold Ring.sqEntry
  rw [length_ringInit]
  unfold ringInit
  rw [List.getD_eq_getElem?_getD, List.getElem?_replicate, if_pos (Nat.mod_lt p (by decide))]
  rfl

theorem ringInit_freshFrom : FreshFrom ringInit 0 := by
  refine ⟨rfl, ?_, sqEntry_ringInit 0⟩
  unfold Ring.space
  rw [length_ringInit]
  rfl

theorem setSignalsHandler_spec (setup : SignalSetup) :
    ringInit.Added (setSignalsHandler ringInit setup) (signalEntries setup) ∧
      FreshFrom (setSignalsHandler ringInit setup) (signalEntries setup).length := by
  have hs : ringInit.space ≠ 0 := by
    rw [ringInit_freshFrom.space]
    decide
  have hentry : ringInit.sqEntry ringInit.tail = default := ringInit_freshFrom.entry
  have hprepared : ∀ f : Sqe → Sqe, FreshFrom (ringInit.grow.modify ringInit.tail f) 1 := by
    intro f
    refine ⟨rfl, ?_, ?_⟩
    · rw [Ring.space_modify, Ring.space_grow, ringInit_freshFrom.space]
    · have hlen := length_ringInit
      rw [Ring.sqEntry_modify_of_ne (by rw [Ring.length_grow, hlen]; decide)]
      rw [Ring.sqEntry_grow, Ring.sqEntry_modify_of_ne (by rw [hlen]; decide)]
      exact sqEntry_ringInit 1
  unfold setSignalsHandler createSqe
  rw [ioUringGetSqe_of_space hs]
  cases setup with
  | failed => exact ⟨.refl _, ringInit_freshFrom⟩
  | noMemory pollFd =>
    have hadd := Ring.added_prepared hs (ioUringPrep (.pollAdd pollFd pollin))
    rw [hentry] at hadd
    exact ⟨hadd, hprepared _⟩
  | armed pollFd pointer =>
    have hadd := Ring.added_prepared hs fun e =>
      ioUringSqeSetData64 pointer (ioUringPrep (.pollAdd pollFd pollin) e)
    rw [hentry] at hadd
    have hcomp : ∀ (r : Ring) (p : Nat) (f g : Sqe → Sqe),
        (r.modify p f).modify p g = r.modify p fun e => g (f e) := by
      intro r p f g
      simp only [Ring.modify, List.length_modify, List.modify_modify_eq, Function.comp_def]
    dsimp only
    rw [hcomp]
    exact ⟨hadd, hprepared _⟩

/-- The SQEs of a new loop. -/
theorem uringioLoopInit_added (registrySize : Nat) (setup : SignalSetup) (wakeupFd submit : Int) :
    ringInit.Added (uringioLoopInit registrySize setup wakeupFd submit).ring
      (signalEntries setup ++ [wakeupEntry (signalEntries setup).length wakeupFd]) := by
  obtain ⟨hadd, hfresh⟩ := setSignalsHandler_spec setup
  refine hadd.trans ?_
  show (setSignalsHandler ringInit setup).Added
    (ringPrepWakeupRead (setSignalsHandler ringInit setup) wakeupFd submit).2 _
  have hlen : (signalEntries setup).length ≤ 1 := by
    cases setup with
    | failed => exact Nat.zero_le 1
    | noMemory | armed => exact Nat.le_refl 1
  generalize setSignalsHandler ringInit setup = r at hfresh ⊢
  have hs : r.space ≠ 0 := by
    rw [hfresh.space]
    omega
  have hprep := Ring.added_prepared hs fun e => ioUringSqeSetData64 wakeupFdTag
    (ioUringPrep (.read wakeupFd .wakeupBuf 8 0) e)
  have hcomp : ∀ f g : Sqe → Sqe,
      (r.grow.modify r.tail f).modify r.tail g = r.grow.modify r.tail fun e => g (f e) := by
    intro f g
    simp only [Ring.modify, List.length_modify, List.modify_modify_eq, Function.comp_def]
  have hring : (ringPrepWakeupRead r wakeupFd submit).2 = (ioUringSubmit (r.grow.modify r.tail
      fun e => ioUringSqeSetData64 wakeupFdTag (ioUringPrep (.read wakeupFd .wakeupBuf 8 0) e))
      submit).2 := by
    unfold ringPrepWakeupRead
    rw [ioUringGetSqe_of_space hs]
    dsimp only
    rw [hcomp]
  rw [hring]
  have hall := hprep.trans (Ring.added_ioUringSubmit submit)
  rw [hfresh.tail, hfresh.entry] at hall
  rw [hfresh.tail]
  exact hall

end Uringio
