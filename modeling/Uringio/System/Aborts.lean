/-
  Where the process aborts.

  `registry_remove` asserts that its stack has room. The calls of operations and the reader
  remove live slots, so that the assertion holds there; the shutdown removes whatever the CQEs
  that it drains decode to. It has room for as many of these as there are requests with a slot
  (`drain_aborts_iff`), and so the process aborts at a shutdown that drains more of them, and
  nowhere else (`aborts_iff`).
-/
import Uringio.PyOps.Aborts
import Uringio.System.Capacity

namespace Uringio

open Lib

/-! ## The reader -/

section Reader

variable {env : ReadEnv} {l : Loop} {index : Int} {slot : RequestSlot} {c : Cqe}
  {b : BufferPayload} {p : PayloadId}

theorem slotPayload_unaborted : Unaborted (slotPayload l slot) := by
  unfold slotPayload
  split
  · exact nofun
  · intro h
    rename_i p _
    cases hp : payloadAt l.heap p with
    | error e =>
      rw [hp] at h
      exact payloadAt_unaborted (hp.trans (congrArg Except.error (Except.error.inj h)))
    | ok b =>
      rw [hp] at h
      exact absurd h nofun

theorem releaseFixed_unaborted : Unaborted (releaseFixed l p b) := by
  unfold releaseFixed
  split
  · split
    · exact nofun
    · exact .ok
  · exact .ok

theorem bytesOfVector_unaborted : Unaborted (bytesOfVector env b c.res) := by
  unfold bytesOfVector
  split
  · exact .bind vectorOf_unaborted fun _ => .ok
  · exact .ok

theorem completeRecvmsgMultishot_unaborted :
    Unaborted (completeRecvmsgMultishot env l index slot c b) := by
  refine .bind linearOf_unaborted fun _ => ?_
  dsimp only
  split
  · split
    · exact .ok
    · exact nofun
  · exact .ok

theorem completeRecvmsg_unaborted : Unaborted (completeRecvmsg env l index slot c) := by
  refine .bind slotPayload_unaborted fun x => .bind releaseFixed_unaborted fun l => ?_
  split
  · exact completeRecvmsgMultishot_unaborted
  · split
    · exact .bind linearOf_unaborted fun _ => .ok
    · exact .bind bytesOfVector_unaborted fun _ => .ok

theorem completeRecv_unaborted : Unaborted (completeRecv env l index slot c) := by
  unfold completeRecv
  split
  · refine .bind slotPayload_unaborted fun x => ?_
    dsimp only
    split
    · exact .bind .ok fun _ => .bind releaseFixed_unaborted fun _ => .ok
    · refine .bind linearOf_unaborted fun _ => .bind .ok fun _ => ?_
      exact .bind releaseFixed_unaborted fun _ => .ok
  · exact .ok

/-- No branch of the reader aborts. -/
theorem complete_unaborted : Unaborted (complete env l index slot c) := by
  unfold complete
  cases slot.opcode with
  | read =>
    exact .bind slotPayload_unaborted fun _ => .bind linearOf_unaborted fun _ =>
      .bind releaseFixed_unaborted fun _ => .ok
  | readv =>
    exact .bind slotPayload_unaborted fun _ => .bind bytesOfVector_unaborted fun _ => .ok
  | write =>
    exact .bind slotPayload_unaborted fun _ => .bind releaseFixed_unaborted fun _ => .ok
  | recv => exact completeRecv_unaborted
  | recvmsg => exact completeRecvmsg_unaborted
  | send | sendmsg =>
    dsimp only
    unfold completeSend
    split
    · exact .ok
    · exact .bind payloadAt_unaborted fun _ => .bind releaseFixed_unaborted fun _ => .ok
  | accept =>
    dsimp only
    unfold completeAccept
    split
    · exact .ok
    · split
      · exact .ok
      · split
        · exact nofun
        · exact .ok
  | writev =>
    dsimp only
    unfold completeWritev
    split
    · exact .ok
    · exact .ok
  | openat2 =>
    dsimp only
    unfold completeOpenat2
    split
    · exact .ok
    · exact .ok
  | socket =>
    dsimp only
    unfold completeSocket
    split
    · exact .ok
    · exact .ok
  | bind | connect | listen =>
    dsimp only
    unfold completeSocketNumber
    split
    · exact .ok
    · exact .ok
  | close =>
    dsimp only
    unfold completeClose
    split
    · exact .ok
    · exact .ok
    · exact .ok
  | timeout | nop | fsync | splice | other _ => exact .ok

/-- The end of an iteration removes a live slot. -/
theorem finishCqe_unaborted (hv : l.registry.Valid)
    (hl : l.registry.liveSlot index = some slot) : Unaborted (finishCqe l index) := by
  obtain ⟨reg, hrem, -⟩ := hv.remove l.heap hl
  unfold finishCqe
  rw [hrem]
  exact .ok

theorem readLive_unaborted {future : FutureId} (hv : l.registry.Valid)
    (hl : l.registry.liveSlot index = some slot) (hfit : SlotFits l.heap slot) :
    Unaborted (readLive env l index slot future c) := by
  unfold readLive
  split
  · split
    · exact finishCqe_unaborted hv hl
    · exact finishCqe_unaborted hv hl
  · split
    · exact .ok
    · split
      · rename_i e he
        intro h
        exact complete_unaborted (he.trans (congrArg Except.error (Except.error.inj h)))
      · exact .ok
      · rename_i l1 he
        rcases complete_completed hv hl hfit he with ⟨hr, -⟩ | ⟨v, -, hc⟩
        · exact absurd hr nofun
        · obtain ⟨slot1, hl1, -⟩ := hc.slot
          exact finishCqe_unaborted hc.valid hl1
      · rename_i v l1 he
        rcases complete_completed hv hl hfit he with ⟨hr, -⟩ | ⟨v, -, hc⟩
        · exact absurd hr nofun
        · obtain ⟨slot1, hl1, -⟩ := hc.slot
          exact finishCqe_unaborted hc.valid hl1

end Reader

/-! ## The shutdown -/

/-- The registry has room for `n` more removals of indices in range. -/
structure RequestRegistry.Room (reg : RequestRegistry) (n : Nat) : Prop where
  small : reg.size < 2 ^ 31
  slots : reg.slots.length = reg.size
  top : reg.top + n = reg.size - 1

section Shutdown

variable {l m : Loop} {d : Drained} {drained : List Drained} {index : Int} {n : Nat}

/-- A removal of an index in range takes room, live or not. -/
theorem finishCqe_room (hr : m.registry.Room n) (hin : m.registry.inRange index = true) :
    (n = 0 ∧ finishCqe m index = .error .abort) ∨
      ∃ k t, n = k + 1 ∧ finishCqe m index = .ok t ∧ t.registry.size = m.registry.size ∧
        t.registry.Room k := by
  obtain ⟨hsmall, hslots, htop⟩ := hr
  unfold finishCqe registryRemove
  rw [hin, toInt_of_lt hsmall]
  cases n with
  | zero =>
    refine .inl ⟨rfl, ?_⟩
    rw [if_neg (by decide), if_pos (by omega)]
  | succ k =>
    refine .inr ⟨k, ?_⟩
    rw [if_neg (by decide), if_neg (by omega)]
    refine ⟨_, rfl, rfl, rfl, hsmall, ?_, ?_⟩
    · exact (List.length_set ..).trans hslots
    · show m.registry.top + 1 + (k : Int) = m.registry.size - 1
      omega

/-- So does a drained CQE that decodes to a slot. -/
theorem shutdownCqe_room (hr : l.registry.Room n) (hit : d.hits l.registry = true) :
    (n = 0 ∧ shutdownCqe l d = .error .abort) ∨
      ∃ k t, n = k + 1 ∧ shutdownCqe l d = .ok t ∧ t.registry.size = l.registry.size ∧
        t.registry.Room k := by
  unfold Drained.hits at hit
  simp only [Bool.and_eq_true, bne_iff_ne] at hit
  obtain ⟨htag, hin⟩ := hit
  have hrange : 0 ≤ toInt d.cqe.userData ∧ toInt d.cqe.userData < l.registry.size := by
    have h := hin
    unfold RequestRegistry.inRange at h
    rw [toInt_of_lt hr.small] at h
    simp only [Bool.not_eq_true', Bool.or_eq_false_iff, decide_eq_false_iff_not] at h
    omega
  have hget : ∃ slot, registryGet l.registry (toInt d.cqe.userData) = some slot := by
    unfold registryGet
    rw [hin]
    have hlt : (toInt d.cqe.userData).toNat < l.registry.slots.length := by
      rw [hr.slots]
      omega
    exact ⟨_, List.getElem?_eq_getElem hlt⟩
  obtain ⟨slot, hslot⟩ := hget
  unfold shutdownCqe
  rw [if_neg htag, hslot]
  dsimp only
  split
  · split
    · exact finishCqe_room hr hin
    · exact finishCqe_room hr hin
  · exact finishCqe_room hr hin

/-- The drain loop aborts exactly when it hits more often than there is room for. -/
theorem drain_aborts_iff (hr : l.registry.Room n) :
    Lib.run shutdownCqe l drained = .error .abort ↔
      n < (drainTargets l.registry drained).length := by
  induction drained generalizing l n with
  | nil => exact iff_of_false nofun (Nat.not_lt_zero n)
  | cons d drained ih =>
    unfold Lib.run
    cases hit : d.hits l.registry with
    | false =>
      rw [shutdownCqe_of_miss hit, drainTargets_cons_miss hit]
      exact ih hr
    | true =>
      rw [drainTargets_cons_hit hit, List.length_cons]
      rcases shutdownCqe_room hr hit with ⟨rfl, he⟩ | ⟨k, t, rfl, he, hsize, hk⟩
      · rw [he]
        exact iff_of_true rfl (Nat.succ_pos _)
      · rw [he, ← drainTargets_of_size hsize, Nat.add_lt_add_iff_right]
        exact ih hk

/-- Without an index in range nothing is removed. -/
theorem drain_of_misses (hm : ∀ d : Drained, d.hits l.registry = false) :
    ∃ t, Lib.run shutdownCqe l drained = .ok t := by
  induction drained generalizing l with
  | nil => exact ⟨l, rfl⟩
  | cons d drained ih =>
    unfold Lib.run
    rw [shutdownCqe_of_miss (hm d)]
    exact ih hm

theorem gracefulShutdown_aborts_iff {submit : Int} :
    gracefulShutdown l drained submit = .error .abort ↔
      Lib.run shutdownCqe l drained = .error .abort := by
  unfold gracefulShutdown
  cases Lib.run shutdownCqe l drained with
  | error e => exact Iff.rfl
  | ok t => exact iff_of_false nofun nofun

end Shutdown

/-! ## Runs -/

namespace System

variable {s t : System} {acts : List Act} {a : Act} {registrySize : Nat} {setup : SignalSetup}
  {wakeupFd submit : Int}

/-- The contexts of the managers do not come to `registry_remove`. -/
theorem stepContext_unaborted {p : PayloadId} {f : Loop → Except Stop Loop}
    (hf : Unaborted (f s.loop)) : Unaborted (s.stepContext p f) := by
  unfold stepContext
  split
  · intro h
    cases hl : f s.loop with
    | error e =>
      rw [hl] at h
      exact hf (hl.trans (congrArg Except.error (Except.error.inj h)))
    | ok l =>
      rw [hl] at h
      exact absurd h nofun
  · exact nofun

theorem openBuffers_unaborted {l : Loop} {context : ExecutionContext} {p : PayloadId}
    {registered : Bool} {result : Int} :
    Unaborted (openBuffers l context p registered result) := by
  unfold openBuffers
  split
  · exact nofun
  · split
    · split
      · exact nofun
      · split
        · exact .ok
        · exact .ok
    · split
      · exact nofun
      · dsimp only
        split
        · exact .ok
        · exact .ok
    · split
      · exact nofun
      · exact .ok
    · exact .ok
    · exact .ok

/-- No call of an operation and no iteration of the reader aborts. -/
theorem Base.step_unaborted (h : s.Base) (ha : ∀ drained submit, a ≠ .shutdown drained submit) :
    Unaborted (s.step a) := by
  unfold System.step
  split
  · exact nofun
  · cases a with
    | call call env =>
      dsimp only
      unfold stepCall
      split
      · rename_i e he
        intro hab
        exact call.run_survives h.heap.contextOk h.registry.sound env
          (he.trans (congrArg Except.error (Except.error.inj hab)))
      · exact .ok
      · exact .ok
    | submit result => exact .ok
    | post seq res flags =>
      dsimp only
      unfold stepPost
      split
      · exact nofun
      · exact .ok
    | read env =>
      dsimp only
      unfold stepRead
      split
      · exact nofun
      · rename_i c cs hcq
        split
        · rename_i e he
          intro hab
          rw [Except.error.inj hab] at he
          cases hl : s.loop.registry.liveSlot (toInt c.userData) with
          | none =>
            rw [readCqe_of_dead hl] at he
            exact absurd he nofun
          | some slot =>
            obtain ⟨future, -, heq⟩ := readCqe_of_live env hl
            rw [heq] at he
            exact readLive_unaborted (h.registry.sound.valid_of_live hl) hl (h.slotFits hl) he
        · exact .ok
    | wake => exact .ok
    | newBuffers mode buffersObj buffers bgid unassigned => exact .ok
    | enterBuffers p registered result =>
      refine stepContext_unaborted ?_
      unfold BufferModeCtx.enter
      split
      · exact openBuffers_unaborted
      · exact .ok
    | enterContext p stream transferMode registered result =>
      refine stepContext_unaborted ?_
      unfold ExecutionContextCtx.enter
      split
      · exact openBuffers_unaborted
      · exact nofun
    | exitBuffers p token result =>
      dsimp only
      split
      · refine stepContext_unaborted ?_
        unfold BufferModeCtx.exit
        split
        · exact nofun
        · split
          · exact .ok
          · exact .ok
          all_goals exact .ok
      · exact nofun
    | stream stream => exact .ok
    | transfer transferMode => exact .ok
    | switch context =>
      dsimp only
      split
      · exact .ok
      · exact nofun
    | shutdown drained result => exact absurd rfl (ha drained result)

/-- The registry has room for the requests with a slot. -/
theorem Base.room (h : s.Base) (hv : s.loop.registry.Valid) :
    s.loop.registry.Room s.holders.length := by
  have hlen := (h.conserved hv).length
  have hfree := Lib.length_occupied hv.low (hv.stackLength ▸ hv.high)
  rw [List.length_map] at hlen
  change ((s.loop.registry.free.length : Nat) : Int) = _ at hfree
  exact ⟨hv.small, hv.slotsLength, by omega⟩

theorem Base.shutdown_aborts_iff (h : s.Base) (hd : s.down = false) {drained : List Drained}
    {result : Int} :
    s.step (.shutdown drained result) = .error .abort ↔
      drained.map Drained.cqe = s.loop.ring.cq ∧
        s.holders.length < (drainTargets s.loop.registry drained).length := by
  have hstep : s.step (.shutdown drained result) = .error .abort ↔
      drained.map Drained.cqe = s.loop.ring.cq ∧
        Lib.run shutdownCqe s.loop drained = .error .abort := by
    rw [← @gracefulShutdown_aborts_iff s.loop drained result]
    unfold System.step stepShutdown
    rw [hd]
    simp only [Bool.false_eq_true, if_false]
    split
    · rename_i hcq
      cases gracefulShutdown s.loop drained result with
      | error e =>
        refine ⟨fun he => ⟨hcq, ?_⟩, fun he => ?_⟩
        · exact congrArg Except.error (Except.error.inj he)
        · exact congrArg Except.error (Except.error.inj he.2)
      | ok l => exact iff_of_false nofun fun he => absurd he.2 nofun
    · rename_i hcq
      exact iff_of_false nofun fun he => hcq he.1
  rw [hstep]
  refine and_congr_right fun _ => ?_
  rcases h.registry.sound with hv | ⟨-, hin⟩
  · exact drain_aborts_iff (h.room hv)
  · have hmiss : ∀ d : Drained, d.hits s.loop.registry = false := fun d => by
      unfold Drained.hits
      rw [hin, Bool.and_false]
    have hnone : drainTargets s.loop.registry drained = [] := by
      unfold drainTargets
      rw [List.filter_eq_nil_iff.mpr fun d _ => by rw [hmiss d]; decide]
      rfl
    obtain ⟨t, ht⟩ := @drain_of_misses _ drained hmiss
    rw [ht, hnone]
    exact iff_of_false nofun (Nat.not_lt_zero _)

/-- In every run of a new loop, up to the shutdown: the process aborts at a shutdown that
    drains more CQEs that decode to a slot than there are requests with one, and nowhere
    else. -/
theorem aborts_iff (h : registrySize < 2 ^ 32)
    (hr : (init (uringioLoopInit registrySize setup wakeupFd submit)).run acts = .ok t)
    (hd : t.down = false) (a : Act) :
    t.step a = .error .abort ↔ ∃ drained result, a = .shutdown drained result ∧
      drained.map Drained.cqe = t.loop.ring.cq ∧
      t.holders.length < (drainTargets t.loop.registry drained).length := by
  have hb := base_of_run (newLoop_base h) hr hd
  by_cases ha : ∃ drained result, a = .shutdown drained result
  · obtain ⟨drained, result, rfl⟩ := ha
    rw [hb.shutdown_aborts_iff hd]
    constructor
    · rintro ⟨hcq, hlen⟩
      exact ⟨drained, result, rfl, hcq, hlen⟩
    · rintro ⟨drained', result', he, hcq, hlen⟩
      obtain ⟨rfl, rfl⟩ := Act.shutdown.inj he
      exact ⟨hcq, hlen⟩
  · refine iff_of_false (hb.step_unaborted fun drained result he => ha ⟨drained, result, he⟩) ?_
    rintro ⟨drained, result, he, -⟩
    exact ha ⟨drained, result, he⟩

/-- The socket is made before the second is over, and the CQE of its timeout comes after that
    of the socket was read. -/
def lateTimeout : List Act :=
  [.call (.prepSocket 2 1 (some oneSecond)) .ok, .post 1 5 0, .read .ok, .post 2 (-125) 0]

theorem aborts_iff_lateTimeout :
    ∃ t, (init (uringioLoopInit 2 .failed 3 1)).run lateTimeout = .ok t ∧
      t.step (.shutdown [⟨⟨0, -125, 0, 2⟩, true⟩] 1) = .error .abort := by
  have hrun : ∃ t, (init (uringioLoopInit 2 .failed 3 1)).run lateTimeout = .ok t ∧
      t.down = false ∧ t.loop.ring.cq = [⟨0, -125, 0, 2⟩] ∧
      t.holders.length < (drainTargets t.loop.registry [⟨⟨0, -125, 0, 2⟩, true⟩]).length := by
    decide +kernel
  obtain ⟨t, ht, hd, hcq, hlen⟩ := hrun
  exact ⟨t, ht, (aborts_iff (by decide) ht hd _).mpr ⟨_, 1, rfl, hcq.symm, hlen⟩⟩

end System

end Uringio
