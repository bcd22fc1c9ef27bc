/-
  The references that the reader and the shutdown drop.

  `registry_remove` drops what the slot counts, at the end of every CQE that is not skipped.
  The reference of the creation goes with the result: `Py_DECREF(result)` after `set_result`
  drops that of the File of an open and of the Socket of a `prep_socket`, so an error and the
  shutdown leave it. Without the notes these are the functions of the other modules.
-/
import Uringio.Loop.Shutdown
import Uringio.PyOps.References
import Uringio.Reader.Objects

namespace Uringio

open Lib Program Noted RefEvent

/-- A loop with the references noted so far. -/
abbrev NotedLoop : Type := Noted Loop (RefEvent PyObj)

namespace References

/-- The end of an iteration that did not `continue`. -/
def finishCqe (s : NotedLoop) (index : Int) : Except Stop NotedLoop :=
  (Uringio.finishCqe s.state index).map fun l =>
    ⟨l, s.notes ++ decrefs (s.state.registry.dropped index)⟩

/-- `Py_DECREF(result)`: a File or Socket of the slot loses the reference of its creation, a
    new Socket the one it was made with. -/
def resultRefs (l : Loop) : Option ResultValue → List (RefEvent PyObj)
  | some (.file id) => [.decref (.file id)]
  | some (.socket id) => [.decref (.socket id)]
  | some (.connection _ _ _) =>
    [.incref (.socket (l.sockets.length - 1)), .decref (.socket (l.sockets.length - 1))]
  | _ => []

/-- A CQE of a live slot. -/
def readLive (env : ReadEnv) (s : NotedLoop) (index : Int) (slot : RequestSlot)
    (future : FutureId) (c : Cqe) : Except Stop NotedLoop :=
  if c.res < 0 ∧ ¬ timeoutExpired slot c then
    let l := if env.exc then s.state.callFuture future (.setException (.osError (-c.res)))
      else s.state
    finishCqe ⟨l, s.notes⟩ index
  else if c.userData = wakeupFdTag then .ok ⟨rearmWakeup s.state, s.notes⟩
  else
    match complete env s.state index slot c with
    | .error e => .error e
    | .ok (.skip, l) => .ok ⟨l.cqeSeen, s.notes⟩
    | .ok (.value none, l) => finishCqe ⟨l, s.notes⟩ index
    | .ok (.value (some v), l) =>
      finishCqe ⟨l.callFuture future (.setResult v), s.notes ++ resultRefs l (some v)⟩ index

/-- One iteration of `on_uring_ready`. -/
def readCqe (env : ReadEnv) (s : NotedLoop) (c : Cqe) : Except Stop NotedLoop :=
  let index := toInt c.userData
  match registryGet s.state.registry index with
  | none => .ok ⟨s.state.cqeSeen, s.notes⟩
  | some slot =>
    match slot.future with
    | none => .ok ⟨s.state.cqeSeen, s.notes⟩
    | some future => readLive env s index slot future c

/-- One iteration of the drain loop of `graceful_shutdown`. -/
def shutdownCqe (s : NotedLoop) (d : Drained) : Except Stop NotedLoop :=
  if d.cqe.userData = wakeupFdTag then .ok ⟨s.state.cqeSeen, s.notes⟩
  else
    match registryGet s.state.registry (toInt d.cqe.userData) with
    | none => .ok ⟨s.state.cqeSeen, s.notes⟩
    | some slot =>
      let l := match slot.future with
        | some future => if d.exc then s.state.callFuture future closedCall else s.state
        | none => s.state
      finishCqe ⟨l, s.notes⟩ (toInt d.cqe.userData)

/-- `graceful_shutdown`; `registry_destroy` drops what the slots that are left count. -/
def gracefulShutdown (s : NotedLoop) (drained : List Drained) (submit : Int) :
    Except Stop NotedLoop :=
  (Lib.run shutdownCqe s drained).map fun s =>
    ⟨shutdownTail s.state submit, s.notes ++ decrefs s.state.registry.allDropped⟩

/-! ## Without the notes -/

section Erasure

variable {env : ReadEnv} {s : NotedLoop} {index : Int} {slot : RequestSlot} {future : FutureId}
  {c : Cqe}

theorem finishCqe_erases :
    (finishCqe s index).map Noted.state = Uringio.finishCqe s.state index := by
  unfold finishCqe
  cases Uringio.finishCqe s.state index with
  | error e => rfl
  | ok l => rfl

theorem readLive_erases : (readLive env s index slot future c).map Noted.state =
    Uringio.readLive env s.state index slot future c := by
  unfold readLive Uringio.readLive
  split
  · exact finishCqe_erases
  · split
    · rfl
    · cases complete env s.state index slot c with
      | error e => rfl
      | ok r =>
        obtain ⟨r, l⟩ := r
        cases r with
        | skip => rfl
        | value v =>
          cases v with
          | none => exact finishCqe_erases
          | some v => exact finishCqe_erases

theorem readCqe_erases : (readCqe env s c).map Noted.state = Uringio.readCqe env s.state c := by
  unfold readCqe Uringio.readCqe
  dsimp only
  cases registryGet s.state.registry (toInt c.userData) with
  | none => rfl
  | some slot =>
    dsimp only
    cases slot.future with
    | none => rfl
    | some future => exact readLive_erases

theorem shutdownCqe_erases (d : Drained) :
    (shutdownCqe s d).map Noted.state = Uringio.shutdownCqe s.state d := by
  unfold shutdownCqe Uringio.shutdownCqe
  split
  · rfl
  · cases registryGet s.state.registry (toInt d.cqe.userData) with
    | none => rfl
    | some slot => exact finishCqe_erases

theorem run_shutdownCqe_erases (drained : List Drained) :
    (Lib.run shutdownCqe s drained).map Noted.state =
      Lib.run Uringio.shutdownCqe s.state drained := by
  induction drained generalizing s with
  | nil => rfl
  | cons d drained ih =>
    have hd := shutdownCqe_erases (s := s) d
    unfold Lib.run
    rw [← hd]
    cases shutdownCqe s d with
    | error e => rfl
    | ok t => exact ih

theorem gracefulShutdown_erases (drained : List Drained) (submit : Int) :
    (gracefulShutdown s drained submit).map Noted.state =
      Uringio.gracefulShutdown s.state drained submit := by
  unfold gracefulShutdown Uringio.gracefulShutdown
  rw [← run_shutdownCqe_erases]
  cases Lib.run shutdownCqe s drained with
  | error e => rfl
  | ok t => rfl

end Erasure

/-! ## The branches leave the owners -/

section Branches

variable {env : ReadEnv} {l l1 : Loop} {reg : RequestRegistry} {index : Int} {slot : RequestSlot}
  {c : Cqe} {r : BranchResult}

theorem releaseFixed_registry {p : PayloadId} {b : BufferPayload}
    (h : releaseFixed l p b = .ok l1) : l1.registry = l.registry := by
  unfold releaseFixed at h
  split at h
  · split at h
    · cases h
    · cases h
      rfl
  · cases h
    rfl

theorem keepsOwners_of_registry (h : l1.registry = l.registry) :
    RequestRegistry.KeepsOwners l.registry l1.registry := by
  rw [h]
  exact .refl _

theorem modifySlot_keeps {f : RequestSlot → RequestSlot}
    (hf : ∀ slot, (f slot).owners = slot.owners) (h : RequestRegistry.KeepsOwners reg l.registry) :
    RequestRegistry.KeepsOwners reg (l.modifySlot index f).registry :=
  h.trans (.modify hf index.toNat)

theorem releaseSlotPayload_keeps (slot : RequestSlot) (force : Bool)
    (h : RequestRegistry.KeepsOwners reg l.registry) :
    RequestRegistry.KeepsOwners reg (l.releaseSlotPayload index slot force).registry :=
  h.trans (.modify (f := fun s => { s with bufferPayload := none }) (fun _ => rfl) index.toNat)

theorem releaseFixed_keeps {p : PayloadId} {b : BufferPayload} (h : releaseFixed l p b = .ok l1) :
    RequestRegistry.KeepsOwners l.registry l1.registry :=
  keepsOwners_of_registry (releaseFixed_registry h)

theorem completeRecvmsg_keeps (h : completeRecvmsg env l index slot c = .ok (r, l1)) :
    RequestRegistry.KeepsOwners l.registry l1.registry := by
  unfold completeRecvmsg at h
  obtain ⟨⟨p, b⟩, -, h⟩ := except_bind_ok h
  obtain ⟨l2, hfixed, h⟩ := except_bind_ok h
  have h2 := releaseFixed_keeps hfixed
  split at h
  · unfold completeRecvmsgMultishot at h
    obtain ⟨linear, -, h⟩ := except_bind_ok h
    dsimp only at h
    split at h
    · split at h
      · cases h
        exact h2
      · cases h
    · cases h
      exact h2
  · split at h
    · obtain ⟨linear, -, h⟩ := except_bind_ok h
      cases h
      exact releaseSlotPayload_keeps slot false
        (modifySlot_keeps (f := fun s => { s with addr := none }) (fun _ => rfl) h2)
    · obtain ⟨v, -, h⟩ := except_bind_ok h
      cases h
      exact releaseSlotPayload_keeps slot false h2

theorem completeRecv_keeps (h : completeRecv env l index slot c = .ok (r, l1)) :
    RequestRegistry.KeepsOwners l.registry l1.registry := by
  unfold completeRecv at h
  split at h
  · obtain ⟨⟨p, b⟩, -, h⟩ := except_bind_ok h
    dsimp only at h
    split at h
    · obtain ⟨v, -, h⟩ := except_bind_ok h
      obtain ⟨l2, hfixed, h⟩ := except_bind_ok h
      cases h
      exact releaseSlotPayload_keeps slot false (releaseFixed_keeps hfixed)
    · obtain ⟨linear, -, h⟩ := except_bind_ok h
      obtain ⟨v, -, h⟩ := except_bind_ok h
      obtain ⟨l2, hfixed, h⟩ := except_bind_ok h
      cases h
      exact releaseSlotPayload_keeps slot false (releaseFixed_keeps hfixed)
  · cases h
    exact .refl _

/-- A branch clears the payload or the address of its slot, and nothing else there. -/
theorem complete_keeps (h : complete env l index slot c = .ok (r, l1)) :
    RequestRegistry.KeepsOwners l.registry l1.registry := by
  unfold complete at h
  cases hop : slot.opcode with
  | timeout | nop | fsync | splice | other _ =>
    rw [hop] at h
    cases h
    exact .refl _
  | openat2 =>
    simp only [hop, completeOpenat2] at h
    split at h
    · cases h
      exact .refl _
    · cases h
      exact .refl _
  | socket =>
    simp only [hop, completeSocket] at h
    split at h
    · cases h
      exact .refl _
    · cases h
      exact .refl _
  | bind | connect | listen =>
    simp only [hop, completeSocketNumber] at h
    split at h
    · cases h
      exact .refl _
    · cases h
      exact .refl _
  | accept =>
    simp only [hop, completeAccept] at h
    split at h
    · cases h
      exact .refl _
    · split at h
      · cases h
        exact .refl _
      · split at h
        · cases h
        · cases h
          exact modifySlot_keeps (f := fun s => { s with bufferPayload := none }) (fun _ => rfl)
            (.refl _)
  | close =>
    simp only [hop, completeClose] at h
    split at h
    · cases h
      exact .refl _
    · cases h
      exact .refl _
    · cases h
      exact .refl _
  | writev =>
    simp only [hop, completeWritev] at h
    split at h
    · cases h
      exact releaseSlotPayload_keeps slot false (.refl _)
    · cases h
      exact .refl _
  | write =>
    simp only [hop, completeWrite] at h
    obtain ⟨⟨p, b⟩, -, h⟩ := except_bind_ok h
    obtain ⟨l2, hfixed, h⟩ := except_bind_ok h
    cases h
    exact releaseSlotPayload_keeps slot true (releaseFixed_keeps hfixed)
  | readv =>
    simp only [hop, completeReadv] at h
    obtain ⟨⟨p, b⟩, -, h⟩ := except_bind_ok h
    obtain ⟨v, -, h⟩ := except_bind_ok h
    cases h
    exact releaseSlotPayload_keeps slot false (.refl _)
  | read =>
    simp only [hop, completeRead] at h
    obtain ⟨⟨p, b⟩, -, h⟩ := except_bind_ok h
    obtain ⟨linear, -, h⟩ := except_bind_ok h
    obtain ⟨l2, hfixed, h⟩ := except_bind_ok h
    cases h
    exact releaseSlotPayload_keeps slot false (releaseFixed_keeps hfixed)
  | send | sendmsg =>
    simp only [hop, completeSend] at h
    split at h
    · cases h
      exact .refl _
    · obtain ⟨b, -, h⟩ := except_bind_ok h
      obtain ⟨l2, hfixed, h⟩ := except_bind_ok h
      cases h
      exact releaseSlotPayload_keeps slot false (releaseFixed_keeps hfixed)
  | recv =>
    rw [hop] at h
    exact completeRecv_keeps h
  | recvmsg =>
    rw [hop] at h
    exact completeRecvmsg_keeps h

end Branches

/-! ## One CQE -/

section Cqes

variable {env : ReadEnv} {l : Loop} {s t : NotedLoop} {index : Int} {slot : RequestSlot}
  {future : FutureId} {c : Cqe}

theorem resultRefs_of_plain {v : Option ResultValue} (h : v.filter ResultValue.isObject = none) :
    resultRefs l v = [] := by
  unfold resultRefs
  split
  all_goals first | rfl | exact absurd h (by simp [ResultValue.isObject])

/-- The result of a branch has the reference of the creation. -/
theorem resultRefs_moves {v : Option ResultValue} (h : HandsOver env slot c (.value v)) :
    Moves ↑slot.created (resultRefs l v) 0 := by
  unfold HandsOver at h
  split at h
  · cases h
  obtain ⟨w, hw, hobj⟩ := h
  obtain rfl := BranchResult.value.inj hw
  have hplain : slot.handedOver c.res = none → Moves 0 (resultRefs l v) 0 := by
    intro hnone
    rw [resultRefs_of_plain (hobj.trans hnone)]
    exact .nil
  have hgiven : ∀ {w : ResultValue}, slot.handedOver c.res = some w → v = some w := fun hw =>
    (Option.filter_eq_some_iff.mp (hobj.trans hw)).1
  obtain ⟨_, _, _, _, opcode, file, socket, _, _⟩ := slot
  cases opcode with
  | openat2 =>
    cases file with
    | none => exact hplain rfl
    | some file =>
      rw [hgiven rfl]
      exact .decref
  | socket =>
    cases socket with
    | none => exact hplain rfl
    | some sock =>
      rw [hgiven rfl]
      exact .decref
  | accept =>
    cases socket with
    | none => exact hplain rfl
    | some sock =>
      rw [hgiven rfl]
      exact Moves.incref.append .decref
  | _ => exact hplain rfl

/-- The CQE is an error, and no expired timeout. -/
def Failed (slot : RequestSlot) (c : Cqe) : Prop := c.res < 0 ∧ ¬ timeoutExpired slot c = true

instance : Decidable (Failed slot c) := inferInstanceAs (Decidable (_ ∧ _))

/-- What the reader loses with a CQE: after an error nobody drops the reference of the
    creation. -/
def lostByRead (l : Loop) (c : Cqe) : Multiset PyObj :=
  match l.registry.liveSlot (toInt c.userData) with
  | some slot => if Failed slot c then ↑slot.created else 0
  | none => 0

/-- The end of an iteration: the references of the slot are dropped. -/
theorem finishCqe_moves {reg : RequestRegistry} (hb : reg.Bare) (hc : reg.Covered)
    (hk : RequestRegistry.KeepsOwners reg s.state.registry) (h : finishCqe s index = .ok t) :
    t.state.registry.Bare ∧ t.notes = s.notes ++ decrefs (reg.dropped index) ∧
      t.state.registry.owned + (↑(reg.createdAt index) + ↑(reg.dropped index)) = reg.owned := by
  unfold finishCqe at h
  cases hf : Uringio.finishCqe s.state index with
  | error e =>
    rw [hf] at h
    cases h
  | ok l =>
    rw [hf] at h
    cases h
    unfold Uringio.finishCqe at hf
    cases hrem : registryRemove s.state.registry s.state.heap index with
    | error e =>
      rw [hrem] at hf
      cases hf
    | ok removed =>
      rw [hrem] at hf
      cases hf
      obtain ⟨hbare, -, howned, -⟩ := (hk.bare hb).remove (hk.covered hc) hrem
      rw [hk.createdAt, hk.dropped, hk.owned] at howned
      exact ⟨hbare, congrArg (s.notes ++ decrefs ·) (hk.dropped index), howned⟩

/-- A CQE of a live slot. -/
theorem readLive_moves (hv : l.registry.Valid) (hb : l.registry.Bare)
    (hl : l.registry.liveSlot (toInt c.userData) = some slot)
    (h : readLive env ⟨l, []⟩ (toInt c.userData) slot future c = .ok t) :
    t.state.registry.Bare ∧
      Moves l.registry.owned t.notes
        (t.state.registry.owned + (if Failed slot c then ↑slot.created else 0)) := by
  have hc : l.registry.Covered := RequestRegistry.Sound.covered (.inl hv)
  have hdropped := hv.dropped_of_live hl
  have hcreated := hv.createdAt_of_live hl
  -- The end of the iteration, after `given` was noted of the reference of the creation.
  have hfinish : ∀ {l2 : Loop} {given : List (RefEvent PyObj)} {lost : Multiset PyObj},
      RequestRegistry.KeepsOwners l.registry l2.registry → Moves ↑slot.created given lost →
      finishCqe ⟨l2, given⟩ (toInt c.userData) = .ok t →
      t.state.registry.Bare ∧ Moves l.registry.owned t.notes (t.state.registry.owned + lost) := by
    intro l2 given lost hk hgiven hf
    obtain ⟨hbare, hnotes, howned⟩ := finishCqe_moves hb hc hk hf
    rw [hdropped] at hnotes howned
    rw [hcreated] at howned
    refine ⟨hbare, ?_⟩
    have hfirst : Moves l.registry.owned given
        ((↑slot.references : Multiset PyObj) + (t.state.registry.owned + lost)) :=
      (hgiven.frame (t.state.registry.owned + ↑slot.references)).of_eq
        (by rw [← howned]; ac_rfl) (by ac_rfl)
    have hlast : Moves ((↑slot.references : Multiset PyObj) + (t.state.registry.owned + lost))
        (decrefs slot.references) (t.state.registry.owned + lost) :=
      (Moves.decrefs.frame _).of_eq rfl (Multiset.zero_add _).symm
    rw [hnotes]
    exact hfirst.append hlast
  unfold readLive at h
  split at h
  · rename_i hres
    have hfailed : Failed slot c := hres
    rw [if_pos hfailed]
    refine hfinish (keepsOwners_of_registry ?_) .nil h
    split
    · rfl
    · rfl
  · rename_i hres
    have hfailed : ¬ Failed slot c := hres
    rw [if_neg hfailed]
    rw [if_neg (ne_wakeupFdTag_of_live hl)] at h
    cases he : complete env l (toInt c.userData) slot c with
    | error e =>
      rw [he] at h
      cases h
    | ok r =>
      obtain ⟨r, l2⟩ := r
      have hk := complete_keeps he
      rw [he] at h
      cases r with
      | skip =>
        cases h
        refine ⟨hk.bare hb, ?_⟩
        rw [Multiset.add_zero, show l2.cqeSeen.registry = l2.registry from rfl, hk.owned]
        exact .nil
      | value v =>
        have hgiven := resultRefs_moves (l := l2) (complete_object he)
        cases v with
        | none => exact hfinish hk hgiven h
        | some v =>
          have hk' : RequestRegistry.KeepsOwners l.registry
              (l2.callFuture future (.setResult v)).registry := hk
          exact hfinish hk' hgiven h

/-- Every reference that the library held for its requests it still holds, drops or loses. -/
theorem readCqe_moves (hs : l.registry.Sound) (hb : l.registry.Bare)
    (h : readCqe env ⟨l, []⟩ c = .ok t) :
    t.state.registry.Bare ∧
      Moves l.registry.owned t.notes (t.state.registry.owned + lostByRead l c) := by
  unfold lostByRead
  cases hl : l.registry.liveSlot (toInt c.userData) with
  | none =>
    have hdead : t = ⟨l.cqeSeen, []⟩ := by
      unfold RequestRegistry.liveSlot at hl
      unfold readCqe at h
      cases hg : registryGet l.registry (toInt c.userData) with
      | none =>
        simp only [hg] at h
        exact (Except.ok.inj h).symm
      | some slot =>
        rw [hg] at hl
        cases hf : slot.future with
        | none =>
          simp only [hg, hf] at h
          exact (Except.ok.inj h).symm
        | some f => simp [hf] at hl
    subst hdead
    exact ⟨hb, Moves.nil.of_eq rfl (Multiset.add_zero _)⟩
  | some slot =>
    obtain ⟨hg, hf⟩ := RequestRegistry.liveSlot_eq_some.mp hl
    obtain ⟨future, hf⟩ := Option.isSome_iff_exists.mp hf
    unfold readCqe at h
    simp only [hg, hf] at h
    exact readLive_moves (hs.valid_of_live hl) hb hl h

/-- The slot of a CQE stays when its branch skips it, and goes at the end of every other. -/
theorem readCqe_vacates {l1 : Loop} (hl : l.registry.liveSlot (toInt c.userData) = some slot)
    (h : Uringio.readCqe env l c = .ok l1) :
    l1.registry.liveSlot (toInt c.userData) = none ↔
      Failed slot c ∨ slot.skipped env = false := by
  have hfinish : ∀ {l2 : Loop}, Uringio.finishCqe l2 (toInt c.userData) = .ok l1 →
      l1.registry.liveSlot (toInt c.userData) = none := by
    intro l2 hf
    unfold Uringio.finishCqe at hf
    split at hf
    · cases hf
    · rename_i registry heap hrem
      cases hf
      exact RequestRegistry.liveSlot_registryRemove hrem
  obtain ⟨future, -, hread⟩ := readCqe_of_live env hl
  rw [hread] at h
  unfold Uringio.readLive at h
  split at h
  · rename_i hres
    exact iff_of_true (hfinish h) (.inl hres)
  · rename_i hres
    have hfailed : ¬ Failed slot c := hres
    rw [if_neg (ne_wakeupFdTag_of_live hl)] at h
    cases he : complete env l (toInt c.userData) slot c with
    | error e =>
      rw [he] at h
      cases h
    | ok r =>
      obtain ⟨r, l2⟩ := r
      have hobj := complete_object he
      rw [he] at h
      unfold HandsOver at hobj
      split at hobj
      · rename_i hskip
        rw [hobj] at h
        cases h
        refine iff_of_false (fun hdead => ?_) (by simp [hfailed, hskip])
        rw [(complete_keeps he).dead hdead] at hl
        cases hl
      · rename_i hskip
        obtain ⟨v, rfl, -⟩ := hobj
        refine iff_of_true ?_ (.inr (by simpa using hskip))
        cases v with
        | none => exact hfinish h
        | some v => exact hfinish h

/-! ## The shutdown -/

/-- One iteration of the drain loop, with what it drops. -/
theorem shutdownCqe_drops {d : Drained} (hb : s.state.registry.Bare) (hc : s.state.registry.Covered)
    (h : shutdownCqe s d = .ok t) :
    t.state.registry.Bare ∧ t.state.registry.Covered ∧ ∃ objs, t.notes = s.notes ++ decrefs objs ∧
      t.state.registry.counted + ↑objs = s.state.registry.counted := by
  have hsame : ∀ {l : Loop}, l.registry = s.state.registry → t = ⟨l, s.notes⟩ →
      t.state.registry.Bare ∧ t.state.registry.Covered ∧
        ∃ objs, t.notes = s.notes ++ decrefs objs ∧
          t.state.registry.counted + ↑objs = s.state.registry.counted := by
    rintro l hl rfl
    refine ⟨hl ▸ hb, hl ▸ hc, [], (List.append_nil _).symm, ?_⟩
    show l.registry.counted + 0 = _
    rw [hl, Multiset.add_zero]
  unfold shutdownCqe at h
  split at h
  · exact hsame (l := s.state.cqeSeen) rfl (Except.ok.inj h).symm
  · split at h
    · exact hsame (l := s.state.cqeSeen) rfl (Except.ok.inj h).symm
    · rename_i slot _
      generalize hl2 : (match slot.future with
        | some future => if d.exc then s.state.callFuture future closedCall else s.state
        | none => s.state) = l2 at h
      have hreg : l2.registry = s.state.registry := by
        rw [← hl2]
        cases slot.future with
        | none => rfl
        | some future =>
          dsimp only
          split
          · rfl
          · rfl
      unfold finishCqe at h
      cases hf : Uringio.finishCqe l2 (toInt d.cqe.userData) with
      | error e =>
        simp only [hf] at h
        cases h
      | ok l3 =>
        simp only [hf] at h
        cases h
        unfold Uringio.finishCqe at hf
        rw [hreg] at hf
        split at hf
        · cases hf
        · rename_i registry heap hrem
          cases hf
          obtain ⟨hbare, hcovered, -, hcounted⟩ := hb.remove hc hrem
          refine ⟨hbare, hcovered, _, ?_, hcounted⟩
          exact congrArg (fun reg : RequestRegistry =>
            s.notes ++ decrefs (reg.dropped (toInt d.cqe.userData))) hreg

theorem run_shutdownCqe_drops {drained : List Drained} (hb : s.state.registry.Bare)
    (hc : s.state.registry.Covered) (h : Lib.run shutdownCqe s drained = .ok t) :
    ∃ objs, t.notes = s.notes ++ decrefs objs ∧
      t.state.registry.counted + ↑objs = s.state.registry.counted := by
  induction drained generalizing s with
  | nil =>
    obtain rfl := Except.ok.inj h
    exact ⟨[], (List.append_nil _).symm, Multiset.add_zero _⟩
  | cons d drained ih =>
    obtain ⟨u, hu, ht⟩ := Lib.run_cons_ok.mp h
    obtain ⟨hbare, hcovered, objs, hnotes, hcounted⟩ := shutdownCqe_drops hb hc hu
    obtain ⟨more, hmore, hrest⟩ := ih hbare hcovered ht
    refine ⟨objs ++ more, ?_, ?_⟩
    · rw [hmore, hnotes, List.append_assoc]
      exact congrArg (s.notes ++ ·) List.map_append.symm
    · rw [← hcounted, ← hrest, ← Multiset.coe_add, Multiset.add_assoc]
      exact congrArg (t.state.registry.counted + ·) (Multiset.add_comm _ _)

/-- The shutdown drops what the slots count, and loses the objects that requests have created. -/
theorem gracefulShutdown_moves {drained : List Drained} {submit : Int} (hb : l.registry.Bare)
    (hc : l.registry.Covered) (h : gracefulShutdown ⟨l, []⟩ drained submit = .ok t) :
    Moves l.registry.owned t.notes l.registry.created := by
  unfold gracefulShutdown at h
  cases hrun : Lib.run shutdownCqe ⟨l, []⟩ drained with
  | error e =>
    rw [hrun] at h
    cases h
  | ok u =>
    rw [hrun] at h
    cases h
    obtain ⟨objs, hnotes, hcounted⟩ := run_shutdownCqe_drops hb hc hrun
    have hnotes : u.notes = decrefs objs := hnotes
    have hall : Moves l.registry.counted (u.notes ++ decrefs u.state.registry.allDropped) 0 := by
      rw [hnotes, ← hcounted]
      refine Moves.append (b := ↑u.state.registry.allDropped) ?_ .decrefs
      exact (Moves.decrefs.frame _).of_eq
        (by rw [RequestRegistry.coe_allDropped, Multiset.add_comm]) (Multiset.zero_add _).symm
    exact (hall.frame l.registry.created).of_eq
      (by rw [RequestRegistry.owned_eq, Multiset.add_comm]) (Multiset.zero_add _).symm

end Cqes

end References

end Uringio
