/-
  The results of the reader that are objects: the File of an open, the Socket of a socket
  request, and the new Socket of an accept.

  Only these three branches hand an object to the future, and only they write a descriptor
  into one (`complete_object`, `complete_stores`).
-/
import Uringio.Reader.Handled

namespace Uringio

/-- The result is a File or a Socket. -/
def ResultValue.isObject : ResultValue → Bool
  | .file _ | .socket _ | .connection _ _ _ => true
  | _ => false

/-- The operations that give their future an object. -/
def Opcode.givesObject : Opcode → Bool
  | .openat2 | .socket | .accept => true
  | _ => false

/-- The object that a branch hands over, for a slot that names one. -/
def RequestSlot.handedOver (slot : RequestSlot) (res : Int) : Option ResultValue :=
  match slot.opcode with
  | .openat2 => slot.file.map .file
  | .socket => slot.socket.map .socket
  | .accept => slot.socket.map fun listener => .connection res listener slot.addr
  | _ => none

/-- The result is an object of the loop that holds the descriptor. -/
def Loop.Stores (l : Loop) (v : ResultValue) (fd : Int) : Prop :=
  match v with
  | .file id => l.files[id]?.bind UringioFile.fd = some fd
  | .socket id => l.sockets[id]?.bind UringioSocket.sockFd = some fd
  | .connection n _ _ => n = fd ∧ l.sockets.getLast?.bind UringioSocket.sockFd = some fd
  | _ => False

instance (l : Loop) (v : ResultValue) (fd : Int) : Decidable (l.Stores v fd) := by
  unfold Loop.Stores
  split <;> infer_instance

theorem Loop.Stores.congr {l l1 : Loop} {v : ResultValue} {fd : Int}
    (hf : l1.files = l.files) (hs : l1.sockets = l.sockets) (h : l.Stores v fd) :
    l1.Stores v fd := by
  unfold Loop.Stores at h ⊢
  rw [hf, hs]
  exact h

theorem Loop.Stores.isObject {l : Loop} {v : ResultValue} {fd : Int} (h : l.Stores v fd) :
    v.isObject = true := by
  cases v with
  | file _ | socket _ | connection _ _ _ => rfl
  | _ => exact False.elim h

section Branches

variable {env : ReadEnv} {l l1 : Loop} {index : Int} {slot : RequestSlot} {c : Cqe}
  {r : BranchResult}

/-- The reader has no memory for the Socket of an accept. -/
def RequestSlot.skipped (slot : RequestSlot) (env : ReadEnv) : Bool :=
  slot.opcode == .accept && slot.socket.isSome && !env.object

/-- What a branch leaves of a result that may be an object. -/
def HandsOver (env : ReadEnv) (slot : RequestSlot) (c : Cqe) (r : BranchResult) : Prop :=
  if slot.skipped env then r = .skip
  else ∃ v, r = .value v ∧ v.filter ResultValue.isObject = slot.handedOver c.res

theorem handsOver_of_plain {v : Option ResultValue} (hop : slot.opcode.givesObject = false)
    (hv : v.filter ResultValue.isObject = none) : HandsOver env slot c (.value v) := by
  unfold HandsOver RequestSlot.skipped RequestSlot.handedOver
  cases h : slot.opcode with
  | openat2 | socket | accept =>
    rw [h] at hop
    exact absurd hop (by simp [Opcode.givesObject])
  | _ => exact ⟨v, rfl, hv⟩

theorem filter_number (n : Int) : (number env n).filter ResultValue.isObject = none := by
  unfold number
  split
  · rfl
  · rfl

theorem filter_bytesOf (buffer : Ptr) (res : Int) :
    (bytesOf env buffer res).filter ResultValue.isObject = none := by
  unfold bytesOf
  split
  · rfl
  · rfl

theorem filter_bytesOfVector {b : BufferPayload} {res : Int} {v : Option ResultValue}
    (h : bytesOfVector env b res = .ok v) : v.filter ResultValue.isObject = none := by
  unfold bytesOfVector at h
  split at h
  · obtain ⟨vec, -, h⟩ := except_bind_ok h
    cases h
    rfl
  · cases h
    rfl

/-- The three branches hand over the object of their slot, the others no object. -/
theorem complete_object (h : complete env l index slot c = .ok (r, l1)) :
    HandsOver env slot c r := by
  unfold complete at h
  cases hop : slot.opcode with
  | nop | fsync | splice | other _ =>
    simp only [hop] at h
    cases h
    exact handsOver_of_plain (by rw [hop]; rfl) (filter_number c.res)
  | timeout =>
    simp only [hop] at h
    cases h
    exact handsOver_of_plain (by rw [hop]; rfl) rfl
  | openat2 =>
    simp only [hop, completeOpenat2] at h
    unfold HandsOver
    rw [if_neg (by simp [RequestSlot.skipped, hop])]
    simp only [RequestSlot.handedOver, hop]
    split at h
    · rename_i file hf
      cases h
      exact ⟨_, rfl, by rw [hf]; rfl⟩
    · rename_i hf
      cases h
      exact ⟨_, rfl, by rw [hf]; rfl⟩
  | socket =>
    simp only [hop, completeSocket] at h
    unfold HandsOver
    rw [if_neg (by simp [RequestSlot.skipped, hop])]
    simp only [RequestSlot.handedOver, hop]
    split at h
    · rename_i sock hs
      cases h
      exact ⟨_, rfl, by rw [hs]; rfl⟩
    · rename_i hs
      cases h
      exact ⟨_, rfl, by rw [hs]; rfl⟩
  | accept =>
    simp only [hop, completeAccept] at h
    simp only [HandsOver, RequestSlot.skipped, RequestSlot.handedOver, hop]
    split at h
    · rename_i hs
      cases h
      rw [if_neg (by simp [hs])]
      exact ⟨none, rfl, by rw [hs]; rfl⟩
    · rename_i sock hs
      rw [hs]
      split at h
      · rename_i ho
        cases h
        rw [if_pos (by simpa using ho)]
      · rename_i ho
        rw [if_neg (by simpa using ho)]
        split at h
        · cases h
        · cases h
          exact ⟨_, rfl, rfl⟩
  | bind | connect | listen =>
    simp only [hop, completeSocketNumber] at h
    split at h
    · cases h
      exact handsOver_of_plain (by rw [hop]; rfl) (filter_number c.res)
    · cases h
      exact handsOver_of_plain (by rw [hop]; rfl) rfl
  | close =>
    simp only [hop, completeClose] at h
    split at h
    · cases h
      exact handsOver_of_plain (by rw [hop]; rfl) (filter_number c.res)
    · cases h
      exact handsOver_of_plain (by rw [hop]; rfl) (filter_number c.res)
    · cases h
      exact handsOver_of_plain (by rw [hop]; rfl) rfl
  | writev =>
    simp only [hop, completeWritev] at h
    split at h
    · cases h
      exact handsOver_of_plain (by rw [hop]; rfl) (filter_number c.res)
    · cases h
      exact handsOver_of_plain (by rw [hop]; rfl) (filter_number c.res)
  | write =>
    simp only [hop, completeWrite] at h
    obtain ⟨⟨p, b⟩, -, h⟩ := except_bind_ok h
    obtain ⟨l2, -, h⟩ := except_bind_ok h
    cases h
    exact handsOver_of_plain (by rw [hop]; rfl) (filter_number c.res)
  | readv =>
    simp only [hop, completeReadv] at h
    obtain ⟨⟨p, b⟩, -, h⟩ := except_bind_ok h
    obtain ⟨v, hv, h⟩ := except_bind_ok h
    cases h
    exact handsOver_of_plain (by rw [hop]; rfl) (filter_bytesOfVector hv)
  | read =>
    simp only [hop, completeRead] at h
    obtain ⟨⟨p, b⟩, -, h⟩ := except_bind_ok h
    obtain ⟨linear, -, h⟩ := except_bind_ok h
    obtain ⟨l2, -, h⟩ := except_bind_ok h
    cases h
    refine handsOver_of_plain (by rw [hop]; rfl) ?_
    split
    · rfl
    · exact filter_bytesOf linear.buffer c.res
  | recv =>
    simp only [hop, completeRecv] at h
    split at h
    · obtain ⟨⟨p, b⟩, -, h⟩ := except_bind_ok h
      dsimp only at h
      split at h
      · obtain ⟨v, hv, h⟩ := except_bind_ok h
        obtain ⟨l2, -, h⟩ := except_bind_ok h
        cases hv
        cases h
        refine handsOver_of_plain (by rw [hop]; rfl) ?_
        split
        · rfl
        · rfl
      · obtain ⟨linear, -, h⟩ := except_bind_ok h
        obtain ⟨v, hv, h⟩ := except_bind_ok h
        obtain ⟨l2, -, h⟩ := except_bind_ok h
        cases hv
        cases h
        exact handsOver_of_plain (by rw [hop]; rfl) (filter_bytesOf linear.buffer c.res)
    · cases h
      exact handsOver_of_plain (by rw [hop]; rfl) rfl
  | send | sendmsg =>
    simp only [hop, completeSend] at h
    split at h
    · cases h
      exact handsOver_of_plain (by rw [hop]; rfl) (filter_number c.res)
    · obtain ⟨b, -, h⟩ := except_bind_ok h
      obtain ⟨l2, -, h⟩ := except_bind_ok h
      cases h
      exact handsOver_of_plain (by rw [hop]; rfl) (filter_number c.res)
  | recvmsg =>
    simp only [hop, completeRecvmsg] at h
    obtain ⟨⟨p, b⟩, -, h⟩ := except_bind_ok h
    obtain ⟨l2, -, h⟩ := except_bind_ok h
    have hplain : ∀ v : Option ResultValue, v.filter ResultValue.isObject = none →
        HandsOver env slot c (.value v) := fun v hv =>
      handsOver_of_plain (by rw [hop]; rfl) hv
    split at h
    · unfold completeRecvmsgMultishot at h
      obtain ⟨linear, -, h⟩ := except_bind_ok h
      have hmessage : HandsOver env slot c (.value (if env.result then
          some (.message (c.flags >>> ioringCqeBufferShift) c.res) else none)) := by
        refine hplain _ ?_
        split
        · rfl
        · rfl
      dsimp only at h
      split at h
      · split at h
        · cases h
          exact hmessage
        · cases h
      · cases h
        exact hmessage
    · split at h
      · obtain ⟨linear, -, h⟩ := except_bind_ok h
        cases h
        exact hplain _ (filter_bytesOf linear.buffer c.res)
      · obtain ⟨v, hv, h⟩ := except_bind_ok h
        cases h
        exact hplain v (filter_bytesOfVector hv)

/-- The object that is handed over has got the descriptor of the CQE. -/
theorem complete_stores {v : ResultValue}
    (h : complete env l index slot c = .ok (.value (some v), l1))
    (hv : slot.handedOver c.res = some v)
    (hfile : ∀ id, slot.file = some id → id < l.files.length)
    (hsock : ∀ id, slot.socket = some id → id < l.sockets.length) : l1.Stores v c.res := by
  unfold complete at h
  unfold RequestSlot.handedOver at hv
  cases hop : slot.opcode with
  | openat2 =>
    simp only [hop, completeOpenat2] at h hv
    obtain ⟨id, hid, rfl⟩ := Option.map_eq_some_iff.mp hv
    rw [hid] at h
    cases h
    have hlt := hfile id hid
    simp [Loop.Stores, Loop.setFile, hlt]
  | socket =>
    simp only [hop, completeSocket] at h hv
    obtain ⟨id, hid, rfl⟩ := Option.map_eq_some_iff.mp hv
    rw [hid] at h
    cases h
    have hlt := hsock id hid
    simp [Loop.Stores, Loop.setSocket, hlt]
  | accept =>
    simp only [hop, completeAccept] at h hv
    obtain ⟨id, hid, rfl⟩ := Option.map_eq_some_iff.mp hv
    rw [hid] at h
    dsimp only at h
    split at h
    · cases h
    · split at h
      · cases h
      · cases h
        simp [Loop.Stores, Loop.modifySlot]
  | _ =>
    simp only [hop] at hv
    cases hv

/-- The branch of the slot hands over an object. -/
def RequestSlot.takes (slot : RequestSlot) (env : ReadEnv) : Bool :=
  slot.opcode.givesObject && !slot.skipped env

theorem handedOver_of_not_takes (ht : slot.takes env = false) (hs : slot.skipped env = false)
    (res : Int) : slot.handedOver res = none := by
  unfold RequestSlot.takes at ht
  rw [hs, Bool.not_false, Bool.and_true] at ht
  unfold RequestSlot.handedOver
  cases hop : slot.opcode with
  | openat2 | socket | accept =>
    rw [hop] at ht
    exact absurd ht (by simp [Opcode.givesObject])
  | _ => rfl

/-- The end of an iteration leaves the calls and the objects. -/
theorem finishCqe_objects (h : finishCqe l index = .ok l1) :
    l1.callLog = l.callLog ∧ l1.files = l.files ∧ l1.sockets = l.sockets := by
  unfold finishCqe at h
  split at h
  · cases h
  · cases h
    exact ⟨rfl, rfl, rfl⟩

/-- A success of a slot that takes it gives the future an object with the descriptor. -/
theorem readLive_takes {future : FutureId} (hv : l.registry.Valid)
    (hl : l.registry.liveSlot index = some slot) (hfit : SlotFits l.heap slot)
    (htag : c.userData ≠ wakeupFdTag) (hres : 0 ≤ c.res) (ht : slot.takes env = true)
    (hnames : (slot.handedOver c.res).isSome)
    (hfile : ∀ id, slot.file = some id → id < l.files.length)
    (hsock : ∀ id, slot.socket = some id → id < l.sockets.length)
    (h : readLive env l index slot future c = .ok l1) :
    ∃ v, l1.callLog = l.callLog ++ [(future, .setResult v)] ∧ l1.Stores v c.res := by
  obtain ⟨v, hv'⟩ := Option.isSome_iff_exists.mp hnames
  have hskip : slot.skipped env = false := by
    unfold RequestSlot.takes at ht
    simp only [Bool.and_eq_true, Bool.not_eq_true'] at ht
    exact ht.2
  unfold readLive at h
  rw [if_neg fun hn => absurd hn.1 (Int.not_lt.mpr hres), if_neg htag] at h
  cases hc : complete env l index slot c with
  | error e =>
    rw [hc] at h
    cases h
  | ok r =>
    obtain ⟨r, l2⟩ := r
    have hobj := complete_object hc
    unfold HandsOver at hobj
    rw [hskip, if_neg (by simp)] at hobj
    obtain ⟨w, rfl, hw⟩ := hobj
    rw [hv'] at hw
    obtain ⟨rfl, -⟩ := Option.filter_eq_some_iff.mp hw
    have hstores := complete_stores hc hv' hfile hsock
    rw [hc] at h
    obtain ⟨hlog, hfiles, hsockets⟩ := finishCqe_objects h
    refine ⟨v, hlog.trans ?_, hstores.congr hfiles hsockets⟩
    rcases complete_completed hv hl hfit hc with ⟨hr, -⟩ | ⟨v', -, hcomp⟩
    · cases hr
    · exact congrArg (· ++ [(future, FutureCall.setResult v)]) hcomp.callLog

/-- A CQE of another slot gives no object. -/
theorem readLive_gives_nothing {future : FutureId} (hv : l.registry.Valid)
    (hl : l.registry.liveSlot index = some slot) (hfit : SlotFits l.heap slot)
    (htag : c.userData ≠ wakeupFdTag) (ht : slot.takes env = false)
    (h : readLive env l index slot future c = .ok l1) :
    ∃ calls, l1.callLog = l.callLog ++ calls ∧
      ∀ e ∈ calls, ∀ v, e.2 = .setResult v → v.isObject = false := by
  unfold readLive at h
  split at h
  · refine ⟨if env.exc then [(future, .setException (.osError (-c.res)))] else [],
      (finishCqe_objects h).1.trans ?_, fun e he v hev => ?_⟩
    · split
      · rfl
      · exact (List.append_nil _).symm
    · split at he
      · rw [List.mem_singleton.mp he] at hev
        cases hev
      · exact absurd he List.not_mem_nil
  · split at h
    · cases h
    · rename_i l2 hc
      cases h
      rcases complete_completed hv hl hfit hc with ⟨-, -, -, rfl⟩ | ⟨v', hr, -⟩
      · exact ⟨[], (List.append_nil _).symm, fun e he => absurd he List.not_mem_nil⟩
      · cases hr
    · rename_i l2 hc
      rcases complete_completed hv hl hfit hc with ⟨hr, -⟩ | ⟨v', -, hcomp⟩
      · cases hr
      · refine ⟨[], ?_, fun e he => absurd he List.not_mem_nil⟩
        rw [List.append_nil]
        exact (finishCqe_objects h).1.trans hcomp.callLog
    · rename_i v l2 hc
      rcases complete_completed hv hl hfit hc with ⟨hr, -⟩ | ⟨v', -, hcomp⟩
      · cases hr
      · refine ⟨[(future, .setResult v)], (finishCqe_objects h).1.trans ?_, fun e he w hew => ?_⟩
        · exact congrArg (· ++ [(future, FutureCall.setResult v)]) hcomp.callLog
        · rw [List.mem_singleton.mp he] at hew
          obtain rfl := FutureCall.setResult.inj hew
          have hobj := complete_object hc
          unfold HandsOver at hobj
          split at hobj
          · cases hobj
          · rename_i hskip
            obtain ⟨x, hx, hfilter⟩ := hobj
            obtain rfl := BranchResult.value.inj hx
            rw [handedOver_of_not_takes ht (by simpa using hskip)] at hfilter
            simpa using hfilter

end Branches

end Uringio
