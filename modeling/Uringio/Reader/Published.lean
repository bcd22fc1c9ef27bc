/-
  Which descriptors the reader writes.

  A File and a Socket are made without a descriptor. The branches of `openat2` and `socket`
  store the result of the CQE in the object of their slot and hand it to the future, and no
  branch writes a descriptor into another object that is there (`readLive_publishes`).
-/
import Uringio.Reader.Objects

namespace Uringio

/-- The descriptor of an object, when it has one. -/
def Loop.descriptor (l : Loop) : ClosedFlag → Option Int
  | .file id => l.files[id]?.bind UringioFile.fd
  | .socket id => l.sockets[id]?.bind UringioSocket.sockFd

/-- The object exists. -/
def Loop.Has (l : Loop) : ClosedFlag → Prop
  | .file id => id < l.files.length
  | .socket id => id < l.sockets.length

/-- The object as a result. -/
def ClosedFlag.result : ClosedFlag → ResultValue
  | .file id => .file id
  | .socket id => .socket id

theorem ClosedFlag.result_inj {o o' : ClosedFlag} (h : o.result = o'.result) : o = o' := by
  cases o with
  | file id =>
    cases o' with
    | file id' => exact congrArg ClosedFlag.file (ResultValue.file.inj h)
    | socket id' => cases h
  | socket id =>
    cases o' with
    | file id' => cases h
    | socket id' => exact congrArg ClosedFlag.socket (ResultValue.socket.inj h)

/-- The object that a slot makes: the File of an open or the Socket of a socket request. -/
def RequestSlot.makes (slot : RequestSlot) : Option ClosedFlag :=
  match slot.opcode with
  | .openat2 => slot.file.map .file
  | .socket => slot.socket.map .socket
  | _ => none

/-- The objects that are there keep their descriptors, but for one. -/
def Loop.KeepsDescriptors (l l1 : Loop) (made : Option ClosedFlag) : Prop :=
  ∀ o, l.Has o → made ≠ some o → l1.descriptor o = l.descriptor o

namespace Loop.KeepsDescriptors

variable {l l1 l2 : Loop} {made : Option ClosedFlag}

theorem of_eq (hf : l1.files = l.files) (hs : l1.sockets = l.sockets) :
    l.KeepsDescriptors l1 made := by
  intro o _ _
  cases o with
  | file id =>
    unfold descriptor
    rw [hf]
  | socket id =>
    unfold descriptor
    rw [hs]

theorem congr (h : l.KeepsDescriptors l1 made) (hf : l2.files = l1.files)
    (hs : l2.sockets = l1.sockets) : l.KeepsDescriptors l2 made := by
  intro o ho hm
  refine .trans ?_ (h o ho hm)
  cases o with
  | file id =>
    unfold descriptor
    rw [hf]
  | socket id =>
    unfold descriptor
    rw [hs]

/-- A change of one entry, as seen in a field that it leaves alone. -/
theorem bind_modify {α : Type} {xs : List α} {i j : Nat} {f : α → α} {field : α → Option Int}
    (h : i = j → ∀ x, field (f x) = field x) :
    (xs.modify i f)[j]?.bind field = xs[j]?.bind field := by
  rw [List.getElem?_modify]
  cases xs[j]? with
  | none => rfl
  | some x =>
    show field (if i = j then f x else x) = field x
    split
    · rename_i hij
      exact h hij x
    · rfl

/-- A change of one File that leaves its descriptor, or of the one that is made. -/
theorem setFile {id : FileId} {f : UringioFile → UringioFile}
    (h : made = some (.file id) ∨ ∀ x, (f x).fd = x.fd) :
    l.KeepsDescriptors (l.setFile id f) made := by
  intro o _ hm
  cases o with
  | socket i => rfl
  | file i =>
    refine bind_modify fun hi x => ?_
    rcases h with h | h
    · exact absurd (h.trans (congrArg (fun j => some (ClosedFlag.file j)) hi)) hm
    · exact h x

theorem setSocket {id : SocketId} {f : UringioSocket → UringioSocket}
    (h : made = some (.socket id) ∨ ∀ x, (f x).sockFd = x.sockFd) :
    l.KeepsDescriptors (l.setSocket id f) made := by
  intro o _ hm
  cases o with
  | file i => rfl
  | socket i =>
    refine bind_modify fun hi x => ?_
    rcases h with h | h
    · exact absurd (h.trans (congrArg (fun j => some (ClosedFlag.socket j)) hi)) hm
    · exact h x

/-- New objects are others. -/
theorem grow {files : List UringioFile} {sockets : List UringioSocket}
    (hf : l1.files = l.files ++ files) (hs : l1.sockets = l.sockets ++ sockets) :
    l.KeepsDescriptors l1 made := by
  intro o ho _
  cases o with
  | file id =>
    show l1.files[id]?.bind _ = l.files[id]?.bind _
    rw [hf, List.getElem?_append_left ho]
  | socket id =>
    show l1.sockets[id]?.bind _ = l.sockets[id]?.bind _
    rw [hs, List.getElem?_append_left ho]

end Loop.KeepsDescriptors

section Branches

variable {env : ReadEnv} {l l1 : Loop} {index : Int} {slot : RequestSlot} {c : Cqe}
  {r : BranchResult} {made : Option ClosedFlag}

theorem releaseFixed_descriptors {p : PayloadId} {b : BufferPayload}
    (h : releaseFixed l p b = .ok l1) : l1.files = l.files ∧ l1.sockets = l.sockets := by
  unfold releaseFixed at h
  split at h
  · split at h
    · cases h
    · cases h
      exact ⟨rfl, rfl⟩
  · cases h
    exact ⟨rfl, rfl⟩

theorem completeRecvmsg_descriptors (h : completeRecvmsg env l index slot c = .ok (r, l1)) :
    l.KeepsDescriptors l1 made := by
  unfold completeRecvmsg at h
  obtain ⟨⟨p, b⟩, -, h⟩ := except_bind_ok h
  obtain ⟨l2, hfixed, h⟩ := except_bind_ok h
  obtain ⟨hf, hs⟩ := releaseFixed_descriptors hfixed
  split at h
  · unfold completeRecvmsgMultishot at h
    obtain ⟨linear, -, h⟩ := except_bind_ok h
    dsimp only at h
    split at h
    · split at h
      · cases h
        exact .of_eq hf hs
      · cases h
    · cases h
      exact .of_eq hf hs
  · split at h
    · obtain ⟨linear, -, h⟩ := except_bind_ok h
      cases h
      exact .of_eq hf hs
    · obtain ⟨v, -, h⟩ := except_bind_ok h
      cases h
      exact .of_eq hf hs

theorem completeRecv_descriptors (h : completeRecv env l index slot c = .ok (r, l1)) :
    l.KeepsDescriptors l1 made := by
  unfold completeRecv at h
  split at h
  · obtain ⟨⟨p, b⟩, -, h⟩ := except_bind_ok h
    dsimp only at h
    have hrest : ∀ {v : Option ResultValue}, (do
        let l ← releaseFixed l p b
        pure (BranchResult.value v, l.releaseSlotPayload index slot false)) = .ok (r, l1) →
        l.KeepsDescriptors l1 made := by
      intro v h
      obtain ⟨l2, hfixed, h⟩ := except_bind_ok h
      cases h
      obtain ⟨hf, hs⟩ := releaseFixed_descriptors hfixed
      exact .of_eq hf hs
    split at h
    · obtain ⟨v, -, h⟩ := except_bind_ok h
      exact hrest h
    · obtain ⟨linear, -, h⟩ := except_bind_ok h
      obtain ⟨v, -, h⟩ := except_bind_ok h
      exact hrest h
  · cases h
    exact .of_eq rfl rfl

/-- A branch writes no descriptor but that of the object that its slot makes. -/
theorem complete_descriptors (h : complete env l index slot c = .ok (r, l1)) :
    l.KeepsDescriptors l1 slot.makes := by
  unfold complete at h
  cases hop : slot.opcode with
  | nop | fsync | splice | other _ | timeout =>
    simp only [hop] at h
    cases h
    exact .of_eq rfl rfl
  | openat2 =>
    simp only [hop, completeOpenat2] at h
    split at h
    · rename_i id hid
      cases h
      refine .setFile (.inl ?_)
      unfold RequestSlot.makes
      rw [hop, hid]
      rfl
    · cases h
      exact .of_eq rfl rfl
  | socket =>
    simp only [hop, completeSocket] at h
    split at h
    · rename_i id hid
      cases h
      refine .setSocket (.inl ?_)
      unfold RequestSlot.makes
      rw [hop, hid]
      rfl
    · cases h
      exact .of_eq rfl rfl
  | accept =>
    simp only [hop, completeAccept] at h
    split at h
    · cases h
      exact .of_eq rfl rfl
    · split at h
      · cases h
        exact .of_eq rfl rfl
      · split at h
        · cases h
        · cases h
          exact .grow (List.append_nil _).symm rfl
  | bind | connect | listen =>
    simp only [hop, completeSocketNumber] at h
    split at h
    · cases h
      exact .of_eq rfl rfl
    · cases h
      exact .of_eq rfl rfl
  | close =>
    simp only [hop, completeClose] at h
    split at h
    · cases h
      exact .setSocket (.inr fun _ => rfl)
    · cases h
      exact .setFile (.inr fun _ => rfl)
    · cases h
      exact .of_eq rfl rfl
  | writev =>
    simp only [hop, completeWritev] at h
    split at h
    · cases h
      exact .of_eq rfl rfl
    · cases h
      exact .of_eq rfl rfl
  | write =>
    simp only [hop, completeWrite] at h
    obtain ⟨⟨p, b⟩, -, h⟩ := except_bind_ok h
    obtain ⟨l2, hfixed, h⟩ := except_bind_ok h
    cases h
    obtain ⟨hf, hs⟩ := releaseFixed_descriptors hfixed
    exact .of_eq hf hs
  | readv =>
    simp only [hop, completeReadv] at h
    obtain ⟨⟨p, b⟩, -, h⟩ := except_bind_ok h
    obtain ⟨v, -, h⟩ := except_bind_ok h
    cases h
    exact .of_eq rfl rfl
  | read =>
    simp only [hop, completeRead] at h
    obtain ⟨⟨p, b⟩, -, h⟩ := except_bind_ok h
    obtain ⟨linear, -, h⟩ := except_bind_ok h
    obtain ⟨l2, hfixed, h⟩ := except_bind_ok h
    cases h
    obtain ⟨hf, hs⟩ := releaseFixed_descriptors hfixed
    exact .of_eq hf hs
  | recv =>
    simp only [hop] at h
    exact completeRecv_descriptors h
  | recvmsg =>
    simp only [hop] at h
    exact completeRecvmsg_descriptors h
  | send | sendmsg =>
    simp only [hop, completeSend] at h
    split at h
    · cases h
      exact .of_eq rfl rfl
    · obtain ⟨b, -, h⟩ := except_bind_ok h
      obtain ⟨l2, hfixed, h⟩ := except_bind_ok h
      cases h
      obtain ⟨hf, hs⟩ := releaseFixed_descriptors hfixed
      exact .of_eq hf hs

/-- Only the slot that makes an object hands it over. -/
theorem makes_of_handedOver {o : ClosedFlag} {res : Int} (h : slot.handedOver res = some o.result) :
    slot.makes = some o := by
  unfold RequestSlot.handedOver at h
  unfold RequestSlot.makes
  cases hop : slot.opcode with
  | openat2 =>
    simp only [hop] at h ⊢
    obtain ⟨id, hid, he⟩ := Option.map_eq_some_iff.mp h
    rw [hid]
    exact congrArg some (ClosedFlag.result_inj he)
  | socket =>
    simp only [hop] at h ⊢
    obtain ⟨id, hid, he⟩ := Option.map_eq_some_iff.mp h
    rw [hid]
    exact congrArg some (ClosedFlag.result_inj he)
  | accept =>
    simp only [hop] at h
    obtain ⟨id, -, he⟩ := Option.map_eq_some_iff.mp h
    cases o with
    | file _ => cases he
    | socket _ => cases he
  | _ =>
    simp only [hop] at h
    cases h

theorem handedOver_of_makes {o : ClosedFlag} (h : slot.makes = some o) (res : Int) :
    slot.handedOver res = some o.result := by
  unfold RequestSlot.makes at h
  unfold RequestSlot.handedOver
  cases hop : slot.opcode with
  | openat2 =>
    simp only [hop] at h ⊢
    obtain ⟨id, hid, rfl⟩ := Option.map_eq_some_iff.mp h
    rw [hid]
    rfl
  | socket =>
    simp only [hop] at h ⊢
    obtain ⟨id, hid, rfl⟩ := Option.map_eq_some_iff.mp h
    rw [hid]
    rfl
  | _ =>
    simp only [hop] at h
    cases h

theorem not_skipped_of_makes {o : ClosedFlag} (h : slot.makes = some o) :
    slot.skipped env = false := by
  unfold RequestSlot.makes at h
  unfold RequestSlot.skipped
  cases hop : slot.opcode with
  | openat2 | socket => rfl
  | _ =>
    simp only [hop] at h
    cases h

/-- The branch of a slot that makes an object hands it over. -/
theorem complete_makes {o : ClosedFlag} (hm : slot.makes = some o)
    (h : complete env l index slot c = .ok (r, l1)) : r = .value (some o.result) := by
  have hobj := complete_object h
  unfold HandsOver at hobj
  rw [not_skipped_of_makes hm, if_neg (by decide)] at hobj
  obtain ⟨v, rfl, hv⟩ := hobj
  rw [handedOver_of_makes hm] at hv
  rw [(Option.filter_eq_some_iff.mp hv).1]

/-- The branch of another slot does not. -/
theorem complete_hands {v : ResultValue} {o : ClosedFlag} (hm : slot.makes ≠ some o)
    (h : complete env l index slot c = .ok (.value (some v), l1)) : v ≠ o.result := by
  rintro rfl
  have hobj := complete_object h
  unfold HandsOver at hobj
  split at hobj
  · cases hobj
  · obtain ⟨w, hw, hfilter⟩ := hobj
    rw [← BranchResult.value.inj hw] at hfilter
    refine hm (@makes_of_handedOver _ _ c.res ?_)
    rw [← hfilter]
    cases o with
    | file _ => rfl
    | socket _ => rfl

theorem stores_iff {o : ClosedFlag} {fd : Int} :
    l.Stores o.result fd ↔ l.descriptor o = some fd := by
  cases o with
  | file _ => exact Iff.rfl
  | socket _ => exact Iff.rfl

/-- The CQE gives the object of the slot its descriptor and hands it to the future. -/
structure Publishes (l : Loop) (future : FutureId) (o : ClosedFlag) (fd : Int) (l1 : Loop) :
    Prop where
  descriptor : l1.descriptor o = some fd
  callLog : l1.callLog = l.callLog ++ [(future, .setResult o.result)]
  others : l.KeepsDescriptors l1 (some o)

/-- The CQE leaves the descriptors, and hands over none of their objects. -/
structure PublishesNone (l l1 : Loop) : Prop where
  descriptors : l.KeepsDescriptors l1 none
  callLog : ∃ calls, l1.callLog = l.callLog ++ calls ∧
    ∀ e ∈ calls, ∀ o : ClosedFlag, e.2 ≠ .setResult o.result

theorem publishesNone_of_eq (hf : l1.files = l.files) (hs : l1.sockets = l.sockets)
    (hc : l1.callLog = l.callLog) : PublishesNone l l1 :=
  ⟨.of_eq hf hs, [], hc.trans (List.append_nil _).symm, fun _ he => absurd he List.not_mem_nil⟩

/-- A CQE of a live slot publishes the object that the slot makes, or nothing. -/
theorem readLive_publishes {future : FutureId} (hv : l.registry.Valid)
    (hl : l.registry.liveSlot index = some slot) (hfit : SlotFits l.heap slot)
    (htag : c.userData ≠ wakeupFdTag)
    (hfile : ∀ id, slot.file = some id → id < l.files.length)
    (hsock : ∀ id, slot.socket = some id → id < l.sockets.length)
    (h : readLive env l index slot future c = .ok l1) :
    (∃ o, slot.makes = some o ∧ Publishes l future o c.res l1) ∨ PublishesNone l l1 := by
  unfold readLive at h
  split at h
  · obtain ⟨hlog, hf, hs⟩ := finishCqe_objects h
    refine .inr ⟨?_, if env.exc then [(future, .setException (.osError (-c.res)))] else [], ?_,
      fun e he o heo => ?_⟩
    · refine .of_eq (hf.trans ?_) (hs.trans ?_)
      · split
        · rfl
        · rfl
      · split
        · rfl
        · rfl
    · refine hlog.trans ?_
      split
      · rfl
      · exact (List.append_nil _).symm
    · split at he
      · rw [List.mem_singleton.mp he] at heo
        cases heo
      · exact absurd he List.not_mem_nil
  · cases hc : complete env l index slot c with
    | error e =>
      rw [hc] at h
      cases h
    | ok x =>
      obtain ⟨r, l2⟩ := x
      rw [hc] at h
      have hkeeps := complete_descriptors hc
      cases hm : slot.makes with
      | some o =>
        obtain rfl := complete_makes hm hc
        obtain ⟨hlog, hf, hs⟩ := finishCqe_objects h
        have hstores := complete_stores hc (handedOver_of_makes hm c.res) hfile hsock
        rw [hm] at hkeeps
        refine .inl ⟨o, rfl, stores_iff.mp (hstores.congr hf hs), hlog.trans ?_,
          hkeeps.congr hf hs⟩
        rcases complete_completed hv hl hfit hc with ⟨hr, -⟩ | ⟨v, -, hcomp⟩
        · cases hr
        · exact congrArg (· ++ [(future, FutureCall.setResult o.result)]) hcomp.callLog
      | none =>
        rw [hm] at hkeeps
        refine .inr ?_
        rcases complete_completed hv hl hfit hc with ⟨rfl, -, -, rfl⟩ | ⟨v, rfl, hcomp⟩
        · cases h
          exact publishesNone_of_eq rfl rfl rfl
        · cases v with
          | none =>
            obtain ⟨hlog, hf, hs⟩ := finishCqe_objects h
            refine ⟨hkeeps.congr hf hs, [], ?_, fun _ he => absurd he List.not_mem_nil⟩
            exact (hlog.trans hcomp.callLog).trans (List.append_nil _).symm
          | some v =>
            obtain ⟨hlog, hf, hs⟩ := finishCqe_objects h
            refine ⟨hkeeps.congr hf hs, [(future, .setResult v)], hlog.trans ?_,
              fun e he o heo => ?_⟩
            · exact congrArg (· ++ [(future, FutureCall.setResult v)]) hcomp.callLog
            · rw [List.mem_singleton.mp he] at heo
              refine complete_hands ?_ hc (FutureCall.setResult.inj heo)
              rw [hm]
              exact nofun

end Branches

end Uringio
