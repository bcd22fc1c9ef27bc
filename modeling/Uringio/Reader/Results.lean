/-
  What the reader tells a future, as a function of the slot of the request and of the result
  of its CQE (`completion`), and that it does so for every request outside buffer contexts
  and multishot modes (`readLive_completes`).
-/
import Uringio.System.Payloads

namespace Uringio

/-! ## The value -/

/-- The payload of a slot. -/
def slotBuffer (heap : Heap) (slot : RequestSlot) : Option BufferPayload :=
  slot.bufferPayload.bind fun p => heap.payloads[p]?

/-- The bytes that a linear operation has read. -/
def linearBytes (b : Option BufferPayload) (res : Int) : ResultValue :=
  match b.bind BufferPayload.linear with
  | some linear => .bytes [⟨linear.buffer, res.toNat⟩]
  | none => .none

/-- The bytes that a vectored operation has read. -/
def vectorBytes (b : Option BufferPayload) (res : Int) : ResultValue :=
  match b.bind BufferPayload.vector with
  | some vec => .bytes (copyChunks (vec.iovecs.take vec.nrVecs) res.toNat)
  | none => .none

/-- The value of an operation that returned `res`. -/
def resultValue (heap : Heap) (slot : RequestSlot) (res : Int) : ResultValue :=
  match slot.opcode with
  | .read => linearBytes (slotBuffer heap slot) res
  | .readv => vectorBytes (slotBuffer heap slot) res
  | .recv => if res = 0 then .bytes [] else linearBytes (slotBuffer heap slot) res
  | .recvmsg =>
    if (slotBuffer heap slot).any fun b => b.payloadType == .payloadLinear then
      linearBytes (slotBuffer heap slot) res
    else vectorBytes (slotBuffer heap slot) res
  | .openat2 => slot.file.elim .none .file
  | .socket => slot.socket.elim .none .socket
  | .accept => slot.socket.elim .none fun listener => .connection res listener slot.addr
  | .timeout => .none
  | _ => .number res

/-- The call that the future of a slot gets: OSError of `-res` for an error, except for a
    timer that has expired. -/
def completion (heap : Heap) (slot : RequestSlot) (res : Int) : FutureCall :=
  if res < 0 ∧ ¬ (slot.opcode = .timeout ∧ res = negEtime) then .setException (.osError (-res))
  else .setResult (resultValue heap slot res)

/-- The value depends on nothing of the heap that ever changes. -/
theorem completion_congr {heap heap' : Heap} {sub : Submitted}
    (h : sub.HoldsPayload heap []) (he : heap.Evolves heap') (i res : Int) :
    completion heap' (sub.registration.slot i) res =
      completion heap (sub.registration.slot i) res := by
  have hnone : sub.registration.bufferPayload = none →
      slotBuffer heap' (sub.registration.slot i) = slotBuffer heap (sub.registration.slot i) := by
    intro hr
    unfold slotBuffer
    rw [show (sub.registration.slot i).bufferPayload = none from hr]
    rfl
  cases h with
  | none hr _ _ | kept hr _ _ _ _ _ => unfold completion resultValue; rw [hnone hr]
  | @own p b hr _ _ hb hm _ _ =>
    obtain ⟨b', hb', hev⟩ := he p b hb
    have hp : (sub.registration.slot i).bufferPayload = some p := hr
    have hbuf : slotBuffer heap (sub.registration.slot i) = some b := by
      unfold slotBuffer
      rw [hp, Option.bind_some, hb]
    have hbuf' : slotBuffer heap' (sub.registration.slot i) = some b' := by
      unfold slotBuffer
      rw [hp, Option.bind_some, hb']
    unfold completion resultValue linearBytes vectorBytes
    simp only [hbuf, hbuf', Option.bind_some, Option.any_some, hev.linear hm, hev.vector hm,
      hev.payloadType hm]
  | context _ _ hc _ _ _ => exact absurd hc List.not_mem_nil

/-! ## The branches -/

section Branches

variable {l : Loop} {index : Int} {slot : RequestSlot} {c : Cqe} {p : PayloadId}
  {b : BufferPayload}

theorem slotPayload_of_some (hp : slot.bufferPayload = some p)
    (hb : l.heap.payloads[p]? = some b) : slotPayload l slot = .ok (p, b) := by
  unfold slotPayload payloadAt
  rw [hp]
  dsimp only
  rw [hb]
  rfl

theorem slotBuffer_of_some (hp : slot.bufferPayload = some p)
    (hb : l.heap.payloads[p]? = some b) : slotBuffer l.heap slot = some b := by
  unfold slotBuffer
  rw [hp, Option.bind_some, hb]

theorem releaseFixed_of_normal (hm : b.mode = .normalBuf) : releaseFixed l p b = .ok l := by
  unfold releaseFixed
  rw [if_neg (by simp [hm])]

theorem linearOf_of_some {linear : LinearBuffer} (h : b.linear = some linear) :
    linearOf b = .ok linear := by
  unfold linearOf
  rw [h]

/-- The bytes of a payload that has a vector. -/
theorem bytesOfVector_ok (hp : slot.bufferPayload = some p) (hb : l.heap.payloads[p]? = some b)
    (hv : b.vector.isSome) (res : Int) :
    bytesOfVector .ok b res = .ok (some (vectorBytes (slotBuffer l.heap slot) res)) := by
  obtain ⟨vec, hvec⟩ := Option.isSome_iff_exists.mp hv
  unfold bytesOfVector vectorOf vectorBytes
  rw [slotBuffer_of_some hp hb, Option.bind_some, hvec]
  rfl

/-- A slot of a request with a payload of its own. -/
structure OwnSlot (l : Loop) (slot : RequestSlot) (p : PayloadId) (b : BufferPayload) : Prop where
  payload : slot.bufferPayload = some p
  get : l.heap.payloads[p]? = some b
  mode : b.mode = .normalBuf

theorem completeRead_value (h : OwnSlot l slot p b) (hs : LinearShape false b) :
    ∃ l2, completeRead .ok l index slot c =
      .ok (.value (some (linearBytes (slotBuffer l.heap slot) c.res)), l2) := by
  obtain ⟨-, linear, hlin, hnull⟩ := hs
  unfold completeRead linearBytes
  rw [slotPayload_of_some h.payload h.get, slotBuffer_of_some h.payload h.get]
  simp only [bind, Except.bind, pure, Except.pure, linearOf_of_some hlin,
    releaseFixed_of_normal h.mode, if_neg (hnull rfl), Option.bind_some, hlin]
  exact ⟨_, rfl⟩

theorem completeReadv_value (h : OwnSlot l slot p b) (hs : VectorShape b) :
    ∃ l2, completeReadv .ok l index slot c =
      .ok (.value (some (vectorBytes (slotBuffer l.heap slot) c.res)), l2) := by
  unfold completeReadv
  rw [slotPayload_of_some h.payload h.get]
  simp only [bind, Except.bind, pure, Except.pure, bytesOfVector_ok h.payload h.get hs.2.2]
  exact ⟨_, rfl⟩

theorem completeWrite_value (h : OwnSlot l slot p b) :
    ∃ l2, completeWrite .ok l index slot c = .ok (.value (some (.number c.res)), l2) := by
  unfold completeWrite
  rw [slotPayload_of_some h.payload h.get]
  simp only [bind, Except.bind, pure, Except.pure, releaseFixed_of_normal h.mode]
  exact ⟨_, rfl⟩

theorem completeWritev_value :
    ∃ l2, completeWritev .ok l index slot c = .ok (.value (some (.number c.res)), l2) := by
  unfold completeWritev
  split
  · exact ⟨_, rfl⟩
  · exact ⟨_, rfl⟩

theorem completeRecv_value (h : OwnSlot l slot p b) (hs : LinearShape true b)
    (hsock : slot.socket.isSome) :
    ∃ l2, completeRecv .ok l index slot c = .ok (.value (some
      (if c.res = 0 then .bytes [] else linearBytes (slotBuffer l.heap slot) c.res)), l2) := by
  obtain ⟨-, linear, hlin, -⟩ := hs
  unfold completeRecv linearBytes
  rw [if_pos hsock, slotPayload_of_some h.payload h.get, slotBuffer_of_some h.payload h.get]
  simp only [bind, Except.bind, pure, Except.pure, releaseFixed_of_normal h.mode,
    linearOf_of_some hlin, Option.bind_some, hlin]
  by_cases hz : c.res = 0
  · simp only [if_pos hz]
    exact ⟨_, rfl⟩
  · simp only [if_neg hz]
    exact ⟨_, rfl⟩

theorem completeRecvmsg_value (h : OwnSlot l slot p b) (hone : slot.streamStrategy = .oneshot)
    (hs : LinearShape true b ∨ VectorShape b) :
    ∃ l2, completeRecvmsg .ok l index slot c = .ok (.value (some
      (if (slotBuffer l.heap slot).any fun b => b.payloadType == .payloadLinear then
        linearBytes (slotBuffer l.heap slot) c.res
      else vectorBytes (slotBuffer l.heap slot) c.res)), l2) := by
  unfold completeRecvmsg
  rw [slotPayload_of_some h.payload h.get, slotBuffer_of_some h.payload h.get]
  simp only [bind, Except.bind, pure, Except.pure, releaseFixed_of_normal h.mode, hone,
    Option.any_some]
  rw [if_neg (by simp)]
  rcases hs with ⟨ht, linear, hlin, -⟩ | hv
  · unfold linearBytes
    simp only [ht, beq_self_eq_true, if_true, linearOf_of_some hlin, Option.bind_some, hlin]
    exact ⟨_, rfl⟩
  · have hne : b.payloadType ≠ .payloadLinear := by
      rw [hv.1]
      decide
    have hbytes := bytesOfVector_ok h.payload h.get hv.2.2 c.res
    rw [slotBuffer_of_some h.payload h.get] at hbytes
    simp only [hne, if_false, beq_iff_eq, hbytes]
    exact ⟨_, rfl⟩

theorem completeSend_value (h : slot.bufferPayload = none ∨ ∃ p b, OwnSlot l slot p b) :
    ∃ l2, completeSend .ok l index slot c = .ok (.value (some (.number c.res)), l2) := by
  unfold completeSend
  rcases h with hp | ⟨p, b, h⟩
  · rw [hp]
    exact ⟨_, rfl⟩
  · simp only [h.payload, payloadAt_of_some h.get, bind, Except.bind, pure, Except.pure,
      releaseFixed_of_normal h.mode]
    exact ⟨_, rfl⟩

theorem completeAccept_value {listener : SocketId} (hs : slot.socket = some listener)
    (hl : listener < l.sockets.length) :
    ∃ l2, completeAccept .ok l index slot c =
      .ok (.value (some (.connection c.res listener slot.addr)), l2) := by
  unfold completeAccept
  rw [hs]
  simp only [ReadEnv.ok, Bool.not_true, Bool.false_eq_true, if_false,
    List.getElem?_eq_getElem hl]
  exact ⟨_, rfl⟩

end Branches

/-! ## Every request -/

/-- What is known of a request outside buffer contexts and multishot modes. -/
structure PlainRequest (l : Loop) (sub : Submitted) : Prop where
  payload : sub.HoldsPayload l.heap []
  stream : sub.registration.streamStrategy = .oneshot
  names : sub.registration.NamesObject
  socket : ∀ id, sub.registration.socket = some id → id < l.sockets.length

theorem PlainRequest.own {l : Loop} {sub : Submitted} (h : PlainRequest l sub)
    (hplain : sub.registration.opcode.plain = false)
    (hmsg : sub.registration.opcode ≠ .sendmsg) (i : Int) :
    ∃ p b, OwnSlot l (sub.registration.slot i) p b ∧ sub.registration.PayloadShape b := by
  cases h.payload with
  | none _ _ ho =>
    rw [hplain] at ho
    exact absurd ho (by simp)
  | own hr _ _ hb hm _ hs => exact ⟨_, _, ⟨hr, hb, hm⟩, hs⟩
  | context _ _ hc _ _ _ => exact absurd hc List.not_mem_nil
  | kept _ _ _ _ _ ho => exact absurd ho hmsg

theorem complete_value {l : Loop} {sub : Submitted} (h : PlainRequest l sub) (i : Int) (c : Cqe) :
    ∃ l2, complete .ok l i (sub.registration.slot i) c =
      .ok (.value (some (resultValue l.heap (sub.registration.slot i) c.res)), l2) := by
  have hn := h.names
  unfold Registration.NamesObject at hn
  have hsocket : sub.registration.socket.isSome → ∃ id,
      (sub.registration.slot i).socket = some id ∧ id < l.sockets.length := by
    intro hs
    obtain ⟨id, hid⟩ := Option.isSome_iff_exists.mp hs
    exact ⟨id, hid, h.socket id hid⟩
  unfold complete resultValue
  rw [show (sub.registration.slot i).opcode = sub.registration.opcode from rfl]
  cases hop : sub.registration.opcode with
  | read =>
    obtain ⟨p, b, ho, hs⟩ := h.own (by rw [hop]; rfl) (by simp [hop]) i
    simp only [Registration.PayloadShape, hop] at hs
    exact completeRead_value ho hs
  | readv =>
    obtain ⟨p, b, ho, hs⟩ := h.own (by rw [hop]; rfl) (by simp [hop]) i
    simp only [Registration.PayloadShape, hop] at hs
    exact completeReadv_value ho hs
  | write =>
    obtain ⟨p, b, ho, -⟩ := h.own (by rw [hop]; rfl) (by simp [hop]) i
    exact completeWrite_value ho
  | writev =>
    exact completeWritev_value
  | recv =>
    obtain ⟨p, b, ho, hs⟩ := h.own (by rw [hop]; rfl) (by simp [hop]) i
    rw [hop] at hn
    simp only [Registration.PayloadShape, hop] at hs
    exact completeRecv_value ho hs hn
  | recvmsg =>
    obtain ⟨p, b, ho, hs⟩ := h.own (by rw [hop]; rfl) (by simp [hop]) i
    simp only [Registration.PayloadShape, hop] at hs
    exact completeRecvmsg_value ho h.stream (hs.imp And.left id)
  | send =>
    obtain ⟨p, b, ho, -⟩ := h.own (by rw [hop]; rfl) (by simp [hop]) i
    exact completeSend_value (Or.inr ⟨p, b, ho⟩)
  | sendmsg =>
    cases h.payload with
    | none hr _ _ | kept hr _ _ _ _ _ =>
      exact completeSend_value (Or.inl hr)
    | own hr _ _ hb hm _ _ => exact completeSend_value (Or.inr ⟨_, _, hr, hb, hm⟩)
    | context _ _ hc _ _ _ => exact absurd hc List.not_mem_nil
  | openat2 =>
    rw [hop] at hn
    obtain ⟨file, hf⟩ := Option.isSome_iff_exists.mp hn
    have hf' : (sub.registration.slot i).file = some file := hf
    simp only [completeOpenat2, hf']
    exact ⟨_, rfl⟩
  | socket =>
    rw [hop] at hn
    obtain ⟨sock, hs⟩ := Option.isSome_iff_exists.mp hn
    have hs' : (sub.registration.slot i).socket = some sock := hs
    simp only [completeSocket, hs']
    exact ⟨_, rfl⟩
  | bind | connect | listen =>
    rw [hop] at hn
    have hn' : (sub.registration.slot i).socket.isSome = true := hn
    simp only [completeSocketNumber, hn', if_true]
    exact ⟨_, rfl⟩
  | accept =>
    rw [hop] at hn
    obtain ⟨listener, hs, hlt⟩ := hsocket hn
    dsimp only
    rw [hs]
    exact completeAccept_value hs hlt
  | close =>
    rw [hop] at hn
    dsimp only
    unfold completeClose
    cases hs : (sub.registration.slot i).socket with
    | some sock => exact ⟨_, rfl⟩
    | none =>
      have hs' : sub.registration.socket = none := hs
      rw [hs'] at hn
      obtain ⟨file, hf⟩ := Option.isSome_iff_exists.mp (hn.resolve_right (by simp))
      have hf' : (sub.registration.slot i).file = some file := hf
      simp only [hf']
      exact ⟨_, rfl⟩
  | timeout | nop | fsync | splice | other _ =>
    exact ⟨_, rfl⟩

/-- The reader handles every CQE of such a request, and makes one call on its future. -/
theorem readLive_completes {l : Loop} {sub : Submitted} {i : Int} {c : Cqe}
    (h : PlainRequest l sub) (hv : l.registry.Valid)
    (hl : l.registry.liveSlot i = some (sub.registration.slot i))
    (htag : c.userData ≠ wakeupFdTag) :
    ∃ l1, readLive .ok l i (sub.registration.slot i) sub.registration.future c = .ok l1 ∧
      l1.callLog = l.callLog ++
        [(sub.registration.future, completion l.heap (sub.registration.slot i) c.res)] := by
  have hfinish : ∀ (m : Loop) (slot : RequestSlot), m.registry.Valid →
      m.registry.liveSlot i = some slot →
      ∃ l1, finishCqe m i = .ok l1 ∧ l1.callLog = m.callLog := by
    intro m slot hvm hlm
    obtain ⟨reg, hrem, -⟩ := hvm.remove m.heap hlm
    unfold finishCqe
    rw [hrem]
    exact ⟨_, rfl, rfl⟩
  have hcond : (c.res < 0 ∧ ¬ timeoutExpired (sub.registration.slot i) c) ↔
      (c.res < 0 ∧ ¬ ((sub.registration.slot i).opcode = .timeout ∧ c.res = negEtime)) := by
    unfold timeoutExpired
    rw [Bool.and_eq_true, beq_iff_eq, beq_iff_eq]
  unfold readLive completion
  by_cases hres : c.res < 0 ∧ ¬ ((sub.registration.slot i).opcode = .timeout ∧ c.res = negEtime)
  · rw [if_pos (hcond.mpr hres), if_pos hres]
    obtain ⟨l1, h1, hlog⟩ := hfinish (l.callFuture sub.registration.future
      (.setException (.osError (-c.res)))) _ hv hl
    exact ⟨l1, h1, hlog⟩
  · rw [if_neg (fun h => hres (hcond.mp h)), if_neg hres, if_neg htag]
    obtain ⟨l2, he⟩ := complete_value h i c
    rcases complete_completed hv hl (slotFits_of_holdsPayload h.payload h.names i) he
      with ⟨hr, -⟩ | ⟨v, -, hc⟩
    · exact absurd hr (by simp)
    · obtain ⟨slot1, hl1, -⟩ := hc.slot
      obtain ⟨l1, h1, hlog⟩ := hfinish (l2.callFuture sub.registration.future
        (.setResult (resultValue l.heap (sub.registration.slot i) c.res))) slot1 hc.valid hl1
      rw [he]
      refine ⟨l1, h1, ?_⟩
      rw [hlog]
      exact congrArg (· ++ _) hc.callLog

end Uringio
