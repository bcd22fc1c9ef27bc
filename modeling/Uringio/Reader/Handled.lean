/-
  What the reader does with one CQE, as one statement.

  A CQE that decodes to no live slot is dropped (`readCqe_of_dead`). One that decodes to a
  live slot is handled (`Handled`): the slot is removed and every other slot stays, the
  payload of the slot is released once, a fixed operation that succeeded gives its index
  back to the pool of the payload, and only the future of the slot is called. The one
  exception is an accept without memory for the new Socket, which leaves its slot.
-/
import Uringio.Reader.OnReady

namespace Uringio

/-! ## Objects -/

/-- The objects of `l` are still there in `l1`, and a flag that was set stays set. -/
structure Loop.KeepsObjects (l l1 : Loop) : Prop where
  file : ∀ (id : FileId) (f : UringioFile), l.files[id]? = some f →
    ∃ f1 : UringioFile, l1.files[id]? = some f1 ∧ (f.closed = true → f1.closed = true)
  socket : ∀ (id : SocketId) (s : UringioSocket), l.sockets[id]? = some s →
    ∃ s1 : UringioSocket, l1.sockets[id]? = some s1 ∧ (s.closed = true → s1.closed = true)

namespace Loop.KeepsObjects

variable {l l1 : Loop}

theorem of_eq (hf : l1.files = l.files) (hs : l1.sockets = l.sockets) : l.KeepsObjects l1 :=
  ⟨fun _ f h => ⟨f, by rw [hf, h], id⟩, fun _ s h => ⟨s, by rw [hs, h], id⟩⟩

theorem modify {α : Type} {xs : List α} {i : Nat} {f : α → α} {closed : α → Bool}
    (hf : ∀ x, closed x = true → closed (f x) = true) (id : Nat) (x : α) (hx : xs[id]? = some x) :
    ∃ y, (xs.modify i f)[id]? = some y ∧ (closed x = true → closed y = true) := by
  rw [List.getElem?_modify, hx]
  by_cases h : i = id
  · exact ⟨f x, by simp [h], hf x⟩
  · exact ⟨x, by simp [h], fun hc => hc⟩

theorem setFile {id : FileId} {f : UringioFile → UringioFile}
    (hf : ∀ x, x.closed = true → (f x).closed = true) : l.KeepsObjects (l.setFile id f) :=
  ⟨fun i x hx => modify hf i x hx, fun _ s h => ⟨s, h, fun hc => hc⟩⟩

theorem setSocket {id : SocketId} {f : UringioSocket → UringioSocket}
    (hf : ∀ x, x.closed = true → (f x).closed = true) : l.KeepsObjects (l.setSocket id f) :=
  ⟨fun _ f h => ⟨f, h, fun hc => hc⟩, fun i x hx => modify hf i x hx⟩

end Loop.KeepsObjects

/-! ## Indices of registered buffers -/

/-- The opcodes whose branch gives an index back. -/
def Opcode.returnsIndex : Opcode → Bool
  | .read | .write | .recv | .recvmsg | .send | .sendmsg => true
  | _ => false

/-- The heap after the index that a payload holds was given back. -/
def returnIndex (heap : Heap) (payload : Option PayloadId) : Heap :=
  match payload with
  | none => heap
  | some p =>
    match heap.payloads[p]? with
    | none => heap
    | some b =>
      if b.mode = .fixed then
        match b.idxRegistry with
        | none => heap
        | some reg =>
          heap.put p { b with idxRegistry := some (releaseBufferIdx reg b.bufIdx).2 }
      else heap

/-- The part of `returnIndex` that depends on the opcode. -/
def returned (heap : Heap) (slot : RequestSlot) : Heap :=
  if slot.opcode.returnsIndex then returnIndex heap slot.bufferPayload else heap

/-! ## A branch -/

/-- What a slot that the library registered looks like. -/
structure SlotFits (heap : Heap) (slot : RequestSlot) : Prop where
  write : slot.opcode = .write → ∀ p b, slot.bufferPayload = some p →
    heap.payloads[p]? = some b → b.mode = .normalBuf
  accept : slot.opcode = .accept → slot.bufferPayload = none
  recv : slot.opcode = .recv → slot.socket.isSome
  multishot : slot.opcode = .recvmsg → slot.streamStrategy = .multishot →
    ∀ p b, slot.bufferPayload = some p → heap.payloads[p]? = some b → b.linear = none

/-- What a branch that does not `continue` leaves: the slot is still live, and releasing the
    payload that it still has makes one release of the payload it had. -/
structure Completed (l : Loop) (index : Int) (slot : RequestSlot) (l1 : Loop) : Prop where
  valid : l1.registry.Valid
  size : l1.registry.size = l.registry.size
  cleared : l.registry.Cleared → l1.registry.Cleared
  slot : ∃ slot1, l1.registry.liveSlot index = some slot1 ∧
    (∀ j, j ≠ index → l1.registry.liveSlot j = l.registry.liveSlot j) ∧
    (freeBufferPayload l1.heap slot1.bufferPayload false).payloads =
      (freeBufferPayload (returned l.heap slot) slot.bufferPayload false).payloads
  ring : l1.ring = l.ring
  callLog : l1.callLog = l.callLog
  nextFuture : l1.nextFuture = l.nextFuture
  context : l1.context = l.context
  objects : l.KeepsObjects l1

section Branches

variable {env : ReadEnv} {l l1 : Loop} {index : Int} {slot : RequestSlot} {c : Cqe}
  {r : BranchResult}

/-- A write through the slot pointer that leaves the future. -/
theorem RequestRegistry.Valid.modify {reg : RequestRegistry} (hv : reg.Valid)
    (hl : reg.liveSlot index = some slot) {f : RequestSlot → RequestSlot}
    (hf : (f slot).future = slot.future) :
    RequestRegistry.Valid { reg with slots := reg.slots.modify index.toNat f } ∧
    (∀ j, RequestRegistry.liveSlot { reg with slots := reg.slots.modify index.toNat f } j =
      if j = index then some (f slot) else reg.liveSlot j) ∧
    (reg.Cleared →
      RequestRegistry.Cleared { reg with slots := reg.slots.modify index.toNat f }) := by
  have hr := hv.liveSlot_inRange hl
  obtain ⟨hget, hfut⟩ := RequestRegistry.liveSlot_eq_some.mp hl
  have hset : reg.slots.modify index.toNat f = reg.slots.set index.toNat (f slot) := by
    have hs : reg.slots[index.toNat]? = some slot := by
      unfold registryGet at hget
      rw [hv.inRange_iff.mpr hr] at hget
      exact hget
    exact modify_eq_set_of_some hs
  have hlive : ∀ j, RequestRegistry.liveSlot
      { reg with slots := reg.slots.modify index.toNat f } j =
      if j = index then some (f slot) else reg.liveSlot j := by
    intro j
    have := hv.liveSlot_set hr (f slot)
      { reg with slots := reg.slots.modify index.toNat f } j hset rfl
    rw [this, hf, hfut]
    rfl
  refine ⟨⟨hv.pos, hv.small, ?_, hv.stackLength, hv.low, hv.high, ?_⟩, hlive, fun hc =>
    hc.set hr.1 hset (Or.inr ((hlive index).trans (if_pos rfl))) fun j hj =>
      (hlive j).trans (if_neg hj)⟩
  · dsimp only
    rw [List.length_modify]
    exact hv.slotsLength
  · refine hv.complement.congr fun j => ?_
    unfold RequestRegistry.Live
    rw [hlive]
    by_cases hj : j = index
    · rw [if_pos hj, hj, hl]
      simp
    · rw [if_neg hj]

/-- A branch that leaves registry and heap. -/
theorem completed_of_objects (hv : l.registry.Valid) (hl : l.registry.liveSlot index = some slot)
    (hn : slot.opcode.returnsIndex = false) (hr : l1.registry = l.registry)
    (hh : l1.heap.payloads = l.heap.payloads) (hring : l1.ring = l.ring)
    (hc : l1.callLog = l.callLog) (hf : l1.nextFuture = l.nextFuture)
    (hx : l1.context = l.context) (ho : l.KeepsObjects l1) : Completed l index slot l1 := by
  refine ⟨hr ▸ hv, by rw [hr], fun hcl => hr ▸ hcl,
    ⟨slot, by rw [hr, hl], fun j _ => by rw [hr], ?_⟩, hring, hc, hf, hx, ho⟩
  rw [returned, hn]
  exact payloads_freeBufferPayload hh

theorem completed_self (hv : l.registry.Valid) (hl : l.registry.liveSlot index = some slot)
    (hn : slot.opcode.returnsIndex = false) : Completed l index slot l :=
  completed_of_objects hv hl hn rfl rfl rfl rfl rfl rfl (.of_eq rfl rfl)

/-- A branch that releases the payload of the slot itself. -/
theorem completed_released (hv : l.registry.Valid) (hl : l.registry.liveSlot index = some slot)
    (heap : Heap) (force : Bool) (hh : heap.payloads = (returned l.heap slot).payloads)
    (hforce : force = true → ∀ p b, slot.bufferPayload = some p → heap.payloads[p]? = some b →
      b.mode = .normalBuf) {f : RequestSlot → RequestSlot} (hfut : (f slot).future = slot.future)
    (hnone : (f slot).bufferPayload = none) :
    Completed l index slot
      ({ l with heap := freeBufferPayload heap slot.bufferPayload force }.modifySlot index f) := by
  obtain ⟨hv1, hlive, hclear⟩ := hv.modify hl hfut
  have hfree : (freeBufferPayload heap slot.bufferPayload force).payloads =
      (freeBufferPayload heap slot.bufferPayload false).payloads := by
    cases hp : slot.bufferPayload with
    | none => rfl
    | some p =>
      simp only [freeBufferPayload]
      cases hf : force with
      | false => rfl
      | true =>
        refine modify_congr_at fun b hb => ?_
        have hm := hforce hf p b hp hb
        rw [BufferPayload.release_of_normalBuf hm, BufferPayload.release_of_normalBuf hm]
  refine ⟨hv1, rfl, hclear, ⟨f slot, ?_, fun j hj => ?_, ?_⟩, rfl, rfl, rfl, rfl, .of_eq rfl rfl⟩
  · exact (hlive index).trans (if_pos rfl)
  · exact (hlive j).trans (if_neg hj)
  · rw [hnone]
    exact hfree.trans (payloads_freeBufferPayload hh)

theorem slotPayload_eq_ok {p : PayloadId} {b : BufferPayload}
    (h : slotPayload l slot = .ok (p, b)) :
    slot.bufferPayload = some p ∧ l.heap.payloads[p]? = some b := by
  unfold slotPayload payloadAt at h
  split at h
  · exact absurd h (by simp)
  · rename_i q hq
    split at h
    · rename_i b' hb
      obtain ⟨rfl, rfl⟩ := Prod.mk.inj (Except.ok.inj h)
      exact ⟨hq, hb⟩
    · exact absurd h (by simp [Except.map])

theorem releaseFixed_eq_ok {p : PayloadId} {b : BufferPayload} (hp : slot.bufferPayload = some p)
    (hb : l.heap.payloads[p]? = some b) (h : releaseFixed l p b = .ok l1) :
    l1 = { l with heap := returnIndex l.heap slot.bufferPayload } := by
  unfold releaseFixed at h
  unfold returnIndex
  rw [hp]
  simp only [hb]
  by_cases hm : b.mode = .fixed
  · rw [if_pos hm] at h ⊢
    cases hreg : b.idxRegistry with
    | none =>
      rw [hreg] at h
      exact absurd h (by simp)
    | some reg =>
      rw [hreg] at h
      exact (Except.ok.inj h).symm
  · rw [if_neg hm] at h ⊢
    exact (Except.ok.inj h).symm

/-- A branch that gives the index back, reads the payload and releases it. -/
theorem completed_returned (hv : l.registry.Valid) (hl : l.registry.liveSlot index = some slot)
    (hop : slot.opcode.returnsIndex = true) {force : Bool}
    (hforce : force = true → ∀ p b, slot.bufferPayload = some p →
      (returnIndex l.heap slot.bufferPayload).payloads[p]? = some b → b.mode = .normalBuf) :
    Completed l index slot
      ({ l with heap := returnIndex l.heap slot.bufferPayload }.releaseSlotPayload index slot
        force) :=
  completed_released hv hl _ _ (by rw [returned, hop]; rfl) hforce rfl rfl

theorem returnIndex_mode {heap : Heap} {payload : Option PayloadId} {p : PayloadId}
    {b : BufferPayload} (h : (returnIndex heap payload).payloads[p]? = some b) :
    ∃ b0, heap.payloads[p]? = some b0 ∧ b.mode = b0.mode := by
  unfold returnIndex at h
  split at h
  · exact ⟨b, h, rfl⟩
  · rename_i q
    split at h
    · exact ⟨b, h, rfl⟩
    · rename_i b0 hb0
      split at h
      · split at h
        · exact ⟨b, h, rfl⟩
        · simp only [Heap.put, List.getElem?_set] at h
          split at h
          · rename_i hq
            subst hq
            split at h
            · exact ⟨b0, hb0, by rw [← Option.some.inj h]⟩
            · exact absurd h (by simp)
          · exact ⟨b, h, rfl⟩
      · exact ⟨b, h, rfl⟩

theorem completeRead_completed (hv : l.registry.Valid)
    (hl : l.registry.liveSlot index = some slot) (hop : slot.opcode.returnsIndex = true)
    (h : completeRead env l index slot c = .ok (r, l1)) :
    ∃ v, r = .value v ∧ Completed l index slot l1 := by
  unfold completeRead at h
  obtain ⟨⟨p, b⟩, hp, h⟩ := except_bind_ok h
  obtain ⟨hp, hb⟩ := slotPayload_eq_ok hp
  obtain ⟨linear, -, h⟩ := except_bind_ok h
  obtain ⟨l2, hr, h⟩ := except_bind_ok h
  rw [releaseFixed_eq_ok hp hb hr] at h
  obtain ⟨rfl, rfl⟩ := Prod.mk.inj (Except.ok.inj h)
  exact ⟨_, rfl, completed_returned hv hl hop (by simp)⟩

theorem completeReadv_completed (hv : l.registry.Valid)
    (hl : l.registry.liveSlot index = some slot) (hop : slot.opcode.returnsIndex = false)
    (h : completeReadv env l index slot c = .ok (r, l1)) :
    ∃ v, r = .value v ∧ Completed l index slot l1 := by
  unfold completeReadv at h
  obtain ⟨⟨p, b⟩, -, h⟩ := except_bind_ok h
  obtain ⟨v, -, h⟩ := except_bind_ok h
  obtain ⟨rfl, rfl⟩ := Prod.mk.inj (Except.ok.inj h)
  exact ⟨_, rfl, completed_released hv hl _ _ (by rw [returned, hop]; rfl) (by simp) rfl rfl⟩

theorem completeWrite_completed (hv : l.registry.Valid)
    (hl : l.registry.liveSlot index = some slot) (hop : slot.opcode = .write)
    (hfit : SlotFits l.heap slot) (h : completeWrite env l index slot c = .ok (r, l1)) :
    ∃ v, r = .value v ∧ Completed l index slot l1 := by
  unfold completeWrite at h
  obtain ⟨⟨p, b⟩, hp, h⟩ := except_bind_ok h
  obtain ⟨hp, hb⟩ := slotPayload_eq_ok hp
  obtain ⟨l2, hr, h⟩ := except_bind_ok h
  rw [releaseFixed_eq_ok hp hb hr] at h
  obtain ⟨rfl, rfl⟩ := Prod.mk.inj (Except.ok.inj h)
  refine ⟨_, rfl, completed_returned hv hl (by rw [hop]; rfl) fun _ q b' hq hb' => ?_⟩
  obtain ⟨b0, hb0, hm⟩ := returnIndex_mode hb'
  rw [hm]
  exact hfit.write hop q b0 hq hb0

theorem completeWritev_completed (hv : l.registry.Valid)
    (hl : l.registry.liveSlot index = some slot) (hop : slot.opcode.returnsIndex = false)
    (h : completeWritev env l index slot c = .ok (r, l1)) :
    ∃ v, r = .value v ∧ Completed l index slot l1 := by
  unfold completeWritev at h
  split at h
  · obtain ⟨rfl, rfl⟩ := Prod.mk.inj (Except.ok.inj h)
    exact ⟨_, rfl, completed_released hv hl _ _ (by rw [returned, hop]; rfl) (by simp) rfl rfl⟩
  · obtain ⟨rfl, rfl⟩ := Prod.mk.inj (Except.ok.inj h)
    exact ⟨_, rfl, completed_self hv hl hop⟩

theorem completeRecv_completed (hv : l.registry.Valid)
    (hl : l.registry.liveSlot index = some slot) (hop : slot.opcode = .recv)
    (hfit : SlotFits l.heap slot) (h : completeRecv env l index slot c = .ok (r, l1)) :
    ∃ v, r = .value v ∧ Completed l index slot l1 := by
  unfold completeRecv at h
  rw [if_pos (hfit.recv hop)] at h
  obtain ⟨⟨p, b⟩, hp, h⟩ := except_bind_ok h
  obtain ⟨hp, hb⟩ := slotPayload_eq_ok hp
  have hrest : ∀ v, (do
      let l ← releaseFixed l p b
      return (BranchResult.value v, l.releaseSlotPayload index slot false)) = .ok (r, l1) →
      ∃ v, r = .value v ∧ Completed l index slot l1 := by
    intro v h
    obtain ⟨l2, hr, h⟩ := except_bind_ok h
    rw [releaseFixed_eq_ok hp hb hr] at h
    obtain ⟨rfl, rfl⟩ := Prod.mk.inj (Except.ok.inj h)
    exact ⟨_, rfl, completed_returned hv hl (by rw [hop]; rfl) (by simp)⟩
  dsimp only at h
  by_cases hz : c.res = 0
  · rw [if_pos hz] at h
    exact hrest _ h
  · rw [if_neg hz] at h
    obtain ⟨linear, -, h⟩ := except_bind_ok h
    exact hrest _ h

theorem completeRecvmsg_completed (hv : l.registry.Valid)
    (hl : l.registry.liveSlot index = some slot) (hop : slot.opcode = .recvmsg)
    (hfit : SlotFits l.heap slot) (h : completeRecvmsg env l index slot c = .ok (r, l1)) :
    ∃ v, r = .value v ∧ Completed l index slot l1 := by
  have hret : slot.opcode.returnsIndex = true := by
    rw [hop]
    rfl
  unfold completeRecvmsg at h
  obtain ⟨⟨p, b⟩, hp, h⟩ := except_bind_ok h
  obtain ⟨hp, hb⟩ := slotPayload_eq_ok hp
  obtain ⟨l2, hr, h⟩ := except_bind_ok h
  obtain rfl := releaseFixed_eq_ok hp hb hr
  by_cases hs : slot.streamStrategy = .multishot
  · -- the payload has no linear buffer, so the branch reads through NULL
    rw [if_pos hs] at h
    unfold completeRecvmsgMultishot linearOf at h
    rw [hfit.multishot hop hs p b hp hb] at h
    exact absurd h (by simp [bind, Except.bind])
  · rw [if_neg hs] at h
    by_cases ht : b.payloadType = .payloadLinear
    · rw [if_pos ht] at h
      obtain ⟨linear, -, h⟩ := except_bind_ok h
      obtain ⟨rfl, rfl⟩ := Prod.mk.inj (Except.ok.inj h)
      have hc := completed_released hv hl
        ((returnIndex l.heap slot.bufferPayload).freeBlock slot.addr) false
        (f := fun s => { s with addr := none, bufferPayload := none })
        (by rw [returned, hret]; rfl) (by simp) rfl rfl
      refine ⟨_, rfl, ?_⟩
      unfold Loop.releaseSlotPayload
      unfold Loop.modifySlot at hc ⊢
      simp only [List.modify_modify_eq, Function.comp_def] at hc ⊢
      exact hc
    · rw [if_neg ht] at h
      obtain ⟨v, -, h⟩ := except_bind_ok h
      obtain ⟨rfl, rfl⟩ := Prod.mk.inj (Except.ok.inj h)
      exact ⟨_, rfl, completed_returned hv hl hret (by simp)⟩

theorem completeSend_completed (hv : l.registry.Valid)
    (hl : l.registry.liveSlot index = some slot) (hop : slot.opcode.returnsIndex = true)
    (h : completeSend env l index slot c = .ok (r, l1)) :
    ∃ v, r = .value v ∧ Completed l index slot l1 := by
  unfold completeSend at h
  split at h
  · rename_i hp
    obtain ⟨rfl, rfl⟩ := Prod.mk.inj (Except.ok.inj h)
    refine ⟨_, rfl, hv, rfl, id, ⟨slot, hl, fun _ _ => rfl, ?_⟩, rfl, rfl, rfl, rfl,
      .of_eq rfl rfl⟩
    rw [returned, hop, hp]
    rfl
  · rename_i p hp
    obtain ⟨b, hb, h⟩ := except_bind_ok h
    have hb' : l.heap.payloads[p]? = some b := by
      unfold payloadAt at hb
      split at hb
      · rename_i b' hb'
        rw [hb', Except.ok.inj hb]
      · exact absurd hb (by simp)
    obtain ⟨l2, hr, h⟩ := except_bind_ok h
    rw [releaseFixed_eq_ok hp hb' hr] at h
    obtain ⟨rfl, rfl⟩ := Prod.mk.inj (Except.ok.inj h)
    exact ⟨_, rfl, completed_returned hv hl hop (by simp)⟩

theorem completeAccept_completed (hv : l.registry.Valid)
    (hl : l.registry.liveSlot index = some slot) (hop : slot.opcode = .accept)
    (hfit : SlotFits l.heap slot) (h : completeAccept env l index slot c = .ok (r, l1)) :
    (r = .skip ∧ env.object = false ∧ l1 = { l with heap := l.heap.freeBlock slot.addr }) ∨
      ∃ v, r = .value v ∧ Completed l index slot l1 := by
  have hret : slot.opcode.returnsIndex = false := by
    rw [hop]
    rfl
  unfold completeAccept at h
  split at h
  · obtain ⟨rfl, rfl⟩ := Prod.mk.inj (Except.ok.inj h)
    exact Or.inr ⟨_, rfl, completed_self hv hl hret⟩
  · split at h
    · rename_i hobj
      obtain ⟨rfl, rfl⟩ := Prod.mk.inj (Except.ok.inj h)
      exact Or.inl ⟨rfl, by simpa using hobj, rfl⟩
    · split at h
      · exact absurd h (by simp)
      · obtain ⟨rfl, rfl⟩ := Prod.mk.inj (Except.ok.inj h)
        obtain ⟨hv1, hlive, hclear⟩ :=
          hv.modify hl (f := fun s => { s with bufferPayload := none }) rfl
        refine Or.inr ⟨_, rfl, hv1, rfl, hclear,
          ⟨{ slot with bufferPayload := none }, ?_, fun j hj => ?_, ?_⟩, rfl, rfl, rfl, rfl, ⟨fun _ f hf => ⟨f, hf, id⟩, fun id s hs => ⟨s, ?_, fun hc => hc⟩⟩⟩
        · exact (hlive index).trans (if_pos rfl)
        · exact (hlive j).trans (if_neg hj)
        · rw [returned, hret, hfit.accept hop]
          rfl
        · show (l.sockets ++ _)[id]? = some s
          rw [List.getElem?_append_left (List.getElem?_eq_some_iff.mp hs).1, hs]

theorem complete_completed (hv : l.registry.Valid) (hl : l.registry.liveSlot index = some slot)
    (hfit : SlotFits l.heap slot) (h : complete env l index slot c = .ok (r, l1)) :
    (r = .skip ∧ env.object = false ∧ slot.opcode = .accept ∧
        l1 = { l with heap := l.heap.freeBlock slot.addr }) ∨
      ∃ v, r = .value v ∧ Completed l index slot l1 := by
  unfold complete at h
  have hplain : ∀ {v : Option ResultValue} {l2 : Loop}, slot.opcode.returnsIndex = false →
      (.ok (.value v, l2) : Branch) = .ok (r, l1) → l2 = l →
      ∃ v, r = .value v ∧ Completed l index slot l1 := by
    intro v l2 hn he hl2
    obtain ⟨rfl, rfl⟩ := Prod.mk.inj (Except.ok.inj he)
    subst hl2
    exact ⟨_, rfl, completed_self hv hl hn⟩
  cases hop : slot.opcode with
  | read =>
    rw [hop] at h
    exact Or.inr (completeRead_completed hv hl (by rw [hop]; rfl) h)
  | readv =>
    rw [hop] at h
    exact Or.inr (completeReadv_completed hv hl (by rw [hop]; rfl) h)
  | write =>
    rw [hop] at h
    exact Or.inr (completeWrite_completed hv hl hop hfit h)
  | writev =>
    rw [hop] at h
    exact Or.inr (completeWritev_completed hv hl (by rw [hop]; rfl) h)
  | openat2 =>
    rw [hop] at h
    simp only [completeOpenat2] at h
    split at h
    · obtain ⟨rfl, rfl⟩ := Prod.mk.inj (Except.ok.inj h)
      exact Or.inr ⟨_, rfl, completed_of_objects hv hl (by rw [hop]; rfl) rfl rfl rfl rfl rfl rfl
        (.setFile fun _ hc => hc)⟩
    · exact Or.inr (hplain (by rw [hop]; rfl) h rfl)
  | socket =>
    rw [hop] at h
    simp only [completeSocket] at h
    split at h
    · obtain ⟨rfl, rfl⟩ := Prod.mk.inj (Except.ok.inj h)
      exact Or.inr ⟨_, rfl, completed_of_objects hv hl (by rw [hop]; rfl) rfl rfl rfl rfl rfl rfl
        (.setSocket fun _ hc => hc)⟩
    · exact Or.inr (hplain (by rw [hop]; rfl) h rfl)
  | bind | connect | listen =>
    rw [hop] at h
    simp only [completeSocketNumber] at h
    split at h
    · exact Or.inr (hplain (by rw [hop]; rfl) h rfl)
    · exact Or.inr (hplain (by rw [hop]; rfl) h rfl)
  | accept =>
    rw [hop] at h
    exact (completeAccept_completed hv hl hop hfit h).imp_left fun ⟨hr, ho, he⟩ => ⟨hr, ho, rfl, he⟩
  | recv =>
    rw [hop] at h
    exact Or.inr (completeRecv_completed hv hl hop hfit h)
  | recvmsg =>
    rw [hop] at h
    exact Or.inr (completeRecvmsg_completed hv hl hop hfit h)
  | send | sendmsg =>
    rw [hop] at h
    exact Or.inr (completeSend_completed hv hl (by rw [hop]; rfl) h)
  | close =>
    rw [hop] at h
    simp only [completeClose] at h
    split at h
    · obtain ⟨rfl, rfl⟩ := Prod.mk.inj (Except.ok.inj h)
      exact Or.inr ⟨_, rfl, completed_of_objects hv hl (by rw [hop]; rfl) rfl rfl rfl rfl rfl rfl
        (.setSocket fun _ _ => rfl)⟩
    · obtain ⟨rfl, rfl⟩ := Prod.mk.inj (Except.ok.inj h)
      exact Or.inr ⟨_, rfl, completed_of_objects hv hl (by rw [hop]; rfl) rfl rfl rfl rfl rfl rfl
        (.setFile fun _ _ => rfl)⟩
    · exact Or.inr (hplain (by rw [hop]; rfl) h rfl)
  | timeout | nop | fsync | splice | other _ =>
    rw [hop] at h
    exact Or.inr (hplain (by rw [hop]; rfl) h rfl)

/-! ## One CQE -/

/-- What handling a CQE of a live slot leaves. -/
structure Handled (l : Loop) (index : Int) (slot : RequestSlot) (future : FutureId) (c : Cqe)
    (l1 : Loop) : Prop where
  valid : l1.registry.Valid
  size : l1.registry.size = l.registry.size
  cleared : l.registry.Cleared → l1.registry.Cleared
  live : ∀ j, l1.registry.liveSlot j = if j = index then none else l.registry.liveSlot j
  payloads : l1.heap.payloads =
    (freeBufferPayload (if 0 ≤ c.res then returned l.heap slot else l.heap) slot.bufferPayload
      false).payloads
  ring : l1.ring = ioUringCqeSeen l.ring
  calls : ∃ calls, l1.callLog = l.callLog ++ calls ∧ ∀ e ∈ calls, e.1 = future
  nextFuture : l1.nextFuture = l.nextFuture
  context : l1.context = l.context
  objects : l.KeepsObjects l1

/-- The end of an iteration after a branch. -/
theorem finishCqe_handled {l2 : Loop} {future : FutureId} (calls : List (FutureId × FutureCall))
    (hc : Completed l index slot l1) (hres : 0 ≤ c.res ∨ slot.opcode.returnsIndex = false)
    (hcalls : ∀ e ∈ calls, e.1 = future)
    (h : finishCqe { l1 with callLog := l1.callLog ++ calls } index = .ok l2) :
    Handled l index slot future c l2 := by
  obtain ⟨slot1, hl1, hothers, hnet⟩ := hc.slot
  obtain ⟨reg, hrem, hv, hsize, hlive⟩ := hc.valid.remove l1.heap hl1
  unfold finishCqe at h
  simp only [hrem] at h
  obtain rfl := Except.ok.inj h
  refine ⟨hv, hsize.trans hc.size, fun hcl => ((hc.cleared hcl).remove hrem).1, fun j => ?_, ?_,
    congrArg ioUringCqeSeen hc.ring,
    ⟨calls, congrArg (· ++ calls) hc.callLog, hcalls⟩, hc.nextFuture, hc.context,
    ⟨hc.objects.file, hc.objects.socket⟩⟩
  · refine (hlive j).trans ?_
    by_cases hj : j = index
    · rw [if_pos hj, if_pos hj]
    · rw [if_neg hj, if_neg hj, hothers j hj]
  · refine hnet.trans ?_
    rcases hres with hres | hop
    · rw [if_pos hres]
    · have hreturned : returned l.heap slot = l.heap := by
        rw [returned, hop]
        rfl
      rw [hreturned, ite_self]

/-- An error leaves everything to `registry_remove`. -/
theorem finishCqe_failed {l2 : Loop} {future : FutureId} (calls : List (FutureId × FutureCall))
    (hv : l.registry.Valid) (hl : l.registry.liveSlot index = some slot) (hres : c.res < 0)
    (hcalls : ∀ e ∈ calls, e.1 = future)
    (h : finishCqe { l with callLog := l.callLog ++ calls } index = .ok l2) :
    Handled l index slot future c l2 := by
  obtain ⟨reg, hrem, hv1, hsize, hlive⟩ := hv.remove l.heap hl
  unfold finishCqe at h
  simp only [hrem] at h
  obtain rfl := Except.ok.inj h
  refine ⟨hv1, hsize, fun hcl => (hcl.remove hrem).1, hlive, ?_, rfl, ⟨calls, rfl, hcalls⟩, rfl, rfl,
    .of_eq rfl rfl⟩
  rw [if_neg (by omega)]
  rfl

theorem timeoutExpired_opcode (h : timeoutExpired slot c = true) : slot.opcode = .timeout := by
  unfold timeoutExpired at h
  rw [Bool.and_eq_true] at h
  exact eq_of_beq h.1

/-- A CQE of a live slot is handled, or the accept had no memory for its Socket. -/
theorem readLive_handled {future : FutureId} (hv : l.registry.Valid)
    (hl : l.registry.liveSlot index = some slot) (hfit : SlotFits l.heap slot)
    (htag : c.userData ≠ wakeupFdTag) (h : readLive env l index slot future c = .ok l1) :
    Handled l index slot future c l1 ∨
      (env.object = false ∧ slot.opcode = .accept ∧
        l1 = { l with heap := l.heap.freeBlock slot.addr }.cqeSeen) := by
  unfold readLive at h
  split at h
  · rename_i hres
    cases hx : env.exc with
    | true =>
      rw [hx] at h
      exact Or.inl (finishCqe_failed [(future, .setException (.osError (-c.res)))] hv hl
        hres.1 (by simp) h)
    | false =>
      rw [hx] at h
      refine Or.inl (finishCqe_failed [] hv hl hres.1 (by simp) ?_)
      rw [List.append_nil]
      exact h
  · rename_i hres
    have hret : 0 ≤ c.res ∨ slot.opcode.returnsIndex = false := by
      by_cases hn : 0 ≤ c.res
      · exact Or.inl hn
      · refine Or.inr ?_
        have ht : timeoutExpired slot c = true := by
          by_contra hf
          exact hres ⟨by omega, hf⟩
        rw [timeoutExpired_opcode ht]
        rfl
    split at h
    · exact absurd h (by simp)
    · rename_i l2 he
      rcases complete_completed hv hl hfit he with ⟨-, hobj, hop, rfl⟩ | ⟨v, hr, -⟩
      · exact Or.inr ⟨hobj, hop, (Except.ok.inj h).symm⟩
      · exact absurd hr (by simp)
    · rename_i l2 he
      rcases complete_completed hv hl hfit he with ⟨hr, -⟩ | ⟨v, -, hc⟩
      · exact absurd hr (by simp)
      · refine Or.inl (finishCqe_handled [] hc hret (by simp) ?_)
        rw [List.append_nil]
        exact h
    · rename_i v l2 he
      rcases complete_completed hv hl hfit he with ⟨hr, -⟩ | ⟨v, -, hc⟩
      · exact absurd hr (by simp)
      · exact Or.inl (finishCqe_handled [(future, .setResult _)] hc hret (by simp) h)

/-- A CQE that decodes to no live slot is dropped. -/
theorem readCqe_of_dead (h : l.registry.liveSlot (toInt c.userData) = none) :
    readCqe env l c = .ok l.cqeSeen := by
  unfold readCqe
  unfold RequestRegistry.liveSlot at h
  cases hg : registryGet l.registry (toInt c.userData) with
  | none => simp only [hg]
  | some slot =>
    rw [hg] at h
    cases hf : slot.future with
    | none => simp only [hg, hf]
    | some f => simp [hf] at h

theorem readCqe_of_live (env : ReadEnv) (h : l.registry.liveSlot (toInt c.userData) = some slot) :
    ∃ future, slot.future = some future ∧
      readCqe env l c = readLive env l (toInt c.userData) slot future c := by
  obtain ⟨hg, hf⟩ := RequestRegistry.liveSlot_eq_some.mp h
  obtain ⟨future, hf⟩ := Option.isSome_iff_exists.mp hf
  refine ⟨future, hf, ?_⟩
  unfold readCqe
  simp only [hg, hf]

/-- A CQE that decodes to a live slot carries no wakeup tag. -/
theorem ne_wakeupFdTag_of_live (h : l.registry.liveSlot (toInt c.userData) = some slot) :
    c.userData ≠ wakeupFdTag := by
  intro ht
  rw [ht, toInt_wakeupFdTag] at h
  have hg := (RequestRegistry.liveSlot_eq_some.mp h).1
  rw [RequestRegistry.registryGet_of_not_inRange (by simp [RequestRegistry.inRange])] at hg
  exact absurd hg (by simp)

end Branches

end Uringio
