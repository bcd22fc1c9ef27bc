/-
  What the reader does with the address and the message header of a slot.

  `registry_remove` frees the header of every slot and no address. The address is freed by
  the branch of a linear `recvmsg`, and by an accept without memory for its Socket; an accept
  that succeeds gives it to the new Socket, whose dealloc frees it.
-/
import Uringio.PyOps.Blocks
import Uringio.Reader.Handled

namespace Uringio

/-- The block that `UringioSocket_dealloc` frees. -/
def UringioSocket.dealloc (sock : UringioSocket) : List Block := sock.addr.toList

/-- The blocks freed between two states of the loop. -/
def Loop.freedSince (l l1 : Loop) : List Block := l1.heap.freed.drop l.heap.freed.length

/-- The blocks that new Sockets will free. -/
def Loop.handedSince (l l1 : Loop) : List Block :=
  (l1.sockets.drop l.sockets.length).flatMap UringioSocket.dealloc

/-- Some blocks were freed and some handed to new Sockets. -/
structure Loop.Releases (l : Loop) (freed handed : List Block) (l1 : Loop) : Prop where
  freed : l1.heap.freed = l.heap.freed ++ freed
  handed : ∃ new, l1.sockets = l.sockets ++ new ∧ new.flatMap UringioSocket.dealloc = handed

namespace Loop.Releases

variable {l l1 l2 : Loop} {freed handed : List Block}

theorem freedSince (h : l.Releases freed handed l1) : l.freedSince l1 = freed := by
  unfold Loop.freedSince
  rw [h.freed, List.drop_left]

theorem handedSince (h : l.Releases freed handed l1) : l.handedSince l1 = handed := by
  obtain ⟨new, hs, hn⟩ := h.handed
  unfold Loop.handedSince
  rw [hs, List.drop_left, hn]

theorem of_eq (hf : l1.heap.freed = l.heap.freed) (hs : l1.sockets = l.sockets) :
    l.Releases [] [] l1 :=
  ⟨by rw [hf, List.append_nil], [], by rw [hs, List.append_nil], rfl⟩

/-- More is freed. -/
theorem free {more : List Block} (h : l.Releases freed handed l1)
    (hf : l2.heap.freed = l1.heap.freed ++ more) (hs : l2.sockets = l1.sockets) :
    l.Releases (freed ++ more) handed l2 := by
  refine ⟨by rw [hf, h.freed, List.append_assoc], ?_⟩
  rw [hs]
  exact h.handed

theorem congr (h : l.Releases freed handed l1) (hf : l2.heap.freed = l1.heap.freed)
    (hs : l2.sockets = l1.sockets) : l.Releases freed handed l2 := by
  have hfree := h.free (hf.trans (List.append_nil _).symm) hs
  rwa [List.append_nil] at hfree

end Loop.Releases

section Branches

variable {env : ReadEnv} {l l1 : Loop} {index : Int} {slot : RequestSlot} {c : Cqe}
  {r : BranchResult}

/-- A branch has released these blocks, and `registry_remove` will find the same header. -/
structure BranchReleases (l : Loop) (index : Int) (slot : RequestSlot) (freed handed : List Block)
    (l1 : Loop) : Prop where
  releases : l.Releases freed handed l1
  valid : l1.registry.Valid
  slot : ∃ slot1, l1.registry.liveSlot index = some slot1 ∧ slot1.msghdr = slot.msghdr

theorem branchReleases_of_eq (hv : l.registry.Valid) (hl : l.registry.liveSlot index = some slot)
    (hf : l1.heap.freed = l.heap.freed) (hs : l1.sockets = l.sockets)
    (hr : l1.registry = l.registry) : BranchReleases l index slot [] [] l1 :=
  ⟨.of_eq hf hs, hr ▸ hv, slot, hr ▸ hl, rfl⟩

/-- A write through the slot pointer, which leaves future and header. -/
theorem BranchReleases.modifySlot {freed handed : List Block} {f : RequestSlot → RequestSlot}
    (h : BranchReleases l index slot freed handed l1) (hfut : ∀ s, (f s).future = s.future)
    (hmsg : ∀ s, (f s).msghdr = s.msghdr) :
    BranchReleases l index slot freed handed (l1.modifySlot index f) := by
  obtain ⟨slot1, hl1, hm⟩ := h.slot
  obtain ⟨hv, hlive, -⟩ := h.valid.modify hl1 (hfut slot1)
  exact ⟨h.releases.congr rfl rfl, hv, f slot1, (hlive index).trans (if_pos rfl),
    (hmsg slot1).trans hm⟩

/-- A change of the payloads. -/
theorem BranchReleases.heap {freed handed : List Block} {heap : Heap}
    (h : BranchReleases l index slot freed handed l1) (hf : heap.freed = l1.heap.freed) :
    BranchReleases l index slot freed handed { l1 with heap := heap } :=
  ⟨h.releases.congr hf rfl, h.valid, h.slot⟩

theorem freed_freeBufferPayload (heap : Heap) (payload : Option PayloadId) (force : Bool) :
    (freeBufferPayload heap payload force).freed = heap.freed := by
  cases payload with
  | none => rfl
  | some p => rfl

theorem BranchReleases.releaseSlotPayload {freed handed : List Block} {slot' : RequestSlot}
    {force : Bool} (h : BranchReleases l index slot freed handed l1) :
    BranchReleases l index slot freed handed (l1.releaseSlotPayload index slot' force) :=
  (h.heap (freed_freeBufferPayload _ _ _)).modifySlot (fun _ => rfl) fun _ => rfl

theorem releaseFixed_releases {p : PayloadId} {b : BufferPayload} (hv : l.registry.Valid)
    (hl : l.registry.liveSlot index = some slot) (h : releaseFixed l p b = .ok l1) :
    BranchReleases l index slot [] [] l1 := by
  unfold releaseFixed at h
  split at h
  · split at h
    · exact absurd h (by simp)
    · obtain rfl := Except.ok.inj h
      exact branchReleases_of_eq hv hl rfl rfl rfl
  · obtain rfl := Except.ok.inj h
    exact branchReleases_of_eq hv hl rfl rfl rfl

/-! ## The branches -/

theorem completeSocketNumber_releases (hv : l.registry.Valid)
    (hl : l.registry.liveSlot index = some slot)
    (h : completeSocketNumber env l slot c = .ok (r, l1)) :
    BranchReleases l index slot [] [] l1 ∧ r ≠ .skip := by
  unfold completeSocketNumber at h
  split at h
  · obtain ⟨rfl, rfl⟩ := Prod.mk.inj (Except.ok.inj h)
    exact ⟨branchReleases_of_eq hv hl rfl rfl rfl, BranchResult.noConfusion⟩
  · obtain ⟨rfl, rfl⟩ := Prod.mk.inj (Except.ok.inj h)
    exact ⟨branchReleases_of_eq hv hl rfl rfl rfl, BranchResult.noConfusion⟩

theorem completeSend_releases (hv : l.registry.Valid)
    (hl : l.registry.liveSlot index = some slot)
    (h : completeSend env l index slot c = .ok (r, l1)) :
    BranchReleases l index slot [] [] l1 ∧ r ≠ .skip := by
  unfold completeSend at h
  split at h
  · obtain ⟨rfl, rfl⟩ := Prod.mk.inj (Except.ok.inj h)
    exact ⟨branchReleases_of_eq hv hl rfl rfl rfl, BranchResult.noConfusion⟩
  · obtain ⟨b, -, h⟩ := except_bind_ok h
    obtain ⟨l2, hfixed, h⟩ := except_bind_ok h
    obtain ⟨rfl, rfl⟩ := Prod.mk.inj (Except.ok.inj h)
    exact ⟨(releaseFixed_releases hv hl hfixed).releaseSlotPayload, BranchResult.noConfusion⟩

/-- An accept frees the address when it skips its CQE, and hands it over when it makes a
    Socket. -/
theorem completeAccept_releases (hv : l.registry.Valid)
    (hl : l.registry.liveSlot index = some slot)
    (h : completeAccept env l index slot c = .ok (r, l1)) :
    (BranchReleases l index slot slot.addr.toList [] l1 ∧ r = .skip) ∨
      (BranchReleases l index slot [] slot.addr.toList l1 ∧ r ≠ .skip) ∨
      (BranchReleases l index slot [] [] l1 ∧ r ≠ .skip) := by
  unfold completeAccept at h
  split at h
  · obtain ⟨rfl, rfl⟩ := Prod.mk.inj (Except.ok.inj h)
    exact .inr (.inr ⟨branchReleases_of_eq hv hl rfl rfl rfl, BranchResult.noConfusion⟩)
  · split at h
    · obtain ⟨rfl, rfl⟩ := Prod.mk.inj (Except.ok.inj h)
      exact .inl ⟨⟨⟨rfl, [], (List.append_nil _).symm, rfl⟩, hv, slot, hl, rfl⟩, rfl⟩
    · split at h
      · exact absurd h (by simp)
      · rename_i listener _
        obtain ⟨rfl, rfl⟩ := Prod.mk.inj (Except.ok.inj h)
        have hconn : BranchReleases l index slot [] slot.addr.toList
            { l with sockets := l.sockets ++ [⟨some c.res, listener.domain, slot.addr, false⟩] } :=
          ⟨⟨(List.append_nil _).symm, _, rfl, List.flatMap_singleton _ _⟩, hv, slot, hl, rfl⟩
        exact .inr (.inl ⟨hconn.modifySlot (fun _ => rfl) fun _ => rfl, BranchResult.noConfusion⟩)

/-- A `recvmsg` frees the address when its payload is linear and it is no multishot. -/
theorem completeRecvmsg_releases (hv : l.registry.Valid)
    (hl : l.registry.liveSlot index = some slot)
    (h : completeRecvmsg env l index slot c = .ok (r, l1)) :
    ∃ p b, slot.bufferPayload = some p ∧ l.heap.payloads[p]? = some b ∧ r ≠ .skip ∧
      BranchReleases l index slot
        (if slot.streamStrategy ≠ .multishot ∧ b.payloadType = .payloadLinear then
          slot.addr.toList else []) [] l1 := by
  obtain ⟨⟨p, b⟩, hp, h⟩ := except_bind_ok h
  obtain ⟨hslot, hb⟩ := slotPayload_eq_ok hp
  obtain ⟨l2, hfixed, h⟩ := except_bind_ok h
  have h2 := releaseFixed_releases hv hl hfixed
  refine ⟨p, b, hslot, hb, ?_⟩
  split at h
  · rename_i hstream
    rw [if_neg fun hm => hm.1 hstream]
    obtain ⟨linear, -, h⟩ := except_bind_ok h
    dsimp only at h
    split at h
    · split at h
      · obtain ⟨rfl, rfl⟩ := Prod.mk.inj (Except.ok.inj h)
        exact ⟨BranchResult.noConfusion, ⟨h2.releases.congr rfl rfl, h2.valid, h2.slot⟩⟩
      · exact absurd h (by simp)
    · obtain ⟨rfl, rfl⟩ := Prod.mk.inj (Except.ok.inj h)
      exact ⟨BranchResult.noConfusion, h2⟩
  · rename_i hstream
    split at h
    · rename_i htype
      rw [if_pos ⟨hstream, htype⟩]
      obtain ⟨linear, -, h⟩ := except_bind_ok h
      obtain ⟨rfl, rfl⟩ := Prod.mk.inj (Except.ok.inj h)
      have hfreed : BranchReleases l index slot slot.addr.toList []
          { l2 with heap := l2.heap.freeBlock slot.addr } :=
        ⟨h2.releases.free rfl rfl, h2.valid, h2.slot⟩
      refine ⟨BranchResult.noConfusion, BranchReleases.releaseSlotPayload ?_⟩
      exact hfreed.modifySlot (fun _ => rfl) fun _ => rfl
    · rename_i htype
      rw [if_neg fun hm => htype hm.2]
      obtain ⟨v, -, h⟩ := except_bind_ok h
      obtain ⟨rfl, rfl⟩ := Prod.mk.inj (Except.ok.inj h)
      exact ⟨BranchResult.noConfusion, h2.releaseSlotPayload⟩

/-! ## One CQE -/

theorem freed_registryRemove {reg reg' : RequestRegistry} {heap heap' : Heap}
    (hv : reg.Valid) (hl : reg.liveSlot index = some slot)
    (h : registryRemove reg heap index = .ok (reg', heap')) :
    heap'.freed = heap.freed ++ slot.msghdr.toList := by
  have hr := hv.liveSlot_inRange hl
  have hat : reg.slotAt index = slot := by
    have hget := (RequestRegistry.liveSlot_eq_some.mp hl).1
    exact Option.some.inj ((hv.get_eq hr).symm.trans hget)
  unfold registryRemove at h
  rw [hv.inRange_iff.mpr hr, hat] at h
  simp only [Bool.not_true, Bool.false_eq_true, if_false] at h
  split at h
  · exact absurd h (by simp)
  · obtain ⟨-, rfl⟩ := Prod.mk.inj (Except.ok.inj h)
    show (freeBufferPayload heap slot.bufferPayload false).freed ++ slot.msghdr.toList = _
    rw [freed_freeBufferPayload]

/-- `registry_remove` frees the header and ends the slot. -/
theorem finishCqe_releases {l0 : Loop} {freed handed : List Block}
    (h0 : BranchReleases l0 index slot freed handed l) (h : finishCqe l index = .ok l1) :
    l0.Releases (freed ++ slot.msghdr.toList) handed l1 ∧
      l1.registry.liveSlot index = none := by
  obtain ⟨slot1, hl1, hmsg⟩ := h0.slot
  unfold finishCqe at h
  cases hrem : registryRemove l.registry l.heap index with
  | error e =>
    rw [hrem] at h
    exact absurd h (by simp)
  | ok removed =>
    obtain ⟨registry, heap⟩ := removed
    rw [hrem] at h
    obtain rfl := Except.ok.inj h
    refine ⟨h0.releases.free ?_ rfl, RequestRegistry.liveSlot_registryRemove hrem⟩
    rw [← hmsg]
    exact freed_registryRemove h0.valid hl1 hrem

/-- The ways a CQE of a live slot is handled: it is an error, its branch skips it, or its
    branch runs; a result goes to the future, which touches no block. -/
inductive CqeOutcome (env : ReadEnv) (l : Loop) (slot : RequestSlot) (c : Cqe) (l1 : Loop) : Prop
  | failed {l2 : Loop} (hres : c.res < 0 ∧ ¬ timeoutExpired slot c = true)
      (h : BranchReleases l (toInt c.userData) slot [] [] l2)
      (hfin : finishCqe l2 (toInt c.userData) = .ok l1)
  | skipped {l2 : Loop} (hres : ¬ (c.res < 0 ∧ ¬ timeoutExpired slot c = true))
      (he : complete env l (toInt c.userData) slot c = .ok (.skip, l2)) (h : l1 = l2.cqeSeen)
  | finished {v : Option ResultValue} {l2 l3 : Loop}
      (hres : ¬ (c.res < 0 ∧ ¬ timeoutExpired slot c = true))
      (he : complete env l (toInt c.userData) slot c = .ok (.value v, l2))
      (hcall : ∀ {freed handed}, BranchReleases l (toInt c.userData) slot freed handed l2 →
        BranchReleases l (toInt c.userData) slot freed handed l3)
      (hfin : finishCqe l3 (toInt c.userData) = .ok l1)

theorem readCqe_outcome (hv : l.registry.Valid)
    (hl : l.registry.liveSlot (toInt c.userData) = some slot) (h : readCqe env l c = .ok l1) :
    CqeOutcome env l slot c l1 := by
  obtain ⟨future, -, hread⟩ := readCqe_of_live env hl
  rw [hread] at h
  unfold readLive at h
  split at h
  · rename_i hres
    refine .failed hres ?_ h
    split
    · exact branchReleases_of_eq hv hl rfl rfl rfl
    · exact branchReleases_of_eq hv hl rfl rfl rfl
  · rename_i hres
    rw [if_neg (ne_wakeupFdTag_of_live hl)] at h
    split at h
    · exact absurd h (by simp)
    · rename_i l2 he
      exact .skipped hres he (Except.ok.inj h).symm
    · rename_i l2 he
      exact .finished hres he id h
    · rename_i v l2 he
      refine .finished hres he ?_ h
      exact fun h2 => ⟨h2.releases.congr rfl rfl, h2.valid, h2.slot⟩

/-- A CQE whose branch does not skip it: an error releases only the header, and the slot is
    removed. -/
theorem readCqe_releases {freed handed : List Block} (hv : l.registry.Valid)
    (hl : l.registry.liveSlot (toInt c.userData) = some slot)
    (hb : ∀ r l2, complete env l (toInt c.userData) slot c = .ok (r, l2) →
      BranchReleases l (toInt c.userData) slot freed handed l2 ∧ r ≠ .skip)
    (h : readCqe env l c = .ok l1) :
    l1.registry.liveSlot (toInt c.userData) = none ∧
      l.Releases ((if c.res < 0 ∧ ¬ timeoutExpired slot c = true then [] else freed) ++
          slot.msghdr.toList)
        (if c.res < 0 ∧ ¬ timeoutExpired slot c = true then [] else handed) l1 := by
  cases readCqe_outcome hv hl h with
  | failed hres h2 hfin =>
    rw [if_pos hres, if_pos hres]
    exact (finishCqe_releases h2 hfin).symm
  | skipped hres he _ => exact absurd rfl (hb _ _ he).2
  | finished hres he hcall hfin =>
    rw [if_neg hres, if_neg hres]
    exact (finishCqe_releases (hcall (hb _ _ he).1) hfin).symm

/-- A CQE of an accept frees or hands over the address at most, and nothing else. -/
theorem readCqe_accept_releases (hv : l.registry.Valid)
    (hl : l.registry.liveSlot (toInt c.userData) = some slot) (hop : slot.opcode = .accept)
    (hmsg : slot.msghdr = none) (h : readCqe env l c = .ok l1) :
    ∃ freed handed, l.Releases freed handed l1 ∧ ∀ b ∈ freed ++ handed, slot.addr = some b := by
  have hcomplete : ∀ {r l2}, complete env l (toInt c.userData) slot c = .ok (r, l2) →
      completeAccept env l (toInt c.userData) slot c = .ok (r, l2) := by
    intro r l2 he
    unfold complete at he
    rw [hop] at he
    exact he
  cases readCqe_outcome hv hl h with
  | failed _ h2 hfin =>
    refine ⟨_, _, (finishCqe_releases h2 hfin).1, fun b hm => ?_⟩
    rw [hmsg] at hm
    exact absurd hm (by simp)
  | skipped _ he heq =>
    rcases completeAccept_releases hv hl (hcomplete he) with ⟨hb, -⟩ | ⟨-, hr⟩ | ⟨-, hr⟩
    · refine ⟨_, _, hb.releases.congr (by rw [heq]; rfl) (by rw [heq]; rfl), fun b hm => ?_⟩
      exact Option.mem_toList.mp (by simpa using hm)
    · exact absurd rfl hr
    · exact absurd rfl hr
  | finished _ he hcall hfin =>
    rcases completeAccept_releases hv hl (hcomplete he) with ⟨-, hr⟩ | ⟨hb, -⟩ | ⟨hb, -⟩
    · exact absurd hr BranchResult.noConfusion
    · refine ⟨_, _, (finishCqe_releases (hcall hb) hfin).1, fun b hm => ?_⟩
      rw [hmsg] at hm
      exact Option.mem_toList.mp (by simpa using hm)
    · refine ⟨_, _, (finishCqe_releases (hcall hb) hfin).1, fun b hm => ?_⟩
      rw [hmsg] at hm
      exact absurd hm (by simp)

end Branches

end Uringio
