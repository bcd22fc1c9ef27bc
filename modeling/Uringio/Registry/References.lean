/-
  The references that the registry counts.

  `registry_add` counts a reference to the future, the Socket and the File of a request, and
  `registry_remove` and `registry_destroy` drop them. An open or a `prep_socket` holds one more
  to the object that it has created, until its completion.
-/
import Uringio.Lib.References
import Uringio.Registry.Registry

namespace Uringio

open Lib RefEvent

/-- The objects that a request counts references to. -/
inductive PyObj where
  | future (id : FutureId)
  | file (id : FileId)
  | socket (id : SocketId)
deriving DecidableEq, Repr

/-- The references that `registry_add` counts. -/
def Registration.references (reg : Registration) : List PyObj :=
  .future reg.future :: (reg.socket.toList.map .socket ++ reg.file.toList.map .file)

namespace RequestSlot

/-- The references that `registry_remove` drops. -/
def references (slot : RequestSlot) : List PyObj :=
  slot.future.toList.map .future ++ slot.socket.toList.map .socket ++ slot.file.toList.map .file

/-- The object that the request has created, with the reference of its creation. -/
def created (slot : RequestSlot) : List PyObj :=
  match slot.opcode with
  | .openat2 => slot.file.toList.map .file
  | .socket => slot.socket.toList.map .socket
  | _ => []

/-- Every reference that the library holds for a request. -/
def owned (slot : RequestSlot) : Multiset PyObj := ↑slot.created + ↑slot.references

/-- The fields of a slot that hold references, and what says which. -/
def owners (slot : RequestSlot) :
    Option FutureId × Option FileId × Option SocketId × Opcode :=
  (slot.future, slot.file, slot.socket, slot.opcode)

variable {slot slot' : RequestSlot}

theorem references_congr (h : slot.owners = slot'.owners) : slot.references = slot'.references := by
  obtain ⟨hfuture, hfile, hsocket, -⟩ : slot.future = slot'.future ∧ slot.file = slot'.file ∧
      slot.socket = slot'.socket ∧ slot.opcode = slot'.opcode := by simpa [owners] using h
  unfold references
  rw [hfuture, hfile, hsocket]

theorem created_congr (h : slot.owners = slot'.owners) : slot.created = slot'.created := by
  obtain ⟨-, hfile, hsocket, hop⟩ : slot.future = slot'.future ∧ slot.file = slot'.file ∧
      slot.socket = slot'.socket ∧ slot.opcode = slot'.opcode := by simpa [owners] using h
  unfold created
  rw [hfile, hsocket, hop]

theorem owned_congr (h : slot.owners = slot'.owners) : slot.owned = slot'.owned := by
  unfold owned
  rw [references_congr h, created_congr h]

theorem future_clear (slot : RequestSlot) : slot.clear.future = none := rfl

theorem owned_clear : slot.clear.owned = 0 := rfl

end RequestSlot

theorem Registration.references_slot (request : Registration) (index : Int) :
    (request.slot index).references = request.references := rfl

namespace RequestRegistry

/-- What `registry_remove` drops; an index out of range has no slot. -/
def dropped (reg : RequestRegistry) (index : Int) : List PyObj :=
  if reg.inRange index then (reg.slotAt index).references else []

/-- What `registry_destroy` drops. -/
def allDropped (reg : RequestRegistry) : List PyObj := reg.slots.flatMap RequestSlot.references

/-- The object that the request of an index has created. -/
def createdAt (reg : RequestRegistry) (index : Int) : List PyObj :=
  if reg.inRange index then (reg.slotAt index).created else []

/-- The references that the slots count. -/
def counted (reg : RequestRegistry) : Multiset PyObj :=
  total (fun slot => ↑slot.references) reg.slots

/-- The objects that the requests have created. -/
def created (reg : RequestRegistry) : Multiset PyObj :=
  total (fun slot => ↑slot.created) reg.slots

/-- Every reference that the library holds for its requests. -/
def owned (reg : RequestRegistry) : Multiset PyObj := total RequestSlot.owned reg.slots

/-- A slot that is not live has no references. -/
def Bare (reg : RequestRegistry) : Prop :=
  ∀ (i : Nat) slot, reg.slots[i]? = some slot → reg.liveSlot i = none → slot.owned = 0

variable {reg reg' : RequestRegistry} {index : Int} {slot : RequestSlot}

theorem owned_eq (reg : RequestRegistry) : reg.owned = reg.created + reg.counted := total_add

/-- What the slot of an index owns. -/
def ownedAt (reg : RequestRegistry) (i : Nat) : Multiset PyObj := (reg.slotAt i).owned

theorem owned_eq_range (reg : RequestRegistry) :
    reg.owned = total reg.ownedAt (List.range reg.slots.length) := by
  unfold owned total
  refine congrArg List.sum (List.ext_getElem (by simp) fun i hi _ => ?_)
  have hlt : i < reg.slots.length := by simpa using hi
  simp [ownedAt, slotAt, hlt]

theorem coe_allDropped (reg : RequestRegistry) : (↑reg.allDropped : Multiset PyObj) = reg.counted := by
  unfold allDropped counted total
  induction reg.slots with
  | nil => rfl
  | cons slot slots ih =>
    rw [List.flatMap_cons, ← Multiset.coe_add, ih]
    rfl

/-- A slot was written that is live or has no references. -/
theorem Bare.set (hb : reg.Bare) {slot' : RequestSlot} (h0 : 0 ≤ index)
    (hslots : reg'.slots = reg.slots.set index.toNat slot')
    (hslot : reg'.liveSlot index = none → slot'.owned = 0)
    (hlive : ∀ j, j ≠ index → reg'.liveSlot j = reg.liveSlot j) : reg'.Bare := by
  intro i x hx hdead
  rw [hslots, List.getElem?_set] at hx
  split at hx
  · rename_i hi
    have hidx : (i : Int) = index := by omega
    split at hx
    · obtain rfl := Option.some.inj hx
      exact hslot (hidx ▸ hdead)
    · cases hx
  · rename_i hi
    exact hb i x hx (hlive i (by omega) ▸ hdead)

theorem Bare.ownedAt (hb : reg.Bare) {i : Nat} (hi : i < reg.slots.length)
    (hdead : reg.liveSlot i = none) : reg.ownedAt i = 0 := by
  refine hb i _ ?_ hdead
  simp [slotAt, hi]

theorem registryNew_bare (size : Nat) : (registryNew size).Bare := by
  intro i slot hs _
  obtain ⟨-, rfl⟩ := List.mem_replicate.mp (List.mem_of_getElem? hs)
  rfl

theorem owned_registryNew (size : Nat) : (registryNew size).owned = 0 := by
  refine total_eq_zero_iff.mpr fun slot hs => ?_
  obtain ⟨-, rfl⟩ := List.mem_replicate.mp hs
  rfl

theorem nonneg_of_inRange (h : reg.inRange index = true) : 0 ≤ index := by
  unfold inRange at h
  simp only [Bool.not_eq_true', Bool.or_eq_false_iff, decide_eq_false_iff_not] at h
  omega

/-- There is a slot for every index in range. -/
def Covered (reg : RequestRegistry) : Prop :=
  ∀ index, reg.inRange index = true → index.toNat < reg.slots.length

theorem Sound.covered (h : reg.Sound) : reg.Covered := by
  intro index hin
  rcases h with hv | ⟨-, hout⟩
  · have hr := hv.inRange_iff.mp hin
    rw [hv.slotsLength]
    omega
  · exact absurd (hin.symm.trans (hout index)) (by simp)

theorem Covered.getElem?_slotAt (h : reg.Covered) (hin : reg.inRange index = true) :
    reg.slots[index.toNat]? = some (reg.slotAt index) := by
  unfold slotAt
  rw [List.getD_eq_getElem?_getD, List.getElem?_eq_getElem (h index hin)]
  rfl

/-- The slot of a live index. -/
theorem Valid.slotAt_of_live (h : reg.Valid) (hl : reg.liveSlot index = some slot) :
    reg.inRange index = true ∧ reg.slotAt index = slot := by
  have hr := h.liveSlot_inRange hl
  refine ⟨h.inRange_iff.mpr hr, ?_⟩
  have hget := (liveSlot_eq_some.mp hl).1
  rw [h.get_eq hr] at hget
  exact Option.some.inj hget

theorem Valid.dropped_of_live (h : reg.Valid) (hl : reg.liveSlot index = some slot) :
    reg.dropped index = slot.references := by
  obtain ⟨hin, hat⟩ := h.slotAt_of_live hl
  unfold dropped
  rw [if_pos hin, hat]

theorem Valid.createdAt_of_live (h : reg.Valid) (hl : reg.liveSlot index = some slot) :
    reg.createdAt index = slot.created := by
  obtain ⟨hin, hat⟩ := h.slotAt_of_live hl
  unfold createdAt
  rw [if_pos hin, hat]

/-- A request gets a slot that held nothing. -/
theorem Bare.add (hb : reg.Bare) (hv : reg.Valid) (request : Registration) (ht : ¬ reg.top < 0) :
    (registryAdd reg request).2.Bare ∧
      (registryAdd reg request).2.owned =
        reg.owned + (request.slot (registryAdd reg request).1).owned ∧
      (registryAdd reg request).2.dropped (registryAdd reg request).1 = request.references ∧
      (registryAdd reg request).2.createdAt (registryAdd reg request).1 =
        (request.slot (registryAdd reg request).1).created := by
  obtain ⟨hv', hsize, hr, hdead, hlive⟩ := hv.add request ht
  have hslots : (registryAdd reg request).2.slots =
      reg.slots.set (registryAdd reg request).1.toNat
        (request.slot (registryAdd reg request).1) := by
    unfold registryAdd
    rw [if_neg ht]
  have hold := Sound.covered (.inl hv) |>.getElem?_slotAt (hv.inRange_iff.mpr hr)
  have hfree : reg.liveSlot (registryAdd reg request).1 = none :=
    Option.not_isSome_iff_eq_none.mp hdead
  have hindex : ((registryAdd reg request).1.toNat : Int) = (registryAdd reg request).1 := by omega
  have hslot := hlive (registryAdd reg request).1
  rw [if_pos rfl] at hslot
  refine ⟨hb.set hr.1 hslots (fun hn => absurd (hslot.symm.trans hn) (by simp)) fun j hj => ?_, ?_,
    hv'.dropped_of_live hslot, hv'.createdAt_of_live hslot⟩
  · rw [hlive, if_neg hj]
  have h : total RequestSlot.owned _ + _ = _ + _ :=
    total_set (y := request.slot (registryAdd reg request).1) hold
  rw [hb _ _ hold (hindex.symm ▸ hfree), Multiset.add_zero] at h
  unfold owned
  rw [hslots]
  exact h

/-- A removal leaves the other live slots, whether its own was live or not. -/
theorem liveSlot_of_remove {heap heap' : Heap}
    (h : registryRemove reg heap index = .ok (reg', heap')) {j : Int} (hj : j ≠ index) :
    reg'.liveSlot j = reg.liveSlot j := by
  cases hin : reg.inRange index with
  | false =>
    rw [remove_of_not_inRange hin] at h
    obtain ⟨rfl, -⟩ := Prod.mk.inj (Except.ok.inj h)
    rfl
  | true =>
    unfold registryRemove at h
    rw [hin] at h
    simp only [Bool.not_true, Bool.false_eq_true, if_false] at h
    split at h
    · exact absurd h (by simp)
    have hlive : ∀ reg' : RequestRegistry,
        reg'.slots = reg.slots.set index.toNat (reg.slotAt index).clear → reg'.size = reg.size →
        reg'.liveSlot j = reg.liveSlot j := fun reg' hslots hsize =>
      (liveSlot_clear (nonneg_of_inRange hin) (RequestSlot.future_clear _) hslots hsize j).trans
        (if_neg hj)
    obtain ⟨rfl, -⟩ := Prod.mk.inj (Except.ok.inj h)
    exact hlive _ rfl rfl

/-- A removal takes the references of the slot away, whether it was live or not. -/
theorem Bare.remove (hb : reg.Bare) (hc : reg.Covered) {heap heap' : Heap}
    (h : registryRemove reg heap index = .ok (reg', heap')) :
    reg'.Bare ∧ reg'.Covered ∧
      reg'.owned + (↑(reg.createdAt index) + ↑(reg.dropped index)) = reg.owned ∧
      reg'.counted + ↑(reg.dropped index) = reg.counted := by
  unfold createdAt dropped
  have hlive : ∀ j, j ≠ index → reg'.liveSlot j = reg.liveSlot j := fun _ => liveSlot_of_remove h
  cases hin : reg.inRange index with
  | false =>
    rw [remove_of_not_inRange hin] at h
    obtain ⟨rfl, -⟩ := Prod.mk.inj (Except.ok.inj h)
    exact ⟨hb, hc, Multiset.add_zero _, Multiset.add_zero _⟩
  | true =>
    have hat := hc.getElem?_slotAt hin
    unfold registryRemove at h
    rw [hin] at h
    simp only [Bool.not_true, Bool.false_eq_true, if_false] at h
    split at h
    · exact absurd h (by simp)
    obtain ⟨rfl, -⟩ := Prod.mk.inj (Except.ok.inj h)
    have h0 := nonneg_of_inRange hin
    refine ⟨hb.set h0 rfl (fun _ => RequestSlot.owned_clear) hlive, fun i hi => ?_, ?_, ?_⟩
    · rw [List.length_set]
      exact hc i hi
    · have howned : total RequestSlot.owned _ + _ = _ + _ :=
        total_set (y := (reg.slotAt index).clear) hat
      exact howned.trans (Multiset.add_zero _)
    · have hcounted : total (fun slot : RequestSlot => (↑slot.references : Multiset PyObj)) _ + _ =
          _ + _ := total_set (y := (reg.slotAt index).clear) hat
      exact hcounted.trans (Multiset.add_zero _)

/-! ## Writes through a slot pointer -/

/-- The slots have the same owners. -/
structure KeepsOwners (reg reg' : RequestRegistry) : Prop where
  slots : reg'.slots.map RequestSlot.owners = reg.slots.map RequestSlot.owners
  size : reg'.size = reg.size

namespace KeepsOwners

theorem refl (reg : RequestRegistry) : KeepsOwners reg reg := ⟨rfl, rfl⟩

theorem trans {reg2 : RequestRegistry} (h : KeepsOwners reg reg') (h' : KeepsOwners reg' reg2) :
    KeepsOwners reg reg2 := ⟨h'.slots.trans h.slots, h'.size.trans h.size⟩

/-- A write that leaves the fields with references. -/
theorem modify {f : RequestSlot → RequestSlot} (hf : ∀ slot, (f slot).owners = slot.owners)
    (i : Nat) : KeepsOwners reg { reg with slots := reg.slots.modify i f } := by
  refine ⟨List.ext_getElem? fun j => ?_, rfl⟩
  rw [List.getElem?_map, List.getElem?_map, List.getElem?_modify]
  cases reg.slots[j]? with
  | none => rfl
  | some slot =>
    refine congrArg some ?_
    split
    · exact hf slot
    · rfl

/-- The slots at an index have the same owners. -/
theorem getElem? (h : KeepsOwners reg reg') (i : Nat) :
    (reg'.slots[i]?).map RequestSlot.owners = (reg.slots[i]?).map RequestSlot.owners := by
  rw [← List.getElem?_map, ← List.getElem?_map, h.slots]

theorem slotAt (h : KeepsOwners reg reg') (index : Int) :
    (reg'.slotAt index).owners = (reg.slotAt index).owners := by
  unfold RequestRegistry.slotAt
  rw [List.getD_eq_getElem?_getD, List.getD_eq_getElem?_getD, ← Option.getD_map RequestSlot.owners,
    ← Option.getD_map RequestSlot.owners, h.getElem?]

theorem inRange (h : KeepsOwners reg reg') (index : Int) : reg'.inRange index = reg.inRange index := by
  unfold RequestRegistry.inRange
  rw [h.size]

theorem dropped (h : KeepsOwners reg reg') (index : Int) :
    reg'.dropped index = reg.dropped index := by
  unfold RequestRegistry.dropped
  rw [h.inRange, RequestSlot.references_congr (h.slotAt index)]

theorem createdAt (h : KeepsOwners reg reg') (index : Int) :
    reg'.createdAt index = reg.createdAt index := by
  unfold RequestRegistry.createdAt
  rw [h.inRange, RequestSlot.created_congr (h.slotAt index)]

theorem covered (h : KeepsOwners reg reg') (hc : reg.Covered) : reg'.Covered := by
  intro index hin
  have hlen := congrArg List.length h.slots
  rw [List.length_map, List.length_map] at hlen
  rw [hlen]
  exact hc index (h.inRange index ▸ hin)

theorem owned (h : KeepsOwners reg reg') : reg'.owned = reg.owned :=
  total_congr h.slots fun _ _ => RequestSlot.owned_congr

/-- A slot that is not live after the write was not live before. -/
theorem dead (h : KeepsOwners reg reg') {index : Int} (hdead : reg'.liveSlot index = none) :
    reg.liveSlot index = none := by
  unfold liveSlot registryGet at hdead ⊢
  rw [← h.inRange]
  split
  · rfl
  · rename_i hin
    rw [if_neg hin, Option.filter_eq_none_iff] at hdead
    rw [Option.filter_eq_none_iff]
    intro slot hs
    have hmap := h.getElem? index.toNat
    rw [hs] at hmap
    obtain ⟨slot', hslot', howners⟩ := Option.map_eq_some_iff.mp hmap
    have hfuture : slot'.future = slot.future := congrArg Prod.fst howners
    rw [← hfuture]
    exact hdead slot' hslot'

theorem bare (h : KeepsOwners reg reg') (hb : reg.Bare) : reg'.Bare := by
  intro i slot' hs hdead
  have hmap := h.getElem? i
  rw [hs] at hmap
  obtain ⟨slot, hslot, howners⟩ := Option.map_eq_some_iff.mp hmap.symm
  rw [RequestSlot.owned_congr howners.symm]
  exact hb i slot hslot (h.dead hdead)

end KeepsOwners

end RequestRegistry

end Uringio
