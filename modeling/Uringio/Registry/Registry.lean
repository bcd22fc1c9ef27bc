/-
  The request registry (`src/registry`): an array of slots and an array stack of free
  indices.

  `registryRemove` clears most fields of the slot and releases its payload, but leaves
  `user_data`, `addr` and `stream_strategy` as they are, and it does not ask whether the
  slot is live: only a full stack stops it, with `abort()`.
-/
import Uringio.Buffers.Buffers

namespace Uringio

structure RequestSlot where
  userData : Nat
  future : Option FutureId
  streamStrategy : StreamStrategy
  bufferPayload : Option PayloadId
  opcode : Opcode
  file : Option FileId
  socket : Option SocketId
  addr : Option Block
  msghdr : Option Block
deriving DecidableEq, Repr, Inhabited

structure RequestRegistry where
  slots : List RequestSlot
  availableIndices : List Int
  top : Int
  size : Nat
deriving DecidableEq, Repr

/-- What `registry_add` is given for a request. -/
structure Registration where
  future : FutureId
  bufferPayload : Option PayloadId
  streamStrategy : StreamStrategy
  opcode : Opcode
  file : Option FileId
  socket : Option SocketId
  sockaddr : Option Block
  msghdr : Option Block
deriving DecidableEq, Repr

/-- The slot that `registry_add` writes at `index`. -/
def Registration.slot (reg : Registration) (index : Int) : RequestSlot :=
  { userData := toUint64 index
    future := some reg.future
    streamStrategy := reg.streamStrategy
    bufferPayload := reg.bufferPayload
    opcode := reg.opcode
    file := reg.file
    socket := reg.socket
    addr := reg.sockaddr
    msghdr := reg.msghdr }

/-- The slot after `registry_remove`. -/
def RequestSlot.clear (slot : RequestSlot) : RequestSlot :=
  { slot with
    future := none, bufferPayload := none, socket := none, file := none, msghdr := none
    opcode := .nop }

def defaultRegistrySize : Nat := 25000

/-- `registry_new` when its allocations succeed. -/
def registryNew (size : Nat) : RequestRegistry :=
  let size := if size = 0 then defaultRegistrySize else size
  { slots := List.replicate size default
    availableIndices := Lib.indices size
    top := toInt size - 1
    size := size }

def registryAdd (reg : RequestRegistry) (request : Registration) : Int × RequestRegistry :=
  if reg.top < 0 then (-1, reg)
  else
    let index := reg.availableIndices.getD reg.top.toNat default
    (index, { reg with
      top := reg.top - 1
      slots := reg.slots.set index.toNat (request.slot index) })

/-- The index is one that `registry_get` and `registry_remove` accept. -/
def RequestRegistry.inRange (reg : RequestRegistry) (index : Int) : Bool :=
  !(index < 0 || index ≥ toInt reg.size)

def registryGet (reg : RequestRegistry) (index : Int) : Option RequestSlot :=
  if !reg.inRange index then none else reg.slots[index.toNat]?

/-- `&reg->slots[index]` for an index that is in range. -/
def RequestRegistry.slotAt (reg : RequestRegistry) (index : Int) : RequestSlot :=
  reg.slots.getD index.toNat default

def registryRemove (reg : RequestRegistry) (heap : Heap) (index : Int) :
    Except Stop (RequestRegistry × Heap) :=
  if !reg.inRange index then .ok (reg, heap)
  else if reg.top ≥ toInt reg.size - 1 then .error .abort
  else
    let slot := reg.slotAt index
    let heap := freeBufferPayload heap slot.bufferPayload false
    let heap := heap.freeBlock slot.msghdr
    .ok
      ({ reg with
          slots := reg.slots.set index.toNat slot.clear
          top := reg.top + 1
          availableIndices := reg.availableIndices.set (reg.top + 1).toNat index },
        heap)

/-- The releases of `registry_destroy`, slot by slot; the futures are only decref'ed. -/
def destroySlots (heap : Heap) : List RequestSlot → Heap
  | [] => heap
  | slot :: slots => destroySlots (freeBufferPayload heap slot.bufferPayload true) slots

/-- `registry_destroy`. -/
def registryDestroy (reg : RequestRegistry) (heap : Heap) : RequestRegistry × Heap :=
  ({ slots := [], availableIndices := [], top := -1, size := 0 }, destroySlots heap reg.slots)

/-! ## The invariant -/

namespace RequestRegistry

/-- The slot of a live request. -/
def liveSlot (reg : RequestRegistry) (index : Int) : Option RequestSlot :=
  (registryGet reg index).filter fun slot => slot.future.isSome

def Live (reg : RequestRegistry) (index : Int) : Prop := (reg.liveSlot index).isSome

instance (reg : RequestRegistry) : DecidablePred reg.Live :=
  fun _ => inferInstanceAs (Decidable (_ = true))

/-- The indices on the stack. -/
def free (reg : RequestRegistry) : List Int := Lib.occupied reg.availableIndices reg.top

/-- The stack holds exactly the indices that are not live, each once. -/
structure Valid (reg : RequestRegistry) : Prop where
  pos : 0 < reg.size
  small : reg.size < 2 ^ 31
  slotsLength : reg.slots.length = reg.size
  stackLength : reg.availableIndices.length = reg.size
  low : -1 ≤ reg.top
  high : reg.top < reg.size
  complement : Lib.Complement reg.size reg.free reg.Live

variable {reg : RequestRegistry} {index j : Int} {slot : RequestSlot} {request : Registration}
  {heap : Heap}

theorem Valid.inRange_iff (h : reg.Valid) :
    reg.inRange index = true ↔ 0 ≤ index ∧ index < reg.size := by
  unfold inRange
  rw [toInt_of_lt h.small]
  simp only [Bool.not_eq_true', Bool.or_eq_false_iff, decide_eq_false_iff_not]
  omega

theorem registryGet_of_not_inRange (h : reg.inRange index = false) :
    registryGet reg index = none := by
  unfold registryGet
  rw [h]
  rfl

/-- Whatever the registry, a removed slot is not live. -/
theorem liveSlot_registryRemove {reg reg' : RequestRegistry} {heap heap' : Heap} {index : Int}
    (h : registryRemove reg heap index = .ok (reg', heap')) : reg'.liveSlot index = none := by
  unfold registryRemove at h
  cases hin : reg.inRange index with
  | false =>
    rw [hin] at h
    obtain ⟨rfl, -⟩ := Prod.mk.inj (Except.ok.inj h)
    unfold liveSlot
    rw [registryGet_of_not_inRange hin]
    rfl
  | true =>
    rw [hin] at h
    simp only [Bool.not_true, Bool.false_eq_true, if_false] at h
    by_cases htop : reg.top ≥ toInt reg.size - 1
    · rw [if_pos htop] at h
      cases h
    · rw [if_neg htop] at h
      obtain ⟨rfl, -⟩ := Prod.mk.inj (Except.ok.inj h)
      show (if !reg.inRange index then none
        else (reg.slots.set index.toNat (reg.slotAt index).clear)[index.toNat]?).filter _ = none
      rw [hin, List.getElem?_set_self']
      cases reg.slots[index.toNat]? with
      | none => rfl
      | some slot => rfl

theorem Valid.get_eq (h : reg.Valid) (hr : 0 ≤ index ∧ index < reg.size) :
    registryGet reg index = some (reg.slotAt index) := by
  have hlen := h.slotsLength
  have hlt : index.toNat < reg.slots.length := by omega
  unfold registryGet slotAt
  rw [h.inRange_iff.mpr hr, List.getD_eq_getElem?_getD, List.getElem?_eq_getElem hlt]
  rfl

theorem liveSlot_eq_some : reg.liveSlot index = some slot ↔
    registryGet reg index = some slot ∧ slot.future.isSome = true := by
  unfold liveSlot
  rw [Option.filter_eq_some_iff]

theorem Valid.liveSlot_inRange (h : reg.Valid) (hl : reg.liveSlot index = some slot) :
    0 ≤ index ∧ index < reg.size := by
  have hg := (liveSlot_eq_some.mp hl).1
  rw [← h.inRange_iff]
  by_contra hr
  rw [registryGet_of_not_inRange (by simpa using hr)] at hg
  exact absurd hg (by simp)

theorem Live.exists_slot (h : reg.Live index) : ∃ slot, reg.liveSlot index = some slot :=
  Option.isSome_iff_exists.mp h

theorem live_of_liveSlot (h : reg.liveSlot index = some slot) : reg.Live index := by
  unfold Live
  rw [h]
  rfl

/-- The live view of a registry whose slot array differs at one index. -/
theorem Valid.liveSlot_set (h : reg.Valid) (hr : 0 ≤ index ∧ index < reg.size)
    (slot : RequestSlot) (reg' : RequestRegistry) (j : Int)
    (hslots : reg'.slots = reg.slots.set index.toNat slot) (hsize : reg'.size = reg.size) :
    reg'.liveSlot j = if j = index then (if slot.future.isSome then some slot else none)
      else reg.liveSlot j := by
  have hlen := h.slotsLength
  have hrange : reg'.inRange j = reg.inRange j := by
    unfold inRange
    rw [hsize]
  unfold liveSlot registryGet
  rw [hrange, hslots]
  by_cases hj : j = index
  · rw [if_pos hj, hj, h.inRange_iff.mpr hr, List.getElem?_set_self (by omega)]
    simp only [Bool.not_true, Bool.false_eq_true, if_false, Option.filter_some]
  · rw [if_neg hj]
    cases hjr : reg.inRange j with
    | false => rfl
    | true =>
      have := h.inRange_iff.mp hjr
      rw [List.getElem?_set_ne (by omega)]

/-! ## The operations -/

theorem registryNew_eq {size : Nat} (h0 : 0 < size) (h : size < 2 ^ 31) :
    registryNew size = ⟨List.replicate size default, Lib.indices size, size - 1, size⟩ := by
  have hne : size ≠ 0 := by omega
  unfold registryNew
  rw [if_neg hne]
  dsimp only
  rw [toInt_of_lt h]

theorem registryNew_zero : registryNew 0 = registryNew defaultRegistrySize := by
  unfold registryNew
  rw [if_pos rfl, if_neg (by decide)]

/-- Nothing is live in a new registry. -/
theorem liveSlot_registryNew {size : Nat} (h0 : 0 < size) (h : size < 2 ^ 31) :
    (registryNew size).liveSlot index = none := by
  rw [registryNew_eq h0 h]
  unfold liveSlot
  rw [Option.filter_eq_none_iff]
  intro slot hs
  unfold registryGet at hs
  split at hs
  · exact absurd hs (by simp)
  · have := List.getElem?_eq_some_iff.mp hs
    obtain ⟨hlt, he⟩ := this
    rw [← he]
    simp
    rfl

theorem registryNew_valid {size : Nat} (h0 : 0 < size) (h : size < 2 ^ 31) :
    (registryNew size).Valid := by
  have hlive : ∀ i, ¬ (registryNew size).Live i := by
    intro i hi
    unfold Live at hi
    rw [liveSlot_registryNew h0 h] at hi
    exact absurd hi (by simp)
  have hfull := Lib.occupied_full (Lib.indices size)
  rw [Lib.length_indices] at hfull
  have hc : Lib.Complement (registryNew size).size (registryNew size).free
      (registryNew size).Live := by
    have hfree : (registryNew size).free = Lib.indices size := by
      rw [registryNew_eq h0 h]
      exact hfull
    have hsize : (registryNew size).size = size := by rw [registryNew_eq h0 h]
    rw [hfree, hsize]
    exact (Lib.Complement.initial size).congr fun j => by simp [hlive j]
  rw [registryNew_eq h0 h] at hc ⊢
  have hlow : (-1 : Int) ≤ (size : Int) - 1 := by omega
  have hhigh : (size : Int) - 1 < size := by omega
  exact ⟨h0, h, by simp, Lib.length_indices size, hlow, hhigh, hc⟩

theorem Valid.top_neg_iff (h : reg.Valid) :
    reg.top < 0 ↔ ∀ j, 0 ≤ j ∧ j < (reg.size : Int) → reg.Live j := by
  rw [← h.complement.eq_nil_iff]
  constructor
  · exact Lib.occupied_of_neg
  · intro he
    have hlen := Lib.length_occupied h.low (h.stackLength ▸ h.high)
    unfold free at he
    rw [he] at hlen
    simp at hlen
    omega

theorem registryAdd_of_full (h : reg.top < 0) : registryAdd reg request = (-1, reg) := by
  unfold registryAdd
  rw [if_pos h]

/-- `registry_add` on a registry that is not full: the index was not live, and afterwards
    its slot is the request's and every other live slot is as before. -/
theorem Valid.add (h : reg.Valid) (request : Registration) (ht : ¬ reg.top < 0) :
    (registryAdd reg request).2.Valid ∧
    (registryAdd reg request).2.size = reg.size ∧
    (0 ≤ (registryAdd reg request).1 ∧ (registryAdd reg request).1 < reg.size) ∧
    ¬ reg.Live (registryAdd reg request).1 ∧
    ∀ j, (registryAdd reg request).2.liveSlot j =
      if j = (registryAdd reg request).1 then some (request.slot (registryAdd reg request).1)
      else reg.liveSlot j := by
  have hhigh := h.high
  have hpop : reg.free = Lib.occupied reg.availableIndices (reg.top - 1) ++
      [reg.availableIndices.getD reg.top.toNat default] :=
    Lib.occupied_pop (by omega) (by rw [h.stackLength]; exact hhigh)
  have hcomp := h.complement
  rw [hpop] at hcomp
  obtain ⟨hrange, hdead⟩ := hcomp.take_not_live
  unfold registryAdd
  rw [if_neg ht]
  dsimp only
  generalize reg.availableIndices.getD reg.top.toNat default = index at hcomp hrange hdead ⊢
  have hlive : ∀ j, RequestRegistry.liveSlot { reg with
      slots := reg.slots.set index.toNat (request.slot index), top := reg.top - 1 } j =
      if j = index then some (request.slot index) else reg.liveSlot j := by
    intro j
    exact h.liveSlot_set hrange (request.slot index) _ j rfl rfl
  refine ⟨⟨h.pos, h.small, ?_, h.stackLength, by dsimp only; omega, by dsimp only; omega, ?_⟩, rfl,
    hrange, hdead, hlive⟩
  · dsimp only
    rw [List.length_set]
    exact h.slotsLength
  · refine hcomp.take.congr fun j => ?_
    unfold Live
    rw [hlive]
    by_cases hj : j = index
    · simp [hj]
    · simp [hj]

/-- `registry_remove` of a live index does not abort; afterwards the index is not live and
    every other live slot is as before. -/
theorem Valid.remove (h : reg.Valid) (heap : Heap) (hl : reg.liveSlot index = some slot) :
    ∃ reg', registryRemove reg heap index =
        .ok (reg', (freeBufferPayload heap slot.bufferPayload false).freeBlock slot.msghdr) ∧
      reg'.Valid ∧ reg'.size = reg.size ∧
      ∀ j, reg'.liveSlot j = if j = index then none else reg.liveSlot j := by
  have hrange := h.liveSlot_inRange hl
  have hin := h.inRange_iff.mpr hrange
  have hslot : reg.slotAt index = slot := by
    have hg := (liveSlot_eq_some.mp hl).1
    rw [h.get_eq hrange] at hg
    exact Option.some.inj hg
  have hlow := h.low
  have hroom : reg.top + 1 < reg.size := by
    have hlt := h.complement.length_lt hrange (live_of_liveSlot hl)
    have hlen := Lib.length_occupied h.low (h.stackLength ▸ h.high)
    unfold free at hlt
    omega
  have hnot : ¬ reg.top ≥ toInt reg.size - 1 := by
    rw [toInt_of_lt h.small]
    omega
  have hlive : ∀ j, RequestRegistry.liveSlot { reg with
      slots := reg.slots.set index.toNat slot.clear, top := reg.top + 1,
      availableIndices := reg.availableIndices.set (reg.top + 1).toNat index } j =
      if j = index then none else reg.liveSlot j := by
    intro j
    exact h.liveSlot_set hrange slot.clear _ j rfl rfl
  refine ⟨{ reg with
    slots := reg.slots.set index.toNat slot.clear, top := reg.top + 1,
    availableIndices := reg.availableIndices.set (reg.top + 1).toNat index }, ?_, ?_, rfl, hlive⟩
  · unfold registryRemove
    rw [hin, if_neg hnot, hslot]
    rfl
  · refine ⟨h.pos, h.small, ?_, ?_, by dsimp only; omega, by dsimp only; omega, ?_⟩
    · dsimp only
      rw [List.length_set]
      exact h.slotsLength
    · dsimp only
      rw [List.length_set]
      exact h.stackLength
    · have hpush : Lib.occupied (reg.availableIndices.set (reg.top + 1).toNat index) (reg.top + 1) =
          reg.free ++ [index] :=
        Lib.occupied_push hlow (by rw [h.stackLength]; exact hroom) index
      unfold free
      dsimp only
      rw [hpush]
      refine (h.complement.give hrange (live_of_liveSlot hl)).congr fun j => ?_
      unfold Live
      rw [hlive]
      by_cases hj : j = index
      · simp [hj]
      · simp [hj]

/-- A registry of a new loop, whatever its size: one whose size is no int is full and has no
    slot for any index. -/
def Sound (reg : RequestRegistry) : Prop :=
  reg.Valid ∨ reg.top < 0 ∧ ∀ i, reg.inRange i = false

theorem Sound.valid_of_room (h : reg.Sound) (ht : ¬ reg.top < 0) : reg.Valid := by
  rcases h with h | ⟨hn, -⟩
  · exact h
  · exact absurd hn ht

theorem Sound.valid_of_live (h : reg.Sound) (hl : reg.liveSlot index = some slot) :
    reg.Valid := by
  rcases h with h | ⟨-, hr⟩
  · exact h
  · have hg := (liveSlot_eq_some.mp hl).1
    rw [registryGet_of_not_inRange (hr index)] at hg
    exact absurd hg (by simp)

/-- A registry has a slot for every index in range. -/
theorem Sound.get_eq_none_iff (h : reg.Sound) :
    registryGet reg index = none ↔ reg.inRange index = false := by
  constructor
  · intro hg
    rcases h with h | ⟨-, hr⟩
    · by_contra hin
      rw [h.get_eq (h.inRange_iff.mp (by simpa using hin))] at hg
      exact absurd hg (by simp)
    · exact hr index
  · exact registryGet_of_not_inRange

theorem registryNew_sound {size : Nat} (h : size < 2 ^ 32) :
    (registryNew size).Sound ∧ ∀ i, (registryNew size).liveSlot i = none := by
  by_cases h0 : size = 0
  · rw [h0, registryNew_zero]
    exact ⟨Or.inl (registryNew_valid (by decide) (by decide)), fun i =>
      liveSlot_registryNew (by decide) (by decide)⟩
  · by_cases hs : size < 2 ^ 31
    · exact ⟨Or.inl (registryNew_valid (Nat.pos_of_ne_zero h0) hs), fun i =>
        liveSlot_registryNew (Nat.pos_of_ne_zero h0) hs⟩
    · have hint : toInt size = size - 2 ^ 32 := by
        unfold toInt
        rw [Nat.mod_eq_of_lt h, if_neg hs]
      have hr : ∀ i, (registryNew size).inRange i = false := by
        intro i
        unfold registryNew inRange
        rw [if_neg h0]
        dsimp only
        rw [hint]
        simp only [Bool.not_eq_false', Bool.or_eq_true, decide_eq_true_eq]
        omega
      refine ⟨Or.inr ⟨?_, hr⟩, fun i => ?_⟩
      · unfold registryNew
        rw [if_neg h0]
        dsimp only
        omega
      · unfold liveSlot
        rw [registryGet_of_not_inRange (hr i)]
        rfl

/-- `registry_remove` of an index out of range does nothing. -/
theorem remove_of_not_inRange (h : reg.inRange index = false) :
    registryRemove reg heap index = .ok (reg, heap) := by
  unfold registryRemove
  rw [h]
  rfl

/-! ## The payloads of slots -/

/-- Only live slots have a payload. -/
def Cleared (reg : RequestRegistry) : Prop :=
  ∀ (i : Nat) slot p, reg.slots[i]? = some slot → slot.bufferPayload = some p →
    reg.liveSlot i = some slot

/-- A slot was written that is live or has no payload. -/
theorem Cleared.set {reg' : RequestRegistry} (h : reg.Cleared) (h0 : 0 ≤ index)
    (hslots : reg'.slots = reg.slots.set index.toNat slot)
    (hslot : slot.bufferPayload = none ∨ reg'.liveSlot index = some slot)
    (hlive : ∀ j, j ≠ index → reg'.liveSlot j = reg.liveSlot j) : reg'.Cleared := by
  intro i x p hx hp
  rw [hslots, List.getElem?_set] at hx
  split at hx
  · rename_i hi
    split at hx
    · obtain rfl := Option.some.inj hx
      rcases hslot with hn | hl
      · rw [hn] at hp
        exact absurd hp (by simp)
      · rw [← hi, Int.toNat_of_nonneg h0, hl]
    · exact absurd hx (by simp)
  · rename_i hi
    rw [hlive i (by omega)]
    exact h i x p hx hp

theorem registryNew_cleared (size : Nat) : (registryNew size).Cleared := by
  intro i slot p hs hp
  obtain ⟨-, rfl⟩ := List.mem_replicate.mp (List.mem_of_getElem? hs)
  exact absurd hp (by simp [default, instInhabitedRequestSlot.default])

theorem Cleared.add (h : reg.Cleared) (hv : reg.Valid) (request : Registration)
    (ht : ¬ reg.top < 0) : (registryAdd reg request).2.Cleared := by
  obtain ⟨-, -, hr, -, hlive⟩ := hv.add request ht
  refine h.set hr.1 ?_ (Or.inr ((hlive _).trans (if_pos rfl)))
    fun j hj => (hlive j).trans (if_neg hj)
  unfold registryAdd
  rw [if_neg ht]

/-- The live view after a slot lost its future. -/
theorem liveSlot_clear {reg' : RequestRegistry} (h0 : 0 ≤ index) (hfut : slot.future = none)
    (hslots : reg'.slots = reg.slots.set index.toNat slot) (hsize : reg'.size = reg.size)
    (j : Int) : reg'.liveSlot j = if j = index then none else reg.liveSlot j := by
  have hrange : reg'.inRange j = reg.inRange j := by
    unfold inRange
    rw [hsize]
  unfold liveSlot registryGet
  rw [hrange, hslots]
  cases hj : reg.inRange j with
  | false => simp
  | true =>
    have hj0 : 0 ≤ j := by
      unfold inRange at hj
      simp only [Bool.not_eq_true', Bool.or_eq_false_iff, decide_eq_false_iff_not] at hj
      omega
    simp only [Bool.not_true, Bool.false_eq_true, if_false]
    by_cases he : j = index
    · rw [if_pos he, he, List.getElem?_set, if_pos rfl]
      split
      · simp [hfut]
      · rfl
    · rw [if_neg he, List.getElem?_set_ne (by omega)]

/-- What `registry_remove` does when it returns, whether the slot was live or not. -/
theorem Cleared.remove {reg' : RequestRegistry} {heap' : Heap} (h : reg.Cleared)
    (hr : registryRemove reg heap index = .ok (reg', heap')) :
    reg'.Cleared ∧ reg'.size = reg.size ∧
    (∀ j, reg'.liveSlot j = if j = index then none else reg.liveSlot j) ∧
    heap'.payloads = (freeBufferPayload heap
      ((reg.liveSlot index).bind RequestSlot.bufferPayload) false).payloads := by
  cases hin : reg.inRange index with
  | false =>
    rw [remove_of_not_inRange hin] at hr
    obtain ⟨rfl, rfl⟩ := Prod.mk.inj (Except.ok.inj hr)
    have hnone : reg.liveSlot index = none := by
      unfold liveSlot
      rw [registryGet_of_not_inRange hin]
      rfl
    refine ⟨h, rfl, fun j => ?_, ?_⟩
    · split
      · rename_i hj
        rw [hj, hnone]
      · rfl
    · rw [hnone]
      rfl
  | true =>
    unfold registryRemove at hr
    rw [hin] at hr
    simp only [Bool.not_true, Bool.false_eq_true, if_false] at hr
    split at hr
    · exact absurd hr (by simp)
    obtain ⟨rfl, rfl⟩ := Prod.mk.inj (Except.ok.inj hr)
    have h0 : 0 ≤ index := by
      unfold inRange at hin
      simp only [Bool.not_eq_true', Bool.or_eq_false_iff, decide_eq_false_iff_not] at hin
      omega
    have hlive : ∀ j, RequestRegistry.liveSlot { reg with
        slots := reg.slots.set index.toNat (reg.slotAt index).clear, top := reg.top + 1,
        availableIndices := reg.availableIndices.set (reg.top + 1).toNat index } j =
        if j = index then none else reg.liveSlot j := by
      have hfut : (reg.slotAt index).clear.future = none := rfl
      exact liveSlot_clear h0 hfut rfl rfl
    refine ⟨h.set h0 rfl (Or.inl rfl) fun j hj => (hlive j).trans (if_neg hj), rfl, hlive, ?_⟩
    have hpay : (reg.slotAt index).bufferPayload =
        (reg.liveSlot index).bind RequestSlot.bufferPayload := by
      unfold slotAt
      rw [List.getD_eq_getElem?_getD]
      cases hs : reg.slots[index.toNat]? with
      | none =>
        unfold liveSlot registryGet
        rw [hin, hs]
        rfl
      | some slot =>
        have hget : registryGet reg index = some slot := by
          unfold registryGet
          rw [hin]
          exact hs
        cases hp : slot.bufferPayload with
        | none =>
          unfold liveSlot
          rw [hget, Option.getD_some, hp, Option.filter_some]
          split
          · exact hp.symm
          · rfl
        | some p =>
          have hl := h index.toNat slot p hs hp
          rw [Int.toNat_of_nonneg h0] at hl
          rw [hl]
          rfl
    rw [← hpay]
    rfl

end RequestRegistry

end Uringio
