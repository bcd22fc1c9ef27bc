/-
  A vectored read, from the user's buffers to the bytes object.

  `serialize_vectored_buffers` makes the iovecs, the kernel scatters over them what it read,
  and the reader gathers as many bytes as the CQE says. The copy loop cuts the last chunk
  short; `region_copyChunks` says where it has read.
-/
import Uringio.Buffers.Outcomes
import Uringio.Loop.Init
import Uringio.PyOps.Selects
import Uringio.Reader.OnReady

namespace Uringio

open Lib

/-! ## The copy loop -/

/-- `remaining` after the copy loop. -/
def remainingAfter : List Iovec → Nat → Nat
  | [], remaining => remaining
  | v :: vs, remaining =>
    if remaining = 0 then 0 else remainingAfter vs (remaining - min v.iovLen remaining)

theorem region_cons (v : Iovec) (vs : List Iovec) : region (v :: vs) = v.region ++ region vs := by
  unfold region
  rw [List.flatMap_cons]

theorem length_region_cons (v : Iovec) (vs : List Iovec) :
    (region (v :: vs)).length = v.iovLen + (region vs).length := by
  rw [region_cons, List.length_append, length_iovec_region]

/-- The chunk of an iovec is what it starts with. -/
theorem region_chunk (v : Iovec) (n : Nat) :
    Iovec.region ⟨v.iovBase, min v.iovLen n⟩ = v.region.take n := by
  unfold Iovec.region
  dsimp only
  split
  · rw [← List.map_take, List.take_range, Nat.min_comm]
  · rw [List.take_replicate, Nat.min_comm]

/-- The copy loop reads the first bytes of the iovecs, in order. -/
theorem region_copyChunks (vs : List Iovec) (n : Nat) :
    region (copyChunks vs n) = (region vs).take n := by
  induction vs generalizing n with
  | nil => rw [show copyChunks [] n = [] from rfl, show region [] = [] from rfl, List.take_nil]
  | cons v vs ih =>
    unfold copyChunks
    split
    · rename_i hzero
      rw [hzero]
      rfl
    · rw [region_cons, region_chunk, ih, region_cons, List.take_append,
        length_iovec_region]
      refine congrArg (v.region.take n ++ ·) (congrArg (fun k => (region vs).take k) ?_)
      omega

/-- The loop ends with nothing remaining, where the iovecs hold as many bytes. -/
theorem remainingAfter_eq_zero {vs : List Iovec} {n : Nat} (h : n ≤ (region vs).length) :
    remainingAfter vs n = 0 := by
  induction vs generalizing n with
  | nil => exact Nat.le_zero.mp h
  | cons v vs ih =>
    unfold remainingAfter
    split
    · rfl
    · refine ih ?_
      rw [length_region_cons] at h
      omega

theorem length_region (vs : List Iovec) :
    (region vs).length = (vs.map Iovec.iovLen).sum := by
  induction vs with
  | nil => rfl
  | cons v vs ih => rw [length_region_cons, ih, List.map_cons, List.sum_cons]

/-! ## The user's buffers -/

/-- The byte at the address belongs to the buffer. -/
def LinearBuffer.Occupies (b : LinearBuffer) (a : Nat) : Prop :=
  ∃ n, b.buffer = .mem n ∧ n ≤ a ∧ a < n + b.len

/-- The buffers lie in memory and share no byte. -/
structure OwnMemory (buffers : List LinearBuffer) : Prop where
  mem : ∀ b ∈ buffers, b.len ≠ 0 → ∃ n, b.buffer = .mem n
  apart : buffers.Pairwise fun b c => ∀ a, ¬ (b.Occupies a ∧ c.Occupies a)

section Region

variable {buffers : List LinearBuffer} {b : LinearBuffer} {x : Option Nat}

theorem OwnMemory.take (h : OwnMemory buffers) (k : Nat) : OwnMemory (buffers.take k) :=
  ⟨fun b hb => h.mem b (List.mem_of_mem_take hb), h.apart.sublist (List.take_sublist k buffers)⟩

theorem mem_iovec_region (hmem : b.len ≠ 0 → ∃ n, b.buffer = .mem n)
    (hx : x ∈ b.iovec.region) : ∃ a, x = some a ∧ b.Occupies a := by
  have hne : b.len ≠ 0 := by
    intro hzero
    have hlen : b.iovec.region.length = 0 := (length_iovec_region _).trans hzero
    rw [List.eq_nil_of_length_eq_zero hlen] at hx
    exact absurd hx List.not_mem_nil
  obtain ⟨n, hn⟩ := hmem hne
  have hregion : b.iovec.region = (List.range b.len).map fun k => some (n + k) := by
    unfold LinearBuffer.iovec Iovec.region
    rw [hn]
  rw [hregion] at hx
  obtain ⟨k, hk, rfl⟩ := List.mem_map.mp hx
  have hlt := List.mem_range.mp hk
  exact ⟨n + k, rfl, n, hn, by omega, by omega⟩

theorem nodup_iovec_region (hmem : b.len ≠ 0 → ∃ n, b.buffer = .mem n) :
    b.iovec.region.Nodup := by
  by_cases hzero : b.len = 0
  · have hlen : b.iovec.region.length = 0 := (length_iovec_region _).trans hzero
    rw [List.eq_nil_of_length_eq_zero hlen]
    exact List.nodup_nil
  · obtain ⟨n, hn⟩ := hmem hzero
    unfold LinearBuffer.iovec Iovec.region
    rw [hn]
    refine List.nodup_range.map fun i j hij => ?_
    exact Nat.add_left_cancel (Option.some.inj hij)

/-- Every byte of the concatenation has an address of its own. -/
theorem OwnMemory.region (h : OwnMemory buffers) :
    none ∉ Uringio.region (buffers.map LinearBuffer.iovec) ∧
      (Uringio.region (buffers.map LinearBuffer.iovec)).Nodup := by
  unfold Uringio.region
  rw [List.flatMap_map]
  constructor
  · intro hnone
    obtain ⟨b, hb, hx⟩ := List.mem_flatMap.mp hnone
    obtain ⟨a, ha, -⟩ := mem_iovec_region (h.mem b hb) hx
    exact absurd ha (by simp)
  · refine List.nodup_flatMap.mpr ⟨fun b hb => nodup_iovec_region (h.mem b hb), ?_⟩
    refine h.apart.imp_of_mem fun {b c} hb hc hapart x hx hy => ?_
    obtain ⟨a, rfl, hoccb⟩ := mem_iovec_region (h.mem b hb) hx
    obtain ⟨a', ha, hoccc⟩ := mem_iovec_region (h.mem c hc) hy
    obtain rfl := Option.some.inj ha
    exact hapart a ⟨hoccb, hoccc⟩

end Region

/-! ## The iovecs -/

namespace Buffers

open Ledger

/-- An iovec that lies in an export. -/
def Vec.toIovec (v : Vec) : Option Iovec :=
  match v.iovBase with
  | .user p => some ⟨p, v.iovLen⟩
  | _ => none

/-- The vector as the reader and the kernel see it. -/
def Payload.vectored (payload : Payload) : Option VectoredBuffer := do
  let vector ← payload.vector.join
  let iovecs ← vector.iovecs.join
  let nrVecs ← vector.nrVecs
  let vs ← iovecs.entries.mapM fun entry => entry.bind Vec.toIovec
  some ⟨vs, nrVecs⟩

theorem mapM_userVec (got : List (Nat × LinearBuffer)) :
    (got.map fun x => some (userVec x)).mapM (fun entry => entry.bind Vec.toIovec) =
      some (got.map fun x => x.2.iovec) := by
  induction got with
  | nil => rfl
  | cons x got ih =>
    rw [List.map_cons, List.mapM_cons, ih]
    rfl

/-- The exports of a row are the user's buffers, in order. -/
theorem exports_eq_take {buffers : List LinearBuffer} {k n : Nat}
    {got : List (Nat × LinearBuffer)}
    (hgot : taken (fun i _ => ((buffers.map some)[i]?).join) k 0 n = some got) :
    got.map Prod.snd = buffers.take k := by
  apply List.ext_getElem?
  intro i
  rw [List.getElem?_map]
  by_cases hi : i < k
  · obtain ⟨b, hb, hget⟩ := taken_get hgot hi
    rw [hget, List.getElem?_take_of_lt hi]
    rw [Nat.zero_add, Option.join_eq_some_iff, List.getElem?_map] at hb
    obtain ⟨c, hc, hcb⟩ := Option.map_eq_some_iff.mp hb
    rw [hc, hcb]
    rfl
  · have hlen := taken_length hgot
    rw [List.getElem?_eq_none (by omega), List.getElem?_eq_none (by simp; omega)]
    rfl

/-- `serialize_vectored_buffers` wraps the buffers in order, as many of them as the length is as
    an `int`. -/
theorem serialized_iovecs {grants : Nat → Bool} {buffers : List LinearBuffer}
    {payload built : Payload} {s t : Store} {vec : VectoredBuffer}
    (hr : serializeVectoredBuffers grants (.ofList (buffers.map some)) payload s =
      .ok (.ok built, t)) (hvec : built.vectored = some vec) :
    vec.iovecs = (buffers.take (toInt buffers.length).toNat).map LinearBuffer.iovec ∧
      vec.iovecs.length ≤ vec.nrVecs := by
  obtain ⟨n, held, err⟩ := s
  obtain ⟨fast, got, hfast, hgot, rfl, -⟩ := serializeVectoredBuffers_returned hr
  obtain rfl : buffers.map some = fast := Option.some.inj hfast
  rw [List.length_map] at hgot
  have hvectored : vec = ⟨got.map fun x => x.2.iovec, toUnsigned (toInt buffers.length)⟩ := by
    unfold Payload.vectored Payload.withVector userVector at hvec
    simp only [Option.join_some, Option.bind_eq_bind, Option.bind_some, mapM_userVec,
      List.length_map] at hvec
    exact (Option.some.inj hvec).symm
  have hlen := taken_length hgot
  rw [hvectored]
  constructor
  · rw [← exports_eq_take hgot, List.map_map]
    rfl
  · show (got.map _).length ≤ toUnsigned (toInt buffers.length)
    rw [List.length_map, hlen]
    have hlt := toInt_lt buffers.length
    unfold toUnsigned
    omega

end Buffers

/-! ## The round trip -/

/-- The kernel has scattered `d` over the iovecs in order, and nobody else has written there
    since. -/
structure Scattered (before memory : Memory UInt8) (iovecs : List Iovec) (d : List UInt8) :
    Prop where
  fits : d.length ≤ (iovecs.map Iovec.iovLen).sum
  written : ∀ a, some a ∈ region iovecs →
    memory a = before.write (fun k => d.getD k 0) 0 ((region iovecs).take d.length) a

/-- The payload of the slot reads into the vector. -/
def SlotVector (l : Loop) (slot : RequestSlot) (vec : VectoredBuffer) : Prop :=
  ∃ p b, slot.bufferPayload = some p ∧ l.heap.payloads[p]? = some b ∧ b.vector = some vec ∧
    b.mode = .normalBuf ∧ b.payloadType = .payloadIovec

/-- READV, or RECVMSG of one message. -/
def RequestSlot.ReadsVector (slot : RequestSlot) : Prop :=
  slot.opcode = .readv ∨ slot.opcode = .recvmsg ∧ slot.streamStrategy ≠ .multishot

theorem gathered {buffers : List LinearBuffer} {before memory : Memory UInt8}
    {d : List UInt8} (hown : OwnMemory buffers)
    (hscat : Scattered before memory (buffers.map LinearBuffer.iovec) d) :
    memory.read ((region (buffers.map LinearBuffer.iovec)).take d.length) = d.map some := by
  obtain ⟨hnone, hdup⟩ := hown.region
  have hfits := hscat.fits
  rw [← length_region] at hfits
  have hread := Memory.read_write before (fun k => d.getD k 0) 0
    (fun h => hnone (List.mem_of_mem_take h)) (hdup.sublist (List.take_sublist d.length _))
  rw [Memory.read_congr fun a ha => hscat.written a (List.mem_of_mem_take ha), hread,
    List.length_take, Nat.min_eq_left hfits]
  refine List.ext_getElem (by simp) fun i _ hi => ?_
  rw [List.length_map] at hi
  rw [List.getElem_map, List.getElem_map, List.getElem_range, Nat.zero_add,
    List.getD_eq_getElem?_getD, List.getElem?_eq_getElem hi]
  rfl

theorem bytesOfVector_granted {env : ReadEnv} {b : BufferPayload} {vec : VectoredBuffer} {res : Int}
    (hbytes : env.result = true) (hvec : b.vector = some vec) :
    bytesOfVector env b res =
      .ok (some (.bytes (copyChunks (vec.iovecs.take vec.nrVecs) res.toNat))) := by
  unfold bytesOfVector vectorOf
  rw [if_pos hbytes, hvec]
  rfl

section Complete

variable {env : ReadEnv} {l : Loop} {index : Int} {slot : RequestSlot} {c : Cqe}
  {vec : VectoredBuffer}

/-- The bytes object that either branch builds. -/
theorem complete_vectored (hslot : SlotVector l slot vec) (hop : slot.ReadsVector)
    (hbytes : env.result = true) :
    ∃ l', complete env l index slot c =
      .ok (.value (some (.bytes (copyChunks (vec.iovecs.take vec.nrVecs) c.res.toNat))), l') := by
  obtain ⟨p, b, hp, hb, hvec, hmode, htype⟩ := hslot
  have hpayload : slotPayload l slot = .ok (p, b) := by
    unfold slotPayload payloadAt
    rw [hp]
    dsimp only
    rw [hb]
    rfl
  have hfixed : releaseFixed l p b = .ok l := by
    unfold releaseFixed
    rw [if_neg (by simp [hmode])]
  unfold complete
  rcases hop with hop | ⟨hop, hstream⟩
  · rw [hop]
    dsimp only
    exact ⟨_, (except_bind_of_ok hpayload).trans
      (except_bind_of_ok (bytesOfVector_granted hbytes hvec))⟩
  · rw [hop]
    refine ⟨l.releaseSlotPayload index slot false, ?_⟩
    refine (except_bind_of_ok hpayload).trans ((except_bind_of_ok hfixed).trans ?_)
    rw [if_neg hstream, if_neg (by simp [htype])]
    exact except_bind_of_ok (bytesOfVector_granted hbytes hvec)

end Complete

/-- A vectored read gives back what was read: the bytes object is `d`, the copy loop has read
    the first bytes of the concatenation and nothing else, and nothing remains. -/
theorem vectored_read_round_trip {grants : Nat → Bool} {buffers : List LinearBuffer}
    {payload built : Buffers.Payload} {s t : Buffers.Store} {vec : VectoredBuffer}
    {before memory : Memory UInt8} {d : List UInt8} {env : ReadEnv} {l : Loop} {index : Int}
    {slot : RequestSlot} {c : Cqe} (hown : OwnMemory buffers)
    (hr : Buffers.serializeVectoredBuffers grants (.ofList (buffers.map some)) payload s =
      .ok (.ok built, t))
    (hvec : built.vectored = some vec) (hslot : SlotVector l slot vec) (hop : slot.ReadsVector)
    (hscat : Scattered before memory vec.iovecs d) (hres : c.res = d.length)
    (hbytes : env.result = true) :
    ∃ chunks l', complete env l index slot c = .ok (.value (some (.bytes chunks)), l') ∧
      memory.read (region chunks) = d.map some ∧
      region chunks = (region vec.iovecs).take d.length ∧
      remainingAfter (vec.iovecs.take vec.nrVecs) d.length = 0 := by
  obtain ⟨hiovecs, hcount⟩ := Buffers.serialized_iovecs hr hvec
  obtain ⟨l', hcomplete⟩ := complete_vectored hslot hop hbytes
  have hall : vec.iovecs.take vec.nrVecs = vec.iovecs := List.take_of_length_le hcount
  have hnat : c.res.toNat = d.length := by
    rw [hres]
    exact Int.toNat_natCast _
  rw [hall, hnat] at hcomplete
  have hchunks := region_copyChunks vec.iovecs d.length
  refine ⟨_, l', hcomplete, ?_, hchunks, ?_⟩
  · rw [hchunks, hiovecs]
    exact gathered (hown.take _) (hiovecs ▸ hscat)
  · rw [hall]
    refine remainingAfter_eq_zero ?_
    rw [length_region]
    exact hscat.fits

/-- A loop whose only payload has the vector. -/
def vectorLoop (vec : VectoredBuffer) : Loop :=
  { uringioLoopInit 4 .failed 3 1 with
    heap := ⟨[⟨.payloadIovec, .payloadUser, .normalBuf, vec.nrVecs, none, some vec, none, 0, 0,
      0⟩], []⟩ }

/-- Five bytes over buffers of three, no and four bytes. -/
theorem five_bytes_round_trip :
    let vec : VectoredBuffer := ⟨[⟨.mem 4096, 3⟩, ⟨.null, 0⟩, ⟨.mem 512, 4⟩], 3⟩
    let d : List UInt8 := [1, 2, 3, 4, 5]
    let memory : Memory UInt8 :=
      Memory.write (fun _ => none) (fun k => d.getD k 0) 0 ((region vec.iovecs).take 5)
    ∃ chunks l',
      complete .ok (vectorLoop vec) 0
          { (default : RequestSlot) with opcode := .readv, bufferPayload := some 0 }
          ⟨0, 5, 0, 0⟩ = .ok (.value (some (.bytes chunks)), l') ∧
        memory.read (region chunks) = d.map some := by
  intro vec d memory
  have hrun : ∃ built t, Buffers.serializeVectoredBuffers (fun _ => true)
      (.ofList ([⟨.mem 4096, 3⟩, ⟨.null, 0⟩, ⟨.mem 512, 4⟩].map some)) (.zeroed 0)
      ⟨1, 0, false⟩ = .ok (.ok built, t) ∧ built.vectored = some vec := ⟨_, _, rfl, rfl⟩
  obtain ⟨built, t, hr, hvec⟩ := hrun
  have hown : OwnMemory [⟨.mem 4096, 3⟩, ⟨.null, 0⟩, ⟨.mem 512, 4⟩] := by
    constructor
    · simp
    · simp [LinearBuffer.Occupies]
      omega
  have hslot : SlotVector (vectorLoop vec)
      { (default : RequestSlot) with opcode := .readv, bufferPayload := some 0 } vec :=
    ⟨0, _, rfl, rfl, rfl, rfl, rfl⟩
  have hscat : Scattered (fun _ => none) memory vec.iovecs d := ⟨by decide, fun _ _ => rfl⟩
  have hres : (⟨0, 5, 0, 0⟩ : Cqe).res = d.length := rfl
  have hbytes : ReadEnv.ok.result = true := rfl
  obtain ⟨chunks, l', hcomplete, hread, -⟩ :=
    vectored_read_round_trip hown hr hvec hslot (.inl rfl) hscat hres hbytes
  exact ⟨chunks, l', hcomplete, hread⟩

end Uringio
