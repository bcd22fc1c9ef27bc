/-
  The submission and completion queues as the library uses them (`src/ring`, and the
  parts of liburing it calls).

  An SQE is kept as the last `io_uring_prep_*` call made on it together with the fields
  the library writes itself (`flags`, `ioprio`, `buf_index`/`buf_group`, `user_data`).
  `ioUringGetSqe` advances the tail and clears `flags`, `ioprio` and `buf_index`; the
  prepared operation and `user_data` stay as the previous use of the ring entry left
  them. `ioUringSubmit` sends every entry up to the tail, or none when it fails.

  The kernel side is the list of entries in flight and the completion queue. A CQE
  carries `seq`, the position of its SQE on the ring; only the properties read it, never
  the library.
-/
import Mathlib.Algebra.Group.Int.Defs
import Mathlib.Algebra.Group.Nat.Defs
import Mathlib.Algebra.GroupWithZero.Nat
import Mathlib.Data.List.Basic

namespace Uringio

/-! ## C integer conversions -/

/-- `(int)x` of an unsigned value. -/
def toInt (x : Nat) : Int :=
  if x % 2 ^ 32 < 2 ^ 31 then ((x % 2 ^ 32 : Nat) : Int) else ((x % 2 ^ 32 : Nat) : Int) - 2 ^ 32

/-- `(unsigned)x` of an int. -/
def toUnsigned (x : Int) : Nat := (x % 2 ^ 32).toNat

/-- `(uint64_t)x` of an int. -/
def toUint64 (x : Int) : Nat := (x % 2 ^ 64).toNat

/-- `(__u16)x` of an int. -/
def toUint16 (x : Int) : Nat := (x % 2 ^ 16).toNat

theorem toInt_of_lt {x : Nat} (h : x < 2 ^ 31) : toInt x = x := by
  unfold toInt
  rw [Nat.mod_eq_of_lt (by omega), if_pos h]

/-- An index survives the way through `user_data`. -/
theorem toInt_toUint64 {x : Int} (h0 : 0 ≤ x) (h : x < 2 ^ 31) : toInt (toUint64 x) = x := by
  unfold toUint64
  rw [toInt_of_lt (by omega)]
  omega

theorem toInt_lt (x : Nat) : toInt x < 2 ^ 31 := by
  unfold toInt
  split <;> omega

/-! ## Operations and queue entries -/

/-- The addresses the library hands to the kernel: the buffer of the wakeup read is a
    field of the loop object, every other one is a block of memory. -/
inductive Ptr where
  | null
  | wakeupBuf
  | mem (addr : Nat)
deriving DecidableEq, Repr, Inhabited

structure Iovec where
  iovBase : Ptr
  iovLen : Nat
deriving DecidableEq, Repr

/-- A serialised `struct sockaddr_in` or `sockaddr_in6`. -/
structure SockAddr where
  family : Int
  port : Nat
  addr : List Nat
deriving DecidableEq, Repr

/-- The fields of a `struct msghdr` that the library fills. -/
structure Msghdr where
  name : Option SockAddr
  namelen : Nat
  iov : List Iovec
  iovlen : Nat
deriving DecidableEq, Repr

structure OpenHow where
  flags : Nat
  mode : Nat
  resolve : Nat
deriving DecidableEq, Repr

/-- `struct __kernel_timespec`. -/
structure Timespec where
  tvSec : Int
  tvNsec : Int
deriving DecidableEq, Repr

/-- A call of an `io_uring_prep_*` helper with the arguments the library passes; `nop` is
    the content of an entry that was never prepared. -/
inductive PrepCall where
  | nop
  | openat2 (dfd : Int) (path : String) (how : OpenHow)
  | read (fd : Int) (buf : Ptr) (nbytes offset : Nat)
  | readv2 (fd : Int) (iovecs : List Iovec) (nrVecs offset : Nat) (flags : Int)
  | write (fd : Int) (buf : Ptr) (nbytes offset : Nat)
  | writev2 (fd : Int) (iovecs : List Iovec) (nrVecs offset : Nat) (flags : Int)
  | close (fd : Int)
  | fsync (fd : Int) (fsyncFlags : Nat)
  | splice (fdIn offIn fdOut offOut : Int) (nbytes spliceFlags : Nat)
  | readFixed (fd : Int) (buf : Ptr) (nbytes offset : Nat) (bufIndex : Int)
  | writeFixed (fd : Int) (buf : Ptr) (nbytes offset : Nat) (bufIndex : Int)
  | readMultishot (fd : Int) (nbytes offset : Nat) (bufGroup : Int)
  | socket (domain type protocol : Int) (flags : Nat)
  | bind (fd : Int) (addr : SockAddr) (addrlen : Nat)
  | connect (fd : Int) (addr : SockAddr) (addrlen : Nat)
  | listen (fd backlog : Int)
  | accept (fd : Int) (addr : Option Nat) (flags : Int)
  | multishotAccept (fd : Int) (addr : Option Nat) (flags : Int)
  | send (fd : Int) (buf : Ptr) (len : Nat) (flags : Int)
  | recv (fd : Int) (buf : Ptr) (len : Nat) (flags : Int)
  | sendto (fd : Int) (buf : Ptr) (len : Nat) (flags : Int) (addr : SockAddr) (addrlen : Nat)
  | sendmsg (fd : Int) (msg : Msghdr) (flags : Nat)
  | recvmsg (fd : Int) (msg : Msghdr) (flags : Nat)
  | recvMultishot (fd : Int) (buf : Ptr) (len : Nat) (flags : Int)
  | recvmsgMultishot (fd : Int) (msg : Option Nat) (flags : Nat)
  | sendZc (fd : Int) (buf : Ptr) (len : Nat) (flags : Int) (zcFlags : Nat)
  | sendZcFixed (fd : Int) (buf : Ptr) (len : Nat) (flags : Int) (zcFlags : Nat) (bufIndex : Int)
  | sendmsgZc (fd : Int) (msg : Msghdr) (flags : Nat)
  | timeout (ts : Timespec) (count flags : Nat)
  | linkTimeout (ts : Timespec) (flags : Nat)
  | pollAdd (fd : Int) (pollMask : Nat)
  | provideBuffers (addr : Ptr) (len nr bgid bid : Int)
  | removeBuffers (nr bgid : Int)
  | cancelAny
deriving DecidableEq, Repr, Inhabited

/-- A submission queue entry. `bufIndex` is the union of `buf_index` and `buf_group`. -/
structure Sqe where
  call : PrepCall
  flags : Nat
  ioprio : Nat
  bufIndex : Nat
  userData : Nat
deriving DecidableEq, Repr, Inhabited

/-- An entry the kernel has taken and not finished; `seq` is its position on the ring. -/
structure Flight where
  seq : Nat
  sqe : Sqe
deriving DecidableEq, Repr

structure Cqe where
  userData : Nat
  res : Int
  flags : Nat
  seq : Nat
deriving DecidableEq, Repr

def iosqeIoLink : Nat := 4
def iosqeBufferSelect : Nat := 32
def ioringRecvsendPollFirst : Nat := 1
def ioringRecvsendFixedBuf : Nat := 4
def ioringCqeFMore : Nat := 2
def ioringCqeFNotif : Nat := 8
def ioringCqeBufferShift : Nat := 16

/-- `UINT64_MAX`. -/
def wakeupFdTag : Nat := 2 ^ 64 - 1

theorem toInt_wakeupFdTag : toInt wakeupFdTag = -1 := by decide

/-- The kernel announces further CQEs of the same SQE. -/
def Cqe.hasMore (c : Cqe) : Bool := (c.flags &&& ioringCqeFMore) != 0

/-! ## The ring -/

/-- `entries` is the SQ array, with whatever earlier uses left in it; entry `p` of the
    stream of SQEs lies at `p % entries.length`. The `count` entries from `head` on are
    queued and not yet submitted. -/
structure Ring where
  entries : List Sqe
  head : Nat
  count : Nat
  inflight : List Flight
  cq : List Cqe
deriving DecidableEq, Repr

namespace Ring

/-- The position of the next SQE. -/
def tail (r : Ring) : Nat := r.head + r.count

def sqEntry (r : Ring) (p : Nat) : Sqe := r.entries.getD (p % r.entries.length) default

/-- Writes through the SQE pointer `p`. -/
def modify (r : Ring) (p : Nat) (f : Sqe → Sqe) : Ring :=
  { r with entries := r.entries.modify (p % r.entries.length) f }

/-- The number of free SQ entries. -/
def space (r : Ring) : Nat := r.entries.length - r.count

/-- The queued SQEs that have not been submitted, in order. -/
def queued (r : Ring) : List Flight :=
  (List.range' r.head r.count).map fun p => ⟨p, r.sqEntry p⟩

/-- The SQEs whose last CQE is still to come: in flight, or queued and not yet submitted. -/
def pending (r : Ring) : List Flight := r.inflight ++ r.queued

end Ring

/-- What `io_uring_get_sqe` resets. -/
def Sqe.clear (e : Sqe) : Sqe := { e with flags := 0, ioprio := 0, bufIndex := 0 }

/-- The position of a fresh SQE, or `none` when the SQ is full. -/
def ioUringGetSqe (r : Ring) : Option Nat × Ring :=
  if r.space = 0 then (none, r)
  else
    (some r.tail,
      { r.modify r.tail Sqe.clear with count := r.count + 1 })

/-- `io_uring_submit` with the value it returns: on success every queued SQE goes to the
    kernel, on an error none does. -/
def ioUringSubmit (r : Ring) (result : Int) : Int × Ring :=
  if result < 0 then (result, r)
  else (result, { r with head := r.tail, count := 0, inflight := r.inflight ++ r.queued })

/-- An `io_uring_prep_*` helper: it fills the entry and leaves `flags` and `user_data`. -/
def ioUringPrep (call : PrepCall) (e : Sqe) : Sqe := { e with call := call }

/-- `io_uring_sqe_set_data(sqe, (void *)(uintptr_t)request_idx)`. -/
def ioUringSqeSetData (requestIdx : Int) (e : Sqe) : Sqe :=
  { e with userData := toUint64 requestIdx }

/-- `io_uring_sqe_set_data64`. -/
def ioUringSqeSetData64 (data : Nat) (e : Sqe) : Sqe := { e with userData := data }

/-- `create_sqe`. -/
def createSqe (r : Ring) : Option Nat × Ring := ioUringGetSqe r

/-- `io_uring_cqe_seen` of the CQE that `io_uring_peek_cqe` returned. -/
def ioUringCqeSeen (r : Ring) : Ring := { r with cq := r.cq.tail }

/-- The kernel posts a CQE of an SQE in flight. Without `IORING_CQE_F_MORE` it is the last
    one. -/
def Ring.post (r : Ring) (seq : Nat) (res : Int) (flags : Nat) : Option Ring :=
  match r.inflight.find? (fun f => f.seq == seq) with
  | none => none
  | some f =>
    let c : Cqe := ⟨f.sqe.userData, res, flags, seq⟩
    some
      { r with
        cq := r.cq ++ [c]
        inflight :=
          if c.hasMore then r.inflight else r.inflight.filter fun g => g.seq != seq }

/-- `ring_init`: an empty ring of 256 zeroed entries. -/
def ringInit : Ring :=
  { entries := List.replicate 256 default, head := 0, count := 0, inflight := [], cq := [] }

/-- `ring_prep_wakeup_read`. Its result is -1 when no SQE is free; the result of the
    submission is ignored. -/
def ringPrepWakeupRead (r : Ring) (wakeupFd : Int) (submit : Int) : Int × Ring :=
  match ioUringGetSqe r with
  | (none, r) => (-1, r)
  | (some p, r) =>
    let r := r.modify p (ioUringPrep (.read wakeupFd .wakeupBuf 8 0))
    let r := r.modify p (ioUringSqeSetData64 wakeupFdTag)
    (0, (ioUringSubmit r submit).2)

/-- `ring_destroy` up to `io_uring_queue_exit`: the SQE of the cancel request gets no
    `user_data`. -/
def ringDestroy (r : Ring) (submit : Int) : Ring :=
  match ioUringGetSqe r with
  | (none, r) => r
  | (some p, r) => (ioUringSubmit (r.modify p (ioUringPrep .cancelAny)) submit).2

/-! ## Lemmas -/

namespace Ring

variable {r r' : Ring} {p q : Nat} {f : Sqe → Sqe}

@[simp] theorem modify_head : (r.modify p f).head = r.head := rfl
@[simp] theorem modify_count : (r.modify p f).count = r.count := rfl
@[simp] theorem modify_tail : (r.modify p f).tail = r.tail := rfl
@[simp] theorem modify_inflight : (r.modify p f).inflight = r.inflight := rfl
@[simp] theorem modify_cq : (r.modify p f).cq = r.cq := rfl
@[simp] theorem length_modify : (r.modify p f).entries.length = r.entries.length := by
  simp [modify]

@[simp] theorem space_modify : (r.modify p f).space = r.space := by simp [space]

theorem sqEntry_modify_self (h : 0 < r.entries.length) :
    (r.modify p f).sqEntry p = f (r.sqEntry p) := by
  have hlt : p % r.entries.length < r.entries.length := Nat.mod_lt _ h
  simp only [sqEntry, modify, List.length_modify, List.getD_eq_getElem?_getD,
    List.getElem?_modify, List.getElem?_eq_getElem hlt]
  simp

theorem sqEntry_modify_of_ne (h : p % r.entries.length ≠ q % r.entries.length) :
    (r.modify p f).sqEntry q = r.sqEntry q := by
  simp only [sqEntry, modify, List.length_modify, List.getD_eq_getElem?_getD,
    List.getElem?_modify]
  simp [h]

/-- Entries that are queued at the same time lie at different places of the array. -/
theorem mod_ne_of_near {n : Nat} (hp : p < q) (hq : q < p + n) : p % n ≠ q % n := by
  intro h
  have := Nat.sub_mod_eq_zero_of_mod_eq h.symm
  have hd : n ∣ q - p := Nat.dvd_of_mod_eq_zero this
  have := Nat.le_of_dvd (by omega) hd
  omega

end Ring

/-! ## The queue -/

namespace Ring

variable {r : Ring} {p : Nat} {f : Sqe → Sqe} {x : Flight}

@[simp] theorem length_queued : r.queued.length = r.count := by
  simp [queued]

theorem seq_of_mem_queued (h : x ∈ r.queued) : r.head ≤ x.seq ∧ x.seq < r.tail := by
  simp only [queued, List.mem_map, List.mem_range'_1] at h
  obtain ⟨q, hq, rfl⟩ := h
  exact hq

theorem queued_of_count (h : r.count = 0) : r.queued = [] := by
  rw [queued, h]
  rfl

/-- Writing through the pointer of a queued SQE changes that SQE only. -/
theorem queued_modify (hc : r.count ≤ r.entries.length) (hp : r.head ≤ p ∧ p < r.tail) :
    (r.modify p f).queued =
      r.queued.map fun x => if x.seq = p then { x with sqe := f x.sqe } else x := by
  simp only [queued, List.map_map, modify_head, modify_count]
  apply List.map_congr_left
  intro q hq
  rw [List.mem_range'_1] at hq
  unfold tail at hp
  simp only [Function.comp]
  by_cases h : q = p
  · rw [if_pos h, h, sqEntry_modify_self (by omega)]
  · have hne : p % r.entries.length ≠ q % r.entries.length := by
      rcases Nat.lt_or_gt_of_ne h with hlt | hgt
      · exact fun e => mod_ne_of_near (n := r.entries.length) hlt (by omega) e.symm
      · exact mod_ne_of_near (by omega) (by omega)
    rw [if_neg h, sqEntry_modify_of_ne hne]

/-- Writing to the entry after the queued ones leaves them as they are. -/
theorem queued_modify_tail (hc : r.count < r.entries.length) :
    (r.modify r.tail f).queued = r.queued := by
  simp only [queued, modify_head, modify_count]
  apply List.map_congr_left
  intro q hq
  rw [List.mem_range'_1] at hq
  have hne : r.tail % r.entries.length ≠ q % r.entries.length := fun e =>
    mod_ne_of_near (n := r.entries.length) (p := q) (q := r.tail)
      (by unfold tail; omega) (by unfold tail; omega) e.symm
  rw [sqEntry_modify_of_ne hne]

end Ring

/-- The ring after an SQE was taken. -/
def Ring.grow (r : Ring) : Ring := { r.modify r.tail Sqe.clear with count := r.count + 1 }

theorem ioUringGetSqe_of_full {r : Ring} (h : r.space = 0) : ioUringGetSqe r = (none, r) := by
  unfold ioUringGetSqe
  rw [if_pos h]

theorem ioUringGetSqe_of_space {r : Ring} (h : r.space ≠ 0) :
    ioUringGetSqe r = (some r.tail, r.grow) := by
  unfold ioUringGetSqe
  rw [if_neg h]
  rfl

namespace Ring

variable {r : Ring} {p : Nat} {f : Sqe → Sqe}

@[simp] theorem grow_head : r.grow.head = r.head := rfl
@[simp] theorem grow_count : r.grow.count = r.count + 1 := rfl
@[simp] theorem grow_tail : r.grow.tail = r.tail + 1 := rfl
@[simp] theorem grow_inflight : r.grow.inflight = r.inflight := rfl
@[simp] theorem grow_cq : r.grow.cq = r.cq := rfl
@[simp] theorem length_grow : r.grow.entries.length = r.entries.length :=
  length_modify

theorem sqEntry_grow : r.grow.sqEntry p = (r.modify r.tail Sqe.clear).sqEntry p := rfl

theorem space_grow : r.grow.space = r.space - 1 := by
  simp only [space, length_grow, grow_count]
  omega

/-- The taken SQE is the last queued one. -/
theorem queued_grow (h : r.space ≠ 0) :
    r.grow.queued = r.queued ++ [⟨r.tail, (r.sqEntry r.tail).clear⟩] := by
  have hc : r.count < r.entries.length := by
    unfold space at h
    omega
  have hq := queued_modify_tail (f := Sqe.clear) hc
  have he : r.grow.sqEntry r.tail = (r.sqEntry r.tail).clear :=
    sqEntry_modify_self (by omega)
  unfold queued at hq ⊢
  rw [grow_count, List.range'_concat, List.map_append, grow_head, Nat.one_mul]
  congr 1
  rw [List.map_singleton, show r.head + r.count = r.tail from rfl, he]

/-- Writing through the pointer of one queued SQE, the others before and after it. -/
theorem queued_modify_mid (before after : List Flight) {e : Sqe}
    (hc : r.count ≤ r.entries.length) (hq : r.queued = before ++ ⟨p, e⟩ :: after)
    (hb : ∀ x ∈ before, x.seq ≠ p) (ha : ∀ x ∈ after, x.seq ≠ p) :
    (r.modify p f).queued = before ++ ⟨p, f e⟩ :: after := by
  have hp : r.head ≤ p ∧ p < r.tail := seq_of_mem_queued (x := ⟨p, e⟩) (by simp [hq])
  have hid : ∀ xs : List Flight, (∀ x ∈ xs, x.seq ≠ p) →
      (xs.map fun x => if x.seq = p then { x with sqe := f x.sqe } else x) = xs := by
    intro xs hxs
    refine (List.map_congr_left fun x hx => ?_).trans (List.map_id xs)
    rw [if_neg (hxs x hx)]
    rfl
  rw [queued_modify hc hp, hq, List.map_append, List.map_cons, hid before hb, hid after ha,
    if_pos rfl]

end Ring

theorem ioUringSubmit_of_neg {r : Ring} {result : Int} (h : result < 0) :
    ioUringSubmit r result = (result, r) := by
  unfold ioUringSubmit
  rw [if_pos h]

theorem ioUringSubmit_of_nonneg {r : Ring} {result : Int} (h : ¬ result < 0) :
    ioUringSubmit r result =
      (result, { r with head := r.tail, count := 0, inflight := r.inflight ++ r.queued }) := by
  unfold ioUringSubmit
  rw [if_neg h]

/-- Submitting moves SQEs to the kernel and loses none. -/
theorem pending_ioUringSubmit (r : Ring) (result : Int) :
    (ioUringSubmit r result).2.pending = r.pending := by
  by_cases h : result < 0
  · rw [ioUringSubmit_of_neg h]
  · rw [ioUringSubmit_of_nonneg h]
    have hq : Ring.queued { r with
        head := r.tail, count := 0, inflight := r.inflight ++ r.queued } = [] :=
      Ring.queued_of_count rfl
    simp only [Ring.pending]
    rw [hq, List.append_nil]

/-! ## Positions -/

/-- SQEs in flight lie at different positions, before the queued ones. -/
structure Ring.Ordered (r : Ring) : Prop where
  before : ∀ x ∈ r.inflight, x.seq < r.head
  nodup : (r.inflight.map Flight.seq).Nodup

/-- The library has added SQEs to the ring and left the others. -/
structure Ring.Added (r r' : Ring) (new : List Flight) : Prop where
  pending : r'.pending = r.pending ++ new
  cq : r'.cq = r.cq
  tail : r.tail ≤ r'.tail
  seqs : ∀ x ∈ new, r.tail ≤ x.seq ∧ x.seq < r'.tail
  ordered : r.Ordered → r'.Ordered

namespace Ring

variable {r r' : Ring} {x : Flight} {new : List Flight}

theorem queued_seqs : r.queued.map Flight.seq = List.range' r.head r.count := by
  simp [queued, Function.comp_def]

theorem Ordered.lt_tail (h : r.Ordered) (hx : x ∈ r.pending) : x.seq < r.tail := by
  rcases List.mem_append.mp hx with hx | hx
  · exact Nat.lt_of_lt_of_le (h.before x hx) (Nat.le_add_right r.head r.count)
  · exact (seq_of_mem_queued hx).2

theorem Ordered.pending_nodup (h : r.Ordered) : (r.pending.map Flight.seq).Nodup := by
  unfold pending
  rw [List.map_append, List.nodup_append]
  refine ⟨h.nodup, ?_, ?_⟩
  · rw [queued_seqs]
    exact List.nodup_range'
  · intro a ha b hb hab
    obtain ⟨x, hx, rfl⟩ := List.mem_map.mp ha
    obtain ⟨y, hy, rfl⟩ := List.mem_map.mp hb
    have := h.before x hx
    have := (seq_of_mem_queued hy).1
    omega

theorem Added.refl (r : Ring) : r.Added r [] :=
  ⟨by simp, rfl, Nat.le_refl _, by simp, id⟩

/-- SQEs were queued and not submitted. -/
theorem added_of_queued (hi : r'.inflight = r.inflight) (hcq : r'.cq = r.cq)
    (hh : r'.head = r.head) (hq : r'.queued = r.queued ++ new) : r.Added r' new := by
  have hcount : r'.count = r.count + new.length := by
    have := congrArg List.length hq
    simpa using this
  have hseq : List.range' r.head r'.count = List.range' r.head r.count ++ new.map Flight.seq := by
    have := congrArg (List.map Flight.seq) hq
    rwa [List.map_append, queued_seqs, queued_seqs, hh] at this
  refine ⟨?_, hcq, ?_, fun x hx => ?_, fun h => ⟨?_, ?_⟩⟩
  · unfold pending
    rw [hi, hq, List.append_assoc]
  · unfold tail
    omega
  · have hmem : x ∈ r'.queued := by
      rw [hq]
      exact List.mem_append_right _ hx
    refine ⟨?_, (seq_of_mem_queued hmem).2⟩
    have hsplit : List.range' r.head r'.count =
        List.range' r.head r.count ++ List.range' (r.head + r.count) new.length := by
      rw [hcount]
      simp
    have hnew : new.map Flight.seq = List.range' (r.head + r.count) new.length :=
      List.append_cancel_left (hseq.symm.trans hsplit)
    have := List.mem_map_of_mem (f := Flight.seq) hx
    rw [hnew, List.mem_range'_1] at this
    exact this.1
  · rw [hi, hh]
    exact h.before
  · rw [hi]
    exact h.nodup

/-- Everything that was queued was submitted, followed by new SQEs. -/
theorem added_of_submitted (hc : r'.count = 0) (hcq : r'.cq = r.cq)
    (hi : r'.inflight = r.pending ++ new) (ht : r'.tail = r.tail + new.length)
    (hs : new.map Flight.seq = List.range' r.tail new.length) : r.Added r' new := by
  have hseq : ∀ x ∈ new, r.tail ≤ x.seq ∧ x.seq < r'.tail := by
    intro x hx
    have := List.mem_map_of_mem (f := Flight.seq) hx
    rw [hs, List.mem_range'_1] at this
    omega
  have hhead : r'.head = r'.tail := by
    unfold tail
    rw [hc]
    rfl
  refine ⟨?_, hcq, by omega, hseq, fun h => ⟨fun x hx => ?_, ?_⟩⟩
  · rw [pending, queued_of_count hc, List.append_nil, hi]
  · rw [hi] at hx
    rw [hhead]
    rcases List.mem_append.mp hx with hx | hx
    · have := h.lt_tail hx
      omega
    · exact (hseq x hx).2
  · rw [hi, List.map_append, List.nodup_append]
    refine ⟨h.pending_nodup, ?_, ?_⟩
    · rw [hs]
      exact List.nodup_range'
    · intro a ha b hb hab
      obtain ⟨x, hx, rfl⟩ := List.mem_map.mp ha
      obtain ⟨y, hy, rfl⟩ := List.mem_map.mp hb
      have := h.lt_tail hx
      have := (hseq y hy).1
      omega

theorem added_ioUringSubmit (result : Int) : r.Added (ioUringSubmit r result).2 [] := by
  by_cases h : result < 0
  · rw [ioUringSubmit_of_neg h]
    exact .refl r
  · rw [ioUringSubmit_of_nonneg h]
    exact added_of_submitted rfl rfl (List.append_nil _).symm rfl rfl

theorem Added.trans {r'' : Ring} {new' : List Flight} (h : r.Added r' new)
    (h' : r'.Added r'' new') : r.Added r'' (new ++ new') := by
  refine ⟨by rw [h'.pending, h.pending, List.append_assoc], h'.cq.trans h.cq,
    Nat.le_trans h.tail h'.tail, fun x hx => ?_, fun ho => h'.ordered (h.ordered ho)⟩
  rcases List.mem_append.mp hx with hx | hx
  · exact ⟨(h.seqs x hx).1, Nat.lt_of_lt_of_le (h.seqs x hx).2 h'.tail⟩
  · exact ⟨Nat.le_trans h.tail (h'.seqs x hx).1, (h'.seqs x hx).2⟩

/-- An SQE was taken and filled. -/
theorem added_prepared (hs : r.space ≠ 0) (f : Sqe → Sqe) :
    r.Added (r.grow.modify r.tail f) [⟨r.tail, f (r.sqEntry r.tail).clear⟩] := by
  have hfit : r.grow.count ≤ r.grow.entries.length := by
    unfold space at hs
    simp only [length_grow, grow_count]
    omega
  exact added_of_queued rfl rfl rfl (queued_modify_mid r.queued [] hfit (queued_grow hs)
    (fun x hx => Nat.ne_of_lt (seq_of_mem_queued hx).2) (by simp))

end Ring

end Uringio
