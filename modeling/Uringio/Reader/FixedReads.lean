/-
  Reads in a FIXED context, several of them in flight.

  `read_dispatcher` draws the index of a registered buffer from the pool and the address from
  the head of the linear buffers, whatever the index; the reader copies from that head too.
  The index is right where the pool hands out one that is registered for the same memory.
-/
import Uringio.Lib.Machine
import Uringio.Loop.Context
import Uringio.Loop.Init
import Uringio.Reader.OnReady

namespace Uringio

open Lib

/-! ## Ranges -/

namespace Iovec

/-- The range lies within the other one. -/
def inside (v w : Iovec) : Bool :=
  match v.iovBase, w.iovBase with
  | .mem a, .mem b => b ≤ a && a + v.iovLen ≤ b + w.iovLen
  | _, _ => false

/-- The ranges share no byte. -/
def apart (v w : Iovec) : Bool :=
  match v.iovBase, w.iovBase with
  | .mem a, .mem b =>
    v.iovLen == 0 || w.iovLen == 0 || a + v.iovLen ≤ b || b + w.iovLen ≤ a
  | _, _ => true

end Iovec

/-! ## The reads of a context -/

/-- What becomes of an SQE: none is free, the submission fails and leaves it in the ring, or it
    is submitted. -/
inductive Sent where
  | noSqe
  | left
  | submitted
deriving DecidableEq, Repr

/-- An SQE of READ_FIXED that the kernel may have; `live` says whether its request is still
    registered. -/
structure FixedRead where
  request : Int
  index : Int
  target : Iovec
  live : Bool
deriving DecidableEq, Repr

/-- A loop in a FIXED context, the buffers that are registered for it, the reads in flight, and
    where from the results of the others were copied. -/
structure FixedReads where
  loop : Loop
  payload : PayloadId
  registered : List Iovec
  inFlight : List FixedRead
  copied : List (Int × Iovec)

/-- A read with the payload of the context, or the CQE of a read in flight. -/
inductive FixedAct where
  | read (request size offset : Int) (sent : Sent)
  | complete (k : Nat) (res : Int)
deriving DecidableEq, Repr

namespace FixedReads

/-- `BufferModeCtx_enter` with a payload of these buffers. -/
def enter (l : Loop) (buffersObj : Bool) (buffers : List LinearBuffer) (unassigned : Int)
    (context : ExecutionContext) : Except Stop FixedReads :=
  match createBufferPayload l.heap .fixed buffersObj (some buffers) 0 unassigned with
  | (none, _) => .error .segv
  | (some p, heap) => do
    let l ← openBuffers { l with heap := heap } context p true 1
    return ⟨l, p, buffers.map LinearBuffer.iovec, [], []⟩

/-- The dispatcher of a read, and the SQE that it prepares. -/
def read (s : FixedReads) (request size offset : Int) (sent : Sent) : Except Stop FixedReads := do
  let (op, heap) ← readDispatcher 0 s.payload .oneshot size offset s.loop.heap
  let s := { s with loop := { s.loop with heap := heap } }
  match op, sent with
  | .readFixed _ _ _ _ _, .noSqe => return s
  | .readFixed _ buf size _ index, sent =>
    return { s with
      inFlight := s.inFlight ++ [⟨request, index, ⟨buf, size⟩, sent = .submitted⟩] }
  | _, _ => .error .segv

/-- What the reader does with the CQE of a read; one that is not registered any more is
    dropped, and an error releases nothing. -/
def complete (s : FixedReads) (k : Nat) (res : Int) : Except Stop FixedReads :=
  match s.inFlight[k]? with
  | none => .ok s
  | some r =>
    let s := { s with inFlight := s.inFlight.eraseIdx k }
    if ¬ r.live ∨ res < 0 then .ok s
    else if r.target.iovLen < res then .ok s
    else
      let slot : RequestSlot :=
        { (default : RequestSlot) with opcode := .read, bufferPayload := some s.payload }
      match completeRead .ok s.loop r.request slot ⟨r.request.toNat, res, 0, 0⟩ with
      | .ok (.value (some (.bytes chunks)), l) =>
        .ok { s with loop := l, copied := s.copied ++ chunks.map fun v => (r.index, v) }
      | .ok (_, l) => .ok { s with loop := l }
      | .error e => .error e

def step (s : FixedReads) : FixedAct → Except Stop FixedReads
  | .read request size offset sent => s.read request size offset sent
  | .complete k res => s.complete k res

/-- The range lies within the buffer that is registered under the index. -/
def names (s : FixedReads) (index : Int) (v : Iovec) : Bool :=
  0 ≤ index && (s.registered[index.toNat]?).any v.inside

/-- The reads in flight name the memory that is registered under their index, and share none;
    and so do the copies of the results. -/
structure Matching (s : FixedReads) : Prop where
  named : ∀ r ∈ s.inFlight, s.names r.index r.target = true
  apart : s.inFlight.Pairwise fun r q => r.target.apart q.target = true
  copied : ∀ x ∈ s.copied, s.names x.1 x.2 = true

instance (s : FixedReads) : Decidable s.Matching :=
  decidable_of_iff ((∀ r ∈ s.inFlight, s.names r.index r.target = true) ∧
    (s.inFlight.Pairwise fun r q => r.target.apart q.target = true) ∧
    ∀ x ∈ s.copied, s.names x.1 x.2 = true)
    ⟨fun h => ⟨h.1, h.2.1, h.2.2⟩, fun h => ⟨h.named, h.apart, h.copied⟩⟩

/-- The index that the pool gives next. -/
def drawn (s : FixedReads) : Int :=
  match (s.loop.heap.payloads[s.payload]?).bind BufferPayload.idxRegistry with
  | some reg => (getBufferIdx reg).1
  | none => -1

/-- The start of the first buffer. -/
def head (s : FixedReads) : Ptr :=
  match (s.loop.heap.payloads[s.payload]?).bind BufferPayload.linear with
  | some linear => linear.buffer
  | none => .null

/-- The read of `size` bytes fits: the buffer that is registered under the next index of the
    pool holds so many bytes from the head on, and no read with bytes is in flight if it has
    any. Nothing is asked of a read that gets no SQE. -/
def Fits (s : FixedReads) : FixedAct → Prop
  | .read _ _ _ .noSqe => True
  | .read _ size _ _ => s.names s.drawn ⟨s.head, toUnsigned size⟩ = true ∧
      (toUnsigned size = 0 ∨ ∀ r ∈ s.inFlight, r.target.iovLen = 0)
  | .complete _ _ => True

instance (s : FixedReads) (a : FixedAct) : Decidable (s.Fits a) :=
  match a with
  | .read _ _ _ .noSqe => inferInstanceAs (Decidable True)
  | .read _ _ _ .left | .read _ _ _ .submitted => inferInstanceAs (Decidable (_ ∧ _))
  | .complete _ _ => inferInstanceAs (Decidable True)

/-! ## One act -/

theorem put_payloads {heap : Heap} {p : PayloadId} {b b' : BufferPayload}
    (hb : heap.payloads[p]? = some b) : (heap.put p b').payloads[p]? = some b' :=
  List.getElem?_set_self (List.getElem?_eq_some_iff.mp hb).1

/-- The payload is one of a FIXED context, and every read in flight starts at its head. -/
structure Shape (s : FixedReads) : Prop where
  payload : ∃ b first reg, s.loop.heap.payloads[s.payload]? = some b ∧ b.mode = .fixed ∧
    b.linear = some first ∧ b.idxRegistry = some reg
  bases : ∀ r ∈ s.inFlight, r.target.iovBase = s.head

section Act

variable {s t : FixedReads} {request size offset res : Int} {sent : Sent} {k : Nat}

theorem head_eq {b : BufferPayload} {first : LinearBuffer}
    (hb : s.loop.heap.payloads[s.payload]? = some b) (hlinear : b.linear = some first) :
    s.head = first.buffer := by
  unfold head
  rw [hb, Option.bind_some, hlinear]

theorem drawn_eq {b : BufferPayload} {reg : FixedBufferIdxRegistry}
    (hb : s.loop.heap.payloads[s.payload]? = some b) (hreg : b.idxRegistry = some reg) :
    s.drawn = (getBufferIdx reg).1 := by
  unfold drawn
  rw [hb, Option.bind_some, hreg]

theorem readDispatcher_fixed {heap : Heap} {p : PayloadId} {b : BufferPayload}
    {first : LinearBuffer} {reg : FixedBufferIdxRegistry} (hb : heap.payloads[p]? = some b)
    (hmode : b.mode = .fixed) (hlinear : b.linear = some first)
    (hreg : b.idxRegistry = some reg) :
    readDispatcher 0 p .oneshot size offset heap =
      .ok (.readFixed 0 first.buffer (toUnsigned size) offset (getBufferIdx reg).1,
        heap.put p { b with
          idxRegistry := some (getBufferIdx reg).2, bufIdx := (getBufferIdx reg).1 }) := by
  obtain ⟨_, _, mode, _, linear, _, idxRegistry, _, _, _⟩ := b
  obtain rfl : mode = .fixed := hmode
  obtain rfl : linear = some first := hlinear
  obtain rfl : idxRegistry = some reg := hreg
  unfold readDispatcher payloadAt
  rw [hb]
  rfl

/-- What was put under the pointer of the payload keeps the shape, if it is one of the kind. -/
theorem shape_put {b b' : BufferPayload} {first : LinearBuffer} {reg : FixedBufferIdxRegistry}
    (hb : s.loop.heap.payloads[s.payload]? = some b) (hlinear : b.linear = some first)
    (hput : t.loop.heap.payloads = s.loop.heap.payloads.set s.payload b')
    (hpayload : t.payload = s.payload) (hmode : b'.mode = .fixed)
    (hlinear' : b'.linear = some first) (hreg : b'.idxRegistry = some reg)
    (hbases : ∀ r ∈ t.inFlight, r.target.iovBase = s.head) : t.Shape := by
  have hlt := (List.getElem?_eq_some_iff.mp hb).1
  have hget : t.loop.heap.payloads[t.payload]? = some b' := by
    rw [hput, hpayload, List.getElem?_set_self hlt]
  refine ⟨⟨b', first, reg, hget, hmode, hlinear', hreg⟩, fun r hr => ?_⟩
  rw [hbases r hr, head_eq hb hlinear, head_eq hget hlinear']

/-- A read that gets an SQE takes the next index and the head. -/
theorem read_spec (hs : s.Shape) :
    ∃ t, s.read request size offset sent = .ok t ∧ t.registered = s.registered ∧
      t.copied = s.copied ∧ t.Shape ∧
      t.inFlight = if sent = .noSqe then s.inFlight
        else s.inFlight ++
          [⟨request, s.drawn, ⟨s.head, toUnsigned size⟩, decide (sent = .submitted)⟩] := by
  obtain ⟨⟨b, first, reg, hb, hmode, hlinear, hreg⟩, hbases⟩ := hs
  have hhead := head_eq hb hlinear
  have hdrawn := drawn_eq hb hreg
  have hgrown : ∀ live, ∀ r ∈ s.inFlight ++
      [⟨request, s.drawn, ⟨s.head, toUnsigned size⟩, live⟩], r.target.iovBase = s.head := by
    intro live r hr
    rcases List.mem_append.mp hr with hold | hnew
    · exact hbases r hold
    · rw [List.mem_singleton.mp hnew]
  unfold read
  rw [readDispatcher_fixed hb hmode hlinear hreg, ← hhead, ← hdrawn]
  cases sent with
  | noSqe =>
    exact ⟨_, rfl, rfl, rfl, shape_put hb hlinear rfl rfl hmode hlinear rfl hbases, rfl⟩
  | left =>
    exact ⟨_, rfl, rfl, rfl, shape_put hb hlinear rfl rfl hmode hlinear rfl (hgrown false), rfl⟩
  | submitted =>
    exact ⟨_, rfl, rfl, rfl, shape_put hb hlinear rfl rfl hmode hlinear rfl (hgrown true), rfl⟩

/-- The payload after its index was given back to the pool. -/
def givenBack (b : BufferPayload) (reg : FixedBufferIdxRegistry) : BufferPayload :=
  { b with idxRegistry := some (releaseBufferIdx reg b.bufIdx).2 }

/-- The reader copies from the head, and gives back the index that lies in the payload. -/
theorem completeRead_fixed {l : Loop} {index : Int} {slot : RequestSlot} {c : Cqe}
    {p : PayloadId} {b : BufferPayload} {first : LinearBuffer} {reg : FixedBufferIdxRegistry}
    (hslot : slot.bufferPayload = some p) (hb : l.heap.payloads[p]? = some b)
    (hmode : b.mode = .fixed) (hlinear : b.linear = some first)
    (hreg : b.idxRegistry = some reg) :
    ∃ l', completeRead .ok l index slot c =
        .ok (.value (if first.buffer = .null then none
          else some (.bytes [⟨first.buffer, c.res.toNat⟩])), l') ∧
      l'.heap.payloads = l.heap.payloads.set p (givenBack b reg) := by
  have hlt := (List.getElem?_eq_some_iff.mp hb).1
  have hpayload : slotPayload l slot = .ok (p, b) := by
    unfold slotPayload payloadAt
    rw [hslot]
    dsimp only
    rw [hb]
    rfl
  have hfirst : linearOf b = .ok first := by
    unfold linearOf
    rw [hlinear]
  have hfixed : releaseFixed l p b = .ok { l with heap := l.heap.put p (givenBack b reg) } := by
    unfold releaseFixed
    rw [if_pos hmode, hreg]
    rfl
  refine ⟨_, (except_bind_of_ok hpayload).trans ((except_bind_of_ok hfirst).trans
    ((except_bind_of_ok hfixed).trans rfl)), ?_⟩
  show (freeBufferPayload _ slot.bufferPayload false).payloads = _
  rw [hslot]
  refine modify_eq_self fun x hx => ?_
  have hget : givenBack b reg = x := by
    rw [← Option.some.injEq, ← hx]
    exact (List.getElem?_set_self hlt).symm
  rw [← hget]
  exact BufferPayload.release_of_context (by simp [givenBack, hmode])

/-- What a CQE leaves: the read is gone, and its result may have been copied from the head. -/
theorem complete_spec (hs : s.Shape) :
    ∃ t, s.complete k res = .ok t ∧ t.registered = s.registered ∧ t.Shape ∧
      ((t.inFlight = s.inFlight ∧ t.copied = s.copied) ∨
        ∃ r, s.inFlight[k]? = some r ∧ t.inFlight = s.inFlight.eraseIdx k ∧
          (t.copied = s.copied ∨ res.toNat ≤ r.target.iovLen ∧
            t.copied = s.copied ++ [(r.index, ⟨s.head, res.toNat⟩)])) := by
  obtain ⟨⟨b, first, reg, hb, hmode, hlinear, hreg⟩, hbases⟩ := hs
  have hhead := head_eq hb hlinear
  have hrest : ∀ r ∈ s.inFlight.eraseIdx k, r.target.iovBase = s.head :=
    fun r hr => hbases r (List.mem_of_mem_eraseIdx hr)
  unfold complete
  cases hk : s.inFlight[k]? with
  | none => exact ⟨s, rfl, rfl, ⟨⟨b, first, reg, hb, hmode, hlinear, hreg⟩, hbases⟩, .inl ⟨rfl, rfl⟩⟩
  | some r =>
    dsimp only
    have hshape : Shape { s with inFlight := s.inFlight.eraseIdx k } :=
      ⟨⟨b, first, reg, hb, hmode, hlinear, hreg⟩, hrest⟩
    split
    · exact ⟨_, rfl, rfl, hshape, .inr ⟨r, rfl, rfl, .inl rfl⟩⟩
    · split
      · exact ⟨_, rfl, rfl, hshape, .inr ⟨r, rfl, rfl, .inl rfl⟩⟩
      · rename_i hfits
        obtain ⟨l', hcomplete, hheap⟩ : ∃ l', completeRead .ok s.loop r.request
            { (default : RequestSlot) with opcode := .read, bufferPayload := some s.payload }
            ⟨r.request.toNat, res, 0, 0⟩ = _ ∧ _ :=
          completeRead_fixed rfl hb hmode hlinear hreg
        have hput : ∀ copied, Shape ⟨l', s.payload, s.registered, s.inFlight.eraseIdx k, copied⟩ :=
          fun _ => shape_put hb hlinear hheap rfl hmode hlinear rfl hrest
        rw [hcomplete]
        by_cases hnull : first.buffer = .null
        · rw [if_pos hnull]
          exact ⟨_, rfl, rfl, hput _, .inr ⟨r, rfl, rfl, .inl rfl⟩⟩
        · rw [if_neg hnull, ← hhead]
          exact ⟨_, rfl, rfl, hput _, .inr ⟨r, rfl, rfl, .inr ⟨by omega, rfl⟩⟩⟩

/-! ## Matching -/

theorem names_congr (h : t.registered = s.registered) : t.names = s.names := by
  funext index v
  unfold names
  rw [h]

theorem inside_iff {v w : Iovec} :
    v.inside w = true ↔ ∃ a b, v.iovBase = .mem a ∧ w.iovBase = .mem b ∧ b ≤ a ∧
      a + v.iovLen ≤ b + w.iovLen := by
  unfold Iovec.inside
  split
  · rename_i a b ha hb
    simp [ha, hb]
  · rename_i hnone
    refine iff_of_false (by simp) ?_
    rintro ⟨a, b, ha, hb, -⟩
    exact hnone a b ha hb

theorem names_iff {index : Int} {v : Iovec} :
    s.names index v = true ↔
      0 ≤ index ∧ ∃ w, s.registered[index.toNat]? = some w ∧ v.inside w = true := by
  unfold names
  rw [Bool.and_eq_true, decide_eq_true_iff]
  cases s.registered[index.toNat]? with
  | none => simp
  | some w => simp

/-- A shorter range from the same start. -/
theorem names_shorter {index : Int} {v : Iovec} {n : Nat} (h : s.names index v = true)
    (hn : n ≤ v.iovLen) : s.names index ⟨v.iovBase, n⟩ = true := by
  obtain ⟨hindex, w, hw, hin⟩ := names_iff.mp h
  obtain ⟨a, b, ha, hb, hlow, hhigh⟩ := inside_iff.mp hin
  exact names_iff.mpr ⟨hindex, w, hw, inside_iff.mpr ⟨a, b, ha, hb, hlow, by
    show a + n ≤ b + w.iovLen
    omega⟩⟩

theorem mem_of_names {index : Int} {v : Iovec} (h : s.names index v = true) :
    ∃ a, v.iovBase = .mem a := by
  obtain ⟨-, w, -, hin⟩ := names_iff.mp h
  obtain ⟨a, -, ha, -⟩ := inside_iff.mp hin
  exact ⟨a, ha⟩

/-- Of two ranges from one start that share no byte one is empty. -/
theorem apart_iff {v w : Iovec} {a : Nat} (hv : v.iovBase = .mem a) (hw : w.iovBase = .mem a) :
    v.apart w = true ↔ v.iovLen = 0 ∨ w.iovLen = 0 := by
  unfold Iovec.apart
  rw [hv, hw]
  simp only [Bool.or_eq_true, beq_iff_eq, decide_eq_true_iff]
  omega

/-- Of buffers that share no memory only the first holds its own bytes. -/
theorem names_head_iff {index : Int} {n : Nat} {first : Iovec} {rest : List Iovec}
    (hregistered : s.registered = first :: rest) (hhead : first.iovBase = s.head)
    (hapart : ∀ w ∈ rest, first.apart w = true) (hlen : 0 < first.iovLen) (hn : 0 < n) :
    s.names index ⟨s.head, n⟩ = true ↔
      index = 0 ∧ n ≤ first.iovLen ∧ ∃ a, s.head = .mem a := by
  rw [names_iff, hregistered]
  constructor
  · rintro ⟨hindex, w, hw, hin⟩
    obtain ⟨a, b, ha, hb, hlow, hhigh⟩ := inside_iff.mp hin
    change s.head = .mem a at ha
    change a + n ≤ b + w.iovLen at hhigh
    cases hk : index.toNat with
    | zero =>
      rw [hk] at hw
      obtain rfl := Option.some.inj hw
      obtain rfl : b = a := by simpa [ha, hb] using hhead
      exact ⟨by omega, by omega, b, ha⟩
    | succ j =>
      rw [hk] at hw
      have hsep := hapart w (List.mem_of_getElem? hw)
      unfold Iovec.apart at hsep
      rw [hhead, ha, hb] at hsep
      simp only [Bool.or_eq_true, beq_iff_eq, decide_eq_true_iff] at hsep
      omega
  · rintro ⟨rfl, hle, a, ha⟩
    refine ⟨Int.le_refl 0, first, rfl,
      inside_iff.mpr ⟨a, a, ha, hhead.trans ha, Nat.le_refl a, ?_⟩⟩
    exact Nat.add_le_add_left hle a

theorem matching_append_iff {r : FixedRead} (hs : s.Shape) (hm : s.Matching)
    (hbase : r.target.iovBase = s.head) (hregistered : t.registered = s.registered)
    (hcopied : t.copied = s.copied) (hflight : t.inFlight = s.inFlight ++ [r]) :
    t.Matching ↔ s.names r.index r.target = true ∧
      (r.target.iovLen = 0 ∨ ∀ q ∈ s.inFlight, q.target.iovLen = 0) := by
  have hnames := names_congr hregistered
  have happart : ∀ a, s.head = .mem a → ∀ q ∈ s.inFlight,
      (q.target.apart r.target = true ↔ q.target.iovLen = 0 ∨ r.target.iovLen = 0) :=
    fun a ha q hq => apart_iff ((hs.bases q hq).trans ha) (hbase.trans ha)
  constructor
  · intro h
    have hnamed : s.names r.index r.target = true := by
      rw [← hnames]
      exact h.named r (by rw [hflight]; simp)
    obtain ⟨a, ha⟩ := mem_of_names hnamed
    refine ⟨hnamed, ?_⟩
    by_cases hzero : r.target.iovLen = 0
    · exact .inl hzero
    · refine .inr fun q hq => ?_
      have hpair := h.apart
      rw [hflight, List.pairwise_append] at hpair
      have hqr := hpair.2.2 q hq r (List.mem_singleton_self r)
      rcases (happart a (hbase.symm.trans ha) q hq).mp hqr with hz | hz
      · exact hz
      · exact absurd hz hzero
  · rintro ⟨hnamed, hempty⟩
    obtain ⟨a, ha⟩ := mem_of_names hnamed
    refine ⟨fun q hq => ?_, ?_, ?_⟩
    · rw [hnames]
      rw [hflight] at hq
      rcases List.mem_append.mp hq with hold | hnew
      · exact hm.named q hold
      · rwa [List.mem_singleton.mp hnew]
    · rw [hflight, List.pairwise_append]
      refine ⟨hm.apart, List.pairwise_singleton _ _, fun q hq x hx => ?_⟩
      rw [List.mem_singleton.mp hx]
      refine (happart a (hbase.symm.trans ha) q hq).mpr ?_
      rcases hempty with hz | hz
      · exact .inr hz
      · exact .inl (hz q hq)
    · rw [hnames, hcopied]
      exact hm.copied

theorem matching_complete (hs : s.Shape) (hm : s.Matching) (ht : s.complete k res = .ok t) :
    t.Shape ∧ t.Matching := by
  obtain ⟨t', ht', hregistered, hshape, hleft⟩ :
      ∃ t, s.complete k res = .ok t ∧ _ := complete_spec hs
  obtain rfl := Except.ok.inj (ht'.symm.trans ht)
  have hnames := names_congr hregistered
  refine ⟨hshape, ?_⟩
  rcases hleft with ⟨hflight, hcopied⟩ | ⟨r, hr, hflight, hcopied⟩
  · refine ⟨?_, ?_, ?_⟩
    · rw [hnames, hflight]
      exact hm.named
    · rw [hflight]
      exact hm.apart
    · rw [hnames, hcopied]
      exact hm.copied
  · refine ⟨fun q hq => ?_, ?_, fun x hx => ?_⟩
    · rw [hnames]
      rw [hflight] at hq
      exact hm.named q (List.mem_of_mem_eraseIdx hq)
    · rw [hflight]
      exact hm.apart.sublist (List.eraseIdx_sublist _ _)
    · rw [hnames]
      rcases hcopied with hold | ⟨hle, hnew⟩
      · rw [hold] at hx
        exact hm.copied x hx
      · rw [hnew] at hx
        rcases List.mem_append.mp hx with hold | hlast
        · exact hm.copied x hold
        · rw [List.mem_singleton.mp hlast]
          have hmem := List.mem_of_getElem? hr
          have hshorter := names_shorter (hm.named r hmem) hle
          rwa [hs.bases r hmem] at hshorter

end Act

/-- One act from a state where everything matches. -/
theorem step_matching_iff {s t : FixedReads} {a : FixedAct} (hs : s.Shape) (hm : s.Matching)
    (ht : s.step a = .ok t) : t.Shape ∧ (t.Matching ↔ s.Fits a) := by
  cases a with
  | complete k res =>
    obtain ⟨hshape, hmatching⟩ := matching_complete hs hm ht
    exact ⟨hshape, iff_of_true hmatching trivial⟩
  | read request size offset sent =>
    obtain ⟨t', ht', hregistered, hcopied, hshape, hflight⟩ :
        ∃ t, s.read request size offset sent = .ok t ∧ _ := read_spec hs
    obtain rfl := Except.ok.inj (ht'.symm.trans ht)
    refine ⟨hshape, ?_⟩
    cases sent with
    | noSqe =>
      refine iff_of_true ?_ trivial
      have hnames := names_congr hregistered
      rw [if_pos rfl] at hflight
      exact ⟨by rw [hnames, hflight]; exact hm.named, by rw [hflight]; exact hm.apart,
        by rw [hnames, hcopied]; exact hm.copied⟩
    | left => exact matching_append_iff hs hm rfl hregistered hcopied hflight
    | submitted => exact matching_append_iff hs hm rfl hregistered hcopied hflight

theorem step_returns {s : FixedReads} (hs : s.Shape) (a : FixedAct) : ∃ t, s.step a = .ok t := by
  cases a with
  | read request size offset sent =>
    obtain ⟨t, ht, -⟩ : ∃ t, s.read request size offset sent = .ok t ∧ _ := read_spec hs
    exact ⟨t, ht⟩
  | complete k res =>
    obtain ⟨t, ht, -⟩ : ∃ t, s.complete k res = .ok t ∧ _ := complete_spec hs
    exact ⟨t, ht⟩

theorem enter_shape {l : Loop} {buffersObj : Bool} {buffers : List LinearBuffer}
    {unassigned : Int} {context : ExecutionContext} {s : FixedReads} (hne : buffers ≠ [])
    (hs : enter l buffersObj buffers unassigned context = .ok s) : s.Shape ∧ s.Matching := by
  obtain ⟨first, rest, rfl⟩ := List.exists_cons_of_ne_nil hne
  unfold enter createBufferPayload openBuffers at hs
  dsimp only at hs
  rw [alloc_payloads_self] at hs
  obtain rfl := Except.ok.inj hs
  refine ⟨⟨⟨_, first, _, put_payloads alloc_payloads_self, rfl, rfl, rfl⟩, ?_⟩, ?_, ?_, ?_⟩
  · exact fun r hr => absurd hr List.not_mem_nil
  · exact fun r hr => absurd hr List.not_mem_nil
  · exact List.Pairwise.nil
  · exact fun x hx => absurd hx List.not_mem_nil


/-- A context of `n` buffers hands out the index `n - 1` first. -/
theorem enter_drawn {l : Loop} {buffersObj : Bool} {buffers : List LinearBuffer}
    {unassigned : Int} {context : ExecutionContext} {s : FixedReads} (hne : buffers ≠ [])
    (hsmall : buffers.length < 2 ^ 31)
    (hs : enter l buffersObj buffers unassigned context = .ok s) :
    s.drawn = buffers.length - 1 := by
  have hpos : 0 < buffers.length := List.length_pos_iff.mpr hne
  have hamount : toUnsigned (buffers.length : Int) = buffers.length := by
    unfold toUnsigned
    omega
  unfold enter createBufferPayload openBuffers at hs
  dsimp only at hs
  rw [alloc_payloads_self] at hs
  obtain rfl := Except.ok.inj hs
  rw [drawn_eq (put_payloads alloc_payloads_self) rfl]
  dsimp only
  rw [hamount, FixedBufferIdxRegistry.create_eq hpos hsmall]
  have htop : ¬ ((buffers.length : Int) - 1 < 0) := by omega
  unfold getBufferIdx
  rw [if_neg htop]
  have hnat : ((buffers.length : Int) - 1).toNat = buffers.length - 1 := by omega
  have hlt : buffers.length - 1 < buffers.length := by omega
  show (indices buffers.length).getD ((buffers.length : Int) - 1).toNat default = _
  rw [hnat, List.getD_eq_getElem?_getD]
  unfold indices
  rw [List.getElem?_map, List.getElem?_range hlt]
  show Int.ofNat (buffers.length - 1) = _
  rw [Int.ofNat_eq_natCast]
  omega

theorem enter_registered {l : Loop} {buffersObj : Bool} {first : LinearBuffer}
    {rest : List LinearBuffer} {unassigned : Int} {context : ExecutionContext} {s : FixedReads}
    (hs : enter l buffersObj (first :: rest) unassigned context = .ok s) :
    s.registered = first.iovec :: rest.map LinearBuffer.iovec ∧ s.head = first.buffer := by
  unfold enter createBufferPayload openBuffers at hs
  dsimp only at hs
  rw [alloc_payloads_self] at hs
  obtain rfl := Except.ok.inj hs
  exact ⟨rfl, head_eq (put_payloads alloc_payloads_self) rfl⟩

/-- With two or more buffers that share no memory the first read of a context does not fit. -/
theorem first_read_not_fits {l : Loop} {buffersObj : Bool} {first : LinearBuffer}
    {rest : List LinearBuffer} {unassigned : Int} {context : ExecutionContext} {s : FixedReads}
    {request size offset : Int} (hmany : rest ≠ []) (hsmall : (first :: rest).length < 2 ^ 31)
    (hapart : ∀ w ∈ rest, first.iovec.apart w.iovec = true) (hlen : 0 < first.len)
    (hsize : 0 < toUnsigned size)
    (hs : enter l buffersObj (first :: rest) unassigned context = .ok s) :
    ¬ s.Fits (.read request size offset .submitted) := by
  intro hfits
  obtain ⟨hregistered, hhead⟩ := enter_registered hs
  have hdrawn := enter_drawn (List.cons_ne_nil _ _) hsmall hs
  have hsep : ∀ w ∈ rest.map LinearBuffer.iovec, first.iovec.apart w = true := by
    intro w hw
    obtain ⟨b, hb, rfl⟩ := List.mem_map.mp hw
    exact hapart b hb
  have hzero := ((names_head_iff hregistered hhead.symm hsep hlen hsize).mp hfits.1).1
  have hpos := List.length_pos_iff.mpr hmany
  rw [hdrawn, List.length_cons] at hzero
  omega

/-- In every run of reads in a FIXED context the SQEs, the copies and the registered buffers
    match in every state exactly when every read fits. -/
theorem fixed_reads_match_iff {l : Loop} {buffersObj : Bool} {buffers : List LinearBuffer}
    {unassigned : Int} {context : ExecutionContext} {s : FixedReads} (hne : buffers ≠ [])
    (hs : enter l buffersObj buffers unassigned context = .ok s) (as : List FixedAct) :
    Each step (fun _ _ t => t.Matching) s as ↔ Meets step Fits s as := by
  have hall : Meets step (fun _ _ => True) s as := meets_true
  refine hall.each_iff (fun s => s.Shape ∧ s.Matching) (fun s a t hi _ ht => ?_)
    (fun s a e hi _ he => ?_) (enter_shape hne hs)
  · obtain ⟨hshape, hiff⟩ := step_matching_iff hi.1 hi.2 ht
    exact ⟨hiff, fun hfits => ⟨hshape, hiff.mpr hfits⟩⟩
  · obtain ⟨t, ht⟩ := step_returns hi.1 a
    exact absurd (ht.symm.trans he) (by simp)

/-- Two reads, one after the other, with one buffer. -/
theorem one_buffer_matches : ∃ s,
    enter (uringioLoopInit 4 .failed 3 1) true [⟨.mem 4096, 8⟩] 0 .default = .ok s ∧
      Each step (fun _ _ t => t.Matching) s
        [.read 1 8 0 .submitted, .complete 0 8, .read 2 5 8 .submitted] := by
  have hrun : ∃ s, enter (uringioLoopInit 4 .failed 3 1) true [⟨.mem 4096, 8⟩] 0 .default = .ok s ∧
      Meets step Fits s [.read 1 8 0 .submitted, .complete 0 8, .read 2 5 8 .submitted] :=
    ⟨_, rfl, by decide +kernel⟩
  obtain ⟨s, hs, hmeets⟩ := hrun
  exact ⟨s, hs, (fixed_reads_match_iff (by simp) hs _).mpr hmeets⟩

/-- With two buffers the first read draws the index 1 and names the buffer 0. -/
theorem second_index_mismatch : ∃ s,
    enter (uringioLoopInit 4 .failed 3 1) true [⟨.mem 4096, 8⟩, ⟨.mem 8192, 8⟩] 0 .default = .ok s ∧
      ¬ Each step (fun _ _ t => t.Matching) s [.read 1 8 0 .submitted] :=
  ⟨_, rfl, by decide +kernel⟩

end FixedReads

end Uringio
