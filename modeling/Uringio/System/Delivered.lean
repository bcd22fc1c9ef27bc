/-
  The bytes that a future gets, and the buffer that the kernel filled.

  The memory of a run says of every byte which CQE the kernel wrote it for, of which SQE, and
  which of its bytes it is. A buffer of a PROVIDED or BUF_RING context is chosen by the kernel,
  which puts its number into the flags of the CQE; the reader takes the bytes of the first one
  whatever the number is (`delivered_iff`).
-/
import Uringio.PyOps.Selects
import Uringio.System.Shapes

namespace Uringio

open Lib

/-! ## What the kernel writes -/

/-- The byte number `offset` of what the kernel wrote for the CQE number `cqe`, which is one of
    the SQE at the position `seq`. -/
structure Written where
  cqe : Nat
  seq : Nat
  offset : Nat
deriving DecidableEq, Repr

/-- The first `n` bytes that were written for a CQE. -/
def writtenFor (cqe seq n : Nat) : List (Option Written) :=
  (List.range n).map fun k => some ⟨cqe, seq, k⟩

/-- `cqe->flags >> IORING_CQE_BUFFER_SHIFT`. -/
def selectedBid (flags : Nat) : Nat := flags >>> ioringCqeBufferShift

namespace System

/-- The linear buffer of the payload of a request: the first buffer of its context. -/
def firstBuffer (s : System) (sub : Submitted) : Option LinearBuffer :=
  (sub.registration.bufferPayload.bind fun p => s.loop.heap.payloads[p]?).bind
    BufferPayload.linear

/-- Where the kernel puts the `n` bytes of a CQE of the request, with the buffer `bid` of the
    group if it takes one from there. -/
def filledBy (s : System) (sub : Submitted) (bid n : Nat) : List Iovec :=
  copyChunks (sub.op.fills ((s.firstBuffer sub).map fun b => b.at bid)) n

/-- Where the kernel puts the bytes of a CQE of the SQE at `seq`; where no request waits for it
    this is `other`. -/
def filled (s : System) (seq bid n : Nat) (other : List Iovec) : List Iovec :=
  match s.subs.find? fun sub => sub.seq == seq with
  | some sub => s.filledBy sub bid n
  | none => other

/-- The bytes that the only one of the calls gives to its future. -/
def givenBy : List (FutureId × FutureCall) → Option (FutureId × List Iovec)
  | [(future, .setResult (.bytes chunks))] => some (future, chunks)
  | _ => none

/-- The bytes that a step has given to a future. -/
def given (s t : System) : Option (FutureId × List Iovec) :=
  givenBy (t.loop.callLog.drop s.loop.callLog.length)

end System

/-- The system with its memory. -/
structure Store where
  sys : System
  memory : Memory Written

namespace Store

/-- The memory before a run is as nobody wrote it. -/
def init (l : Loop) : Store := ⟨System.init l, fun _ => none⟩

/-- A step of the system. Only the kernel writes: the bytes of a CQE that it posts. -/
def step (s : Store) (a : Act × List Iovec) : Except Stop Store :=
  (s.sys.step a.1).map fun t =>
    match a.1 with
    | .post seq res flags =>
      ⟨t, s.memory.write (fun k => ⟨s.sys.posted.length, seq, k⟩) 0
        (region (s.sys.filled seq (selectedBid flags) res.toNat a.2))⟩
    | _ => ⟨t, s.memory⟩

/-- The CQE is a success of a request that reads into a PROVIDED or BUF_RING context. -/
def Selecting (s : Store) (x : Cqe × RequestSlot) : Prop :=
  0 ≤ x.1.res ∧ (x.2.opcode.linear = true ∨ x.2.opcode = .readv) ∧
    s.sys.loop.heap.Has x.2.bufferPayload BufferPayload.Selects

/-- The future of the request gets the bytes that the kernel wrote for the CQE and for this
    request. -/
def Delivered (s : Store) (c : Cqe) (t : System) : Prop :=
  match System.given s.sys t, holder s.sys.subs (toInt c.userData) with
  | some (future, chunks), some sub =>
    future = sub.registration.future ∧
      s.memory.read (region chunks) = writtenFor s.sys.seen.length sub.seq c.res.toNat
  | _, _ => False

/-- When the reader comes to such a CQE, and the bytes object can be made, it delivers. -/
def Delivers (s : Store) (a : Act × List Iovec) : Prop :=
  s.sys.down = false →
    match a.1 with
    | .read env => env.result = true → ∀ x, s.sys.nextSlot = some x → s.Selecting x →
        ∃ t, s.sys.step a.1 = .ok t ∧ s.Delivered x.1 t
    | _ => True

/-- What the kernel wrote for the CQE is still there. -/
def Intact (s : Store) (sub : Submitted) (c : Cqe) : Prop :=
  s.memory.read (region (s.sys.filledBy sub (selectedBid c.flags) c.res.toNat)) =
    writtenFor s.sys.seen.length c.seq c.res.toNat

/-- The CQE has no bytes, or it is one of the request, the kernel took the first buffer for it,
    and its bytes are still there. -/
def FirstFilled (s : Store) (c : Cqe) (sub : Submitted) : Prop :=
  c.res = 0 ∨
    c.seq = sub.seq ∧ (sub.op.bgid.isSome → selectedBid c.flags = 0) ∧ s.Intact sub c

/-- The reader comes to such a CQE, and not to one of `readv`. -/
def ReadsFirst (s : Store) (a : Act × List Iovec) : Prop :=
  s.sys.down = false →
    match a.1 with
    | .read env => env.result = true → ∀ x, s.sys.nextSlot = some x → s.Selecting x →
        x.2.opcode ≠ .readv ∧ ∀ sub, holder s.sys.subs (toInt x.1.userData) = some sub →
          (x.2.opcode = .read → ∀ b, s.sys.firstBuffer sub = some b → b.buffer ≠ .null) ∧
          s.FirstFilled x.1 sub
    | _ => True

end Store

/-! ## What the reader gives -/

/-- What the branch of a linear operation gives to the future. -/
def linearResult (slot : RequestSlot) (linear : LinearBuffer) (res : Int) : Option ResultValue :=
  if slot.opcode = .read ∧ linear.buffer = .null then none
  else some (.bytes (if slot.opcode = .recv ∧ res = 0 then [] else [⟨linear.buffer, res.toNat⟩]))

section Branches

variable {env : ReadEnv} {l : Loop} {index : Int} {slot : RequestSlot} {c : Cqe}
  {p : PayloadId} {b : BufferPayload} {linear : LinearBuffer}

/-- A payload from which the kernel selects buffers, in a slot of a linear operation. -/
structure SelectingSlot (l : Loop) (slot : RequestSlot) (b : BufferPayload)
    (linear : LinearBuffer) : Prop where
  payload : ∃ p, slot.bufferPayload = some p ∧ l.heap.payloads[p]? = some b
  mode : b.mode ≠ .fixed
  payloadType : b.payloadType = .payloadLinear
  linear : b.linear = some linear
  socket : slot.opcode = .recv → slot.socket.isSome
  stream : slot.opcode = .recvmsg → slot.streamStrategy = .oneshot

theorem releaseFixed_of_ne (hm : b.mode ≠ .fixed) : releaseFixed l p b = .ok l := by
  unfold releaseFixed
  rw [if_neg hm]

/-- The branch of a linear operation takes the first buffer of the context. -/
theorem complete_selecting (h : SelectingSlot l slot b linear) (hop : slot.opcode.linear = true)
    (he : env.result = true) :
    ∃ l2, complete env l index slot c = .ok (.value (linearResult slot linear c.res), l2) := by
  obtain ⟨p, hp, hb⟩ := h.payload
  unfold complete linearResult
  cases hopc : slot.opcode with
  | read =>
    dsimp only
    unfold completeRead bytesOf
    rw [slotPayload_of_some hp hb]
    simp only [bind, Except.bind, pure, Except.pure, linearOf_of_some h.linear,
      releaseFixed_of_ne h.mode, he, if_true]
    by_cases hnull : linear.buffer = .null
    · simp [hnull]
    · simp [hnull]
  | recv =>
    dsimp only
    unfold completeRecv bytesOf
    rw [if_pos (h.socket hopc), slotPayload_of_some hp hb]
    by_cases hres : c.res = 0
    · simp [bind, Except.bind, pure, Except.pure, releaseFixed_of_ne h.mode, he, hres]
    · simp [bind, Except.bind, pure, Except.pure, linearOf_of_some h.linear,
        releaseFixed_of_ne h.mode, he, hres]
  | recvmsg =>
    dsimp only
    unfold completeRecvmsg bytesOf
    rw [slotPayload_of_some hp hb]
    simp [bind, Except.bind, pure, Except.pure, linearOf_of_some h.linear,
      releaseFixed_of_ne h.mode, he, h.stream hopc, h.payloadType]
  | _ =>
    rw [hopc] at hop
    exact absurd hop (by simp [Opcode.linear])

/-- The end of an iteration leaves the calls. -/
theorem finishCqe_returns (hv : l.registry.Valid) (hl : l.registry.liveSlot index = some slot) :
    ∃ l1, finishCqe l index = .ok l1 ∧ l1.callLog = l.callLog := by
  obtain ⟨reg, hrem, -⟩ := hv.remove l.heap hl
  unfold finishCqe
  rw [hrem]
  exact ⟨_, rfl, rfl⟩

/-- The reader handles a success of such a slot. -/
theorem readLive_selecting {future : FutureId} (h : SelectingSlot l slot b linear)
    (hop : slot.opcode.linear = true) (he : env.result = true) (hv : l.registry.Valid)
    (hl : l.registry.liveSlot index = some slot) (hfit : SlotFits l.heap slot)
    (htag : c.userData ≠ wakeupFdTag) (hres : 0 ≤ c.res) :
    ∃ l1, readLive env l index slot future c = .ok l1 ∧
      l1.callLog = l.callLog ++ (linearResult slot linear c.res).toList.map fun v =>
        (future, .setResult v) := by
  obtain ⟨l2, h2⟩ : ∃ l2, complete env l index slot c =
      .ok (.value (linearResult slot linear c.res), l2) := complete_selecting h hop he
  unfold readLive
  rw [if_neg (fun hn => absurd hn.1 (Int.not_lt.mpr hres)), if_neg htag, h2]
  rcases complete_completed hv hl hfit h2 with ⟨hr, -⟩ | ⟨v, -, hc⟩
  · exact absurd hr (by simp)
  · obtain ⟨slot1, hl1, -⟩ := hc.slot
    cases hval : linearResult slot linear c.res with
    | none =>
      obtain ⟨l1, h1, hlog⟩ := finishCqe_returns hc.valid hl1
      exact ⟨l1, h1, by rw [hlog, hc.callLog]; simp⟩
    | some v =>
      obtain ⟨l1, h1, hlog⟩ : ∃ l1, finishCqe (l2.callFuture future (.setResult v)) index =
          .ok l1 ∧ l1.callLog = (l2.callFuture future (.setResult v)).callLog :=
        finishCqe_returns hc.valid hl1
      refine ⟨l1, h1, hlog.trans ?_⟩
      exact congrArg (· ++ [(future, .setResult v)]) hc.callLog

end Branches

/-! ## Regions -/

section Regions

variable {n k len : Nat} {p : Ptr} {vs : List Iovec}

theorem region_single (v : Iovec) : region [v] = v.region := by
  unfold region
  rw [List.flatMap_singleton]

theorem region_zero : region [⟨p, 0⟩] = [] := by
  refine List.eq_nil_of_length_eq_zero ?_
  rw [region_single, length_iovec_region]

/-- The kernel writes no more than the bytes of the CQE. -/
theorem length_region_copyChunks (vs : List Iovec) (n : Nat) :
    (region (copyChunks vs n)).length ≤ n := by
  induction vs generalizing n with
  | nil => exact Nat.zero_le n
  | cons v vs ih =>
    unfold copyChunks
    split
    · exact Nat.zero_le n
    · have htail := ih (n - min v.iovLen n)
      have hle := Nat.min_le_right v.iovLen n
      unfold region at htail ⊢
      rw [List.flatMap_cons, List.length_append, length_iovec_region]
      dsimp only
      omega

theorem copyChunks_single (hn : n ≠ 0) : copyChunks [⟨p, len⟩] n = [⟨p, min len n⟩] := by
  unfold copyChunks
  rw [if_neg hn]
  rfl

theorem region_mem (n len : Nat) :
    region [⟨.mem n, len⟩] = (List.range len).map fun k => some (n + k) := by
  rw [region_single]
  rfl

theorem getElem?_region_mem (hk : k < len) :
    (region [⟨.mem n, len⟩])[k]? = some (some (n + k)) := by
  rw [region_mem, List.getElem?_map, List.getElem?_range hk]
  rfl

/-- Only memory can be read back. -/
theorem mem_of_read {m : Memory Written} {cqe seq : Nat} (hn : n ≠ 0)
    (h : m.read (region [⟨p, n⟩]) = writtenFor cqe seq n) : ∃ a, p = .mem a := by
  cases p with
  | mem a => exact ⟨a, rfl⟩
  | null | wakeupBuf =>
    have hhead := congrArg (fun x => x[0]?) h
    have hpos : 0 < n := Nat.pos_of_ne_zero hn
    unfold writtenFor Memory.read at hhead
    simp only [region_single, Iovec.region, List.getElem?_map, List.getElem?_replicate, hpos,
      if_true, List.getElem?_range hpos] at hhead
    exact absurd hhead (by simp)

theorem length_writtenFor (cqe seq n : Nat) : (writtenFor cqe seq n).length = n := by
  unfold writtenFor
  rw [List.length_map, List.length_range]

end Regions

/-! ## The invariant -/

namespace System

variable {s t : System} {a : Act}

/-- A request that was accepted in this step. -/
structure NewRequest (s t : System) (sub : Submitted) : Prop where
  seq : sub.seq = s.loop.ring.tail
  prepared : ∃ (call : OpCall) (env : CallEnv) (g : Grown) (req : Request) (heap1 : Heap),
    call.prepare env s.loop = .ok (.ok req, s.loop.grow g) ∧ Prepared call s.loop g req ∧
    sub.registration = req.registration ∧
    req.dispatch (s.loop.grow g).heap = .ok (sub.op, heap1) ∧
    (s.loop.grow g).heap.KeepsParts t.loop.heap

/-- The requests after a step are those before it, and the new one. -/
theorem Stepped.subs_cases (hst : Stepped s a t) (hd : t.down = false) :
    (∀ sub ∈ s.subs, sub ∈ t.subs) ∧ ∀ sub ∈ t.subs, sub ∈ s.subs ∨ NewRequest s t sub := by
  cases hst with
  | called _ ho =>
    cases ho with
    | refused _ | full _ _ _ _ | rejected _ _ _ _ _ _ _ _ _ _ =>
      exact ⟨fun _ hm => hm, fun _ hm => .inl hm⟩
    | accepted hprep hp _ hdisp _ _ hh =>
      refine ⟨fun _ hm => List.mem_cons_of_mem _ hm, fun sub hm => ?_⟩
      rcases List.mem_cons.mp hm with rfl | hm
      · refine .inr ⟨rfl, _, _, _, _, _, hprep, hp, rfl, hdisp, ?_⟩
        simp only [answer, withLoop, Loop.setClosed_heap]
        exact Heap.KeepsParts.trans (.dispatch hp.dispatch hdisp) (.of_payloads hh)
      · exact .inl hm
  | posted _ | dropped _ _ | skipped _ _ _ | handled _ _ _ _ _ =>
    exact ⟨fun _ hm => hm, fun _ hm => .inl hm⟩
  | quiet _ hq =>
    rw [hq.subs]
    exact ⟨fun _ hm => hm, fun _ hm => .inl hm⟩
  | shutdown _ _ => exact absurd hd (by simp)

/-- Only the kernel adds a CQE. -/
theorem Stepped.posted_cases (hst : Stepped s a t) (hd : t.down = false) :
    (∃ c : Cqe, a = .post c.seq c.res c.flags ∧ t.subs = s.subs ∧ t.posted = s.posted ++ [c]) ∨
      (∀ seq res flags, a ≠ .post seq res flags) ∧ t.posted = s.posted := by
  cases hst with
  | called _ ho =>
    refine .inr ⟨by simp, ?_⟩
    unfold System.posted
    cases ho with
    | refused h =>
      obtain ⟨g, rfl, -⟩ := h
      rfl
    | full _ _ _ _ => rfl
    | rejected _ _ _ _ hx hn _ _ _ _ =>
      obtain ⟨extra, hadd, -⟩ := COp.exec_rejected_added hx hn
      simp only [answer, withLoop, Loop.setClosed_ring, Loop.afterCall, hadd.cq]
    | accepted _ _ _ _ hx hn _ =>
      simp only [answer, withLoop, Loop.setClosed_ring, Loop.afterCall,
        (COp.exec_accepted hx hn).cq]
  | posted hp =>
    unfold Ring.post at hp
    split at hp
    · exact absurd hp (by simp)
    · rename_i f _
      obtain rfl := Option.some.inj hp
      refine .inl ⟨⟨f.sqe.userData, _, _, _⟩, rfl, rfl, ?_⟩
      unfold System.posted
      simp only [withLoop, List.append_assoc]
  | dropped hcq _ => exact .inr ⟨by simp, posted_consume hcq rfl⟩
  | skipped hcq _ _ => exact .inr ⟨by simp, posted_consume hcq rfl⟩
  | handled hcq _ _ _ hh => exact .inr ⟨by simp, posted_consume hcq hh.ring⟩
  | quiet ha hq =>
    refine .inr ⟨fun seq res flags he => ?_, ?_⟩
    · rw [he] at ha
      exact absurd ha (by simp [Act.quiet])
    · unfold System.posted
      rw [hq.seen, hq.ring.cq]
  | shutdown _ _ => exact absurd hd (by simp)

/-- The first buffer of a request stays. -/
theorem Base.firstBuffer_eq (h : s.Base) (hk : s.loop.heap.KeepsParts t.loop.heap)
    {sub : Submitted} (hm : sub ∈ s.subs) : t.firstBuffer sub = s.firstBuffer sub := by
  unfold firstBuffer
  cases hp : sub.registration.bufferPayload with
  | none => rfl
  | some p =>
    have hold := h.heap.holds sub hm
    have hlt := hold.lt (hold.payload_of_registration hp)
    obtain ⟨b', hb', he⟩ := hk.kept p _ (List.getElem?_eq_getElem hlt)
    rw [Option.bind_some, Option.bind_some, hb', List.getElem?_eq_getElem hlt]
    exact he.linear

/-- The bytes of a CQE of a request go where the request says. -/
theorem Base.filled_of_request (h : s.Base) {sub : Submitted} (hm : sub ∈ s.subs) {seq : Nat}
    (hs : sub.seq = seq) (bid n : Nat) (other : List Iovec) :
    s.filled seq bid n other = s.filledBy sub bid n := by
  unfold filled
  cases hf : s.subs.find? fun sub => sub.seq == seq with
  | none =>
    have := List.find?_eq_none.mp hf sub hm
    exact absurd hs (by simpa using this)
  | some sub' =>
    have hs' : sub'.seq = seq := by simpa using List.find?_some hf
    rw [h.eq_of_seq (List.mem_of_find?_eq_some hf) hm (hs'.trans hs.symm)]

end System

namespace Store

variable {s t : Store} {a : Act × List Iovec}

/-- The operations that read into a context select a buffer or name the first one, and every
    byte of the memory is where the kernel puts the bytes of its CQE. -/
structure Inv (s : Store) : Prop where
  base : s.sys.Base
  parts : s.sys.PartsInv
  fills : ∀ sub ∈ s.sys.subs, sub.registration.opcode.linear = true → ∀ p b linear,
    sub.registration.bufferPayload = some p → s.sys.loop.heap.payloads[p]? = some b →
    b.Selects → b.linear = some linear → sub.op.FillsSelected linear
  memory : ∀ i w, s.memory i = some w → ∃ c, s.sys.posted[w.cqe]? = some c ∧ w.seq = c.seq ∧
    ∀ sub ∈ s.sys.subs, sub.seq = c.seq →
      (region (s.sys.filledBy sub (selectedBid c.flags) c.res.toNat))[w.offset]? = some (some i)

theorem step_sys (hs : s.step a = .ok t) : s.sys.step a.1 = .ok t.sys := by
  unfold step at hs
  cases hr : s.sys.step a.1 with
  | error e =>
    rw [hr] at hs
    exact absurd hs (by simp [Except.map])
  | ok t' =>
    rw [hr] at hs
    obtain rfl := Except.ok.inj hs
    split
    · rfl
    · rfl

/-- The memory after a step. -/
theorem step_memory (hs : s.step a = .ok t) :
    t.memory = match a.1 with
      | .post seq res flags => s.memory.write (fun k => ⟨s.sys.posted.length, seq, k⟩) 0
          (region (s.sys.filled seq (selectedBid flags) res.toNat a.2))
      | _ => s.memory := by
  unfold step at hs
  cases hr : s.sys.step a.1 with
  | error e =>
    rw [hr] at hs
    exact absurd hs (by simp [Except.map])
  | ok t' =>
    rw [hr] at hs
    obtain rfl := Except.ok.inj hs
    split
    · rfl
    · rfl

theorem Inv.fills_step (h : s.Inv) (hst : System.Stepped s.sys a.1 t.sys)
    (hk : s.sys.loop.heap.KeepsParts t.sys.loop.heap) (hd : t.sys.down = false) :
    ∀ sub ∈ t.sys.subs, sub.registration.opcode.linear = true → ∀ p b linear,
      sub.registration.bufferPayload = some p → t.sys.loop.heap.payloads[p]? = some b →
      b.Selects → b.linear = some linear → sub.op.FillsSelected linear := by
  intro sub hm hop p b linear hp hb hs hl
  rcases (hst.subs_cases hd).2 sub hm with hm | hnew
  · have hold := h.base.heap.holds sub hm
    have hlt := hold.lt (hold.payload_of_registration hp)
    obtain ⟨b', hb', he⟩ := hk.kept p _ (List.getElem?_eq_getElem hlt)
    obtain rfl := Option.some.inj (hb.symm.trans hb')
    refine h.fills sub hm hop p _ linear hp (List.getElem?_eq_getElem hlt) ?_ (he.linear ▸ hl)
    unfold BufferPayload.Selects at hs ⊢
    rw [← he.mode]
    exact hs
  · obtain ⟨call, env, g, req, heap1, hprep, hpre, hreg, hdisp, hk'⟩ := hnew.prepared
    have hop' : call.opcode.linear = true := by
      rw [← hpre.opcode, ← hreg]
      exact hop
    have hfill := (OpCall.prepare_fills hop' env).returned trivial hprep
    have hp' : req.registration.bufferPayload = some p := hreg ▸ hp
    have hlt := hpre.payload_lt (hpre.payload_of_registration hp')
    obtain ⟨b', hb', he⟩ := hk'.kept p _ (List.getElem?_eq_getElem hlt)
    obtain rfl := Option.some.inj (hb.symm.trans hb')
    refine hfill _ _ _ p _ linear hdisp hp' (List.getElem?_eq_getElem hlt) ?_ (he.linear ▸ hl)
    unfold BufferPayload.Selects at hs ⊢
    rw [← he.mode]
    exact hs

/-- A byte of a CQE that was posted before stays where it was put. -/
theorem Inv.memory_old (h : s.Inv) (hst : System.Stepped s.sys a.1 t.sys)
    (hk : s.sys.loop.heap.KeepsParts t.sys.loop.heap) (hd : t.sys.down = false) {i : Nat}
    {w : Written} (hw : s.memory i = some w) :
    ∃ c, s.sys.posted[w.cqe]? = some c ∧ w.seq = c.seq ∧
      ∀ sub ∈ t.sys.subs, sub.seq = c.seq →
        (region (t.sys.filledBy sub (selectedBid c.flags) c.res.toNat))[w.offset]? =
          some (some i) := by
  obtain ⟨c, hc, hseq, hplace⟩ := h.memory i w hw
  refine ⟨c, hc, hseq, fun sub hm he => ?_⟩
  rcases (hst.subs_cases hd).2 sub hm with hm | hnew
  · unfold System.filledBy
    rw [h.base.firstBuffer_eq hk hm]
    exact hplace sub hm he
  · -- the request is newer than every CQE
    have hlt := h.base.ring.postedSeq c (List.mem_of_getElem? hc)
    rw [← he, hnew.seq] at hlt
    exact absurd hlt (Nat.lt_irrefl _)

theorem Inv.memory_step (h : s.Inv) (hs : s.step a = .ok t)
    (hst : System.Stepped s.sys a.1 t.sys)
    (hk : s.sys.loop.heap.KeepsParts t.sys.loop.heap) (hd : t.sys.down = false) :
    ∀ i w, t.memory i = some w → ∃ c, t.sys.posted[w.cqe]? = some c ∧ w.seq = c.seq ∧
      ∀ sub ∈ t.sys.subs, sub.seq = c.seq →
        (region (t.sys.filledBy sub (selectedBid c.flags) c.res.toNat))[w.offset]? =
          some (some i) := by
  intro i w hw
  rw [step_memory hs] at hw
  rcases hst.posted_cases hd with ⟨c, ha, hsubs, hposted⟩ | ⟨ha, hposted⟩
  · rw [hposted]
    rw [ha] at hw
    dsimp only at hw
    rcases Memory.write_cases s.memory (fun k => ⟨s.sys.posted.length, c.seq, k⟩) 0
        (region (s.sys.filled c.seq (selectedBid c.flags) c.res.toNat a.2)) i with
      hold | ⟨k, hk', hnew⟩
    · rw [hold] at hw
      obtain ⟨c', hc', hrest⟩ := h.memory_old hst hk hd hw
      refine ⟨c', ?_, hrest⟩
      rw [List.getElem?_append_left (List.getElem?_eq_some_iff.mp hc').1]
      exact hc'
    · rw [hnew] at hw
      obtain rfl := Option.some.inj hw
      refine ⟨c, List.getElem?_concat_length .., rfl, fun sub hm he => ?_⟩
      have hsub : sub ∈ s.sys.subs := hsubs ▸ hm
      rw [h.base.filled_of_request hsub he] at hk'
      unfold System.filledBy at hk' ⊢
      rw [h.base.firstBuffer_eq hk hsub]
      simpa using hk'
  · rw [hposted]
    refine h.memory_old hst hk hd ?_
    split at hw
    · rename_i seq res flags he
      exact absurd he (ha seq res flags)
    · exact hw

theorem Inv.step (h : s.Inv) (hs : s.step a = .ok t) (hd : t.sys.down = false) : t.Inv := by
  have hsys := step_sys hs
  obtain ⟨-, hst⟩ := System.step_cases h.base hsys
  have hk := hst.keepsParts hsys hd
  exact ⟨h.base.step hsys hd, h.parts.step h.base hsys hd, h.fills_step hst hk hd,
    h.memory_step hs hst hk hd⟩

theorem init_inv {registrySize : Nat} {setup : SignalSetup} {wakeupFd submit : Int}
    (h : registrySize < 2 ^ 32) :
    (init (uringioLoopInit registrySize setup wakeupFd submit)).Inv :=
  ⟨System.newLoop_base h, System.init_partsInv rfl (RequestRegistry.registryNew_sound h).2,
    fun _ hm => absurd hm List.not_mem_nil, fun _ _ hw => absurd hw (by simp [init])⟩

/-! ## One CQE -/

section FirstBuffer

variable {c : Cqe} {sub : Submitted} {linear : LinearBuffer}

theorem at_zero (b : LinearBuffer) : (b.at 0).iovec = ⟨b.buffer, b.len⟩ := by
  unfold LinearBuffer.at LinearBuffer.iovec
  cases b.buffer with
  | mem n => simp
  | null | wakeupBuf => rfl

/-- With the first buffer the operation fills one chunk at its address. -/
theorem filledBy_first (hf : sub.op.FillsSelected linear)
    (hb : s.sys.firstBuffer sub = some linear) {bid n : Nat} (hn : n ≠ 0)
    (hbid : sub.op.bgid.isSome → bid = 0) :
    ∃ len, s.sys.filledBy sub bid n = [⟨linear.buffer, min len n⟩] := by
  unfold System.filledBy
  rw [hb]
  rcases hf with hsel | ⟨len, hop⟩
  · obtain rfl := hbid hsel
    refine ⟨linear.len, ?_⟩
    rw [COp.fills_of_bgid hsel, Option.map_some, Option.toList_some, List.map_singleton, at_zero]
    exact copyChunks_single hn
  · exact ⟨len, by rw [hop, copyChunks_single hn]⟩

/-- A byte that was written for the CQE is where the kernel put it. -/
theorem Inv.place (h : s.Inv) (hc : s.sys.posted[s.sys.seen.length]? = some c)
    (hm : sub ∈ s.sys.subs) {i k : Nat}
    (hw : s.memory i = some ⟨s.sys.seen.length, sub.seq, k⟩) :
    c.seq = sub.seq ∧
      (region (s.sys.filledBy sub (selectedBid c.flags) c.res.toNat))[k]? = some (some i) := by
  obtain ⟨c', hc', hseq, hplace⟩ := h.memory i _ hw
  obtain rfl := Option.some.inj (hc.symm.trans hc')
  exact ⟨hseq.symm, hplace sub hm hseq⟩

/-- Every byte that is read back was written there. -/
theorem byte_of_read {a n cqe seq k : Nat} (hk : k < n)
    (hr : s.memory.read (region [⟨.mem a, n⟩]) = writtenFor cqe seq n) :
    s.memory (a + k) = some ⟨cqe, seq, k⟩ := by
  have hbyte := congrArg (fun x => x[k]?) hr
  unfold Memory.read writtenFor at hbyte
  simp only [List.getElem?_map, getElem?_region_mem hk, List.getElem?_range hk,
    Option.map_some, Option.bind_some] at hbyte
  exact Option.some.inj hbyte

/-- The first buffer has the bytes of the CQE exactly when the kernel put them there for the
    request, and they are still there. -/
theorem Inv.firstFilled_iff (h : s.Inv) (hc : s.sys.posted[s.sys.seen.length]? = some c)
    (hm : sub ∈ s.sys.subs) (hf : sub.op.FillsSelected linear)
    (hb : s.sys.firstBuffer sub = some linear) (hres : 0 ≤ c.res) :
    s.memory.read (region [⟨linear.buffer, c.res.toNat⟩]) =
        writtenFor s.sys.seen.length sub.seq c.res.toNat ↔ s.FirstFilled c sub := by
  by_cases hz : c.res = 0
  · refine ⟨fun _ => .inl hz, fun _ => ?_⟩
    rw [hz, Int.toNat_zero, region_zero]
    rfl
  have hn : c.res.toNat ≠ 0 := by omega
  generalize hnat : c.res.toNat = n at hn
  have hplace := fun i k => h.place (i := i) (k := k) hc hm
  rw [hnat] at hplace
  constructor
  · intro hr
    obtain ⟨a, ha⟩ := mem_of_read hn hr
    rw [ha] at hr
    have hfilled : ∀ k < n, (region (s.sys.filledBy sub (selectedBid c.flags) n))[k]? =
        some (some (a + k)) := fun k hk => (hplace _ _ (byte_of_read hk hr)).2
    have hregion : region (s.sys.filledBy sub (selectedBid c.flags) n) = region [⟨.mem a, n⟩] := by
      apply List.ext_getElem?
      intro k
      by_cases hk : k < n
      · rw [hfilled k hk, getElem?_region_mem hk]
      · have hle : (region (s.sys.filledBy sub (selectedBid c.flags) n)).length ≤ n :=
          length_region_copyChunks _ n
        have hlen : (region [⟨.mem a, n⟩]).length = n := by
          rw [region_single, length_iovec_region]
        rw [List.getElem?_eq_none (by omega), List.getElem?_eq_none (by omega)]
    have hpos : 0 < n := Nat.pos_of_ne_zero hn
    have hseq := (hplace _ _ (byte_of_read hpos hr)).1
    refine .inr ⟨hseq, fun hsel => ?_, ?_⟩
    · -- the first byte lies at the start of the buffer that the kernel took
      have hhead := hfilled 0 hpos
      unfold System.filledBy LinearBuffer.at at hhead
      rw [hb, COp.fills_of_bgid hsel, Option.map_some, Option.toList_some, ha] at hhead
      unfold LinearBuffer.iovec at hhead
      rw [List.map_singleton, copyChunks_single hn, region_mem] at hhead
      by_cases hlen : linear.len = 0
      · simp [hlen] at hhead
      · have hmin : 0 < min linear.len n := by omega
        rw [List.getElem?_map, List.getElem?_range hmin] at hhead
        have hmul : selectedBid c.flags * linear.len = 0 := by
          simpa using hhead
        exact (Nat.mul_eq_zero.mp hmul).resolve_right hlen
    · unfold Intact
      rw [hnat, hregion, hseq]
      exact hr
  · intro hfirst
    obtain ⟨hseq, hbid, hint⟩ := hfirst.resolve_left hz
    unfold Intact at hint
    obtain ⟨len, hchunk⟩ := filledBy_first hf hb hn hbid
    rw [hnat, hchunk] at hint
    have hlen := congrArg List.length hint
    rw [Memory.read_length, region_single, length_iovec_region, length_writtenFor] at hlen
    dsimp only at hlen
    rw [hlen, hseq] at hint
    exact hint

end FirstBuffer

section Reader

variable {env : ReadEnv} {c : Cqe} {cs : List Cqe} {sub : Submitted} {p : PayloadId}
  {b : BufferPayload}

theorem step_read (hd : s.sys.down = false) (hcq : s.sys.loop.ring.cq = c :: cs)
    (hl : s.sys.loop.registry.liveSlot (toInt c.userData) =
      some (sub.registration.slot (toInt c.userData))) :
    s.sys.step (.read env) =
      (readLive env s.sys.loop (toInt c.userData) (sub.registration.slot (toInt c.userData))
        sub.registration.future c).map (s.sys.consume c) := by
  obtain ⟨future, hf, hread⟩ := readCqe_of_live env hl
  obtain rfl : sub.registration.future = future := Option.some.inj hf
  unfold System.step System.stepRead
  rw [hd, if_neg (by simp), hcq]
  dsimp only
  rw [hread]
  cases readLive env s.sys.loop (toInt c.userData) (sub.registration.slot (toInt c.userData))
    sub.registration.future c with
  | error e => rfl
  | ok l => rfl

theorem not_fixed_of_selects (h : b.Selects) : b.mode ≠ .fixed := by
  intro hm
  rcases h with hs | hs
  · exact absurd (hm.symm.trans hs) (by simp)
  · exact absurd (hm.symm.trans hs) (by simp)

theorem not_ownVector_of_selects (h : b.Selects) : ¬ OwnVector b := by
  intro hv
  rcases h with hs | hs
  · exact absurd (hv.1.symm.trans hs) (by simp)
  · exact absurd (hv.1.symm.trans hs) (by simp)

/-- The slot of a linear operation that reads into a context. -/
theorem Inv.selectingSlot (h : s.Inv) (hm : sub ∈ s.sys.subs) {i : Int}
    (hl : s.sys.loop.registry.liveSlot i = some (sub.registration.slot i))
    (hop : sub.registration.opcode.linear = true) (hp : sub.registration.bufferPayload = some p)
    (hb : s.sys.loop.heap.payloads[p]? = some b) (hs : b.Selects) :
    ∃ linear, b.linear = some linear ∧
      SelectingSlot s.sys.loop (sub.registration.slot i) b linear := by
  have hparts := h.parts.live i _ hl
  have hnames := h.base.objects.names sub hm
  unfold RequestSlot.Parts PartsFor at hparts
  have hfind : ∀ {P : BufferPayload → Prop},
      s.sys.loop.heap.Has (sub.registration.slot i).bufferPayload P → P b := by
    rintro P ⟨q, b', hq, hb', hP⟩
    obtain rfl := Option.some.inj (hp.symm.trans hq)
    obtain rfl := Option.some.inj (hb.symm.trans hb')
    exact hP
  have hready : b.LinearReady ∧
      (sub.registration.opcode = .recvmsg → sub.registration.streamStrategy = .oneshot) := by
    cases hopc : sub.registration.opcode with
    | read | recv =>
      rw [show (sub.registration.slot i).opcode = _ from hopc] at hparts
      exact ⟨hfind hparts, fun he => absurd he (by simp)⟩
    | recvmsg =>
      rw [show (sub.registration.slot i).opcode = _ from hopc] at hparts
      rcases hfind hparts with ⟨hr, hone⟩ | hv
      · exact ⟨hr, fun _ => hone⟩
      · exact absurd hv (not_ownVector_of_selects hs)
    | _ =>
      rw [hopc] at hop
      exact absurd hop (by simp [Opcode.linear])
  obtain ⟨linear, hlin⟩ := Option.isSome_iff_exists.mp hready.1.linear
  refine ⟨linear, hlin, ⟨p, hp, hb⟩, not_fixed_of_selects hs, hready.1.payloadType, hlin,
    fun he => ?_, hready.2⟩
  unfold Registration.NamesObject at hnames
  rw [show sub.registration.opcode = .recv from he] at hnames
  exact hnames

theorem given_of_callLog {sys t : System} {calls : List (FutureId × FutureCall)}
    (h : t.loop.callLog = sys.loop.callLog ++ calls) :
    System.given sys t = System.givenBy calls := by
  unfold System.given
  rw [h, List.drop_left]

/-- A CQE of `readv` stops the reader. -/
theorem Inv.readv_stops (h : s.Inv) (hm : sub ∈ s.sys.subs)
    (hl : s.sys.loop.registry.liveSlot (toInt c.userData) =
      some (sub.registration.slot (toInt c.userData))) (he : env.result = true)
    (hop : sub.registration.opcode = .readv) (hp : sub.registration.bufferPayload = some p)
    (hb : s.sys.loop.heap.payloads[p]? = some b) (hs : b.Selects) (hres : 0 ≤ c.res) :
    ∃ e, readLive env s.sys.loop (toInt c.userData) (sub.registration.slot (toInt c.userData))
      sub.registration.future c = .error e := by
  have hnot : ¬ ∃ x, complete env s.sys.loop (toInt c.userData)
      (sub.registration.slot (toInt c.userData)) c = .ok x := by
    rw [complete_defined h.parts.formed (h.parts.live _ _ hl) (h.base.objects.socket sub hm)]
    unfold RequestSlot.FindsParts
    rw [show (sub.registration.slot (toInt c.userData)).opcode = .readv from hop]
    exact fun hn => hn he ⟨p, b, hp, hb, hs⟩
  unfold readLive
  rw [if_neg (fun hn => absurd hn.1 (Int.not_lt.mpr hres)),
    if_neg (ne_wakeupFdTag_of_live hl)]
  cases hc : complete env s.sys.loop (toInt c.userData)
    (sub.registration.slot (toInt c.userData)) c with
  | error e => exact ⟨e, rfl⟩
  | ok x => exact absurd ⟨x, hc⟩ hnot

/-- A CQE of a linear operation. -/
theorem Inv.linear_delivers_iff (h : s.Inv) (hd : s.sys.down = false)
    (hcq : s.sys.loop.ring.cq = c :: cs) (hsub : holder s.sys.subs (toInt c.userData) = some sub)
    (hl : s.sys.loop.registry.liveSlot (toInt c.userData) =
      some (sub.registration.slot (toInt c.userData))) (he : env.result = true)
    (hop : sub.registration.opcode.linear = true) (hp : sub.registration.bufferPayload = some p)
    (hb : s.sys.loop.heap.payloads[p]? = some b) (hs : b.Selects) (hres : 0 ≤ c.res) :
    (∃ t, s.sys.step (.read env) = .ok t ∧ s.Delivered c t) ↔
      (sub.registration.opcode = .read →
        ∀ b, s.sys.firstBuffer sub = some b → b.buffer ≠ .null) ∧ s.FirstFilled c sub := by
  have hm := (mem_of_holder hsub).1
  obtain ⟨linear, hlin, hslot⟩ := h.selectingSlot hm hl hop hp hb hs
  have hfirst : s.sys.firstBuffer sub = some linear := by
    unfold System.firstBuffer
    rw [hp, Option.bind_some, hb, Option.bind_some, hlin]
  have hposted : s.sys.posted[s.sys.seen.length]? = some c := by
    unfold System.posted
    rw [hcq, List.getElem?_append_right (by simp)]
    simp
  have hiff := h.firstFilled_iff hposted hm (h.fills sub hm hop p b linear hp hb hs hlin) hfirst
    hres
  obtain ⟨l1, h1, hlog⟩ : ∃ l1, readLive env s.sys.loop (toInt c.userData)
      (sub.registration.slot (toInt c.userData)) sub.registration.future c = .ok l1 ∧
      l1.callLog = s.sys.loop.callLog ++
        (linearResult (sub.registration.slot (toInt c.userData)) linear c.res).toList.map fun v =>
          (sub.registration.future, .setResult v) :=
    readLive_selecting hslot hop he (h.base.registry.sound.valid_of_live hl) hl
      (h.base.slotFits hl) (ne_wakeupFdTag_of_live hl) hres
  have hgiven : System.given s.sys (s.sys.consume c l1) = System.givenBy
      ((linearResult (sub.registration.slot (toInt c.userData)) linear c.res).toList.map fun v =>
        (sub.registration.future, .setResult v)) := given_of_callLog hlog
  have hreach : (∃ t, s.sys.step (.read env) = .ok t ∧ s.Delivered c t) ↔
      s.Delivered c (s.sys.consume c l1) := by
    rw [step_read hd hcq hl, h1]
    simp [Except.map]
  rw [hreach]
  unfold Delivered
  rw [hgiven, hsub]
  unfold linearResult
  by_cases hnull : (sub.registration.slot (toInt c.userData)).opcode = .read ∧
      linear.buffer = .null
  · rw [if_pos hnull]
    exact ⟨False.elim, fun hx => hx.1 hnull.1 linear hfirst hnull.2⟩
  · rw [if_neg hnull]
    have hok : sub.registration.opcode = .read →
        ∀ b, s.sys.firstBuffer sub = some b → b.buffer ≠ .null := by
      intro hr b hb hn
      obtain rfl := Option.some.inj (hfirst.symm.trans hb)
      exact hnull ⟨hr, hn⟩
    rw [and_iff_right hok, ← hiff]
    dsimp only [Option.toList_some, List.map_singleton, System.givenBy]
    rw [and_iff_right rfl]
    by_cases hz : (sub.registration.slot (toInt c.userData)).opcode = .recv ∧ c.res = 0
    · rw [if_pos hz, hz.2, Int.toNat_zero, region_zero]
      rfl
    · rw [if_neg hz]

theorem Inv.delivers_iff (h : s.Inv) : s.Delivers a ↔ s.ReadsFirst a := by
  unfold Delivers ReadsFirst
  refine imp_congr_right fun hd => ?_
  obtain ⟨act, other⟩ := a
  cases act with
  | read env =>
    refine imp_congr_right fun he => forall_congr' fun x => imp_congr_right fun hn =>
      imp_congr_right fun hsel => ?_
    obtain ⟨c, slot⟩ := x
    obtain ⟨cs, hcq, hl⟩ := System.nextSlot_eq_some.mp hn
    obtain ⟨sub, hsub, rfl⟩ := h.base.registry.holder _ _ hl
    obtain ⟨hres, hop, p, b, hp, hb, hs⟩ := hsel
    have hone : (∀ x, holder s.sys.subs (toInt c.userData) = some x →
          (sub.registration.opcode = .read →
            ∀ b, s.sys.firstBuffer x = some b → b.buffer ≠ .null) ∧ s.FirstFilled c x) ↔
        (sub.registration.opcode = .read →
          ∀ b, s.sys.firstBuffer sub = some b → b.buffer ≠ .null) ∧ s.FirstFilled c sub := by
      constructor
      · exact fun hx => hx sub hsub
      · intro hx y hy
        obtain rfl := Option.some.inj (hsub.symm.trans hy)
        exact hx
    rcases hop with hop | hop
    · rw [h.linear_delivers_iff hd hcq hsub hl he hop hp hb hs hres]
      refine (and_iff_right ?_).symm.trans (and_congr_right fun _ => hone.symm)
      intro hv
      have hv' : sub.registration.opcode = .readv := hv
      rw [show (sub.registration.slot (toInt c.userData)).opcode = _ from hv'] at hop
      exact absurd hop (by simp [Opcode.linear])
    · constructor
      · rintro ⟨t, ht, -⟩
        obtain ⟨e, hstop⟩ :=
          h.readv_stops (mem_of_holder hsub).1 hl he hop hp hb hs hres
        rw [step_read hd hcq hl, hstop] at ht
        exact absurd ht (by simp [Except.map])
      · exact fun hx => absurd hop hx.1
  | _ => exact Iff.rfl

end Reader

/-! ## All runs -/

/-- In every run of a new loop, the futures of the operations that read into a PROVIDED or
    BUF_RING context get what the kernel wrote for them exactly when each of their CQEs is one
    of the request in its slot, is not one of `readv`, and has its bytes still in the first
    buffer of the context. -/
theorem delivered_iff {registrySize : Nat} {setup : SignalSetup} {wakeupFd submit : Int}
    (h : registrySize < 2 ^ 32) (acts : List (Act × List Iovec)) :
    Lib.Meets step Delivers (init (uringioLoopInit registrySize setup wakeupFd submit)) acts ↔
      Lib.Meets step ReadsFirst (init (uringioLoopInit registrySize setup wakeupFd submit))
        acts := by
  refine Lib.Meets.congr (fun s => s.sys.down = false → s.Inv) (fun s a t hi _ hs hd => ?_)
    (fun s a hi => ?_) fun _ => init_inv h
  · exact (hi (System.down_of_step (step_sys hs))).step hs hd
  · cases hd : s.sys.down with
    | true =>
      unfold Delivers ReadsFirst
      rw [hd]
      exact ⟨fun _ hn => absurd hn (by simp), fun _ hn => absurd hn (by simp)⟩
    | false => exact (hi hd).delivers_iff

instance (h : Heap) (payload : Option PayloadId) (P : BufferPayload → Prop) [DecidablePred P] :
    Decidable (h.Has payload P) :=
  decidable_of_iff (∃ p ∈ payload, ∃ b ∈ h.payloads[p]?, P b) (by
    unfold Heap.Has
    constructor
    · rintro ⟨p, hp, b, hb, hP⟩
      exact ⟨p, b, hp, hb, hP⟩
    · rintro ⟨p, b, hp, hb, hP⟩
      exact ⟨p, hp, b, hb, hP⟩)

instance (s : Store) (x : Cqe × RequestSlot) : Decidable (s.Selecting x) := by
  unfold Selecting
  infer_instance

instance (s : Store) (c : Cqe) (t : System) : Decidable (s.Delivered c t) := by
  unfold Delivered
  split
  · infer_instance
  · infer_instance

instance (s : Store) (a : Act × List Iovec) : Decidable (s.Delivers a) := by
  unfold Delivers
  split
  · infer_instance
  · infer_instance

/-- A file in a PROVIDED context of two buffers. -/
def providedFile : List Act :=
  [.call (.open 0 (.ok "f") 0 0 0 none) .ok, .post 1 5 0, .read .ok,
    .newBuffers .provided false (some [⟨.mem 512, 16⟩, ⟨.mem 1024, 16⟩]) 7 0,
    .enterBuffers 0 true 1]

/-- A socket in such a context. -/
def providedSocket : List Act :=
  [.call (.prepSocket 2 1 none) .ok, .post 1 5 0, .read .ok,
    .newBuffers .provided false (some [⟨.mem 512, 16⟩, ⟨.mem 1024, 16⟩]) 7 0,
    .enterBuffers 0 true 1]

/-- The kernel takes the first buffer for a read, or the second one. -/
def readSelected (bid : Nat) : List Act :=
  providedFile ++ [.call (.read 0 0 16 none) .ok, .post 3 16 (bid <<< 16 ||| 1), .read .ok]

/-- Two `recvfrom` in flight at once: both name the first buffer. -/
def recvfromTwice : List Act :=
  providedSocket ++ [.call (.recvfrom 0 16 false (some (none, 7, 2)) false none) .ok,
    .call (.recvfrom 0 16 false (some (none, 7, 2)) false none) .ok,
    .post 3 16 0, .post 4 16 0, .read .ok]

/-- A `readv` that selects a buffer. -/
def readvSelected : List Act :=
  providedFile ++ [.call (.readv 0 false 0 false none) .ok, .post 3 16 1, .read .ok]

/-- The second of two buffers, the first of two datagrams, and the buffer of a `readv` do not
    reach the future. -/
theorem selected_lost :
    ¬ Lib.Meets step Delivers (init (uringioLoopInit 2 .failed 3 1))
        ((readSelected 1).map fun a => (a, [])) ∧
    ¬ Lib.Meets step Delivers (init (uringioLoopInit 2 .failed 3 1))
        (recvfromTwice.map fun a => (a, [])) ∧
    ¬ Lib.Meets step Delivers (init (uringioLoopInit 2 .failed 3 1))
        (readvSelected.map fun a => (a, [])) := by
  decide +kernel

theorem delivered_iff_first :
    Lib.Meets step Delivers (init (uringioLoopInit 2 .failed 3 1))
        ((readSelected 0).map fun a => (a, [])) ∧
    Lib.Meets step ReadsFirst (init (uringioLoopInit 2 .failed 3 1))
        ((readSelected 0).map fun a => (a, [])) := by
  have hd : Lib.Meets step Delivers (init (uringioLoopInit 2 .failed 3 1))
      ((readSelected 0).map fun a => (a, [])) := by
    decide +kernel
  exact ⟨hd, (delivered_iff (by decide) _).mp hd⟩

end Store

end Uringio
