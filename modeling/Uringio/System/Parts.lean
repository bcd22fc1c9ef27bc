/-
  Submission and completion agree on the payload.

  Every payload keeps its linear buffer for ever, one that serves linear operations goes on
  doing so, and a pool stays (`Heap.KeepsParts`). So a slot that had the parts for its branch
  of the reader when it was registered has them when its CQE comes (`PartsInv`). Three
  combinations were never matched: a zero-copy `sendmsg`, whose payload has no pool; a
  `readv` in a PROVIDED or BUF_RING context, whose payload has no vector; and a multishot
  `recvmsg`, whose payload has no linear buffer.
-/
import Uringio.PyOps.Parts
import Uringio.Reader.Results
import Uringio.System.Reachable

namespace Uringio

/-! ## What stays of a payload -/

structure BufferPayload.KeepsParts (b b' : BufferPayload) : Prop where
  mode : b'.mode = b.mode
  linear : b'.linear = b.linear
  payloadType : b.payloadType = .payloadLinear → b'.payloadType = .payloadLinear
  own : b.mode = .normalBuf → b'.payloadType = b.payloadType ∧ b'.vector = b.vector ∧
    b'.idxRegistry = b.idxRegistry
  pool : b.idxRegistry.isSome → b'.idxRegistry.isSome
  formed : b.Formed → b'.Formed

/-- Every payload keeps its parts, and the new ones are formed. -/
structure Heap.KeepsParts (h h' : Heap) : Prop where
  kept : ∀ (p : PayloadId) b, h.payloads[p]? = some b →
    ∃ b', h'.payloads[p]? = some b' ∧ b.KeepsParts b'
  fresh : ∀ (p : PayloadId) b, h.payloads.length ≤ p → h'.payloads[p]? = some b → b.Formed

namespace BufferPayload.KeepsParts

variable {b b' b'' : BufferPayload}

theorem refl (b : BufferPayload) : b.KeepsParts b :=
  ⟨rfl, rfl, id, fun _ => ⟨rfl, rfl, rfl⟩, id, id⟩

theorem trans (h : b.KeepsParts b') (h' : b'.KeepsParts b'') : b.KeepsParts b'' := by
  refine ⟨h'.mode.trans h.mode, h'.linear.trans h.linear, h'.payloadType ∘ h.payloadType,
    fun hm => ?_, h'.pool ∘ h.pool, h'.formed ∘ h.formed⟩
  obtain ⟨ht, hv, hi⟩ := h.own hm
  obtain ⟨ht', hv', hi'⟩ := h'.own (h.mode.trans hm)
  exact ⟨ht'.trans ht, hv'.trans hv, hi'.trans hi⟩

theorem release (b : BufferPayload) (force : Bool) : b.KeepsParts (b.release force) := by
  refine ⟨by simp, by simp, by simp, by simp, by simp, fun h => ⟨?_, ?_, ?_⟩⟩
  · simpa using h.pool
  · simpa [Selects] using h.vector
  · simpa using h.iovec

/-- A registered buffer was taken or given back. -/
theorem put_pool {reg : FixedBufferIdxRegistry} {i : Int} (hm : b.mode = .fixed) :
    b.KeepsParts { b with idxRegistry := some reg, bufIdx := i } := by
  refine ⟨rfl, rfl, id, fun h => ?_, fun _ => rfl, fun h => ⟨fun _ _ => rfl, h.vector, h.iovec⟩⟩
  rw [hm] at h
  exact absurd h (by simp)

theorem linearReady (h : b.KeepsParts b') (hr : b.LinearReady) : b'.LinearReady := by
  refine ⟨h.payloadType hr.payloadType, h.linear ▸ hr.linear, fun hm => ?_⟩
  exact h.pool (hr.pool (h.mode ▸ hm))

theorem ownVector (h : b.KeepsParts b') (hv : OwnVector b) : OwnVector b' := by
  obtain ⟨ht, hvec, hi⟩ := h.own hv.1
  refine ⟨h.mode.trans hv.1, ⟨ht.trans hv.2.1.1, h.linear.trans hv.2.1.2.1, ?_⟩, hi.trans hv.2.2⟩
  rw [hvec]
  exact hv.2.1.2.2

theorem selects (h : b.KeepsParts b') (hs : b.Selects) : b'.Selects := by
  unfold Selects
  rw [h.mode]
  exact hs

end BufferPayload.KeepsParts

namespace Heap

variable {h h' h'' : Heap} {p : PayloadId} {b b' : BufferPayload}

theorem KeepsParts.of_payloads (he : h'.payloads = h.payloads) : h.KeepsParts h' := by
  refine ⟨fun p b hb => ⟨b, by rw [he, hb], .refl b⟩, fun p b hp hb => ?_⟩
  rw [he] at hb
  exact absurd (List.getElem?_eq_some_iff.mp hb).1 (Nat.not_lt.mpr hp)

theorem KeepsParts.trans (hk : h.KeepsParts h') (hk' : h'.KeepsParts h'') :
    h.KeepsParts h'' := by
  refine ⟨fun p b hb => ?_, fun p b hp hb => ?_⟩
  · obtain ⟨b', hb', he⟩ := hk.kept p b hb
    obtain ⟨b'', hb'', he'⟩ := hk'.kept p b' hb'
    exact ⟨b'', hb'', he.trans he'⟩
  · cases hm : h'.payloads[p]? with
    | none => exact hk'.fresh p b (List.getElem?_eq_none_iff.mp hm) hb
    | some c =>
      obtain ⟨b', hb', he⟩ := hk'.kept p c hm
      obtain rfl := Option.some.inj (hb.symm.trans hb')
      exact he.formed (hk.fresh p c hp hm)

/-- New payloads were made. -/
theorem KeepsParts.append {new : List BufferPayload} (he : h'.payloads = h.payloads ++ new)
    (hn : ∀ b ∈ new, b.Formed) : h.KeepsParts h' := by
  refine ⟨fun p b hb => ⟨b, ?_, .refl b⟩, fun p b hp hb => ?_⟩
  · rw [he, List.getElem?_append_left (List.getElem?_eq_some_iff.mp hb).1, hb]
  · rw [he, List.getElem?_append_right hp] at hb
    exact hn b (List.mem_of_getElem? hb)

/-- One payload was changed. -/
theorem KeepsParts.put (hb : h.payloads[p]? = some b) (hk : b.KeepsParts b') :
    h.KeepsParts (h.put p b') := by
  have hlt := (List.getElem?_eq_some_iff.mp hb).1
  refine ⟨fun q c hc => ?_, fun q c hq hc => ?_⟩
  · by_cases hq : p = q
    · subst hq
      obtain rfl := Option.some.inj (hb.symm.trans hc)
      exact ⟨b', by simp [Heap.put, hlt], hk⟩
    · exact ⟨c, by simp [Heap.put, hq, hc], .refl c⟩
  · have hlen := (List.getElem?_eq_some_iff.mp hc).1
    simp only [Heap.put, List.length_set] at hlen
    exact absurd hlen (Nat.not_lt.mpr hq)

theorem KeepsParts.release (payload : Option PayloadId) (force : Bool) :
    h.KeepsParts (freeBufferPayload h payload force) := by
  cases payload with
  | none => exact .of_payloads rfl
  | some p =>
    cases hb : h.payloads[p]? with
    | none =>
      refine .of_payloads ?_
      exact modify_eq_self fun x hx => by
        rw [hb] at hx
        exact absurd hx (by simp)
    | some b =>
      have hset : (freeBufferPayload h (some p) force).payloads =
          (h.put p (b.release force)).payloads := modify_eq_set_of_some hb
      exact (KeepsParts.put hb (.release b force)).trans (.of_payloads hset)

theorem KeepsParts.returned (slot : RequestSlot) : h.KeepsParts (Uringio.returned h slot) := by
  unfold Uringio.returned returnIndex
  split
  · cases slot.bufferPayload with
    | none => exact .of_payloads rfl
    | some p =>
      dsimp only
      cases hb : h.payloads[p]? with
      | none => exact .of_payloads rfl
      | some b =>
        dsimp only
        by_cases hm : b.mode = .fixed
        · rw [if_pos hm]
          cases b.idxRegistry with
          | none => exact .of_payloads rfl
          | some reg => exact .put hb (.put_pool hm)
        · rw [if_neg hm]
          exact .of_payloads rfl
  · exact .of_payloads rfl

theorem KeepsParts.dispatch {call : OpCall} {l : Loop} {g : Grown} {req : Request} {op : COp}
    (hd : DispatchPart call l g req) (hx : req.dispatch (l.grow g).heap = .ok (op, h)) :
    (l.grow g).heap.KeepsParts h := by
  cases hd with
  | plain hp _ => exact .of_payloads (by rw [(hp op h hx).1])
  | fixed _ _ _ hf =>
    obtain ⟨b, reg, hb, hm, -, rfl, -, -⟩ := hf op h hx
    exact .put hb (.put_pool hm)

/-- The payloads that an operation makes are formed. -/
theorem KeepsParts.grow {call : OpCall} {l : Loop} {g : Grown} {req : Request}
    (hp : Prepared call l g req) : l.heap.KeepsParts (l.grow g).heap := by
  refine .append rfl fun b hb => ?_
  have huse : ∀ {user : Bool} {shape : BufferPayload → Prop} {p : PayloadId},
      PayloadUse l g user shape p → b.Formed := by
    intro user shape p hu
    cases hu with
    | own _ hg ho _ =>
      rw [hg, List.mem_singleton] at hb
      exact hb ▸ BufferPayload.formed_of_normalBuf ho.mode
    | context _ hg _ =>
      rw [hg] at hb
      exact absurd hb List.not_mem_nil
  cases hp.payload with
  | none hg _ _ _ =>
    rw [hg] at hb
    exact absurd hb List.not_mem_nil
  | registered _ _ _ hu | kept _ _ _ hu => exact huse hu

theorem KeepsParts.all (hk : h.KeepsParts h') (hf : h.Formed) : h'.Formed := by
  intro p b hb
  cases hc : h.payloads[p]? with
  | none => exact hk.fresh p b (List.getElem?_eq_none_iff.mp hc) hb
  | some c =>
    obtain ⟨b', hb', he⟩ := hk.kept p c hc
    obtain rfl := Option.some.inj (hb.symm.trans hb')
    exact he.formed (hf p c hc)

theorem KeepsParts.has {payload : Option PayloadId} {P Q : BufferPayload → Prop}
    (hk : h.KeepsParts h') (hpq : ∀ b b', b.KeepsParts b' → P b → Q b')
    (hh : h.Has payload P) : h'.Has payload Q := by
  obtain ⟨p, b, hp, hb, hP⟩ := hh
  obtain ⟨b', hb', he⟩ := hk.kept p b hb
  exact ⟨p, b', hp, hb', hpq b b' he hP⟩

/-- The parts for the reader stay. -/
theorem KeepsParts.partsFor (hk : h.KeepsParts h') {opcode : Opcode} {stream : StreamStrategy}
    {payload : Option PayloadId} (hp : PartsFor opcode stream payload h) :
    PartsFor opcode stream payload h' := by
  unfold PartsFor at hp ⊢
  split at hp
  · exact hk.has (fun _ _ he => he.linearReady) hp
  · exact hk.has (fun _ _ he => he.linearReady) hp
  · exact hk.has (fun _ _ he => Or.imp he.ownVector he.selects) hp
  · exact hk.has (fun _ _ he => Or.imp (And.imp he.linearReady id) he.ownVector) hp
  · exact hk.has (fun _ _ he hm => he.mode.trans hm) hp
  · exact hp.imp id (hk.has fun _ _ he hm => he.mode.trans hm)
  · exact hp.imp id (hk.has fun _ _ he hm => he.mode.trans hm)
  · trivial

end Heap

/-! ## The branches of the reader -/

/-- The branch of the slot finds the parts that it reads. -/
def RequestSlot.FindsParts (slot : RequestSlot) (env : ReadEnv) (heap : Heap) : Prop :=
  match slot.opcode with
  | .readv => env.result = true → ¬ heap.Has slot.bufferPayload BufferPayload.Selects
  | .recvmsg => slot.streamStrategy ≠ .multishot
  | _ => True

section Branches

variable {env : ReadEnv} {l : Loop} {index : Int} {slot : RequestSlot} {c : Cqe}
  {p : PayloadId} {b : BufferPayload}

theorem releaseFixed_ok (h : b.mode = .fixed → b.idxRegistry.isSome) :
    ∃ l1, releaseFixed l p b = .ok l1 := by
  unfold releaseFixed
  by_cases hm : b.mode = .fixed
  · obtain ⟨reg, hreg⟩ := Option.isSome_iff_exists.mp (h hm)
    rw [if_pos hm, hreg]
    exact ⟨_, rfl⟩
  · rw [if_neg hm]
    exact ⟨_, rfl⟩

theorem completeRead_defined (h : l.heap.Has slot.bufferPayload BufferPayload.LinearReady) :
    ∃ x, completeRead env l index slot c = .ok x := by
  obtain ⟨p, b, hp, hb, hr⟩ := h
  obtain ⟨linear, hl⟩ := linearOf_isSome hr.linear
  obtain ⟨l1, h1⟩ := releaseFixed_ok (l := l) (p := p) hr.pool
  unfold completeRead
  rw [slotPayload_of_some hp hb]
  simp only [bind, Except.bind, pure, Except.pure, hl, h1]
  exact ⟨_, rfl⟩

/-- A selected buffer is not one of a vector. -/
theorem completeReadv_defined (hf : l.heap.Formed)
    (h : l.heap.Has slot.bufferPayload fun b => OwnVector b ∨ b.Selects) :
    (∃ x, completeReadv env l index slot c = .ok x) ↔
      (env.result = true → ¬ l.heap.Has slot.bufferPayload BufferPayload.Selects) := by
  obtain ⟨p, b, hp, hb, hr⟩ := h
  have hsel : l.heap.Has slot.bufferPayload BufferPayload.Selects ↔ b.Selects := by
    constructor
    · rintro ⟨q, b', hq, hb', hs⟩
      obtain rfl := Option.some.inj (hp.symm.trans hq)
      obtain rfl := Option.some.inj (hb.symm.trans hb')
      exact hs
    · exact fun hs => ⟨p, b, hp, hb, hs⟩
  rw [hsel]
  unfold completeReadv bytesOfVector
  rw [slotPayload_of_some hp hb]
  cases env.result with
  | false => simp [bind, Except.bind, pure, Except.pure]
  | true =>
    rcases hr with hv | hs
    · obtain ⟨vector, hvec⟩ := vectorOf_isSome hv.2.1.2.2
      have hn : ¬ b.Selects := by
        rintro (hm | hm)
        · exact absurd (hv.1.symm.trans hm) (by simp)
        · exact absurd (hv.1.symm.trans hm) (by simp)
      simp [bind, Except.bind, pure, Except.pure, hvec, hn]
    · have hvec : vectorOf b = .error .segv := by
        unfold vectorOf
        rw [(hf p b hb).vector hs]
      simp [bind, Except.bind, hvec, hs]

theorem completeWrite_defined (h : l.heap.Has slot.bufferPayload fun b => b.mode = .normalBuf) :
    ∃ x, completeWrite env l index slot c = .ok x := by
  obtain ⟨p, b, hp, hb, hm⟩ := h
  unfold completeWrite
  rw [slotPayload_of_some hp hb]
  simp only [bind, Except.bind, pure, Except.pure, releaseFixed_of_normal hm]
  exact ⟨_, rfl⟩

theorem completeRecv_defined (h : l.heap.Has slot.bufferPayload BufferPayload.LinearReady) :
    ∃ x, completeRecv env l index slot c = .ok x := by
  obtain ⟨p, b, hp, hb, hr⟩ := h
  obtain ⟨linear, hl⟩ := linearOf_isSome hr.linear
  obtain ⟨l1, h1⟩ := releaseFixed_ok (l := l) (p := p) hr.pool
  unfold completeRecv
  split
  · rw [slotPayload_of_some hp hb]
    simp only [bind, Except.bind, pure, Except.pure, hl, h1]
    split
    · exact ⟨_, rfl⟩
    · exact ⟨_, rfl⟩
  · exact ⟨_, rfl⟩

/-- The multishot branch reads a linear buffer that no payload of `recvmsg` has. -/
theorem completeRecvmsg_defined
    (h : l.heap.Has slot.bufferPayload fun b =>
      b.LinearReady ∧ slot.streamStrategy = .oneshot ∨ OwnVector b) :
    (∃ x, completeRecvmsg env l index slot c = .ok x) ↔ slot.streamStrategy ≠ .multishot := by
  obtain ⟨p, b, hp, hb, hr⟩ := h
  have hpool : b.mode = .fixed → b.idxRegistry.isSome := by
    intro hm
    rcases hr with ⟨hr, -⟩ | hv
    · exact hr.pool hm
    · exact absurd (hv.1.symm.trans hm) (by simp)
  obtain ⟨l1, h1⟩ := releaseFixed_ok (l := l) (p := p) hpool
  unfold completeRecvmsg
  rw [slotPayload_of_some hp hb]
  simp only [bind, Except.bind, pure, Except.pure, h1]
  rcases hr with ⟨hr, hone⟩ | hv
  · obtain ⟨linear, hl⟩ := linearOf_isSome hr.linear
    simp [hone, hr.payloadType, hl]
  · cases hst : slot.streamStrategy with
    | oneshot =>
      obtain ⟨vector, hvec⟩ := vectorOf_isSome hv.2.1.2.2
      cases hres : env.result with
      | true => simp [hv.2.1.1, bytesOfVector, hvec, hres, bind, Except.bind, pure, Except.pure]
      | false => simp [hv.2.1.1, bytesOfVector, hres]
    | multishot =>
      have hl : linearOf b = .error .segv := by
        unfold linearOf
        rw [hv.2.1.2.1]
      simp [completeRecvmsgMultishot, hl, bind, Except.bind]

theorem completeSend_defined
    (h : slot.bufferPayload = none ∨
      l.heap.Has slot.bufferPayload fun b => b.mode = .normalBuf) :
    ∃ x, completeSend env l index slot c = .ok x := by
  unfold completeSend
  rcases h with hn | ⟨p, b, hp, hb, hm⟩
  · rw [hn]
    exact ⟨_, rfl⟩
  · rw [hp]
    simp only [bind, Except.bind, pure, Except.pure, payloadAt_of_some hb,
      releaseFixed_of_normal hm]
    exact ⟨_, rfl⟩

/-- The branch of a slot with its parts is defined exactly when it finds them. -/
theorem complete_defined (hf : l.heap.Formed) (hp : slot.Parts l.heap)
    (hs : ∀ id, slot.socket = some id → id < l.sockets.length) :
    (∃ x, complete env l index slot c = .ok x) ↔ slot.FindsParts env l.heap := by
  unfold RequestSlot.Parts PartsFor at hp
  unfold complete RequestSlot.FindsParts
  cases hop : slot.opcode with
  | read =>
    rw [hop] at hp
    exact ⟨fun _ => trivial, fun _ => completeRead_defined hp⟩
  | readv =>
    rw [hop] at hp
    exact completeReadv_defined hf hp
  | write =>
    rw [hop] at hp
    exact ⟨fun _ => trivial, fun _ => completeWrite_defined hp⟩
  | recv =>
    rw [hop] at hp
    exact ⟨fun _ => trivial, fun _ => completeRecv_defined hp⟩
  | recvmsg =>
    rw [hop] at hp
    exact completeRecvmsg_defined hp
  | send | sendmsg =>
    rw [hop] at hp
    exact ⟨fun _ => trivial, fun _ => completeSend_defined hp⟩
  | accept =>
    refine ⟨fun _ => trivial, fun _ => ?_⟩
    dsimp only
    unfold completeAccept
    cases hsock : slot.socket with
    | none => exact ⟨_, rfl⟩
    | some sock =>
      simp only [List.getElem?_eq_getElem (hs sock hsock)]
      split
      · exact ⟨_, rfl⟩
      · exact ⟨_, rfl⟩
  | writev =>
    refine ⟨fun _ => trivial, fun _ => ?_⟩
    dsimp only
    unfold completeWritev
    split
    · exact ⟨_, rfl⟩
    · exact ⟨_, rfl⟩
  | openat2 =>
    refine ⟨fun _ => trivial, fun _ => ?_⟩
    dsimp only
    unfold completeOpenat2
    split
    · exact ⟨_, rfl⟩
    · exact ⟨_, rfl⟩
  | socket =>
    refine ⟨fun _ => trivial, fun _ => ?_⟩
    dsimp only
    unfold completeSocket
    split
    · exact ⟨_, rfl⟩
    · exact ⟨_, rfl⟩
  | bind | connect | listen =>
    refine ⟨fun _ => trivial, fun _ => ?_⟩
    dsimp only
    unfold completeSocketNumber
    split
    · exact ⟨_, rfl⟩
    · exact ⟨_, rfl⟩
  | close =>
    refine ⟨fun _ => trivial, fun _ => ?_⟩
    dsimp only
    unfold completeClose
    split
    · exact ⟨_, rfl⟩
    · exact ⟨_, rfl⟩
    · exact ⟨_, rfl⟩
  | timeout | nop | fsync | splice | other _ => exact ⟨fun _ => trivial, fun _ => ⟨_, rfl⟩⟩

end Branches

end Uringio
