/-
  The indices of the registered buffers of a FIXED context, over the runs inside of it.

  Entering the context makes every index free. An operation that takes one holds it until
  its CQE was consumed. The reader gives back the index that the payload holds, and the
  payload is shared by every operation of the context. So the free and the held indices stay
  `0 .. n-1` exactly as long as the CQE of a fixed operation finds its slot and its index in
  the payload and is no error, as no other operation of the context comes to a branch that
  gives an index back while one is held, and as no call takes an index that it does not submit
  or submits without having one (`FixedStep`).
-/
import Uringio.System.Lifetimes
import Uringio.System.Pools

namespace Uringio

/-- The request was given a registered buffer of the payload. -/
def Submitted.Draws (p : PayloadId) (sub : Submitted) : Prop :=
  sub.registration.bufferPayload = some p ∧ sub.op.bufIndex.isSome = true

instance (p : PayloadId) (sub : Submitted) : Decidable (sub.Draws p) :=
  inferInstanceAs (Decidable (_ ∧ _))

namespace System

/-! ## Free and held indices -/

/-- The indices that `get_buffer_idx` can hand out. -/
def freeIndices (s : System) (p : PayloadId) : List Int :=
  (((s.loop.heap.core p).bind BufferPayload.idxRegistry).map FixedBufferIdxRegistry.free).getD []

/-- The operations in flight that were given a registered buffer. -/
def drawers (s : System) (p : PayloadId) : List Submitted :=
  s.subs.filter fun sub => decide (sub.Draws p ∧ s.Waiting sub)

def heldIndices (s : System) (p : PayloadId) : List Int :=
  (s.drawers p).filterMap fun sub => sub.op.bufIndex

/-- The index in the payload. -/
def bufIdx (s : System) (p : PayloadId) : Option Int :=
  (s.loop.heap.core p).map BufferPayload.bufIdx

/-! ## What is claimed of a step -/

/-- The call has filled an SQE with the registered buffer `i` of the payload, and it is in the
    queue or in flight. -/
def Names (s t : System) (p : PayloadId) (call : OpCall) (env : CallEnv) (i : Int) : Prop :=
  ∃ req l op heap, call.prepare env s.loop = .ok (.ok req, l) ∧
    req.registration.bufferPayload = some p ∧ req.dispatch l.heap = .ok (op, heap) ∧
    op.bufIndex = some i ∧ op.Fills s.loop.ring req.timeoutParams ∧
    requestEntry s.loop.ring (registryAdd s.loop.registry req.registration).1
      (op.linked req.timeoutParams) op.prep ∈ t.loop.ring.pending

/-- The index is given back by the CQE of the operation in flight that took it. -/
def GivenByTaker (s : System) (p : PayloadId) (i : Int) : Prop :=
  i ≠ -1 ∧ ∃ c, s.loop.ring.cq.head? = some c ∧
    ∃ sub ∈ s.drawers p, sub.seq = c.seq ∧ sub.op.bufIndex = some i ∧ s.Holds sub

/-- The free and the held indices are `0 .. n-1`, no SQE names the buffer -1, and an index is
    given back by the operation that took it. -/
structure Conserves (p : PayloadId) (n : Nat) (s : System) (a : Act) (t : System) : Prop where
  conserved : Lib.Conserved n (t.freeIndices p) (t.heldIndices p)
  named : ∀ call env, a = .call call env → ¬ s.Names t p call env (-1)
  given : ∀ env i, a = .read env → t.freeIndices p = s.freeIndices p ++ [i] → s.GivenByTaker p i

/-! ## When a step meets it -/

/-- The call comes to its submission as a read with the payload. -/
def draws (s : System) (p : PayloadId) (call : OpCall) (env : CallEnv) : Bool :=
  (s.submission call env).any fun r =>
    r.1.registration.bufferPayload == some p && call.opcode == .read

/-- A read takes an index only where its submission goes through, and takes none where the
    pool is empty only if there is no SQE for it. A CQE of an operation that holds an index
    finds the slot of the operation and its index in the payload, and is no error; any other
    CQE comes to no branch that gives an index of the payload back while one is held. The
    shutdown drains no CQE of an operation that holds an index. -/
def FixedStep (p : PayloadId) (s : System) (a : Act) : Prop :=
  match a with
  | .call call env => s.draws p call env = true →
      if s.freeIndices p = [] then ¬ s.loop.ring.HasRoom call.timeoutParams
      else s.loop.ring.HasRoom call.timeoutParams ∧ 0 ≤ env.submit
  | .read _ => ∀ c, s.loop.ring.cq.head? = some c →
      (∀ sub ∈ s.drawers p, sub.seq = c.seq →
        s.Holds sub ∧ 0 ≤ c.res ∧ s.bufIdx p = sub.op.bufIndex) ∧
      ((∀ sub ∈ s.drawers p, sub.seq ≠ c.seq) →
        ∀ slot, s.loop.registry.liveSlot (toInt c.userData) = some slot →
          slot.bufferPayload = some p → slot.opcode.returnsIndex = true → 0 ≤ c.res →
          s.drawers p = [])
  | .shutdown _ _ => ∀ sub ∈ s.drawers p, ∀ c ∈ s.loop.ring.cq, c.seq ≠ sub.seq
  | _ => True

instance (p : PayloadId) (s : System) (a : Act) : Decidable (s.FixedStep p a) := by
  apply Act.casesOn (motive := fun a => Decidable (s.FixedStep p a)) a <;> intros <;>
    dsimp only [FixedStep] <;> infer_instance

/-- Inside of the context: its payload has a pool of `n` indices, of which the free and the
    held ones are all. -/
structure InFixed (s : System) (p : PayloadId) (n : Nat) : Prop where
  base : s.Base
  pools : PoolInv s.loop.heap s.subs
  payload : ∃ b reg, s.loop.heap.core p = some b ∧ b.mode = .fixed ∧ b.idxRegistry = some reg ∧
    reg.WellFormed n
  conserved : Lib.Conserved n (s.freeIndices p) (s.heldIndices p)

/-! ## Counting -/

section Counting

variable {s t : System} {p : PayloadId} {n : Nat} {b : BufferPayload}
  {reg : FixedBufferIdxRegistry} {sub : Submitted}

theorem freeIndices_eq (hc : s.loop.heap.core p = some b) (hr : b.idxRegistry = some reg) :
    s.freeIndices p = reg.free := by
  unfold freeIndices
  rw [hc, Option.bind_some, hr]
  rfl

theorem freeIndices_congr (hc : t.loop.heap.core p = s.loop.heap.core p) :
    t.freeIndices p = s.freeIndices p := by
  unfold freeIndices
  rw [hc]

theorem mem_drawers : sub ∈ s.drawers p ↔ sub ∈ s.subs ∧ sub.Draws p ∧ s.Waiting sub := by
  unfold drawers
  rw [List.mem_filter, decide_eq_true_eq]

theorem drawers_congr (hsubs : t.subs = s.subs) (hseen : t.seen = s.seen) :
    t.drawers p = s.drawers p := by
  unfold drawers
  rw [hsubs]
  refine List.filter_congr fun sub _ => decide_eq_decide.mpr ?_
  unfold Waiting
  rw [hseen]

theorem heldIndices_congr (hd : t.drawers p = s.drawers p) :
    t.heldIndices p = s.heldIndices p := by
  unfold heldIndices
  rw [hd]

/-- Every operation that was given a buffer has an index. -/
theorem exists_index (hm : sub ∈ s.drawers p) : ∃ i, sub.op.bufIndex = some i :=
  Option.isSome_iff_exists.mp (mem_drawers.mp hm).2.1.2

theorem length_heldIndices : (s.heldIndices p).length = (s.drawers p).length :=
  List.filterMap_length_eq_length.mpr fun _ hm => (mem_drawers.mp hm).2.1.2

theorem InFixed.length (h : s.InFixed p n) :
    (s.freeIndices p).length + (s.drawers p).length = n := by
  rw [← length_heldIndices]
  exact h.conserved.length

/-- A held index is one of the pool. -/
theorem InFixed.index_ne (h : s.InFixed p n) {i : Int} (hm : sub ∈ s.drawers p)
    (hi : sub.op.bufIndex = some i) : i ≠ -1 := by
  have hr := h.conserved.mem_range (i := i) (.inr (List.mem_filterMap.mpr ⟨sub, hm, hi⟩))
  omega

end Counting

/-! ## Calls -/

section Steps

variable {s t : System} {a : Act} {p : PayloadId} {n : Nat}

/-- A step that leaves the free indices and the operations in flight as they are. -/
theorem InFixed.same (h : s.InFixed p n) (hfree : t.freeIndices p = s.freeIndices p)
    (hd : t.drawers p = s.drawers p)
    (hn : ∀ call env, a = .call call env → ¬ s.Names t p call env (-1)) :
    Conserves p n s a t := by
  refine ⟨?_, hn, fun env i _ hg => ?_⟩
  · rw [hfree, heldIndices_congr hd]
    exact h.conserved
  · rw [hfree] at hg
    exact absurd (congrArg List.length hg) (by simp)

/-- The SQE of a call is in the queue or in flight exactly where the queue had room. -/
theorem filled_pending_iff {op : COp} {r r' : Ring} {idx : Int} {t : TimeoutParams}
    {submit m : Int} (ho : r.Ordered) (ha : op.Accepts) (hlink : ∀ t, op.linked t = t)
    (hx : op.exec r idx t submit = (m, r')) :
    (op.Fills r t ∧ requestEntry r idx (op.linked t) op.prep ∈ r'.pending) ↔ r.HasRoom t := by
  have hold : requestEntry r idx (op.linked t) op.prep ∉ r.pending :=
    fun hm => Nat.lt_irrefl r.tail (ho.lt_tail hm)
  by_cases hm : m < 1
  · have hinflight := (COp.exec_rejected hx hm).1.inflight
    rw [← @Lifetime.filled_in_queue_iff op r idx t ha hlink]
    refine and_congr_right fun _ => ?_
    unfold Ring.pending
    rw [hinflight, op.queued_of_failed hx hm, List.mem_append]
    exact or_iff_right fun hin => hold (List.mem_append_left _ hin)
  · have hgoes : op.Goes r t submit := by
      rw [op.goes_iff r idx, hx]
      exact hm
    obtain ⟨-, hs, hroom, -⟩ := hgoes
    refine iff_of_true ⟨.inr (.inr ⟨ha, hroom⟩), ?_⟩ ⟨hs, hlink t ▸ hroom⟩
    unfold Ring.pending
    rw [(COp.exec_accepted hx hm).inflight]
    exact List.mem_append_left _ (List.mem_append_right _ (List.mem_cons_self ..))

theorem goes_iff_hasRoom {op : COp} {r : Ring} {t : TimeoutParams} {submit : Int}
    (ha : op.Accepts) (hlink : ∀ t, op.linked t = t) :
    op.Goes r t submit ↔ r.HasRoom t ∧ 0 ≤ submit := by
  unfold COp.Goes Ring.HasRoom
  rw [hlink]
  tauto

theorem draws_of_prepare {call : OpCall} {env : CallEnv} {req : Request} {l : Loop}
    (hprep : call.prepare env s.loop = .ok (.ok req, l)) (htop : ¬ s.loop.registry.top < 0) :
    s.draws p call env = true ↔
      req.registration.bufferPayload = some p ∧ call.opcode = .read := by
  unfold draws submission
  rw [if_neg htop, hprep]
  simp

/-- Only a call whose dispatcher names a buffer of the payload has an SQE with one. -/
theorem not_names_of_dispatch {call : OpCall} {env : CallEnv} {req : Request} {l : Loop}
    {i : Int} (hprep : call.prepare env s.loop = .ok (.ok req, l))
    (h : ∀ op heap, req.dispatch l.heap = .ok (op, heap) →
      req.registration.bufferPayload = some p → op.bufIndex ≠ some i) :
    ¬ s.Names t p call env i := by
  rintro ⟨req', l', op, heap, hprep', hp, hd, hi, -⟩
  obtain ⟨hreq, rfl⟩ := Prod.mk.inj (Except.ok.inj (hprep.symm.trans hprep'))
  obtain rfl := Except.ok.inj hreq
  exact h op heap hd hp hi

/-- The SQE of a call, where its dispatcher gives the buffer `i`. -/
theorem names_iff {call : OpCall} {env : CallEnv} {req : Request} {l : Loop} {op : COp}
    {heap : Heap} {i : Int} (hprep : call.prepare env s.loop = .ok (.ok req, l))
    (hp : req.registration.bufferPayload = some p) (hd : req.dispatch l.heap = .ok (op, heap))
    (hi : op.bufIndex = some i) :
    s.Names t p call env i ↔ op.Fills s.loop.ring req.timeoutParams ∧
      requestEntry s.loop.ring (registryAdd s.loop.registry req.registration).1
        (op.linked req.timeoutParams) op.prep ∈ t.loop.ring.pending := by
  constructor
  · rintro ⟨req', l', op', heap', hprep', -, hd', -, h⟩
    obtain ⟨hreq, rfl⟩ := Prod.mk.inj (Except.ok.inj (hprep.symm.trans hprep'))
    obtain rfl := Except.ok.inj hreq
    obtain ⟨rfl, rfl⟩ := Prod.mk.inj (Except.ok.inj (hd.symm.trans hd'))
    exact h
  · exact fun h => ⟨req, l, op, heap, hprep, hp, hd, hi, h⟩

/-- The SQE with the buffer that a read was given is in the queue or in flight exactly where
    the queue had room for it. -/
theorem names_iff_hasRoom (h : s.Base) {call : OpCall} {env : CallEnv} {g : Grown}
    {req : Request} {op : COp} {heap : Heap} {ring : Ring} {i m : Int}
    (hprep : call.prepare env s.loop = .ok (.ok req, s.loop.grow g))
    (hp : Prepared call s.loop g req) (hq : req.registration.bufferPayload = some p)
    (hd : req.dispatch (s.loop.grow g).heap = .ok (op, heap)) (hi : op.bufIndex = some i)
    (hx : op.exec s.loop.ring (registryAdd s.loop.registry req.registration).1
      req.timeoutParams env.submit = (m, ring)) (ht : t.loop.ring = ring) :
    s.Names t p call env i ↔ s.loop.ring.HasRoom call.timeoutParams := by
  obtain ⟨ha, hlink⟩ := COp.of_bufIndex hi
  rw [names_iff hprep hq hd hi, ht, filled_pending_iff h.ring.ordered ha hlink hx,
    Lifetime.timeoutParams_eq hp]

/-- What a call of an operation does: it gives up before its submission, or the submission
    ends in one of the three ways. -/
theorem call_cases {call : OpCall} {env : CallEnv} (h : s.Base)
    {r : Except (Option PyErr) Submitted × Loop} (hr : call.run env s.loop = .ok r) :
    (∃ x l1, call.prepare env s.loop = .ok (.error x, l1) ∧ Refused s.loop l1 ∧
      r = (.error x, l1)) ∨
    ∃ g req, call.prepare env s.loop = .ok (.ok req, s.loop.grow g) ∧
      Prepared call s.loop g req ∧ TailOutcome req env.submit (s.loop.grow g) r := by
  have hprep := call.prepare_spec h.heap.contextOk env
  rcases Lib.Program.bind_eq_ok hr with ⟨x, l1, hp, rfl⟩ | ⟨req, l1, hp, hs⟩
  · exact .inl ⟨x, l1, hp, hprep.failed rfl hp, rfl⟩
  · obtain ⟨g, rfl, hpre⟩ := hprep.returned rfl hp
    have hv : (s.loop.grow g).registry.Sound := h.registry.sound
    exact .inr ⟨g, req, hp, hpre, submitRequest_outcome hv hs⟩

/-- Taking a request back releases its payload. -/
theorem core_removed (h : s.Base) {request : Registration} {heap heap1 : Heap}
    {block : Option Block} {reg : RequestRegistry} (htop : ¬ s.loop.registry.top < 0)
    (hrem : registryRemove (registryAdd s.loop.registry request).2 (heap1.freeBlock block)
      (registryAdd s.loop.registry request).1 = .ok (reg, heap)) :
    heap.core p = heap1.core p := by
  have hvalid := h.registry.sound.valid_of_room htop
  obtain ⟨-, -, -, hpay⟩ := (h.registry.cleared.add hvalid request htop).remove hrem
  rw [Heap.core_of_payloads hpay, Heap.core_freeBufferPayload]
  exact Heap.core_of_payloads rfl

/-- The operations in flight after a request was accepted. -/
theorem drawers_accepted (h : s.Base) {sub : Submitted} {l : Loop}
    (hseq : sub.seq = s.loop.ring.tail) :
    (s.answer (.ok sub, l)).drawers p =
      if sub.Draws p then sub :: s.drawers p else s.drawers p := by
  have hw : (s.answer (.ok sub, l)).Waiting sub := h.waiting_of_tail hseq
  have hold : s.subs.filter
      (fun x => decide (x.Draws p ∧ (s.answer (.ok sub, l)).Waiting x)) = s.drawers p :=
    List.filter_congr fun x _ => decide_eq_decide.mpr Iff.rfl
  show (sub :: s.subs).filter _ = _
  rw [List.filter_cons, hold]
  by_cases hd : sub.Draws p
  · rw [if_pos hd, if_pos (decide_eq_true ⟨hd, hw⟩)]
  · rw [if_neg hd, if_neg (by simp [hd])]

/-- A call that is no read with the payload. -/
theorem InFixed.other_call (h : s.InFixed p n) {call : OpCall} {env : CallEnv} {g : Grown}
    {req : Request} {r : Except (Option PyErr) Submitted × Loop}
    (hprep : call.prepare env s.loop = .ok (.ok req, s.loop.grow g))
    (hp : Prepared call s.loop g req)
    (hn : ¬ (req.registration.bufferPayload = some p ∧ call.opcode = .read))
    (ho : TailOutcome req env.submit (s.loop.grow g) r) :
    Conserves p n s (.call call env) (s.answer r) := by
  obtain ⟨b, reg, hc, -⟩ := h.payload
  have hgrow : (s.loop.grow g).heap.core p = some b := Heap.core_append rfl hc
  have hnamed : ∀ c e, Act.call call env = .call c e →
      ¬ s.Names (s.answer r) p c e (-1) := by
    rintro c e ⟨⟩
    refine not_names_of_dispatch hprep fun op heap hd hq => ?_
    rw [(hp.dispatch.core_other hd hn).2 hq]
    simp
  cases ho with
  | full _ hh =>
    refine h.same (freeIndices_congr ?_) (drawers_congr rfl rfl) hnamed
    simp only [answer, withLoop]
    rw [Heap.core_of_payloads hh, Heap.core_freeBufferPayload, hgrow, hc]
  | @rejected op heap1 heap reg' ring m htop hd hx hm hrem =>
    refine h.same (freeIndices_congr ?_) (drawers_congr rfl rfl) hnamed
    simp only [answer, withLoop, Loop.setClosed_heap]
    have hrem' := core_removed (p := p) h.base htop hrem
    rw [hrem', (hp.dispatch.core_other hd hn).1, hgrow, hc]
  | @accepted op heap1 ring m htop hd hx hm =>
    obtain ⟨hcore, hidx⟩ := hp.dispatch.core_other hd hn
    refine h.same (freeIndices_congr ?_) ?_ hnamed
    · have hfree : (heap1.freeBlock req.freeAfter).core p = heap1.core p := rfl
      simp only [answer, withLoop, Loop.setClosed_heap]
      rw [hfree, hcore, hgrow, hc]
    · refine (drawers_accepted h.base rfl).trans (if_neg ?_)
      rintro ⟨hq, hsome⟩
      rw [hidx hq] at hsome
      exact absurd hsome (by simp)

/-- The registry is full: nothing is submitted. -/
theorem InFixed.full_call (h : s.InFixed p n) {call : OpCall} {env : CallEnv} {g : Grown}
    {req : Request} {e : Option PyErr} {heap : Heap} (htop : s.loop.registry.top < 0)
    (hh : heap.payloads = (freeBufferPayload (s.loop.grow g).heap req.payload false).payloads) :
    Conserves p n s (.call call env) (s.answer (.error e, { s.loop.grow g with heap := heap })) ∧
      FixedStep p s (.call call env) := by
  obtain ⟨b, reg, hc, -⟩ := h.payload
  have hgrow : (s.loop.grow g).heap.core p = some b := Heap.core_append rfl hc
  refine ⟨h.same (freeIndices_congr ?_) (drawers_congr rfl rfl) ?_, fun hd => ?_⟩
  · simp only [answer, withLoop]
    rw [Heap.core_of_payloads hh, Heap.core_freeBufferPayload, hgrow, hc]
  · rintro c e ⟨⟩ ⟨req', l', op, heap', hprep', -, -, -, -, hm⟩
    exact Nat.lt_irrefl s.loop.ring.tail (h.base.ring.ordered.lt_tail hm)
  · unfold draws submission at hd
    rw [if_pos htop] at hd
    exact absurd hd (by simp)

/-- A read with the payload that has come to the C layer, which returned `m`: the index that
    it was given has left the pool. -/
structure FixedRead (s : System) (p : PayloadId) (call : OpCall) (env : CallEnv)
    (reg : FixedBufferIdxRegistry) (m : Int) (t : System) : Prop where
  goes : ¬ m < 1 ↔ s.loop.ring.HasRoom call.timeoutParams ∧ 0 ≤ env.submit
  names : ∀ i, s.Names t p call env i ↔
    i = (getBufferIdx reg).1 ∧ s.loop.ring.HasRoom call.timeoutParams
  free : t.freeIndices p = (getBufferIdx reg).2.free

section FixedRead

variable {call : OpCall} {env : CallEnv} {reg : FixedBufferIdxRegistry} {m : Int}

/-- The C layer took the request back: no operation has the index. -/
theorem FixedRead.rejected_iff (hr : FixedRead s p call env reg m t) (h : s.InFixed p n)
    (hwf : reg.WellFormed n) (hfree : s.freeIndices p = reg.free) (hm : m < 1)
    (hd : t.drawers p = s.drawers p) :
    Conserves p n s (.call call env) t ↔
      if s.freeIndices p = [] then ¬ s.loop.ring.HasRoom call.timeoutParams
      else s.loop.ring.HasRoom call.timeoutParams ∧ 0 ≤ env.submit := by
  have hfree' := hr.free
  have hnames := hr.names (-1)
  by_cases hf : s.freeIndices p = []
  · -- The pool is empty: nothing is taken, and the SQE names the buffer -1.
    have hget := FixedBufferIdxRegistry.getBufferIdx_of_empty hwf (hfree ▸ hf)
    rw [hget] at hfree' hnames
    have hiff : s.Names t p call env (-1) ↔ s.loop.ring.HasRoom call.timeoutParams :=
      hnames.trans (and_iff_right rfl)
    rw [if_pos hf, ← hiff]
    refine ⟨fun hcon => hcon.named call env rfl, fun hn => ?_⟩
    refine h.same (hfree'.trans hfree.symm) hd ?_
    rintro c e ⟨⟩
    exact hn
  · obtain ⟨-, hpop⟩ := FixedBufferIdxRegistry.getBufferIdx_of_free hwf (hfree ▸ hf)
    rw [if_neg hf, ← hr.goes]
    refine iff_of_false (fun hcon => ?_) (fun hn => hn hm)
    have hlen := hcon.conserved.length
    have hlen' := h.length
    rw [length_heldIndices, hd, hfree'] at hlen
    rw [hfree, hpop, List.length_append, List.length_singleton] at hlen'
    omega

/-- The request was accepted, and has the index. -/
theorem FixedRead.accepted_iff (hr : FixedRead s p call env reg m t) (h : s.InFixed p n)
    (hwf : reg.WellFormed n) (hfree : s.freeIndices p = reg.free) (hm : ¬ m < 1)
    {sub : Submitted} (hi : sub.op.bufIndex = some (getBufferIdx reg).1)
    (hd : t.drawers p = sub :: s.drawers p) :
    Conserves p n s (.call call env) t ↔
      if s.freeIndices p = [] then ¬ s.loop.ring.HasRoom call.timeoutParams
      else s.loop.ring.HasRoom call.timeoutParams ∧ 0 ≤ env.submit := by
  have hgoes := hr.goes.mp hm
  have hfree' := hr.free
  by_cases hf : s.freeIndices p = []
  · have hget := FixedBufferIdxRegistry.getBufferIdx_of_empty hwf (hfree ▸ hf)
    rw [if_pos hf]
    refine iff_of_false (fun hcon => hcon.named call env rfl ?_) (fun hn => hn hgoes.1)
    rw [hr.names, hget]
    exact ⟨rfl, hgoes.1⟩
  · obtain ⟨-, hpop⟩ := FixedBufferIdxRegistry.getBufferIdx_of_free hwf (hfree ▸ hf)
    rw [if_neg hf]
    refine iff_of_true ⟨?_, ?_, fun env i he _ => absurd he (by simp)⟩ hgoes
    · have hcons := h.conserved
      rw [hfree, hpop] at hcons
      unfold heldIndices
      rw [hfree', hd, List.filterMap_cons, hi]
      exact hcons.take.congr List.perm_append_comm
    · rintro c e ⟨⟩ hn
      have hmem : (getBufferIdx reg).1 ∈ s.freeIndices p := by
        rw [hfree, hpop]
        exact List.mem_append_right _ (List.mem_singleton_self _)
      have hrange := h.conserved.mem_range (.inl hmem)
      have := ((hr.names (-1)).mp hn).1
      omega

end FixedRead

/-- A read with the payload that comes to its submission. -/
theorem InFixed.read_call_iff (h : s.InFixed p n) {call : OpCall} {env : CallEnv} {g : Grown}
    {req : Request} {r : Except (Option PyErr) Submitted × Loop}
    (hprep : call.prepare env s.loop = .ok (.ok req, s.loop.grow g))
    (hp : Prepared call s.loop g req) (hq : req.registration.bufferPayload = some p)
    (hop : call.opcode = .read) (htop : ¬ s.loop.registry.top < 0)
    (ho : TailOutcome req env.submit (s.loop.grow g) r) :
    Conserves p n s (.call call env) (s.answer r) ↔ FixedStep p s (.call call env) := by
  obtain ⟨b, reg, hc, hmode, hreg, hwf⟩ := h.payload
  have hgrow : (s.loop.grow g).heap.core p = some b := Heap.core_append rfl hc
  have hfree := freeIndices_eq hc hreg
  have hguard : FixedStep p s (.call call env) ↔
      if s.freeIndices p = [] then ¬ s.loop.ring.HasRoom call.timeoutParams
      else s.loop.ring.HasRoom call.timeoutParams ∧ 0 ≤ env.submit :=
    ⟨fun hg => hg ((draws_of_prepare hprep htop).mpr ⟨hq, hop⟩), fun hg _ => hg⟩
  -- What the dispatcher gives, and what the C layer makes of it.
  have hread : ∀ {op : COp} {heap1 : Heap} {ring : Ring} {m : Int} {t : System},
      req.dispatch (s.loop.grow g).heap = .ok (op, heap1) →
      op.exec s.loop.ring (registryAdd s.loop.registry req.registration).1 req.timeoutParams
        env.submit = (m, ring) → t.loop.ring = ring → t.loop.heap.core p = heap1.core p →
      op.bufIndex = some (getBufferIdx reg).1 ∧ FixedRead s p call env reg m t := by
    intro op heap1 ring m t hd hx hring hheap
    obtain ⟨reg', hreg', hi, hcore⟩ := hp.dispatch.core_read hd hgrow hmode hq hop
    obtain rfl := Option.some.inj (hreg.symm.trans hreg')
    obtain ⟨ha, hlink⟩ := COp.of_bufIndex hi
    refine ⟨hi, ?_, fun i => ?_, freeIndices_eq (hheap.trans hcore) rfl⟩
    · rw [← Lifetime.timeoutParams_eq hp, ← goes_iff_hasRoom ha hlink,
        op.goes_iff _ (registryAdd s.loop.registry req.registration).1, hx]
    · by_cases he : i = (getBufferIdx reg).1
      · subst he
        rw [names_iff_hasRoom h.base hprep hp hq hd hi hx hring]
        exact (and_iff_right rfl).symm
      · refine iff_of_false (not_names_of_dispatch hprep fun op' heap' hd' _ hi' => he ?_)
          (fun hn => he hn.1)
        obtain ⟨rfl, -⟩ := Prod.mk.inj (Except.ok.inj (hd.symm.trans hd'))
        exact Option.some.inj (hi'.symm.trans hi)
  rw [hguard]
  cases ho with
  | full htop' _ => exact absurd htop' htop
  | @rejected op heap1 heap reg' ring m _ hd hx hm hrem =>
    generalize ht : s.answer _ = t
    have hring : t.loop.ring = ring := by
      rw [← ht]
      simp only [answer, withLoop, Loop.setClosed_ring]
    have hheap : t.loop.heap.core p = heap1.core p := by
      rw [← ht]
      simp only [answer, withLoop, Loop.setClosed_heap]
      exact core_removed h.base htop hrem
    have hdrawers : t.drawers p = s.drawers p := by
      rw [← ht]
      exact drawers_congr rfl rfl
    exact (hread hd hx hring hheap).2.rejected_iff h hwf hfree hm hdrawers
  | @accepted op heap1 ring m _ hd hx hm =>
    generalize ht : s.answer _ = t
    have hring : t.loop.ring = ring := by
      rw [← ht]
      simp only [answer, withLoop, Loop.setClosed_ring]
    have hheap : t.loop.heap.core p = heap1.core p := by
      rw [← ht]
      simp only [answer, withLoop, Loop.setClosed_heap]
      rfl
    obtain ⟨hi, hfixed⟩ := hread hd hx hring hheap
    have hdrawers : ∃ sub : Submitted, sub.op = op ∧ t.drawers p = sub :: s.drawers p := by
      rw [← ht]
      refine ⟨_, rfl, (drawers_accepted h.base rfl).trans (if_pos ⟨hq, ?_⟩)⟩
      rw [hi]
      rfl
    obtain ⟨sub, rfl, hdrawers⟩ := hdrawers
    exact hfixed.accepted_iff h hwf hfree hm hi hdrawers

/-- A call of an operation. -/
theorem InFixed.call_iff (h : s.InFixed p n) {call : OpCall} {env : CallEnv}
    {r : Except (Option PyErr) Submitted × Loop} (hr : call.run env s.loop = .ok r) :
    Conserves p n s (.call call env) (s.answer r) ↔ FixedStep p s (.call call env) := by
  rcases call_cases h.base hr with ⟨x, l1, hprep, href, rfl⟩ | ⟨g, req, hprep, hp, ho⟩
  · obtain ⟨b, reg, hc, -⟩ := h.payload
    obtain ⟨g, rfl, -⟩ := href
    have hgrow : (s.loop.grow g).heap.core p = some b := Heap.core_append rfl hc
    refine iff_of_true (h.same (freeIndices_congr ?_) (drawers_congr rfl rfl) ?_) fun hd => ?_
    · exact hgrow.trans hc.symm
    · rintro c e ⟨⟩ ⟨req, l', op, heap, hprep', -⟩
      exact absurd (hprep.symm.trans hprep') (by simp)
    · unfold draws submission at hd
      rw [hprep] at hd
      split at hd
      · exact absurd hd (by simp)
      · exact absurd hd (by simp)
  · by_cases htop : s.loop.registry.top < 0
    · cases ho with
      | full _ hh =>
        obtain ⟨hcon, hg⟩ := h.full_call htop hh
        exact iff_of_true hcon hg
      | rejected htop' _ _ _ _ => exact absurd htop htop'
      | accepted htop' _ _ _ => exact absurd htop htop'
    · by_cases hn : req.registration.bufferPayload = some p ∧ call.opcode = .read
      · exact h.read_call_iff hprep hp hn.1 hn.2 htop ho
      · refine iff_of_true (h.other_call hprep hp hn ho) fun hd => ?_
        exact absurd ((draws_of_prepare hprep htop).mp hd) hn

/-! ## CQEs -/

/-- The CQE comes to a branch that gives back the index in the payload. -/
def GivesBack (s : System) (p : PayloadId) (c : Cqe) : Prop :=
  ∃ slot, s.loop.registry.liveSlot (toInt c.userData) = some slot ∧
    slot.bufferPayload = some p ∧ slot.opcode.returnsIndex = true ∧ 0 ≤ c.res

/-- What a consumed CQE does to the requests, the CQEs and the payload. -/
theorem read_effect (h : s.InFixed p n) {env : ReadEnv} {b : BufferPayload}
    {reg : FixedBufferIdxRegistry} (hc : s.loop.heap.core p = some b) (hm : b.mode = .fixed)
    (hr : b.idxRegistry = some reg) (hs : s.step (.read env) = .ok t) :
    ∃ c cs, s.loop.ring.cq = c :: cs ∧ t.subs = s.subs ∧ t.seen = c :: s.seen ∧
      (s.GivesBack p c → t.loop.heap.core p = some (b.giveBack reg)) ∧
      (¬ s.GivesBack p c → t.loop.heap.core p = some b) := by
  obtain ⟨hd, -⟩ := step_cases h.base hs
  unfold step stepRead at hs
  rw [hd] at hs
  simp only [Bool.false_eq_true, if_false] at hs
  split at hs
  · exact absurd hs (by simp)
  · rename_i c cs hcq
    split at hs
    · exact absurd hs (by simp)
    · rename_i l1 hread
      obtain rfl := Except.ok.inj hs
      refine ⟨c, cs, hcq, rfl, rfl, ?_⟩
      cases hl : s.loop.registry.liveSlot (toInt c.userData) with
      | none =>
        rw [readCqe_of_dead hl] at hread
        obtain rfl := Except.ok.inj hread
        refine ⟨fun hg => ?_, fun _ => hc⟩
        obtain ⟨slot, hslot, -⟩ := hg
        exact absurd (hl.symm.trans hslot) (by simp)
      | some slot =>
        have hgives : s.GivesBack p c ↔ slot.bufferPayload = some p ∧
            slot.opcode.returnsIndex = true ∧ 0 ≤ c.res := by
          constructor
          · rintro ⟨slot', hslot', hg⟩
            obtain rfl := Option.some.inj (hl.symm.trans hslot')
            exact hg
          · exact fun hg => ⟨slot, hl, hg⟩
        rw [hgives]
        obtain ⟨future, -, he⟩ := readCqe_of_live env hl
        rw [he] at hread
        rcases readLive_handled (h.base.registry.sound.valid_of_live hl) hl (h.base.slotFits hl)
          (ne_wakeupFdTag_of_live hl) hread with hh | ⟨-, hop, rfl⟩
        · have hcore : l1.heap.core p =
              (if 0 ≤ c.res then returned s.loop.heap slot else s.loop.heap).core p := by
            rw [Heap.core_of_payloads hh.payloads, Heap.core_freeBufferPayload]
          have hret := core_returned hc hm hr slot
          simp only [withLoop]
          rw [hcore]
          constructor
          · rintro ⟨hp, hop, hres⟩
            rw [if_pos hres, hret, if_pos ⟨hop, hp⟩]
          · intro hn
            by_cases hres : 0 ≤ c.res
            · rw [if_pos hres, hret, if_neg fun hg => hn ⟨hg.2, hg.1, hres⟩]
            · rw [if_neg hres, hc]
        · refine ⟨fun hg => ?_, fun _ => hc⟩
          rw [hop] at hg
          exact absurd hg.2.1 (by simp [Opcode.returnsIndex])

/-- The operations in flight after a CQE was consumed. -/
theorem drawers_consumed {c : Cqe} (hsubs : t.subs = s.subs) (hseen : t.seen = c :: s.seen) :
    t.drawers p = (s.drawers p).filter fun sub => decide (sub.seq ≠ c.seq) := by
  unfold drawers
  rw [hsubs, List.filter_filter]
  refine List.filter_congr fun sub _ => ?_
  rw [← Bool.decide_and]
  refine decide_eq_decide.mpr ?_
  unfold Waiting
  rw [hseen, List.forall_mem_cons]
  constructor
  · exact fun ⟨hd, hc, hw⟩ => ⟨fun e => hc e.symm, hd, hw⟩
  · exact fun ⟨hc, hd, hw⟩ => ⟨hd, fun e => hc e.symm, hw⟩

theorem drawers_consumed_other {c : Cqe} (hsubs : t.subs = s.subs) (hseen : t.seen = c :: s.seen)
    (hn : ∀ sub ∈ s.drawers p, sub.seq ≠ c.seq) : t.drawers p = s.drawers p := by
  rw [drawers_consumed hsubs hseen, List.filter_eq_self]
  exact fun sub hm => decide_eq_true (hn sub hm)

/-- The operation of the CQE is in flight no more. -/
theorem drawers_consumed_own (h : s.Base) {c : Cqe} {sub : Submitted} (hsubs : t.subs = s.subs)
    (hseen : t.seen = c :: s.seen) (hm : sub ∈ s.drawers p) (hseq : sub.seq = c.seq) :
    (s.drawers p).Perm (sub :: t.drawers p) := by
  have hnodup : (s.drawers p).Nodup := (List.Nodup.of_map _ h.ring.seqs).filter _
  have herase : t.drawers p = (s.drawers p).erase sub := by
    rw [drawers_consumed hsubs hseen, hnodup.erase_eq_filter]
    refine List.filter_congr fun x hx => ?_
    rw [Bool.eq_iff_iff, decide_eq_true_eq, bne_iff_ne]
    refine not_congr ⟨fun e => ?_, fun e => e ▸ hseq⟩
    exact h.eq_of_seq (mem_drawers.mp hx).1 (mem_drawers.mp hm).1 (e.trans hseq.symm)
  rw [herase]
  exact List.perm_cons_erase hm

theorem heldIndices_consumed {sub : Submitted} {i : Int} (hi : sub.op.bufIndex = some i)
    (hperm : (s.drawers p).Perm (sub :: t.drawers p)) :
    (s.heldIndices p).Perm (i :: t.heldIndices p) := by
  have hmap := hperm.filterMap fun x => x.op.bufIndex
  rw [List.filterMap_cons, hi] at hmap
  exact hmap

/-- The free indices after the index in the payload was given back. -/
theorem InFixed.freeIndices_givenBack (h : s.InFixed p n) {b : BufferPayload}
    {reg : FixedBufferIdxRegistry} (hc : s.loop.heap.core p = some b)
    (hr : b.idxRegistry = some reg) (hwf : reg.WellFormed n)
    (ht : t.loop.heap.core p = some (b.giveBack reg)) :
    t.freeIndices p =
      if s.drawers p = [] then s.freeIndices p else s.freeIndices p ++ [b.bufIdx] := by
  have hlen := h.length
  rw [freeIndices_eq hc hr] at hlen ⊢
  rw [freeIndices_eq ht rfl]
  by_cases hd : s.drawers p = []
  · rw [if_pos hd]
    rw [hd, List.length_nil] at hlen
    rw [FixedBufferIdxRegistry.releaseBufferIdx_of_full hwf hlen]
  · rw [if_neg hd]
    have hpos := List.length_pos_of_ne_nil hd
    exact (FixedBufferIdxRegistry.releaseBufferIdx_of_room hwf (by omega) b.bufIdx).2

/-- The CQE of an operation that holds an index. -/
theorem InFixed.own_cqe_iff (h : s.InFixed p n) {env : ReadEnv} {c : Cqe} {cs : List Cqe}
    {b : BufferPayload} {reg : FixedBufferIdxRegistry} (hc : s.loop.heap.core p = some b)
    (hr : b.idxRegistry = some reg) (hwf : reg.WellFormed n) (hcq : s.loop.ring.cq = c :: cs)
    (hsubs : t.subs = s.subs) (hseen : t.seen = c :: s.seen)
    (hgives : s.GivesBack p c → t.loop.heap.core p = some (b.giveBack reg))
    (hkeeps : ¬ s.GivesBack p c → t.loop.heap.core p = some b) {sub : Submitted}
    (hm : sub ∈ s.drawers p) (hseq : sub.seq = c.seq) :
    Conserves p n s (.read env) t ↔
      s.Holds sub ∧ 0 ≤ c.res ∧ s.bufIdx p = sub.op.bufIndex := by
  obtain ⟨i, hi⟩ := exists_index hm
  have hperm := drawers_consumed_own h.base hsubs hseen hm hseq
  have hheld := heldIndices_consumed hi hperm
  have hbuf : s.bufIdx p = some b.bufIdx := by
    unfold bufIdx
    rw [hc]
    rfl
  have hne : s.drawers p ≠ [] := List.ne_nil_of_mem hm
  have hback := fun hg => (h.freeIndices_givenBack hc hr hwf (hgives hg)).trans (if_neg hne)
  rw [hbuf, hi]
  constructor
  · intro hcon
    -- One operation less holds an index, so one was given back.
    have hg : s.GivesBack p c := by
      by_contra hn
      have hlen := hcon.conserved.length
      have hlen' := h.conserved.length
      have hcore : t.freeIndices p = s.freeIndices p :=
        freeIndices_congr ((hkeeps hn).trans hc.symm)
      rw [hcore] at hlen
      rw [hheld.length_eq, List.length_cons] at hlen'
      omega
    obtain ⟨-, c', hc', sub', hm', hseq', hi', hholds⟩ := hcon.given env b.bufIdx rfl (hback hg)
    rw [hcq] at hc'
    obtain rfl : c = c' := Option.some.inj hc'
    obtain rfl : sub' = sub := h.base.eq_of_seq (mem_drawers.mp hm').1 (mem_drawers.mp hm).1
      (hseq'.trans hseq.symm)
    exact ⟨hholds, hg.choose_spec.2.2.2, hi'.symm.trans hi⟩
  · rintro ⟨hholds, hres, hidx⟩
    obtain rfl : b.bufIdx = i := Option.some.inj hidx
    have hsub := (mem_drawers.mp hm).1
    have hdec : toInt c.userData = sub.index :=
      h.base.decode (Base.mem_posted_of_cq (hcq ▸ List.mem_cons_self ..)) hsub hseq
    have hdraws := (mem_drawers.mp hm).2.1
    have hg : s.GivesBack p c := by
      refine ⟨sub.registration.slot sub.index, hdec.symm ▸ hholds, hdraws.1, ?_, hres⟩
      show sub.registration.opcode.returnsIndex = true
      rw [(h.pools.reads sub hsub hdraws.2).1]
      rfl
    refine ⟨?_, fun call env he => absurd he (by simp), fun env j _ hj => ?_⟩
    · rw [hback hg]
      exact h.conserved.give hheld
    · rw [hback hg] at hj
      obtain rfl : b.bufIdx = j := List.singleton_inj.mp (List.append_cancel_left hj)
      refine ⟨h.index_ne hm hi, c, ?_, sub, hm, hseq, hi, hholds⟩
      rw [hcq]
      rfl

/-- A CQE of anything else. -/
theorem InFixed.other_cqe_iff (h : s.InFixed p n) {env : ReadEnv} {c : Cqe}
    {b : BufferPayload} {reg : FixedBufferIdxRegistry} (hc : s.loop.heap.core p = some b)
    (hr : b.idxRegistry = some reg) (hwf : reg.WellFormed n)
    (hsubs : t.subs = s.subs) (hseen : t.seen = c :: s.seen)
    (hgives : s.GivesBack p c → t.loop.heap.core p = some (b.giveBack reg))
    (hkeeps : ¬ s.GivesBack p c → t.loop.heap.core p = some b)
    (hn : ∀ sub ∈ s.drawers p, sub.seq ≠ c.seq) :
    Conserves p n s (.read env) t ↔ (s.GivesBack p c → s.drawers p = []) := by
  have hd := drawers_consumed_other hsubs hseen hn
  have hnamed : ∀ call env', Act.read env = .call call env' → ¬ s.Names t p call env' (-1) :=
    fun _ _ he => absurd he (by simp)
  by_cases hg : s.GivesBack p c
  · have hback := h.freeIndices_givenBack hc hr hwf (hgives hg)
    constructor
    · intro hcon _
      by_contra hne
      have hlen := hcon.conserved.length
      have hlen' := h.length
      rw [length_heldIndices, hd, hback, if_neg hne, List.length_append,
        List.length_singleton] at hlen
      omega
    · intro hnil
      exact h.same (hback.trans (if_pos (hnil hg))) hd hnamed
  · refine iff_of_true (h.same (freeIndices_congr ?_) hd hnamed) fun hg' => absurd hg' hg
    exact (hkeeps hg).trans hc.symm

/-- One iteration of the reader. -/
theorem InFixed.read_iff (h : s.InFixed p n) {env : ReadEnv} (hs : s.step (.read env) = .ok t) :
    Conserves p n s (.read env) t ↔ FixedStep p s (.read env) := by
  obtain ⟨b, reg, hc, hm, hr, hwf⟩ := h.payload
  obtain ⟨c, cs, hcq, hsubs, hseen, hgives, hkeeps⟩ := read_effect h hc hm hr hs
  have hhead : s.loop.ring.cq.head? = some c := by
    rw [hcq]
    rfl
  by_cases hown : ∃ sub ∈ s.drawers p, sub.seq = c.seq
  · obtain ⟨sub, hsub, hseq⟩ := hown
    rw [h.own_cqe_iff hc hr hwf hcq hsubs hseen hgives hkeeps hsub hseq]
    constructor
    · intro hok c' hc'
      obtain rfl := Option.some.inj (hhead.symm.trans hc')
      refine ⟨fun sub' hm' hseq' => ?_, fun hn => absurd hseq (hn sub hsub)⟩
      obtain rfl : sub' = sub := h.base.eq_of_seq (mem_drawers.mp hm').1 (mem_drawers.mp hsub).1
        (hseq'.trans hseq.symm)
      exact hok
    · exact fun hg => (hg c hhead).1 sub hsub hseq
  · have hn : ∀ sub ∈ s.drawers p, sub.seq ≠ c.seq := fun sub hsub e => hown ⟨sub, hsub, e⟩
    rw [h.other_cqe_iff hc hr hwf hsubs hseen hgives hkeeps hn]
    constructor
    · intro hok c' hc'
      obtain rfl := Option.some.inj (hhead.symm.trans hc')
      exact ⟨fun sub hsub e => absurd e (hn sub hsub),
        fun _ slot hl hp hop hres => hok ⟨slot, hl, hp, hop, hres⟩⟩
    · rintro hg ⟨slot, hl, hp, hop, hres⟩
      exact (hg c hhead).2 hn slot hl hp hop hres

/-! ## All steps -/

/-- The shutdown gives nothing back. -/
theorem InFixed.shutdown_iff (h : s.InFixed p n) {drained : List Drained} {submit : Int} {l : Loop}
    (hd : drained.map Drained.cqe = s.loop.ring.cq)
    (hg : gracefulShutdown s.loop drained submit = .ok l) :
    Conserves p n s (.shutdown drained submit)
        { s.withLoop l with
          seen := (drained.map Drained.cqe).reverse ++ s.seen, down := true } ↔
      FixedStep p s (.shutdown drained submit) := by
  generalize ht : ({ s.withLoop l with
    seen := (drained.map Drained.cqe).reverse ++ s.seen, down := true } : System) = t
  have hfree : t.freeIndices p = s.freeIndices p := by
    rw [← ht]
    exact freeIndices_congr (core_gracefulShutdown h.base.registry.cleared hg)
  have hdrawers : t.drawers p = (s.drawers p).filter fun sub =>
      decide (∀ c ∈ s.loop.ring.cq, c.seq ≠ sub.seq) := by
    rw [← ht]
    unfold drawers
    rw [List.filter_filter]
    refine List.filter_congr fun sub _ => ?_
    rw [← Bool.decide_and]
    refine decide_eq_decide.mpr ?_
    unfold Waiting
    simp only [hd, List.mem_append, List.mem_reverse, or_imp, forall_and]
    tauto
  have hnamed : ∀ call env, Act.shutdown drained submit = .call call env →
      ¬ s.Names t p call env (-1) := fun _ _ he => absurd he (by simp)
  constructor
  · intro hcon sub hm
    -- No operation was drained, since the free indices are as before.
    have hlen := hcon.conserved.length
    have hlen' := h.length
    rw [hfree, length_heldIndices, hdrawers] at hlen
    have hall := List.length_filter_eq_length_iff.mp
      (Nat.add_left_cancel (hlen.trans hlen'.symm))
    exact of_decide_eq_true (hall sub hm)
  · intro hok
    refine h.same hfree ?_ hnamed
    rw [hdrawers, List.filter_eq_self]
    exact fun sub hm => decide_eq_true (hok sub hm)

/-- A step that is no call, no CQE and no shutdown, inside of the context. -/
theorem InFixed.quiet_step (h : s.InFixed p n) (ha : a.quiet = true) (hx : a.exits p = false)
    {extra : List Flight} (hq : Quiet s a t extra) (hs : s.step a = .ok t) :
    Conserves p n s a t := by
  obtain ⟨b, reg, hc, hm, hr, -⟩ := h.payload
  obtain ⟨b', hc', hstep⟩ := (quiet_pools ha hs).old p b hc
  have hcore : t.loop.heap.core p = s.loop.heap.core p := by
    rw [hc', hc]
    cases hstep with
    | same => rfl
    | entered _ hv =>
      rw [h.pools.opened p b hc hm (by rw [hr]; rfl)] at hv
      exact absurd hv (by simp)
    | left he =>
      rw [he] at hx
      exact absurd hx (by simp [Act.exits])
    | taken he _ | returned he _ =>
      rw [he] at ha
      exact absurd ha (by simp [Act.quiet])
  refine h.same (freeIndices_congr hcore) (drawers_congr hq.subs hq.seen) ?_
  rintro call env rfl
  exact absurd ha (by simp [Act.quiet])

/-- A step inside of the context conserves the indices exactly when it is such a step. -/
theorem InFixed.step_iff (h : s.InFixed p n) (hx : a.exits p = false) (hs : s.step a = .ok t) :
    Conserves p n s a t ↔ FixedStep p s a := by
  obtain ⟨-, hst⟩ := step_cases h.base hs
  cases hst with
  | called hr _ => exact h.call_iff hr
  | posted _ =>
    refine iff_of_true (h.same (freeIndices_congr rfl) (drawers_congr rfl rfl) ?_) trivial
    exact fun _ _ he => absurd he (by simp)
  | dropped _ _ | skipped _ _ _ | handled _ _ _ _ _ => exact h.read_iff hs
  | quiet ha hq =>
    refine iff_of_true (h.quiet_step ha hx hq hs) ?_
    cases a with
    | call _ _ | read _ | shutdown _ _ => exact absurd ha (by simp [Act.quiet])
    | _ => trivial
  | shutdown hd hg => exact h.shutdown_iff hd hg

theorem InFixed.step (h : s.InFixed p n) (hx : a.exits p = false) (hs : s.step a = .ok t)
    (hd : t.down = false) (hcon : Conserves p n s a t) : t.InFixed p n := by
  obtain ⟨b, reg, hc, hm, hr, hwf⟩ := h.payload
  obtain ⟨-, hst⟩ := step_cases h.base hs
  refine ⟨h.base.step hs hd, poolInv_step h.pools h.base hs, ?_, hcon.conserved⟩
  obtain ⟨b', hc', hstep⟩ := (hst.pools h.base hs).old p b hc
  refine ⟨b', ?_⟩
  cases hstep with
  | same => exact ⟨reg, hc', hm, hr, hwf⟩
  | entered _ hv =>
    rw [h.pools.opened p b hc hm (by rw [hr]; rfl)] at hv
    exact absurd hv (by simp)
  | left he =>
    rw [he] at hx
    exact absurd hx (by simp [Act.exits])
  | taken _ hr' =>
    obtain rfl := Option.some.inj (hr.symm.trans hr')
    exact ⟨_, hc', hm, rfl, hwf.get⟩
  | returned _ hr' =>
    obtain rfl := Option.some.inj (hr.symm.trans hr')
    exact ⟨_, hc', hm, rfl, hwf.release _⟩

end Steps

/-! ## All runs -/

/-- The action enters the FIXED context of the payload, which registers its `n` buffers. -/
inductive EntersFixed (s : System) (p : PayloadId) (n : Nat) : Act → Prop
  | buffers {b : BufferPayload} {submit : Int} (hb : s.loop.heap.payloads[p]? = some b)
      (hm : b.mode = .fixed) (hn : b.amount = n) (hcontext : s.loop.context.isSome = true) :
      EntersFixed s p n (.enterBuffers p true submit)
  | context {b : BufferPayload} {stream : StreamStrategy} {transferMode : TransferMode}
      {submit : Int} (hb : s.loop.heap.payloads[p]? = some b) (hm : b.mode = .fixed)
      (hn : b.amount = n) : EntersFixed s p n (.enterContext p stream transferMode true submit)

section Runs

variable {s t : System} {a : Act} {p : PayloadId} {n : Nat}

/-- Nobody holds an index of a context that was not entered yet. -/
theorem drawers_eq_nil (h : PoolInv s.loop.heap s.subs) {b : BufferPayload}
    (hb : s.loop.heap.payloads[p]? = some b) (hm : b.mode = .fixed) (hv : b.vector.isSome = true) :
    s.drawers p = [] := by
  refine List.eq_nil_iff_forall_not_mem.mpr fun sub hsub => ?_
  obtain ⟨hmem, ⟨hp, hi⟩, -⟩ := mem_drawers.mp hsub
  obtain ⟨-, q, c, hq, hc, -, hr⟩ := h.reads sub hmem hi
  obtain rfl : p = q := Option.some.inj (hp.symm.trans hq)
  obtain rfl := Option.some.inj ((Heap.core_of_some hb).symm.trans hc)
  have hnone := h.opened p _ hc hm hr
  rw [BufferPayload.core_vector] at hnone
  rw [hnone] at hv
  exact absurd hv (by simp)

theorem openBuffers_fixed {l l1 : Loop} {context : ExecutionContext} {submit : Int}
    {b : BufferPayload} (hb : l.heap.payloads[p]? = some b) (hm : b.mode = .fixed)
    (h : openBuffers l context p true submit = .ok l1) :
    b.vector.isSome = true ∧
      l1 = { l with context := some context, heap := l.heap.put p b.entered } := by
  unfold openBuffers at h
  rw [hb] at h
  dsimp only at h
  split at h
  · split at h
    · exact absurd h (by simp)
    · rename_i vec hvec
      rw [hvec]
      simp only [Bool.not_true, Bool.false_eq_true, if_false] at h
      exact ⟨rfl, (Except.ok.inj h).symm⟩
  all_goals
    rename_i hm'
    exact absurd (hm.symm.trans hm') (by simp)

/-- What entering does. -/
theorem EntersFixed.cases (he : s.EntersFixed p n a) (hs : s.step a = .ok t) :
    ∃ b context, s.loop.heap.payloads[p]? = some b ∧ b.mode = .fixed ∧ b.amount = n ∧
      b.vector.isSome = true ∧ t = s.withLoop
        { s.loop with context := some context, heap := s.loop.heap.put p b.entered } := by
  have hd := down_of_step hs
  have hopen : ∀ {step : Loop → Except Stop Loop} {context : ExecutionContext} {submit : Int}
      {b : BufferPayload}, s.loop.heap.payloads[p]? = some b → b.mode = .fixed → b.amount = n →
      s.stepContext p step = .ok t → step s.loop = openBuffers s.loop context p true submit →
      ∃ b context, s.loop.heap.payloads[p]? = some b ∧ b.mode = .fixed ∧ b.amount = n ∧
        b.vector.isSome = true ∧ t = s.withLoop
          { s.loop with context := some context, heap := s.loop.heap.put p b.entered } := by
    intro step context submit b hb hm hn hs he
    unfold stepContext at hs
    rw [he] at hs
    split at hs
    · cases hl : openBuffers s.loop context p true submit with
      | error e =>
        rw [hl] at hs
        exact absurd hs (by simp [Except.map])
      | ok l =>
        obtain ⟨hv, rfl⟩ := openBuffers_fixed hb hm hl
        rw [hl] at hs
        exact ⟨b, context, hb, hm, hn, hv, (Except.ok.inj hs).symm⟩
    · exact absurd hs (by simp)
  unfold step at hs
  rw [hd, if_neg (by simp)] at hs
  cases he with
  | @buffers b submit hb hm hn hcontext =>
    obtain ⟨context, hc⟩ := Option.isSome_iff_exists.mp hcontext
    have henter : BufferModeCtx.enter s.loop p true submit = openBuffers s.loop
        { context with bufferMode := b.mode, bufferPayload := some p } p true submit := by
      unfold BufferModeCtx.enter
      rw [hc, hb]
    exact hopen hb hm hn hs henter
  | @context b stream transferMode submit hb hm hn =>
    have henter : ExecutionContextCtx.enter s.loop p stream transferMode true submit =
        openBuffers s.loop ⟨b.mode, stream, transferMode, some p⟩ p true submit := by
      unfold ExecutionContextCtx.enter
      rw [hb]
    exact hopen hb hm hn hs henter

/-- Entering the context makes every index free. -/
theorem EntersFixed.inFixed (he : s.EntersFixed p n a) (hb : s.Base)
    (h : PoolInv s.loop.heap s.subs) (hpos : 0 < n) (hsmall : n < 2 ^ 31)
    (hs : s.step a = .ok t) : t.InFixed p n := by
  have hd := down_of_step hs
  have hpool := poolInv_step h hb hs
  obtain ⟨b, context, hbp, hm, hn, hv, rfl⟩ := he.cases hs
  have hcore : (s.loop.heap.put p b.entered).core p = some b.entered.core :=
    Heap.core_put_self hbp
  have hamount : toUnsigned b.amount = n := by
    rw [hn]
    unfold toUnsigned
    omega
  have hreg : b.entered.core.idxRegistry = some (bufferIdxRegistryCreate n) := by
    show some (bufferIdxRegistryCreate (toUnsigned b.amount)) = _
    rw [hamount]
  refine ⟨hb.step hs hd, hpool, ⟨_, _, hcore, hm, hreg,
    FixedBufferIdxRegistry.create_wellFormed hpos hsmall⟩, ?_⟩
  have hnil := drawers_eq_nil h hbp hm hv
  have hdrawers : (s.withLoop { s.loop with
      context := some context, heap := s.loop.heap.put p b.entered }).drawers p = [] :=
    (drawers_congr rfl rfl).trans hnil
  unfold heldIndices
  rw [freeIndices_eq hcore hreg, hdrawers, FixedBufferIdxRegistry.create_free hpos hsmall]
  exact Lib.Conserved.initial n

/-- Inside of a FIXED context with `n` buffers, entered by any run of a new loop, every index
    is free at first, and every step of a run keeps the free and the held indices `0 .. n-1`
    exactly when every step is one of those of `FixedStep`. -/
theorem indices_conserved_iff {registrySize : Nat} {setup : SignalSetup} {wakeupFd submit : Int}
    (h : registrySize < 2 ^ 32) {before acts : List Act} {enter : Act} {u : System}
    (hbefore : (init (uringioLoopInit registrySize setup wakeupFd submit)).run before = .ok s)
    (he : s.EntersFixed p n enter) (hpos : 0 < n) (hsmall : n < 2 ^ 31)
    (henter : s.step enter = .ok t) (hinside : ∀ a ∈ acts, a.exits p = false)
    (hr : t.run acts = .ok u) :
    Lib.Conserved n (t.freeIndices p) (t.heldIndices p) ∧
      (Lib.Each step (Conserves p n) t acts ↔ Lib.Meets step (FixedStep p) t acts) := by
  have hd := down_of_step henter
  have hb := base_of_run (newLoop_base h) hbefore hd
  have hpool := poolInv_of_run (newLoop_base h) (init_poolInv rfl) hbefore hd
  have hfixed := he.inFixed hb hpool hpos hsmall henter
  refine ⟨hfixed.conserved, Lib.Meets.each_iff_of_run
    (fun v : System => v.down = false → v.InFixed p n) (fun v a w hv hx hs => ?_)
    (Lib.meets_of_forall hinside) hr fun _ => hfixed⟩
  have hin := hv (down_of_step hs)
  have hiff := hin.step_iff hx hs
  exact ⟨hiff, fun hg hdw => hin.step hx hs hdw (hiff.mpr hg)⟩

/-- An open File and a FIXED context with one buffer. -/
def fixedContext : List Act :=
  [.call (.open 0 (.ok "f") 0 0 0 none) .ok, .post 1 5 0, .read .ok,
    .newBuffers .fixed false (some [⟨.mem 512, 16⟩]) 0 0]

/-- A read with an error CQE. -/
def failedRead : List Act := [.call (.read 0 0 16 none) .ok, .post 2 (-5) 0, .read .ok]

/-- A read with a success CQE, and another one. -/
def twoReads : List Act :=
  [.call (.read 0 0 16 none) .ok, .post 2 16 0, .read .ok,
    .call (.read 0 0 16 none) .ok, .post 3 16 0, .read .ok]

/-- The index of a read that fails is never given back. -/
theorem failed_read_loses_index : ∃ t,
    (init (uringioLoopInit 2 .failed 3 1)).run (fixedContext ++ [.enterBuffers 0 true 1]) = .ok t ∧
      ¬ Lib.Each step (Conserves 0 1) t failedRead := by
  have hlost : ∃ t, (init (uringioLoopInit 2 .failed 3 1)).run
      (fixedContext ++ [.enterBuffers 0 true 1]) = .ok t ∧
        ¬ Lib.Each step (fun _ _ u => Lib.Conserved 1 (u.freeIndices 0) (u.heldIndices 0)) t
          failedRead := by
    decide +kernel
  obtain ⟨t, ht, hn⟩ := hlost
  exact ⟨t, ht, fun he => hn (he.mono fun _ _ _ hc => hc.conserved)⟩

theorem indices_conserved_iff_reads : ∃ s t,
    (init (uringioLoopInit 2 .failed 3 1)).run fixedContext = .ok s ∧
    s.step (.enterBuffers 0 true 1) = .ok t ∧
    Lib.Each step (Conserves 0 1) t twoReads ∧ Lib.Meets step (FixedStep 0) t twoReads := by
  have hfacts : ∃ s, (init (uringioLoopInit 2 .failed 3 1)).run fixedContext = .ok s ∧
      (s.loop.heap.payloads[0]?).any (fun b => b.mode == .fixed && b.amount == 1) = true ∧
      s.loop.context.isSome = true ∧ ∃ t, s.step (.enterBuffers 0 true 1) = .ok t ∧
        (∃ u, t.run twoReads = .ok u) ∧ Lib.Meets step (FixedStep 0) t twoReads := by
    decide +kernel
  obtain ⟨s, hs, hb, hc, t, ht, ⟨u, hu⟩, hg⟩ := hfacts
  obtain ⟨b, hb, hmn⟩ := (Option.any_eq_true _ _).mp hb
  rw [Bool.and_eq_true, beq_iff_eq, beq_iff_eq] at hmn
  exact ⟨s, t, hs, ht, (indices_conserved_iff (by decide) hs (.buffers hb hmn.1 hmn.2 hc)
    (by decide) (by decide) ht (by decide) hu).2.mpr hg, hg⟩

end Runs

end System

end Uringio
