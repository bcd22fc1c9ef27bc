/-
  The blocks of a request over its whole life.

  A `Lifetime` is a call with everything that becomes of its request: the call raises, or its
  CQEs are handled, each in any state of the loop in which its slot is still there. Every
  block should be freed once, or handed to the Socket of an accept, and not while an SQE that
  points at it can still reach the kernel (`Lifetime.Meets`).
-/
import Uringio.Reader.Blocks
import Uringio.System.Shapes

namespace Uringio

open Lib Program Noted

/-- One CQE that the reader handles. -/
structure Handling where
  env : ReadEnv
  before : Loop
  cqe : Cqe
  after : Loop

namespace Handling

def freed (h : Handling) : List Block := h.before.freedSince h.after

def handedOver (h : Handling) : List Block := h.before.handedSince h.after

/-- The CQE is one of the request: its slot is there, and whatever happened since the call
    kept the parts of every payload. -/
structure Of (h : Handling) (sub : Submitted) (heap : Heap) : Prop where
  valid : h.before.registry.Valid
  slot : h.before.registry.liveSlot sub.index = some (sub.registration.slot sub.index)
  kept : heap.KeepsParts h.before.heap
  decodes : toInt h.cqe.userData = sub.index
  read : readCqe h.env h.before h.cqe = .ok h.after

/-- The CQEs of one request, in order; each but the last leaves the slot. -/
def Chain (sub : Submitted) (heap : Heap) : List Handling → Prop
  | [] => True
  | h :: hs => h.Of sub heap ∧
      (hs ≠ [] → h.after.registry.liveSlot sub.index = some (sub.registration.slot sub.index)) ∧
      Chain sub heap hs

theorem Chain.of {sub : Submitted} {heap : Heap} {hs : List Handling} (hc : Chain sub heap hs) :
    ∀ h ∈ hs, h.Of sub heap := by
  induction hs with
  | nil => exact fun h hm => absurd hm List.not_mem_nil
  | cons h hs ih =>
    intro x hx
    rcases List.mem_cons.mp hx with rfl | hx
    · exact hc.1
    · exact ih hc.2.2 x hx

/-- Where every CQE removes the slot there is only one. -/
theorem Chain.single {sub : Submitted} {heap : Heap} {hs : List Handling}
    (hc : Chain sub heap hs) (hne : hs ≠ [])
    (hrem : ∀ h : Handling, h.Of sub heap → h.after.registry.liveSlot sub.index = none) :
    ∃ h, hs = [h] ∧ h.Of sub heap := by
  cases hs with
  | nil => exact absurd rfl hne
  | cons h hs =>
    cases hs with
    | nil => exact ⟨h, rfl, hc.1⟩
    | cons h' hs => exact absurd ((hrem h hc.1).symm.trans (hc.2.1 (by simp))) (by simp)

/-- The request has ended: the call raised, or its CQEs were handled. -/
def Ended (heap : Heap) (handled : List Handling) : Except (Option PyErr) Submitted → Prop
  | .error _ => handled = []
  | .ok sub => handled ≠ [] ∧ Chain sub heap handled

end Handling

/-- A call, from any loop, with what it returns and leaves, and the CQEs of its request until
    it has ended. `malloc` gives no block twice. -/
structure Lifetime where
  call : BlockCall
  env : CallEnv
  loop : Loop
  sound : loop.registry.Sound
  context : ContextOk loop
  distinct : ∀ b, env.block = some b → env.msghdr ≠ some b
  result : Except (Option PyErr) Submitted
  after : Loop
  events : List BlockEvent
  ran : call.run env ⟨loop, []⟩ = .ok (result, ⟨after, events⟩)
  handled : List Handling
  ended : Handling.Ended after.heap handled result

namespace Lifetime

def allocated (x : Lifetime) : List Block := allocatedBlocks x.events

def freed (x : Lifetime) : List Block :=
  freedBlocks x.events ++ x.loop.freedSince x.after ++ x.handled.flatMap Handling.freed

def handedOver (x : Lifetime) : List Block := x.handled.flatMap Handling.handedOver

/-- The call has filled an SQE that points at a block of its caller, and left it in the
    queue for the next submission. -/
def LeftInQueue (x : Lifetime) : Prop :=
  ∃ req t op heap, x.call.opCall.prepare x.env x.loop = .ok (.ok req, t) ∧
    req.dispatch t.heap = .ok (op, heap) ∧ op.call.pointsAtBlocks = true ∧
    op.Fills x.loop.ring req.timeoutParams ∧
    requestEntry x.loop.ring (registryAdd x.loop.registry req.registration).1
      (op.linked req.timeoutParams) op.prep ∈ x.after.ring.queued

/-- A block is freed while the kernel may still use it: the SQE of the failed call is in the
    queue, or the operation posts more CQEs. -/
def FreedInUse (x : Lifetime) : Prop :=
  (x.loop.freedSince x.after ≠ [] ∧ x.LeftInQueue) ∨
    ∃ sub, x.result = .ok sub ∧ sub.op.call.multishot = true ∧
      ∃ h ∈ x.handled, h.cqe.hasMore = true ∧ h.freed ≠ []

/-- Every block is freed once or handed over, and none while it is in use. -/
structure Meets (x : Lifetime) : Prop where
  once : (x.freed ++ x.handedOver).Perm x.allocated
  notInUse : ¬ x.FreedInUse

end Lifetime

/-! ## When the calls meet it -/

/-- The timeout of a call, as `parse_timeout_params` reads it. -/
def OpCall.timeoutParams (call : OpCall) : TimeoutParams :=
  match parseTimeoutParams call.timeoutArg with
  | .ok r => r.1
  | .error _ => .zero

/-- The queue has room for the SQE and for that of a required timeout. -/
def Ring.HasRoom (r : Ring) (t : TimeoutParams) : Prop :=
  r.space ≠ 0 ∧ ¬ (r.space = 1 ∧ t.isRequired)

instance (r : Ring) (t : TimeoutParams) : Decidable (r.HasRoom t) := by
  unfold Ring.HasRoom
  infer_instance

namespace Lifetime

/-- `io_uring_submit` fails after the SQE of the call was filled. -/
def Strands (x : Lifetime) : Prop :=
  x.loop.ring.HasRoom x.call.opCall.timeoutParams ∧ x.env.submit < 0

/-- The request of a call that got ready, by the operation: the address of a send, a bind or a
    connect is safe unless the submission strands its SQE; the length of an accept is only
    freed when the registry is full, and the peer address is not freed then; the address of a
    `recvfrom` is freed by a successful CQE and when the registry is full; the header of a
    `recvmsg` is freed unless the registry is full. -/
def CleanRequest (x : Lifetime) : Prop :=
  match x.call with
  | .bind _ _ _ _ _ | .connect _ _ _ _ _ | .sendto _ _ _ _ _ _ _ =>
    x.loop.registry.top < 0 ∨ ¬ x.Strands
  | .sendmsg _ address _ _ => address = none ∨ x.loop.registry.top < 0 ∨ ¬ x.Strands
  | .accept _ _ => x.loop.registry.top < 0 ∧ x.env.block = none
  | .recvfrom _ _ _ _ _ _ =>
    x.loop.registry.top < 0 ∨
      (x.loop.ring.HasRoom x.call.opCall.timeoutParams ∧ 0 ≤ x.env.submit ∧
        ∀ h ∈ x.handled, 0 ≤ h.cqe.res)
  | .recvmsg _ _ _ _ => x.env.msghdr = none ∨ ¬ x.loop.registry.top < 0

/-- No address is lost before the registration, and a call that gets ready is clean. -/
def Clean (x : Lifetime) : Prop :=
  ¬ x.call.LosesAddress x.env x.loop ∧
    ((x.call.opCall.prepare x.env).Passes x.loop → x.CleanRequest)

end Lifetime

/-! ## What the reader does for each kind of request -/

namespace Handling.Of

variable {h : Handling} {sub : Submitted} {heap : Heap}

theorem live (ho : h.Of sub heap) : h.before.registry.liveSlot (toInt h.cqe.userData) =
    some (sub.registration.slot sub.index) := by
  rw [ho.decodes]
  exact ho.slot

/-- The CQE of a send, a bind or a connect frees nothing. -/
theorem sent (ho : h.Of sub heap)
    (hop : sub.registration.opcode = .bind ∨ sub.registration.opcode = .connect ∨
      sub.registration.opcode = .sendmsg) (hmsg : sub.registration.msghdr = none) :
    h.freed = [] ∧ h.handedOver = [] := by
  have hb : ∀ r l2, complete h.env h.before (toInt h.cqe.userData)
      (sub.registration.slot sub.index) h.cqe = .ok (r, l2) →
      BranchReleases h.before (toInt h.cqe.userData) (sub.registration.slot sub.index) [] [] l2 ∧
        r ≠ .skip := by
    intro r l2 he
    unfold complete Registration.slot at he
    rcases hop with hop | hop | hop
    · rw [hop] at he
      exact completeSocketNumber_releases ho.valid ho.live he
    · rw [hop] at he
      exact completeSocketNumber_releases ho.valid ho.live he
    · rw [hop] at he
      exact completeSend_releases ho.valid ho.live he
  have hrel := (readCqe_releases ho.valid ho.live hb ho.read).2
  have hslot : (sub.registration.slot sub.index).msghdr = none := hmsg
  rw [hslot, ite_self] at hrel
  exact ⟨hrel.freedSince, hrel.handedSince⟩

/-- The CQE of an accept frees or hands over the peer address at most. -/
theorem accepting (ho : h.Of sub heap) (hop : sub.registration.opcode = .accept)
    (hmsg : sub.registration.msghdr = none) :
    ∀ b ∈ h.freed ++ h.handedOver, sub.registration.sockaddr = some b := by
  obtain ⟨freed, handed, hrel, hmem⟩ :=
    readCqe_accept_releases ho.valid ho.live hop hmsg ho.read
  unfold Handling.freed Handling.handedOver
  rw [hrel.freedSince, hrel.handedSince]
  exact hmem

/-- The CQE of a `recvmsg` frees the header, and the address `addr` where the payload is
    linear, the request no multishot and the CQE no error. -/
theorem received (ho : h.Of sub heap) (hop : sub.registration.opcode = .recvmsg)
    (addr : List Block)
    (haddr : ∀ p b, sub.registration.bufferPayload = some p →
      h.before.heap.payloads[p]? = some b →
      (if sub.registration.streamStrategy ≠ .multishot ∧ b.payloadType = .payloadLinear then
        sub.registration.sockaddr.toList else []) = addr) :
    h.after.registry.liveSlot sub.index = none ∧
      h.freed = (if h.cqe.res < 0 then [] else addr) ++ sub.registration.msghdr.toList ∧
      h.handedOver = [] := by
  have hb : ∀ r l2, complete h.env h.before (toInt h.cqe.userData)
      (sub.registration.slot sub.index) h.cqe = .ok (r, l2) →
      BranchReleases h.before (toInt h.cqe.userData) (sub.registration.slot sub.index) addr []
        l2 ∧ r ≠ .skip := by
    intro r l2 he
    have hcomplete : completeRecvmsg h.env h.before (toInt h.cqe.userData)
        (sub.registration.slot sub.index) h.cqe = .ok (r, l2) := by
      unfold complete at he
      rw [show (sub.registration.slot sub.index).opcode = .recvmsg from hop] at he
      exact he
    obtain ⟨p, b, hp, hpb, hr, hrel⟩ := completeRecvmsg_releases ho.valid ho.live hcomplete
    exact ⟨haddr p b hp hpb ▸ hrel, hr⟩
  obtain ⟨hdead, hrel⟩ := readCqe_releases ho.valid ho.live hb ho.read
  have hexpired : timeoutExpired (sub.registration.slot sub.index) h.cqe = false := by
    unfold timeoutExpired
    rw [show (sub.registration.slot sub.index).opcode = .recvmsg from hop]
    rfl
  have hres : (h.cqe.res < 0 ∧ ¬ timeoutExpired (sub.registration.slot sub.index) h.cqe = true) ↔
      h.cqe.res < 0 := by
    rw [hexpired]
    simp
  simp only [hres, ite_self] at hrel
  exact ⟨ho.decodes ▸ hdead, hrel.freedSince, hrel.handedSince⟩

end Handling.Of

/-! ## What the call does -/

namespace Lifetime

variable {x : Lifetime} {req : Request} {s : Noted Loop BlockEvent} {fate : BlockFate}

/-- The ways the submission of a request ends, with what it frees and leaves in the queue;
    `heap` is the heap when the request got ready. -/
inductive Submission (x : Lifetime) (fate : BlockFate) (req : Request) (heap : Heap) : Prop
  | full {e : Option PyErr} (htop : x.loop.registry.top < 0) (hresult : x.result = .error e)
      (hfreed : x.loop.freedSince x.after = fate.freedOnFull) (hleft : ¬ x.LeftInQueue)
  | rejected {e : Option PyErr} (htop : ¬ x.loop.registry.top < 0) (hresult : x.result = .error e)
      (hgoes : ¬ (x.loop.ring.HasRoom x.call.opCall.timeoutParams ∧ 0 ≤ x.env.submit))
      (hfreed : x.loop.freedSince x.after = fate.freedAfter.toList ++ fate.msghdr.toList)
      (hleft : x.LeftInQueue ↔ fate.pointed = true ∧ x.Strands)
  | accepted {sub : Submitted} (htop : ¬ x.loop.registry.top < 0) (hresult : x.result = .ok sub)
      (hgoes : x.loop.ring.HasRoom x.call.opCall.timeoutParams ∧ 0 ≤ x.env.submit)
      (hfreed : x.loop.freedSince x.after = fate.freedAfter.toList)
      (hreg : sub.registration = req.registration) (hpoints : fate.Points sub.op)
      (hheap : x.after.heap.payloads = heap.payloads) (hleft : ¬ x.LeftInQueue)

theorem freedSince_of_eq {l l1 : Loop} {bs : List Block} (h : l1.heap.freed = l.heap.freed ++ bs) :
    l.freedSince l1 = bs := by
  unfold Loop.freedSince
  rw [h, List.drop_left]

/-- The registry is full. -/
theorem submitRequest_full {m : Loop} {submit : Int} {r : Except (Option PyErr) Submitted × Loop}
    (htop : m.registry.top < 0) (h : submitRequest req submit m = .ok r) :
    ∃ e, r.1 = .error e ∧ r.2.ring = m.ring ∧
      r.2.heap.freed = m.heap.freed ++ (req.freeOnFull.toList ++ req.freeMsgOnFull.toList) := by
  have hreg : ∀ r', registerRequest req m = .ok r' → ∃ e, r'.1 = .error e ∧ r'.2.ring = m.ring ∧
      r'.2.heap.freed = m.heap.freed ++ (req.freeOnFull.toList ++ req.freeMsgOnFull.toList) := by
    intro r' hr'
    unfold registerRequest at hr'
    rw [RequestRegistry.registryAdd_of_full htop] at hr'
    split at hr'
    · exact absurd hr' (by simp)
    · obtain rfl := Except.ok.inj hr'
      refine ⟨_, rfl, rfl, ?_⟩
      show ((freeBufferPayload m.heap req.payload false).freed ++ _) ++ _ = _
      rw [freed_freeBufferPayload, List.append_assoc]
  rcases bind_eq_ok h with ⟨e, t, he, rfl⟩ | ⟨index, t, he, -⟩
  · obtain ⟨e', he', hring, hfreed⟩ := hreg _ he
    exact ⟨e, rfl, hring, hfreed⟩
  · obtain ⟨e', he', -⟩ := hreg _ he
    exact absurd he' (by simp)

/-- An entry at the end of the queue is not in it. -/
theorem requestEntry_not_mem_queued (r : Ring) (idx : Int) (t : TimeoutParams)
    (prep : Sqe → Sqe) : requestEntry r idx t prep ∉ r.queued := by
  intro hm
  have hseq : (requestEntry r idx t prep).seq = r.tail := rfl
  have := (Ring.seq_of_mem_queued hm).2
  omega

theorem timeoutParams_eq {call : OpCall} {l : Loop} {g : Grown} (hp : Prepared call l g req) :
    req.timeoutParams = call.timeoutParams := by
  obtain ⟨pending, ht⟩ := hp.timeout
  unfold OpCall.timeoutParams
  rw [ht]

/-- `LeftInQueue`, for the request and the operation that the call has. -/
theorem leftInQueue_iff {t : Loop} {op : COp} {heap : Heap}
    (hprep : x.call.opCall.prepare x.env x.loop = .ok (.ok req, t))
    (hd : req.dispatch t.heap = .ok (op, heap)) :
    x.LeftInQueue ↔ op.call.pointsAtBlocks = true ∧ op.Fills x.loop.ring req.timeoutParams ∧
      requestEntry x.loop.ring (registryAdd x.loop.registry req.registration).1
        (op.linked req.timeoutParams) op.prep ∈ x.after.ring.queued := by
  constructor
  · rintro ⟨req', t', op', heap', hprep', hd', h⟩
    obtain ⟨hr, rfl⟩ := Prod.mk.inj (Except.ok.inj (hprep.symm.trans hprep'))
    obtain rfl := Except.ok.inj hr
    obtain ⟨rfl, rfl⟩ := Prod.mk.inj (Except.ok.inj (hd.symm.trans hd'))
    exact h
  · exact fun h => ⟨req, t, op, heap, hprep, hd, h⟩

/-- A ring whose queue is as before has no new entry. -/
theorem not_leftInQueue (h : x.after.ring.queued = x.loop.ring.queued ∨ x.after.ring.queued = []) :
    ¬ x.LeftInQueue := by
  rintro ⟨req, t, op, heap, -, -, -, -, hm⟩
  rcases h with h | h
  · rw [h] at hm
    exact requestEntry_not_mem_queued _ _ _ _ hm
  · rw [h] at hm
    exact List.not_mem_nil hm

/-- A failing call leaves a filled SQE in the queue exactly where the queue had room. -/
theorem filled_in_queue_iff {op : COp} {r : Ring} {idx : Int} {t : TimeoutParams}
    (ha : op.Accepts) (hlink : ∀ t, op.linked t = t) :
    (op.Fills r t ∧ requestEntry r idx (op.linked t) op.prep ∈ r.queued ++ op.leaves r idx t) ↔
      r.HasRoom t := by
  have hne : op ≠ .timer none := by
    rintro rfl
    exact ha rfl
  rw [hlink]
  constructor
  · rintro ⟨hfill, hm⟩
    have hleaf := (List.mem_append.mp hm).resolve_left (requestEntry_not_mem_queued _ _ _ _)
    have hspace : r.space ≠ 0 := by
      intro h0
      rw [COp.leaves_of_full (.inl h0)] at hleaf
      exact absurd hleaf List.not_mem_nil
    rcases hfill with h0 | h0 | ⟨-, h1⟩
    · exact absurd h0 hspace
    · exact absurd h0 hne
    · rw [hlink] at h1
      exact ⟨hspace, h1⟩
  · intro hroom
    have hfill : op.Fills r t := by
      refine .inr (.inr ⟨ha, ?_⟩)
      rw [hlink]
      exact hroom.2
    refine ⟨hfill, List.mem_append_right _ ?_⟩
    rw [COp.leaves_of_space hroom.1 hne, if_pos hfill, hlink]
    exact List.mem_cons_self

theorem strands_iff {op : COp} {idx : Int} (ha : op.Accepts) (hlink : ∀ t, op.linked t = t)
    (ht : req.timeoutParams = x.call.opCall.timeoutParams)
    (hfails : ¬ (x.loop.ring.HasRoom x.call.opCall.timeoutParams ∧ 0 ≤ x.env.submit)) :
    (op.Fills x.loop.ring req.timeoutParams ∧
      requestEntry x.loop.ring idx (op.linked req.timeoutParams) op.prep ∈
        x.loop.ring.queued ++ op.leaves x.loop.ring idx req.timeoutParams) ↔ x.Strands := by
  rw [ht, filled_in_queue_iff ha hlink]
  refine ⟨fun hroom => ⟨hroom, ?_⟩, And.left⟩
  by_contra hneg
  exact hfails ⟨hroom, by omega⟩

theorem submission {g : Grown} (hp : Prepared x.call.opCall x.loop g req)
    (hprep : x.call.opCall.prepare x.env x.loop = .ok (.ok req, x.loop.grow g))
    (hread : x.call.opCall.opcode ≠ .read) (hk : fate.Keeps req)
    (hnormal : ∀ m, fate = .header m → ∀ p b, req.registration.bufferPayload = some p →
      (x.loop.grow g).heap.payloads[p]? = some b → b.mode = .normalBuf)
    (hs : submitRequest req x.env.submit (x.loop.grow g) = .ok (x.result, x.after)) :
    Submission x fate req (x.loop.grow g).heap := by
  by_cases htop : x.loop.registry.top < 0
  · obtain ⟨e, hresult, hring, hfreed⟩ := submitRequest_full (m := x.loop.grow g) htop hs
    refine .full htop hresult (freedSince_of_eq ?_) (not_leftInQueue (.inl (by rw [hring]; rfl)))
    rw [hfreed, hk.onFull]
    rfl
  -- What the dispatcher gives; it leaves the heap.
  have hdisp : ∀ {op : COp} {heap1 : Heap},
      req.dispatch (x.loop.grow g).heap = .ok (op, heap1) →
      heap1 = (x.loop.grow g).heap ∧ fate.Points op ∧ op.Accepts ∧ ∀ t, op.linked t = t := by
    intro op heap1 hd
    refine ⟨?_, hk.dispatch _ _ _ hnormal hd⟩
    cases hp.dispatch with
    | plain h _ => exact (h op heap1 hd).1
    | fixed _ hop _ _ => exact absurd hop hread
  have ht := timeoutParams_eq hp
  have hgoes : ∀ {op : COp}, op.Accepts → (∀ t, op.linked t = t) →
      (op.Goes x.loop.ring req.timeoutParams x.env.submit ↔
        x.loop.ring.HasRoom x.call.opCall.timeoutParams ∧ 0 ≤ x.env.submit) := by
    intro op ha hlink
    unfold COp.Goes Ring.HasRoom
    rw [hlink, ht]
    tauto
  have hv : (x.loop.grow g).registry.Sound := x.sound
  generalize hr : (x.result, x.after) = r at hs
  cases submitRequest_outcome hv hs with
  | full htop' => exact absurd htop' htop
  | @rejected op heap1 heap reg ring n _ hd hx hn hrem =>
    obtain ⟨hresult, hafter⟩ := Prod.mk.inj hr
    obtain ⟨rfl, hpoints, ha, hlink⟩ := hdisp hd
    have hexec : op.exec x.loop.ring (registryAdd x.loop.registry req.registration).1
        req.timeoutParams x.env.submit = (n, ring) := hx
    have hfails : ¬ (x.loop.ring.HasRoom x.call.opCall.timeoutParams ∧ 0 ≤ x.env.submit) := by
      rw [← hgoes ha hlink, op.goes_iff _ (registryAdd x.loop.registry req.registration).1, hexec]
      exact fun h => h hn
    obtain ⟨hv1, -, -, -, hlive⟩ := (hv.valid_of_room htop).add req.registration htop
    have hslot := hlive (registryAdd (x.loop.grow g).registry req.registration).1
    rw [if_pos rfl] at hslot
    refine .rejected htop hresult hfails (freedSince_of_eq ?_) ?_
    · rw [hafter, Loop.setClosed_heap]
      show heap.freed = _
      rw [freed_registryRemove hv1 hslot hrem]
      show (((x.loop.grow g).heap.freed ++ req.freeAfter.toList) ++
        req.registration.msghdr.toList) = _
      rw [hk.after, hk.msghdr, List.append_assoc]
      rfl
    · have hring : x.after.ring.queued = x.loop.ring.queued ++
          op.leaves x.loop.ring (registryAdd x.loop.registry req.registration).1
            req.timeoutParams := by
        rw [hafter, Loop.setClosed_ring]
        exact op.queued_of_failed hx hn
      rw [leftInQueue_iff hprep hd, hpoints.pointed, hring]
      exact and_congr_right fun _ => strands_iff ha hlink ht hfails
  | @accepted op heap1 ring n _ hd hx hn =>
    obtain ⟨hresult, hafter⟩ := Prod.mk.inj hr
    obtain ⟨rfl, hpoints, ha, hlink⟩ := hdisp hd
    refine .accepted htop hresult ?_ (freedSince_of_eq ?_) rfl hpoints ?_ (not_leftInQueue ?_)
    · have hexec : op.exec x.loop.ring (registryAdd x.loop.registry req.registration).1
          req.timeoutParams x.env.submit = (n, ring) := hx
      rw [← hgoes ha hlink, op.goes_iff _ (registryAdd x.loop.registry req.registration).1, hexec]
      exact hn
    · rw [hafter, Loop.setClosed_heap]
      show (x.loop.grow g).heap.freed ++ req.freeAfter.toList = _
      rw [hk.after]
      rfl
    · rw [hafter, Loop.setClosed_heap]
      rfl
    · refine .inr ?_
      rw [hafter, Loop.setClosed_ring]
      exact Ring.queued_of_count (COp.exec_accepted hx hn).count

/-! ## The four kinds of requests -/

theorem handled_of_error {e : Option PyErr} (h : x.result = .error e) : x.handled = [] := by
  have hend := x.ended
  rw [h] at hend
  exact hend

theorem chain_of_ok {sub : Submitted} (h : x.result = .ok sub) :
    x.handled ≠ [] ∧ Handling.Chain sub x.after.heap x.handled := by
  have hend := x.ended
  rw [h] at hend
  exact hend

/-- A call that raised met the property if what it freed is what it allocated. -/
theorem meets_of_error {e : Option PyErr} (h : x.result = .error e) :
    x.Meets ↔ (freedBlocks x.events ++ x.loop.freedSince x.after).Perm x.allocated ∧
      ¬ (x.loop.freedSince x.after ≠ [] ∧ x.LeftInQueue) := by
  have hn := handled_of_error h
  have honce : x.freed ++ x.handedOver = freedBlocks x.events ++ x.loop.freedSince x.after := by
    unfold freed handedOver
    rw [hn]
    simp
  have huse : x.FreedInUse ↔ x.loop.freedSince x.after ≠ [] ∧ x.LeftInQueue := by
    refine or_iff_left ?_
    rintro ⟨sub, hsub, -⟩
    exact absurd (h.symm.trans hsub) (by simp)
  constructor
  · intro hm
    exact ⟨honce ▸ hm.once, fun hu => hm.notInUse (huse.mpr hu)⟩
  · rintro ⟨hp, hu⟩
    exact ⟨honce.symm ▸ hp, fun hf => hu (huse.mp hf)⟩

section Kinds

variable {heap : Heap} (hk : fate.Keeps req) (hsub : x.Submission fate req heap)
  (hall : x.allocated = fate.blocks) (hev : freedBlocks x.events = [])

include hk hsub hall hev

/-- An address that the call frees itself. -/
theorem meets_sent {addr : Option Block} (hf : fate = .sent addr) :
    x.Meets ↔ addr = none ∨ x.loop.registry.top < 0 ∨ ¬ x.Strands := by
  subst hf
  cases hsub with
  | full htop hresult hfreed hleft =>
    refine iff_of_true ((meets_of_error hresult).mpr ⟨?_, fun h => hleft h.2⟩) (.inr (.inl htop))
    rw [hev, hfreed, hall]
    exact .refl _
  | rejected htop hresult hgoes hfreed hleft =>
    have hfreed' : x.loop.freedSince x.after = addr.toList := by
      rw [hfreed]
      exact List.append_nil _
    rw [meets_of_error hresult, hev, hfreed', hall, hleft]
    cases addr with
    | none => simp [BlockFate.blocks]
    | some b => simp [BlockFate.blocks, BlockFate.pointed, htop]
  | @accepted sub htop hresult hgoes hfreed hreg hpoints hheap hleft =>
    have hstr : ¬ x.Strands := fun h => absurd h.2 (by omega)
    refine iff_of_true ?_ (.inr (.inr hstr))
    obtain ⟨-, hchain⟩ := chain_of_ok hresult
    have hnone : ∀ h ∈ x.handled, h.freed = [] ∧ h.handedOver = [] := fun h hm =>
      (hchain.of h hm).sent (hreg ▸ hk.opcode) (hreg ▸ hk.msghdr)
    have hf0 : x.handled.flatMap Handling.freed = [] :=
      List.flatMap_eq_nil_iff.mpr fun h hm => (hnone h hm).1
    have hh0 : x.handled.flatMap Handling.handedOver = [] :=
      List.flatMap_eq_nil_iff.mpr fun h hm => (hnone h hm).2
    refine ⟨?_, ?_⟩
    · unfold freed handedOver
      rw [hf0, hh0, hev, hfreed, hall]
      simp [BlockFate.blocks, BlockFate.freedAfter]
    · rintro (⟨-, h⟩ | ⟨sub', -, -, h, hm, -, hne⟩)
      · exact hleft h
      · exact hne (hnone h hm).1

/-- The length and the peer address of an accept. -/
theorem meets_accepting {addrlen : Block} {peer : Option Block}
    (hf : fate = .accepting addrlen peer) (hd : peer ≠ some addrlen) :
    x.Meets ↔ x.loop.registry.top < 0 ∧ peer = none := by
  subst hf
  cases hsub with
  | full htop hresult hfreed hleft =>
    rw [meets_of_error hresult, hev, hfreed, hall]
    cases peer with
    | none => simp [BlockFate.blocks, BlockFate.freedOnFull, hleft, htop]
    | some p =>
      refine iff_of_false (fun h => ?_) fun h => absurd h.2 (by simp)
      have := h.1.length_eq
      simp [BlockFate.blocks, BlockFate.freedOnFull] at this
  | rejected htop hresult hgoes hfreed hleft =>
    refine iff_of_false (fun h => ?_) fun h => htop h.1
    have := ((meets_of_error hresult).mp h).1.length_eq
    rw [hev, hfreed, hall] at this
    simp [BlockFate.blocks, BlockFate.freedAfter, BlockFate.msghdr] at this
  | @accepted sub htop hresult hgoes hfreed hreg hpoints hheap hleft =>
    refine iff_of_false (fun h => ?_) fun h => htop h.1
    -- Nothing that is freed or handed over is the block of the length.
    obtain ⟨-, hchain⟩ := chain_of_ok hresult
    have hpeer : ∀ h ∈ x.handled, ∀ b ∈ h.freed ++ h.handedOver, peer = some b := by
      intro h hm b hb
      have := (hchain.of h hm).accepting (hreg ▸ hk.opcode) (hreg ▸ hk.msghdr) b hb
      rw [hreg, hk.sockaddr] at this
      exact this
    have hmem : addrlen ∈ x.freed ++ x.handedOver := by
      refine h.once.mem_iff.mpr ?_
      rw [hall]
      exact List.mem_cons_self
    unfold freed handedOver at hmem
    rw [hev, hfreed] at hmem
    rcases List.mem_append.mp hmem with hmem | hmem
    · rcases List.mem_append.mp hmem with hmem | hmem
      · exact absurd hmem List.not_mem_nil
      · obtain ⟨h, hm, hb⟩ := List.mem_flatMap.mp hmem
        exact hd (hpeer h hm _ (List.mem_append_left _ hb))
    · obtain ⟨h, hm, hb⟩ := List.mem_flatMap.mp hmem
      exact hd (hpeer h hm _ (List.mem_append_right _ hb))

/-- The address and the header of a `recvfrom`. -/
theorem meets_receiving {addr msg : Block} (hf : fate = .receiving addr msg)
    (hlinear : ∃ p b, req.registration.bufferPayload = some p ∧ heap.payloads[p]? = some b ∧
      b.payloadType = .payloadLinear) :
    x.Meets ↔ x.loop.registry.top < 0 ∨
      (x.loop.ring.HasRoom x.call.opCall.timeoutParams ∧ 0 ≤ x.env.submit ∧
        ∀ h ∈ x.handled, 0 ≤ h.cqe.res) := by
  subst hf
  cases hsub with
  | full htop hresult hfreed hleft =>
    refine iff_of_true ((meets_of_error hresult).mpr ⟨?_, fun h => hleft h.2⟩) (.inl htop)
    rw [hev, hfreed, hall]
    exact .refl _
  | rejected htop hresult hgoes hfreed hleft =>
    refine iff_of_false (fun h => ?_) fun h => ?_
    · have := ((meets_of_error hresult).mp h).1.length_eq
      rw [hev, hfreed, hall] at this
      simp [BlockFate.blocks, BlockFate.freedAfter, BlockFate.msghdr] at this
    · rcases h with h | ⟨hroom, hsubmit, -⟩
      · exact htop h
      · exact hgoes ⟨hroom, hsubmit⟩
  | @accepted sub htop hresult hgoes hfreed hreg hpoints hheap hleft =>
    obtain ⟨hne, hchain⟩ := chain_of_ok hresult
    have hreceived : ∀ h : Handling, h.Of sub x.after.heap →
        h.after.registry.liveSlot sub.index = none ∧
          h.freed = (if h.cqe.res < 0 then [] else [addr]) ++ [msg] ∧ h.handedOver = [] := by
      intro h ho
      have hr := ho.received (hreg ▸ hk.opcode) [addr] ?_
      · rw [hreg, hk.msghdr] at hr
        exact hr
      · intro q b hq hb
        obtain ⟨p, b0, hp, hb0, ht⟩ := hlinear
        rw [hreg] at hq
        obtain rfl := Option.some.inj (hq.symm.trans hp)
        obtain ⟨b', hb', hkeep⟩ := ho.kept.kept q b0 (hheap ▸ hb0)
        obtain rfl := Option.some.inj (hb.symm.trans hb')
        rw [hreg, hk.oneshot addr msg rfl, hk.sockaddr, if_pos ⟨by simp, hkeep.payloadType ht⟩]
        rfl
    obtain ⟨h, hh, ho⟩ := hchain.single hne fun h ho => (hreceived h ho).1
    obtain ⟨-, hfree, hhand⟩ := hreceived h ho
    have hnow : x.freed ++ x.handedOver = (if h.cqe.res < 0 then [] else [addr]) ++ [msg] := by
      unfold freed handedOver
      rw [hh, hev, hfreed]
      simp [hfree, hhand, BlockFate.freedAfter]
    have hunused : ¬ x.FreedInUse := by
      rintro (⟨-, h⟩ | ⟨sub', hsub', hmulti, -⟩)
      · exact hleft h
      · obtain rfl := Except.ok.inj (hresult.symm.trans hsub')
        exact absurd (hpoints.2.symm.trans hmulti) (by simp)
    by_cases hres : h.cqe.res < 0
    · refine iff_of_false (fun hm => ?_) fun hc => ?_
      · have := hm.once.length_eq
        rw [hnow, hall, if_pos hres] at this
        simp [BlockFate.blocks] at this
      · rcases hc with hc | ⟨-, -, hc⟩
        · exact htop hc
        · have := hc h (hh ▸ List.mem_singleton_self h)
          omega
    · refine iff_of_true ⟨?_, hunused⟩ (.inr ⟨hgoes.1, hgoes.2, fun h' hm => ?_⟩)
      · rw [hnow, hall, if_neg hres]
        exact .refl _
      · rw [hh] at hm
        obtain rfl := List.mem_singleton.mp hm
        omega

/-- The header of a `recvmsg`. -/
theorem meets_header {msghdr : Option Block} (hf : fate = .header msghdr) :
    x.Meets ↔ msghdr = none ∨ ¬ x.loop.registry.top < 0 := by
  subst hf
  cases hsub with
  | full htop hresult hfreed hleft =>
    rw [meets_of_error hresult, hev, hfreed, hall]
    cases msghdr with
    | none => simp [BlockFate.blocks, BlockFate.freedOnFull, hleft]
    | some m =>
      refine iff_of_false (fun h => ?_) fun h => ?_
      · have := h.1.length_eq
        simp [BlockFate.blocks, BlockFate.freedOnFull] at this
      · rcases h with h | h
        · exact absurd h (by simp)
        · exact h htop
  | rejected htop hresult hgoes hfreed hleft =>
    refine iff_of_true ((meets_of_error hresult).mpr ⟨?_, fun h => ?_⟩) (.inr htop)
    · rw [hev, hfreed, hall]
      exact .refl _
    · exact absurd (hleft.mp h.2).1 (by simp [BlockFate.pointed])
  | @accepted sub htop hresult hgoes hfreed hreg hpoints hheap hleft =>
    refine iff_of_true ?_ (.inr htop)
    obtain ⟨hne, hchain⟩ := chain_of_ok hresult
    have hreceived : ∀ h : Handling, h.Of sub x.after.heap →
        h.after.registry.liveSlot sub.index = none ∧ h.freed = msghdr.toList ∧
          h.handedOver = [] := by
      intro h ho
      have hr := ho.received (hreg ▸ hk.opcode) [] ?_
      · rw [hreg, hk.msghdr, ite_self] at hr
        exact hr
      · intro q b _ _
        rw [hreg, hk.sockaddr]
        exact ite_self _
    obtain ⟨h, hh, ho⟩ := hchain.single hne fun h ho => (hreceived h ho).1
    obtain ⟨-, hfree, hhand⟩ := hreceived h ho
    refine ⟨?_, ?_⟩
    · unfold freed handedOver
      rw [hh, hev, hfreed, hall]
      simp [hfree, hhand, BlockFate.freedAfter, BlockFate.blocks]
    · rintro (⟨-, h⟩ | ⟨sub', hsub', hmulti, -⟩)
      · exact hleft h
      · obtain rfl := Except.ok.inj (hresult.symm.trans hsub')
        exact absurd (hpoints.2.symm.trans hmulti) (by simp)

end Kinds

/-! ## All calls -/

theorem opcode_ne_read (call : BlockCall) : call.opCall.opcode ≠ .read := by
  cases call <;> simp [BlockCall.opCall, OpCall.opcode]

/-- The payload of a `recvmsg` is its own. -/
theorem normal_of_header {call : BlockCall} {env : CallEnv} {l : Loop} {g : Grown}
    {msghdr : Option Block} (htakes : call.Takes env (.header msghdr))
    (hp : Prepared call.opCall l g req) (p : PayloadId) (b : BufferPayload)
    (hr : req.registration.bufferPayload = some p)
    (hb : (l.grow g).heap.payloads[p]? = some b) : b.mode = .normalBuf := by
  have huser : call.opCall.userBuffers = true := by
    cases call with
    | recvmsg self buffersObj isPollFirst t => rfl
    | recvfrom _ _ _ _ _ _ =>
      obtain ⟨_, _, -, -, h⟩ := htakes
      exact absurd h (by simp)
    | bind _ _ _ _ _ | connect _ _ _ _ _ | accept _ _ | sendto _ _ _ _ _ _ _ | sendmsg _ _ _ _ =>
      rfl
  cases hp.payload with
  | none _ hn _ _ | kept hn _ _ _ => exact absurd (hn.symm.trans hr) (by simp)
  | registered hr' _ _ huse =>
    obtain rfl := Option.some.inj (hr.symm.trans hr')
    rw [huser] at huse
    obtain ⟨b', hb', hown⟩ := huse.get_own
    obtain rfl := Option.some.inj (hb.symm.trans hb')
    exact hown.mode

/-- A call that gives up before its submission. -/
theorem meets_of_failed {e : Option PyErr}
    (hprep : x.call.prepare x.env ⟨x.loop, []⟩ = .ok (.error e, s))
    (hr : (x.result, (⟨x.after, x.events⟩ : Noted Loop BlockEvent)) = (.error e, s)) :
    x.Meets ↔ ¬ x.call.LosesAddress x.env x.loop := by
  obtain ⟨hresult, rfl⟩ := Prod.mk.inj hr
  have hplain := x.call.prepare_erases.run hprep
  have hfreed : x.loop.freedSince x.after = [] := by
    obtain ⟨g, hg, -⟩ := (OpCall.prepare_spec x.context x.call.opCall x.env).failed rfl hplain
    refine freedSince_of_eq ?_
    rw [show x.after = x.loop.grow g from hg, List.append_nil]
    rfl
  rw [meets_of_error hresult, hfreed, List.append_nil]
  refine (and_iff_left fun h => h.1 rfl).trans ?_
  exact x.call.prepare_failed hprep

/-- Every block of a call is freed once or handed over, and not while it is in use, exactly
    when the call loses no address and its request is clean. -/
theorem meets_iff (x : Lifetime) : x.Meets ↔ x.Clean := by
  rcases bind_eq_ok x.ran with ⟨e, s, hprep, hr⟩ | ⟨req, s, hprep, hsub⟩
  · have hplain := x.call.prepare_erases.run hprep
    have hrej : (x.call.opCall.prepare x.env).Rejects x.loop := ⟨e, _, hplain⟩
    rw [meets_of_failed hprep hr]
    exact (and_iff_left fun hp => absurd hp hrej.not_passes).symm
  have hplain := x.call.prepare_erases.run hprep
  have hpass : (x.call.opCall.prepare x.env).Passes x.loop := ⟨req, _, hplain⟩
  have hclean : x.Clean ↔ x.CleanRequest :=
    ⟨fun h => h.2 hpass, fun h => ⟨x.call.not_losesAddress hpass, fun _ => h⟩⟩
  rw [hclean]
  obtain ⟨fate, htakes, hall, hev, hk⟩ := x.call.prepare_ready hprep
  obtain ⟨g, hg, hp⟩ := (OpCall.prepare_spec x.context x.call.opCall x.env).returned rfl hplain
  rw [show (⟨x.loop, []⟩ : Noted Loop BlockEvent).state = x.loop from rfl, hg] at hplain
  have hnotes : x.events = s.notes := notes_of_lift hsub
  have hrun : submitRequest req x.env.submit s.state = .ok (x.result, x.after) :=
    (Erases.lift _).run hsub
  rw [hg] at hrun
  rw [← hnotes] at hall hev
  have hnormal : ∀ m, fate = .header m → ∀ p b, req.registration.bufferPayload = some p →
      (x.loop.grow g).heap.payloads[p]? = some b → b.mode = .normalBuf := by
    rintro m rfl
    exact normal_of_header htakes hp
  have hs := submission hp hplain (opcode_ne_read x.call) hk hnormal hrun
  unfold CleanRequest
  cases hcall : x.call with
  | bind _ _ _ _ _ | connect _ _ _ _ _ | sendto _ _ _ _ _ _ _ =>
    rw [hcall] at htakes
    obtain ⟨b, -, hf⟩ := htakes
    exact (meets_sent hk hs hall hev hf).trans (or_iff_right (by simp))
  | sendmsg _ address _ _ =>
    rw [hcall] at htakes
    rcases htakes with ⟨ha, hf⟩ | ⟨ha, b, -, hf⟩
    · exact iff_of_true ((meets_sent hk hs hall hev hf).mpr (.inl rfl)) (.inl ha)
    · refine (meets_sent hk hs hall hev hf).trans ?_
      have hne : address ≠ none := Option.isSome_iff_ne_none.mp ha
      exact (or_iff_right (by simp)).trans (or_iff_right hne).symm
  | accept _ _ =>
    rw [hcall] at htakes
    obtain ⟨addrlen, hmsg, hf⟩ := htakes
    exact meets_accepting hk hs hall hev hf fun hb => x.distinct addrlen hb hmsg
  | recvfrom self bufsize bufferObj address isPollFirst t =>
    rw [hcall] at htakes hplain
    obtain ⟨addr, msg, -, -, hf⟩ := htakes
    have hm := meets_receiving hk hs hall hev hf
      ((recvfrom_linear self bufsize bufferObj address isPollFirst t).returned trivial hplain)
    rw [hcall] at hm
    exact hm
  | recvmsg _ _ _ _ =>
    rw [hcall] at htakes
    exact meets_header hk hs hall hev htakes

/-- An accept on an open Socket, and the loop when it has returned its future. -/
def acceptRun : Except (Option PyErr) Submitted × Noted Loop BlockEvent :=
  ((BlockCall.accept 0 none).run .ok ⟨openLoop, []⟩).toOption.getD (.error none, ⟨openLoop, []⟩)

/-- The request of the accept. -/
def acceptedRequest : Submitted :=
  ⟨⟨0, none, .oneshot, .accept, none, some 0, some 1, none⟩, 1, 0, .accept 5 (some 1) 0, none, none⟩

/-- Its CQE with the descriptor 6. -/
def acceptHandling : Handling :=
  { env := .ok, before := acceptRun.2.state, cqe := ⟨1, 6, 0, 0⟩
    after := (readCqe .ok acceptRun.2.state ⟨1, 6, 0, 0⟩).toOption.getD acceptRun.2.state }

/-- The accept and its CQE. -/
def acceptedLifetime : Lifetime where
  call := .accept 0 none
  env := .ok
  loop := openLoop
  sound := .inl (RequestRegistry.registryNew_valid (by decide) (by decide))
  context := by
    rintro c p b ⟨⟩ hp
    exact absurd hp (by simp [ExecutionContext.default])
  distinct := by
    rintro b ⟨⟩
    decide
  result := acceptRun.1
  after := acceptRun.2.state
  events := acceptRun.2.notes
  ran := rfl
  handled := [acceptHandling]
  ended := by
    show Handling.Ended _ _ (.ok acceptedRequest)
    have hnew : (registryNew 2).Valid :=
      RequestRegistry.registryNew_valid (by decide) (by decide)
    have hadd := (hnew.add acceptedRequest.registration (by decide)).1
    exact ⟨List.cons_ne_nil _ _, ⟨hadd, rfl, .of_payloads rfl, rfl, rfl⟩,
      fun h => absurd rfl h, trivial⟩

/-- The block of the length is never freed: of the two blocks only the peer address is handed
    over. -/
theorem accept_leaks_length : ¬ acceptedLifetime.Meets := by
  intro h
  have := h.once.length_eq
  revert this
  decide

end Lifetime

/-! ## Lifetimes of a run -/

namespace System

variable {s s1 s2 s3 : System}

theorem run_keepsParts {acts : List Act} (h : s.Base) (hr : s.run acts = .ok s1)
    (hd : s1.down = false) : s.loop.heap.KeepsParts s1.loop.heap := by
  have hg : Lib.Meets step (fun _ _ => True) s acts := Lib.meets_true
  have hinv := Lib.Meets.invariant
    (fun u => u.down = false → u.Base ∧ s.loop.heap.KeepsParts u.loop.heap)
    (fun u a t hu _ hs hdt => by
      obtain ⟨hb, hk⟩ := hu (down_of_step hs)
      obtain ⟨-, hst⟩ := step_cases hb hs
      exact ⟨hb.step hs hdt, hk.trans (hst.keepsParts hs hdt)⟩)
    hg (fun _ => ⟨h, .of_payloads rfl⟩) hr
  exact (hinv hd).2

/-- Whatever a run does between a call and a CQE of its request, the CQE is handled as in a
    lifetime. -/
theorem handling_of_run {acts : List Act} {env : ReadEnv} {sub : Submitted} {c : Cqe}
    {cs : List Cqe} (h : s1.Base) (hr : s1.run acts = .ok s2) (hd : s2.down = false)
    (hh : s2.Holds sub) (hcq : s2.loop.ring.cq = c :: cs) (hdec : toInt c.userData = sub.index)
    (hread : s2.step (.read env) = .ok s3) :
    Handling.Of ⟨env, s2.loop, c, s3.loop⟩ sub s1.loop.heap := by
  have hb := base_of_run h hr hd
  have hlive := hh
  have hvalid : s2.loop.registry.Valid := hb.registry.sound.valid_of_live hlive
  refine ⟨hvalid, hlive, run_keepsParts h hr hd, hdec, ?_⟩
  unfold step stepRead at hread
  rw [hd, hcq] at hread
  simp only [Bool.false_eq_true, if_false] at hread
  split at hread
  · exact absurd hread (by simp)
  · rename_i l hl
    obtain rfl := Except.ok.inj hread
    exact hl

/-- A call of a run whose request is accepted, together with the first CQE that finds the
    slot of the request, is a lifetime. -/
theorem lifetime_of_run {call : BlockCall} {env : CallEnv} {acts : List Act} {renv : ReadEnv}
    {sub : Submitted} {c : Cqe} {cs : List Cqe} (h : s.Base)
    (hdistinct : ∀ b, env.block = some b → env.msghdr ≠ some b)
    (hcall : s.step (.call call.opCall env) = .ok s1) (hsubs : s1.subs = sub :: s.subs)
    (hd1 : s1.down = false) (hr : s1.run acts = .ok s2) (hd : s2.down = false)
    (hh : s2.Holds sub) (hcq : s2.loop.ring.cq = c :: cs) (hdec : toInt c.userData = sub.index)
    (hread : s2.step (.read renv) = .ok s3) :
    ∃ x : Lifetime, x.call = call ∧ x.env = env ∧ x.loop = s.loop ∧ x.after = s1.loop ∧
      x.result = .ok sub ∧ x.handled = [⟨renv, s2.loop, c, s3.loop⟩] := by
  have hb1 := h.step hcall hd1
  have hdown := down_of_step hcall
  unfold step stepCall at hcall
  rw [hdown] at hcall
  simp only [Bool.false_eq_true, if_false] at hcall
  split at hcall
  · exact absurd hcall (by simp)
  · obtain rfl := Except.ok.inj hcall
    exact absurd (congrArg List.length hsubs) (by simp [withLoop])
  · rename_i sub' l hrun
    obtain rfl := Except.ok.inj hcall
    obtain rfl : sub' = sub := (List.cons.inj hsubs).1
    obtain ⟨events, hran⟩ := call.run_erases.exists_run (s := ⟨s.loop, []⟩) hrun
    refine ⟨⟨call, env, s.loop, h.registry.sound, h.heap.contextOk, hdistinct, _, l, events, hran,
      [⟨renv, s2.loop, c, s3.loop⟩], ?_⟩, rfl, rfl, rfl, rfl, rfl, rfl⟩
    exact ⟨List.cons_ne_nil _ _, handling_of_run hb1 hr hd hh hcq hdec hread,
      fun hne => absurd rfl hne, trivial⟩

end System

end Uringio
