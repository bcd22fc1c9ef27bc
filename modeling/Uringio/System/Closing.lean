/-
  When a descriptor is closed.

  A Socket marks itself as closed when it submits the close, a File when the close has
  completed, and `__aexit__` neither looks at the flag nor gives it back its old value when
  it fails. So the runs in which every descriptor is closed once are those of
  `InClosingOrder`: no `__aexit__` and no method of a File is submitted while a close of
  the object is under way or done, no `__aexit__` fails with the flag set, and no failing
  call leaves a close on the queue (`closed_once_iff`).
-/
import Uringio.PyOps.Closing
import Uringio.System.Tags

namespace Uringio

/-- The request is a close of the object. -/
def Submitted.Closes (sub : Submitted) : ClosedFlag → Prop
  | .file id => sub.registration.opcode = .close ∧ sub.registration.file = some id
  | .socket id => sub.registration.opcode = .close ∧ sub.registration.socket = some id

instance (sub : Submitted) (obj : ClosedFlag) : Decidable (sub.Closes obj) := by
  cases obj <;> exact inferInstanceAs (Decidable (_ ∧ _))

def ClosedFlag.isFile : ClosedFlag → Bool
  | .file _ => true
  | .socket _ => false

/-- A failing call leaves a close on the queue: its own, or that of the last use of the
    entry that it has not filled. -/
def COp.LeavesClose (op : COp) (r : Ring) (t : TimeoutParams) : Prop :=
  r.space ≠ 0 ∧ op ≠ .timer none ∧
    (if op.Fills r t then op.closes else (r.sqEntry r.tail).call.isClose) = true

instance (op : COp) (r : Ring) (t : TimeoutParams) : Decidable (op.LeavesClose r t) := by
  unfold COp.LeavesClose
  infer_instance

theorem Loop.KeepsObjects.closedFlag {l l1 : Loop} {obj : ClosedFlag}
    (h : l.KeepsObjects l1) (hb : l.closedFlag obj = some true) :
    l1.closedFlag obj = some true := by
  cases obj with
  | file id =>
    obtain ⟨f, hf, hc⟩ := Option.map_eq_some_iff.mp hb
    obtain ⟨f1, hf1, hmono⟩ := h.file id f hf
    exact Option.map_eq_some_iff.mpr ⟨f1, hf1, hmono hc⟩
  | socket id =>
    obtain ⟨f, hf, hc⟩ := Option.map_eq_some_iff.mp hb
    obtain ⟨f1, hf1, hmono⟩ := h.socket id f hf
    exact Option.map_eq_some_iff.mpr ⟨f1, hf1, hmono hc⟩

namespace System

/-- The kernel has answered the close with an error. -/
def CloseFailed (s : System) (sub : Submitted) : Prop :=
  ∃ c ∈ s.posted, c.seq = sub.seq ∧ c.res < 0

instance (s : System) (sub : Submitted) : Decidable (s.CloseFailed sub) :=
  inferInstanceAs (Decidable (∃ c ∈ s.posted, c.seq = sub.seq ∧ c.res < 0))

/-- Every close of the object that was submitted has failed. -/
def ClosesFailed (s : System) (obj : ClosedFlag) : Prop :=
  ∀ sub ∈ s.subs, sub.Closes obj → s.CloseFailed sub

/-- No close of the object was submitted. -/
def Unclosed (s : System) (obj : ClosedFlag) : Prop := ∀ sub ∈ s.subs, ¬ sub.Closes obj

instance (s : System) (obj : ClosedFlag) : Decidable (s.ClosesFailed obj) :=
  inferInstanceAs (Decidable (∀ sub ∈ s.subs, sub.Closes obj → s.CloseFailed sub))

instance (s : System) (obj : ClosedFlag) : Decidable (s.Unclosed obj) :=
  inferInstanceAs (Decidable (∀ sub ∈ s.subs, ¬ sub.Closes obj))

/-- What a method of the object does with its descriptor: it is closed again only after an
    error, nothing else is submitted after a close, and a close that fails leaves the flag. -/
structure HandlesObject (s : System) (call : OpCall) (obj : ClosedFlag) (t : System) : Prop where
  once : call.opcode = .close → t.subs ≠ s.subs → s.ClosesFailed obj
  unused : call.opcode ≠ .close → t.subs ≠ s.subs → s.Unclosed obj
  flag : call.opcode = .close → t.subs = s.subs →
    t.loop.closedFlag obj = s.loop.closedFlag obj

/-- The closes that a step puts on the ring are accepted requests, and a call does with its
    object what `HandlesObject` says. -/
structure ClosedOnce (s : System) (a : Act) (t : System) : Prop where
  sqes : ∀ x ∈ t.loop.ring.pending, x ∉ s.loop.ring.pending → x.sqe.call.isClose = true →
    ∃ sub, t.subs = sub :: s.subs ∧ sub.seq = x.seq ∧ sub.registration.opcode = .close
  object : ∀ call env obj, a = .call call env → call.self = some obj →
    s.HandlesObject call obj t

/-- The condition on a method of an object, which is submitted or fails at its submission. -/
def ObjectInOrder (s : System) (call : OpCall) (obj : ClosedFlag) (goes : Prop) : Prop :=
  (goes → call.opcode = .close → (call.isAexit || obj.isFile) = true → s.ClosesFailed obj) ∧
  (goes → call.opcode ≠ .close → obj.isFile = true → s.Unclosed obj) ∧
  (¬ goes → call.isAexit = true → s.loop.closedFlag obj = some false)

instance (s : System) (call : OpCall) (obj : ClosedFlag) (goes : Prop) [Decidable goes] :
    Decidable (s.ObjectInOrder call obj goes) := by
  unfold ObjectInOrder
  infer_instance

/-- The condition on a step. -/
def InClosingOrder (s : System) : Act → Prop
  | .call call env => ∀ x, s.dispatched call env = some x →
    (∀ obj, call.self = some obj →
      s.ObjectInOrder call obj (x.1.Goes s.loop.ring x.2 env.submit)) ∧
    (¬ x.1.Goes s.loop.ring x.2 env.submit → ¬ x.1.LeavesClose s.loop.ring x.2)
  | _ => True

instance (s : System) (a : Act) : Decidable (s.InClosingOrder a) := by
  apply Act.casesOn (motive := fun a => Decidable (s.InClosingOrder a)) a <;> intros <;>
    dsimp only [InClosingOrder] <;> infer_instance

/-! ## How a call ends -/

/-- How a call ends, as far as requests, ring and flags go. -/
inductive CallEnd (s : System) (call : OpCall) (env : CallEnv) (t : System) : Prop
  | silent (hnone : s.dispatched call env = none) (hsubs : t.subs = s.subs)
      (hring : t.loop.ring = s.loop.ring)
      (hflag : ∀ obj, call.self = some obj ∨ (s.loop.closedFlag obj).isSome →
        t.loop.closedFlag obj = s.loop.closedFlag obj)
  | failed {op : COp} {tp : TimeoutParams} {idx : Int}
      (hd : s.dispatched call env = some (op, tp))
      (hg : ¬ op.Goes s.loop.ring tp env.submit) (hready : call.Ready s.loop)
      (hcloses : op.closes = (call.opcode == .close)) (hsubs : t.subs = s.subs)
      (hring : s.loop.ring.Added t.loop.ring (op.leaves s.loop.ring idx tp))
      (hflag : ∀ obj, (s.loop.closedFlag obj).isSome → t.loop.closedFlag obj =
        if call.flag = some obj then some false else s.loop.closedFlag obj)
  | accepted {op : COp} {tp : TimeoutParams} {sub : Submitted}
      (hd : s.dispatched call env = some (op, tp))
      (hg : op.Goes s.loop.ring tp env.submit) (hready : call.Ready s.loop)
      (hcloses : op.closes = (call.opcode == .close)) (hsubs : t.subs = sub :: s.subs)
      (hnames : sub.registration.opcode = call.opcode ∧
        sub.registration.file = call.file s.loop ∧ sub.registration.socket = call.socket s.loop)
      (hseq : sub.seq = s.loop.ring.tail)
      (hring : s.loop.ring.Added t.loop.ring
        (requestEntry s.loop.ring sub.index (op.linked tp) op.prep ::
          linkTimeoutEntry s.loop.ring (op.linked tp)))
      (hflag : ∀ obj, (s.loop.closedFlag obj).isSome → t.loop.closedFlag obj =
        if call.flag = some obj then some true else s.loop.closedFlag obj)

variable {s t : System} {a : Act}

theorem closedFlag_afterCall {l l1 : Loop} {obj : ClosedFlag} {closed : Bool}
    {flag : Option ClosedFlag} (g : Grown) (hf : l1.files = (l.grow g).files)
    (hs : l1.sockets = (l.grow g).sockets) (h : (l.closedFlag obj).isSome) :
    (l1.setClosed closed flag).closedFlag obj =
      if flag = some obj then some closed else l.closedFlag obj := by
  have he : l1.closedFlag obj = l.closedFlag obj :=
    (Loop.closedFlag_congr hf hs).trans (Loop.closedFlag_grow g h)
  rw [Loop.closedFlag_setClosed closed flag (he.symm ▸ h), he]

theorem dispatched_of_failed {call : OpCall} {env : CallEnv} {x : Option PyErr} {l : Loop}
    (h : call.prepare env s.loop = .ok (.error x, l)) : s.dispatched call env = none := by
  unfold dispatched submission
  split
  · rfl
  · rw [h]
    rfl

theorem dispatched_of_full {call : OpCall} {env : CallEnv} (h : s.loop.registry.top < 0) :
    s.dispatched call env = none := by
  unfold dispatched submission
  rw [if_pos h]
  rfl

theorem call_ends (h : s.Base) {call : OpCall} {env : CallEnv}
    {r : Except (Option PyErr) Submitted × Loop} (hr : call.run env s.loop = .ok r) :
    s.CallEnd call env (s.answer r) := by
  have hprep := call.prepare_spec h.heap.contextOk env
  rcases Lib.Program.bind_eq_ok hr with ⟨x, m, hp, rfl⟩ | ⟨req, m, hp, hs⟩
  · obtain ⟨g, rfl, hf, hs, -⟩ := hprep.failed rfl hp
    refine .silent (dispatched_of_failed hp) rfl rfl fun obj _ => ?_
    refine Loop.closedFlag_congr ?_ ?_
    · show s.loop.files ++ g.files = _
      rw [hf, List.append_nil]
    · show s.loop.sockets ++ g.sockets = _
      rw [hs, List.append_nil]
  obtain ⟨g, rfl, hpre⟩ := hprep.returned rfl hp
  have hcloses := call.prepare_submits env _ _ _ hp
  have hv : (s.loop.grow g).registry.Sound := h.registry.sound
  cases submitRequest_outcome hv hs with
  | full htop hh =>
    refine .silent (dispatched_of_full htop) rfl rfl fun obj hobj => ?_
    have hsome : (s.loop.closedFlag obj).isSome := by
      rcases hobj with hself | hsome
      · obtain ⟨b, hb, -⟩ := hpre.ready.closedFlag hself
        rw [hb]
        rfl
      · exact hsome
    exact (Loop.closedFlag_congr rfl rfl).trans (Loop.closedFlag_grow g hsome)
  | @rejected op heap1 heap reg ring n htop hd hx hn hrem =>
    have hx : op.exec s.loop.ring (registryAdd s.loop.registry req.registration).1
      req.timeoutParams env.submit = (n, ring) := hx
    have hq := op.queued_of_failed hx hn
    obtain ⟨hk, -⟩ := COp.exec_rejected hx hn
    have hadd := Ring.added_of_queued hk.inflight hk.cq hk.head hq
    have hgoes : ¬ op.Goes s.loop.ring req.timeoutParams env.submit := by
      intro hgo
      rw [op.goes_iff _ (registryAdd s.loop.registry req.registration).1] at hgo
      rw [hx] at hgo
      exact hgo hn
    refine .failed (dispatched_of_prepare hp htop hd) hgoes hpre.ready (hcloses _ _ _ hd) rfl
      (by simpa only [answer, withLoop, Loop.setClosed_ring] using hadd) fun obj hobj => ?_
    rw [← hpre.flag]
    exact closedFlag_afterCall g rfl rfl hobj
  | @accepted op heap1 ring n htop hd hx hn =>
    have hx : op.exec s.loop.ring (registryAdd s.loop.registry req.registration).1
      req.timeoutParams env.submit = (n, ring) := hx
    have hadd := (COp.exec_accepted hx hn).added
    have hgoes : op.Goes s.loop.ring req.timeoutParams env.submit := by
      rw [op.goes_iff _ (registryAdd s.loop.registry req.registration).1, hx]
      exact hn
    refine .accepted (dispatched_of_prepare hp htop hd) hgoes hpre.ready (hcloses _ _ _ hd) rfl
      ⟨hpre.opcode, hpre.file, hpre.socket⟩ rfl ?_ fun obj hobj => ?_
    · simp only [answer, withLoop, Loop.setClosed_ring]
      exact hadd
    · rw [← hpre.flag]
      exact closedFlag_afterCall g rfl rfl hobj

/-! ## Closes on the ring -/

theorem isClose_requestEntry {op : COp} {r : Ring} {idx : Int} {tp : TimeoutParams}
    (h : op.Accepts) : (requestEntry r idx tp op.prep).sqe.call.isClose = op.closes := by
  show (op.prep _).call.isClose = _
  rw [op.prep_call _ h, op.isClose_call]

theorem isClose_linkTimeoutEntry {r : Ring} {tp : TimeoutParams} {x : Flight}
    (hx : x ∈ linkTimeoutEntry r tp) : x.sqe.call.isClose = false := by
  unfold linkTimeoutEntry at hx
  split at hx
  · rw [List.mem_singleton.mp hx]
    rfl
  · exact absurd hx List.not_mem_nil

/-- A failing call leaves a close on the queue exactly under `LeavesClose`. -/
theorem close_mem_leaves_iff {op : COp} {r : Ring} {idx : Int} {tp : TimeoutParams} :
    (∃ x ∈ op.leaves r idx tp, x.sqe.call.isClose = true) ↔ op.LeavesClose r tp := by
  unfold COp.LeavesClose
  by_cases h0 : r.space = 0
  · rw [COp.leaves_of_full (.inl h0)]
    simp [h0]
  by_cases ht : op = .timer none
  · rw [COp.leaves_of_full (.inr ht)]
    simp [ht]
  have hhead : ∀ x : Flight, (x = if op.Fills r tp
      then requestEntry r idx (op.linked tp) op.prep
      else ⟨r.tail, linkedEntry (op.linked tp) (r.sqEntry r.tail)⟩) → x.sqe.call.isClose =
        if op.Fills r tp then op.closes else (r.sqEntry r.tail).call.isClose := by
    rintro x rfl
    by_cases hf : op.Fills r tp
    · rw [if_pos hf, if_pos hf]
      rcases hf with hs | hn | ⟨hacc, -⟩
      · exact absurd hs h0
      · exact absurd hn ht
      · exact isClose_requestEntry hacc
    · rw [if_neg hf, if_neg hf, linkedEntry_call]
  rw [COp.leaves_of_space h0 ht]
  constructor
  · rintro ⟨x, hx, hc⟩
    refine ⟨h0, ht, ?_⟩
    rcases List.mem_cons.mp hx with hx | hx
    · rw [← hhead x hx]
      exact hc
    · rw [isClose_linkTimeoutEntry hx] at hc
      exact absurd hc (by simp)
  · rintro ⟨-, -, hc⟩
    exact ⟨_, List.mem_cons_self .., (hhead _ rfl).trans hc⟩

/-- An SQE that was added was not there before. -/
theorem not_mem_pending {r r' : Ring} {new : List Flight} (hadd : r.Added r' new)
    (ho : r.Ordered) {x : Flight} (hx : x ∈ new) : x ∉ r.pending := by
  intro hm
  have := ho.lt_tail hm
  have := (hadd.seqs x hx).1
  omega

/-! ## One call -/

/-- A Socket with a close is marked as closed. -/
structure ClosingInv (s : System) : Prop where
  base : s.Base
  marked : ∀ sub ∈ s.subs, ∀ id, sub.Closes (.socket id) →
    s.loop.closedFlag (.socket id) = some true

/-- A Socket whose flag is not set has no close. -/
theorem ClosingInv.unclosed (h : s.ClosingInv) {obj : ClosedFlag} (hobj : obj.isFile = false)
    (hflag : s.loop.closedFlag obj = some false) : s.Unclosed obj := by
  intro sub hm hc
  cases obj with
  | file id => exact absurd hobj (by simp [ClosedFlag.isFile])
  | socket id =>
    rw [h.marked sub hm id hc] at hflag
    exact absurd hflag (by simp)

theorem Unclosed.closesFailed {obj : ClosedFlag} (h : s.Unclosed obj) : s.ClosesFailed obj :=
  fun sub hm hc => absurd hc (h sub hm)

/-- The flag that a close takes back is that of its object, or it is that of a File whose
    `close` touches none. -/
theorem flag_of_close {call : OpCall} {obj : ClosedFlag} (hop : call.opcode = .close)
    (hself : call.self = some obj) :
    call.flag = some obj ∨ (call.flag = none ∧ call.isAexit = false ∧ obj.isFile = true) := by
  cases call with
  | fileAexit self | socketAexit self | socketClose self => exact .inl hself
  | fileClose self =>
    obtain rfl := Option.some.inj hself
    exact .inr ⟨rfl, rfl, rfl⟩
  | _ => exact absurd hop (by simp [OpCall.opcode])

theorem opcode_of_aexit {call : OpCall} (h : call.isAexit = true) : call.opcode = .close := by
  cases call with
  | fileAexit self | socketAexit self => rfl
  | _ => exact absurd h (by simp [OpCall.isAexit])

/-- A call that marks an object is a close of it. -/
theorem self_of_flag {call : OpCall} {obj : ClosedFlag} (h : call.flag = some obj) :
    call.self = some obj ∧ call.opcode = .close := by
  cases call with
  | fileAexit self | socketAexit self | socketClose self => exact ⟨h, rfl⟩
  | _ => exact absurd h (by simp [OpCall.flag])

section Call

variable {call : OpCall} {env : CallEnv} {op : COp} {tp : TimeoutParams}

theorem inClosingOrder_iff (hd : s.dispatched call env = some (op, tp)) :
    s.InClosingOrder (.call call env) ↔
      (∀ obj, call.self = some obj →
        s.ObjectInOrder call obj (op.Goes s.loop.ring tp env.submit)) ∧
      (¬ op.Goes s.loop.ring tp env.submit → ¬ op.LeavesClose s.loop.ring tp) := by
  constructor
  · exact fun h => h _ hd
  · intro h x hx
    obtain rfl := Option.some.inj (hd.symm.trans hx)
    exact h

/-- A failing call. -/
theorem handlesObject_of_failed {obj : ClosedFlag} (hself : call.self = some obj)
    (hready : call.Ready s.loop) (hsubs : t.subs = s.subs)
    (hflag : (s.loop.closedFlag obj).isSome → t.loop.closedFlag obj =
      if call.flag = some obj then some false else s.loop.closedFlag obj) :
    s.HandlesObject call obj t ↔
      (call.isAexit = true → s.loop.closedFlag obj = some false) := by
  obtain ⟨b, hb, hopen⟩ := hready.closedFlag hself
  have hflag := hflag (by rw [hb]; rfl)
  constructor
  · intro h ha
    have hop := opcode_of_aexit ha
    rcases flag_of_close hop hself with hf | ⟨-, hn, -⟩
    · rw [if_pos hf] at hflag
      exact (h.flag hop hsubs).symm.trans hflag
    · exact absurd ha (by rw [hn]; simp)
  · intro h
    refine ⟨fun _ hne => absurd hsubs hne, fun _ hne => absurd hsubs hne, fun hop _ => ?_⟩
    rcases flag_of_close hop hself with hf | ⟨hf, -, -⟩
    · rw [if_pos hf] at hflag
      cases ha : call.isAexit with
      | true => rw [hflag, h ha]
      | false => rw [hflag, hb, hopen ha]
    · rw [hf, if_neg (by simp)] at hflag
      exact hflag

/-- An accepted call. -/
theorem handlesObject_of_accepted (h : s.ClosingInv) {obj : ClosedFlag}
    (hself : call.self = some obj) (hready : call.Ready s.loop) (hsubs : t.subs ≠ s.subs) :
    s.HandlesObject call obj t ↔
      (call.opcode = .close → (call.isAexit || obj.isFile) = true → s.ClosesFailed obj) ∧
      (call.opcode ≠ .close → obj.isFile = true → s.Unclosed obj) := by
  obtain ⟨b, hb, hopen⟩ := hready.closedFlag hself
  constructor
  · exact fun ho => ⟨fun hop _ => ho.once hop hsubs, fun hop _ => ho.unused hop hsubs⟩
  · rintro ⟨honce, hunused⟩
    refine ⟨fun hop _ => ?_, fun hop _ => ?_, fun _ he => absurd he hsubs⟩
    · cases hg : call.isAexit || obj.isFile with
      | true => exact honce hop hg
      | false =>
        obtain ⟨ha, hf⟩ := Bool.or_eq_false_iff.mp hg
        rw [hopen ha] at hb
        exact (h.unclosed hf hb).closesFailed
    · cases hf : obj.isFile with
      | true => exact hunused hop hf
      | false =>
        cases ha : call.isAexit with
        | true => exact absurd (opcode_of_aexit ha) hop
        | false =>
          rw [hopen ha] at hb
          exact h.unclosed hf hb

/-- A call closes its object once exactly under the condition. -/
theorem call_iff (h : s.ClosingInv) (he : s.CallEnd call env t) :
    s.ClosedOnce (.call call env) t ↔ s.InClosingOrder (.call call env) := by
  have hobject : ∀ {P : ClosedFlag → Prop}, (∀ obj, call.self = some obj →
      (s.HandlesObject call obj t ↔ P obj)) →
      ((∀ call' env' obj, Act.call call env = .call call' env' → call'.self = some obj →
        s.HandlesObject call' obj t) ↔ ∀ obj, call.self = some obj → P obj) := by
    intro P hP
    constructor
    · exact fun ho obj hself => (hP obj hself).mp (ho call env obj rfl hself)
    · intro ho call' env' obj heq hself
      obtain ⟨rfl, rfl⟩ := Act.call.inj heq
      exact (hP obj hself).mpr (ho obj hself)
  cases he with
  | silent hnone hsubs hring hflag =>
    refine iff_of_true ⟨?_, ?_⟩ ?_
    · intro x hx hnew
      exact absurd (hring ▸ hx) hnew
    · refine (hobject (P := fun _ => True) fun obj hself => iff_of_true ?_ trivial).mpr
        fun _ _ => trivial
      exact ⟨fun _ hne => absurd hsubs hne, fun _ hne => absurd hsubs hne,
        fun _ _ => hflag obj (.inl hself)⟩
    · intro x hx
      rw [hnone] at hx
      exact absurd hx (by simp)
  | @failed op tp idx hd hg hready hcloses hsubs hring hflag =>
    have hsqes : (∀ x ∈ t.loop.ring.pending, x ∉ s.loop.ring.pending →
        x.sqe.call.isClose = true → ∃ sub, t.subs = sub :: s.subs ∧ sub.seq = x.seq ∧
          sub.registration.opcode = .close) ↔ ¬ op.LeavesClose s.loop.ring tp := by
      rw [← close_mem_leaves_iff]
      constructor
      · rintro hall ⟨x, hx, hc⟩
        have hmem : x ∈ t.loop.ring.pending := by
          rw [hring.pending]
          exact List.mem_append_right _ hx
        obtain ⟨sub, hcons, -⟩ :=
          hall x hmem (not_mem_pending hring h.base.ring.ordered hx) hc
        rw [hsubs] at hcons
        exact absurd (congrArg List.length hcons) (by simp)
      · intro hno x hx hnew hc
        rw [hring.pending] at hx
        rcases List.mem_append.mp hx with hx | hx
        · exact absurd hx hnew
        · exact absurd ⟨x, hx, hc⟩ hno
    rw [inClosingOrder_iff hd]
    constructor
    · intro ho
      refine ⟨fun obj hself => ⟨fun hgo => absurd hgo hg, fun hgo => absurd hgo hg,
        fun _ => ?_⟩, fun _ => hsqes.mp ho.sqes⟩
      exact (handlesObject_of_failed hself hready hsubs (hflag obj)).mp
        (ho.object call env obj rfl hself)
    · rintro ⟨hobj, hleft⟩
      refine ⟨hsqes.mpr (hleft hg), (hobject fun obj hself =>
        handlesObject_of_failed hself hready hsubs (hflag obj)).mpr fun obj hself => ?_⟩
      exact (hobj obj hself).2.2 hg
  | @accepted op tp sub hd hg hready hcloses hsubs hnames hseq hring hflag =>
    have hne : t.subs ≠ s.subs := by
      intro he
      rw [hsubs] at he
      exact absurd (congrArg List.length he) (by simp)
    rw [inClosingOrder_iff hd]
    constructor
    · intro ho
      refine ⟨fun obj hself => ?_, fun hn => absurd hg hn⟩
      obtain ⟨honce, hunused⟩ := (handlesObject_of_accepted h hself hready hne).mp
        (ho.object call env obj rfl hself)
      exact ⟨fun _ => honce, fun _ => hunused, fun hn => absurd hg hn⟩
    · rintro ⟨hobj, -⟩
      refine ⟨fun x hx hnew hc => ?_, (hobject fun obj hself =>
        handlesObject_of_accepted h hself hready hne).mpr fun obj hself => ?_⟩
      · -- the close on the ring is the request itself
        rw [hring.pending] at hx
        rcases List.mem_append.mp hx with hx | hx
        · exact absurd hx hnew
        · rcases List.mem_cons.mp hx with rfl | hx
          · refine ⟨sub, hsubs, hseq, ?_⟩
            rw [isClose_requestEntry hg.1, hcloses] at hc
            rw [hnames.1]
            exact beq_iff_eq.mp hc
          · rw [isClose_linkTimeoutEntry hx] at hc
            exact absurd hc (by simp)
      · exact ⟨(hobj obj hself).1 hg, (hobj obj hself).2.1 hg⟩

/-- A call that follows the condition keeps the invariant. -/
theorem call_marked (h : s.ClosingInv) (he : s.CallEnd call env t)
    (hg : s.InClosingOrder (.call call env)) :
    ∀ sub ∈ t.subs, ∀ id, sub.Closes (.socket id) →
      t.loop.closedFlag (.socket id) = some true := by
  have hsome : ∀ {id}, s.loop.closedFlag (.socket id) = some true →
      (s.loop.closedFlag (.socket id)).isSome := fun h => by rw [h]; rfl
  cases he with
  | silent hnone hsubs hring hflag =>
    intro sub hm id hc
    have hb := h.marked sub (hsubs ▸ hm) id hc
    rw [hflag _ (.inr (hsome hb)), hb]
  | failed hd hgo hready hcloses hsubs hring hflag =>
    intro sub hm id hc
    have hb := h.marked sub (hsubs ▸ hm) id hc
    rw [hflag _ (hsome hb)]
    split
    · rename_i hmark
      -- the flag was not set when the close failed, so no close was submitted
      obtain ⟨hself, -⟩ := self_of_flag hmark
      obtain ⟨b, hb', hopen⟩ := hready.closedFlag hself
      obtain rfl := Option.some.inj (hb.symm.trans hb')
      cases ha : call.isAexit with
      | true =>
        have hfalse := (((inClosingOrder_iff hd).mp hg).1 _ hself).2.2 hgo ha
        exact hfalse.symm.trans hb
      | false => exact absurd (hopen ha) (by simp)
    · exact hb
  | accepted hd hgo hready hcloses hsubs hnames hseq hring hflag =>
    intro sub hm id hc
    rw [hsubs] at hm
    rcases List.mem_cons.mp hm with rfl | hm
    · have hmark : call.flag = some (.socket id) := by
        obtain ⟨hop, hsock⟩ := hc
        rw [hnames.1] at hop
        rw [hnames.2.2] at hsock
        cases call with
        | socketAexit self | socketClose self =>
          obtain rfl := Option.some.inj hsock
          rfl
        | fileAexit self | fileClose self =>
          exact absurd hsock (by simp [OpCall.socket, OpCall.onSocket])
        | _ => exact absurd hop (by simp [OpCall.opcode])
      obtain ⟨b, hb, -⟩ := hready.closedFlag (self_of_flag hmark).1
      rw [hflag _ (by rw [hb]; rfl), if_pos hmark]
    · have hb := h.marked sub hm id hc
      rw [hflag _ (hsome hb)]
      split
      · rfl
      · exact hb

end Call

/-! ## All steps -/

/-- An SQE of the library's own closes nothing. -/
theorem isClose_of_internal {call : PrepCall} (h : call.internal = true) :
    call.isClose = false := by
  cases call with
  | close fd => exact absurd h (by simp [PrepCall.internal])
  | _ => rfl

/-- The other steps put no close on the ring. -/
theorem Stepped.noClose (h : s.Base) (hs : Stepped s a t)
    (ha : ∀ call env, a ≠ .call call env) :
    ∀ x ∈ t.loop.ring.pending, x ∉ s.loop.ring.pending → x.sqe.call.isClose = false := by
  intro x hx hnew
  cases hs with
  | called _ _ => exact absurd rfl (ha _ _)
  | posted hp => exact absurd (h.ring.pending_post hp x hx) hnew
  | dropped _ _ | skipped _ _ _ => exact absurd hx hnew
  | handled _ _ _ _ hh =>
    have hpend := (congrArg Ring.pending hh.ring).trans (show _ = s.loop.ring.pending from rfl)
    exact absurd (hpend ▸ hx) hnew
  | quiet _ hq =>
    rw [hq.ring.pending] at hx
    rcases List.mem_append.mp hx with hx | hx
    · exact absurd hx hnew
    · obtain ⟨-, -, call, hc, rfl⟩ := hq.extra x hx
      exact isClose_of_internal hc
  | shutdown _ hg =>
    rcases (gracefulShutdown_pending hg).1 x hx with hx | hx
    · exact absurd hx hnew
    · rw [hx]
      rfl

/-- The other steps leave requests alone and set flags at most. -/
theorem Stepped.marked (h : s.ClosingInv) (hs : Stepped s a t)
    (ha : ∀ call env, a ≠ .call call env) (hd : t.down = false) :
    ∀ sub ∈ t.subs, ∀ id, sub.Closes (.socket id) →
      t.loop.closedFlag (.socket id) = some true := by
  intro sub hm id hc
  cases hs with
  | called _ _ => exact absurd rfl (ha _ _)
  | posted _ | dropped _ _ | skipped _ _ _ => exact h.marked sub hm id hc
  | handled _ _ _ _ hh => exact hh.objects.closedFlag (h.marked sub hm id hc)
  | quiet _ hq =>
    rw [Loop.closedFlag_congr hq.files hq.sockets]
    exact h.marked sub (hq.subs ▸ hm) id hc
  | shutdown _ _ => exact absurd hd (by simp)

/-- One step closes once exactly under the condition, and the condition keeps the
    invariant. -/
theorem closing_step (h : s.ClosingInv) (hs : s.step a = .ok t) :
    (s.ClosedOnce a t ↔ s.InClosingOrder a) ∧
      (s.InClosingOrder a → t.down = false → t.ClosingInv) := by
  obtain ⟨-, hstep⟩ := step_cases h.base hs
  by_cases ha : ∃ call env, a = .call call env
  · obtain ⟨call, env, rfl⟩ := ha
    have hend : s.CallEnd call env t := by
      cases hstep with
      | called hr _ => exact call_ends h.base hr
      | quiet hq _ => exact absurd hq (by simp [Act.quiet])
    exact ⟨call_iff h hend, fun hg hd => ⟨h.base.step hs hd, call_marked h hend hg⟩⟩
  · have hne : ∀ call env, a ≠ .call call env := fun call env he => ha ⟨call, env, he⟩
    refine ⟨iff_of_true
      ⟨fun x hx hnew hc => ?_, fun call env obj he => absurd he (hne _ _)⟩ ?_,
      fun _ hd => ⟨h.base.step hs hd, hstep.marked h hne hd⟩⟩
    · rw [hstep.noClose h.base hne x hx hnew] at hc
      exact absurd hc (by simp)
    · unfold InClosingOrder
      split
      · exact absurd rfl (hne _ _)
      · trivial

/-! ## Every run -/

theorem newLoop_closingInv {registrySize : Nat} {setup : SignalSetup} {wakeupFd submit : Int}
    (h : registrySize < 2 ^ 32) :
    (init (uringioLoopInit registrySize setup wakeupFd submit)).ClosingInv :=
  ⟨newLoop_base h, fun _ hm => absurd hm List.not_mem_nil⟩

theorem closedOnce_iff_inClosingOrder (h : s.ClosingInv) {acts : List Act}
    (hr : s.run acts = .ok t) :
    Lib.Each step ClosedOnce s acts ↔ Lib.Meets step InClosingOrder s acts := by
  refine Lib.each_iff_meets (fun s : System => s.down = false → s.ClosingInv) ?_ hr fun _ => h
  intro s a t hinv hs
  exact closing_step (hinv (down_of_step hs)) hs

/-- In every run of a new loop every descriptor is closed at most once, is not used after
    its close, and keeps its flag when a close fails, exactly when the run is
    `InClosingOrder`. -/
theorem closed_once_iff {registrySize : Nat} {setup : SignalSetup} {wakeupFd submit : Int}
    (h : registrySize < 2 ^ 32) {acts : List Act}
    (hr : (init (uringioLoopInit registrySize setup wakeupFd submit)).run acts = .ok t) :
    Lib.Each step ClosedOnce (init (uringioLoopInit registrySize setup wakeupFd submit)) acts ↔
    Lib.Meets step InClosingOrder
      (init (uringioLoopInit registrySize setup wakeupFd submit)) acts :=
  closedOnce_iff_inClosingOrder (newLoop_closingInv h) hr

/-- A socket that is closed twice: the second call finds the flag set. -/
def socketClosedTwice : List Act :=
  [.call (.prepSocket 2 1 none) .ok, .post 1 5 0, .read .ok, .call (.socketClose 0 none) .ok,
    .call (.socketClose 0 none) .ok, .post 2 0 0, .read .ok]

theorem closed_once_socket :
    ∃ t, (init (uringioLoopInit 4 .failed 3 1)).run socketClosedTwice = .ok t ∧
      Lib.Each step ClosedOnce (init (uringioLoopInit 4 .failed 3 1)) socketClosedTwice := by
  obtain ⟨t, ht, -⟩ : ∃ t,
      (init (uringioLoopInit 4 .failed 3 1)).run socketClosedTwice = .ok t ∧ True := by
    decide +kernel
  refine ⟨t, ht, ?_⟩
  rw [closed_once_iff (by decide) ht]
  decide +kernel

/-- A file that is closed twice before the first close has completed. -/
def fileClosedTwice : List Act :=
  [.call (.open 0 (.ok "a") 0 0 0 none) .ok, .post 1 5 0, .read .ok,
    .call (.fileClose 0 none) .ok, .call (.fileClose 0 none) .ok]

/-- Both closes of the one descriptor are submitted. -/
theorem file_closed_twice :
    ¬ Lib.Each step ClosedOnce (init (uringioLoopInit 4 .failed 3 1)) fileClosedTwice ∧
    ∃ t, (init (uringioLoopInit 4 .failed 3 1)).run fileClosedTwice = .ok t ∧
      (t.loop.ring.inflight.map fun x => x.sqe.call).filter PrepCall.isClose =
        [.close 5, .close 5] := by
  have hruns : ∃ t, (init (uringioLoopInit 4 .failed 3 1)).run fileClosedTwice = .ok t ∧
      (t.loop.ring.inflight.map fun x => x.sqe.call).filter PrepCall.isClose =
        [.close 5, .close 5] := by
    decide +kernel
  have hnot : ¬ Lib.Meets step InClosingOrder (init (uringioLoopInit 4 .failed 3 1))
      fileClosedTwice := by
    decide +kernel
  refine ⟨?_, hruns⟩
  obtain ⟨t, ht, -⟩ := hruns
  rwa [closedOnce_iff_inClosingOrder (newLoop_closingInv (by decide)) ht]

end System

end Uringio
