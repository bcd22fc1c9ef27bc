/-
  The C layer as one type: an operation of `src/ops` or `src/timer` with its arguments,
  the call it makes, and what any such call does to the submission queue.

  Every operation is `prepAndSubmit` for the entry that `prep` fills, except where
  `prepSocket` refuses the domain and where `timer` gets a null pointer (`Accepts`). The
  SQE is taken before the domain is checked and before the SQE of a required timeout is
  asked for, and it is not given back when the call fails: a failing call leaves the queue
  as it was exactly under `CleanFailure`.
-/
import Uringio.Ops.Sockets

namespace Uringio

/-- An operation of the C layer with the arguments that its caller passes. -/
inductive COp where
  | openFile (dfd : Int) (path : String) (flags resolve mode : Int)
  | read (fd : Int) (buf : Ptr) (size : Nat) (offset : Int)
  | readv (fd : Int) (iovecs : List Iovec) (nrVecs : Nat) (offset : Int) (nowait : Bool)
  | write (fd : Int) (buf : Ptr) (size : Nat) (offset : Int)
  | writev (fd : Int) (iovecs : List Iovec) (nrVecs : Nat) (offset flags : Int)
  | closeFile (fd : Int)
  | fsync (fd : Int)
  | fdatasync (fd : Int)
  | splice (fdIn offIn fdOut offOut nbytes flag : Int)
  | readFixed (fd : Int) (buf : Ptr) (size : Nat) (offset bufIndex : Int)
  | writeFixed (fd : Int) (buf : Ptr) (size : Nat) (offset bufIndex : Int)
  | readMultishot (fd offset bgid : Int)
  | readBufferSelect (fd : Int) (size : Nat) (offset bgid : Int)
  | readvBufferSelect (fd : Int) (size : Nat) (offset bgid : Int) (nowait : Bool)
  | prepSocket (domain type : Int)
  | bind (fd : Int) (addr : SockAddr) (addrlen : Nat)
  | connect (fd : Int) (addr : SockAddr) (addrlen : Nat)
  | listen (fd backlog : Int)
  | accept (sockfd : Int) (addr : Option Block) (flags : Int)
  | closeSocket (sockfd : Int)
  | send (sockfd : Int) (buf : Ptr) (len : Nat) (isPollFirst : Bool)
  | recv (sockfd : Int) (buf : Ptr) (len : Nat) (isPollFirst : Bool)
  | sendto (sockfd : Int) (buf : Ptr) (len : Nat) (addr : SockAddr) (addrlen : Nat)
      (isPollFirst : Bool)
  | recvfrom (sockfd : Int) (buf : Ptr) (len : Nat) (addr : SockAddr) (addrlen : Nat)
      (isPollFirst : Bool)
  | sendmsg (sockfd : Int) (iovecs : List Iovec) (nrVecs : Nat) (addr : Option SockAddr)
      (addrlen : Nat) (isPollFirst : Bool)
  | recvmsg (sockfd : Int) (iovecs : List Iovec) (nrVecs : Nat) (isPollFirst : Bool)
  | recvFixed (sockfd : Int) (buf : Ptr) (len : Nat) (isPollFirst : Bool) (bufIndex : Int)
  | recvmsgFixed (sockfd : Int) (iovecs : List Iovec) (nrVecs : Nat) (isPollFirst : Bool)
      (bufIndex : Int)
  | acceptMultishot (sockfd : Int) (addr : Option Block) (flags : Int)
  | recvMultishot (sockfd : Int) (len : Nat) (bgid : Int) (isPollFirst : Bool)
  | recvmsgMultishot (sockfd bgid : Int) (isPollFirst : Bool) (msghdr : Option Block)
  | recvBufferSelect (sockfd : Int) (len : Nat) (bgid : Int) (isPollFirst : Bool)
  | recvmsgBufferSelect (sockfd isPollFirst bgid : Int)
  | sendZc (sockfd : Int) (buf : Ptr) (len : Nat) (isPollFirst : Bool)
  | sendZcFixed (sockfd : Int) (buf : Ptr) (len : Nat) (isPollFirst : Bool) (bufIndex : Int)
  | sendmsgZc (sockfd : Int) (iovecs : List Iovec) (nrVecs : Nat) (addr : Option SockAddr)
      (addrlen : Nat) (isPollFirst : Bool) (bufIndex : Int)
  | timer (timerParams : Option TimerParams)
deriving DecidableEq, Repr

namespace COp

/-- The call of the operation's function. `timer` takes no timeout parameters. -/
def exec (op : COp) (r : Ring) (idx : Int) (t : TimeoutParams) (submit : Int) : Int × Ring :=
  match op with
  | .openFile dfd path flags resolve mode =>
    Uringio.openFile r idx dfd path flags resolve mode t submit
  | .read fd buf size offset => uringioRead r idx fd buf size offset t submit
  | .readv fd iovecs nrVecs offset nowait =>
    uringioReadv r idx fd iovecs nrVecs offset nowait t submit
  | .write fd buf size offset => uringioWrite r idx fd buf size offset t submit
  | .writev fd iovecs nrVecs offset flags =>
    uringioWritev r idx fd iovecs nrVecs offset flags t submit
  | .closeFile fd => uringioCloseFile r idx fd t submit
  | .fsync fd => uringioFsync r idx fd t submit
  | .fdatasync fd => uringioFdatasync r idx fd t submit
  | .splice fdIn offIn fdOut offOut nbytes flag =>
    uringioSplice r idx fdIn offIn fdOut offOut nbytes flag t submit
  | .readFixed fd buf size offset bufIndex =>
    uringioReadFixed r idx fd buf size offset bufIndex t submit
  | .writeFixed fd buf size offset bufIndex =>
    uringioWriteFixed r idx fd buf size offset bufIndex t submit
  | .readMultishot fd offset bgid => uringioReadMultishot r idx fd offset bgid t submit
  | .readBufferSelect fd size offset bgid =>
    uringioReadBufferSelect r idx fd size offset bgid t submit
  | .readvBufferSelect fd size offset bgid nowait =>
    uringioReadvBufferSelect r idx fd size offset bgid nowait t submit
  | .prepSocket domain type => Uringio.prepSocket r idx domain type t submit
  | .bind fd addr addrlen => uringioBind r idx fd addr addrlen t submit
  | .connect fd addr addrlen => uringioConnect r idx fd addr addrlen t submit
  | .listen fd backlog => uringioListen r idx fd backlog t submit
  | .accept sockfd addr flags => uringioAccept r idx sockfd addr flags t submit
  | .closeSocket sockfd => uringioCloseSocket r idx sockfd t submit
  | .send sockfd buf len isPollFirst => uringioSend r idx sockfd buf len isPollFirst t submit
  | .recv sockfd buf len isPollFirst => uringioRecv r idx sockfd buf len isPollFirst t submit
  | .sendto sockfd buf len addr addrlen isPollFirst =>
    uringioSendto r idx sockfd buf len addr addrlen isPollFirst t submit
  | .recvfrom sockfd buf len addr addrlen isPollFirst =>
    uringioRecvfrom r idx sockfd buf len addr addrlen isPollFirst t submit
  | .sendmsg sockfd iovecs nrVecs addr addrlen isPollFirst =>
    uringioSendmsg r idx sockfd iovecs nrVecs addr addrlen isPollFirst t submit
  | .recvmsg sockfd iovecs nrVecs isPollFirst =>
    uringioRecvmsg r idx sockfd iovecs nrVecs isPollFirst t submit
  | .recvFixed sockfd buf len isPollFirst bufIndex =>
    uringioRecvFixed r idx sockfd buf len isPollFirst bufIndex t submit
  | .recvmsgFixed sockfd iovecs nrVecs isPollFirst bufIndex =>
    uringioRecvmsgFixed r idx sockfd iovecs nrVecs isPollFirst bufIndex t submit
  | .acceptMultishot sockfd addr flags => uringioAcceptMultishot r idx sockfd addr flags t submit
  | .recvMultishot sockfd len bgid isPollFirst =>
    uringioRecvMultishot r idx sockfd len bgid isPollFirst t submit
  | .recvmsgMultishot sockfd bgid isPollFirst msghdr =>
    uringioRecvmsgMultishot r idx sockfd bgid isPollFirst msghdr t submit
  | .recvBufferSelect sockfd len bgid isPollFirst =>
    uringioRecvBufferSelect r idx sockfd len bgid isPollFirst t submit
  | .recvmsgBufferSelect sockfd isPollFirst bgid =>
    uringioRecvmsgBufferSelect r idx sockfd isPollFirst bgid t submit
  | .sendZc sockfd buf len isPollFirst => uringioSendZc r idx sockfd buf len isPollFirst t submit
  | .sendZcFixed sockfd buf len isPollFirst bufIndex =>
    uringioSendZcFixed r idx sockfd buf len isPollFirst bufIndex t submit
  | .sendmsgZc sockfd iovecs nrVecs addr addrlen isPollFirst bufIndex =>
    uringioSendmsgZc r idx sockfd iovecs nrVecs addr addrlen isPollFirst bufIndex t submit
  | .timer timerParams => Uringio.timer r idx timerParams submit

/-- How the operation fills the SQE it has taken. -/
def prep : COp → Sqe → Sqe
  | .openFile dfd path flags resolve mode =>
    ioUringPrep (.openat2 dfd path
      ⟨toUint64 (if flags = -1 then openDefaultFlags else flags), toUnsigned mode, toUint64 resolve⟩)
  | .read fd buf size offset => ioUringPrep (.read fd buf size (toUint64 offset))
  | .readv fd iovecs nrVecs offset nowait =>
    ioUringPrep (.readv2 fd iovecs nrVecs (toUint64 offset) (if nowait then rwfNowait else 0))
  | .write fd buf size offset => ioUringPrep (.write fd buf size (toUint64 offset))
  | .writev fd iovecs nrVecs offset flags =>
    ioUringPrep (.writev2 fd iovecs nrVecs (toUint64 offset) flags)
  | .closeFile fd => ioUringPrep (.close fd)
  | .fsync fd => ioUringPrep (.fsync fd 0)
  | .fdatasync fd => ioUringPrep (.fsync fd ioringFsyncDatasync)
  | .splice fdIn offIn fdOut offOut nbytes flag =>
    ioUringPrep (.splice fdIn offIn fdOut offOut (toUnsigned nbytes) (toUnsigned flag))
  | .readFixed fd buf size offset bufIndex =>
    ioUringPrep (.readFixed fd buf size (toUint64 offset) bufIndex)
  | .writeFixed fd buf size offset bufIndex =>
    ioUringPrep (.writeFixed fd buf size (toUint64 offset) bufIndex)
  | .readMultishot fd offset bgid => ioUringPrep (.readMultishot fd 0 (toUint64 offset) bgid)
  | .readBufferSelect fd size offset bgid =>
    selectBuffer bgid ∘ ioUringPrep (.read fd .null size (toUint64 offset))
  | .readvBufferSelect fd size offset bgid nowait =>
    selectBuffer bgid ∘ ioUringPrep
      (.readv2 fd [⟨.null, size⟩] 1 (toUint64 offset) (if nowait then rwfNowait else 0))
  | .prepSocket domain type => ioUringPrep (.socket domain type 0 0)
  | .bind fd addr addrlen => ioUringPrep (.bind fd addr addrlen)
  | .connect fd addr addrlen => ioUringPrep (.connect fd addr addrlen)
  | .listen fd backlog => ioUringPrep (.listen fd backlog)
  | .accept sockfd addr flags => ioUringPrep (.accept sockfd addr flags)
  | .closeSocket sockfd => ioUringPrep (.close sockfd)
  | .send sockfd buf len isPollFirst =>
    ioUringPrep (.send sockfd buf len (pollFirstFlags isPollFirst))
  | .recv sockfd buf len isPollFirst =>
    ioUringPrep (.recv sockfd buf len (pollFirstFlags isPollFirst))
  | .sendto sockfd buf len addr addrlen isPollFirst =>
    ioUringPrep (.sendto sockfd buf len (pollFirstFlags isPollFirst) addr addrlen)
  | .recvfrom sockfd buf len addr addrlen isPollFirst =>
    ioUringPrep
      (.recvmsg sockfd ⟨some addr, addrlen, [⟨buf, len⟩], 1⟩ (pollFirstFlags isPollFirst))
  | .sendmsg sockfd iovecs nrVecs addr addrlen isPollFirst =>
    ioUringPrep (.sendmsg sockfd ⟨addr, addrlen, iovecs, nrVecs⟩ (pollFirstFlags isPollFirst))
  | .recvmsg sockfd iovecs nrVecs isPollFirst =>
    ioUringPrep (.recvmsg sockfd ⟨none, 0, iovecs, nrVecs⟩ (pollFirstFlags isPollFirst))
  | .recvFixed sockfd buf len isPollFirst bufIndex =>
    useFixedBuf bufIndex ∘ ioUringPrep (.recv sockfd buf len (pollFirstFlags isPollFirst))
  | .recvmsgFixed sockfd iovecs nrVecs isPollFirst bufIndex =>
    useFixedBuf bufIndex ∘
      ioUringPrep (.recvmsg sockfd ⟨none, 0, iovecs, nrVecs⟩ (pollFirstFlags isPollFirst))
  | .acceptMultishot sockfd addr flags => ioUringPrep (.multishotAccept sockfd addr flags)
  | .recvMultishot sockfd len bgid isPollFirst =>
    selectBuffer bgid ∘
      ioUringPrep (.recvMultishot sockfd .null len (pollFirstFlags isPollFirst))
  | .recvmsgMultishot sockfd bgid isPollFirst msghdr =>
    selectBuffer bgid ∘
      ioUringPrep (.recvmsgMultishot sockfd msghdr (pollFirstFlags isPollFirst))
  | .recvBufferSelect sockfd len bgid isPollFirst =>
    selectBuffer bgid ∘ ioUringPrep (.recv sockfd .null len (pollFirstFlags isPollFirst))
  | .recvmsgBufferSelect sockfd isPollFirst bgid =>
    selectBuffer bgid ∘
      ioUringPrep (.recvmsg sockfd ⟨none, 0, [], 0⟩ (pollFirstFlags (isPollFirst != 0)))
  | .sendZc sockfd buf len isPollFirst =>
    ioUringPrep (.sendZc sockfd buf len (pollFirstFlags isPollFirst) 0)
  | .sendZcFixed sockfd buf len isPollFirst bufIndex =>
    ioUringPrep (.sendZcFixed sockfd buf len (pollFirstFlags isPollFirst) 0 bufIndex)
  | .sendmsgZc sockfd iovecs nrVecs addr addrlen isPollFirst bufIndex =>
    useFixedBuf bufIndex ∘
      ioUringPrep (.sendmsgZc sockfd ⟨addr, addrlen, iovecs, nrVecs⟩ (pollFirstFlags isPollFirst))
  | .timer none => id
  | .timer (some t) =>
    ioUringPrep
      (.timeout ⟨t.sec, t.nsec⟩ (toUnsigned t.count) (if t.isMultishot then 64 else 0))

/-- The operation gets as far as filling an SQE. -/
def Accepts : COp → Prop
  | .prepSocket domain _ => domain = afInet ∨ domain = afInet6
  | .timer timerParams => timerParams ≠ none
  | _ => True

instance : DecidablePred Accepts := fun op => by
  cases op <;> unfold Accepts <;> infer_instance

/-- The timeout that the operation links to its SQE. -/
def linked (op : COp) (t : TimeoutParams) : TimeoutParams :=
  match op with
  | .timer _ => .zero
  | _ => t

/-- The content of the submitted SQE. -/
def call (op : COp) : PrepCall := (op.prep default).call

theorem prep_call (op : COp) (e : Sqe) (h : op.Accepts) : (op.prep e).call = op.call := by
  cases op
  case timer timerParams =>
    cases timerParams with
    | none => exact absurd rfl h
    | some t => rfl
  all_goals rfl

theorem timer_eq_prepAndSubmit (r : Ring) (idx : Int) (t : TimerParams) (submit : Int) :
    Uringio.timer r idx (some t) submit =
      prepAndSubmit r idx .zero (COp.timer (some t)).prep submit := by
  unfold Uringio.timer prepAndSubmit sqeWithOptionalTimeout createSqe
  by_cases h : r.space = 0
  · rw [ioUringGetSqe_of_full h]
  · rw [ioUringGetSqe_of_space h]
    rfl

/-- Every operation that gets as far as filling an SQE is `prepAndSubmit`. -/
theorem exec_eq (op : COp) (h : op.Accepts) (r : Ring) (idx : Int) (t : TimeoutParams)
    (submit : Int) :
    op.exec r idx t submit = prepAndSubmit r idx (op.linked t) op.prep submit := by
  cases op
  case timer timerParams =>
    cases timerParams with
    | none => exact absurd rfl h
    | some p => exact timer_eq_prepAndSubmit r idx p submit
  case prepSocket domain type =>
    have hd : domain = afInet ∨ domain = afInet6 := h
    simp only [exec, Uringio.prepSocket, prepAndSubmit, hd, decide_true, Bool.not_true,
      Bool.false_eq_true, if_false]
    rfl
  all_goals rfl

theorem exec_outcome (op : COp) (h : op.Accepts) (r : Ring) (idx : Int) (t : TimeoutParams)
    (submit : Int) :
    SubmitOutcome r idx (op.linked t) op.prep submit (op.exec r idx t submit) := by
  rw [op.exec_eq h]
  exact prepAndSubmit_outcome r idx (op.linked t) op.prep submit

/-- An operation that never fills an SQE fails; with room in the queue only the timer with
    a null pointer leaves the queue as it was. -/
theorem exec_of_not_accepts (op : COp) (h : ¬ op.Accepts) (r : Ring) (idx : Int)
    (t : TimeoutParams) (submit : Int) :
    (op.exec r idx t submit).1 < 0 ∧ r.SameKernel (op.exec r idx t submit).2 ∧
      ((op.exec r idx t submit).2.queued = r.queued ↔ r.space = 0 ∨ op = .timer none) := by
  cases op
  case timer timerParams =>
    cases timerParams with
    | none => exact ⟨by simp [exec, Uringio.timer], ⟨rfl, rfl, rfl, rfl⟩, by simp [exec, Uringio.timer]⟩
    | some p => exact absurd (by simp [Accepts]) h
  case prepSocket domain type =>
    have hd : ¬ (domain = afInet ∨ domain = afInet6) := h
    have hgrow : ∀ {r' : Ring} {x : Flight} {xs : List Flight},
        r'.queued = r.queued ++ x :: xs → ¬ r'.queued = r.queued := by
      intro r' x xs hq he
      have := congrArg List.length (hq.symm.trans he)
      simp at this
    simp only [exec, Uringio.prepSocket]
    rcases sqeWithOptionalTimeout_cases r t with ⟨hs, he⟩ | ⟨hs, -, r', he, hk, hq⟩ |
      ⟨hs, -, r', he, hk, hq⟩
    · rw [he]
      exact ⟨by simp, ⟨rfl, rfl, rfl, rfl⟩, by simp [hs]⟩
    · rw [he]
      exact ⟨by simp, hk, by simp [hgrow hq, hs]⟩
    · rw [he]
      simp only [hd, decide_false, Bool.not_false, if_true]
      exact ⟨by simp, hk, by simp [hgrow hq, hs]⟩
  all_goals exact absurd trivial h

/-! ## What a failing call leaves on the queue -/

/-- The call fails before it takes an SQE, or it does not fail: the queue is full, the
    timer gets no parameters, or the domain is supported, a required timeout finds a second
    SQE, and `io_uring_submit` reports no error. -/
def CleanFailure (op : COp) (r : Ring) (t : TimeoutParams) (submit : Int) : Prop :=
  r.space = 0 ∨ op = .timer none ∨
    (op.Accepts ∧ ¬ (r.space = 1 ∧ (op.linked t).isRequired) ∧ 0 ≤ submit)

/-- The operation is one that fills its SQE, finds the SQEs it needs, and is submitted. -/
def Goes (op : COp) (r : Ring) (t : TimeoutParams) (submit : Int) : Prop :=
  op.Accepts ∧ r.space ≠ 0 ∧ ¬ (r.space = 1 ∧ (op.linked t).isRequired) ∧ 0 ≤ submit

instance (op : COp) (r : Ring) (t : TimeoutParams) (submit : Int) :
    Decidable (op.Goes r t submit) := by
  unfold Goes
  infer_instance

/-- Whatever the call takes from the queue it also fills. -/
def Fills (op : COp) (r : Ring) (t : TimeoutParams) : Prop :=
  r.space = 0 ∨ op = .timer none ∨ (op.Accepts ∧ ¬ (r.space = 1 ∧ (op.linked t).isRequired))

instance (op : COp) (r : Ring) (t : TimeoutParams) : Decidable (op.Fills r t) := by
  unfold Fills
  infer_instance

/-- What a failing call adds to the queue: an SQE, filled or not, and that of its timeout. -/
def leaves (op : COp) (r : Ring) (idx : Int) (t : TimeoutParams) : List Flight :=
  if r.space = 0 ∨ op = .timer none then []
  else
    (if op.Fills r t then requestEntry r idx (op.linked t) op.prep
      else ⟨r.tail, linkedEntry (op.linked t) (r.sqEntry r.tail)⟩) ::
      linkTimeoutEntry r (op.linked t)

theorem leaves_of_full {op : COp} {r : Ring} {idx : Int} {t : TimeoutParams}
    (h : r.space = 0 ∨ op = .timer none) : op.leaves r idx t = [] := if_pos h

theorem leaves_of_space {op : COp} {r : Ring} {idx : Int} {t : TimeoutParams}
    (hs : r.space ≠ 0) (ht : op ≠ .timer none) : op.leaves r idx t =
      (if op.Fills r t then requestEntry r idx (op.linked t) op.prep
        else ⟨r.tail, linkedEntry (op.linked t) (r.sqEntry r.tail)⟩) ::
        linkTimeoutEntry r (op.linked t) :=
  if_neg (by tauto)

theorem queued_of_failed (op : COp) {r r' : Ring} {idx : Int} {t : TimeoutParams}
    {submit n : Int} (h : op.exec r idx t submit = (n, r')) (hn : n < 1) :
    r'.queued = r.queued ++ op.leaves r idx t := by
  by_cases ha : op.Accepts
  · have hne : op ≠ .timer none := by
      rintro rfl
      exact ha rfl
    have ho := op.exec_outcome ha r idx t submit
    rw [h] at ho
    cases ho with
    | full hs => rw [leaves_of_full (.inl hs), List.append_nil]
    | noTimeout hs hr hk hq =>
      have hfills : ¬ op.Fills r t := by
        rintro (h0 | ht | ⟨-, hroom⟩)
        · omega
        · exact hne ht
        · exact hroom ⟨hs, hr⟩
      have hlink : linkTimeoutEntry r (op.linked t) = [] := if_neg (by omega)
      rw [leaves_of_space (by omega) hne, if_neg hfills, hlink]
      exact hq
    | failed hs hr hneg hk hq =>
      rw [leaves_of_space hs hne, if_pos (show op.Fills r t from .inr (.inr ⟨ha, hr⟩))]
      exact hq
    | accepted hs hr hpos hc hcq hl ht hi => omega
  · cases op
    case timer timerParams =>
      cases timerParams with
      | none =>
        obtain ⟨-, rfl⟩ := Prod.mk.inj h
        rw [leaves_of_full (.inr rfl), List.append_nil]
      | some p => exact absurd (by simp [Accepts]) ha
    case prepSocket domain type =>
      have hd : ¬ (domain = afInet ∨ domain = afInet6) := ha
      have hne : prepSocket domain type ≠ .timer none := COp.noConfusion
      have hfills : r.space ≠ 0 → ¬ (prepSocket domain type).Fills r t := by
        rintro hs (h0 | ht | ⟨hacc, -⟩)
        · exact hs h0
        · exact hne ht
        · exact ha hacc
      simp only [exec, Uringio.prepSocket] at h
      rcases sqeWithOptionalTimeout_cases r t with ⟨hs, he⟩ | ⟨hs, -, r1, he, hk, hq⟩ |
        ⟨hs, -, r1, he, hk, hq⟩
      · rw [he] at h
        obtain ⟨-, rfl⟩ := Prod.mk.inj h
        rw [leaves_of_full (.inl hs), List.append_nil]
      · rw [he] at h
        obtain ⟨-, rfl⟩ := Prod.mk.inj h
        have hlink : linkTimeoutEntry r t = [] := if_neg (by omega)
        rw [leaves_of_space (by omega) hne, if_neg (hfills (by omega))]
        show r1.queued = r.queued ++ _ :: linkTimeoutEntry r t
        rw [hlink]
        exact hq
      · rw [he] at h
        simp only [hd, decide_false, Bool.not_false, if_true] at h
        obtain ⟨-, rfl⟩ := Prod.mk.inj h
        rw [leaves_of_space hs hne, if_neg (hfills hs)]
        exact hq
    all_goals exact absurd trivial ha

/-- What lies in the entries that a failing call leaves behind. -/
theorem mem_leaves {op : COp} {r : Ring} {idx : Int} {t : TimeoutParams} {x : Flight}
    (hx : x ∈ op.leaves r idx t) :
    (op.Accepts ∧ x = requestEntry r idx (op.linked t) op.prep) ∨
      x ∈ linkTimeoutEntry r (op.linked t) ∨
      (¬ op.Fills r t ∧ x = ⟨r.tail, linkedEntry (op.linked t) (r.sqEntry r.tail)⟩) := by
  unfold leaves at hx
  split at hx
  · exact absurd hx List.not_mem_nil
  · rename_i hnone
    rcases List.mem_cons.mp hx with rfl | hx
    · by_cases hf : op.Fills r t
      · rw [if_pos hf]
        rcases hf with hs | ht | ⟨hacc, -⟩
        · exact absurd (.inl hs) hnone
        · exact absurd (.inr ht) hnone
        · exact .inl ⟨hacc, rfl⟩
      · rw [if_neg hf]
        exact .inr (.inr ⟨hf, rfl⟩)
    · exact .inr (.inl hx)

/-- The result of a C-layer call tells whether its request was submitted. -/
theorem goes_iff (op : COp) (r : Ring) (idx : Int) (t : TimeoutParams) (submit : Int) :
    op.Goes r t submit ↔ ¬ (op.exec r idx t submit).1 < 1 := by
  by_cases ha : op.Accepts
  · have ho := op.exec_outcome ha r idx t submit
    generalize op.exec r idx t submit = out at ho
    cases ho with
    | full hs =>
      refine ⟨fun h => absurd hs h.2.1, fun h => ?_⟩
      exact absurd (by simp) h
    | noTimeout hs hr _ _ =>
      refine ⟨fun h => absurd ⟨hs, hr⟩ h.2.2.1, fun h => ?_⟩
      exact absurd (by simp) h
    | failed _ _ hneg _ _ =>
      refine ⟨fun h => absurd h.2.2.2 (Int.not_le.mpr hneg), fun h => ?_⟩
      exact absurd (by simp) h
    | accepted hs hr hpos _ _ _ _ _ => exact ⟨fun _ => by simp, fun _ => ⟨ha, hs, hr, hpos⟩⟩
  · have hneg := (op.exec_of_not_accepts ha r idx t submit).1
    exact ⟨fun h => absurd h.1 ha, fun h => absurd (by omega) h⟩

/-- What a clean failure leaves of the queue. -/
theorem failure_keeps_queue {op : COp} {r : Ring} {idx : Int} {t : TimeoutParams} {submit : Int}
    (h : op.CleanFailure r t submit) (hn : (op.exec r idx t submit).1 < 1) :
    (op.exec r idx t submit).2.queued = r.queued := by
  by_cases ha : op.Accepts
  · have hne : op ≠ .timer none := by
      rintro rfl
      exact ha rfl
    have ho := op.exec_outcome ha r idx t submit
    generalize op.exec r idx t submit = out at ho hn ⊢
    cases ho with
    | full _ => rfl
    | noTimeout hs hr _ _ =>
      rcases h with hs' | he | ⟨-, hr', -⟩
      · omega
      · exact absurd he hne
      · exact absurd ⟨hs, hr⟩ hr'
    | failed hs hr hneg _ _ =>
      rcases h with hs' | he | ⟨-, -, hpos⟩
      · exact absurd hs' hs
      · exact absurd he hne
      · omega
    | accepted _ _ _ _ _ _ _ _ => exact absurd hn (by simp)
  · obtain ⟨-, -, hq⟩ := op.exec_of_not_accepts ha r idx t submit
    rcases h with hs | hn | ⟨hacc, -⟩
    · exact hq.mpr (Or.inl hs)
    · exact hq.mpr (Or.inr hn)
    · exact absurd hacc ha

/-- A failing call leaves the queue of unsubmitted SQEs as it was exactly when it fails
    before it takes its SQE. -/
theorem failure_keeps_queue_iff (op : COp) (r : Ring) (idx : Int) (t : TimeoutParams)
    (submit : Int) :
    ((op.exec r idx t submit).1 < 1 → (op.exec r idx t submit).2.queued = r.queued) ↔
      op.CleanFailure r t submit := by
  refine ⟨fun hk => ?_, fun h hn => failure_keeps_queue h hn⟩
  have hgrow : ∀ {r' : Ring} {x : Flight} {xs : List Flight},
      r'.queued = r.queued ++ x :: xs → ¬ r'.queued = r.queued := by
    intro r' x xs hq he
    have := congrArg List.length (hq.symm.trans he)
    simp at this
  unfold CleanFailure
  by_cases h : op.Accepts
  · have ho := op.exec_outcome h r idx t submit
    generalize op.exec r idx t submit = out at ho hk
    cases ho with
    | full hs => exact Or.inl hs
    | noTimeout _ _ _ hq => exact absurd (hk (by simp)) (hgrow hq)
    | failed _ _ _ _ hq => exact absurd (hk (by simp)) (hgrow hq)
    | accepted _ hr hpos _ _ _ _ _ => exact Or.inr (Or.inr ⟨h, hr, hpos⟩)
  · obtain ⟨hneg, -, hq⟩ := op.exec_of_not_accepts h r idx t submit
    rcases hq.mp (hk (by omega)) with hs | hn
    · exact Or.inl hs
    · exact Or.inr (Or.inl hn)

/-- A write to descriptor 7 as it stays in the ring entry it was submitted from. -/
def staleWrite : Sqe := ⟨.write 7 (.mem 0) 5 0, 0, 0, 0, 3⟩

/-- A queue of four entries that are all in their second use. -/
def staleRing : Ring := ⟨List.replicate 4 staleWrite, 4, 0, [], []⟩

/-- `prep_socket(AF_UNIX)` returns -2 with an SQE on the queue, and the fsync that follows
    submits the old write a second time. -/
theorem refused_socket_resubmits_write :
    ((prepSocket 1 1).exec staleRing 0 .zero 1).1 = -2 ∧
    ((prepSocket 1 1).exec staleRing 0 .zero 1).2.queued ≠ staleRing.queued ∧
    ((fsync 9).exec ((prepSocket 1 1).exec staleRing 0 .zero 1).2 0 .zero 2).2.inflight.map
        Flight.sqe =
      [staleWrite, ⟨.fsync 9 0, 0, 0, 0, 0⟩] := by
  decide

end COp

end Uringio
