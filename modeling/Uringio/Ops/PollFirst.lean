/-
  What `is_poll_first` changes in the SQE of a send or receive operation.

  The C layer builds a flag word with IORING_RECVSEND_POLL_FIRST and passes it as the
  `flags` of the prep helper. There it becomes `msg_flags`, where bit 0 is MSG_OOB; the bit
  of `ioprio` that asks for poll-first is never set. The runs with and without the option
  differ in nothing else only where no SQE is filled (`pollFirstOnly_iff`).
-/
import Mathlib.Data.List.Forall2
import Uringio.Ops.Chains

namespace Uringio

/-! ## The fields of a prepared SQE -/

/-- `sqe->msg_flags` as the prep helper leaves it. -/
def PrepCall.msgFlags : PrepCall → Int
  | .send _ _ _ flags => flags
  | .recv _ _ _ flags => flags
  | .sendto _ _ _ flags _ _ => flags
  | .sendmsg _ _ flags => flags
  | .recvmsg _ _ flags => flags
  | .recvMultishot _ _ _ flags => flags
  | .recvmsgMultishot _ _ flags => flags
  | .sendZc _ _ _ flags _ => flags
  | .sendZcFixed _ _ _ flags _ _ => flags
  | .sendmsgZc _ _ flags => flags
  | _ => 0

/-- What the prep helper writes to `sqe->ioprio`; the zero-copy helpers put `zc_flags`
    there, the multishot ones IORING_RECV_MULTISHOT. -/
def PrepCall.ioprio : PrepCall → Nat
  | .recvMultishot _ _ _ _ => 2
  | .recvmsgMultishot _ _ _ => 2
  | .sendZc _ _ _ _ zcFlags => zcFlags
  | .sendZcFixed _ _ _ _ zcFlags _ => zcFlags
  | _ => 0

/-- The other fields that the prep helper fills. -/
def PrepCall.content : PrepCall → PrepCall
  | .send fd buf len _ => .send fd buf len 0
  | .recv fd buf len _ => .recv fd buf len 0
  | .sendto fd buf len _ addr addrlen => .sendto fd buf len 0 addr addrlen
  | .sendmsg fd msg _ => .sendmsg fd msg 0
  | .recvmsg fd msg _ => .recvmsg fd msg 0
  | .recvMultishot fd buf len _ => .recvMultishot fd buf len 0
  | .recvmsgMultishot fd msg _ => .recvmsgMultishot fd msg 0
  | .sendZc fd buf len _ _ => .sendZc fd buf len 0 0
  | .sendZcFixed fd buf len _ _ bufIndex => .sendZcFixed fd buf len 0 0 bufIndex
  | .sendmsgZc fd msg _ => .sendmsgZc fd msg 0
  | call => call

/-- Two SQEs are equal except for the IORING_RECVSEND_POLL_FIRST bit of `ioprio`. -/
structure Sqe.OnlyPollFirst (e e' : Sqe) : Prop where
  content : e.call.content = e'.call.content
  msgFlags : e.call.msgFlags = e'.call.msgFlags
  ioprio : e.ioprio ||| e.call.ioprio ||| ioringRecvsendPollFirst =
    e'.ioprio ||| e'.call.ioprio ||| ioringRecvsendPollFirst
  flags : e.flags = e'.flags
  bufIndex : e.bufIndex = e'.bufIndex
  userData : e.userData = e'.userData

theorem Sqe.OnlyPollFirst.refl (e : Sqe) : e.OnlyPollFirst e :=
  ⟨rfl, rfl, rfl, rfl, rfl, rfl⟩

namespace COp

/-- The operation with another `is_poll_first`, for those that have the argument. -/
def withPollFirst (isPollFirst : Bool) : COp → Option COp
  | .send sockfd buf len _ => some (.send sockfd buf len isPollFirst)
  | .recv sockfd buf len _ => some (.recv sockfd buf len isPollFirst)
  | .sendto sockfd buf len addr addrlen _ =>
    some (.sendto sockfd buf len addr addrlen isPollFirst)
  | .recvfrom sockfd buf len addr addrlen _ =>
    some (.recvfrom sockfd buf len addr addrlen isPollFirst)
  | .sendmsg sockfd iovecs nrVecs addr addrlen _ =>
    some (.sendmsg sockfd iovecs nrVecs addr addrlen isPollFirst)
  | .recvmsg sockfd iovecs nrVecs _ => some (.recvmsg sockfd iovecs nrVecs isPollFirst)
  | .recvFixed sockfd buf len _ bufIndex => some (.recvFixed sockfd buf len isPollFirst bufIndex)
  | .recvmsgFixed sockfd iovecs nrVecs _ bufIndex =>
    some (.recvmsgFixed sockfd iovecs nrVecs isPollFirst bufIndex)
  | .recvMultishot sockfd len bgid _ => some (.recvMultishot sockfd len bgid isPollFirst)
  | .recvmsgMultishot sockfd bgid _ msghdr =>
    some (.recvmsgMultishot sockfd bgid isPollFirst msghdr)
  | .recvBufferSelect sockfd len bgid _ => some (.recvBufferSelect sockfd len bgid isPollFirst)
  | .recvmsgBufferSelect sockfd _ bgid =>
    some (.recvmsgBufferSelect sockfd (if isPollFirst then 1 else 0) bgid)
  | .sendZc sockfd buf len _ => some (.sendZc sockfd buf len isPollFirst)
  | .sendZcFixed sockfd buf len _ bufIndex =>
    some (.sendZcFixed sockfd buf len isPollFirst bufIndex)
  | .sendmsgZc sockfd iovecs nrVecs addr addrlen _ bufIndex =>
    some (.sendmsgZc sockfd iovecs nrVecs addr addrlen isPollFirst bufIndex)
  | _ => none

/-- The two calls add the same entries to the queue except for the poll-first bit, and hand
    no `msg_flags` to the kernel in an SQE that they fill. -/
def PollFirstOnly (on off : COp) (r : Ring) (idx : Int) (t : TimeoutParams) (submit : Int) :
    Prop :=
  ∃ entries entries' : List Flight,
    (on.exec r idx t submit).2.pending = r.pending ++ entries ∧
      (off.exec r idx t submit).2.pending = r.pending ++ entries' ∧
      List.Forall₂ (fun x y => x.seq = y.seq ∧ x.sqe.OnlyPollFirst y.sqe) entries entries' ∧
      (on.Fills r t → ∀ x ∈ entries ++ entries', x.sqe.call.msgFlags = 0)

/-- The call fills no SQE: none is free, or not the second one for a required timeout. -/
def FillsNone (r : Ring) (t : TimeoutParams) : Prop := r.space = 0 ∨ r.space = 1 ∧ t.isRequired

variable {op on off op' : COp} {b : Bool} {r : Ring} {t : TimeoutParams}

/-- An operation with `is_poll_first` always fills its SQE, and the option goes to the
    `msg_flags`. -/
theorem withPollFirst_prep (h : op.withPollFirst b = some op') :
    op'.Accepts ∧ (∀ t, op'.linked t = t) ∧ op' ≠ .timer none ∧
      ∀ e, (op'.prep e).call.msgFlags = pollFirstFlags b := by
  cases op <;> simp only [withPollFirst, reduceCtorEq, Option.some.injEq] at h
  case recvmsgBufferSelect =>
    subst h
    refine ⟨trivial, fun _ => rfl, COp.noConfusion, fun _ => ?_⟩
    cases b <;> rfl
  all_goals
    subst h
    exact ⟨trivial, fun _ => rfl, COp.noConfusion, fun _ => rfl⟩

/-- Where no SQE is filled the two calls leave the same entries. -/
theorem leaves_of_fillsNone (idx : Int) (hon : op.withPollFirst true = some on)
    (hoff : op.withPollFirst false = some off) (h : FillsNone r t) :
    on.leaves r idx t = off.leaves r idx t := by
  obtain ⟨-, hlon, hneon, -⟩ := withPollFirst_prep hon
  obtain ⟨-, hloff, hneoff, -⟩ := withPollFirst_prep hoff
  rcases h with h | ⟨hone, hreq⟩
  · rw [leaves_of_full (.inl h), leaves_of_full (.inl h)]
  · have hnot : ∀ {op : COp}, op ≠ .timer none → (∀ t, op.linked t = t) → ¬ op.Fills r t := by
      rintro op hne hl (h0 | ht | ⟨-, hroom⟩)
      · omega
      · exact hne ht
      · exact hroom ⟨hone, by rw [hl]; exact hreq⟩
    rw [leaves_of_space (by omega) hneon, leaves_of_space (by omega) hneoff,
      if_neg (hnot hneon hlon), if_neg (hnot hneoff hloff), hlon, hloff]

theorem not_fills_of_fillsNone (hon : op.withPollFirst true = some on) (h : FillsNone r t)
    (hs : r.space ≠ 0) : ¬ on.Fills r t := by
  obtain ⟨-, hl, hne, -⟩ := withPollFirst_prep hon
  rcases h with h | ⟨hone, hreq⟩
  · exact absurd h hs
  · rintro (h0 | ht | ⟨-, hroom⟩)
    · exact hs h0
    · exact hne ht
    · exact hroom ⟨hone, by rw [hl]; exact hreq⟩

/-- A filled SQE has the option in its `msg_flags`. -/
theorem msgFlags_of_fills (idx : Int) (h : op.withPollFirst b = some op') (hf : ¬ FillsNone r t) :
    ∃ x xs, op'.leaves r idx t = x :: xs ∧ x.sqe.call.msgFlags = pollFirstFlags b := by
  obtain ⟨ha, hl, -, hflags⟩ := withPollFirst_prep h
  obtain ⟨hs, hr⟩ := not_or.mp hf
  refine ⟨_, _, leaves_of_goes ha hs (by rw [hl]; exact hr), ?_⟩
  exact hflags (linkedEntry (op'.linked t) (r.sqEntry r.tail))

/-- The calls with and without `is_poll_first` differ in the poll-first bit only exactly when
    they fill no SQE. -/
theorem pollFirstOnly_iff (op on off : COp) (r : Ring) (idx : Int) (t : TimeoutParams)
    (submit : Int) (hon : op.withPollFirst true = some on)
    (hoff : op.withPollFirst false = some off) :
    PollFirstOnly on off r idx t submit ↔ FillsNone r t := by
  constructor
  · rintro ⟨entries, entries', he, he', hsame, -⟩
    obtain rfl := List.append_cancel_left ((on.pending_exec r idx t submit).symm.trans he)
    obtain rfl := List.append_cancel_left ((off.pending_exec r idx t submit).symm.trans he')
    by_contra hfill
    obtain ⟨x, xs, hx, hxf⟩ := msgFlags_of_fills idx hon hfill
    obtain ⟨y, ys, hy, hyf⟩ := msgFlags_of_fills idx hoff hfill
    rw [hx, hy, List.forall₂_cons] at hsame
    have heq : x.sqe.call.msgFlags = y.sqe.call.msgFlags := hsame.1.2.msgFlags
    rw [hxf, hyf] at heq
    exact absurd heq (by decide)
  · intro hnone
    have hsame := leaves_of_fillsNone idx hon hoff hnone
    refine ⟨_, _, on.pending_exec r idx t submit, off.pending_exec r idx t submit, ?_, ?_⟩
    · rw [hsame]
      exact List.forall₂_same.mpr fun x _ => ⟨rfl, .refl _⟩
    · intro hf x hx
      by_cases hs : r.space = 0
      · rw [leaves_of_full (.inl hs), leaves_of_full (.inl hs)] at hx
        exact absurd hx (by simp)
      · exact absurd hf (not_fills_of_fillsNone hon hnone hs)

/-- An idle queue of four entries. -/
def idleRing : Ring := ⟨List.replicate 4 default, 0, 0, [], []⟩

/-- Required timeouts fail the same way whatever the option says, here with one SQE free. -/
theorem pollFirstOnly_iff_send :
    PollFirstOnly (.send 5 (.mem 0) 3 true) (.send 5 (.mem 0) 3 false) nearlyFull 0 ⟨1, 0, true⟩
      1 :=
  (pollFirstOnly_iff (.send 5 (.mem 0) 3 true) _ _ nearlyFull 0 ⟨1, 0, true⟩ 1 rfl rfl).mpr
    (.inr (by decide))

/-- A send with `is_poll_first` is a send with MSG_OOB; its `ioprio` is that of a plain one. -/
theorem poll_first_sends_oob :
    ¬ PollFirstOnly (.send 5 (.mem 0) 3 true) (.send 5 (.mem 0) 3 false) idleRing 0 .zero 1 ∧
      ((send 5 (.mem 0) 3 true).exec idleRing 0 .zero 1).2.inflight =
        [⟨0, ⟨.send 5 (.mem 0) 3 1, 0, 0, 0, 0⟩⟩] := by
  refine ⟨?_, by decide⟩
  rintro ⟨entries, entries', he, -, -, hzero⟩
  have hone : entries = [⟨0, ⟨.send 5 (.mem 0) 3 1, 0, 0, 0, 0⟩⟩] :=
    List.append_cancel_left (he.symm.trans (by decide))
  rw [hone] at hzero
  exact absurd (hzero (by decide) _ List.mem_cons_self) (by decide)

end COp

end Uringio
