/-
  Timers and timeouts (`src/timer/timer.c`, `src/python_api/timer/_helpers.c`) and the
  macro that every C-layer operation starts with (`src/macroses.h`).

  `timeout` sets IOSQE_IO_LINK on the SQE of the operation and then takes a second SQE
  for the linked timeout; that second SQE never gets a `user_data`.
-/
import Uringio.Types
import Uringio.Ring.Ring

namespace Uringio

structure TimerParams where
  sec : Int
  nsec : Int
  count : Int
  isMultishot : Bool
deriving DecidableEq, Repr

structure TimeoutParams where
  sec : Int
  nsec : Int
  isRequired : Bool
deriving DecidableEq, Repr

/-- `TimeoutParams timeout_params = {0}`. -/
def TimeoutParams.zero : TimeoutParams := ⟨0, 0, false⟩

/-- `TimerParams timer_params = {0}`. -/
def TimerParams.zero : TimerParams := ⟨0, 0, 0, false⟩

/-- The parameters ask for a linked timeout. -/
def TimeoutParams.requested (t : TimeoutParams) : Bool :=
  !(t.sec == 0 && t.nsec == 0 && !t.isRequired)

/-! ## Parsing -/

/-- `(int)PyLong_AsLong(obj)` with the exception it may leave pending. -/
def pyLongAsInt (n : Int) : Int × Option PyErr :=
  ((toInt (toUint64 (pyLongAsLong n).1)), (pyLongAsLong n).2)

/-- `parse_timeout_params`: the error of a -1, or the parameters of a 0 with the exception
    that is pending at the return. -/
def parseTimeoutParams (obj : Option PyVal) : Except PyErr (TimeoutParams × Option PyErr) :=
  match obj with
  | none => .ok (.zero, none)
  | some .none => .ok (.zero, none)
  | some .other => .error ⟨.typeError, "timeout_params must be a dict"⟩
  | some (.dict items) =>
    match (items.lookup "sec").bind PyItem.asPyLong with
    | none => .error ⟨.typeError, "timeout_params['sec'] is required and must be an int"⟩
    | some sec =>
      match (items.lookup "nsec").bind PyItem.asPyLong with
      | none => .error ⟨.typeError, "timeout_params['nsec'] is required and must be an int"⟩
      | some nsec =>
        match (items.lookup "is_required").bind PyItem.asPyBool with
        | none =>
          .error ⟨.typeError, "timeout_params['is_required'] is required and must be a bool"⟩
        | some isRequired =>
          .ok (⟨(pyLongAsInt sec).1, (pyLongAsInt nsec).1, isRequired⟩,
            (pyLongAsInt nsec).2.or (pyLongAsInt sec).2)

/-- `parse_timer_params` for a dict; the caller passes nothing else on. -/
def parseTimerParams (obj : PyVal) (streamStrategy : StreamStrategy) :
    Except (Option PyErr) (TimerParams × Option PyErr) :=
  match obj with
  | .none => .error none
  | .other => .error (some ⟨.typeError, "timer_params must be a dict"⟩)
  | .dict items =>
    match (items.lookup "sec").bind PyItem.asPyLong, (items.lookup "nsec").bind PyItem.asPyLong,
      (items.lookup "count").bind PyItem.asPyLong with
    | some sec, some nsec, some count =>
      let isMultishot :=
        match (items.lookup "is_multishot").bind PyItem.asPyBool with
        | some b => if streamStrategy = .multishot then b else false
        | none => false
      .ok (⟨(pyLongAsInt sec).1, (pyLongAsInt nsec).1, (pyLongAsInt count).1, isMultishot⟩,
        ((pyLongAsInt count).2.or (pyLongAsInt nsec).2).or (pyLongAsInt sec).2)
    | _, _, _ =>
      .error (some ⟨.typeError, "timer_params requires int fields: sec, nsec, count"⟩)

/-! ## Queueing -/

/-- `sqe->flags |= IOSQE_IO_LINK`. -/
def Sqe.link (e : Sqe) : Sqe := { e with flags := e.flags ||| iosqeIoLink }

/-- `timeout(ring, sqe, timeout_params)` for the SQE at position `sqe`; `none` is a NULL
    pointer. -/
def timeout (r : Ring) (sqe : Nat) (timeoutParams : Option TimeoutParams) : Int × Ring :=
  match timeoutParams with
  | none => (0, r)
  | some t =>
    if !t.requested then (0, r)
    else
      let r := r.modify sqe Sqe.link
      match ioUringGetSqe r with
      | (none, r) => if t.isRequired then (-1, r) else (0, r)
      | (some p, r) => (0, r.modify p (ioUringPrep (.linkTimeout ⟨t.sec, t.nsec⟩ 0)))

/-- SQE_WITH_OPTIONAL_TIMEOUT: the position of the SQE, or `none` where the macro returns
    -1. -/
def sqeWithOptionalTimeout (r : Ring) (timeoutParams : Option TimeoutParams) :
    Option Nat × Ring :=
  match createSqe r with
  | (none, r) => (none, r)
  | (some sqe, r) =>
    match timeout r sqe timeoutParams with
    | (result, r) => if result < 0 then (none, r) else (some sqe, r)

/-- The end of every C-layer operation: set the request index, submit, 0 when the
    submission fails and 1 otherwise. -/
def setDataAndSubmit (r : Ring) (sqe : Nat) (requestIdx submit : Int) : Int × Ring :=
  match ioUringSubmit (r.modify sqe (ioUringSqeSetData requestIdx)) submit with
  | (result, r) => if result < 0 then (0, r) else (1, r)

/-- The body shared by the C-layer operations: take the SQE, let `prep` fill it, set the
    index and submit. -/
def prepAndSubmit (r : Ring) (requestIdx : Int) (timeoutParams : TimeoutParams)
    (prep : Sqe → Sqe) (submit : Int) : Int × Ring :=
  match sqeWithOptionalTimeout r (some timeoutParams) with
  | (none, r) => (-1, r)
  | (some sqe, r) => setDataAndSubmit (r.modify sqe prep) sqe requestIdx submit

/-- `timer(ring, request_idx, timer_params)`. -/
def timer (r : Ring) (requestIdx : Int) (timerParams : Option TimerParams) (submit : Int) :
    Int × Ring :=
  match timerParams with
  | none => (-1, r)
  | some t =>
    match createSqe r with
    | (none, r) => (-1, r)
    | (some sqe, r) =>
      let flag := if t.isMultishot then 64 else 0
      let call := .timeout ⟨t.sec, t.nsec⟩ (toUnsigned t.count) flag
      setDataAndSubmit (r.modify sqe (ioUringPrep call)) sqe requestIdx submit

/-! ## What taking and filling an SQE does to the ring -/

/-- A taken SQE as the operation finds it: cleared, and linked to the next one when a
    timeout is requested. -/
def linkedEntry (t : TimeoutParams) (e : Sqe) : Sqe :=
  if t.requested then e.clear.link else e.clear

/-- The linked timeout of a request: present when it is requested and a second SQE is
    free. -/
def linkTimeoutEntry (r : Ring) (t : TimeoutParams) : List Flight :=
  if t.requested ∧ 2 ≤ r.space then
    [⟨r.tail + 1, ioUringPrep (.linkTimeout ⟨t.sec, t.nsec⟩ 0) (r.sqEntry (r.tail + 1)).clear⟩]
  else []

theorem linkedEntry_call (t : TimeoutParams) (e : Sqe) : (linkedEntry t e).call = e.call := by
  unfold linkedEntry
  split
  · rfl
  · rfl

theorem linkedEntry_userData (t : TimeoutParams) (e : Sqe) :
    (linkedEntry t e).userData = e.userData := by
  unfold linkedEntry
  split
  · rfl
  · rfl

theorem TimeoutParams.requested_of_isRequired {t : TimeoutParams} (h : t.isRequired) :
    t.requested := by
  simp [TimeoutParams.requested, h]

@[simp] theorem TimeoutParams.requested_zero : TimeoutParams.zero.requested = false := rfl

theorem seq_of_mem_linkTimeoutEntry {r : Ring} {t : TimeoutParams} {x : Flight}
    (h : x ∈ linkTimeoutEntry r t) : x.seq = r.tail + 1 := by
  unfold linkTimeoutEntry at h
  split at h
  · rw [List.mem_singleton.mp h]
  · exact absurd h (List.not_mem_nil)

/-- The parts of the ring that preparing an SQE leaves as they are. -/
structure Ring.SameKernel (r r' : Ring) : Prop where
  head : r'.head = r.head
  inflight : r'.inflight = r.inflight
  cq : r'.cq = r.cq
  length : r'.entries.length = r.entries.length

theorem Ring.SameKernel.trans {a b c : Ring} (h : a.SameKernel b) (h' : b.SameKernel c) :
    a.SameKernel c :=
  ⟨h'.head.trans h.head, h'.inflight.trans h.inflight, h'.cq.trans h.cq,
    h'.length.trans h.length⟩

theorem Ring.sameKernel_modify (r : Ring) (p : Nat) (f : Sqe → Sqe) :
    r.SameKernel (r.modify p f) :=
  ⟨rfl, rfl, rfl, length_modify⟩

theorem Ring.sameKernel_grow (r : Ring) : r.SameKernel r.grow :=
  ⟨rfl, rfl, rfl, length_grow⟩

/-- With a second SQE free the timeout is prepared in it and linked. -/
theorem timeout_of_space {r : Ring} {t : TimeoutParams} (h : 2 ≤ r.space) (hreq : t.requested) :
    ∃ r', timeout r.grow r.tail (some t) = (0, r') ∧ r.SameKernel r' ∧
      r'.queued = r.queued ++ ⟨r.tail, linkedEntry t (r.sqEntry r.tail)⟩ ::
        linkTimeoutEntry r t := by
  have hbefore : ∀ x ∈ r.queued, x.seq ≠ r.tail := fun x hx =>
    Nat.ne_of_lt (Ring.seq_of_mem_queued hx).2
  have hroom : r.count + 2 ≤ r.entries.length := by
    unfold Ring.space at h
    omega
  have hlink : (r.grow.modify r.tail Sqe.link).queued =
      r.queued ++ [⟨r.tail, (r.sqEntry r.tail).clear.link⟩] :=
    Ring.queued_modify_mid r.queued [] (by simp; omega) (Ring.queued_grow (by omega)) hbefore
      (by simp)
  have hfree : (r.grow.modify r.tail Sqe.link).space ≠ 0 := by
    rw [Ring.space_modify, Ring.space_grow]
    omega
  have hstale : (r.grow.modify r.tail Sqe.link).sqEntry (r.tail + 1) = r.sqEntry (r.tail + 1) := by
    have hne : r.tail % r.entries.length ≠ (r.tail + 1) % r.entries.length :=
      Ring.mod_ne_of_near (by omega) (by omega)
    rw [Ring.sqEntry_modify_of_ne (by simpa using hne)]
    exact Ring.sqEntry_modify_of_ne hne
  have hsecond := Ring.queued_grow hfree
  rw [hlink, Ring.modify_tail, Ring.grow_tail, hstale] at hsecond
  refine ⟨(r.grow.modify r.tail Sqe.link).grow.modify (r.tail + 1)
    (ioUringPrep (.linkTimeout ⟨t.sec, t.nsec⟩ 0)), ?_, ?_, ?_⟩
  · simp [timeout, hreq, ioUringGetSqe_of_space hfree]
  · exact (((r.sameKernel_grow.trans (Ring.sameKernel_modify _ _ _)).trans
      (Ring.sameKernel_grow _)).trans (Ring.sameKernel_modify _ _ _))
  · rw [Ring.queued_modify_mid (r.queued ++ _) [] (by simp; omega) hsecond _ (by simp),
      linkedEntry, if_pos hreq, linkTimeoutEntry, if_pos ⟨hreq, h⟩, List.append_assoc]
    · rfl
    · intro x hx
      rcases List.mem_append.mp hx with hx | hx
      · exact Nat.ne_of_lt (Nat.lt_succ_of_lt (Ring.seq_of_mem_queued hx).2)
      · rw [List.mem_singleton.mp hx]
        exact Nat.ne_of_lt (Nat.lt_succ_self _)

/-- SQE_WITH_OPTIONAL_TIMEOUT: nothing happens on a full queue; with a required timeout
    and one free entry the SQE is taken and left behind; otherwise it is taken, followed
    by the linked timeout. -/
theorem sqeWithOptionalTimeout_cases (r : Ring) (t : TimeoutParams) :
    (r.space = 0 ∧ sqeWithOptionalTimeout r (some t) = (none, r)) ∨
    (r.space = 1 ∧ t.isRequired ∧ ∃ r', sqeWithOptionalTimeout r (some t) = (none, r') ∧
      r.SameKernel r' ∧
      r'.queued = r.queued ++ [⟨r.tail, linkedEntry t (r.sqEntry r.tail)⟩]) ∨
    (r.space ≠ 0 ∧ ¬ (r.space = 1 ∧ t.isRequired) ∧
      ∃ r', sqeWithOptionalTimeout r (some t) = (some r.tail, r') ∧ r.SameKernel r' ∧
        r'.queued = r.queued ++ ⟨r.tail, linkedEntry t (r.sqEntry r.tail)⟩ ::
          linkTimeoutEntry r t) := by
  by_cases h0 : r.space = 0
  · refine Or.inl ⟨h0, ?_⟩
    simp only [sqeWithOptionalTimeout, createSqe, ioUringGetSqe_of_full h0]
  right
  by_cases hreq : t.requested
  · by_cases h1 : r.space = 1
    · -- the SQE is marked as linked before the second one turns out to be missing
      have hlink : (r.grow.modify r.tail Sqe.link).queued =
          r.queued ++ [⟨r.tail, linkedEntry t (r.sqEntry r.tail)⟩] := by
        rw [linkedEntry, if_pos hreq]
        refine Ring.queued_modify_mid r.queued [] ?_ (Ring.queued_grow h0) ?_ (by simp)
        · unfold Ring.space at h0
          simp only [Ring.length_grow, Ring.grow_count]
          omega
        · exact fun x hx => Nat.ne_of_lt (Ring.seq_of_mem_queued hx).2
      have hsame : r.SameKernel (r.grow.modify r.tail Sqe.link) :=
        r.sameKernel_grow.trans (Ring.sameKernel_modify _ _ _)
      have hfull : (r.grow.modify r.tail Sqe.link).space = 0 := by
        rw [Ring.space_modify, Ring.space_grow, h1]
      have hnone : linkTimeoutEntry r t = [] := by
        rw [linkTimeoutEntry, if_neg (by omega)]
      by_cases hr : t.isRequired
      · refine Or.inl ⟨h1, hr, r.grow.modify r.tail Sqe.link, ?_, hsame, hlink⟩
        simp [sqeWithOptionalTimeout, createSqe, ioUringGetSqe_of_space h0, timeout, hreq,
          ioUringGetSqe_of_full hfull, hr]
      · refine Or.inr ⟨h0, by simp [hr], r.grow.modify r.tail Sqe.link, ?_, hsame, ?_⟩
        · simp [sqeWithOptionalTimeout, createSqe, ioUringGetSqe_of_space h0, timeout, hreq,
            ioUringGetSqe_of_full hfull, hr]
        · rw [hnone]
          exact hlink
    · obtain ⟨r', ht, hs, hq⟩ := timeout_of_space (r := r) (t := t) (by omega) hreq
      refine Or.inr ⟨h0, by omega, r', ?_, hs, hq⟩
      simp [sqeWithOptionalTimeout, createSqe, ioUringGetSqe_of_space h0, ht]
  · have hlink : linkedEntry t (r.sqEntry r.tail) = (r.sqEntry r.tail).clear := by
      rw [linkedEntry, if_neg hreq]
    have hnone : linkTimeoutEntry r t = [] := by
      rw [linkTimeoutEntry, if_neg (by simp [hreq])]
    refine Or.inr ⟨h0, ?_, r.grow, ?_, r.sameKernel_grow, ?_⟩
    · rintro ⟨-, hr⟩
      exact hreq (TimeoutParams.requested_of_isRequired hr)
    · simp [sqeWithOptionalTimeout, createSqe, ioUringGetSqe_of_space h0, timeout, hreq]
    · rw [hlink, hnone]
      exact Ring.queued_grow h0

/-- The SQE of an operation as it is submitted. -/
def requestEntry (r : Ring) (requestIdx : Int) (t : TimeoutParams) (prep : Sqe → Sqe) : Flight :=
  ⟨r.tail, ioUringSqeSetData requestIdx (prep (linkedEntry t (r.sqEntry r.tail)))⟩

/-- What a call of a C-layer operation can do. `full` and `noTimeout` return -1 before the
    SQE is filled, `failed` is an error of `io_uring_submit` and returns 0. -/
inductive SubmitOutcome (r : Ring) (requestIdx : Int) (t : TimeoutParams) (prep : Sqe → Sqe)
    (submit : Int) : Int × Ring → Prop
  | full (h : r.space = 0) : SubmitOutcome r requestIdx t prep submit (-1, r)
  | noTimeout {r' : Ring} (h : r.space = 1) (hr : t.isRequired) (hs : r.SameKernel r')
      (hq : r'.queued = r.queued ++ [⟨r.tail, linkedEntry t (r.sqEntry r.tail)⟩]) :
      SubmitOutcome r requestIdx t prep submit (-1, r')
  | failed {r' : Ring} (h : r.space ≠ 0) (hr : ¬ (r.space = 1 ∧ t.isRequired))
      (hneg : submit < 0) (hs : r.SameKernel r')
      (hq : r'.queued =
        r.queued ++ requestEntry r requestIdx t prep :: linkTimeoutEntry r t) :
      SubmitOutcome r requestIdx t prep submit (0, r')
  | accepted {r' : Ring} (h : r.space ≠ 0) (hr : ¬ (r.space = 1 ∧ t.isRequired))
      (hpos : 0 ≤ submit) (hc : r'.count = 0) (hcq : r'.cq = r.cq)
      (hl : r'.entries.length = r.entries.length)
      (ht : r'.tail = r.tail + 1 + (linkTimeoutEntry r t).length)
      (hi : r'.inflight =
        r.pending ++ requestEntry r requestIdx t prep :: linkTimeoutEntry r t) :
      SubmitOutcome r requestIdx t prep submit (1, r')

/-- Setting the index of the prepared SQE and submitting. -/
theorem setDataAndSubmit_outcome {r r₁ : Ring} {requestIdx : Int} {t : TimeoutParams}
    {prep : Sqe → Sqe} {submit : Int} (h : r.space ≠ 0) (hr : ¬ (r.space = 1 ∧ t.isRequired))
    (hs : r.SameKernel r₁)
    (hq : r₁.queued = r.queued ++ ⟨r.tail, linkedEntry t (r.sqEntry r.tail)⟩ ::
      linkTimeoutEntry r t) :
    SubmitOutcome r requestIdx t prep submit
      (setDataAndSubmit (r₁.modify r.tail prep) r.tail requestIdx submit) := by
  have hbefore : ∀ x ∈ r.queued, x.seq ≠ r.tail := fun x hx =>
    Nat.ne_of_lt (Ring.seq_of_mem_queued hx).2
  have hafter : ∀ x ∈ linkTimeoutEntry r t, x.seq ≠ r.tail := by
    intro x hx
    rw [seq_of_mem_linkTimeoutEntry hx]
    omega
  have hcount : r₁.count = r.count + 1 + (linkTimeoutEntry r t).length := by
    rw [← Ring.length_queued, hq, List.length_append, List.length_cons, Ring.length_queued]
    omega
  have hfit : r₁.count ≤ r₁.entries.length := by
    have hspace : 1 + (linkTimeoutEntry r t).length ≤ r.space := by
      unfold linkTimeoutEntry
      split
      · rename_i hc
        exact hc.2
      · exact Nat.one_le_iff_ne_zero.mpr h
    have hle := hs.length
    unfold Ring.space at hspace
    omega
  have hprep := Ring.queued_modify_mid r.queued _ (f := prep) hfit hq hbefore hafter
  have hdata := Ring.queued_modify_mid r.queued _ (f := ioUringSqeSetData requestIdx)
    (r := r₁.modify r.tail prep) (by simpa using hfit) hprep hbefore hafter
  have hsame : r.SameKernel
      ((r₁.modify r.tail prep).modify r.tail (ioUringSqeSetData requestIdx)) :=
    (hs.trans (Ring.sameKernel_modify _ _ _)).trans (Ring.sameKernel_modify _ _ _)
  unfold setDataAndSubmit
  by_cases hneg : submit < 0
  · rw [ioUringSubmit_of_neg hneg]
    simp only [hneg, if_true]
    exact .failed h hr hneg hsame hdata
  · rw [ioUringSubmit_of_nonneg hneg]
    simp only [hneg, if_false]
    refine .accepted h hr (by omega) rfl hsame.cq hsame.length ?_ ?_
    · simp only [Ring.tail, Ring.modify_head, Ring.modify_count]
      rw [hcount, hs.head]
      omega
    · simp only [hdata, Ring.modify_inflight]
      rw [hs.inflight, Ring.pending, List.append_assoc]
      rfl

theorem prepAndSubmit_outcome (r : Ring) (requestIdx : Int) (t : TimeoutParams)
    (prep : Sqe → Sqe) (submit : Int) :
    SubmitOutcome r requestIdx t prep submit (prepAndSubmit r requestIdx t prep submit) := by
  unfold prepAndSubmit
  rcases sqeWithOptionalTimeout_cases r t with ⟨h, he⟩ | ⟨h, hr, r', he, hs, hq⟩ |
    ⟨h, hr, r', he, hs, hq⟩
  · rw [he]
    exact .full h
  · rw [he]
    exact .noTimeout h hr hs hq
  · rw [he]
    exact setDataAndSubmit_outcome h hr hs hq

end Uringio
