/-
  What a call of the C layer adds to the submission queue, and the chain that a requested
  timeout makes of it.

  `timeout` sets IOSQE_IO_LINK before it asks for the second SQE and never takes the flag
  back. With one SQE free the operation therefore stands linked to nothing, or, when the
  timeout is required, an unfilled linked SQE stays although the call fails
  (`chained_iff`).
-/
import Uringio.Ops.COp

namespace Uringio

/-! ## The entries of a call -/

namespace COp

variable {op : COp} {r : Ring} {idx : Int} {t : TimeoutParams}

/-- What a failing call leaves behind, and what an accepted one submits, are the same entries. -/
theorem leaves_of_goes (ha : op.Accepts) (hs : r.space ≠ 0)
    (hr : ¬ (r.space = 1 ∧ (op.linked t).isRequired)) :
    op.leaves r idx t =
      requestEntry r idx (op.linked t) op.prep :: linkTimeoutEntry r (op.linked t) := by
  have hne : op ≠ .timer none := by
    rintro rfl
    exact ha rfl
  rw [leaves_of_space hs hne, if_pos (show op.Fills r t from .inr (.inr ⟨ha, hr⟩))]

/-- Every call adds its entries behind the SQEs that wait already, and takes none of those
    away. -/
theorem pending_exec (op : COp) (r : Ring) (idx : Int) (t : TimeoutParams) (submit : Int) :
    (op.exec r idx t submit).2.pending = r.pending ++ op.leaves r idx t := by
  by_cases hn : (op.exec r idx t submit).1 < 1
  · have hk : r.SameKernel (op.exec r idx t submit).2 := by
      by_cases ha : op.Accepts
      · have ho := op.exec_outcome ha r idx t submit
        generalize op.exec r idx t submit = out at ho hn ⊢
        cases ho with
        | full h => exact ⟨rfl, rfl, rfl, rfl⟩
        | noTimeout _ _ hk _ => exact hk
        | failed _ _ _ hk _ => exact hk
        | accepted _ _ _ _ _ _ _ _ => exact absurd hn (by simp)
      · exact (op.exec_of_not_accepts ha r idx t submit).2.1
    have hq : (op.exec r idx t submit).2.queued = r.queued ++ op.leaves r idx t :=
      op.queued_of_failed (Prod.eta (op.exec r idx t submit)).symm hn
    rw [Ring.pending, hq, hk.inflight, ← List.append_assoc]
    rfl
  · obtain ⟨ha, hs, hr, hpos⟩ := (op.goes_iff r idx t submit).mpr hn
    have ho := op.exec_outcome ha r idx t submit
    rw [leaves_of_goes ha hs hr]
    generalize op.exec r idx t submit = out at ho hn ⊢
    cases ho with
    | full h => exact absurd h hs
    | noTimeout h hreq _ _ => exact absurd ⟨h, hreq⟩ hr
    | failed _ _ hneg _ _ => omega
    | accepted _ _ _ hc _ _ _ hi =>
      rw [Ring.pending, Ring.queued_of_count hc, List.append_nil, hi]

end COp

/-! ## Chains -/

/-- The SQE carries IOSQE_IO_LINK. -/
def Sqe.Linked (e : Sqe) : Prop := e.flags &&& iosqeIoLink ≠ 0

instance : DecidablePred Sqe.Linked := fun e => by
  unfold Sqe.Linked
  infer_instance

/-- The SQE is the timeout that `t` asks for. -/
def Sqe.IsTimeout (t : TimeoutParams) (e : Sqe) : Prop := e.call = .linkTimeout ⟨t.sec, t.nsec⟩ 0

instance (t : TimeoutParams) : DecidablePred (Sqe.IsTimeout t) := fun e => by
  unfold Sqe.IsTimeout
  infer_instance

/-- The SQEs that a call adds, with `space` of them free and the timeout `t` in its
    parameters. -/
structure WellChained (t : TimeoutParams) (space : Nat) (added : List Sqe) : Prop where
  /-- The first one is linked exactly when the timeout stands directly behind it. -/
  linked : ∀ e rest, added = e :: rest → (e.Linked ↔ ∃ l ∈ rest.head?, l.IsTimeout t)
  plain : ∀ e rest, added = e :: rest → ¬ t.requested → rest = [] ∧ ¬ e.Linked
  pair : t.requested → 2 ≤ space → ∃ e l, added = [e, l] ∧ e.Linked ∧ l.IsTimeout t
  optional : ∀ e rest, added = e :: rest → space = 1 → rest = [] ∧ ¬ e.Linked
  required : t.isRequired → space ≤ 1 → added = []

/-- The call adds a well formed chain. -/
def COp.Chained (op : COp) (r : Ring) (idx : Int) (t : TimeoutParams) (submit : Int) : Prop :=
  ∃ added, (op.exec r idx t submit).2.pending = r.pending ++ added ∧
    WellChained (op.linked t) r.space (added.map Flight.sqe)

theorem and_iosqeIoLink (n : Nat) :
    (n ||| iosqeBufferSelect) &&& iosqeIoLink = n &&& iosqeIoLink := by
  rw [Nat.and_or_distrib_right]
  exact Nat.or_zero _

/-- No operation touches the link flag when it fills its SQE. -/
theorem COp.linked_prep (op : COp) (e : Sqe) : (op.prep e).Linked ↔ e.Linked := by
  have hselect : ∀ {bgid : Int} {e : Sqe}, (selectBuffer bgid e).Linked ↔ e.Linked := by
    intro bgid e
    unfold Sqe.Linked selectBuffer
    rw [and_iosqeIoLink]
  cases op
  case timer timerParams =>
    cases timerParams with
    | none => exact Iff.rfl
    | some p => exact Iff.rfl
  case readBufferSelect => exact hselect
  case readvBufferSelect => exact hselect
  case recvMultishot => exact hselect
  case recvmsgMultishot => exact hselect
  case recvBufferSelect => exact hselect
  case recvmsgBufferSelect => exact hselect
  all_goals exact Iff.rfl

theorem linked_linkedEntry (t : TimeoutParams) (e : Sqe) :
    (linkedEntry t e).Linked ↔ t.requested := by
  unfold linkedEntry
  split
  · rename_i h
    exact ⟨fun _ => h, fun _ => by simp [Sqe.Linked, Sqe.link, Sqe.clear, iosqeIoLink]⟩
  · rename_i h
    exact ⟨fun hl => absurd hl (by simp [Sqe.Linked, Sqe.clear]), fun hr => absurd hr h⟩

theorem linkTimeoutEntry_of_requested {r : Ring} {t : TimeoutParams} (hreq : t.requested)
    (hs : 2 ≤ r.space) : ∃ x, linkTimeoutEntry r t = [x] ∧ x.sqe.IsTimeout t := by
  unfold linkTimeoutEntry
  rw [if_pos ⟨hreq, hs⟩]
  exact ⟨_, rfl, rfl⟩

theorem linkTimeoutEntry_of_not {r : Ring} {t : TimeoutParams}
    (h : ¬ (t.requested ∧ 2 ≤ r.space)) : linkTimeoutEntry r t = [] := if_neg h

namespace COp

variable {op : COp} {r : Ring} {idx : Int} {t : TimeoutParams}

/-- The first entry that a call adds is linked exactly when a timeout is requested; behind
    it stands the timeout that has found room. -/
theorem leaves_cases (op : COp) (r : Ring) (idx : Int) (t : TimeoutParams) :
    (op.leaves r idx t = [] ∧ (r.space = 0 ∨ op = .timer none)) ∨
      r.space ≠ 0 ∧ op ≠ .timer none ∧ ∃ x, (x.sqe.Linked ↔ (op.linked t).requested) ∧
        op.leaves r idx t = x :: linkTimeoutEntry r (op.linked t) := by
  by_cases h : r.space = 0 ∨ op = .timer none
  · exact .inl ⟨leaves_of_full h, h⟩
  · obtain ⟨hs, hne⟩ := not_or.mp h
    refine .inr ⟨hs, hne, _, ?_, leaves_of_space hs hne⟩
    split
    · exact (op.linked_prep _).trans (linked_linkedEntry _ _)
    · exact linked_linkedEntry _ _

theorem wellChained_leaves (h : ¬ ((op.linked t).requested ∧ r.space = 1)) :
    WellChained (op.linked t) r.space ((op.leaves r idx t).map Flight.sqe) := by
  rcases op.leaves_cases r idx t with ⟨he, hfull⟩ | ⟨hs, hne, x, hx, he⟩
  · rw [he]
    refine ⟨nofun, nofun, fun hreq hs => ?_, nofun, fun _ _ => rfl⟩
    rcases hfull with hfull | rfl
    · omega
    · exact absurd hreq (by simp [COp.linked])
  · rw [he]
    by_cases hreq : (op.linked t).requested
    · have hroom : 2 ≤ r.space := by
        have hone : r.space ≠ 1 := fun hone => h ⟨hreq, hone⟩
        omega
      obtain ⟨y, hy, htimeout⟩ := linkTimeoutEntry_of_requested hreq hroom
      rw [hy]
      refine ⟨fun e rest hadd => ?_, fun _ _ _ hnot => absurd hreq hnot,
        fun _ _ => ⟨_, _, rfl, hx.mpr hreq, htimeout⟩, fun _ _ _ hone => by omega,
        fun _ hone => by omega⟩
      obtain ⟨rfl, rfl⟩ := List.cons.inj hadd
      exact ⟨fun _ => ⟨_, rfl, htimeout⟩, fun _ => hx.mpr hreq⟩
    · have hunlinked : ¬ x.sqe.Linked := fun hl => hreq (hx.mp hl)
      rw [linkTimeoutEntry_of_not fun hc => hreq hc.1]
      refine ⟨fun e rest hadd => ?_, fun e rest hadd _ => ?_, fun hc => absurd hc hreq,
        fun e rest hadd _ => ?_, fun hc => ?_⟩
      · obtain ⟨rfl, rfl⟩ := List.cons.inj hadd
        exact ⟨fun hl => absurd hl hunlinked, nofun⟩
      · obtain ⟨rfl, rfl⟩ := List.cons.inj hadd
        exact ⟨rfl, hunlinked⟩
      · obtain ⟨rfl, rfl⟩ := List.cons.inj hadd
        exact ⟨rfl, hunlinked⟩
      · exact absurd (TimeoutParams.requested_of_isRequired hc) hreq

/-- With one SQE free a requested timeout leaves a linked SQE with nothing behind it. -/
theorem not_wellChained_leaves (hreq : (op.linked t).requested) (hone : r.space = 1) :
    ¬ WellChained (op.linked t) r.space ((op.leaves r idx t).map Flight.sqe) := by
  intro h
  rcases op.leaves_cases r idx t with ⟨-, hfull⟩ | ⟨-, -, x, hx, he⟩
  · rcases hfull with hfull | rfl
    · omega
    · exact absurd hreq (by simp [COp.linked])
  · rw [he, linkTimeoutEntry_of_not (by omega)] at h
    exact (h.optional _ _ rfl hone).2 (hx.mpr hreq)

/-- A queue of four entries with one of them free. -/
def nearlyFull : Ring := ⟨List.replicate 4 default, 0, 3, [], []⟩

end COp

end Uringio
