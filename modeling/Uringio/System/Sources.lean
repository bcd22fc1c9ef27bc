/-
  The two SQEs that the loop keeps for itself: the read of `wakeup_fd` and the poll of the
  signal pipe.

  Both are one-shot, and nothing but the reader could arm them again. The branch that would
  do it for the wakeup read lies behind the lookup of the slot, which WAKEUP_FD_TAG never
  passes, and the branch for the signals behind a test that is false at compile time. So
  the two are there until the first CQE of theirs is consumed (`sources_armed`), and the
  write after that one wakes nobody (`second_write_not_armed`).
-/
import Uringio.System.Reachable

namespace Uringio

/-- The descriptor that `set_signals_handler` polls, when it gets as far as the SQE. -/
def SignalSetup.pollFd : SignalSetup → Option Int
  | .failed => none
  | .noMemory pollFd | .armed pollFd _ => some pollFd

/-- The read of `wakeup_fd` into `wakeup_buf` under WAKEUP_FD_TAG. -/
def Sqe.IsWakeupRead (wakeupFd : Int) (e : Sqe) : Prop :=
  e.call = .read wakeupFd .wakeupBuf 8 0 ∧ e.userData = wakeupFdTag

/-- The poll of the signal pipe. -/
def Sqe.IsSignalPoll (pollFd : Int) (e : Sqe) : Prop := e.call = .pollAdd pollFd pollin

instance (wakeupFd : Int) (e : Sqe) : Decidable (e.IsWakeupRead wakeupFd) :=
  inferInstanceAs (Decidable (_ ∧ _))

instance (pollFd : Int) (e : Sqe) : Decidable (e.IsSignalPoll pollFd) :=
  inferInstanceAs (Decidable (_ = _))

/-- An SQE of the loop's own two. -/
def Sqe.IsSource (wakeupFd pollFd : Int) (e : Sqe) : Prop :=
  e.IsWakeupRead wakeupFd ∨ e.IsSignalPoll pollFd

instance (wakeupFd pollFd : Int) (e : Sqe) : Decidable (e.IsSource wakeupFd pollFd) :=
  inferInstanceAs (Decidable (_ ∨ _))

theorem Sqe.isSource_congr {wakeupFd pollFd : Int} {e e' : Sqe} (hc : e.call = e'.call)
    (hu : e.userData = e'.userData) :
    e.IsSource wakeupFd pollFd ↔ e'.IsSource wakeupFd pollFd := by
  unfold IsSource IsWakeupRead IsSignalPoll
  rw [hc, hu]

/-- No operation polls. -/
theorem COp.call_ne_pollAdd (op : COp) (fd : Int) (mask : Nat) :
    op.call ≠ .pollAdd fd mask := by
  cases op
  case timer timerParams =>
    cases timerParams with
    | none => exact PrepCall.noConfusion
    | some p => exact PrepCall.noConfusion
  all_goals exact PrepCall.noConfusion

/-- SQEs were added to the ring, none of them one of the two. -/
def Ring.AddedPlain (wakeupFd pollFd : Int) (r r' : Ring) : Prop :=
  ∃ extra, r.Added r' extra ∧ ∀ x ∈ extra, ¬ x.sqe.IsSource wakeupFd pollFd

/-- How many SQEs of a kind are queued or in flight. -/
def Ring.armed (r : Ring) (kind : Sqe → Prop) [DecidablePred kind] : Nat :=
  r.pending.countP fun x => kind x.sqe

/-- A wait of `run_once` finds the wakeup read in flight, so that the kernel completes it
    with the eight bytes of the counter. -/
def Ring.Wakes (r : Ring) (wakeupFd : Int) : Prop :=
  ∀ submit : Int, 0 ≤ submit → ∃ x ∈ (ioUringSubmit r submit).2.inflight,
    x.sqe.IsWakeupRead wakeupFd ∧ ((ioUringSubmit r submit).2.post x.seq 8 0).isSome

namespace System

/-- What a loop has when `on_uring_ready` returns: one wakeup read, one poll, and a write
    to `wakeup_fd` ends the next wait. -/
structure Armed (wakeupFd pollFd : Int) (s : System) : Prop where
  wakeup : s.loop.ring.armed (Sqe.IsWakeupRead wakeupFd) = 1
  poll : s.loop.ring.armed (Sqe.IsSignalPoll pollFd) = 1
  wakes : (writeToSelf s.loop).ring.Wakes wakeupFd

/-- A consumed CQE with WAKEUP_FD_TAG is answered by a new wakeup read. -/
def Rearms (wakeupFd : Int) (s : System) (a : Act) (t : System) : Prop :=
  ∀ env c, a = .read env → s.loop.ring.cq.head? = some c → c.userData = wakeupFdTag →
    ∃ x ∈ t.loop.ring.queued, x.seq = s.loop.ring.tail ∧ x.sqe.IsWakeupRead wakeupFd

/-- The loop's own sources are in order after a step: `on_uring_ready` returns when it finds
    no CQE left. -/
def SourcesArmed (wakeupFd pollFd : Int) (s : System) (a : Act) (t : System) : Prop :=
  t.down = false →
    s.Rearms wakeupFd a t ∧ (t.loop.ring.cq = [] → t.Armed wakeupFd pollFd)

/-- No CQE of the two is consumed, and no call queues an SQE that it has not filled where
    one of the two had been. The poll is the first SQE of the ring. -/
def KeepsSources (wakeupFd pollFd : Int) (s : System) : Act → Prop
  | .read _ => ∀ c ∈ s.loop.ring.cq.head?, c.userData ≠ wakeupFdTag ∧ c.seq ≠ 0
  | .call call env => ∀ x, s.dispatched call env = some x →
      x.1.Fills s.loop.ring x.2 ∨
        ¬ (s.loop.ring.sqEntry s.loop.ring.tail).IsSource wakeupFd pollFd
  | _ => True

instance (wakeupFd pollFd : Int) (s : System) (a : Act) :
    Decidable (s.KeepsSources wakeupFd pollFd a) := by
  apply Act.casesOn (motive := fun a => Decidable (s.KeepsSources wakeupFd pollFd a)) a <;> intros <;>
    dsimp only [KeepsSources] <;> infer_instance

/-! ## What a step does to the queue -/

/-- A step queues SQEs of which none is of the two, or lets the kernel post a CQE, or
    consumes one. -/
inductive Turnover (wakeupFd pollFd : Int) (s : System) (a : Act) (t : System) : Prop
  | added (hadd : s.loop.ring.AddedPlain wakeupFd pollFd t.loop.ring)
  | posted {seq : Nat} {res : Int} {flags : Nat}
      (hp : s.loop.ring.post seq res flags = some t.loop.ring)
  | consumed {env : ReadEnv} {c : Cqe} (ha : a = .read env)
      (hcq : s.loop.ring.cq = c :: t.loop.ring.cq)
      (hpend : t.loop.ring.pending = s.loop.ring.pending)

variable {wakeupFd pollFd : Int} {s t : System} {a : Act}

/-- Neither of the two is an SQE with another call. -/
theorem not_isSource_of_call {e : Sqe} {call : PrepCall} (he : e.call = call)
    (hw : call ≠ .read wakeupFd .wakeupBuf 8 0) (hp : call ≠ .pollAdd pollFd pollin) :
    ¬ e.IsSource wakeupFd pollFd := by
  rintro (⟨hr, -⟩ | hr)
  · exact hw (he.symm.trans hr)
  · exact hp (he.symm.trans hr)

/-- The SQE of a request carries an index. -/
theorem requestEntry_not_isSource {op : COp} {r : Ring} {idx : Int} {t : TimeoutParams}
    (h : op.Accepts) (h0 : 0 ≤ idx) (hlt : idx < 2 ^ 31) :
    ¬ (requestEntry r idx t op.prep).sqe.IsSource wakeupFd pollFd := by
  rintro (⟨-, hu⟩ | hp)
  · have htag : toUint64 idx = wakeupFdTag := hu
    unfold toUint64 wakeupFdTag at htag
    omega
  · exact op.call_ne_pollAdd pollFd pollin ((op.prep_call _ h).symm.trans hp)

theorem linkTimeoutEntry_not_isSource {r : Ring} {t : TimeoutParams} {x : Flight}
    (hx : x ∈ linkTimeoutEntry r t) : ¬ x.sqe.IsSource wakeupFd pollFd := by
  unfold linkTimeoutEntry at hx
  split at hx
  · rw [List.mem_singleton.mp hx]
    exact not_isSource_of_call rfl PrepCall.noConfusion PrepCall.noConfusion
  · exact absurd hx List.not_mem_nil

theorem addedPlain_refl (r : Ring) : r.AddedPlain wakeupFd pollFd r :=
  ⟨[], .refl r, fun _ hx => absurd hx List.not_mem_nil⟩

theorem submitUntagged_addedPlain (r : Ring) (submit : Int) {call : PrepCall}
    (hw : call ≠ .read wakeupFd .wakeupBuf 8 0) (hp : call ≠ .pollAdd pollFd pollin) :
    r.AddedPlain wakeupFd pollFd (submitUntagged r call submit).2 := by
  refine ⟨_, submitUntagged_added r call submit, fun x hx => ?_⟩
  split at hx
  · exact absurd hx List.not_mem_nil
  · rw [List.mem_singleton.mp hx]
    exact not_isSource_of_call rfl hw hp

/-! ## Contexts -/

variable {l l' : Loop}

theorem openBuffers_addedPlain {context : ExecutionContext} {p : PayloadId} {registered : Bool}
    {submit : Int} (h : openBuffers l context p registered submit = .ok l') :
    l.ring.AddedPlain wakeupFd pollFd l'.ring := by
  unfold openBuffers at h
  split at h
  · exact absurd h (by simp)
  split at h
  · -- FIXED: the buffers are registered without an SQE
    split at h
    · exact absurd h (by simp)
    · split at h
      · obtain rfl := Except.ok.inj h
        exact addedPlain_refl _
      · obtain rfl := Except.ok.inj h
        exact addedPlain_refl _
  · -- PROVIDED
    split at h
    · exact absurd h (by simp)
    · dsimp only at h
      split at h
      · obtain rfl := Except.ok.inj h
        exact submitUntagged_addedPlain _ _ PrepCall.noConfusion PrepCall.noConfusion
      · obtain rfl := Except.ok.inj h
        exact submitUntagged_addedPlain _ _ PrepCall.noConfusion PrepCall.noConfusion
  · split at h
    · exact absurd h (by simp)
    · obtain rfl := Except.ok.inj h
      exact addedPlain_refl _
  · obtain rfl := Except.ok.inj h
    exact addedPlain_refl _
  · obtain rfl := Except.ok.inj h
    exact addedPlain_refl _

theorem enter_addedPlain {p : PayloadId} {registered : Bool} {submit : Int}
    (h : BufferModeCtx.enter l p registered submit = .ok l') :
    l.ring.AddedPlain wakeupFd pollFd l'.ring := by
  unfold BufferModeCtx.enter at h
  split at h
  · exact openBuffers_addedPlain h
  · obtain rfl := Except.ok.inj h
    exact addedPlain_refl _

theorem enterContext_addedPlain {p : PayloadId} {stream : StreamStrategy}
    {transferMode : TransferMode} {registered : Bool} {submit : Int}
    (h : ExecutionContextCtx.enter l p stream transferMode registered submit = .ok l') :
    l.ring.AddedPlain wakeupFd pollFd l'.ring := by
  unfold ExecutionContextCtx.enter at h
  split at h
  · exact openBuffers_addedPlain h
  · exact absurd h (by simp)

theorem exit_addedPlain {p : PayloadId} {token : Option ExecutionContext} {submit : Int}
    (h : BufferModeCtx.exit l p token submit = .ok l') :
    l.ring.AddedPlain wakeupFd pollFd l'.ring := by
  unfold BufferModeCtx.exit at h
  split at h
  · exact absurd h (by simp)
  split at h
  · obtain rfl := Except.ok.inj h
    exact addedPlain_refl _
  · obtain rfl := Except.ok.inj h
    exact submitUntagged_addedPlain _ _ PrepCall.noConfusion PrepCall.noConfusion
  all_goals
    obtain rfl := Except.ok.inj h
    exact addedPlain_refl _

theorem stepContext_ok {p : PayloadId} {f : Loop → Except Stop Loop}
    (h : s.stepContext p f = .ok t) : f s.loop = .ok t.loop := by
  unfold stepContext at h
  split at h
  · obtain ⟨l, hl, rfl⟩ := except_map_ok h
    exact hl
  · exact absurd h (by simp)

/-- The steps of the contexts. -/
theorem provides_addedPlain (hs : s.step a = .ok t) (ha : s.provides a = true) :
    s.loop.ring.AddedPlain wakeupFd pollFd t.loop.ring := by
  have hd := down_of_step hs
  unfold step at hs
  rw [hd, if_neg (by simp)] at hs
  cases a with
  | enterBuffers p registered submit => exact enter_addedPlain (stepContext_ok hs)
  | enterContext p stream transferMode registered submit =>
    exact enterContext_addedPlain (stepContext_ok hs)
  | exitBuffers p token submit =>
    dsimp only at hs
    split at hs
    · exact exit_addedPlain (stepContext_ok hs)
    · exact absurd hs (by simp)
  | _ => exact absurd ha (by simp [provides])

/-! ## Calls -/

/-- What a call that keeps the sources puts on the ring. -/
theorem called_addedPlain (h : s.Base) {call : OpCall} {env : CallEnv}
    {r : Except (Option PyErr) Submitted × Loop}
    (hg : s.KeepsSources wakeupFd pollFd (.call call env)) (ho : RunOutcome call env s.loop r) :
    s.loop.ring.AddedPlain wakeupFd pollFd (s.answer r).loop.ring := by
  have hindex : ∀ request, ¬ s.loop.registry.top < 0 →
      0 ≤ (registryAdd s.loop.registry request).1 ∧
        (registryAdd s.loop.registry request).1 < 2 ^ 31 := by
    intro request htop
    have hvalid := h.registry.sound.valid_of_room htop
    have hsmall := hvalid.small
    obtain ⟨-, -, hr, -, -⟩ := hvalid.add request htop
    exact ⟨hr.1, by omega⟩
  cases ho with
  | refused h =>
    obtain ⟨g, rfl, -⟩ := h
    exact addedPlain_refl _
  | full _ _ _ _ => exact addedPlain_refl _
  | rejected hprep _ htop hdisp hx hn _ _ _ _ =>
    simp only [answer, withLoop, Loop.setClosed_ring]
    obtain ⟨h0, hlt⟩ := hindex _ htop
    have hq := COp.queued_of_failed _ hx hn
    obtain ⟨hk, -⟩ := COp.exec_rejected hx hn
    refine ⟨_, Ring.added_of_queued hk.inflight hk.cq hk.head hq, fun x hm => ?_⟩
    rcases COp.mem_leaves hm with ⟨hacc, rfl⟩ | hlink | ⟨hfills, rfl⟩
    · exact requestEntry_not_isSource hacc h0 hlt
    · exact linkTimeoutEntry_not_isSource hlink
    · -- the SQE still has what the last use of its entry left there
      rcases hg _ (dispatched_of_prepare hprep htop hdisp) with hf | hstale
      · exact absurd hf hfills
      · rwa [Sqe.isSource_congr (linkedEntry_call _ _) (linkedEntry_userData _ _)]
  | accepted _ _ htop _ hx hn _ =>
    simp only [answer, withLoop, Loop.setClosed_ring]
    obtain ⟨h0, hlt⟩ := hindex _ htop
    have hacc := COp.exec_accepted hx hn
    refine ⟨_, hacc.added, fun x hm => ?_⟩
    rcases List.mem_cons.mp hm with rfl | hlink
    · exact requestEntry_not_isSource hacc.accepts h0 hlt
    · exact linkTimeoutEntry_not_isSource hlink

theorem cq_of_cqeSeen {r r' : Ring} {c : Cqe} {cs : List Cqe} (hcq : r.cq = c :: cs)
    (hr : r' = ioUringCqeSeen r) : r.cq = c :: r'.cq := by
  rw [hr]
  unfold ioUringCqeSeen
  rw [hcq]
  rfl

/-- Every step is one of the three. -/
theorem turnover (h : s.Base) (hg : s.KeepsSources wakeupFd pollFd a) (hs : s.step a = .ok t)
    (hd : t.down = false) : Turnover wakeupFd pollFd s a t := by
  obtain ⟨-, hstep⟩ := step_cases h hs
  cases hstep with
  | called _ ho => exact .added (called_addedPlain h hg ho)
  | posted hp => exact .posted hp
  | dropped hcq _ => exact .consumed rfl (cq_of_cqeSeen hcq rfl) rfl
  | skipped hcq _ _ => exact .consumed rfl (cq_of_cqeSeen hcq rfl) rfl
  | handled hcq _ _ _ hh =>
    exact .consumed rfl (cq_of_cqeSeen hcq hh.ring) ((congrArg Ring.pending hh.ring).trans rfl)
  | quiet _ hq =>
    by_cases ha : s.provides a = true
    · exact .added (provides_addedPlain hs ha)
    · exact .added ⟨_, hq.ring, fun x hx => absurd (hq.extra x hx).1 ha⟩
  | shutdown _ _ => exact absurd hd (by simp)

/-! ## The two sources -/

/-- The SQE of a kind is at its position, or its CQE waits to be consumed. -/
structure Source (kind : Sqe → Prop) (mark : Cqe → Prop) (seq : Nat) (r : Ring) : Prop where
  only : ∀ x ∈ r.pending, kind x.sqe → x.seq = seq
  there : (∃ x ∈ r.pending, x.seq = seq ∧ kind x.sqe) ∨ ∃ c ∈ r.cq, mark c

variable {kind : Sqe → Prop} {mark : Cqe → Prop} {seq : Nat}

/-- Positions of pending SQEs are their own. -/
theorem eq_of_pending {r : Ring} {x y : Flight} (ho : r.Ordered) (hx : x ∈ r.pending)
    (hy : y ∈ r.pending) (h : x.seq = y.seq) : x = y :=
  List.inj_on_of_nodup_map ho.pending_nodup hx hy h

/-- An SQE stays when a CQE of another one is posted. -/
theorem pending_of_post {r r' : Ring} {q : Nat} {res : Int} {flags : Nat} {x : Flight}
    (hp : r.post q res flags = some r') (hx : x ∈ r.pending) (hne : x.seq ≠ q) :
    x ∈ r'.pending := by
  obtain ⟨y, hy, hyq, -, hhead, hcount, hentries, hinfl⟩ := Ring.post_eq_some hp
  have hqueued : r'.queued = r.queued := by
    unfold Ring.queued Ring.sqEntry
    rw [hhead, hcount, hentries]
  unfold Ring.pending at hx ⊢
  rw [hqueued]
  apply List.mem_append.mpr
  rcases List.mem_append.mp hx with hx | hx
  · left
    rw [hinfl]
    split
    · exact hx
    · exact List.mem_filter.mpr ⟨hx, by simpa using hne⟩
  · exact .inr hx

/-- A step keeps the source unless it consumes a CQE of it. -/
theorem Source.step (h : Source kind mark seq s.loop.ring) (hb : s.Base)
    (hkind : ∀ e, kind e → e.IsSource wakeupFd pollFd)
    (hmark : ∀ x : Flight, x.seq = seq → kind x.sqe → ∀ res flags,
      mark ⟨x.sqe.userData, res, flags, x.seq⟩)
    (hread : ∀ env, a = .read env → ∀ c ∈ s.loop.ring.cq.head?, ¬ mark c)
    (ht : Turnover wakeupFd pollFd s a t) : Source kind mark seq t.loop.ring := by
  cases ht with
  | added hadd =>
    obtain ⟨extra, hadd, hplain⟩ := hadd
    refine ⟨fun x hx hk => ?_, ?_⟩
    · rw [hadd.pending] at hx
      rcases List.mem_append.mp hx with hx | hx
      · exact h.only x hx hk
      · exact absurd (hkind _ hk) (hplain x hx)
    · rcases h.there with ⟨x, hx, hs⟩ | ⟨c, hc, hm⟩
      · left
        exact ⟨x, hadd.pending ▸ List.mem_append_left _ hx, hs⟩
      · right
        exact ⟨c, hadd.cq ▸ hc, hm⟩
  | @posted q res flags hp =>
    refine ⟨fun x hx hk => h.only x (hb.ring.pending_post hp x hx) hk, ?_⟩
    obtain ⟨y, hy, hyq, hcq, -, -, -, -⟩ := Ring.post_eq_some hp
    rcases h.there with ⟨x, hx, hs, hk⟩ | ⟨c, hc, hm⟩
    · by_cases hxy : x.seq = y.seq
      · obtain rfl := eq_of_pending hb.ring.ordered hx (List.mem_append_left _ hy) hxy
        right
        rw [← hyq] at hcq
        refine ⟨_, ?_, hmark x hs hk res flags⟩
        rw [hcq]
        exact List.mem_append_right _ (List.mem_singleton_self _)
      · left
        exact ⟨x, pending_of_post hp hx (hyq ▸ hxy), hs, hk⟩
    · right
      exact ⟨c, by rw [hcq]; exact List.mem_append_left _ hc, hm⟩
  | consumed ha hcq hpend =>
    refine ⟨fun x hx hk => h.only x (hpend ▸ hx) hk, ?_⟩
    rcases h.there with ⟨x, hx, hs⟩ | ⟨c, hc, hm⟩
    · left
      exact ⟨x, hpend.symm ▸ hx, hs⟩
    · right
      rw [hcq] at hc
      rcases List.mem_cons.mp hc with rfl | hc
      · exact absurd hm (hread _ ha c (by rw [hcq]; rfl))
      · exact ⟨c, hc, hm⟩

/-- When no CQE is left, the SQE of the kind is the only one. -/
theorem Source.armed {r : Ring} [DecidablePred kind] (h : Source kind mark seq r)
    (ho : r.Ordered) (hcq : r.cq = []) : r.armed kind = 1 := by
  rcases h.there with ⟨x, hx, hs, hk⟩ | ⟨c, hc, -⟩
  · have hnodup : r.pending.Nodup := List.Nodup.of_map _ ho.pending_nodup
    have hcount : r.pending.countP (fun y => kind y.sqe) = r.pending.countP (· == x) := by
      apply List.countP_congr
      intro y hy
      simp only [decide_eq_true_eq, beq_iff_eq]
      constructor
      · intro hky
        exact eq_of_pending ho hy hx ((h.only y hy hky).trans hs.symm)
      · rintro rfl
        exact hk
    show r.pending.countP _ = 1
    rw [hcount]
    exact List.count_eq_one_of_mem hnodup hx
  · rw [hcq] at hc
    exact absurd hc List.not_mem_nil

/-- The wait finds what is pending in flight. -/
theorem Source.wakes {r : Ring} (h : Source (Sqe.IsWakeupRead wakeupFd) mark seq r)
    (hcq : r.cq = []) : r.Wakes wakeupFd := by
  rcases h.there with ⟨x, hx, -, hk⟩ | ⟨c, hc, -⟩
  · intro submit hpos
    rw [ioUringSubmit_of_nonneg (Int.not_lt.mpr hpos)]
    refine ⟨x, hx, hk, ?_⟩
    unfold Ring.post
    have hfind : ((r.inflight ++ r.queued).find? fun f => f.seq == x.seq).isSome := by
      rw [List.find?_isSome]
      exact ⟨x, hx, beq_self_eq_true _⟩
    obtain ⟨y, hy⟩ := Option.isSome_iff_exists.mp hfind
    simp only [hy, Option.isSome_some]
  · rw [hcq] at hc
    exact absurd hc List.not_mem_nil

/-! ## Every run -/

/-- Up to the shutdown both sources are there. -/
structure SourcesInv (wakeupFd pollFd : Int) (s : System) : Prop where
  base : s.Base
  wakeup : Source (Sqe.IsWakeupRead wakeupFd) (fun c => c.userData = wakeupFdTag) 1 s.loop.ring
  poll : Source (Sqe.IsSignalPoll pollFd) (fun c => c.seq = 0) 0 s.loop.ring

theorem SourcesInv.step (h : s.SourcesInv wakeupFd pollFd)
    (hg : s.KeepsSources wakeupFd pollFd a) (hs : s.step a = .ok t) (hd : t.down = false) :
    t.SourcesInv wakeupFd pollFd := by
  have ht := turnover h.base hg hs hd
  refine ⟨h.base.step hs hd, ?_, ?_⟩
  · refine h.wakeup.step h.base (fun _ => .inl) (fun x _ hk _ _ => hk.2) ?_ ht
    rintro env rfl c hc
    exact (hg c hc).1
  · refine h.poll.step h.base (fun _ => .inr) (fun x hx _ _ _ => hx) ?_ ht
    rintro env rfl c hc
    exact (hg c hc).2

theorem SourcesInv.armed (h : s.SourcesInv wakeupFd pollFd) (hcq : s.loop.ring.cq = []) :
    s.Armed wakeupFd pollFd :=
  ⟨h.wakeup.armed h.base.ring.ordered hcq, h.poll.armed h.base.ring.ordered hcq,
    h.wakeup.wakes hcq⟩

theorem SourcesInv.sourcesArmed (h : s.SourcesInv wakeupFd pollFd)
    (hg : s.KeepsSources wakeupFd pollFd a) (hs : s.step a = .ok t) :
    s.SourcesArmed wakeupFd pollFd a t := by
  intro hd
  refine ⟨?_, (h.step hg hs hd).armed⟩
  rintro env c rfl hc htag
  exact absurd htag (hg c hc).1

/-- A new loop whose signal poll is set up has both. -/
theorem newLoop_sourcesInv {registrySize : Nat} {setup : SignalSetup} {wakeupFd submit : Int}
    (h : registrySize < 2 ^ 32) (hsetup : setup.pollFd = some pollFd) :
    (init (uringioLoopInit registrySize setup wakeupFd submit)).SourcesInv wakeupFd pollFd := by
  have hadd := uringioLoopInit_added registrySize setup wakeupFd submit
  obtain ⟨x, hx, h0, hpoll⟩ : ∃ x, signalEntries setup = [x] ∧ x.seq = 0 ∧
      x.sqe.call = .pollAdd pollFd pollin := by
    cases setup with
    | failed => exact absurd hsetup (by simp [SignalSetup.pollFd])
    | noMemory fd =>
      obtain rfl := Option.some.inj hsetup
      exact ⟨_, rfl, rfl, rfl⟩
    | armed fd pointer =>
      obtain rfl := Option.some.inj hsetup
      exact ⟨_, rfl, rfl, rfl⟩
  have hpend : (uringioLoopInit registrySize setup wakeupFd submit).ring.pending =
      [x, wakeupEntry 1 wakeupFd] := by
    rw [hadd.pending, hx]
    rfl
  have hmem : ∀ y, y ∈ (uringioLoopInit registrySize setup wakeupFd submit).ring.pending ↔
      y = x ∨ y = wakeupEntry 1 wakeupFd := by
    intro y
    rw [hpend]
    simp
  refine ⟨newLoop_base h, ⟨fun y hy hk => ?_, .inl ?_⟩, ⟨fun y hy hk => ?_, .inl ?_⟩⟩
  · rcases (hmem y).mp hy with rfl | rfl
    · exact absurd (hpoll.symm.trans hk.1) PrepCall.noConfusion
    · rfl
  · exact ⟨_, (hmem _).mpr (.inr rfl), rfl, rfl, rfl⟩
  · rcases (hmem y).mp hy with rfl | rfl
    · exact h0
    · have hk : (PrepCall.read wakeupFd .wakeupBuf 8 0) = .pollAdd pollFd pollin := hk
      exact absurd hk PrepCall.noConfusion
  · exact ⟨x, (hmem x).mpr (.inl rfl), h0, hpoll⟩

/-- As long as no CQE of the wakeup read or of the poll is consumed, one of each is queued or
    in flight whenever `on_uring_ready` returns, and a write to `wakeup_fd` ends the next
    wait. -/
theorem sources_armed {registrySize : Nat} {setup : SignalSetup} {wakeupFd submit : Int}
    (h : registrySize < 2 ^ 32) (hsetup : setup.pollFd = some pollFd) {acts : List Act}
    (hg : Lib.Meets step (KeepsSources wakeupFd pollFd)
      (init (uringioLoopInit registrySize setup wakeupFd submit)) acts) :
    (init (uringioLoopInit registrySize setup wakeupFd submit)).Armed wakeupFd pollFd ∧
    Lib.Each step (SourcesArmed wakeupFd pollFd)
      (init (uringioLoopInit registrySize setup wakeupFd submit)) acts := by
  have hinv : (init (uringioLoopInit registrySize setup wakeupFd submit)).SourcesInv wakeupFd
      pollFd := newLoop_sourcesInv h hsetup
  have hstep : ∀ (s : System) a t, (s.down = false → s.SourcesInv wakeupFd pollFd) →
      s.KeepsSources wakeupFd pollFd a → s.step a = .ok t →
      t.down = false → t.SourcesInv wakeupFd pollFd := by
    intro s a t hs hg ht hd
    exact (hs (down_of_step ht)).step hg ht hd
  refine ⟨hinv.armed (uringioLoopInit_added registrySize setup wakeupFd submit).cq, ?_⟩
  refine hg.each hstep ?_ fun _ => hinv
  intro s a t hs hg ht
  exact (hs (down_of_step ht)).sourcesArmed hg ht

/-- A socket and a wait that nobody interrupts. -/
def quietSocket : List Act :=
  [.call (.prepSocket 2 1 none) .ok, .submit 0, .post 2 5 0, .read .ok]

theorem sources_armed_quietSocket :
    (init (uringioLoopInit 4 (.armed 7 (2 ^ 40)) 3 1)).Armed 3 7 ∧
    Lib.Each step (SourcesArmed 3 7)
      (init (uringioLoopInit 4 (.armed 7 (2 ^ 40)) 3 1)) quietSocket :=
  sources_armed (by decide) rfl (by decide +kernel)

/-- One `write_to_self`, and the `run_once` that sees it. -/
def oneWakeup : List Act := [.wake, .submit 0, .post 1 8 0, .read .ok]

/-- The CQE with WAKEUP_FD_TAG is dropped, and no wakeup read is left for the next write. -/
theorem second_write_not_armed :
    ¬ Lib.Each step (SourcesArmed 3 7)
      (init (uringioLoopInit 4 (.armed 7 (2 ^ 40)) 3 1)) oneWakeup := by
  intro h
  obtain ⟨t, ht, hcq, hdown, hnone⟩ : ∃ t,
      (init (uringioLoopInit 4 (.armed 7 (2 ^ 40)) 3 1)).run oneWakeup = .ok t ∧
      t.loop.ring.cq = [] ∧ t.down = false ∧
      t.loop.ring.armed (Sqe.IsWakeupRead 3) = 0 := by
    decide +kernel
  obtain ⟨m, hm, hlast⟩ := Lib.run_append_ok.mp
    (show Lib.run step _ ([.wake, .submit 0, .post 1 8 0] ++ [.read .ok]) = .ok t from ht)
  obtain ⟨t', ht', hnil⟩ := Lib.run_cons_ok.mp hlast
  obtain rfl := Except.ok.inj hnil
  have harmed := (Lib.Each.last
    (show Lib.Each step _ _ ([.wake, .submit 0, .post 1 8 0] ++ [.read .ok]) from h) hm ht' hdown).2
    hcq
  exact absurd (harmed.wakeup.symm.trans hnone) (by decide)

end System

end Uringio
