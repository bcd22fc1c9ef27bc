/-
  What nested `with` blocks leave registered with the ring.

  `BufferModeCtx_exit` takes back what its enter registered; `ExecutionContextCtx_exit`, whose
  enter registers the same, only resets the variable. So the registrations after an exit are
  those from before the matching enter exactly when an ExecutionContextCtx registered nothing
  and a request to take PROVIDED buffers back is really submitted
  (`registrations_balanced_iff`).
-/
import Uringio.Contexts.Nesting

namespace Uringio

/-! ## Registering and taking back -/

namespace Registrations

variable {k : Registrations} {g : Nat} {nr bgid : Int}

theorem setGroup_setGroup (a b : BufferGroup) :
    (k.setGroup g a).setGroup g b = k.setGroup g b := by
  unfold setGroup
  congr 1
  funext i
  by_cases h : i = g
  · rw [if_pos h, if_pos h]
  · rw [if_neg h, if_neg h]
    exact if_neg h

theorem setGroup_self {a : BufferGroup} (h : k.groups g = a) : k.setGroup g a = k := by
  unfold setGroup
  have : (fun i => if i = g then a else k.groups i) = k.groups := by
    funext i
    by_cases hi : i = g
    · rw [if_pos hi, hi, h]
    · rw [if_neg hi]
  rw [this]

@[simp] theorem setGroup_groups_self (a : BufferGroup) : (k.setGroup g a).groups g = a := by
  simp [setGroup]

/-- Taking as many buffers back as were handed over gives the old group. -/
theorem remove_provide : (k.provide nr bgid).remove nr bgid = k := by
  unfold provide remove
  by_cases hc : Countable nr
  · simp only [if_pos hc]
    cases hg : k.groups (toUint16 bgid) with
    | bufRing => simp only [hg]
    | provided n =>
      simp only [setGroup_groups_self, setGroup_setGroup, Nat.add_sub_cancel]
      exact setGroup_self hg
  · simp only [if_neg hc]

/-- A group that no request of the classic kind can be about: it has no buffers, or it is a
    buffer ring. -/
def Untouched (k : Registrations) (bgid : Int) : Prop :=
  k.groups (toUint16 bgid) = .provided 0 ∨ k.groups (toUint16 bgid) = .bufRing

instance (k : Registrations) (bgid : Int) : Decidable (k.Untouched bgid) :=
  inferInstanceAs (Decidable (_ ∨ _))

/-- Submitting the entry registers nothing and takes nothing back. -/
def Idle (k : Registrations) (e : Sqe) : Prop :=
  match e.call with
  | .provideBuffers _ _ nr _ _ => ¬ Countable nr
  | .removeBuffers nr bgid => ¬ Countable nr ∨ k.Untouched bgid
  | _ => True

instance (k : Registrations) (e : Sqe) : Decidable (k.Idle e) := by
  unfold Idle
  split <;> infer_instance

theorem remove_of_untouched (h : k.Untouched bgid) : k.remove nr bgid = k := by
  unfold remove
  split
  · rcases h with h | h
    · simp only [h]
      exact setGroup_self (by simp [h])
    · simp only [h]
  · rfl

theorem take_of_idle {e : Sqe} (h : k.Idle e) : k.take e = k := by
  unfold take
  unfold Idle at h
  generalize e.call = call at h ⊢
  cases call with
  | provideBuffers addr len nr bgid bid =>
    show k.provide nr bgid = k
    rw [provide, if_neg h]
  | removeBuffers nr bgid =>
    show k.remove nr bgid = k
    rcases h with h | h
    · rw [remove, if_neg h]
    · exact remove_of_untouched h
  | _ => rfl

theorem foldl_take_of_idle {es : List Sqe} (h : ∀ e ∈ es, k.Idle e) : es.foldl take k = k := by
  induction es with
  | nil => rfl
  | cons e es ih =>
    rw [List.foldl_cons, take_of_idle (h e List.mem_cons_self)]
    exact ih fun e he => h e (List.mem_cons_of_mem _ he)

/-- No group that was untouched has got buffers. -/
def KeepsUntouched (k k' : Registrations) : Prop := ∀ bgid, k.Untouched bgid → k'.Untouched bgid

theorem Idle.mono {k' : Registrations} {e : Sqe} (h : k.Idle e) (hk : k.KeepsUntouched k') :
    k'.Idle e := by
  unfold Idle at h ⊢
  split at h
  · exact h
  · exact h.imp id (hk _)
  · trivial

theorem keepsUntouched_setGroup {a : BufferGroup} (ha : a = .provided 0 ∨ a = .bufRing) :
    k.KeepsUntouched (k.setGroup g a) := by
  intro bgid h
  unfold Untouched setGroup
  dsimp only
  by_cases hg : toUint16 bgid = g
  · rw [if_pos hg]
    exact ha
  · rw [if_neg hg]
    exact h

end Registrations

/-! ## What a payload registers -/

namespace BufferPayload

/-- Entering the context of the payload registers something; `bufRing` says whether the
    buffer ring could be set up. -/
def registers (b : BufferPayload) (k : Registrations) (bufRing : Bool) : Bool :=
  match b.mode with
  | .normalBuf | .bufNoVal => false
  | .fixed => true
  | .provided =>
    decide (Registrations.Countable b.amount) && k.groups (toUint16 b.bgid) != .bufRing
  | .bufRing => bufRing

/-- The registrations after entering the context of the payload. -/
def registered (b : BufferPayload) (k : Registrations) (bufRing : Bool) : Registrations :=
  match b.mode with
  | .normalBuf | .bufNoVal => k
  | .fixed => { k with fixed := true }
  | .provided => k.provide b.amount b.bgid
  | .bufRing => if bufRing then k.setGroup (toUint16 b.bgid) .bufRing else k

/-- The registrations after `BufferModeCtx_exit`; `submitted` says whether the request to
    remove PROVIDED buffers goes to the kernel. -/
def takenBack (b : BufferPayload) (k : Registrations) (bufRing submitted : Bool) :
    Registrations :=
  match b.mode with
  | .normalBuf | .bufNoVal => k
  | .fixed => k.unregisterBuffers
  | .provided => if submitted then k.remove b.amount b.bgid else k
  | .bufRing => if bufRing then k.freeBufRing b.bgid else k

/-- What the kernel must have found to agree. -/
structure Agreed (b : BufferPayload) (k : Registrations) (bufRing : Bool) : Prop where
  fixed : b.mode = .fixed → k.fixed = false
  bufRing : b.mode = .bufRing → bufRing = true → k.groups (toUint16 b.bgid) = .provided 0

variable {b : BufferPayload} {k : Registrations} {bufRing submitted : Bool}

theorem registered_of_not (h : b.registers k bufRing = false) :
    b.registered k bufRing = k := by
  unfold registers at h
  unfold registered
  split
  case h_1 => rfl
  case h_2 => rfl
  case h_3 hm => simp [hm] at h
  case h_4 hm =>
    simp only [hm, Bool.and_eq_false_iff, decide_eq_false_iff_not, bne_eq_false_iff_eq] at h
    unfold Registrations.provide
    rcases h with h | h
    · rw [if_neg h]
    · simp only [h, ite_self]
  case h_5 hm =>
    simp only [hm] at h
    rw [h]
    rfl

/-- What was registered can be seen in the registrations. -/
theorem registered_ne (h : b.registers k bufRing = true) (ha : b.Agreed k bufRing) :
    b.registered k bufRing ≠ k := by
  intro he
  unfold registers at h
  unfold registered at he
  cases hm : b.mode with
  | normalBuf => simp [hm] at h
  | bufNoVal => simp [hm] at h
  | fixed =>
    simp only [hm] at he
    have := congrArg Registrations.fixed he
    rw [ha.fixed hm] at this
    exact absurd this (by simp)
  | provided =>
    simp only [hm, Bool.and_eq_true, decide_eq_true_eq, bne_iff_ne] at h
    simp only [hm, Registrations.provide, if_pos h.1] at he
    cases hg : k.groups (toUint16 b.bgid) with
    | bufRing => exact h.2 hg
    | provided n =>
      simp only [hg] at he
      have hgr := congrArg (fun k => Registrations.groups k (toUint16 b.bgid)) he
      simp only [Registrations.setGroup_groups_self, hg, BufferGroup.provided.injEq] at hgr
      have h1 := h.1.1
      omega
  | bufRing =>
    simp only [hm] at h
    simp only [hm, h, if_true] at he
    have hgr := congrArg (fun k => Registrations.groups k (toUint16 b.bgid)) he
    simp only [Registrations.setGroup_groups_self, ha.bufRing hm h] at hgr
    exact absurd hgr (by simp)

theorem takenBack_registered (ha : b.Agreed k bufRing)
    (hsub : b.mode = .provided → submitted = true) :
    b.takenBack (b.registered k bufRing) bufRing submitted = k := by
  unfold takenBack registered
  cases hm : b.mode with
  | normalBuf => rfl
  | bufNoVal => rfl
  | fixed =>
    have hf := ha.fixed hm
    simp only [Registrations.unregisterBuffers]
    rw [← hf]
  | provided =>
    simp only [hsub hm, if_true]
    exact Registrations.remove_provide
  | bufRing =>
    cases bufRing with
    | false => rfl
    | true =>
      simp only [if_true, Registrations.freeBufRing, Registrations.setGroup_groups_self,
        Registrations.setGroup_setGroup]
      exact Registrations.setGroup_self (ha.bufRing hm rfl)

/-- Where nothing was registered there is nothing to take back. -/
theorem takenBack_of_not (h : b.registers k bufRing = false) :
    b.takenBack k bufRing submitted = k := by
  unfold registers at h
  unfold takenBack
  split
  case h_1 => rfl
  case h_2 => rfl
  case h_3 hm => simp [hm] at h
  case h_4 hm =>
    simp only [hm, Bool.and_eq_false_iff, decide_eq_false_iff_not, bne_eq_false_iff_eq] at h
    unfold Registrations.remove
    rcases h with h | h
    · rw [if_neg h, ite_self]
    · simp only [h, ite_self]
  case h_5 hm =>
    simp only [hm] at h
    rw [h]
    rfl

theorem SameRequest.takenBack_eq {b' : BufferPayload} (h : b.SameRequest b') :
    b'.takenBack k bufRing submitted = b.takenBack k bufRing submitted := by
  unfold takenBack
  rw [h.mode, h.amount, h.bgid]

theorem SameRequest.registers_eq {b' : BufferPayload} (h : b.SameRequest b') :
    b'.registers k bufRing = b.registers k bufRing := by
  unfold registers
  rw [h.mode, h.amount, h.bgid]

end BufferPayload

/-! ## Requests on the submission queue -/

/-- Nothing that is queued would change the registrations. -/
def Registrations.IdleQueue (k : Registrations) (r : Ring) : Prop := ∀ x ∈ r.queued, k.Idle x.sqe

instance (k : Registrations) (r : Ring) : Decidable (k.IdleQueue r) :=
  inferInstanceAs (Decidable (∀ _ ∈ _, _))

/-- The registrations once everything that is queued is submitted. -/
def Registrations.afterQueue (k : Registrations) (r : Ring) : Registrations :=
  (r.queued.map Flight.sqe).foldl take k

theorem Registrations.IdleQueue.afterQueue {k : Registrations} {r : Ring} (h : k.IdleQueue r) :
    k.afterQueue r = k := by
  apply foldl_take_of_idle
  intro e he
  obtain ⟨x, hx, rfl⟩ := List.mem_map.mp he
  exact h x hx

/-- A submission of the buffer modes takes effect after what was queued, or not at all. -/
theorem advance_submitUntagged_eq (k : Registrations) (r : Ring) (call : PrepCall)
    (submit : Int) :
    k.advance r (submitUntagged r call submit).2 =
      if r.space ≠ 0 ∧ 0 ≤ submit then (k.afterQueue r).take (untaggedEntry r call).sqe else k := by
  by_cases hs : r.space = 0
  · rw [submitUntagged_of_full hs, if_neg (by simp [hs])]
    simp [Registrations.advance]
  · obtain ⟨_, hin, _⟩ := submitUntagged_of_space call submit hs
    by_cases hn : submit < 0
    · rw [if_pos hn] at hin
      rw [if_neg (by omega)]
      simp [Registrations.advance, hin]
    · rw [if_neg hn] at hin
      rw [if_pos ⟨hs, by omega⟩]
      unfold Registrations.advance Registrations.afterQueue
      rw [hin, List.append_assoc, List.drop_left, List.map_append, List.foldl_append]
      rfl

/-- Where nothing that is queued changes the registrations, only the entry of the submission
    can, and at most that one stays on the queue. -/
theorem advance_submitUntagged {k : Registrations} {r : Ring} (call : PrepCall) (submit : Int)
    (hidle : k.IdleQueue r) :
    k.advance r (submitUntagged r call submit).2 =
        (if r.space ≠ 0 ∧ 0 ≤ submit then k.take (untaggedEntry r call).sqe else k) ∧
      ∀ x ∈ (submitUntagged r call submit).2.queued,
        ¬ (r.space ≠ 0 ∧ 0 ≤ submit) ∧ (x ∈ r.queued ∨ x = untaggedEntry r call) := by
  constructor
  · rw [advance_submitUntagged_eq, hidle.afterQueue]
  · intro x hx
    by_cases hs : r.space = 0
    · rw [submitUntagged_of_full hs] at hx
      exact ⟨by simp [hs], .inl hx⟩
    · obtain ⟨_, _, hq⟩ := submitUntagged_of_space call submit hs
      rw [hq] at hx
      by_cases hn : submit < 0
      · rw [if_pos hn] at hx
        refine ⟨by omega, ?_⟩
        rcases List.mem_append.mp hx with hx | hx
        · exact .inl hx
        · exact .inr (List.mem_singleton.mp hx)
      · rw [if_neg hn] at hx
        exact absurd hx (by simp)

/-- The kernel side of a successful enter of a payload's context. -/
theorem initBuffers_kernel {h h' : Host} {p : PayloadId} {token : Token} {env : EnterEnv}
    {e : Entered} {b : BufferPayload} (hb : h.loop.heap.payloads[p]? = some b)
    (hidle : h.kernel.IdleQueue h.loop.ring)
    (hi : initBuffers h p token env = .ok (some e, h')) :
    h'.kernel = b.registered h.kernel e.bufRing ∧ b.Agreed h.kernel e.bufRing ∧
      h'.kernel.IdleQueue h'.loop.ring := by
  unfold initBuffers at hi
  simp only [hb] at hi
  unfold BufferPayload.registered
  cases hm : b.mode with
  | normalBuf =>
    simp only [hm, Except.ok.injEq, Prod.mk.injEq] at hi
    obtain ⟨_, rfl⟩ := hi
    exact ⟨rfl, ⟨by simp [hm], by simp [hm]⟩, hidle⟩
  | bufNoVal =>
    simp only [hm, Except.ok.injEq, Prod.mk.injEq] at hi
    obtain ⟨_, rfl⟩ := hi
    exact ⟨rfl, ⟨by simp [hm], by simp [hm]⟩, hidle⟩
  | fixed =>
    simp only [hm] at hi
    cases hv : b.vector with
    | none => simp [hv] at hi
    | some v =>
      simp only [hv, Registrations.registerBuffers] at hi
      cases hf : h.kernel.fixed with
      | true => simp [hf] at hi
      | false =>
        cases ha : env.agreed with
        | false => simp [hf, ha] at hi
        | true =>
          simp only [hf, ha, Bool.not_true, Bool.or_self, Bool.false_eq_true, if_false] at hi
          split at hi
          · simp at hi
          · simp only [Except.ok.injEq, Prod.mk.injEq] at hi
            obtain ⟨_, rfl⟩ := hi
            exact ⟨rfl, ⟨fun _ => hf, by simp [hm]⟩, fun x hx => (hidle x hx).mono fun _ h => h⟩
  | provided =>
    simp only [hm] at hi
    cases hl : b.linear with
    | none => simp [hl] at hi
    | some linear =>
      simp only [hl] at hi
      split at hi
      · simp at hi
      · rename_i hres
        simp only [Except.ok.injEq, Prod.mk.injEq] at hi
        obtain ⟨_, rfl⟩ := hi
        -- the request was submitted, since the result is no error
        have hsent : h.loop.ring.space ≠ 0 ∧ 0 ≤ env.submit := by
          unfold initProvidedMode at hres
          by_cases hs : h.loop.ring.space = 0
          · rw [submitUntagged_of_full hs] at hres
            exact absurd (show (-1 : Int) < 0 by omega) hres
          · rw [(submitUntagged_of_space _ _ hs).1] at hres
            exact ⟨hs, by omega⟩
        obtain ⟨hk, hq⟩ := advance_submitUntagged
          (.provideBuffers linear.buffer (toInt linear.len) b.amount b.bgid 0) env.submit hidle
        rw [if_pos hsent] at hk
        exact ⟨hk, ⟨by simp [hm], by simp [hm]⟩, fun x hx => absurd hsent (hq x hx).1⟩
  | bufRing =>
    simp only [hm] at hi
    cases hl : b.linear with
    | none => simp [hl] at hi
    | some linear =>
      simp only [hl, Registrations.setupBufRing, Except.ok.injEq, Prod.mk.injEq,
        Option.some.injEq] at hi
      split at hi
      · rename_i hg
        obtain ⟨rfl, rfl⟩ := hi
        exact ⟨rfl, ⟨by simp [hm], fun _ _ => hg.1⟩, fun x hx =>
          (hidle x hx).mono (Registrations.keepsUntouched_setGroup (.inr rfl))⟩
      · obtain ⟨rfl, rfl⟩ := hi
        exact ⟨rfl, ⟨by simp [hm], by simp⟩, hidle⟩

/-- The kernel side of leaving a BufferModeCtx. -/
theorem bufferModeCtxExit_kernel {h h' : Host} {p : PayloadId} {self : Entered} {submit : Int}
    {b : BufferPayload} (hb : h.loop.heap.payloads[p]? = some b)
    (hidle : h.kernel.IdleQueue h.loop.ring)
    (hx : bufferModeCtxExit h p self submit = .ok h') :
    h'.kernel = b.takenBack h.kernel self.bufRing
        (decide (h.loop.ring.space ≠ 0 ∧ 0 ≤ submit)) ∧
      ((b.mode = .provided → b.registers h.kernel self.bufRing = true →
          h.loop.ring.space ≠ 0 ∧ 0 ≤ submit) →
        h'.kernel.IdleQueue h'.loop.ring) := by
  unfold bufferModeCtxExit contextVarReset at hx
  simp only [hb] at hx
  unfold BufferPayload.takenBack
  cases hm : b.mode with
  | normalBuf =>
    simp only [hm, Except.ok.injEq] at hx
    subst hx
    exact ⟨rfl, fun _ => hidle⟩
  | bufNoVal =>
    simp only [hm, Except.ok.injEq] at hx
    subst hx
    exact ⟨rfl, fun _ => hidle⟩
  | fixed =>
    simp only [hm, Except.ok.injEq] at hx
    subst hx
    exact ⟨rfl, fun _ x hx => (hidle x hx).mono fun _ h => h⟩
  | bufRing =>
    simp only [hm] at hx
    cases hr : self.bufRing with
    | false =>
      simp only [hr, Bool.not_false, if_true, Except.ok.injEq] at hx
      subst hx
      exact ⟨rfl, fun _ => hidle⟩
    | true =>
      simp only [hr, Bool.not_true, Bool.false_eq_true, if_false, Except.ok.injEq] at hx
      subst hx
      refine ⟨rfl, fun _ x hx => (hidle x hx).mono ?_⟩
      unfold Registrations.freeBufRing
      split
      · exact Registrations.keepsUntouched_setGroup (.inl rfl)
      · exact fun _ h => h
  | provided =>
    simp only [hm, Except.ok.injEq] at hx
    subst hx
    obtain ⟨hk, hq⟩ := advance_submitUntagged (.removeBuffers b.amount b.bgid) submit hidle
    refine ⟨?_, fun hsent x hx => ?_⟩
    · refine hk.trans ?_
      by_cases hsent : h.loop.ring.space ≠ 0 ∧ 0 ≤ submit
      · rw [if_pos hsent, decide_eq_true hsent]
        rfl
      · rw [if_neg hsent, decide_eq_false hsent]
        rfl
    · -- what stays on the queue is the request to remove buffers of an untouched group
      obtain ⟨hno, hmem⟩ := hq x hx
      have hreg : b.registers h.kernel self.bufRing = false := by
        cases hr : b.registers h.kernel self.bufRing with
        | false => rfl
        | true => exact absurd (hsent rfl hr) hno
      have hsame : h.kernel.advance h.loop.ring
          (closeProvidedMode h.loop.ring b.amount b.bgid submit).2 = h.kernel :=
        hk.trans (if_neg hno)
      dsimp only
      rw [hsame]
      rcases hmem with hold | rfl
      · exact hidle x hold
      · unfold BufferPayload.registers at hreg
        simp only [hm, Bool.and_eq_false_iff, decide_eq_false_iff_not,
          bne_eq_false_iff_eq] at hreg
        exact hreg.imp id .inr

/-! ## Runs -/

/-- A step keeps what the requests about a payload are made from. -/
def Heap.KeepsRequests (h h' : Heap) : Prop :=
  ∀ (p : PayloadId) (b : BufferPayload), h.payloads[p]? = some b →
    ∃ b', h'.payloads[p]? = some b' ∧ b.SameRequest b'

theorem BufferPayload.SameRequest.trans {a b c : BufferPayload} (h : a.SameRequest b)
    (h' : b.SameRequest c) : a.SameRequest c :=
  ⟨h'.mode.trans h.mode, h'.amount.trans h.amount, h'.bgid.trans h.bgid,
    h'.linear.trans h.linear⟩

theorem Heap.KeepsRequests.trans {a b c : Heap} (h : a.KeepsRequests b)
    (h' : b.KeepsRequests c) : a.KeepsRequests c := by
  intro p x hx
  obtain ⟨y, hy, hs⟩ := h p x hx
  obtain ⟨z, hz, hs'⟩ := h' p y hy
  exact ⟨z, hz, hs.trans hs'⟩

/-- The kernel side of a successful enter. -/
structure EnteredKernel (m : Manager) (h : Host) (e : Entered) (h' : Host) : Prop where
  heap : h.loop.heap.KeepsRequests h'.loop.heap
  idle : h'.kernel.IdleQueue h'.loop.ring
  without : m.owned = none → h'.kernel = h.kernel
  payload : ∀ p, m.owned = some p → ∃ b, h.loop.heap.payloads[p]? = some b ∧
    h'.kernel = b.registered h.kernel e.bufRing ∧ b.Agreed h.kernel e.bufRing

theorem initBuffers_entered {m : Manager} {h h' h1 : Host} {p : PayloadId} {token : Token}
    {env : EnterEnv} {e : Entered} (hm : m.owned = some p)
    (hidle : h.kernel.IdleQueue h.loop.ring)
    (hi : initBuffers h1 p token env = .ok (some e, h')) (hheap : h1.loop.heap = h.loop.heap)
    (hring : h1.loop.ring = h.loop.ring) (hk1 : h1.kernel = h.kernel) :
    EnteredKernel m h e h' := by
  have hown := (initBuffers_inited hi).heap.own
  rw [← hk1, ← hring] at hidle
  cases hb : h1.loop.heap.payloads[p]? with
  | none =>
    unfold initBuffers at hi
    simp [hb] at hi
  | some b =>
    obtain ⟨hk, ha, hidle'⟩ := initBuffers_kernel hb hidle hi
    rw [hk1] at hk ha
    rw [hheap] at hown hb
    refine ⟨hown, hidle', by simp [hm], fun q hq => ?_⟩
    rw [hm] at hq
    obtain rfl := Option.some.inj hq
    exact ⟨b, hb, hk, ha⟩

theorem Manager.enter_kernel {m : Manager} {h h' : Host} {env : EnterEnv} {e : Entered}
    (hidle : h.kernel.IdleQueue h.loop.ring) (he : m.enter h env = .ok (some e, h')) :
    EnteredKernel m h e h' := by
  cases m with
  | bufferMode payload p =>
    simp only [Manager.enter, bufferModeCtxEnter] at he
    cases hc : h.loop.context with
    | none => simp [hc] at he
    | some current =>
      simp only [hc] at he
      exact initBuffers_entered rfl hidle he rfl rfl rfl
  | executionContext payload p =>
    have hi : initBuffers (contextVarSet h payload).2 p (contextVarSet h payload).1 env =
      .ok (some e, h') := he
    exact initBuffers_entered rfl hidle hi rfl rfl rfl
  | streamStrategy payload =>
    simp only [Manager.enter, streamStrategyCtxEnter] at he
    cases hc : h.loop.context with
    | none => simp [hc] at he
    | some current =>
      simp only [hc, contextVarSet, Except.ok.injEq, Prod.mk.injEq] at he
      obtain ⟨_, rfl⟩ := he
      exact ⟨fun p b hb => ⟨b, hb, .refl b⟩, hidle, fun _ => rfl, by simp [Manager.owned]⟩
  | transferMode payload =>
    simp only [Manager.enter, transferModeCtxEnter] at he
    cases hc : h.loop.context with
    | none => simp [hc] at he
    | some current =>
      simp only [hc, contextVarSet, Except.ok.injEq, Prod.mk.injEq] at he
      obtain ⟨_, rfl⟩ := he
      exact ⟨fun p b hb => ⟨b, hb, .refl b⟩, hidle, fun _ => rfl, by simp [Manager.owned]⟩

/-- The payload of the frame as its enter found it. -/
def Frame.payload (f : Frame) : Option BufferPayload :=
  f.manager.owned.bind fun p => f.outer.loop.heap.payloads[p]?

/-- The enter of the frame registered something. -/
def Frame.registers (f : Frame) : Bool :=
  f.payload.any fun b => b.registers f.outer.kernel f.self.bufRing

/-- The exit of the frame takes back what its enter registered. -/
def Frame.takesBack (f : Frame) (r : Ring) (submit : Int) : Bool :=
  match f.manager with
  | .bufferMode _ _ =>
    f.payload.all fun b => b.mode != .provided || decide (r.space ≠ 0 ∧ 0 ≤ submit)
  | .executionContext _ _ | .streamStrategy _ | .transferMode _ => false

/-- The frame with the account of its registrations. -/
structure Frame.Accounted (f : Frame) : Prop where
  without : f.manager.owned = none → f.inner.kernel = f.outer.kernel
  payload : ∀ p, f.manager.owned = some p → ∃ b, f.outer.loop.heap.payloads[p]? = some b ∧
    f.inner.kernel = b.registered f.outer.kernel f.self.bufRing ∧
    b.Agreed f.outer.kernel f.self.bufRing

theorem Frame.Accounted.registers_iff {f : Frame} (hf : f.Accounted) :
    f.registers = true ↔ f.inner.kernel ≠ f.outer.kernel := by
  unfold Frame.registers Frame.payload
  cases ho : f.manager.owned with
  | none => simp [hf.without ho]
  | some p =>
    obtain ⟨b, hb, hk, ha⟩ := hf.payload p ho
    simp only [Option.bind_some, hb, Option.any_some]
    rw [hk]
    cases hr : b.registers f.outer.kernel f.self.bufRing with
    | false => simp [BufferPayload.registered_of_not hr]
    | true => simp [BufferPayload.registered_ne hr ha]

/-- The exit of a frame in the state that its enter left: it gives the registrations back
    exactly when it takes back what was registered, and then leaves nothing on the queue. -/
theorem Frame.Accounted.exit {f : Frame} {h h' : Host} {submit : Int} (hf : f.Accounted)
    (hk : h.kernel = f.inner.kernel) (hidle : h.kernel.IdleQueue h.loop.ring)
    (hheap : f.outer.loop.heap.KeepsRequests h.loop.heap)
    (hx : f.manager.exit h f.self submit = .ok h') :
    (h'.kernel = f.outer.kernel ↔
        (f.registers = true → f.takesBack h.loop.ring submit = true)) ∧
      ((f.registers = true → f.takesBack h.loop.ring submit = true) →
        h'.kernel.IdleQueue h'.loop.ring) := by
  -- a manager that only resets the variable keeps what its enter registered
  have hreset : h'.kernel = h.kernel → h'.loop.ring = h.loop.ring →
      f.takesBack h.loop.ring submit = false →
      (h'.kernel = f.outer.kernel ↔
          (f.registers = true → f.takesBack h.loop.ring submit = true)) ∧
        ((f.registers = true → f.takesBack h.loop.ring submit = true) →
          h'.kernel.IdleQueue h'.loop.ring) := by
    intro hk' hr' hno
    refine ⟨?_, fun _ => by rw [hk', hr']; exact hidle⟩
    rw [hno, hk', hk, hf.registers_iff]
    simp
  cases hm : f.manager with
  | streamStrategy payload =>
    rw [hm] at hx
    cases hx
    exact hreset rfl rfl (by simp only [Frame.takesBack, hm])
  | transferMode payload =>
    rw [hm] at hx
    cases hx
    exact hreset rfl rfl (by simp only [Frame.takesBack, hm])
  | executionContext payload p =>
    rw [hm] at hx
    cases hx
    exact hreset rfl rfl (by simp only [Frame.takesBack, hm])
  | bufferMode payload p =>
    rw [hm] at hx
    have howned : f.manager.owned = some p := by rw [hm]; rfl
    obtain ⟨b, hb, hin, ha⟩ := hf.payload p howned
    obtain ⟨b', hb', hsame⟩ := hheap p b hb
    have hpay : f.payload = some b := by
      rw [Frame.payload, howned, Option.bind_some, hb]
    have hregs : f.registers = b.registers f.outer.kernel f.self.bufRing := by
      rw [Frame.registers, hpay, Option.any_some]
    have htakes : f.takesBack h.loop.ring submit =
        (b.mode != .provided || decide (h.loop.ring.space ≠ 0 ∧ 0 ≤ submit)) := by
      simp only [Frame.takesBack, hm, hpay, Option.all_some]
    rw [hregs, htakes]
    obtain ⟨hkx, hidlex⟩ := bufferModeCtxExit_kernel hb' hidle hx
    rw [hsame.takenBack_eq, hk, hin] at hkx
    rw [hsame.mode, hsame.registers_eq, hk, hin] at hidlex
    cases hr : b.registers f.outer.kernel f.self.bufRing with
    | false =>
      rw [BufferPayload.registered_of_not hr] at hkx hidlex
      rw [BufferPayload.takenBack_of_not hr] at hkx
      refine ⟨by simp [hkx], fun _ => hidlex fun _ ht => ?_⟩
      rw [hr] at ht
      exact absurd ht (by simp)
    | true =>
      by_cases hsent : b.mode = .provided → h.loop.ring.space ≠ 0 ∧ 0 ≤ submit
      · have hdec : (b.mode != .provided || decide (h.loop.ring.space ≠ 0 ∧ 0 ≤ submit)) =
            true := by
          by_cases hp : b.mode = .provided
          · simp only [hp, decide_eq_true (hsent hp), Bool.or_true]
          · simp [hp]
        rw [BufferPayload.takenBack_registered ha fun hp => decide_eq_true (hsent hp)] at hkx
        exact ⟨⟨fun _ _ => hdec, fun _ => hkx⟩, fun _ => hidlex fun hp _ => hsent hp⟩
      · obtain ⟨hp, hno⟩ := Classical.not_imp.mp hsent
        have hdec : (b.mode != .provided || decide (h.loop.ring.space ≠ 0 ∧ 0 ≤ submit)) =
            false := by
          simp only [hp, decide_eq_false hno, bne_self_eq_false, Bool.or_self]
        have hkeep : h'.kernel = b.registered f.outer.kernel f.self.bufRing := by
          rw [hkx, decide_eq_false hno]
          simp only [BufferPayload.takenBack, hp, Bool.false_eq_true, if_false]
        have hne := BufferPayload.registered_ne hr ha
        rw [hdec, hkeep]
        exact ⟨⟨fun h => absurd h hne, fun h => absurd (h rfl) (by simp)⟩,
          fun h => absurd (h rfl) (by simp)⟩

namespace Nesting

/-- After an exit the registrations are those from before the matching enter. -/
def Balanced (s : Nesting) (a : BlockAct) (t : Nesting) : Prop :=
  match a with
  | .create _ | .enter _ _ => True
  | .leave _ => ∀ f, s.opened.head? = some f → t.host.kernel = f.outer.kernel

/-- The enter does not return NULL. -/
def Succeeds (s : Nesting) (a : BlockAct) : Prop :=
  match a, s.step a with
  | .enter _ _, .ok t => t.opened.length = s.opened.length + 1
  | _, _ => True

/-- An exit takes back what the enter registered. -/
def Undone (s : Nesting) (a : BlockAct) : Prop :=
  match a with
  | .create _ | .enter _ _ => True
  | .leave submit => ∀ f, s.opened.head? = some f → f.registers = true →
      f.takesBack s.host.loop.ring submit = true

instance (s : Nesting) (a : BlockAct) : Decidable (s.Succeeds a) := by
  unfold Succeeds
  split <;> infer_instance

instance (s : Nesting) (a : BlockAct) : Decidable (s.Undone a) :=
  match a with
  | .create _ | .enter _ _ => .isTrue trivial
  | .leave submit =>
    match h : s.opened with
    | [] => .isTrue fun f hf => by simp [h] at hf
    | g :: _ =>
      decidable_of_iff (g.registers = true → g.takesBack s.host.loop.ring submit = true)
        (by simp [Undone, h])

/-- The registrations of the open managers lie one inside the other, from those at the start;
    nothing on the queue would change them. -/
structure Accounted (base : Registrations) (s : Nesting) : Prop where
  nested : Lib.Nested (fun f : Frame => f.outer.kernel) (fun f => f.inner.kernel) base
    s.host.kernel s.opened
  idle : s.host.kernel.IdleQueue s.host.loop.ring
  frames : ∀ f ∈ s.opened, f.Accounted
  heaps : ∀ f ∈ s.opened, f.outer.loop.heap.KeepsRequests s.host.loop.heap

theorem init_accounted {h : Host} (hidle : h.kernel.IdleQueue h.loop.ring) :
    (init h).Accounted h.kernel :=
  ⟨.nil, hidle, by simp [init], by simp [init]⟩

theorem Accounted.create {base : Registrations} {s : Nesting} (hs : s.Accounted base)
    (args : ManagerArgs) : (s.stepCreate args).Accounted base := by
  have hc := args.create_spec s.host.loop
  refine ⟨hs.nested, ?_, hs.frames, fun f hf => (hs.heaps f hf).trans fun p b hb => ?_⟩
  · intro x hx
    have hring : (s.stepCreate args).host.loop.ring = s.host.loop.ring := hc.ring
    rw [hring] at hx
    exact hs.idle x hx
  · exact ⟨b, hc.kept p b hb, .refl b⟩

theorem Accounted.enter {base : Registrations} {s t : Nesting} {object : Nat} {env : EnterEnv}
    (hs : s.Accounted base) (hok : s.Succeeds (.enter object env))
    (ht : s.stepEnter object env = .ok t) : t.Accounted base := by
  have hlen : t.opened.length = s.opened.length + 1 := by
    unfold Succeeds at hok
    rw [show s.step (.enter object env) = .ok t from ht] at hok
    exact hok
  obtain ⟨m, r, h, hm, he, rfl⟩ := stepEnter_ok ht
  cases r with
  | none => exact absurd hlen (by simp)
  | some self =>
    have hk := Manager.enter_kernel hs.idle he
    refine ⟨hs.nested.enter (f := ⟨m, self, s.host, h⟩) rfl, hk.idle, ?_, ?_⟩
    · intro f hf
      rcases List.mem_cons.mp hf with rfl | hf
      · exact ⟨hk.without, hk.payload⟩
      · exact hs.frames f hf
    · intro f hf
      rcases List.mem_cons.mp hf with rfl | hf
      · exact hk.heap
      · exact (hs.heaps f hf).trans hk.heap

/-- What one exit does to the registrations, and that it keeps the account when it takes
    back what was registered. -/
theorem Accounted.leave {base : Registrations} {s t : Nesting} {submit : Int}
    (hs : s.Accounted base) (ht : s.stepLeave submit = .ok t) :
    (s.Balanced (.leave submit) t ↔ s.Undone (.leave submit)) ∧
      (s.Undone (.leave submit) → t.Accounted base) := by
  obtain ⟨f, fs, h, ho, hx, rfl⟩ := stepLeave_ok ht
  have hf : f ∈ s.opened := by rw [ho]; exact List.mem_cons_self
  have hacc := hs.frames f hf
  have hn := hs.nested
  rw [ho] at hn
  obtain ⟨hinner, hnested⟩ := hn.outer
  have hexit := Manager.exit_spec hx
  have hback := hacc.exit hinner hs.idle (hs.heaps f hf) hx
  have hbal : s.Balanced (.leave submit) ⟨h, s.managers, s.entered, fs⟩ ↔
      h.kernel = f.outer.kernel := by
    unfold Balanced
    simp [ho]
  have hund : s.Undone (.leave submit) ↔
      (f.registers = true → f.takesBack s.host.loop.ring submit = true) := by
    unfold Undone
    simp [ho]
  refine ⟨hbal.trans (hback.1.trans hund.symm), fun hu => ?_⟩
  have hu' := hund.mp hu
  refine ⟨?_, hback.2 hu', fun g hg => ?_, fun g hg => ?_⟩
  · show Lib.Nested _ _ _ h.kernel fs
    rw [hback.1.mpr hu']
    exact hnested
  · exact hs.frames g (by rw [ho]; exact List.mem_cons_of_mem _ hg)
  · refine (hs.heaps g (by rw [ho]; exact List.mem_cons_of_mem _ hg)).trans ?_
    exact hexit.heap.own

theorem Accounted.step {base : Registrations} {s t : Nesting} {a : BlockAct}
    (hs : s.Accounted base) (hok : s.Succeeds a) (ht : s.step a = .ok t) :
    (s.Balanced a t ↔ s.Undone a) ∧ (s.Undone a → t.Accounted base) := by
  cases a with
  | create args =>
    cases ht
    exact ⟨Iff.rfl, fun _ => hs.create args⟩
  | enter object env => exact ⟨Iff.rfl, fun _ => hs.enter hok ht⟩
  | leave submit => exact hs.leave ht

/-- An exit never stops, since the payload of an open manager is there. -/
theorem Accounted.stops {base : Registrations} {s : Nesting} {a : BlockAct} {e : Stop}
    (hs : s.Accounted base) (ht : s.step a = .error e) : s.Undone a := by
  cases a with
  | create args => trivial
  | enter object env => trivial
  | leave submit =>
    intro f hf
    have hmem : f ∈ s.opened := List.mem_of_mem_head? hf
    have hlives : ∀ p, f.manager.owned = some p → s.host.loop.heap.payloads[p]? ≠ none := by
      intro p hp
      obtain ⟨b, hb, _⟩ := (hs.frames f hmem).payload p hp
      obtain ⟨b', hb', _⟩ := hs.heaps f hmem p b hb
      simp [hb']
    obtain ⟨h, hx⟩ := Manager.exit_ok f.self submit hlives
    cases ho : s.opened with
    | nil => simp [ho] at hf
    | cons g gs =>
      rw [ho, List.head?_cons] at hf
      obtain rfl := Option.some.inj hf
      have hok : s.stepLeave submit = .ok { s with host := h, opened := gs } := by
        simp only [stepLeave, ho, hx]
      rw [show s.step (.leave submit) = s.stepLeave submit from rfl, hok] at ht
      exact absurd ht (by simp)

/-- Every exit gives the registrations back exactly when every ExecutionContextCtx that is
    left had registered nothing, and every request to remove PROVIDED buffers that takes
    something back is submitted; outside of all blocks they are then those at the start. -/
theorem registrations_balanced_iff {h : Host} {acts : List BlockAct}
    (hidle : h.kernel.IdleQueue h.loop.ring)
    (henters : Lib.Meets step Succeeds (init h) acts) :
    (Lib.Each step Balanced (init h) acts ↔ Lib.Meets step Undone (init h) acts) ∧
      (Lib.Meets step Undone (init h) acts → ∀ t, (init h).run acts = .ok t →
        t.opened = [] → t.host.kernel = h.kernel) := by
  have hinit := init_accounted hidle
  refine ⟨henters.each_iff (Accounted h.kernel) ?_ ?_ hinit, fun hu t ht hopen => ?_⟩
  · exact fun s a t hs hok ht => hs.step hok ht
  · exact fun s a e hs _ ht => hs.stops ht
  · have hacc : t.Accounted h.kernel :=
      (henters.and hu).invariant (Accounted h.kernel)
        (fun s a t hs ha ht => (hs.step ha.1 ht).2 ha.2) hinit ht
    have hn := hacc.nested
    rw [hopen] at hn
    exact hn.base_eq

/-- A PROVIDED context around a FIXED one, both entered through `buffer_mode`. -/
def balancedBlocks : List BlockAct :=
  [.create (.bufferMode .provided false (some [⟨.mem 1, 8⟩]) 5 0 true),
    .create (.bufferMode .fixed false (some [⟨.mem 2, 8⟩]) 0 0 true),
    .enter 0 ⟨true, true, 1⟩, .enter 1 ⟨true, true, 1⟩, .leave 1, .leave 1]

theorem registrations_balanced_iff_nested :
    Lib.Each step Balanced (init newHost) balancedBlocks ∧
      ∃ t, (init newHost).run balancedBlocks = .ok t ∧ t.host.kernel = newHost.kernel := by
  have hbal := @registrations_balanced_iff newHost balancedBlocks
    (by decide +kernel) (by decide +kernel)
  have hundone : Lib.Meets step Undone (init newHost) balancedBlocks := by decide +kernel
  obtain ⟨t, ht, hopen⟩ : ∃ t, (init newHost).run balancedBlocks = .ok t ∧
      t.opened.length = 0 := by decide +kernel
  exact ⟨hbal.1.mpr hundone, t, ht, hbal.2 hundone t ht (List.eq_nil_of_length_eq_zero hopen)⟩

/-- `Balanced` for the fixed buffers alone, which can be evaluated. -/
def FixedBalanced (s : Nesting) (a : BlockAct) (t : Nesting) : Prop :=
  match a with
  | .create _ | .enter _ _ => True
  | .leave _ =>
    (s.opened.head?.all fun f => t.host.kernel.fixed == f.outer.kernel.fixed) = true

instance (s : Nesting) (a : BlockAct) (t : Nesting) : Decidable (s.FixedBalanced a t) := by
  unfold FixedBalanced
  split <;> infer_instance

theorem Balanced.fixed {s t : Nesting} {a : BlockAct} (h : s.Balanced a t) :
    s.FixedBalanced a t := by
  cases a with
  | create args => trivial
  | enter object env => trivial
  | leave submit =>
    unfold FixedBalanced
    rw [Option.all_eq_true]
    intro f hf
    rw [h f hf, beq_self_eq_true]

/-- An execution context with FIXED buffers that is entered and left. -/
def fixedBlock : List BlockAct :=
  [.create (.executionContext .fixed .oneshot .normalTransfer false (some [⟨.mem 1, 8⟩]) 0 0
      true),
    .create (.bufferMode .fixed false (some [⟨.mem 2, 8⟩]) 0 0 true),
    .enter 0 ⟨true, true, 1⟩, .leave 1]

theorem executionContext_stays_registered :
    Lib.Meets step Succeeds (init newHost) fixedBlock ∧
      ¬ Lib.Each step Balanced (init newHost) fixedBlock ∧
      ∃ t, (init newHost).run (fixedBlock ++ [.enter 1 ⟨true, true, 1⟩]) = .ok t ∧
        t.opened.length = 0 ∧ t.host.kernel.fixed = true := by
  refine ⟨by decide +kernel, fun h => ?_, by decide +kernel⟩
  have hfixed : Lib.Each step FixedBalanced (init newHost) fixedBlock :=
    h.mono fun s a t hb => hb.fixed
  exact absurd hfixed (by decide +kernel)

end Nesting

end Uringio
