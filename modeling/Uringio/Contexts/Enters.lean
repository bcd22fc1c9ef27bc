/-
  How entering a context can fail, with the exception that it leaves.

  `enterRaising` is `Manager.enter` with the steps that come before a registration and with
  the exception of each failure. Entering a buffer context takes three resources (the token,
  the registration, the index registry) and undoes by hand only the first:
  `enters_atomic_iff` says when an enter that fails leaves nothing and one that succeeds has
  registered its buffers.
-/
import Uringio.Contexts.Registrations

namespace Uringio

/-! ## The enters with their exceptions -/

/-- The entry counts for which the kernel sets up a buffer ring. -/
def powerOfTwo (n : Int) : Bool := (List.range 16).any fun k => n == 2 ^ k

/-- What the environment decides before the registration: what `ContextVar_get` raises
    where the variable holds no capsule, whether there is memory for the clone, and what
    `PyCapsule_New` and `ContextVar_set` raise. -/
structure EnterSteps where
  get : PyErr
  clone : Bool
  capsule : Option PyErr
  set : Option PyErr
deriving DecidableEq, Repr

/-- The switch over the buffer mode, in both enters the same. -/
def initBuffersRaising (h : Host) (p : PayloadId) (token : Token) (env : EnterEnv) :
    Except Stop (Except (Option PyErr) Entered × Host) :=
  match h.loop.heap.payloads[p]? with
  | none => .error .segv
  | some b =>
    match b.mode with
    | .fixed =>
      match b.vector with
      | none => .error .segv
      | some _ =>
        match h.kernel.registerBuffers env.agreed with
        | (false, _) =>
          .ok (.error (some ⟨.runtimeWarning, "Can not initialize fixed buffers"⟩),
            contextVarReset h token)
        | (true, kernel) =>
          -- the registration stays when there is no memory for the indices
          if !env.allocated then
            .ok (.error (some ⟨.runtimeWarning, "Can not initialize provided buffers"⟩),
              contextVarReset { h with kernel := kernel } token)
          else
            let b := { b with
              idxRegistry := some (bufferIdxRegistryCreate (toUnsigned b.amount))
              vector := none, payloadType := .payloadLinear }
            .ok (.ok ⟨token, false⟩,
              ⟨{ h.loop with heap := h.loop.heap.put p b }, kernel⟩)
    | .provided =>
      match b.linear with
      | none => .error .segv
      | some linear =>
        let (result, ring) :=
          initProvidedMode h.loop.ring linear.buffer (toInt linear.len) b.amount b.bgid env.submit
        let opened : Host := ⟨{ h.loop with ring := ring }, h.kernel.advance h.loop.ring ring⟩
        if result < 0 then
          .ok (.error (some ⟨.runtimeWarning, "Can not initialize provided buffers"⟩),
            contextVarReset opened token)
        else .ok (.ok ⟨token, false⟩, opened)
    | .bufRing =>
      match b.linear with
      | none => .error .segv
      | some _ =>
        let (bufRing, kernel) :=
          h.kernel.setupBufRing b.bgid (env.agreed && powerOfTwo b.amount)
        .ok (.ok ⟨token, bufRing⟩, { h with kernel := kernel })
    | .normalBuf | .bufNoVal => .ok (.ok ⟨token, false⟩, h)

/-- All but the ExecutionContextCtx copy the current context. -/
def Manager.clones : Manager → Bool
  | .bufferMode _ _ | .streamStrategy _ | .transferMode _ => true
  | .executionContext _ _ => false

/-- The steps of an enter up to the new value of the variable. -/
def EnterSteps.failure (steps : EnterSteps) (clones : Bool) (context : Option ExecutionContext) :
    Option PyErr :=
  if clones && context.isNone then some steps.get
  else if clones && !steps.clone then some ⟨.memoryError, ""⟩
  else
    match steps.capsule with
    | some e => some e
    | none =>
      if clones then steps.set
      else steps.set.map fun _ => ⟨.valueError, "Error while setting contextvar"⟩

/-- `__enter__` of a manager with the exception of a NULL. -/
def Manager.enterRaising (m : Manager) (h : Host) (env : EnterEnv) (steps : EnterSteps) :
    Except Stop (Except (Option PyErr) Entered × Host) :=
  match steps.failure m.clones h.loop.context with
  | some e => .ok (.error (some e), h)
  | none =>
    let (token, h) := contextVarSet h (m.override (h.loop.context.getD .default))
    match m.owned with
    | none => .ok (.ok ⟨token, false⟩, h)
    | some p => initBuffersRaising h p token env

/-! ## Agreement with `Manager.enter` -/

/-- The kernel sets up a buffer ring for a power of two only. -/
def EnterEnv.counted (env : EnterEnv) (b : BufferPayload) : EnterEnv :=
  if b.mode = .bufRing then { env with agreed := env.agreed && powerOfTwo b.amount } else env

theorem initBuffersRaising_eq {h : Host} {p : PayloadId} {b : BufferPayload} (token : Token)
    (env : EnterEnv) (hb : h.loop.heap.payloads[p]? = some b) :
    (initBuffersRaising h p token env).map (fun r => (r.1.toOption, r.2)) =
      initBuffers h p token (env.counted b) := by
  unfold initBuffersRaising initBuffers EnterEnv.counted
  simp only [hb]
  cases hm : b.mode with
  | normalBuf => rfl
  | bufNoVal => rfl
  | bufRing =>
    cases b.linear with
    | none => rfl
    | some linear => rfl
  | provided =>
    cases b.linear with
    | none => rfl
    | some linear =>
      simp only [reduceCtorEq, if_false]
      split
      · rfl
      · rfl
  | fixed =>
    cases b.vector with
    | none => rfl
    | some vector =>
      simp only [reduceCtorEq, if_false]
      unfold Registrations.registerBuffers
      cases h.kernel.fixed <;> cases env.agreed <;> cases env.allocated <;> rfl

/-- When the steps before it succeed, the enter is that of the model without exceptions. -/
theorem Manager.enterRaising_eq {m : Manager} {h : Host} {env : EnterEnv} {steps : EnterSteps}
    {p : PayloadId} {b : BufferPayload} (hm : m.owned = some p)
    (hb : h.loop.heap.payloads[p]? = some b)
    (hs : steps.failure m.clones h.loop.context = none) :
    (m.enterRaising h env steps).map (fun r => (r.1.toOption, r.2)) =
      m.enter h (env.counted b) := by
  unfold enterRaising
  simp only [hs, hm]
  cases m with
  | streamStrategy payload => exact absurd hm (by simp [Manager.owned])
  | transferMode payload => exact absurd hm (by simp [Manager.owned])
  | executionContext payload q =>
    obtain rfl := Option.some.inj hm
    exact initBuffersRaising_eq _ env hb
  | bufferMode payload q =>
    obtain rfl := Option.some.inj hm
    unfold enter bufferModeCtxEnter
    cases hc : h.loop.context with
    | none => exact absurd hs (by simp [EnterSteps.failure, Manager.clones, hc])
    | some current => exact initBuffersRaising_eq _ env hb

/-! ## All or nothing -/

/-- The buffers of the payload are registered, in a ring that had `k` registered before. -/
def BufferPayload.InPlace (b : BufferPayload) (k k' : Registrations) (e : Entered) : Prop :=
  match b.mode with
  | .fixed => k'.fixed = true
  | .provided => ∃ n, k.groups (toUint16 b.bgid) = .provided n ∧ 1 ≤ b.amount ∧
      k'.groups (toUint16 b.bgid) = .provided (n + b.amount.toNat)
  | .bufRing => e.bufRing = true ∧ k'.groups (toUint16 b.bgid) = .bufRing
  | .normalBuf | .bufNoVal => True

/-- The enter returns NULL with an exception and leaves the variable and the registrations as
    they are, now and when the queue is submitted; or the buffers are registered. -/
def AllOrNothing (b : BufferPayload) (h : Host) :
    Except (Option PyErr) Entered × Host → Prop
  | (.error e, h') => e.isSome ∧ h'.loop.context = h.loop.context ∧ h'.kernel = h.kernel ∧
      h'.kernel.afterQueue h'.loop.ring = h.kernel.afterQueue h.loop.ring
  | (.ok e, h') => b.InPlace (h.kernel.afterQueue h.loop.ring) h'.kernel e

/-- The step that fails is one that registers nothing, and what is registered does not fail. -/
def BufferPayload.Atomic (b : BufferPayload) (h : Host) (env : EnterEnv) : Prop :=
  match b.mode with
  | .fixed => h.kernel.fixed = false → env.agreed = true → env.allocated = true
  | .provided => h.loop.ring.space ≠ 0 →
      (0 ≤ env.submit ↔ b.registers (h.kernel.afterQueue h.loop.ring) false = true)
  | .bufRing => h.kernel.groups (toUint16 b.bgid) = .provided 0 ∧ env.agreed = true ∧
      powerOfTwo b.amount = true
  | .normalBuf | .bufNoVal => True

/-- The queue after a request that waits on it. -/
theorem afterQueue_append {k : Registrations} {r r' : Ring} {x : Flight}
    (h : r'.queued = r.queued ++ [x]) : k.afterQueue r' = (k.afterQueue r).take x.sqe := by
  unfold Registrations.afterQueue
  rw [h, List.map_append, List.foldl_append]
  rfl

section Provided

variable {b : BufferPayload} {k : Registrations}

/-- Handing the buffers over changes their group, or the kernel refuses the request. -/
theorem provide_cases (hm : b.mode = .provided) :
    (b.registers k false = true ∧ ∃ n, k.groups (toUint16 b.bgid) = .provided n ∧
        1 ≤ b.amount ∧ (k.provide b.amount b.bgid).groups (toUint16 b.bgid) =
          .provided (n + b.amount.toNat)) ∨
      (b.registers k false = false ∧ k.provide b.amount b.bgid = k) := by
  unfold BufferPayload.registers Registrations.provide
  simp only [hm]
  by_cases hc : Registrations.Countable b.amount
  · cases hg : k.groups (toUint16 b.bgid) with
    | bufRing => exact .inr ⟨by simp [hc], by simp⟩
    | provided n =>
      refine .inl ⟨by simp [hc], n, rfl, hc.1, ?_⟩
      rw [if_pos hc]
      exact Registrations.setGroup_groups_self _
  · exact .inr ⟨by simp [hc], by simp [hc]⟩

/-- A request to hand over buffers that waits on the queue. -/
theorem provide_eq_iff (hm : b.mode = .provided) :
    k.provide b.amount b.bgid = k ↔ b.registers k false = false := by
  rcases provide_cases (k := k) hm with ⟨hreg, n, hg, hpos, hn⟩ | ⟨hreg, hsame⟩
  · refine ⟨fun he => ?_, fun hf => absurd (hreg.symm.trans hf) (by simp)⟩
    rw [he, hg, BufferGroup.provided.injEq] at hn
    omega
  · exact ⟨fun _ => hreg, fun _ => hsame⟩

theorem inPlace_provide_iff (hm : b.mode = .provided) (e : Entered) :
    b.InPlace k (k.provide b.amount b.bgid) e ↔ b.registers k false = true := by
  unfold BufferPayload.InPlace
  simp only [hm]
  rcases provide_cases (k := k) hm with ⟨hreg, n, hg, hpos, hn⟩ | ⟨hreg, hsame⟩
  · exact ⟨fun _ => hreg, fun _ => ⟨n, hg, hpos, hn⟩⟩
  · refine ⟨fun ⟨n, hg, hpos, hn⟩ => ?_, fun ht => absurd (hreg.symm.trans ht) (by simp)⟩
    rw [hsame, hg, BufferGroup.provided.injEq] at hn
    omega

end Provided

/-- The switch over the mode, with the variable already set to `c`. -/
theorem initBuffersRaising_atomic_iff {h : Host} {p : PayloadId} {b : BufferPayload}
    {c : Option ExecutionContext} {env : EnterEnv}
    {r : Except (Option PyErr) Entered × Host} (hb : h.loop.heap.payloads[p]? = some b)
    (hr : initBuffersRaising { h with loop := { h.loop with context := c } } p h.loop.context
      env = .ok r) : AllOrNothing b h r ↔ b.Atomic h env := by
  unfold initBuffersRaising at hr
  simp only [hb] at hr
  unfold BufferPayload.Atomic
  cases hm : b.mode with
  | normalBuf =>
    simp only [hm, Except.ok.injEq] at hr
    subst hr
    simp [AllOrNothing, BufferPayload.InPlace, hm]
  | bufNoVal =>
    simp only [hm, Except.ok.injEq] at hr
    subst hr
    simp [AllOrNothing, BufferPayload.InPlace, hm]
  | bufRing =>
    simp only [hm] at hr
    cases hl : b.linear with
    | none => simp [hl] at hr
    | some linear =>
      simp only [hl, Registrations.setupBufRing, Except.ok.injEq] at hr
      subst hr
      simp only [AllOrNothing, BufferPayload.InPlace, hm, Bool.and_eq_true]
      split
      · rename_i hg
        exact ⟨fun _ => hg, fun _ => ⟨rfl, Registrations.setGroup_groups_self _⟩⟩
      · rename_i hg
        exact ⟨fun hk => absurd hk.1 (by simp), fun hk => absurd hk hg⟩
  | fixed =>
    simp only [hm] at hr
    cases hv : b.vector with
    | none => simp [hv] at hr
    | some vector =>
      simp only [hv, Registrations.registerBuffers] at hr
      cases hf : h.kernel.fixed with
      | true =>
        simp only [hf, Bool.true_or, if_true, Except.ok.injEq] at hr
        subst hr
        exact ⟨fun _ h' => absurd h' (by simp), fun _ => ⟨rfl, rfl, rfl, rfl⟩⟩
      | false =>
        cases ha : env.agreed with
        | false =>
          simp only [hf, ha, Bool.not_false, Bool.or_true, if_true, Except.ok.injEq] at hr
          subst hr
          exact ⟨fun _ _ h' => absurd h' (by simp), fun _ => ⟨rfl, rfl, rfl, rfl⟩⟩
        | true =>
          cases hall : env.allocated with
          | false =>
            simp only [hf, ha, hall, Bool.not_true, Bool.or_self, Bool.false_eq_true, if_false,
              Bool.not_false, if_true, Except.ok.injEq] at hr
            subst hr
            refine ⟨fun hk => ?_, fun hk => absurd (hk rfl rfl) (by simp)⟩
            have := congrArg Registrations.fixed hk.2.2.1
            exact absurd (this.trans hf) (by simp [contextVarReset])
          | true =>
            simp only [hf, ha, hall, Bool.not_true, Bool.or_self, Bool.false_eq_true, if_false,
              Except.ok.injEq] at hr
            subst hr
            refine ⟨fun _ _ _ => rfl, fun _ => ?_⟩
            unfold AllOrNothing BufferPayload.InPlace
            simp only [hm]
  | provided =>
    simp only [hm] at hr
    cases hl : b.linear with
    | none => simp [hl] at hr
    | some linear =>
      have hadv := advance_submitUntagged_eq h.kernel h.loop.ring
        (.provideBuffers linear.buffer (toInt linear.len) b.amount b.bgid 0) env.submit
      cases hx : submitUntagged h.loop.ring (.provideBuffers linear.buffer (toInt linear.len)
          b.amount b.bgid 0) env.submit with
      | mk result ring =>
      simp only [hl, initProvidedMode, hx] at hr
      rw [hx] at hadv
      by_cases hs : h.loop.ring.space = 0
      · rw [submitUntagged_of_full hs] at hx
        obtain ⟨rfl, rfl⟩ := Prod.mk.inj hx
        rw [if_pos (by omega), Except.ok.injEq] at hr
        subst hr
        rw [if_neg (fun hk => hk.1 hs)] at hadv
        refine ⟨fun _ hne => absurd hs hne, fun _ => ⟨rfl, rfl, hadv, ?_⟩⟩
        show (h.kernel.advance h.loop.ring h.loop.ring).afterQueue h.loop.ring = _
        rw [hadv]
      · obtain ⟨hneg, -, hq⟩ := submitUntagged_of_space
          (.provideBuffers linear.buffer (toInt linear.len) b.amount b.bgid 0) env.submit hs
        rw [hx] at hneg hq
        dsimp only at hneg hq hadv
        by_cases hn : env.submit < 0
        · -- the request waits on the queue
          rw [if_neg (by omega)] at hadv
          rw [if_pos hn] at hq
          rw [if_pos (hneg.mpr hn), Except.ok.injEq] at hr
          subst hr
          have hafter : (h.kernel.advance h.loop.ring ring).afterQueue ring =
              (h.kernel.afterQueue h.loop.ring).provide b.amount b.bgid := by
            rw [hadv]
            exact afterQueue_append hq
          constructor
          · intro hk _
            have hf := (provide_eq_iff hm).mp (hafter.symm.trans hk.2.2.2)
            rw [hf]
            exact ⟨fun hpos => by omega, fun h' => absurd h' (by simp)⟩
          · intro hk
            have hf : b.registers (h.kernel.afterQueue h.loop.ring) false = false := by
              rw [← Bool.not_eq_true]
              intro ht
              have := (hk hs).mpr ht
              omega
            exact ⟨rfl, rfl, hadv, hafter.trans ((provide_eq_iff hm).mpr hf)⟩
        · rw [if_pos ⟨hs, by omega⟩] at hadv
          rw [if_neg (fun hlt => hn (hneg.mp hlt)), Except.ok.injEq] at hr
          subst hr
          have hkernel : h.kernel.advance h.loop.ring ring =
              (h.kernel.afterQueue h.loop.ring).provide b.amount b.bgid := hadv
          show b.InPlace (h.kernel.afterQueue h.loop.ring) (h.kernel.advance h.loop.ring ring) _ ↔ _
          rw [hkernel, inPlace_provide_iff hm]
          constructor
          · intro ht _
            exact ⟨fun _ => ht, fun _ => by omega⟩
          · intro hk
            exact (hk hs).mp (by omega)

/-- A host with a queue of four entries whose only payload is `b`. -/
def hostOf (b : BufferPayload) : Host :=
  { Nesting.newHost with
    loop := { Nesting.newHost.loop with
      ring := ⟨List.replicate 4 default, 0, 0, [], []⟩, heap := ⟨[b], []⟩ } }

/-- A payload of `amount` buffers that the library has allocated. -/
def payloadOf (mode : BufferMode) (amount : Int) : BufferPayload :=
  { payloadType := .payloadLinear, payloadOrigin := .payloadRuntime, mode := mode
    amount := amount, linear := some ⟨.mem 1, 1024⟩, vector := some ⟨[⟨.mem 1, 1024⟩], 1⟩
    idxRegistry := none, bufIdx := 0, bgid := 5, frees := 0 }

/-- Every step before the registration succeeds. -/
def EnterSteps.ok : EnterSteps := ⟨⟨.raised, ""⟩, true, none, none⟩

end Uringio
