/-
  Submission and completion agree on the payload, along whole runs.

  The payloads stay formed and every live slot keeps the parts for its branch (`PartsInv`),
  so a dispatcher or a branch misses a part in three cases only (`shapes_agree_iff`).
-/
import Uringio.System.Parts
import Uringio.System.Requests

namespace Uringio

/-! ## What the actions do to the payloads -/

section Contexts

variable {l l1 : Loop} {context : ExecutionContext} {p : PayloadId} {registered : Bool}
  {submit : Int}

/-- Entering a FIXED context makes the pool and takes the vector away. -/
theorem BufferPayload.KeepsParts.opened {b : BufferPayload} (hm : b.mode = .fixed)
    (reg : FixedBufferIdxRegistry) :
    b.KeepsParts
      { b with idxRegistry := some reg, vector := none, payloadType := .payloadLinear } := by
  refine ⟨rfl, rfl, fun _ => rfl, fun h => ?_, fun _ => rfl, fun _ => ⟨fun _ _ => rfl,
    fun _ => rfl, fun _ => by simp⟩⟩
  rw [hm] at h
  exact absurd h (by simp)

/-- Leaving it keeps the pool, without indices. -/
theorem BufferPayload.KeepsParts.closed {b : BufferPayload} (hm : b.mode = .fixed)
    (f : FixedBufferIdxRegistry → FixedBufferIdxRegistry) :
    b.KeepsParts { b with idxRegistry := b.idxRegistry.map f } := by
  refine ⟨rfl, rfl, id, fun h => ?_, fun h => ?_, fun h => ⟨fun h1 h2 => ?_, h.vector, h.iovec⟩⟩
  · rw [hm] at h
    exact absurd h (by simp)
  · rw [Option.isSome_map]
    exact h
  · rw [Option.isSome_map]
    exact h.pool h1 h2

theorem openBuffers_keepsParts (h : openBuffers l context p registered submit = .ok l1) :
    l.heap.KeepsParts l1.heap := by
  unfold openBuffers at h
  split at h
  · exact absurd h (by simp)
  · rename_i b hb
    split at h
    · rename_i hm
      split at h
      · exact absurd h (by simp)
      · split at h
        · obtain rfl := Except.ok.inj h
          exact .of_payloads rfl
        · obtain rfl := Except.ok.inj h
          exact .put hb (.opened hm _)
    · split at h
      · exact absurd h (by simp)
      · dsimp only at h
        split at h
        · obtain rfl := Except.ok.inj h
          exact .of_payloads rfl
        · obtain rfl := Except.ok.inj h
          exact .of_payloads rfl
    · split at h
      · exact absurd h (by simp)
      · obtain rfl := Except.ok.inj h
        exact .of_payloads rfl
    · obtain rfl := Except.ok.inj h
      exact .of_payloads rfl
    · obtain rfl := Except.ok.inj h
      exact .of_payloads rfl

theorem BufferModeCtx.enter_keepsParts
    (h : BufferModeCtx.enter l p registered submit = .ok l1) : l.heap.KeepsParts l1.heap := by
  unfold BufferModeCtx.enter at h
  split at h
  · exact openBuffers_keepsParts h
  · obtain rfl := Except.ok.inj h
    exact .of_payloads rfl

theorem ExecutionContextCtx.enter_keepsParts {stream : StreamStrategy}
    {transferMode : TransferMode}
    (h : ExecutionContextCtx.enter l p stream transferMode registered submit = .ok l1) :
    l.heap.KeepsParts l1.heap := by
  unfold ExecutionContextCtx.enter at h
  split at h
  · exact openBuffers_keepsParts h
  · exact absurd h (by simp)

theorem BufferModeCtx.exit_keepsParts {token : Option ExecutionContext}
    (h : BufferModeCtx.exit l p token submit = .ok l1) : l.heap.KeepsParts l1.heap := by
  unfold BufferModeCtx.exit at h
  split at h
  · exact absurd h (by simp)
  · rename_i b hb
    split at h
    · rename_i hm
      obtain rfl := Except.ok.inj h
      exact .put hb (.closed hm _)
    · obtain rfl := Except.ok.inj h
      exact .of_payloads rfl
    · obtain rfl := Except.ok.inj h
      exact .of_payloads rfl
    · obtain rfl := Except.ok.inj h
      exact .of_payloads rfl
    · obtain rfl := Except.ok.inj h
      exact .of_payloads rfl

/-- The payload of a context manager is formed from the start. -/
theorem createBufferPayload_keepsParts (h : Heap) (mode : BufferMode) (buffersObj : Bool)
    (buffers : Option (List LinearBuffer)) (bgid unassigned : Int) :
    h.KeepsParts (createBufferPayload h mode buffersObj buffers bgid unassigned).2 := by
  have hnew : ∀ b : BufferPayload, b.Formed → h.KeepsParts (h.alloc b).2 := by
    intro b hb
    refine .append rfl fun c hc => ?_
    rw [List.mem_singleton.mp hc]
    exact hb
  unfold createBufferPayload
  cases buffers with
  | none =>
    cases mode with
    | normalBuf | fixed | provided | bufRing | bufNoVal => exact .of_payloads rfl
  | some buffers =>
    cases mode with
    | normalBuf => exact hnew _ (BufferPayload.formed_of_normalBuf rfl)
    | fixed => exact hnew _ ⟨by simp, by simp [BufferPayload.Selects], by simp⟩
    | provided | bufRing => exact hnew _ ⟨by simp, fun _ => rfl, by simp⟩
    | bufNoVal => exact .of_payloads rfl

end Contexts

namespace System

variable {s t : System} {a : Act}

theorem stepContext_keepsParts {p : PayloadId} {step : Loop → Except Stop Loop}
    (hk : ∀ l, step s.loop = .ok l → s.loop.heap.KeepsParts l.heap)
    (hs : s.stepContext p step = .ok t) : s.loop.heap.KeepsParts t.loop.heap := by
  unfold stepContext at hs
  split at hs
  · cases hl : step s.loop with
    | error e =>
      rw [hl] at hs
      exact absurd hs (by simp [Except.map])
    | ok l =>
      rw [hl] at hs
      obtain rfl := Except.ok.inj hs
      exact hk l hl
  · exact absurd hs (by simp)

theorem quiet_keepsParts (ha : a.quiet = true) (hs : s.step a = .ok t) :
    s.loop.heap.KeepsParts t.loop.heap := by
  have hd := down_of_step hs
  unfold step at hs
  rw [hd, if_neg (by simp)] at hs
  cases a with
  | call call env => exact absurd ha (by simp [Act.quiet])
  | post seq res flags => exact absurd ha (by simp [Act.quiet])
  | read env => exact absurd ha (by simp [Act.quiet])
  | shutdown drained submit => exact absurd ha (by simp [Act.quiet])
  | submit result =>
    obtain rfl := Except.ok.inj hs
    exact .of_payloads rfl
  | wake =>
    obtain rfl := Except.ok.inj hs
    exact .of_payloads rfl
  | newBuffers mode buffersObj buffers bgid unassigned =>
    obtain rfl := Except.ok.inj hs
    have hk := createBufferPayload_keepsParts s.loop.heap mode buffersObj buffers bgid unassigned
    unfold stepNewBuffers
    split
    · rename_i heap he
      rw [he] at hk
      exact hk
    · rename_i p heap he
      rw [he] at hk
      exact hk
  | enterBuffers p registered submit =>
    exact stepContext_keepsParts (fun _ => BufferModeCtx.enter_keepsParts) hs
  | enterContext p stream transferMode registered submit =>
    exact stepContext_keepsParts (fun _ => ExecutionContextCtx.enter_keepsParts) hs
  | exitBuffers p token submit =>
    dsimp only at hs
    split at hs
    · exact stepContext_keepsParts (fun _ => BufferModeCtx.exit_keepsParts) hs
    · exact absurd hs (by simp)
  | stream stream =>
    obtain rfl := Except.ok.inj hs
    exact .of_payloads rfl
  | transfer transferMode =>
    obtain rfl := Except.ok.inj hs
    exact .of_payloads rfl
  | switch context =>
    dsimp only at hs
    split at hs
    · obtain rfl := Except.ok.inj hs
      exact .of_payloads rfl
    · exact absurd hs (by simp)

/-- What an operation that gives up has added is a payload of its own. -/
theorem Refused.keepsParts {l l1 : Loop} (h : Refused l l1) : l.heap.KeepsParts l1.heap := by
  obtain ⟨g, rfl, -, -, hg⟩ := h
  exact .append rfl fun b hb => BufferPayload.formed_of_normalBuf (hg b hb).1

/-- No step before the shutdown takes a part away. -/
theorem Stepped.keepsParts (hst : Stepped s a t) (hs : s.step a = .ok t) (hd : t.down = false) :
    s.loop.heap.KeepsParts t.loop.heap := by
  cases hst with
  | called _ ho =>
    cases ho with
    | refused h => exact Refused.keepsParts h
    | full _ hp _ hh =>
      exact ((Heap.KeepsParts.grow hp).trans (.release _ _)).trans (.of_payloads hh)
    | rejected _ hp _ hdisp _ _ _ _ _ hh =>
      have hk := (Heap.KeepsParts.grow hp).trans (.dispatch hp.dispatch hdisp)
      simp only [answer, withLoop, Loop.setClosed_heap]
      exact (hk.trans (.release _ _)).trans (.of_payloads hh)
    | accepted _ hp _ hdisp _ _ hh =>
      have hk := (Heap.KeepsParts.grow hp).trans (.dispatch hp.dispatch hdisp)
      simp only [answer, withLoop, Loop.setClosed_heap]
      exact hk.trans (.of_payloads hh)
  | posted _ | dropped _ _ | skipped _ _ _ => exact .of_payloads rfl
  | handled _ _ _ _ hh =>
    refine Heap.KeepsParts.trans ?_ (.of_payloads hh.payloads)
    refine Heap.KeepsParts.trans ?_ (.release _ _)
    split
    · exact .returned _
    · exact .of_payloads rfl
  | quiet ha _ => exact quiet_keepsParts ha hs
  | shutdown _ _ => exact absurd hd (by simp)

/-! ## The invariant -/

/-- The payloads are formed, and every live slot has the parts for its branch. -/
structure PartsInv (s : System) : Prop where
  formed : s.loop.heap.Formed
  live : ∀ i slot, s.loop.registry.liveSlot i = some slot → slot.Parts s.loop.heap

/-- A slot that is live after a step was live before, or is that of the request that the
    step has accepted. -/
theorem Stepped.live_cases (hst : Stepped s a t) (hb : s.Base) (hd : t.down = false) {i : Int}
    {slot : RequestSlot} (hl : t.loop.registry.liveSlot i = some slot) :
    s.loop.registry.liveSlot i = some slot ∨
    ∃ (call : OpCall) (env : CallEnv) (g : Grown) (req : Request),
      call.prepare env s.loop = .ok (.ok req, s.loop.grow g) ∧
      slot = req.registration.slot i ∧ (s.loop.grow g).heap.KeepsParts t.loop.heap := by
  cases hst with
  | called _ ho =>
    cases ho with
    | refused h =>
      obtain ⟨g, rfl, -⟩ := h
      exact .inl hl
    | full _ _ _ _ => exact .inl hl
    | rejected _ _ _ _ _ _ _ _ hlive _ =>
      simp only [answer, withLoop, Loop.setClosed_registry] at hl
      exact .inl ((hlive i).symm.trans hl)
    | @accepted g req _ _ _ _ _ hprep hp htop hdisp _ _ hh =>
      obtain ⟨-, -, -, -, hlive⟩ :=
        (hb.registry.sound.valid_of_room htop).add req.registration htop
      simp only [answer, withLoop, Loop.setClosed_registry, Loop.afterCall] at hl
      rw [hlive] at hl
      by_cases hi : i = (registryAdd s.loop.registry req.registration).1
      · rw [if_pos hi] at hl
        refine .inr ⟨_, _, _, _, hprep, ?_, ?_⟩
        · rw [hi]
          exact (Option.some.inj hl).symm
        · simp only [answer, withLoop, Loop.setClosed_heap]
          exact Heap.KeepsParts.trans (.dispatch hp.dispatch hdisp) (.of_payloads hh)
      · rw [if_neg hi] at hl
        exact .inl hl
  | posted _ | dropped _ _ | skipped _ _ _ => exact .inl hl
  | handled _ _ _ _ hh =>
    have hlive := hh.live i
    simp only [consume, withLoop] at hl
    rw [hl] at hlive
    split at hlive
    · exact absurd hlive (by simp)
    · exact .inl hlive.symm
  | quiet _ hq =>
    rw [hq.registry] at hl
    exact .inl hl
  | shutdown _ _ => exact absurd hd (by simp)

theorem PartsInv.step (h : s.PartsInv) (hb : s.Base) (hs : s.step a = .ok t)
    (hd : t.down = false) : t.PartsInv := by
  obtain ⟨-, hst⟩ := step_cases hb hs
  have hk := hst.keepsParts hs hd
  refine ⟨hk.all h.formed, fun i slot hl => ?_⟩
  rcases hst.live_cases hb hd hl with hl | ⟨call, env, g, req, hprep, rfl, hk'⟩
  · exact hk.partsFor (h.live i slot hl)
  · have hparts := (call.prepare_parts h.formed hb.heap.contextOk env).returned ⟨rfl, rfl⟩ hprep
    exact hk'.partsFor hparts.registered

theorem init_partsInv {l : Loop} (hh : l.heap.payloads = [])
    (hlive : ∀ i, l.registry.liveSlot i = none) : (init l).PartsInv := by
  refine ⟨fun p b hb => ?_, fun i slot hl => ?_⟩
  · simp only [init, hh, List.getElem?_nil] at hb
    exact absurd hb (by simp)
  · simp only [init, hlive] at hl
    exact absurd hl (by simp)

/-! ## All runs -/

/-- The reader comes to the branch of the slot. -/
def BranchReached (slot : RequestSlot) (c : Cqe) : Prop :=
  0 ≤ c.res ∨ timeoutExpired slot c = true

instance (slot : RequestSlot) (c : Cqe) : Decidable (BranchReached slot c) :=
  inferInstanceAs (Decidable (_ ∨ _))

/-- The dispatcher of a call that comes to its submission, or the branch of the reader that a
    CQE comes to, finds every part of the payload that it reads. -/
def PartsPresent (s : System) (a : Act) : Prop :=
  s.down = false →
    match a with
    | .call call env => ∀ r, s.submission call env = some r → ∃ x, r.1.dispatch r.2 = .ok x
    | .read env => ∀ x, s.nextSlot = some x → BranchReached x.2 x.1 →
        ∃ y, complete env s.loop (toInt x.1.userData) x.2 x.1 = .ok y
    | _ => True

/-- The submission is not one of the two, and the branch not one of the two, that miss a part
    of the payload. -/
def ShapesAgree (s : System) (a : Act) : Prop :=
  s.down = false →
    match a with
    | .call call env => (s.submission call env).isSome = true → call.FindsParts s.loop
    | .read env => ∀ x, s.nextSlot = some x → BranchReached x.2 x.1 →
        x.2.FindsParts env s.loop.heap
    | _ => True

instance (s : System) (a : Act) : Decidable (s.PartsPresent a) := by
  apply Act.casesOn (motive := fun a => Decidable (s.PartsPresent a)) a <;> intros <;>
    dsimp only [PartsPresent] <;> infer_instance

theorem PartsInv.present_iff (h : s.PartsInv) (hb : s.Base) :
    s.PartsPresent a ↔ s.ShapesAgree a := by
  unfold PartsPresent ShapesAgree
  refine imp_congr_right fun _ => ?_
  cases a with
  | call call env =>
    dsimp only
    cases hsub : s.submission call env with
    | none => exact ⟨fun _ hn => absurd hn (by simp), fun _ _ hn => absurd hn (by simp)⟩
    | some r =>
      have hparts : (∃ x, r.1.dispatch r.2 = .ok x) ↔ call.FindsParts s.loop := by
        unfold submission at hsub
        split at hsub
        · exact absurd hsub (by simp)
        · split at hsub
          · rename_i req l hprep
            obtain rfl := Option.some.inj hsub
            exact ((call.prepare_parts h.formed hb.heap.contextOk env).returned ⟨rfl, rfl⟩
              hprep).dispatch
          · exact absurd hsub (by simp)
      constructor
      · exact fun hp _ => hparts.mp (hp r rfl)
      · intro hp r' hr'
        obtain rfl := Option.some.inj hr'
        exact hparts.mpr (hp rfl)
  | read env =>
    refine forall_congr' fun x => imp_congr_right fun hn => imp_congr_right fun _ => ?_
    obtain ⟨c, slot⟩ := x
    obtain ⟨-, -, hl⟩ := nextSlot_eq_some.mp hn
    obtain ⟨sub, hm, -, rfl⟩ := hb.request hl
    exact complete_defined h.formed (h.live _ _ hl) (hb.objects.socket sub hm)
  | _ => exact Iff.rfl

/-- What the invariants say of a state before the shutdown. -/
theorem parts_of_step {s t : System} (h : s.down = false → s.Base ∧ s.PartsInv)
    (hs : s.step a = .ok t) : t.down = false → t.Base ∧ t.PartsInv := by
  intro hd
  obtain ⟨hb, hp⟩ := h (down_of_step hs)
  exact ⟨hb.step hs hd, hp.step hb hs hd⟩

/-- In every run of a new loop, every dispatcher and every branch of the reader finds the parts
    that it reads exactly when every step keeps away from the combinations that do not match:
    a zero-copy `sendmsg`, a `readv` with a selected buffer, and a multishot `recvmsg`. -/
theorem shapes_agree_iff {registrySize : Nat} {setup : SignalSetup} {wakeupFd submit : Int}
    (h : registrySize < 2 ^ 32) (acts : List Act) :
    Lib.Meets step PartsPresent (init (uringioLoopInit registrySize setup wakeupFd submit)) acts ↔
      Lib.Meets step ShapesAgree (init (uringioLoopInit registrySize setup wakeupFd submit))
        acts := by
  refine Lib.Meets.congr (fun s => s.down = false → s.Base ∧ s.PartsInv)
    (fun s a t hi _ hs => parts_of_step hi hs) (fun s a hi => ?_) fun _ => ?_
  · cases hd : s.down with
    | true =>
      unfold PartsPresent ShapesAgree
      rw [hd]
      exact ⟨fun _ hn => absurd hn (by simp), fun _ hn => absurd hn (by simp)⟩
    | false =>
      obtain ⟨hb, hp⟩ := hi hd
      exact hp.present_iff hb
  · exact ⟨newLoop_base h, init_partsInv rfl (RequestRegistry.registryNew_sound h).2⟩

/-- A fixed read with its completion, and a `sendmsg` outside of a zero-copy block. -/
def matchedShapes : List Act :=
  [.call (.open 0 (.ok "f") 0 0 0 none) .ok, .post 1 5 0, .read .ok,
    .newBuffers .fixed false (some [⟨.mem 512, 16⟩]) 0 0, .enterBuffers 0 true 1,
    .call (.read 0 0 16 none) .ok, .post 2 16 0, .read .ok,
    .call (.prepSocket 2 1 none) .ok, .post 3 6 0, .read .ok,
    .call (.sendmsg 0 none false none) .ok, .post 4 16 0, .read .ok]

/-- A `sendmsg` in a zero-copy block. -/
def zeroCopySendmsg : List Act :=
  [.call (.prepSocket 2 1 none) .ok, .post 1 5 0, .read .ok, .transfer .zeroCopy,
    .call (.sendmsg 0 none false none) .ok]

/-- A `readv` in a PROVIDED context, which gets a buffer of the context. -/
def selectedReadv : List Act :=
  [.call (.open 0 (.ok "f") 0 0 0 none) .ok, .post 1 5 0, .read .ok,
    .newBuffers .provided false (some [⟨.mem 512, 16⟩]) 7 0, .enterBuffers 0 true 1,
    .call (.readv 0 false 0 false none) .ok, .post 3 16 1, .read .ok]

/-- A `recvmsg` in a multishot block. -/
def multishotRecvmsg : List Act :=
  [.call (.prepSocket 2 1 none) .ok, .post 1 5 0, .read .ok, .stream .multishot,
    .call (.recvmsg 0 true false none) .ok, .post 2 16 2, .read .ok]

/-- Each of the three misses a part in its last step. -/
theorem shapes_disagree :
    (Lib.Meets step PartsPresent (init (uringioLoopInit 2 .failed 3 1)) (zeroCopySendmsg.take 4) ∧
      ¬ Lib.Meets step PartsPresent (init (uringioLoopInit 2 .failed 3 1)) zeroCopySendmsg) ∧
    (Lib.Meets step PartsPresent (init (uringioLoopInit 2 .failed 3 1)) (selectedReadv.take 7) ∧
      ¬ Lib.Meets step PartsPresent (init (uringioLoopInit 2 .failed 3 1)) selectedReadv) ∧
    (Lib.Meets step PartsPresent (init (uringioLoopInit 2 .failed 3 1))
        (multishotRecvmsg.take 6) ∧
      ¬ Lib.Meets step PartsPresent (init (uringioLoopInit 2 .failed 3 1)) multishotRecvmsg) := by
  decide +kernel

theorem shapes_agree_iff_matched :
    Lib.Meets step PartsPresent (init (uringioLoopInit 2 .failed 3 1)) matchedShapes ∧
      Lib.Meets step ShapesAgree (init (uringioLoopInit 2 .failed 3 1)) matchedShapes := by
  have hp : Lib.Meets step PartsPresent (init (uringioLoopInit 2 .failed 3 1)) matchedShapes := by
    decide +kernel
  exact ⟨hp, (shapes_agree_iff (by decide) matchedShapes).mp hp⟩

end System

end Uringio
