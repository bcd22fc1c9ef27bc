/-
  The four ways a call of an operation can end (`RunOutcome`): it gives up before its
  submission, the registry is full, the C layer returns a value below 1 and the request is
  taken back, or the request is accepted.
-/
import Uringio.PyOps.Methods

namespace Uringio

open Lib Program

/-! ## The ring after a C-layer call -/

/-- What an accepted call does to the ring: everything that was queued is in flight, then
    the SQE of the request, then its linked timeout. -/
structure RingAccepted (r : Ring) (op : COp) (idx : Int) (t : TimeoutParams) (r' : Ring) :
    Prop where
  accepts : op.Accepts
  space : r.space ≠ 0
  count : r'.count = 0
  cq : r'.cq = r.cq
  length : r'.entries.length = r.entries.length
  tail : r'.tail = r.tail + 1 + (linkTimeoutEntry r (op.linked t)).length
  inflight : r'.inflight =
    r.pending ++ requestEntry r idx (op.linked t) op.prep :: linkTimeoutEntry r (op.linked t)

theorem COp.exec_accepted {op : COp} {r r' : Ring} {idx : Int} {t : TimeoutParams}
    {submit n : Int} (h : op.exec r idx t submit = (n, r')) (hn : ¬ n < 1) :
    RingAccepted r op idx t r' := by
  by_cases ha : op.Accepts
  · have ho := op.exec_outcome ha r idx t submit
    rw [h] at ho
    cases ho with
    | full hs => omega
    | noTimeout hs hr hk hq => omega
    | failed hs hr hneg hk hq => omega
    | accepted hs hr hpos hc hcq hl ht hi => exact ⟨ha, hs, hc, hcq, hl, ht, hi⟩
  · have hneg := (op.exec_of_not_accepts ha r idx t submit).1
    rw [h] at hneg
    exact absurd (show n < 1 by omega) hn

/-- A rejected call leaves the kernel alone, and at most adds SQEs to the queue. -/
theorem COp.exec_rejected {op : COp} {r r' : Ring} {idx : Int} {t : TimeoutParams}
    {submit n : Int} (h : op.exec r idx t submit = (n, r')) (hn : n < 1) :
    r.SameKernel r' ∧ ∃ extra, r'.queued = r.queued ++ extra := by
  by_cases ha : op.Accepts
  · have ho := op.exec_outcome ha r idx t submit
    rw [h] at ho
    cases ho with
    | full hs => exact ⟨⟨rfl, rfl, rfl, rfl⟩, [], by simp⟩
    | noTimeout hs hr hk hq => exact ⟨hk, _, hq⟩
    | failed hs hr hneg hk hq => exact ⟨hk, _, hq⟩
    | accepted hs hr hpos hc hcq hl ht hi => omega
  · cases op
    case timer timerParams =>
      cases timerParams with
      | none =>
        obtain ⟨-, rfl⟩ := Prod.mk.inj h
        exact ⟨⟨rfl, rfl, rfl, rfl⟩, [], by simp⟩
      | some p => exact absurd (by simp [COp.Accepts]) ha
    case prepSocket domain type =>
      have hd : ¬ (domain = afInet ∨ domain = afInet6) := ha
      simp only [COp.exec, Uringio.prepSocket] at h
      rcases sqeWithOptionalTimeout_cases r t with ⟨-, he⟩ | ⟨-, -, r1, he, hk, hq⟩ |
        ⟨-, -, r1, he, hk, hq⟩
      · rw [he] at h
        obtain ⟨-, rfl⟩ := Prod.mk.inj h
        exact ⟨⟨rfl, rfl, rfl, rfl⟩, [], by simp⟩
      · rw [he] at h
        obtain ⟨-, rfl⟩ := Prod.mk.inj h
        exact ⟨hk, _, hq⟩
      · rw [he] at h
        simp only [hd, decide_false, Bool.not_false, if_true] at h
        obtain ⟨-, rfl⟩ := Prod.mk.inj h
        exact ⟨hk, _, hq⟩
    all_goals exact absurd trivial ha

theorem RingAccepted.added {op : COp} {r r' : Ring} {idx : Int} {t : TimeoutParams}
    (h : RingAccepted r op idx t r') :
    r.Added r' (requestEntry r idx (op.linked t) op.prep :: linkTimeoutEntry r (op.linked t)) := by
  refine Ring.added_of_submitted h.count h.cq h.inflight ?_ ?_
  · rw [h.tail, List.length_cons]
    omega
  · rw [List.map_cons, List.length_cons, List.range'_succ]
    unfold linkTimeoutEntry
    split
    · rfl
    · rfl

theorem COp.exec_rejected_added {op : COp} {r r' : Ring} {idx : Int} {t : TimeoutParams}
    {submit n : Int} (h : op.exec r idx t submit = (n, r')) (hn : n < 1) :
    ∃ extra, r.Added r' extra ∧ r'.queued = r.queued ++ extra := by
  obtain ⟨hk, extra, hq⟩ := COp.exec_rejected h hn
  exact ⟨extra, Ring.added_of_queued hk.inflight hk.cq hk.head hq, hq⟩

/-- A rejected call that takes no SQE leaves the queue alone. -/
theorem COp.exec_rejected_same {op : COp} {r r' : Ring} {idx : Int} {t : TimeoutParams}
    {submit n : Int} (h : op.exec r idx t submit = (n, r')) (hn : n < 1)
    (ht : r'.tail = r.tail) : r.Added r' [] := by
  obtain ⟨extra, hadd, hq⟩ := COp.exec_rejected_added h hn
  have hhead := (COp.exec_rejected h hn).1.head
  have hlen := congrArg List.length hq
  rw [List.length_append, Ring.length_queued, Ring.length_queued] at hlen
  unfold Ring.tail at ht
  have hnil : extra = [] := List.eq_nil_of_length_eq_zero (by omega)
  exact hnil ▸ hadd

/-! ## The loop after a call -/

/-- The loop with what an operation has added and with a new registry, heap and ring. -/
def Loop.afterCall (l : Loop) (g : Grown) (registry : RequestRegistry) (heap : Heap)
    (ring : Ring) : Loop :=
  { l.grow g with registry := registry, heap := heap, ring := ring }

section SetClosed

variable {l : Loop} {closed : Bool} {flag : Option ClosedFlag}

theorem Loop.setClosed_eq : l.setClosed closed flag =
    { l with
      files := (l.setClosed closed flag).files, sockets := (l.setClosed closed flag).sockets } := by
  cases flag with
  | none => rfl
  | some f => cases f <;> rfl

@[simp] theorem Loop.setClosed_registry : (l.setClosed closed flag).registry = l.registry := by
  rw [Loop.setClosed_eq]

@[simp] theorem Loop.setClosed_ring : (l.setClosed closed flag).ring = l.ring := by
  rw [Loop.setClosed_eq]

@[simp] theorem Loop.setClosed_heap : (l.setClosed closed flag).heap = l.heap := by
  rw [Loop.setClosed_eq]

@[simp] theorem Loop.setClosed_callLog : (l.setClosed closed flag).callLog = l.callLog := by
  rw [Loop.setClosed_eq]

@[simp] theorem Loop.setClosed_nextFuture :
    (l.setClosed closed flag).nextFuture = l.nextFuture := by
  rw [Loop.setClosed_eq]

@[simp] theorem Loop.setClosed_context : (l.setClosed closed flag).context = l.context := by
  rw [Loop.setClosed_eq]

@[simp] theorem Loop.length_setClosed_files :
    (l.setClosed closed flag).files.length = l.files.length := by
  cases flag with
  | none => rfl
  | some f =>
    cases f with
    | file id => simp [Loop.setClosed, Loop.setFile]
    | socket id => rfl

@[simp] theorem Loop.length_setClosed_sockets :
    (l.setClosed closed flag).sockets.length = l.sockets.length := by
  cases flag with
  | none => rfl
  | some f =>
    cases f with
    | file id => rfl
    | socket id => simp [Loop.setClosed, Loop.setSocket]

end SetClosed

/-- How a call ends, with what the loop then is. -/
inductive RunOutcome (call : OpCall) (env : CallEnv) (l : Loop) :
    Except (Option PyErr) Submitted × Loop → Prop
  | refused {e : Option PyErr} {l1 : Loop} (h : Refused l l1) : RunOutcome call env l (.error e, l1)
  | full {g : Grown} {req : Request} {e : Option PyErr} {heap : Heap}
      (hprep : call.prepare env l = .ok (.ok req, l.grow g)) (hp : Prepared call l g req)
      (htop : l.registry.top < 0)
      (hh : heap.payloads = (freeBufferPayload (l.grow g).heap req.payload false).payloads) :
      RunOutcome call env l (.error e, l.afterCall g l.registry heap l.ring)
  | rejected {g : Grown} {req : Request} {e : Option PyErr} {op : COp} {heap1 heap : Heap}
      {reg : RequestRegistry} {ring : Ring} {n : Int}
      (hprep : call.prepare env l = .ok (.ok req, l.grow g)) (hp : Prepared call l g req)
      (htop : ¬ l.registry.top < 0)
      (hd : req.dispatch (l.grow g).heap = .ok (op, heap1))
      (hx : op.exec l.ring (registryAdd l.registry req.registration).1 req.timeoutParams
        env.submit = (n, ring)) (hn : n < 1)
      (hv : reg.Valid) (hsize : reg.size = l.registry.size)
      (hlive : ∀ j, reg.liveSlot j = l.registry.liveSlot j)
      (hh : heap.payloads =
        (freeBufferPayload heap1 req.registration.bufferPayload false).payloads)
      (hclear : l.registry.Cleared → reg.Cleared) :
      RunOutcome call env l (.error e, (l.afterCall g reg heap ring).setClosed false call.flag)
  | accepted {g : Grown} {req : Request} {op : COp} {heap1 heap : Heap} {ring : Ring} {n : Int}
      (hprep : call.prepare env l = .ok (.ok req, l.grow g)) (hp : Prepared call l g req)
      (htop : ¬ l.registry.top < 0)
      (hd : req.dispatch (l.grow g).heap = .ok (op, heap1))
      (hx : op.exec l.ring (registryAdd l.registry req.registration).1 req.timeoutParams
        env.submit = (n, ring)) (hn : ¬ n < 1) (hh : heap.payloads = heap1.payloads) :
      RunOutcome call env l
        (.ok ⟨req.registration, (registryAdd l.registry req.registration).1, l.ring.tail, op,
            req.payload, req.pending⟩,
          (l.afterCall g (registryAdd l.registry req.registration).2 heap ring).setClosed true
            call.flag)

/-! ## Every call ends so -/

section Outcome

variable {call : OpCall} {env : CallEnv} {l : Loop}

/-- The flag does not depend on the rest of the loop. -/
theorem Loop.setClosed_with {l : Loop} {closed : Bool} {flag : Option ClosedFlag}
    {registry : RequestRegistry} {ring : Ring} {heap : Heap} :
    { l.setClosed closed flag with registry := registry, ring := ring, heap := heap } =
      { l with registry := registry, ring := ring, heap := heap }.setClosed closed flag := by
  cases flag with
  | none => rfl
  | some f => cases f <;> rfl

theorem Loop.setClosed_false_true {l : Loop} {flag : Option ClosedFlag} :
    (l.setClosed true flag).setClosed false flag = l.setClosed false flag := by
  cases flag with
  | none => rfl
  | some f =>
    cases f with
    | file id => simp [Loop.setClosed, Loop.setFile, List.modify_modify_eq, Function.comp_def]
    | socket id => simp [Loop.setClosed, Loop.setSocket, List.modify_modify_eq, Function.comp_def]

/-- The registration: the registry is full and the payload is dropped, or the request has
    its index. -/
theorem registerRequest_cases {m : Loop} {req : Request} {r : Except (Option PyErr) Int × Loop}
    (h : registerRequest req m = .ok r) (hv : m.registry.Sound) :
    (m.registry.top < 0 ∧ ∃ e heap, r = (.error e, { m with heap := heap }) ∧
      heap.payloads = (freeBufferPayload m.heap req.payload false).payloads) ∨
    (¬ m.registry.top < 0 ∧ r = (.ok (registryAdd m.registry req.registration).1,
      { m with registry := (registryAdd m.registry req.registration).2 }.setClosed true
        req.flag)) := by
  unfold registerRequest at h
  cases hn : m.ringNull with
  | true =>
    rw [hn] at h
    exact absurd h (by simp)
  | false =>
    rw [hn] at h
    by_cases ht : m.registry.top < 0
    · rw [RequestRegistry.registryAdd_of_full ht] at h
      exact Or.inl ⟨ht, _, _, (Except.ok.inj h).symm, rfl⟩
    · obtain ⟨-, -, hr, -, -⟩ := (hv.valid_of_room ht).add req.registration ht
      have hpos : ¬ (registryAdd m.registry req.registration).1 < 0 := by omega
      simp only [Bool.false_eq_true, if_false, hpos] at h
      exact Or.inr ⟨ht, (Except.ok.inj h).symm⟩

/-- How a submission ends, with what the loop then is. -/
inductive TailOutcome (req : Request) (submit : Int) (m : Loop) :
    Except (Option PyErr) Submitted × Loop → Prop
  | full {e : Option PyErr} {heap : Heap} (htop : m.registry.top < 0)
      (hh : heap.payloads = (freeBufferPayload m.heap req.payload false).payloads) :
      TailOutcome req submit m (.error e, { m with heap := heap })
  | rejected {op : COp} {heap1 heap : Heap} {reg : RequestRegistry} {ring : Ring} {n : Int}
      (htop : ¬ m.registry.top < 0) (hd : req.dispatch m.heap = .ok (op, heap1))
      (hx : op.exec m.ring (registryAdd m.registry req.registration).1 req.timeoutParams submit =
        (n, ring)) (hn : n < 1)
      (hrem : registryRemove (registryAdd m.registry req.registration).2
        (heap1.freeBlock req.freeAfter) (registryAdd m.registry req.registration).1 =
          .ok (reg, heap)) :
      TailOutcome req submit m (.error (req.error n),
        { m with registry := reg, heap := heap, ring := ring }.setClosed false req.flag)
  | accepted {op : COp} {heap1 : Heap} {ring : Ring} {n : Int}
      (htop : ¬ m.registry.top < 0) (hd : req.dispatch m.heap = .ok (op, heap1))
      (hx : op.exec m.ring (registryAdd m.registry req.registration).1 req.timeoutParams submit =
        (n, ring)) (hn : ¬ n < 1) :
      TailOutcome req submit m
        (.ok ⟨req.registration, (registryAdd m.registry req.registration).1, m.ring.tail, op,
            req.payload, req.pending⟩,
          { m with
            registry := (registryAdd m.registry req.registration).2
            heap := heap1.freeBlock req.freeAfter, ring := ring }.setClosed true req.flag)

theorem submitRequest_outcome {m : Loop} {req : Request} {submit : Int}
    (hv : m.registry.Sound) {r : Except (Option PyErr) Submitted × Loop}
    (h : submitRequest req submit m = .ok r) : TailOutcome req submit m r := by
  rcases bind_eq_ok h with ⟨x, t, hreg, rfl⟩ | ⟨index, t, hreg, hs⟩
  · rcases registerRequest_cases hreg hv with ⟨ht, e, heap, he, hh⟩ | ⟨-, he⟩
    · obtain ⟨-, rfl⟩ := Prod.mk.inj he
      exact .full ht hh
    · exact absurd he (by simp)
  rcases registerRequest_cases hreg hv with ⟨-, e, heap, he, -⟩ | ⟨ht, he⟩
  · exact absurd he (by simp)
  obtain ⟨hindex, rfl⟩ := Prod.mk.inj he
  obtain rfl : index = (registryAdd m.registry req.registration).1 := Except.ok.inj hindex
  rcases bind_eq_ok hs with ⟨x, t, hd, rfl⟩ | ⟨op, t, hd, hs⟩
  · unfold dispatchRequest at hd
    split at hd
    · exact absurd hd (by simp)
    · exact absurd hd (by simp)
  unfold dispatchRequest at hd
  cases hdisp : req.dispatch m.heap with
  | error e =>
    rw [Loop.setClosed_heap, hdisp] at hd
    exact absurd hd (by simp)
  | ok od =>
    obtain ⟨op', heap1⟩ := od
    rw [Loop.setClosed_heap, hdisp] at hd
    obtain ⟨hop, rfl⟩ := Prod.mk.inj (Except.ok.inj hd)
    obtain rfl : op' = op := Except.ok.inj hop
    rcases bind_eq_ok hs with ⟨x, t, hl, -⟩ | ⟨seq, t, hl, hs⟩
    · exact absurd hl (by simp [look])
    obtain ⟨hseq, rfl⟩ := Prod.mk.inj (Except.ok.inj hl)
    obtain rfl := Except.ok.inj hseq
    rcases bind_eq_ok hs with ⟨x, t, hc, -⟩ | ⟨n, t, hc, hs⟩
    · exact absurd hc (by simp [Program.change])
    obtain ⟨hn, rfl⟩ := Prod.mk.inj (Except.ok.inj hc)
    obtain rfl := Except.ok.inj hn
    simp only [Loop.setClosed_ring] at hs
    cases hx : op'.exec m.ring (registryAdd m.registry req.registration).1 req.timeoutParams
        submit with
    | mk n ring =>
      rw [hx] at hs
      by_cases hn : n < 1
      · rw [if_pos hn] at hs
        rcases bind_eq_ok hs with ⟨x, t, hc, -⟩ | ⟨u, t, hc, hs⟩
        · unfold removeRequest at hc
          split at hc
          · exact absurd hc (by simp)
          · exact absurd hc (by simp)
        unfold removeRequest at hc
        simp only [Loop.setClosed_registry] at hc
        cases hrem : registryRemove (registryAdd m.registry req.registration).2
            (heap1.freeBlock req.freeAfter) (registryAdd m.registry req.registration).1 with
        | error e =>
          rw [hrem] at hc
          exact absurd hc (by simp)
        | ok removed =>
          rw [hrem] at hc
          obtain ⟨-, rfl⟩ := Prod.mk.inj (Except.ok.inj hc)
          rcases bind_eq_ok hs with ⟨x, t, hc, -⟩ | ⟨u, t, hc, hs⟩
          · exact absurd hc (by simp [Program.change])
          obtain ⟨-, rfl⟩ := Prod.mk.inj (Except.ok.inj hc)
          obtain rfl := Except.ok.inj hs
          rw [Loop.setClosed_with]
          dsimp only
          rw [Loop.setClosed_false_true]
          exact .rejected ht hdisp hx hn hrem
      · rw [if_neg hn] at hs
        obtain rfl := Except.ok.inj hs
        rw [Loop.setClosed_with, Loop.setClosed_registry]
        exact .accepted ht hdisp hx hn

theorem OpCall.run_outcome (hctx : ContextOk l) (hv : l.registry.Sound)
    {r : Except (Option PyErr) Submitted × Loop} (h : call.run env l = .ok r) :
    RunOutcome call env l r := by
  have hprep := call.prepare_spec hctx env
  rcases bind_eq_ok h with ⟨x, t, hp, rfl⟩ | ⟨req, t, hp, hs⟩
  · exact .refused (hprep.failed rfl hp)
  obtain ⟨g, rfl, hpre⟩ := hprep.returned rfl hp
  have hv' : (l.grow g).registry.Sound := hv
  cases submitRequest_outcome hv' hs with
  | full htop hh => exact .full hp hpre htop hh
  | @rejected op heap1 heap reg ring n htop hd hx hn hrem =>
    obtain ⟨hv1, hsize1, -, hdead1, hlive1⟩ := (hv.valid_of_room htop).add req.registration htop
    have hslot := hlive1 (registryAdd l.registry req.registration).1
    rw [if_pos rfl] at hslot
    obtain ⟨reg', hrem', hv2, hsize2, hlive2⟩ :=
      hv1.remove (heap1.freeBlock req.freeAfter) hslot
    obtain ⟨rfl, rfl⟩ := Prod.mk.inj (Except.ok.inj (hrem.symm.trans hrem'))
    rw [hpre.flag]
    refine .rejected hp hpre htop hd hx hn hv2 (hsize2.trans hsize1) (fun j => ?_)
      (payloads_freeBufferPayload rfl) fun hcl =>
        ((hcl.add (hv.valid_of_room htop) req.registration htop).remove hrem).1
    rw [hlive2, hlive1]
    split
    · rename_i hj
      rw [hj]
      exact (Option.not_isSome_iff_eq_none.mp hdead1).symm
    · rfl
  | @accepted op heap1 ring n htop hd hx hn =>
    rw [hpre.flag]
    have hpay : (heap1.freeBlock req.freeAfter).payloads = heap1.payloads := rfl
    exact .accepted hp hpre htop hd hx hn hpay

end Outcome

end Uringio
