/-
  `System.Base` holds in every state of every run of a new loop, whatever the callers and
  the kernel do (`Base.step`, `base_of_run`).
-/
import Uringio.System.Steps
import Uringio.Loop.Init
import Mathlib.Data.List.Pairwise

namespace Uringio

namespace Submitted.HoldsPayload

variable {heap : Heap} {contexts : List PayloadId} {sub : Submitted} {p : PayloadId}

/-- The registered payload is the one that the request uses. -/
theorem payload_of_registration (h : sub.HoldsPayload heap contexts)
    (hr : sub.registration.bufferPayload = some p) : sub.payload = some p := by
  cases h with
  | none hn _ _ | kept hn _ _ _ _ _ =>
    rw [hn] at hr
    exact absurd hr (by simp)
  | own hr' hp _ _ _ _ _ | context hr' hp _ _ _ _ => rw [hp, ← hr', hr]

/-- The registered payload is an own one, or that of a context. -/
theorem own_or_context (h : sub.HoldsPayload heap contexts)
    (hr : sub.registration.bufferPayload = some p) :
    ∃ b, heap.payloads[p]? = some b ∧
      (p ∉ contexts ∧ b.mode = .normalBuf ∨ p ∈ contexts ∧ b.mode ≠ .normalBuf) := by
  cases h with
  | none hn _ _ | kept hn _ _ _ _ _ =>
    rw [hn] at hr
    exact absurd hr (by simp)
  | own hr' _ hc hb hm _ _ =>
    obtain rfl := Option.some.inj (hr'.symm.trans hr)
    exact ⟨_, hb, Or.inl ⟨hc, hm⟩⟩
  | context hr' _ hc hb hm _ =>
    obtain rfl := Option.some.inj (hr'.symm.trans hr)
    exact ⟨_, hb, Or.inr ⟨hc, hm⟩⟩

end Submitted.HoldsPayload

/-- One of two requests is the earlier one. -/
theorem HeapInv.owner_eq {heap : Heap} {subs : List Submitted} {contexts : List PayloadId}
    {context : Option ExecutionContext} (h : HeapInv heap subs contexts context)
    {a b : Submitted} (ha : a ∈ subs) (hb : b ∈ subs) {p : PayloadId} (hap : a.payload = some p)
    (hbp : b.payload = some p) (hc : p ∉ contexts) : a = b := by
  by_contra hne
  have hsym : Std.Symm fun a b : Submitted =>
      ∀ p, a.payload = some p → b.payload = some p → p ∈ contexts :=
    ⟨fun _ _ hab p hp hq => hab p hq hp⟩
  exact hc (h.owners.forall ha hb hne p hap hbp)

namespace System

variable {s t : System} {a : Act}

/-! ## Live slots -/

namespace Base

/-- The request of a live slot. -/
theorem request (h : s.Base) {i : Int} {slot : RequestSlot}
    (hl : s.loop.registry.liveSlot i = some slot) :
    ∃ sub ∈ s.subs, sub.index = i ∧ slot = sub.registration.slot i := by
  obtain ⟨sub, hsub, hslot⟩ := h.registry.holder i slot hl
  obtain ⟨hm, hi⟩ := mem_of_holder hsub
  exact ⟨sub, hm, hi, hslot⟩

theorem payload_lt (h : s.Base) {i : Int} {slot : RequestSlot} {p : PayloadId}
    (hl : s.loop.registry.liveSlot i = some slot) (hp : slot.bufferPayload = some p) :
    p < s.loop.heap.payloads.length := by
  obtain ⟨sub, hm, -, rfl⟩ := h.request hl
  have hold := h.heap.holds sub hm
  exact hold.lt (hold.payload_of_registration hp)

theorem context_lt (h : s.Base) {p : PayloadId} (hp : p ∈ s.contexts) :
    p < s.loop.heap.payloads.length := by
  obtain ⟨b, hb, -⟩ := h.heap.managed p hp
  exact (List.getElem?_eq_some_iff.mp hb).1

/-- Two live slots share the payload of a context only. -/
theorem payload_shared (h : s.Base) {i j : Int} {slot slot' : RequestSlot} {p : PayloadId}
    (hi : s.loop.registry.liveSlot i = some slot) (hj : s.loop.registry.liveSlot j = some slot')
    (hp : slot.bufferPayload = some p) (hp' : slot'.bufferPayload = some p)
    (hc : p ∉ s.contexts) : i = j := by
  obtain ⟨x, hx, rfl, rfl⟩ := h.request hi
  obtain ⟨y, hy, rfl, rfl⟩ := h.request hj
  have hxp := (h.heap.holds x hx).payload_of_registration hp
  have hyp := (h.heap.holds y hy).payload_of_registration hp'
  rw [h.heap.owner_eq hx hy hxp hyp hc]

/-- Nothing has the next payload. -/
theorem fresh (h : s.Base) :
    s.loop.heap.payloads.length ∉ s.contexts ∧ ∀ i slot, s.loop.registry.liveSlot i = some slot →
      slot.bufferPayload ≠ some s.loop.heap.payloads.length :=
  ⟨fun hc => Nat.lt_irrefl _ (h.context_lt hc),
    fun _ _ hl hp => Nat.lt_irrefl _ (h.payload_lt hl hp)⟩

/-- Nothing but its request has the payload of a request that is about to be submitted. -/
theorem unused (h : s.Base) {call : OpCall} {g : Grown} {req : Request} {heap : Heap}
    (hp : Prepared call s.loop g req) (hk : s.loop.heap.Keeps heap) {payload : Option PayloadId}
    (hreq : ∀ p, payload = some p → req.payload = some p) :
    ∀ p b, payload = some p → heap.payloads[p]? = some b → b.mode = .normalBuf →
      p ∉ s.contexts ∧ ∀ i slot, s.loop.registry.liveSlot i = some slot →
        slot.bufferPayload ≠ some p := by
  intro p b hpay hb hm
  rcases hp.payload_cases (hreq p hpay) with ⟨rfl, -⟩ | ⟨-, c, b', -, -, hb', hm'⟩
  · exact h.fresh
  · obtain ⟨b'', hb'', hev, -⟩ := hk p b' hb'
    obtain rfl := Option.some.inj (hb.symm.trans hb'')
    exact absurd (hev.mode ▸ hm) hm'

theorem releases_keep (h : s.Base) {heap : Heap} (hk : s.loop.heap.Keeps heap) :
    ReleaseInv heap s.loop.registry s.contexts :=
  h.releases.mono hk (fun _ _ hs => hs) (fun _ _ _ => h.payload_lt)
    fun _ hp => Or.inl ⟨hp, h.context_lt hp⟩

end Base

theorem Heap.Keeps.grow (l : Loop) (g : Grown) : l.heap.Keeps (l.grow g).heap := .append rfl

/-! ## Calls -/

theorem Base.refused (h : s.Base) {e : Option PyErr} {l1 : Loop} (hr : Refused s.loop l1) :
    (s.answer (.error e, l1)).Base := by
  obtain ⟨g, rfl, hf, hs, -⟩ := hr
  have hk := Heap.Keeps.grow s.loop g
  exact
    { registry := h.registry
      futures := h.futures.mono (Nat.le_add_right _ _)
      ring := h.ring
      heap := h.heap.evolve hk.evolves
      objects := h.objects.mono (by simp [answer, withLoop, Loop.grow])
        (by simp [answer, withLoop, Loop.grow])
      releases := h.releases_keep hk }

theorem Base.full (h : s.Base) {call : OpCall} {g : Grown} {req : Request} {e : Option PyErr}
    {heap : Heap} (hp : Prepared call s.loop g req)
    (hh : heap.payloads = (freeBufferPayload (s.loop.grow g).heap req.payload false).payloads) :
    (s.answer (.error e, s.loop.afterCall g s.loop.registry heap s.loop.ring)).Base := by
  have hk := Heap.Keeps.grow s.loop g
  have hfree : (freeBufferPayload (s.loop.grow g).heap req.payload false).Keeps heap :=
    .of_payloads hh
  have hrel := ((h.releases_keep hk).release (h.unused hp hk fun _ hq => hq)).mono hfree
    (fun _ _ hs => hs)
    (fun _ _ p hs hq => by
      rw [length_freeBufferPayload]
      exact Nat.lt_of_lt_of_le (h.payload_lt hs hq) hk.evolves.length_le)
    fun p hc => Or.inl ⟨hc, by
      rw [length_freeBufferPayload]
      exact Nat.lt_of_lt_of_le (h.context_lt hc) hk.evolves.length_le⟩
  exact
    { registry := h.registry
      futures := h.futures.mono (Nat.le_add_right _ _)
      ring := h.ring
      heap := h.heap.evolve ((hk.evolves.trans (.release _ _)).trans hfree.evolves)
      objects := h.objects.mono (by simp [answer, withLoop, Loop.afterCall, Loop.grow])
        (by simp [answer, withLoop, Loop.afterCall, Loop.grow])
      releases := hrel }

theorem Base.rejected (h : s.Base) {call : OpCall} {g : Grown} {req : Request}
    {e : Option PyErr} {op : COp} {heap1 heap : Heap} {reg : RequestRegistry} {ring : Ring}
    {idx n : Int} {submit : Int} (hp : Prepared call s.loop g req)
    (hd : req.dispatch (s.loop.grow g).heap = .ok (op, heap1))
    (hx : op.exec s.loop.ring idx req.timeoutParams submit = (n, ring)) (hn : n < 1)
    (hv : reg.Valid)
    (hlive : ∀ j, reg.liveSlot j = s.loop.registry.liveSlot j)
    (hh : heap.payloads =
      (freeBufferPayload heap1 req.registration.bufferPayload false).payloads)
    (hclear : s.loop.registry.Cleared → reg.Cleared) :
    (s.answer (.error e, (s.loop.afterCall g reg heap ring).setClosed false call.flag)).Base := by
  have hk := (Heap.Keeps.grow s.loop g).trans (.dispatch hp.dispatch hd)
  have hfree : (freeBufferPayload heap1 req.registration.bufferPayload false).Keeps heap :=
    .of_payloads hh
  have hrel : ReleaseInv heap reg s.contexts := ((h.releases_keep hk).release
      (h.unused hp hk fun _ => hp.payload_of_registration)).mono hfree
    (fun j _ hs => hlive j ▸ hs)
    (fun _ _ p hs hq => by
      rw [length_freeBufferPayload]
      exact Nat.lt_of_lt_of_le (h.payload_lt hs hq) hk.evolves.length_le)
    fun p hc => Or.inl ⟨hc, by
      rw [length_freeBufferPayload]
      exact Nat.lt_of_lt_of_le (h.context_lt hc) hk.evolves.length_le⟩
  obtain ⟨extra, hadd, -⟩ := COp.exec_rejected_added hx hn
  have hring := h.ring.added hadd
  refine ⟨?_, ?_, ?_, ?_, ?_, ?_⟩
  · simp only [answer, withLoop, Loop.setClosed_registry]
    exact h.registry.congr (Or.inl hv) (hclear h.registry.cleared) hlive
  · simp only [answer, withLoop, Loop.setClosed_nextFuture]
    exact h.futures.mono (Nat.le_add_right _ _)
  · simp only [answer, withLoop, posted, Loop.setClosed_ring, Loop.afterCall, hadd.cq]
    exact hring
  · simp only [answer, withLoop, Loop.setClosed_heap, Loop.setClosed_context]
    exact h.heap.evolve ((hk.evolves.trans (.release _ _)).trans hfree.evolves)
  · refine h.objects.mono ?_ ?_
    · simp [answer, withLoop, Loop.afterCall, Loop.grow]
    · simp [answer, withLoop, Loop.afterCall, Loop.grow]
  · simp only [answer, withLoop, Loop.setClosed_heap, Loop.setClosed_registry]
    exact hrel

theorem Base.accepted (h : s.Base) {call : OpCall} {g : Grown} {req : Request} {op : COp}
    {heap1 heap : Heap} {ring : Ring} {n submit : Int} (hp : Prepared call s.loop g req)
    (htop : ¬ s.loop.registry.top < 0)
    (hd : req.dispatch (s.loop.grow g).heap = .ok (op, heap1))
    (hx : op.exec s.loop.ring (registryAdd s.loop.registry req.registration).1 req.timeoutParams
      submit = (n, ring)) (hn : ¬ n < 1) (hh : heap.payloads = heap1.payloads) :
    (s.answer (.ok ⟨req.registration, (registryAdd s.loop.registry req.registration).1,
        s.loop.ring.tail, op, req.payload, req.pending⟩,
      (s.loop.afterCall g (registryAdd s.loop.registry req.registration).2 heap ring).setClosed
        true call.flag)).Base := by
  have hgk := Heap.Keeps.grow s.loop g
  have hdk := (Heap.Keeps.dispatch hp.dispatch hd).trans (.of_payloads hh)
  have hk := hgk.trans hdk
  have hrel := h.releases_keep hk
  obtain ⟨-, -, -, -, hlive⟩ := (h.registry.sound.valid_of_room htop).add
    req.registration htop
  have hacc := (COp.exec_accepted hx hn).added
  refine ⟨?_, ?_, ?_, ?_, ?_, ?_⟩
  · simp only [answer, withLoop, Loop.setClosed_registry]
    have hadd := @RegistryInv.add _ _ h.registry ⟨req.registration,
      (registryAdd s.loop.registry req.registration).1, s.loop.ring.tail, op, req.payload,
      req.pending⟩ htop rfl
    exact hadd
  · simp only [answer, withLoop, Loop.setClosed_nextFuture, Loop.afterCall, Loop.grow, hp.futures]
    exact h.futures.cons hp.future
  · simp only [answer, withLoop, posted, Loop.setClosed_ring, Loop.afterCall, hacc.cq]
    exact h.ring.accept hacc rfl rfl rfl
  · simp only [answer, withLoop, Loop.setClosed_heap, Loop.setClosed_context]
    exact h.heap.accept hp hdk rfl rfl
  · refine h.objects.cons hp rfl ?_ ?_
    · simp [answer, withLoop, Loop.afterCall, Loop.grow]
    · simp [answer, withLoop, Loop.afterCall, Loop.grow]
  · simp only [answer, withLoop, Loop.setClosed_heap, Loop.setClosed_registry]
    refine ⟨hrel.context, fun j slot p b hs hq hb => ?_⟩
    simp only [Loop.afterCall] at hs hb
    rw [hlive] at hs
    by_cases hj : j = (registryAdd s.loop.registry req.registration).1
    · rw [if_pos hj] at hs
      obtain rfl := Option.some.inj hs
      rcases hp.payload_cases (hp.payload_of_registration hq) with ⟨hlen, b', hg, ho⟩ | ⟨-, hctx⟩
      · have hb' : (s.loop.grow g).heap.payloads[p]? = some b' := by
          show (s.loop.heap.payloads ++ g.payloads)[p]? = some b'
          rw [hg, hlen, List.getElem?_concat_length]
        obtain ⟨c, hc, -, hf⟩ := hdk p b' hb'
        rw [hb] at hc
        rw [Option.some.inj hc, hf]
        exact ho.frees
      · obtain ⟨c, b', hcc, hcp, -, -⟩ := hctx
        exact hrel.context p (h.heap.known c hcc p hcp) b hb
    · rw [if_neg hj] at hs
      exact hrel.live j slot p b hs hq hb

/-! ## The other steps -/

theorem Base.called (h : s.Base) {call : OpCall} {env : CallEnv}
    {r : Except (Option PyErr) Submitted × Loop} (ho : RunOutcome call env s.loop r) :
    (s.answer r).Base := by
  cases ho with
  | refused hr => exact h.refused hr
  | full _ hp _ hh => exact h.full hp hh
  | rejected _ hp _ hd hx hn hv _ hlive hh hc => exact h.rejected hp hd hx hn hv hlive hh hc
  | accepted _ hp htop hd hx hn hh => exact h.accepted hp htop hd hx hn hh

theorem Base.quiet (h : s.Base) {extra : List Flight} (hq : Quiet s a t extra) : t.Base := by
  refine ⟨?_, ?_, ?_, ?_, ?_, ?_⟩
  · rw [hq.registry, hq.subs]
    exact h.registry
  · rw [hq.nextFuture, hq.subs]
    exact h.futures
  · rw [hq.subs]
    unfold posted
    rw [hq.seen, hq.ring.cq]
    exact h.ring.added hq.ring
  · rw [hq.subs]
    exact h.heap.mono hq.heap.evolves hq.contexts
      (fun p hp => (hq.managed p hp).imp id fun ⟨hle, b, hb, _, ht⟩ => ⟨hle, b, hb, ht⟩) hq.known
  · rw [hq.subs]
    exact h.objects.mono (Nat.le_of_eq (by rw [hq.files])) (Nat.le_of_eq (by rw [hq.sockets]))
  · rw [hq.registry]
    refine h.releases.mono hq.heap (fun _ _ hs => hs) (fun _ _ _ => h.payload_lt) fun p hp => ?_
    rcases hq.managed p hp with hp | ⟨-, b, hb, hf, -⟩
    · exact Or.inl ⟨hp, h.context_lt hp⟩
    · exact Or.inr ⟨b, hb, hf⟩

theorem Base.posted_step (h : s.Base) {seq : Nat} {res : Int} {flags : Nat} {ring : Ring}
    (hp : s.loop.ring.post seq res flags = some ring) :
    (s.withLoop { s.loop with ring := ring }).Base := by
  obtain ⟨c, hcq, -, hring, -⟩ := h.ring.post hp
  refine ⟨h.registry, h.futures, ?_, h.heap, ⟨h.objects.file, h.objects.socket, h.objects.names⟩,
    h.releases⟩
  simp only [withLoop, System.posted, hcq]
  rw [← List.append_assoc]
  exact hring

/-- Consuming a CQE moves it from the queue to the consumed ones. -/
theorem posted_consume {c : Cqe} {cs : List Cqe} {l : Loop} (hcq : s.loop.ring.cq = c :: cs)
    (hr : l.ring = ioUringCqeSeen s.loop.ring) : (s.consume c l).posted = s.posted := by
  unfold System.posted consume
  simp only [withLoop, hr, ioUringCqeSeen, hcq]
  simp

theorem RingInv.seen {r : Ring} {subs : List Submitted} {posted : List Cqe}
    (h : RingInv r subs posted) : RingInv (ioUringCqeSeen r) subs posted := h.withCq _

theorem Base.dropped (h : s.Base) {c : Cqe} {cs : List Cqe} {heap : Heap}
    (hcq : s.loop.ring.cq = c :: cs) (hh : heap.payloads = s.loop.heap.payloads) :
    (s.consume c { s.loop with heap := heap }.cqeSeen).Base := by
  have hk : s.loop.heap.Keeps heap := .of_payloads hh
  refine ⟨h.registry, h.futures, ?_, h.heap.evolve hk.evolves,
    ⟨h.objects.file, h.objects.socket, h.objects.names⟩, h.releases_keep hk⟩
  rw [posted_consume hcq rfl]
  exact RingInv.seen h.ring

/-- The heap after a CQE was handled, up to the release of the payload of the slot. -/
def Handled.heap (heap : Heap) (slot : RequestSlot) (c : Cqe) : Heap :=
  if 0 ≤ c.res then returned heap slot else heap

theorem Handled.keeps (heap : Heap) (slot : RequestSlot) (c : Cqe) :
    heap.Keeps (Handled.heap heap slot c) := by
  unfold Handled.heap
  split
  · exact .returned slot
  · exact .of_payloads rfl

theorem Base.handled (h : s.Base) {c : Cqe} {cs : List Cqe} {slot : RequestSlot}
    {future : FutureId} {l1 : Loop} (hcq : s.loop.ring.cq = c :: cs)
    (hl : s.loop.registry.liveSlot (toInt c.userData) = some slot)
    (hh : Handled s.loop (toInt c.userData) slot future c l1) : (s.consume c l1).Base := by
  have hk := Handled.keeps s.loop.heap slot c
  have hfree : (freeBufferPayload (Handled.heap s.loop.heap slot c) slot.bufferPayload
      false).Keeps l1.heap := .of_payloads hh.payloads
  have hev := (hk.evolves.trans (.release _ _)).trans hfree.evolves
  obtain ⟨sub, hm, hi, hslot⟩ := h.request hl
  refine ⟨h.registry.remove (Or.inl hh.valid) (hh.cleared h.registry.cleared) hh.live, ?_, ?_, ?_, ?_, ?_⟩
  · show FutureInv l1.nextFuture s.subs
    rw [hh.nextFuture]
    exact h.futures
  · rw [posted_consume hcq hh.ring]
    show RingInv l1.ring s.subs s.posted
    rw [hh.ring]
    exact RingInv.seen h.ring
  · show HeapInv l1.heap s.subs s.contexts l1.context
    rw [hh.context]
    exact h.heap.evolve hev
  · exact h.objects.mono hh.objects.length_files hh.objects.length_sockets
  · -- the payload that was released belongs to no other slot
    have hsub : ∀ j slot', l1.registry.liveSlot j = some slot' →
        j ≠ toInt c.userData ∧ s.loop.registry.liveSlot j = some slot' := by
      intro j slot' hs
      rw [hh.live] at hs
      by_cases hj : j = toInt c.userData
      · rw [if_pos hj] at hs
        exact absurd hs (by simp)
      · rw [if_neg hj] at hs
        exact ⟨hj, hs⟩
    have hlt : ∀ {p : PayloadId}, p < s.loop.heap.payloads.length → p < (freeBufferPayload
        (Handled.heap s.loop.heap slot c) slot.bufferPayload false).payloads.length := by
      intro p hp
      rw [length_freeBufferPayload]
      exact Nat.lt_of_lt_of_le hp hk.evolves.length_le
    have hrel : ReleaseInv (Handled.heap s.loop.heap slot c) l1.registry s.contexts :=
      h.releases.mono hk (fun j slot' hs => (hsub j slot' hs).2) (fun _ _ _ => h.payload_lt)
        fun p hp => Or.inl ⟨hp, h.context_lt hp⟩
    refine (hrel.release fun p b hp hb hmode => ?_).mono hfree (fun _ _ hs => hs)
      (fun j slot' p hs hq => hlt (h.payload_lt (hsub j slot' hs).2 hq))
      fun p hp => Or.inl ⟨hp, hlt (h.context_lt hp)⟩
    have hnot : p ∉ s.contexts := by
      subst hslot
      obtain ⟨b0, hb0, hcase⟩ := (h.heap.holds sub hm).own_or_context hp
      obtain ⟨b1, hb1, hev1, -⟩ := hk p b0 hb0
      obtain rfl := Option.some.inj (hb.symm.trans hb1)
      rcases hcase with ⟨hc, -⟩ | ⟨-, hne⟩
      · exact hc
      · exact absurd (hev1.mode ▸ hmode) hne
    refine ⟨hnot, fun j slot' hs hq => ?_⟩
    obtain ⟨hj, hs'⟩ := hsub j slot' hs
    exact hj (h.payload_shared hs' hl hq hp hnot)

/-- No step before the shutdown changes what stays of a payload. -/
theorem Stepped.evolves (hs : Stepped s a t) (hd : t.down = false) :
    s.loop.heap.Evolves t.loop.heap := by
  cases hs with
  | called _ ho =>
    cases ho with
    | refused h =>
      obtain ⟨g, rfl, -⟩ := h
      exact (Heap.Keeps.grow s.loop g).evolves
    | full _ _ _ hh =>
      exact ((Heap.Keeps.grow s.loop _).evolves.trans (.release _ _)).trans
        (Heap.Keeps.of_payloads hh).evolves
    | rejected _ hp _ hdisp _ _ _ _ _ hh =>
      have hk := (Heap.Keeps.grow s.loop _).trans (.dispatch hp.dispatch hdisp)
      simp only [answer, withLoop, Loop.setClosed_heap]
      exact (hk.evolves.trans (.release _ _)).trans (Heap.Keeps.of_payloads hh).evolves
    | accepted _ hp _ hdisp _ _ hh =>
      have hk := (Heap.Keeps.grow s.loop _).trans (.dispatch hp.dispatch hdisp)
      simp only [answer, withLoop, Loop.setClosed_heap]
      exact hk.evolves.trans (Heap.Keeps.of_payloads hh).evolves
  | posted _ => exact (Heap.Keeps.of_payloads rfl).evolves
  | dropped _ _ | skipped _ _ _ => exact (Heap.Keeps.of_payloads rfl).evolves
  | handled _ _ _ _ hh =>
    exact ((Handled.keeps _ _ _).evolves.trans (.release _ _)).trans
      (Heap.Keeps.of_payloads hh.payloads).evolves
  | quiet _ hq => exact hq.heap.evolves
  | shutdown _ _ => exact absurd hd (by simp)

/-- The payloads of context managers stay theirs. -/
theorem Stepped.contexts_mono (hs : Stepped s a t) : ∀ p ∈ s.contexts, p ∈ t.contexts := by
  intro p hp
  cases hs with
  | called _ _ =>
    rw [answer_contexts]
    exact hp
  | posted _ | dropped _ _ | skipped _ _ _ | handled _ _ _ _ _ | shutdown _ _ => exact hp
  | quiet _ hq => exact hq.contexts p hp

/-- `Base` is kept by every step before the shutdown. -/
theorem Base.step (h : s.Base) (hs : s.step a = .ok t) (hd : t.down = false) : t.Base := by
  obtain ⟨-, hstep⟩ := step_cases h hs
  cases hstep with
  | called _ ho => exact h.called ho
  | posted hp => exact h.posted_step hp
  | dropped hcq _ => exact h.dropped hcq rfl
  | skipped hcq _ _ => exact h.dropped hcq rfl
  | handled hcq hl _ _ hh => exact h.handled hcq hl hh
  | quiet _ hq => exact h.quiet hq
  | shutdown _ _ => exact absurd hd (by simp)

/-! ## A new loop -/

theorem init_base {l : Loop} (hv : l.registry.Sound) (hclear : l.registry.Cleared)
    (hlive : ∀ i, l.registry.liveSlot i = none) (hr : l.ring.Ordered) (hcq : l.ring.cq = [])
    (hc : ∀ c, l.context = some c → c.bufferPayload = none) : (init l).Base := by
  have hnone : ∀ {α : Prop} {i slot}, l.registry.liveSlot i = some slot → α := by
    intro α i slot hs
    rw [hlive] at hs
    exact absurd hs (by simp)
  have hposted : (init l).posted = [] := by
    unfold System.posted init
    rw [hcq]
    rfl
  refine ⟨⟨hv, hclear, by simp [init], fun i slot hs => hnone hs⟩, ⟨by simp [init], by simp [init]⟩, ?_,
    ⟨by simp [init], fun c he p hp => ?_, by simp [init], by simp [init]⟩,
    ⟨by simp [init], by simp [init], by simp [init]⟩,
    ⟨by simp [init], fun i slot p b hs => hnone hs⟩⟩
  · rw [hposted]
    exact ⟨hr, by simp [init], by simp [init], by simp [init], by simp, by simp, by simp, by simp⟩
  · rw [hc c he] at hp
    exact absurd hp (by simp)

variable {registrySize : Nat} {setup : SignalSetup} {wakeupFd submit : Int}

theorem newLoop_base (h : registrySize < 2 ^ 32) :
    (init (uringioLoopInit registrySize setup wakeupFd submit)).Base := by
  have hadd := uringioLoopInit_added registrySize setup wakeupFd submit
  obtain ⟨hv, hlive⟩ := RequestRegistry.registryNew_sound h
  exact init_base hv (RequestRegistry.registryNew_cleared _) hlive (hadd.ordered ringInit_ordered) hadd.cq fun _ hc =>
    (Option.some.inj hc) ▸ rfl

/-- After the shutdown there are no more steps. -/
theorem down_of_step (hs : s.step a = .ok t) : s.down = false := by
  cases hd : s.down with
  | false => rfl
  | true =>
    unfold step at hs
    rw [hd] at hs
    exact absurd hs (by simp)

/-- Up to the shutdown, `Base` holds along every run of a new loop. -/
theorem base_of_run {acts : List Act} (h : s.Base) (hr : s.run acts = .ok t)
    (hd : t.down = false) : t.Base := by
  have hinv : t.down = false → t.Base := by
    have hg : Lib.Meets step (fun _ _ => True) s acts := Lib.meets_true
    exact Lib.Meets.invariant (fun s => s.down = false → s.Base)
      (fun s a t hb _ hs hdt => (hb (down_of_step hs)).step hs hdt) hg (fun _ => h) hr
  exact hinv hd

end System

end Uringio
