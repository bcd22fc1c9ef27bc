/-
  What holds in every state of every run, whatever the callers and the kernel do.

  Five parts, each about one component of the loop and the accepted requests: the registry
  (`RegistryInv`), the futures (`FutureInv`), the ring (`RingInv`), the payloads (`HeapInv`)
  and the objects (`ObjectInv`). None of them says that an unfinished request still has its
  slot: that is where the runs of the loop can go wrong.
-/
import Uringio.System.System

namespace Uringio

/-! ## The registry -/

/-- The latest request with an index. -/
def holder (subs : List Submitted) (i : Int) : Option Submitted := subs.find? fun s => s.index == i

/-- A live slot is that of the latest request with its index, and no other has a payload. -/
structure RegistryInv (reg : RequestRegistry) (subs : List Submitted) : Prop where
  sound : reg.Sound
  cleared : reg.Cleared
  index : ∀ sub ∈ subs, 0 ≤ sub.index ∧ sub.index < 2 ^ 31
  holder : ∀ i slot, reg.liveSlot i = some slot →
    ∃ sub, holder subs i = some sub ∧ slot = sub.registration.slot i

theorem mem_of_holder {subs : List Submitted} {i : Int} {sub : Submitted}
    (h : holder subs i = some sub) : sub ∈ subs ∧ sub.index = i :=
  ⟨List.mem_of_find?_eq_some h, by simpa using List.find?_some h⟩

namespace RegistryInv

variable {reg reg' : RequestRegistry} {subs : List Submitted} {i : Int}

theorem congr (h : RegistryInv reg subs) (hv : reg'.Sound) (hc : reg'.Cleared)
    (hlive : ∀ j, reg'.liveSlot j = reg.liveSlot j) : RegistryInv reg' subs :=
  ⟨hv, hc, h.index, fun j slot hs => h.holder j slot (by rw [← hlive, hs])⟩

/-- A slot was removed. -/
theorem remove (h : RegistryInv reg subs) (hv : reg'.Sound) (hc : reg'.Cleared)
    (hlive : ∀ j, reg'.liveSlot j = if j = i then none else reg.liveSlot j) :
    RegistryInv reg' subs := by
  refine ⟨hv, hc, h.index, fun j slot hs => ?_⟩
  rw [hlive] at hs
  split at hs
  · exact absurd hs (by simp)
  · exact h.holder j slot hs

/-- A request was registered. -/
theorem add (h : RegistryInv reg subs) {sub : Submitted} (ht : ¬ reg.top < 0)
    (hi : sub.index = (registryAdd reg sub.registration).1) :
    RegistryInv (registryAdd reg sub.registration).2 (sub :: subs) := by
  have hvalid := h.sound.valid_of_room ht
  have hsmall := hvalid.small
  obtain ⟨hv, -, hr, -, hlive⟩ := hvalid.add sub.registration ht
  refine ⟨Or.inl hv, h.cleared.add hvalid _ ht, fun x hx => ?_, fun j slot hs => ?_⟩
  · rcases List.mem_cons.mp hx with rfl | hx
    · rw [hi]
      exact ⟨hr.1, by omega⟩
    · exact h.index x hx
  · rw [hlive] at hs
    unfold Uringio.holder
    by_cases hj : j = (registryAdd reg sub.registration).1
    · rw [if_pos hj] at hs
      refine ⟨sub, ?_, by rw [hj, Option.some.inj hs]⟩
      rw [List.find?_cons_of_pos (by simp [hi, hj])]
    · rw [if_neg hj] at hs
      obtain ⟨x, hx, hslot⟩ := h.holder j slot hs
      refine ⟨x, ?_, hslot⟩
      rw [List.find?_cons_of_neg (by simpa [hi] using fun e => hj e.symm)]
      exact hx

end RegistryInv

/-! ## Futures -/

/-- Every request has a future of its own, and the next one is new. -/
structure FutureInv (nextFuture : FutureId) (subs : List Submitted) : Prop where
  lt : ∀ sub ∈ subs, sub.registration.future < nextFuture
  nodup : (subs.map fun sub => sub.registration.future).Nodup

theorem FutureInv.mono {n m : FutureId} {subs : List Submitted} (h : FutureInv n subs)
    (hm : n ≤ m) : FutureInv m subs :=
  ⟨fun sub hs => Nat.lt_of_lt_of_le (h.lt sub hs) hm, h.nodup⟩

theorem FutureInv.cons {n : FutureId} {subs : List Submitted} {sub : Submitted}
    (h : FutureInv n subs) (hf : sub.registration.future = n) : FutureInv (n + 1) (sub :: subs) := by
  refine ⟨fun x hx => ?_, ?_⟩
  · rcases List.mem_cons.mp hx with rfl | hx
    · rw [hf]
      exact Nat.lt_succ_self n
    · exact Nat.lt_succ_of_lt (h.lt x hx)
  · rw [List.map_cons, List.nodup_cons]
    refine ⟨fun hm => ?_, h.nodup⟩
    obtain ⟨x, hx, he⟩ := List.mem_map.mp hm
    have hlt := h.lt x hx
    rw [he, hf] at hlt
    exact Nat.lt_irrefl n hlt

/-- The future determines the request. -/
theorem FutureInv.eq {n : FutureId} {subs : List Submitted} (h : FutureInv n subs)
    {a b : Submitted} (ha : a ∈ subs) (hb : b ∈ subs)
    (he : a.registration.future = b.registration.future) : a = b :=
  List.inj_on_of_nodup_map h.nodup ha hb he

/-! ## The ring -/

/-- Every SQE and every CQE of a request carries its index, and a CQE without
    IORING_CQE_F_MORE is the last one of its SQE. -/
structure RingInv (r : Ring) (subs : List Submitted) (posted : List Cqe) : Prop where
  ordered : r.Ordered
  seq : ∀ sub ∈ subs, sub.seq < r.tail
  seqs : (subs.map Submitted.seq).Nodup
  pendingTag : ∀ x ∈ r.pending, ∀ sub ∈ subs, x.seq = sub.seq →
    x.sqe.userData = toUint64 sub.index
  postedTag : ∀ c ∈ posted, ∀ sub ∈ subs, c.seq = sub.seq → c.userData = toUint64 sub.index
  postedSeq : ∀ c ∈ posted, c.seq < r.tail
  order : posted.Pairwise fun c d => d.seq = c.seq → c.hasMore = true
  final : ∀ c ∈ posted, ∀ x ∈ r.pending, x.seq = c.seq → c.hasMore = true

namespace RingInv

variable {r r' : Ring} {subs : List Submitted} {posted : List Cqe} {new : List Flight}

theorem added (h : RingInv r subs posted) (ha : r.Added r' new) : RingInv r' subs posted := by
  refine ⟨ha.ordered h.ordered, fun sub hs => Nat.lt_of_lt_of_le (h.seq sub hs) ha.tail, h.seqs,
    fun x hx sub hs he => ?_, h.postedTag,
    fun c hc => Nat.lt_of_lt_of_le (h.postedSeq c hc) ha.tail, h.order, fun c hc x hx he => ?_⟩
  · rw [ha.pending] at hx
    rcases List.mem_append.mp hx with hx | hx
    · exact h.pendingTag x hx sub hs he
    · have := (ha.seqs x hx).1
      have := h.seq sub hs
      omega
  · rw [ha.pending] at hx
    rcases List.mem_append.mp hx with hx | hx
    · exact h.final c hc x hx he
    · have := (ha.seqs x hx).1
      have := h.postedSeq c hc
      omega

/-- A request was accepted: its SQE is the first of the new ones. -/
theorem accept (h : RingInv r subs posted) {x : Flight} {sub : Submitted}
    (ha : r.Added r' (x :: new)) (hx : x.seq = r.tail) (hs : sub.seq = r.tail)
    (ht : x.sqe.userData = toUint64 sub.index) : RingInv r' (sub :: subs) posted := by
  have hold := h.added ha
  have hnd := (ha.ordered h.ordered).pending_nodup
  refine ⟨hold.ordered, fun y hy => ?_, ?_, fun y hy z hz he => ?_, fun c hc z hz he => ?_,
    hold.postedSeq, hold.order, hold.final⟩
  · rcases List.mem_cons.mp hy with rfl | hy
    · have := (ha.seqs x (List.mem_cons_self ..)).2
      omega
    · exact hold.seq y hy
  · rw [List.map_cons, List.nodup_cons]
    refine ⟨fun hm => ?_, h.seqs⟩
    obtain ⟨y, hy, he⟩ := List.mem_map.mp hm
    have := h.seq y hy
    omega
  · rcases List.mem_cons.mp hz with rfl | hz
    · have hmem : x ∈ r'.pending := by
        rw [ha.pending]
        simp
      have : y = x := List.inj_on_of_nodup_map hnd hy hmem (by omega)
      rw [this]
      exact ht
    · exact hold.pendingTag y hy z hz he
  · rcases List.mem_cons.mp hz with rfl | hz
    · have := h.postedSeq c hc
      omega
    · exact h.postedTag c hc z hz he

/-- Only the queue of CQEs differs. -/
theorem withCq (h : RingInv r subs posted) (cq : List Cqe) :
    RingInv { r with cq := cq } subs posted :=
  ⟨⟨h.ordered.before, h.ordered.nodup⟩, h.seq, h.seqs, h.pendingTag, h.postedTag, h.postedSeq,
    h.order, h.final⟩

end RingInv

/-- What the kernel does when it posts a CQE. -/
theorem Ring.post_eq_some {r r' : Ring} {seq : Nat} {res : Int} {flags : Nat}
    (h : r.post seq res flags = some r') :
    ∃ x ∈ r.inflight, x.seq = seq ∧ r'.cq = r.cq ++ [⟨x.sqe.userData, res, flags, seq⟩] ∧
      r'.head = r.head ∧ r'.count = r.count ∧ r'.entries = r.entries ∧
      r'.inflight = if (⟨x.sqe.userData, res, flags, seq⟩ : Cqe).hasMore then r.inflight
        else r.inflight.filter fun g => g.seq != seq := by
  unfold Ring.post at h
  cases hf : r.inflight.find? (fun f => f.seq == seq) with
  | none =>
    rw [hf] at h
    exact absurd h (by simp)
  | some x =>
    rw [hf] at h
    obtain rfl := Option.some.inj h
    exact ⟨x, List.mem_of_find?_eq_some hf, by simpa using List.find?_some hf, rfl, rfl, rfl, rfl,
      rfl⟩

theorem RingInv.post {r r' : Ring} {subs : List Submitted} {posted : List Cqe} {seq : Nat}
    {res : Int} {flags : Nat} (h : RingInv r subs posted) (hp : r.post seq res flags = some r') :
    ∃ c : Cqe, r'.cq = r.cq ++ [c] ∧ c.seq = seq ∧ RingInv r' subs (posted ++ [c]) ∧
      (∀ x ∈ r'.pending, x ∈ r.pending) ∧ (∃ x ∈ r.inflight, x.seq = seq ∧
        c = ⟨x.sqe.userData, res, flags, seq⟩) := by
  obtain ⟨x, hx, rfl, hcq, hhead, hcount, hentries, hinfl⟩ := Ring.post_eq_some hp
  have hqueued : r'.queued = r.queued := by
    unfold Ring.queued Ring.sqEntry
    rw [hhead, hcount, hentries]
  have htail : r'.tail = r.tail := by
    unfold Ring.tail
    rw [hhead, hcount]
  have hsub : ∀ y ∈ r'.inflight, y ∈ r.inflight := by
    intro y hy
    rw [hinfl] at hy
    split at hy
    · exact hy
    · exact List.mem_of_mem_filter hy
  have hpend : ∀ y ∈ r'.pending, y ∈ r.pending := by
    intro y hy
    unfold Ring.pending at hy ⊢
    rw [hqueued] at hy
    rcases List.mem_append.mp hy with hy | hy
    · exact List.mem_append_left _ (hsub y hy)
    · exact List.mem_append_right _ hy
  have hxp : x ∈ r.pending := List.mem_append_left _ hx
  refine ⟨⟨x.sqe.userData, res, flags, x.seq⟩, hcq, rfl, ⟨⟨?_, ?_⟩, ?_, h.seqs, ?_, ?_, ?_, ?_, ?_⟩,
    hpend, x, hx, rfl, rfl⟩
  · intro y hy
    rw [hhead]
    exact h.ordered.before y (hsub y hy)
  · rw [hinfl]
    split
    · exact h.ordered.nodup
    · exact h.ordered.nodup.sublist (List.filter_sublist.map _)
  · rw [htail]
    exact h.seq
  · exact fun y hy => h.pendingTag y (hpend y hy)
  · intro c hc sub hs he
    rcases List.mem_append.mp hc with hc | hc
    · exact h.postedTag c hc sub hs he
    · obtain rfl := List.mem_singleton.mp hc
      exact h.pendingTag x hxp sub hs he
  · intro c hc
    rw [htail]
    rcases List.mem_append.mp hc with hc | hc
    · exact h.postedSeq c hc
    · obtain rfl := List.mem_singleton.mp hc
      exact h.ordered.lt_tail hxp
  · rw [List.pairwise_append]
    refine ⟨h.order, List.pairwise_singleton .., fun c hc d hd he => ?_⟩
    obtain rfl := List.mem_singleton.mp hd
    exact h.final c hc x hxp he
  · intro c hc y hy he
    rcases List.mem_append.mp hc with hc | hc
    · exact h.final c hc y (hpend y hy) he
    · obtain rfl := List.mem_singleton.mp hc
      -- a final CQE has taken its SQE out of flight
      by_contra hmore
      rw [if_neg hmore] at hinfl
      rcases List.mem_append.mp hy with hy | hy
      · rw [hinfl, List.mem_filter] at hy
        exact absurd he (by simpa using hy.2)
      · rw [hqueued] at hy
        have he' : y.seq = x.seq := he
        have := (Ring.seq_of_mem_queued hy).1
        have := h.ordered.before x hx
        omega

theorem RingInv.pending_post {r r' : Ring} {subs : List Submitted} {posted : List Cqe}
    {seq : Nat} {res : Int} {flags : Nat} (h : RingInv r subs posted)
    (hp : r.post seq res flags = some r') : ∀ x ∈ r'.pending, x ∈ r.pending := by
  obtain ⟨-, -, -, -, hsub, -⟩ := h.post hp
  exact hsub

end Uringio
