/-
  The slots of the registry over whole runs.

  A slot is free or belongs to one accepted request (`Base.conserved`), and where the reader
  can make its answers the requests with a slot are the ones that were not answered. So the
  registry is full exactly when as many requests as it has slots wait for their answers, and
  it has all its slots back when none does (`unanswered_conserved`).
-/
import Uringio.System.Answers

namespace Uringio

open Lib

/-- The slots of `registry_new`; a size that is no int leaves none. -/
def capacity (registrySize : Nat) : Nat :=
  if registrySize = 0 then defaultRegistrySize
  else if registrySize < 2 ^ 31 then registrySize else 0

namespace RequestRegistry

variable {reg : RequestRegistry} {registrySize : Nat}

/-- What a registry of this size has room for. -/
theorem Sound.capacity (hs : reg.Sound) (hsize : reg.size = (registryNew registrySize).size) :
    (reg.Valid ∧ reg.size = capacity registrySize) ∨
      (reg.top < 0 ∧ (∀ i, reg.liveSlot i = none) ∧ Uringio.capacity registrySize = 0) := by
  have hnew : (registryNew registrySize).size =
      if registrySize = 0 then defaultRegistrySize else registrySize := rfl
  unfold Uringio.capacity
  rw [hnew] at hsize
  rcases hs with hv | ⟨htop, hin⟩
  · refine .inl ⟨hv, ?_⟩
    have hsmall := hv.small
    split at hsize
    · rename_i h0
      rw [if_pos h0, hsize]
    · rename_i h0
      rw [if_neg h0, if_pos (by omega), hsize]
  · have hlive : ∀ i, reg.liveSlot i = none := fun i => by
      unfold liveSlot
      rw [registryGet_of_not_inRange (hin i)]
      rfl
    refine .inr ⟨htop, hlive, ?_⟩
    have hzero := hin 0
    unfold inRange at hzero
    simp only [Bool.not_eq_false', Bool.or_eq_true, decide_eq_true_eq] at hzero
    -- the size as an int is not positive, so that it is neither the default nor small
    have hlarge : ¬ reg.size < 2 ^ 31 := by
      intro hs
      rw [toInt_of_lt hs] at hzero
      have hpos : 0 < reg.size := by
        split at hsize
        · rw [hsize]
          decide
        · omega
      omega
    split at hsize
    · exact absurd (hsize ▸ by decide) hlarge
    · rename_i h0
      rw [if_neg h0, if_neg (hsize ▸ hlarge)]

end RequestRegistry

namespace System

variable {s t : System} {acts : List Act} {registrySize : Nat} {setup : SignalSetup}
  {wakeupFd submit : Int}

/-- The requests with a slot. -/
def holders (s : System) : List Submitted := s.subs.filter fun sub => s.Holds sub

/-- The accepted requests that were not answered. -/
def unanswered (s : System) : List Submitted :=
  s.subs.filter fun sub => s.loop.calls sub.registration.future = []

/-- In a valid registry each slot is free or that of one request. -/
theorem Base.conserved (h : s.Base) (hv : s.loop.registry.Valid) :
    Conserved s.loop.registry.size s.loop.registry.free (s.holders.map Submitted.index) := by
  refine hv.complement.conserved ?_ fun i => ?_
  · have hsubs : s.holders.Nodup := (List.Nodup.of_map _ h.ring.seqs).filter _
    refine List.Nodup.map_on (fun x hx y hy hxy => ?_) hsubs
    obtain ⟨hxm, hxh⟩ := List.mem_filter.mp hx
    obtain ⟨hym, hyh⟩ := List.mem_filter.mp hy
    exact h.eq_of_holds hxm hym (of_decide_eq_true hxh) (of_decide_eq_true hyh) hxy
  · rw [List.mem_map]
    constructor
    · rintro ⟨sub, hsub, rfl⟩
      have hh := of_decide_eq_true (List.mem_filter.mp hsub).2
      exact ⟨hv.liveSlot_inRange hh, RequestRegistry.live_of_liveSlot hh⟩
    · rintro ⟨-, hlive⟩
      obtain ⟨slot, hl⟩ := hlive.exists_slot
      obtain ⟨sub, hsub, rfl⟩ := h.registry.holder _ _ hl
      obtain ⟨hm, hi⟩ := mem_of_holder hsub
      refine ⟨sub, List.mem_filter.mpr ⟨hm, decide_eq_true ?_⟩, hi⟩
      unfold Holds
      rw [hi, hl]

/-- The registry keeps its size up to the shutdown. -/
theorem size_of_run (h : registrySize < 2 ^ 32)
    (hr : (init (uringioLoopInit registrySize setup wakeupFd submit)).run acts = .ok t)
    (hd : t.down = false) : t.loop.registry.size = (registryNew registrySize).size := by
  have hinv : t.down = false →
      t.Base ∧ t.loop.registry.size = (registryNew registrySize).size := by
    refine Lib.Meets.invariant (fun u : System => u.down = false →
      u.Base ∧ u.loop.registry.size = (registryNew registrySize).size)
      (fun u a v hu _ hs hdv => ?_) Lib.meets_true (fun _ => ⟨newLoop_base h, rfl⟩) hr
    obtain ⟨hb, hsize⟩ := hu (down_of_step hs)
    exact ⟨hb.step hs hdv, ((step_cases hb hs).2.size hb hdv).trans hsize⟩
  exact (hinv hd).2

/-- In every run of a new loop each slot is free or that of one accepted request. -/
theorem conserved_of_run (h : registrySize < 2 ^ 32)
    (hr : (init (uringioLoopInit registrySize setup wakeupFd submit)).run acts = .ok t)
    (hd : t.down = false) :
    Conserved (capacity registrySize) t.loop.registry.free (t.holders.map Submitted.index) ∧
      (t.loop.registry.top < 0 ↔ t.holders.length = capacity registrySize) := by
  have hb := base_of_run (newLoop_base h) hr hd
  rcases hb.registry.sound.capacity (size_of_run h hr hd) with ⟨hv, hsize⟩ | ⟨htop, hdead, hcap⟩
  · have hcons := hb.conserved hv
    rw [hsize] at hcons
    refine ⟨hcons, ?_⟩
    have hlen := hcons.length
    have hfree := Lib.length_occupied hv.low (hv.stackLength ▸ hv.high)
    rw [List.length_map] at hlen
    change ((t.loop.registry.free.length : Nat) : Int) = _ at hfree
    omega
  · have hnone : t.holders = [] := by
      refine List.filter_eq_nil_iff.mpr fun sub _ hh => ?_
      have hlive := (hdead sub.index).symm.trans (of_decide_eq_true hh)
      cases hlive
    have hfree : t.loop.registry.free = [] := Lib.occupied_of_neg htop
    rw [hcap, hnone, hfree]
    exact ⟨.refl _, iff_of_true htop rfl⟩

/-- A loop with two slots: both are taken, the third request finds none, and the answer to
    the first one makes room again. -/
def fullRun : List Act :=
  [.call (.open 0 (.ok "f") 0 0 0 none) .ok, .call (.open 0 (.ok "g") 0 0 0 none) .ok,
    .call (.open 0 (.ok "h") 0 0 0 none) .ok, .post 1 7 0]

end System

end Uringio
