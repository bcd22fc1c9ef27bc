/-
  Removing an index that is not live.

  `registry_remove` looks at the stack of free indices only, and aborts when it is full. With
  any request live it pushes the dead index a second time, and two later requests get it. So
  every removal in a run is harmless exactly when a dead index is removed only while nothing
  is live (`removals_harmless_iff`).
-/
import Uringio.Lib.Machine
import Uringio.Registry.PartialMap

namespace Uringio

open Lib

/-- One call of the registry, without what it returns. -/
def registryCall (s : RequestRegistry × Heap) (call : RegistryInput) :
    Except Stop (RequestRegistry × Heap) :=
  (registryStep s call).map Prod.snd

/-- Removing a dead index changes nothing, no index is on the stack twice, and no live index
    is given to another request. -/
structure Harmless (s : RequestRegistry × Heap) (call : RegistryInput)
    (t : RequestRegistry × Heap) : Prop where
  dead : ∀ i, call = .remove i → s.1.inRange i = true → ¬ s.1.Live i → t.1 = s.1
  once : t.1.free.Nodup
  fresh : ∀ request, call = .add request → ¬ s.1.top < 0 →
    ¬ s.1.Live (registryAdd s.1 request).1

/-- No slot has a request. -/
def RequestRegistry.Empty (reg : RequestRegistry) : Prop :=
  ∀ slot ∈ reg.slots, slot.future = none

instance (reg : RequestRegistry) : Decidable reg.Empty :=
  inferInstanceAs (Decidable (∀ slot ∈ reg.slots, slot.future = none))

/-- A dead index is removed only from a registry without requests. -/
def DeadWhenEmpty (s : RequestRegistry × Heap) : RegistryInput → Prop
  | .remove i => s.1.inRange i = true → ¬ s.1.Live i → s.1.Empty
  | _ => True

instance (s : RequestRegistry × Heap) (call : RegistryInput) :
    Decidable (DeadWhenEmpty s call) := by
  apply RegistryInput.casesOn (motive := fun call => Decidable (DeadWhenEmpty s call)) call <;>
    intros <;> dsimp only [DeadWhenEmpty] <;> infer_instance

namespace RequestRegistry

variable {reg reg' : RequestRegistry} {heap heap' : Heap} {i : Int}

theorem Sound.nodup (h : reg.Sound) : reg.free.Nodup := by
  rcases h with h | ⟨htop, -⟩
  · exact h.complement.nodup
  · unfold free
    rw [Lib.occupied_of_neg htop]
    exact List.nodup_nil

/-- A registry in whose range an index lies. -/
theorem Sound.valid_of_inRange (h : reg.Sound) (hin : reg.inRange i = true) : reg.Valid := by
  rcases h with hv | ⟨-, hout⟩
  · exact hv
  · rw [hout i] at hin
    exact absurd hin (by simp)

/-- The stack is full exactly when no slot has a request. -/
theorem Valid.empty_iff (h : reg.Valid) : reg.Empty ↔ reg.top ≥ toInt reg.size - 1 := by
  have hlen := Lib.length_occupied h.low (h.stackLength ▸ h.high)
  have hslots := h.slotsLength
  rw [toInt_of_lt h.small]
  constructor
  · intro he
    have hsub : Lib.indices reg.size ⊆ reg.free := by
      intro j hj
      have hr := Lib.mem_indices.mp hj
      refine (h.complement.mem j).mpr ⟨hr, fun hl => ?_⟩
      obtain ⟨slot, hs⟩ := Live.exists_slot hl
      obtain ⟨hg, hf⟩ := liveSlot_eq_some.mp hs
      unfold registryGet at hg
      rw [h.inRange_iff.mpr hr] at hg
      rw [he slot (List.mem_of_getElem? hg)] at hf
      exact absurd hf (by simp)
    have hle := (List.subperm_of_subset (Lib.nodup_indices _) hsub).length_le
    rw [Lib.length_indices] at hle
    unfold free at hle
    omega
  · intro htop slot hm
    by_contra hf
    obtain ⟨k, hk⟩ := List.mem_iff_getElem?.mp hm
    have hlt := (List.getElem?_eq_some_iff.mp hk).1
    have hr : (0 : Int) ≤ k ∧ (k : Int) < reg.size := by omega
    have hg : registryGet reg k = some slot := by
      unfold registryGet
      rw [h.inRange_iff.mpr hr]
      exact hk
    have hl : reg.Live k :=
      live_of_liveSlot (liveSlot_eq_some.mpr ⟨hg, Option.isSome_iff_ne_none.mpr hf⟩)
    have hshort := h.complement.length_lt hr hl
    unfold free at hshort
    omega

/-- A removal that does not abort pushes its index. -/
theorem registryRemove_pushes (hin : reg.inRange i = true)
    (h : registryRemove reg heap i = .ok (reg', heap')) :
    ¬ reg.top ≥ toInt reg.size - 1 ∧ reg'.top = reg.top + 1 := by
  unfold registryRemove at h
  rw [hin] at h
  simp only [Bool.not_true, Bool.false_eq_true, if_false] at h
  split at h
  · exact absurd h (by simp)
  · rename_i htop
    obtain ⟨rfl, -⟩ := Prod.mk.inj (Except.ok.inj h)
    exact ⟨htop, rfl⟩

/-- A removal aborts only where the stack is full. -/
theorem registryRemove_aborts {e : Stop} (h : registryRemove reg heap i = .error e) :
    reg.inRange i = true ∧ reg.top ≥ toInt reg.size - 1 := by
  unfold registryRemove at h
  cases hin : reg.inRange i with
  | false =>
    rw [hin] at h
    exact absurd h (by simp)
  | true =>
    rw [hin] at h
    simp only [Bool.not_true, Bool.false_eq_true, if_false] at h
    split at h
    · exact ⟨rfl, by assumption⟩
    · exact absurd h (by simp)

end RequestRegistry

section Calls

open RequestRegistry

variable {s t : RequestRegistry × Heap} {i : Int} {request : Registration}

@[simp] theorem registryCall_remove :
    registryCall s (.remove i) = registryRemove s.1 s.2 i := by
  unfold registryCall registryStep
  cases hr : registryRemove s.1 s.2 i with
  | ok x => simp only [hr, Except.map]
  | error e => simp only [hr, Except.map]

/-- A call that leaves the registry. -/
theorem harmless_of_same {call : RegistryInput} (hs : s.1.Sound) (he : t.1 = s.1)
    (hfresh : ∀ request, call = .add request → s.1.top < 0) : Harmless s call t :=
  ⟨fun _ _ _ _ => he, he ▸ hs.nodup, fun request hc ht => absurd (hfresh request hc) ht⟩

theorem harmless_add (hs : s.1.Sound) (ht : registryCall s (.add request) = .ok t) :
    Harmless s (.add request) t ∧ t.1.Sound := by
  obtain rfl := Except.ok.inj ht
  by_cases htop : s.1.top < 0
  · have he : (registryAdd s.1 request).2 = s.1 := by rw [registryAdd_of_full htop]
    refine ⟨harmless_of_same hs he fun _ _ => htop, ?_⟩
    show (registryAdd s.1 request).2.Sound
    rw [he]
    exact hs
  · obtain ⟨hv, -, -, hdead, -⟩ := (hs.valid_of_room htop).add request htop
    refine ⟨⟨fun _ hc => absurd hc (by simp), hv.complement.nodup, fun req hc _ => ?_⟩, .inl hv⟩
    obtain rfl := RegistryInput.add.inj hc
    exact hdead

/-- A removal is harmless where its index is live or out of range. -/
theorem harmless_remove (hs : s.1.Sound) (hlive : s.1.Live i ∨ s.1.inRange i = false)
    (ht : registryCall s (.remove i) = .ok t) : Harmless s (.remove i) t ∧ t.1.Sound := by
  rw [registryCall_remove] at ht
  rcases hlive with hl | hout
  · obtain ⟨slot, hl'⟩ := Live.exists_slot hl
    obtain ⟨reg', hr', hv, -, -⟩ := (hs.valid_of_live hl').remove s.2 hl'
    obtain ⟨he, -⟩ := Prod.mk.inj (Except.ok.inj (ht.symm.trans hr'))
    rw [← he] at hv
    refine ⟨⟨fun j hc _ hd => ?_, hv.complement.nodup, fun _ hc => absurd hc (by simp)⟩, .inl hv⟩
    obtain rfl := RegistryInput.remove.inj hc
    exact absurd hl hd
  · rw [remove_of_not_inRange hout] at ht
    have he := (Prod.mk.inj (Except.ok.inj ht)).1.symm
    exact ⟨harmless_of_same hs he fun _ hc => absurd hc (by simp), he ▸ hs⟩

/-- A removal that does not abort is not harmless where its index is dead. -/
theorem not_harmless_remove (hin : s.1.inRange i = true) (hdead : ¬ s.1.Live i)
    (ht : registryCall s (.remove i) = .ok t) : ¬ Harmless s (.remove i) t := by
  intro h
  rw [registryCall_remove] at ht
  have htop := (registryRemove_pushes hin ht).2
  rw [h.dead i rfl hin hdead] at htop
  omega

theorem harmless_iff {call : RegistryInput} (hs : s.1.Sound) (ht : registryCall s call = .ok t) :
    (Harmless s call t ↔ DeadWhenEmpty s call) ∧ (DeadWhenEmpty s call → t.1.Sound) := by
  cases call with
  | add request =>
    obtain ⟨hh, hsound⟩ := harmless_add hs ht
    exact ⟨⟨fun _ => trivial, fun _ => hh⟩, fun _ => hsound⟩
  | get j =>
    obtain rfl := Except.ok.inj ht
    exact ⟨⟨fun _ => trivial, fun _ => harmless_of_same hs rfl fun _ hc => absurd hc (by simp)⟩,
      fun _ => hs⟩
  | remove j =>
    by_cases hlive : s.1.Live j ∨ s.1.inRange j = false
    · obtain ⟨hh, hsound⟩ := harmless_remove hs hlive ht
      refine ⟨⟨fun _ hin hd => ?_, fun _ => hh⟩, fun _ => hsound⟩
      rcases hlive with hl | hout
      · exact absurd hl hd
      · rw [hin] at hout
        exact absurd hout (by simp)
    · obtain ⟨hdead, hin⟩ := not_or.mp hlive
      rw [Bool.not_eq_false] at hin
      -- an empty registry would have aborted
      have hne : ¬ DeadWhenEmpty s (.remove j) := fun hg =>
        (registryRemove_pushes hin (registryCall_remove.symm.trans ht)).1
          ((hs.valid_of_inRange hin).empty_iff.mp (hg hin hdead))
      exact ⟨⟨fun hh => absurd hh (not_harmless_remove hin hdead ht), fun hg => absurd hg hne⟩,
        fun hg => absurd hg hne⟩

/-- Where a call aborts the registry has no requests. -/
theorem deadWhenEmpty_of_abort {call : RegistryInput} {e : Stop} (hs : s.1.Sound)
    (ht : registryCall s call = .error e) : DeadWhenEmpty s call := by
  cases call with
  | add request => exact absurd ht (by simp [registryCall, registryStep, Except.map])
  | get j => exact absurd ht (by simp [registryCall, registryStep, Except.map])
  | remove j =>
    intro _ _
    rw [registryCall_remove] at ht
    obtain ⟨hin, htop⟩ := registryRemove_aborts ht
    exact (hs.valid_of_inRange hin).empty_iff.mpr htop

/-- In every run of a registry of any size the removals of dead indices are harmless exactly
    when each of them finds the registry without requests. -/
theorem removals_harmless_iff (size : Nat) (h : size < 2 ^ 32) (heap : Heap)
    (calls : List RegistryInput) :
    Each registryCall Harmless (registryNew size, heap) calls ↔
      Meets registryCall DeadWhenEmpty (registryNew size, heap) calls :=
  Meets.each_iff (fun s => s.1.Sound) (fun _ _ _ hs (_ : True) ht => harmless_iff hs ht)
    (fun _ _ _ hs _ ht => deadWhenEmpty_of_abort hs ht) meets_true (registryNew_sound h).1

end Calls

/-- A request of some future. -/
def someRequest (future : FutureId) : Registration :=
  ⟨future, none, .oneshot, .nop, none, none, none, none⟩

/-- Two requests, one after the other, and the first index removed twice at the end. -/
theorem removals_harmless_iff_twice :
    Each registryCall Harmless (registryNew 2, ⟨[], []⟩)
      [.add (someRequest 0), .remove 1, .add (someRequest 1), .remove 1, .remove 1] :=
  (removals_harmless_iff 2 (by decide) ⟨[], []⟩ _).mpr (by decide)

/-- With one request live, a dead index is pushed a second time and two requests get it. -/
theorem dead_index_given_twice :
    ¬ Each registryCall Harmless (registryNew 2, ⟨[], []⟩)
        [.add (someRequest 0), .remove 0, .add (someRequest 1), .add (someRequest 2)] ∧
      ∃ t, Lib.run registryCall (registryNew 2, ⟨[], []⟩)
          [.add (someRequest 0), .remove 0, .add (someRequest 1)] = .ok t ∧
        t.1.Live 0 ∧ (registryAdd t.1 (someRequest 2)).1 = 0 := by
  refine ⟨fun h => ?_, by decide⟩
  have h1 := h.2.1.dead 0 rfl (by decide) (by decide)
  exact absurd (congrArg RequestRegistry.top h1) (by decide)

end Uringio
