/-
  The request registry refines a finite partial map.

  `RequestMap n` is what the registry is for: a partial map from the indices below `n` to
  requests. `RequestMap.Step` says what the three operations do to it and what they may
  return. The registry with its stack of free indices simulates it (`registry_refinement`)
  for every sequence of `registry_add`, `registry_get` with any int, and `registry_remove`
  of an index that is live or out of range; in particular `abort()` is never reached.
-/
import Uringio.Lib.Machine
import Uringio.Registry.Registry

namespace Uringio

/-! ## The abstract registry -/

/-- A partial map from the indices below `n` to requests. -/
structure RequestMap (n : Nat) where
  get : Int → Option Registration
  bounded : ∀ i, (get i).isSome → 0 ≤ i ∧ i < n

namespace RequestMap

variable {n : Nat}

def empty (n : Nat) : RequestMap n := ⟨fun _ => none, fun _ h => absurd h (by simp)⟩

def insert (m : RequestMap n) (i : Int) (request : Registration) (h : 0 ≤ i ∧ i < n) :
    RequestMap n :=
  ⟨fun j => if j = i then some request else m.get j, fun j hj => by
    by_cases hji : j = i
    · exact hji ▸ h
    · rw [if_neg hji] at hj
      exact m.bounded j hj⟩

def erase (m : RequestMap n) (i : Int) : RequestMap n :=
  ⟨fun j => if j = i then none else m.get j, fun j hj => by
    by_cases hji : j = i
    · rw [if_pos hji] at hj
      exact absurd hj (by simp)
    · rw [if_neg hji] at hj
      exact m.bounded j hj⟩

/-- Every index holds a request. -/
def Full (m : RequestMap n) : Prop := ∀ i, 0 ≤ i ∧ i < (n : Int) → (m.get i).isSome

end RequestMap

inductive RegistryInput where
  | add (request : Registration)
  | get (index : Int)
  | remove (index : Int)
deriving DecidableEq, Repr

inductive RegistryOutput where
  | index (i : Int)
  | slot (slot : Option RequestSlot)
  | done
deriving DecidableEq, Repr

/-- What the operations do to the map and what they return. -/
inductive RequestMap.Step {n : Nat} :
    RequestMap n → RegistryInput → RegistryOutput → RequestMap n → Prop
  | addFull {m : RequestMap n} {request : Registration} (h : m.Full) :
      Step m (.add request) (.index (-1)) m
  | add {m : RequestMap n} {request : Registration} {i : Int} (hr : 0 ≤ i ∧ i < n)
      (h : m.get i = none) : Step m (.add request) (.index i) (m.insert i request hr)
  | getLive {m : RequestMap n} {i : Int} {request : Registration} (h : m.get i = some request) :
      Step m (.get i) (.slot (some (request.slot i))) m
  | getDead {m : RequestMap n} {i : Int} {slot : RequestSlot} (hr : 0 ≤ i ∧ i < n)
      (h : m.get i = none) (hs : slot.future = none) : Step m (.get i) (.slot (some slot)) m
  | getOut {m : RequestMap n} {i : Int} (hr : ¬ (0 ≤ i ∧ i < n)) :
      Step m (.get i) (.slot none) m
  | remove {m : RequestMap n} {i : Int} (h : (m.get i).isSome ∨ ¬ (0 ≤ i ∧ i < n)) :
      Step m (.remove i) .done (m.erase i)

/-! ## The registry as a machine -/

/-- One call of the registry; the heap takes the releases of `registry_remove`. -/
def registryStep (s : RequestRegistry × Heap) :
    RegistryInput → Except Stop (RegistryOutput × (RequestRegistry × Heap))
  | .add request => .ok (.index (registryAdd s.1 request).1, ((registryAdd s.1 request).2, s.2))
  | .get i => .ok (.slot (registryGet s.1 i), s)
  | .remove i =>
    match registryRemove s.1 s.2 i with
    | .ok t => .ok (.done, t)
    | .error e => .error e

/-- An index may be removed when it is live or out of range. -/
def registryPre (s : RequestRegistry × Heap) : RegistryInput → Prop
  | .remove i => s.1.Live i ∨ s.1.inRange i = false
  | _ => True

instance : ∀ s i, Decidable (registryPre s i) := fun s i => by
  cases i <;> unfold registryPre <;> infer_instance

/-- The live slots of the registry are the map. -/
structure RequestRegistry.Represents {n : Nat} (reg : RequestRegistry) (m : RequestMap n) :
    Prop where
  valid : reg.Valid
  size : reg.size = n
  slots : ∀ i, reg.liveSlot i = (m.get i).map (·.slot i)

namespace RequestRegistry.Represents

variable {n : Nat} {reg : RequestRegistry} {m : RequestMap n} {i : Int}

theorem live_iff (h : reg.Represents m) : reg.Live i ↔ (m.get i).isSome := by
  unfold Live
  rw [h.slots, Option.isSome_map]

theorem full_iff (h : reg.Represents m) : reg.top < 0 ↔ m.Full := by
  rw [h.valid.top_neg_iff, h.size]
  unfold RequestMap.Full
  constructor
  · exact fun hl i hi => h.live_iff.mp (hl i hi)
  · exact fun hf i hi => h.live_iff.mpr (hf i hi)

theorem inRange_iff (h : reg.Represents m) : reg.inRange i = true ↔ 0 ≤ i ∧ i < n := by
  rw [h.valid.inRange_iff, h.size]

/-- The stack holds the indices that the map leaves free, each once. -/
theorem free_iff (h : reg.Represents m) : reg.free.Nodup ∧
    ∀ i, i ∈ reg.free ↔ (0 ≤ i ∧ i < n) ∧ m.get i = none := by
  refine ⟨h.valid.complement.nodup, fun i => ?_⟩
  rw [h.valid.complement.mem, h.size, h.live_iff, Option.not_isSome_iff_eq_none]

end RequestRegistry.Represents

theorem registryNew_represents {size : Nat} (h0 : 0 < size) (h : size < 2 ^ 31) :
    (registryNew size).Represents (RequestMap.empty size) :=
  ⟨RequestRegistry.registryNew_valid h0 h, by rw [RequestRegistry.registryNew_eq h0 h],
    fun _ => RequestRegistry.liveSlot_registryNew h0 h⟩

/-! ## The simulation -/

section Simulation

variable {n : Nat} {reg : RequestRegistry} {m : RequestMap n}

theorem add_simulates (h : reg.Represents m) (request : Registration) :
    ∃ m', RequestMap.Step m (.add request) (.index (registryAdd reg request).1) m' ∧
      (registryAdd reg request).2.Represents m' := by
  by_cases ht : reg.top < 0
  · rw [RequestRegistry.registryAdd_of_full ht]
    exact ⟨m, .addFull (h.full_iff.mp ht), h⟩
  · obtain ⟨hv, hsize, hr, hdead, hslots⟩ := h.valid.add request ht
    rw [h.size] at hr
    have hnone : m.get (registryAdd reg request).1 = none := by
      rw [h.live_iff, Option.not_isSome_iff_eq_none] at hdead
      exact hdead
    refine ⟨m.insert (registryAdd reg request).1 request hr, .add hr hnone, hv,
      hsize.trans h.size, fun j => ?_⟩
    rw [hslots, h.slots]
    unfold RequestMap.insert
    by_cases hj : j = (registryAdd reg request).1
    · simp [hj]
    · simp [hj]

theorem get_simulates (h : reg.Represents m) (i : Int) :
    RequestMap.Step m (.get i) (.slot (registryGet reg i)) m := by
  by_cases hr : reg.inRange i = true
  · have hrange := h.inRange_iff.mp hr
    have hget := h.valid.get_eq (by rw [h.size]; exact hrange)
    rw [hget]
    cases hm : m.get i with
    | some request =>
      have hl := h.slots i
      rw [hm, Option.map_some] at hl
      have hs := (RequestRegistry.liveSlot_eq_some.mp hl).1
      rw [hget] at hs
      rw [Option.some.inj hs]
      exact .getLive hm
    | none =>
      have hl := h.slots i
      rw [hm, Option.map_none] at hl
      unfold RequestRegistry.liveSlot at hl
      rw [hget, Option.filter_some] at hl
      refine .getDead hrange hm ?_
      cases hf : (reg.slotAt i).future with
      | none => rfl
      | some f =>
        rw [hf] at hl
        exact absurd hl (by simp)
  · rw [RequestRegistry.registryGet_of_not_inRange (by simpa using hr)]
    exact .getOut fun hrange => hr (h.inRange_iff.mpr hrange)

theorem remove_simulates (h : reg.Represents m) (heap : Heap) (i : Int)
    (hpre : reg.Live i ∨ reg.inRange i = false) :
    ∃ reg' heap', registryRemove reg heap i = .ok (reg', heap') ∧
      RequestMap.Step m (.remove i) .done (m.erase i) ∧ reg'.Represents (m.erase i) := by
  rcases hpre with hl | hr
  · obtain ⟨slot, hslot⟩ := hl.exists_slot
    obtain ⟨reg', he, hv, hsize, hslots⟩ := h.valid.remove heap hslot
    refine ⟨reg', _, he, .remove (Or.inl (h.live_iff.mp hl)), hv, hsize.trans h.size, fun j => ?_⟩
    rw [hslots, h.slots]
    unfold RequestMap.erase
    by_cases hj : j = i
    · simp [hj]
    · simp [hj]
  · have hout : ¬ (0 ≤ i ∧ i < (n : Int)) := by
      intro hrange
      rw [h.inRange_iff.mpr hrange] at hr
      exact absurd hr (by simp)
    have hnone : m.get i = none := by
      rw [← Option.not_isSome_iff_eq_none]
      exact fun hs => hout (m.bounded i hs)
    refine ⟨reg, heap, RequestRegistry.remove_of_not_inRange hr, .remove (Or.inr hout),
      h.valid, h.size, fun j => ?_⟩
    rw [h.slots]
    unfold RequestMap.erase
    by_cases hj : j = i
    · simp [hj, hnone]
    · simp [hj]

/-- The registry is a refinement of the partial map. -/
theorem registry_refinement (n : Nat) :
    Lib.Refinement registryStep registryPre (RequestMap.Step (n := n))
      fun s m => s.1.Represents m where
  simulate s m i h hpre := by
    cases i with
    | add request =>
      obtain ⟨m', hstep, hrep⟩ := add_simulates h request
      exact ⟨_, _, m', rfl, hstep, hrep⟩
    | get i => exact ⟨_, _, m, rfl, get_simulates h i, h⟩
    | remove i =>
      obtain ⟨reg', heap', he, hstep, hrep⟩ := remove_simulates h s.2 i hpre
      refine ⟨_, (reg', heap'), m.erase i, ?_, hstep, hrep⟩
      simp only [registryStep, he]

end Simulation

/-- After every sequence of calls from a new registry: no call aborted, what was returned is
    a trace of the partial map, the entries of the stack are exactly the free indices, and
    `registry_add` fails exactly on a full map, without effect. -/
theorem registry_refines_map (size : Nat) (h0 : 1 ≤ size) (h : size ≤ 2 ^ 31 - 1) (heap : Heap)
    (inputs : List RegistryInput)
    (hpre : Lib.Allowed registryStep registryPre (registryNew size, heap) inputs) :
    ∃ outs reg heap' m,
      Lib.outputs registryStep (registryNew size, heap) inputs = .ok (outs, (reg, heap')) ∧
      Lib.Trace RequestMap.Step (RequestMap.empty size) inputs outs m ∧
      reg.Represents m ∧
      (Lib.occupied reg.availableIndices reg.top).Nodup ∧
      (∀ i, i ∈ Lib.occupied reg.availableIndices reg.top ↔
        (0 ≤ i ∧ i < size) ∧ m.get i = none) ∧
      ∀ request, ((registryAdd reg request).1 = -1 ↔ m.Full) ∧
        (m.Full → (registryAdd reg request).2 = reg) := by
  obtain ⟨outs, s, m, ho, ht, hrep⟩ := (registry_refinement size).run_trace
    (registryNew_represents (by omega) (by omega)) hpre
  refine ⟨outs, s.1, s.2, m, ho, ht, hrep, hrep.free_iff.1, hrep.free_iff.2, fun request => ?_⟩
  constructor
  · constructor
    · intro hneg
      rw [← hrep.full_iff]
      by_contra hfull
      obtain ⟨-, -, hr, -, -⟩ := hrep.valid.add request hfull
      omega
    · intro hfull
      rw [RequestRegistry.registryAdd_of_full (hrep.full_iff.mpr hfull)]
  · intro hfull
    rw [RequestRegistry.registryAdd_of_full (hrep.full_iff.mpr hfull)]

/-- Two requests share a registry of two slots, the first one is removed and its index used
    again. -/
theorem registry_refines_map_reuse :
    let request : FutureId → Registration := fun f =>
      ⟨f, none, .oneshot, .fsync, none, none, none, none⟩
    let inputs := [.add (request 0), .add (request 1), .remove 1, .get 1, .add (request 2),
      .get 0, .remove 7, .add (request 3)]
    ∃ outs reg heap' m,
      Lib.outputs registryStep (registryNew 2, ⟨[], []⟩) inputs = .ok (outs, (reg, heap')) ∧
      Lib.Trace RequestMap.Step (RequestMap.empty 2) inputs outs m ∧
      reg.Represents m ∧
      (Lib.occupied reg.availableIndices reg.top).Nodup ∧
      (∀ i, i ∈ Lib.occupied reg.availableIndices reg.top ↔ (0 ≤ i ∧ i < 2) ∧ m.get i = none) ∧
      ∀ request, ((registryAdd reg request).1 = -1 ↔ m.Full) ∧
        (m.Full → (registryAdd reg request).2 = reg) :=
  registry_refines_map 2 (by decide) (by decide) ⟨[], []⟩ _ (by decide)

end Uringio
