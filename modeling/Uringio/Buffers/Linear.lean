/-
  The first linear buffer of a payload from `get_or_create_linear_buffer`.

  Its sibling for vectors looks at the result of its helper and gives up; this function
  returns the payload all the same, with the pointers that `malloc` left in it.
-/
import Uringio.Buffers.Outcomes

namespace Uringio.Buffers

open Lib Lib.Program Lib.Ledger

/-- `_get_buffer`, which reads through a context that may not be set. -/
def inContext (context : Option (Option Payload)) (f : Option Payload → BufferProgram Payload) :
    BufferProgram Payload :=
  match context with
  | some payload => f payload
  | none => stop .null

/-- `payload->linear[0]`. -/
def Payload.First (payload : Payload) (b : Linear) : Prop :=
  ∃ linear, payload.linear = some (some linear) ∧ linear.entries[0]? = some (some b)

/-- The first buffer was obtained: it is the context's, or the buffer that the user's object
    exports, with the export held, or a block of `bufsize` bytes that was not held before. -/
def Obtained (context : Option (Option Payload)) (buffersObj : Option PyBuffers) (bufsize : Int)
    (s t : Store) (payload : Payload) : Prop :=
  match buffersObj with
  | some obj => ∃ b view views, obj.item 0 = some (some b) ∧
      payload.First ⟨.user b.buffer, b.len, views⟩ ∧ s.next ≤ view ∧ .view view ∈ t.held
  | none =>
    (context = some (some payload) ∧ payload.hasLinear = true) ∨
      ∃ id, payload.First ⟨.block id, toUint64 bufsize, none⟩ ∧ s.next ≤ id ∧ .mem id ∈ t.held

/-- The call gives a payload whose first buffer was obtained, or NULL with an exception and
    nothing left allocated. -/
def ValidOrRefused (m : BufferProgram Payload) (context : Option (Option Payload))
    (buffersObj : Option PyBuffers) (bufsize : Int) (s : Store) : Prop :=
  (∃ t, m s = .ok (.error (), t) ∧ t.rest = true ∧ t.held = s.held) ∨
    ∃ p t, m s = .ok (.ok p, t) ∧ Obtained context buffersObj bufsize s t p

/-- The context's payload serves a request without buffers of its own. -/
def Serves (context : Option Payload) (buffersObj : Option PyBuffers) : Prop :=
  buffersObj = none ∧ ∃ p, context = some p ∧ p.payloadType = some .payloadLinear ∧
    p.hasLinear = true

/-- The helper gets one buffer. -/
def HelperGranted (grants : Nat → Bool) (buffersObj : Option PyBuffers) (bufsize : Int)
    (n : Nat) : Prop :=
  match buffersObj with
  | some obj => Granted grants n (arraySize sizeofPyBuffer 1) ∧
      Granted grants (n + 1) (arraySize sizeofLinearBuffer 1) ∧ (obj.item 0).join.isSome = true
  | none => Granted grants n (arraySize sizeofLinearBuffer 1) ∧
      Granted grants (n + 1) (toUint64 bufsize)

section Linear

variable {grants : Nat → Bool} {context : Option Payload} {buffersObj : Option PyBuffers}
  {obj : PyBuffers} {bufsize : Int} {n : Nat} {held : Multiset Resource} {err : Bool}
  {payload : Payload}

theorem exported_one {item : Nat → Option (Option LinearBuffer)} :
    Exported item 1 ↔ (item 0).join.isSome = true := by
  constructor
  · intro h
    exact h 0 Nat.one_pos
  · intro h j hj
    obtain rfl : j = 0 := by omega
    exact h

theorem dataGranted_one {size : Nat} : DataGranted grants size 1 n ↔ Granted grants n size := by
  constructor
  · intro h
    exact h 0 Nat.one_pos
  · intro h j hj
    obtain rfl : j = 0 := by omega
    exact h

theorem contextPayload_of_serves (h : Serves context buffersObj) :
    ∃ p, context = some p ∧ p.hasLinear = true ∧
      contextPayload context buffersObj .payloadLinear Payload.hasLinear = some p := by
  obtain ⟨rfl, p, rfl, htype, hlinear⟩ := h
  refine ⟨p, rfl, hlinear, ?_⟩
  unfold contextPayload
  rw [Option.filter_some, if_pos (by simp [htype, hlinear])]

theorem contextPayload_of_not_serves (h : ¬ Serves context buffersObj) :
    contextPayload context buffersObj .payloadLinear Payload.hasLinear = none := by
  unfold contextPayload
  split
  · rw [Option.filter_eq_none_iff]
    intro p hp hfits
    simp only [Bool.and_eq_true, beq_iff_eq] at hfits
    exact h ⟨rfl, p, hp, hfits.1, hfits.2⟩
  · rfl

/-- The payload after its helper. -/
theorem getOrCreateLinearBuffer_granted (h : ¬ Serves context buffersObj)
    (hblock : grants n = true) :
    getOrCreateLinearBuffer grants context buffersObj bufsize ⟨n, held, err⟩ =
      ((attempt (match buffersObj with
        | some obj => serializeLinearBuffers grants obj 1 (.unassigned n)
        | none => createLinearBuffers grants 1 bufsize (.unassigned n)) :
          BufferProgram (Option Payload)) >>= fun built =>
        return (built.getD (.unassigned n)).forRequest buffersObj 1 .payloadLinear)
        ⟨n + 1, .raw n ::ₘ held, err⟩ := by
  unfold getOrCreateLinearBuffer
  rw [contextPayload_of_not_serves h]
  exact bind_returned (malloc_granted hblock)

theorem getOrCreateLinearBuffer_serves (h : Serves context buffersObj) :
    ∃ p, context = some p ∧ p.hasLinear = true ∧
      getOrCreateLinearBuffer grants context buffersObj bufsize ⟨n, held, err⟩ =
        .ok (.ok p, ⟨n, held, err⟩) := by
  obtain ⟨p, hp, hlinear, hctx⟩ := contextPayload_of_serves h
  refine ⟨p, hp, hlinear, ?_⟩
  unfold getOrCreateLinearBuffer
  rw [hctx]
  rfl

theorem getOrCreateLinearBuffer_refused (h : ¬ Serves context buffersObj)
    (hblock : grants n = false) :
    getOrCreateLinearBuffer grants context buffersObj bufsize ⟨n, held, err⟩ =
      .ok (.error (), ⟨n + 1, held, err⟩) := by
  unfold getOrCreateLinearBuffer
  rw [contextPayload_of_not_serves h]
  exact bind_returned (malloc_refused hblock)

/-- A helper that failed leaves the payload with nothing assigned. -/
theorem getOrCreateLinearBuffer_unassigned (h : ¬ Serves context buffersObj)
    (hblock : grants n = true) (hhelper : ¬ HelperGranted grants buffersObj bufsize (n + 1)) :
    ∃ m, getOrCreateLinearBuffer grants context buffersObj bufsize ⟨n, held, err⟩ =
      .ok (.ok ((Payload.unassigned n).forRequest buffersObj 1 .payloadLinear),
        ⟨m, .raw n ::ₘ held, true⟩) := by
  rw [getOrCreateLinearBuffer_granted h hblock]
  cases buffersObj with
  | some obj =>
    obtain ⟨m, hm⟩ : ∃ m, serializeLinearBuffers grants obj 1 (.unassigned n)
        ⟨n + 1, .raw n ::ₘ held, err⟩ = .ok (.error (), ⟨m, .raw n ::ₘ held, true⟩) :=
      serializeLinearBuffers_refused fun hviews harray hexp =>
        hhelper ⟨hviews, harray, exported_one.mp hexp⟩
    exact ⟨m, bind_returned (attempt_failed hm)⟩
  | none =>
    obtain ⟨m, hm⟩ : ∃ m, createLinearBuffers grants 1 bufsize (.unassigned n)
        ⟨n + 1, .raw n ::ₘ held, err⟩ = .ok (.error (), ⟨m, .raw n ::ₘ held, true⟩) :=
      createLinearBuffers_refused fun harray hdata =>
        hhelper ⟨harray, dataGranted_one.mp hdata⟩
    exact ⟨m, bind_returned (attempt_failed hm)⟩

/-- A helper that succeeded has obtained the first buffer. -/
theorem getOrCreateLinearBuffer_obtained (h : ¬ Serves context buffersObj)
    (hblock : grants n = true) (hhelper : HelperGranted grants buffersObj bufsize (n + 1)) :
    ∃ p t, getOrCreateLinearBuffer grants context buffersObj bufsize ⟨n, held, err⟩ =
      .ok (.ok p, t) ∧ Obtained (some context) buffersObj bufsize ⟨n, held, err⟩ t p := by
  rw [getOrCreateLinearBuffer_granted h hblock]
  cases buffersObj with
  | some obj =>
    obtain ⟨hviews, harray, hexp⟩ := hhelper
    obtain ⟨got, hgot⟩ := Option.isSome_iff_exists.mp
      ((taken_exports_isSome_iff (n := n + 3)).mpr (exported_one.mpr hexp))
    have hbuilt : serializeLinearBuffers grants obj 1 (.unassigned n)
        ⟨n + 1, .raw n ::ₘ held, err⟩ = _ :=
      serializeLinearBuffers_built Int.one_pos hviews harray hgot
    refine ⟨_, _, bind_returned (attempt_returned hbuilt), ?_⟩
    obtain ⟨b, hb, hget⟩ := taken_get hgot Nat.one_pos
    obtain ⟨x, rest, rfl⟩ := List.exists_cons_of_ne_nil (ne_nil_of_taken hgot Int.one_pos)
    obtain rfl : x = (n + 3, b) := by simpa using hget
    have hitem : obj.item 0 = some (some b) := Option.join_eq_some_iff.mp (by simpa using hb)
    exact ⟨b, n + 3, some _, hitem, ⟨_, rfl, rfl⟩, by simp, by simp⟩
  | none =>
    obtain ⟨harray, hdata⟩ := hhelper
    obtain ⟨got, hgot⟩ := Option.isSome_iff_exists.mp
      (taken_data_isSome_iff.mpr (dataGranted_one.mpr hdata))
    have hbuilt : createLinearBuffers grants 1 bufsize (.unassigned n)
        ⟨n + 1, .raw n ::ₘ held, err⟩ = _ :=
      createLinearBuffers_built Int.one_pos harray hgot
    refine ⟨_, _, bind_returned (attempt_returned hbuilt), .inr ?_⟩
    obtain ⟨b, -, hget⟩ := taken_get hgot Nat.one_pos
    obtain ⟨x, rest, rfl⟩ := List.exists_cons_of_ne_nil (ne_nil_of_taken hgot Int.one_pos)
    obtain rfl : x = (n + 2, b) := by simpa using hget
    exact ⟨n + 2, ⟨_, rfl, rfl⟩, by simp, by simp⟩

/-- Nothing was obtained for a payload without linear buffers. -/
theorem not_obtained_of_unassigned {c : Option (Option Payload)} {s t : Store}
    (h : payload.linear = none) : ¬ Obtained c buffersObj bufsize s t payload := by
  have hfirst : ∀ b, ¬ payload.First b := by
    rintro b ⟨linear, hlinear, -⟩
    exact absurd (h.symm.trans hlinear) (by simp)
  cases buffersObj with
  | some obj =>
    rintro ⟨b, view, views, -, hf, -, -⟩
    exact hfirst _ hf
  | none =>
    rintro (⟨-, hl⟩ | ⟨id, hf, -⟩)
    · unfold Payload.hasLinear at hl
      rw [h] at hl
      exact absurd hl (by simp)
    · exact hfirst _ hf

/-- Where the helper fails, the call returns a payload without a buffer. -/
theorem not_valid_of_unassigned (h : ¬ Serves context buffersObj) (hblock : grants n = true)
    (hhelper : ¬ HelperGranted grants buffersObj bufsize (n + 1)) :
    ¬ ValidOrRefused (inContext (some context) fun payload =>
      getOrCreateLinearBuffer grants payload buffersObj bufsize) (some context) buffersObj bufsize
      ⟨n, held, err⟩ := by
  obtain ⟨m, hrun⟩ : ∃ m, getOrCreateLinearBuffer grants context buffersObj bufsize
      ⟨n, held, err⟩ = .ok (.ok _, ⟨m, _, true⟩) :=
    getOrCreateLinearBuffer_unassigned h hblock hhelper
  rintro (⟨t, ht, -⟩ | ⟨p, t, ht, hobtained⟩)
  · exact absurd (hrun.symm.trans ht) (by simp)
  · obtain ⟨hp, rfl⟩ := Prod.mk.inj (Except.ok.inj (hrun.symm.trans ht))
    obtain rfl := Except.ok.inj hp
    exact not_obtained_of_unassigned rfl hobtained

end Linear

/-- `get_or_create_linear_buffer` gives a valid buffer or refuses exactly where the context is
    set and either serves the request or there is memory for the payload and the helper gets
    its buffer. -/
theorem linear_valid_or_refused_iff (grants : Nat → Bool) (context : Option (Option Payload))
    (buffersObj : Option PyBuffers) (bufsize : Int) (n : Nat) (held : Multiset Resource) :
    ValidOrRefused (inContext context fun payload =>
        getOrCreateLinearBuffer grants payload buffersObj bufsize) context buffersObj bufsize
        ⟨n, held, false⟩ ↔
      ∃ payload, context = some payload ∧
        (Serves payload buffersObj ∨
          grants n = true ∧ HelperGranted grants buffersObj bufsize (n + 1)) := by
  cases context with
  | none =>
    refine iff_of_false ?_ (by simp)
    rintro (⟨t, ht, -⟩ | ⟨p, t, ht, -⟩)
    · exact absurd ht (by simp [inContext, stop])
    · exact absurd ht (by simp [inContext, stop])
  | some context =>
    have hctx : (∃ payload, some context = some payload ∧ (Serves payload buffersObj ∨
        grants n = true ∧ HelperGranted grants buffersObj bufsize (n + 1))) ↔
        (Serves context buffersObj ∨
          grants n = true ∧ HelperGranted grants buffersObj bufsize (n + 1)) := by simp
    rw [hctx]
    by_cases hserves : Serves context buffersObj
    · obtain ⟨p, hp, hlinear, hrun⟩ : ∃ p, context = some p ∧ p.hasLinear = true ∧
          getOrCreateLinearBuffer grants context buffersObj bufsize ⟨n, held, false⟩ = _ :=
        getOrCreateLinearBuffer_serves hserves
      refine iff_of_true (.inr ⟨p, _, hrun, ?_⟩) (.inl hserves)
      obtain ⟨rfl, -⟩ := hserves
      exact .inl ⟨congrArg some hp, hlinear⟩
    rw [or_iff_right hserves]
    cases hblock : grants n with
    | false =>
      refine iff_of_false ?_ (by simp)
      have hrun : getOrCreateLinearBuffer grants context buffersObj bufsize
          ⟨n, held, false⟩ = _ := getOrCreateLinearBuffer_refused hserves hblock
      rintro (⟨t, ht, hrest, -⟩ | ⟨p, t, ht, -⟩)
      · obtain ⟨-, rfl⟩ := Prod.mk.inj (Except.ok.inj (hrun.symm.trans ht))
        exact absurd hrest (by simp)
      · exact absurd (hrun.symm.trans ht) (by simp)
    | true =>
      by_cases hhelper : HelperGranted grants buffersObj bufsize (n + 1)
      · exact iff_of_true (.inr (getOrCreateLinearBuffer_obtained hserves hblock hhelper))
          ⟨rfl, hhelper⟩
      · exact iff_of_false (not_valid_of_unassigned hserves hblock hhelper) (by simp [hhelper])

/-- No context, and a size below zero. -/
theorem negative_size_not_refused :
    ¬ ValidOrRefused (inContext (some none) fun payload =>
      getOrCreateLinearBuffer (fun _ => true) payload none (-1)) (some none) none (-1)
      ⟨0, 0, false⟩ := by
  refine not_valid_of_unassigned ?_ rfl ?_
  · rintro ⟨-, p, hp, -⟩
    exact absurd hp (by simp)
  · rintro ⟨-, hgranted⟩
    exact absurd hgranted (by decide)

end Uringio.Buffers
