/-
  The payloads of requests: what a function acquires, one release gives back.

  The exports of a vector are counted by `amount` and its iovecs by `nr_vecs`. They agree
  where the exports were acquired one for each iovec, and `create_buffer_payload_from_pybuffer`
  has one export for all.
-/
import Uringio.Buffers.Release

namespace Uringio.Buffers

open Lib Lib.Program Lib.Ledger

/-- One call of `free_buffer_payload` leaves exactly what was held before. -/
def ReleasedOnce (payload : Payload) (force : Bool) (t : Store) (before : Multiset Resource) :
    Prop :=
  freeBufferPayload payload force t = .ok (.ok (), ⟨t.next, before, t.rest⟩)

/-- The iovecs of the payload are the buffers of the objects, in order, and all of them where
    their number is an `int`. -/
def Payload.Vectors (payload : Payload) (objects : List (Option LinearBuffer)) : Prop :=
  ∃ vector iovecs, payload.vector = some (some vector) ∧ vector.iovecs = some (some iovecs) ∧
    vector.nrVecs = some iovecs.entries.length ∧
    (objects.length < 2 ^ 31 → iovecs.entries.length = objects.length) ∧
    ∀ i < iovecs.entries.length, ∃ b, objects[i]? = some (some b) ∧
      iovecs.entries[i]? = some (some ⟨.user b.buffer, b.len⟩)

section Vectored

variable {grants : Nat → Bool} {n : Nat} {held : Multiset Resource} {err : Bool}

theorem neg_le_toInt (x : Nat) : -2 ^ 31 ≤ toInt x := by
  unfold toInt
  split <;> omega

theorem toUnsigned_of_nonneg {x : Nat} (h : 0 ≤ toInt x) :
    toUnsigned (toInt x) = (toInt x).toNat := by
  have hlt := toInt_lt x
  unfold toUnsigned
  omega

theorem toInt_toUnsigned {x : Nat} (h : 0 ≤ toInt x) :
    toInt (toUnsigned (toInt x)) = toInt x := by
  have hlt := toInt_lt x
  rw [toUnsigned_of_nonneg h, toInt_of_lt (by omega)]
  omega

/-- The entries of the iovec array are the exports that were acquired. -/
theorem vectors_of_taken {payload : Payload} {views vec iovecs m : Nat}
    {objects : List (Option LinearBuffer)} {got : List (Nat × LinearBuffer)}
    (hnonneg : 0 ≤ toInt objects.length)
    (hvector : payload.vector =
      some (some (userVector views vec iovecs (toInt objects.length) got)))
    (hgot : taken (fun i _ => (objects[i]?).join) (toInt objects.length).toNat 0 m = some got) :
    payload.Vectors objects := by
  have hlen := taken_length hgot
  refine ⟨_, _, hvector, rfl, ?_, fun hsmall => ?_, fun i hi => ?_⟩
  · show some (toUnsigned (toInt objects.length)) = some (List.length (got.map _))
    rw [toUnsigned_of_nonneg hnonneg, List.length_map, hlen]
  · show List.length (got.map _) = objects.length
    rw [List.length_map, hlen, toInt_of_lt hsmall, Int.toNat_natCast]
  · change i < List.length (got.map _) at hi
    rw [List.length_map, hlen] at hi
    obtain ⟨b, hb, hget⟩ := taken_get hgot hi
    refine ⟨b, ?_, ?_⟩
    · have hjoin : (objects[i]?).join = some b := by simpa using hb
      exact Option.join_eq_some_iff.mp hjoin
    · show (got.map fun x => some (userVec x))[i]? = _
      rw [List.getElem?_map, hget]
      rfl

/-- `get_or_create_vectored_buffer` of a list of objects, wherever an export or an allocation
    fails. -/
theorem vectoredBuffer_balanced (grants : Nat → Bool) (context : Option Payload)
    (objects : List (Option LinearBuffer)) (s : Store) :
    (∃ t, getOrCreateVectoredBuffer grants context (some (.ofList objects)) s =
        .ok (.error (), t) ∧ t.held = s.held) ∨
      ∃ p t, getOrCreateVectoredBuffer grants context (some (.ofList objects)) s =
        .ok (.ok p, t) ∧ p.Vectors objects ∧ ReleasedOnce p false t s.held := by
  obtain ⟨n, held, err⟩ := s
  cases hblock : grants n with
  | false => exact .inl ⟨_, bind_returned (malloc_refused hblock), rfl⟩
  | true =>
    by_cases hall : Granted grants (n + 1) (arraySize sizeofPyBuffer (toInt objects.length)) ∧
        Granted grants (n + 2) sizeofVectoredBuffer ∧
        Granted grants (n + 3) (arraySize sizeofIovec (toInt objects.length)) ∧
        Exported (fun i => objects[i]?) (toInt objects.length).toNat
    · obtain ⟨hviews, hvec, hiovecs, hexp⟩ := hall
      have hnonneg : 0 ≤ toInt objects.length := by
        by_contra hneg
        exact not_granted_of_neg (.inr (.inr rfl)) (neg_le_toInt _) (by omega) hviews
      obtain ⟨got, hgot⟩ := Option.isSome_iff_exists.mp
        ((taken_exports_isSome_iff (n := n + 4)).mpr hexp)
      have hbuilt : serializeVectoredBuffers grants (.ofList objects) (.zeroed n)
          ⟨n + 1, .raw n ::ₘ held, err⟩ = _ :=
        serializeVectoredBuffers_built rfl hviews hvec hiovecs hgot
      refine .inr ⟨_, _, (bind_returned (malloc_granted hblock)).trans
        ((bind_returned (attempt_returned hbuilt)).trans (bind_returned rfl)), ?_, ?_⟩
      · exact vectors_of_taken hnonneg rfl hgot
      · have hamount : got.length = (toInt (toUnsigned (toInt objects.length))).toNat := by
          rw [toInt_toUnsigned hnonneg, taken_length hgot]
        refine freeBufferPayload_held rfl (.inl rfl) rfl rfl rfl ?_
        rw [cons_rotate]
        exact freeVector_user rfl rfl hamount
    · obtain ⟨m, hrefused⟩ : ∃ m, serializeVectoredBuffers grants (.ofList objects) (.zeroed n)
          ⟨n + 1, .raw n ::ₘ held, err⟩ = .ok (.error (), ⟨m, .raw n ::ₘ held, true⟩) := by
        refine serializeVectoredBuffers_refused fun fast hfast hviews hvec hiovecs hexp => ?_
        obtain rfl : objects = fast := Option.some.inj hfast
        exact hall ⟨hviews, hvec, hiovecs, hexp⟩
      refine .inl ⟨_, (bind_returned (malloc_granted hblock)).trans
        ((bind_returned (attempt_failed hrefused)).trans (bind_returned free_held)), rfl⟩

end Vectored

/-! ## The other payloads of a request -/

section Others

variable {grants : Nat → Bool} {s t : Store} {payload : Payload}

/-- `create_buffer_payload_from_pybuffer` takes over the export of its argument, whatever the
    number of iovecs in it. -/
theorem pybuffer_balanced {id len : Nat} {buf : Ptr} {iovecs : List Iovec}
    {held : Multiset Resource} (hs : s.held = .view id ::ₘ held)
    (hr : createBufferPayloadFromPybuffer grants ⟨some id, buf, len⟩ iovecs s =
      .ok (.ok payload, t)) : ReleasedOnce payload false t held := by
  obtain ⟨n, _, err⟩ := s
  obtain rfl := hs
  have hr := malloc_of_returned (.after fun _ => .null) hr
  have hr := pyMemMalloc_of_returned (.after fun _ => .after fun _ => .null) hr
  have hr := pyMemMalloc_of_returned (.after fun _ => .after fun _ => .after fun _ => .null) hr
  have hr := pyMemMalloc_of_returned
    (.after fun _ => .after fun _ => .after fun _ => .after fun _ => .null) hr
  obtain ⟨hp, rfl⟩ := Prod.mk.inj (Except.ok.inj hr)
  obtain rfl := Except.ok.inj hp
  have hrow : Resource.mem (n + 3) ::ₘ .mem (n + 2) ::ₘ .mem (n + 1) ::ₘ .raw n ::ₘ .view id ::ₘ
      held = .view id ::ₘ .mem (n + 3) ::ₘ .mem (n + 2) ::ₘ .mem (n + 1) ::ₘ .raw n ::ₘ held := by
    rw [cons_rotate (.mem (n + 1)), cons_rotate (.mem (n + 3))]
  unfold ReleasedOnce
  rw [hrow]
  refine freeBufferPayload_held rfl (.inl rfl) rfl rfl rfl ?_
  refine (bind_returned (freeVectorData_user rfl)).trans ((bind_returned rfl).trans ?_)
  refine (bind_returned (freeViews_held (n + 3) [(id, ⟨buf, len⟩)] rfl rfl)).trans ?_
  refine (bind_returned rfl).trans ?_
  exact (bind_returned pyMemFree_held).trans pyMemFree_held

/-- `create_buffer_payload_from_data`. -/
theorem data_balanced {data : Option LinearBuffer}
    (hr : createBufferPayloadFromData grants data s = .ok (.ok payload, t)) :
    ReleasedOnce payload false t s.held := by
  obtain ⟨n, held, err⟩ := s
  have hr := malloc_of_returned (.after fun _ => .null) hr
  have hr := pyMemMalloc_of_returned (.after fun _ => .after fun _ => .null) hr
  have hr := pyMemMalloc_of_returned (.after fun _ => .after fun _ => .after fun _ => .null) hr
  obtain ⟨got, hgot, hr⟩ := exports_of_returned
    (fun _ => .after fun _ => .after fun _ => .after fun _ => .after fun _ => .null) hr
  have hne := ne_nil_of_taken hgot Int.one_pos
  obtain ⟨-, hr⟩ := setViews_of_returned hr
  obtain ⟨hp, rfl⟩ := Prod.mk.inj (Except.ok.inj hr)
  obtain rfl := Except.ok.inj hp
  refine freeBufferPayload_held rfl (.inl rfl) rfl rfl ?_ rfl
  exact freeLinear_user rfl rfl (taken_length hgot) hne

/-- `get_or_create_linear_buffer` outside any context; its helper has succeeded where the
    linear buffers of the payload are assigned. -/
theorem linearBuffer_balanced {buffersObj : Option PyBuffers} {bufsize : Int}
    (hr : getOrCreateLinearBuffer grants none buffersObj bufsize s = .ok (.ok payload, t))
    (hlinear : payload.linear ≠ none) : ReleasedOnce payload false t s.held := by
  obtain ⟨n, held, err⟩ := s
  cases buffersObj with
  | none =>
    have hr := malloc_of_returned .null hr
    by_cases hall : Granted grants (n + 1) (arraySize sizeofLinearBuffer 1) ∧
        DataGranted grants (toUint64 bufsize) 1 (n + 2)
    · obtain ⟨got, hgot⟩ := Option.isSome_iff_exists.mp (taken_data_isSome_iff.mpr hall.2)
      have hne := ne_nil_of_taken hgot Int.one_pos
      have hbuilt : createLinearBuffers grants 1 bufsize (.unassigned n)
          ⟨n + 1, .raw n ::ₘ held, err⟩ = _ :=
        createLinearBuffers_built Int.one_pos hall.1 hgot
      obtain ⟨hp, rfl⟩ := Prod.mk.inj (Except.ok.inj
        ((bind_returned (attempt_returned hbuilt)).symm.trans hr))
      obtain rfl := Except.ok.inj hp
      refine freeBufferPayload_held rfl (.inl rfl) rfl rfl ?_ rfl
      exact freeLinear_runtime rfl rfl (taken_length hgot) hne
    · obtain ⟨m, hrefused⟩ : ∃ m, createLinearBuffers grants 1 bufsize (.unassigned n)
          ⟨n + 1, .raw n ::ₘ held, err⟩ = .ok (.error (), ⟨m, .raw n ::ₘ held, true⟩) :=
        createLinearBuffers_refused fun harray hdata => hall ⟨harray, hdata⟩
      obtain ⟨hp, rfl⟩ := Prod.mk.inj (Except.ok.inj
        ((bind_returned (attempt_failed hrefused)).symm.trans hr))
      obtain rfl := Except.ok.inj hp
      exact absurd rfl hlinear
  | some obj =>
    have hr := malloc_of_returned .null hr
    by_cases hall : Granted grants (n + 1) (arraySize sizeofPyBuffer 1) ∧
        Granted grants (n + 2) (arraySize sizeofLinearBuffer 1) ∧ Exported obj.item 1
    · obtain ⟨got, hgot⟩ := Option.isSome_iff_exists.mp
        ((taken_exports_isSome_iff (n := n + 3)).mpr hall.2.2)
      have hne := ne_nil_of_taken hgot Int.one_pos
      have hbuilt : serializeLinearBuffers grants obj 1 (.unassigned n)
          ⟨n + 1, .raw n ::ₘ held, err⟩ = _ :=
        serializeLinearBuffers_built Int.one_pos hall.1 hall.2.1 hgot
      obtain ⟨hp, rfl⟩ := Prod.mk.inj (Except.ok.inj
        ((bind_returned (attempt_returned hbuilt)).symm.trans hr))
      obtain rfl := Except.ok.inj hp
      refine freeBufferPayload_held rfl (.inl rfl) rfl rfl ?_ rfl
      rw [Multiset.cons_swap]
      exact freeLinear_user rfl rfl (taken_length hgot) hne
    · obtain ⟨m, hrefused⟩ : ∃ m, serializeLinearBuffers grants obj 1 (.unassigned n)
          ⟨n + 1, .raw n ::ₘ held, err⟩ = .ok (.error (), ⟨m, .raw n ::ₘ held, true⟩) :=
        serializeLinearBuffers_refused fun hviews harray hexp => hall ⟨hviews, harray, hexp⟩
      obtain ⟨hp, rfl⟩ := Prod.mk.inj (Except.ok.inj
        ((bind_returned (attempt_failed hrefused)).symm.trans hr))
      obtain rfl := Except.ok.inj hp
      exact absurd rfl hlinear

end Others

/-- The payloads of requests balance: a vector of a list of objects is built with everything
    that it acquired, or nothing stays acquired; and one release of a payload leaves what was
    held before the function that built it. -/
theorem request_payloads_balanced (grants : Nat → Bool) (s : Store) :
    (∀ context objects,
      (∃ t, getOrCreateVectoredBuffer grants context (some (.ofList objects)) s =
          .ok (.error (), t) ∧ t.held = s.held) ∨
        ∃ p t, getOrCreateVectoredBuffer grants context (some (.ofList objects)) s =
          .ok (.ok p, t) ∧ p.Vectors objects ∧ ReleasedOnce p false t s.held) ∧
    (∀ id buf len iovecs held p t, s.held = .view id ::ₘ held →
      createBufferPayloadFromPybuffer grants ⟨some id, buf, len⟩ iovecs s = .ok (.ok p, t) →
        ReleasedOnce p false t held) ∧
    (∀ data p t, createBufferPayloadFromData grants data s = .ok (.ok p, t) →
      ReleasedOnce p false t s.held) ∧
    ∀ buffersObj bufsize p t,
      getOrCreateLinearBuffer grants none buffersObj bufsize s = .ok (.ok p, t) →
        p.linear ≠ none → ReleasedOnce p false t s.held :=
  ⟨fun context objects => vectoredBuffer_balanced grants context objects s,
    fun _ _ _ _ _ _ _ hs hr => pybuffer_balanced hs hr, fun _ _ _ hr => data_balanced hr,
    fun _ _ _ _ hr hlinear => linearBuffer_balanced hr hlinear⟩

end Uringio.Buffers
