/-
  The release of the payload of a context.

  PROVIDED and BUF_RING have the linear buffers alone. The combined shape has two structures
  over the same data: `make_buffers` never assigns the views of its vector, NORMAL_BUF builds
  over what its inner `switch` has built, and entering a FIXED context drops the vector.
-/
import Uringio.Buffers.Balance

namespace Uringio.Buffers

open Lib Lib.Program Lib.Ledger

/-- The payload after `BufferModeCtx_enter` in FIXED. -/
def Payload.entered (payload : Payload) : Payload :=
  { payload with vector := some none, payloadType := some .payloadLinear }

/-- The release of the payload leaves what was held before it was built; in FIXED also the
    release of the payload that the context was entered with. -/
def ReleasedWhole (payload : Payload) (t : Store) (before : Multiset Resource) : Prop :=
  ReleasedOnce payload true t before ∧
    (payload.mode = some .fixed → ReleasedOnce payload.entered true t before)

section Build

variable {grants : Nat → Bool} {m : BufferMetadata} {mode : BufferMode}
  {payloadType : PayloadType} {buffersObj : Option PyBuffers} {payload p : Payload} {n : Nat}
  {held : Multiset Resource} {err : Bool} {s t : Store}

/-! ## What the builders return -/

theorem assigned_of_returned {build : BufferProgram Payload} {g : Payload → Payload}
    (hr : (build >>= fun a => (pure (g a) : BufferProgram Payload)) s = .ok (.ok p, t)) :
    ∃ a, build s = .ok (.ok a, t) ∧ p = g a := by
  rcases bind_eq_ok hr with ⟨x, t', -, hx⟩ | ⟨a, t', hbuild, hret⟩
  · exact absurd hx (by simp)
  · obtain ⟨hp, rfl⟩ := Prod.mk.inj (Except.ok.inj hret)
    exact ⟨a, hbuild, (Except.ok.inj hp).symm⟩

/-- The combined shape of a user's buffers. -/
def UserCombined (n : Nat) (m : BufferMetadata) (obj : PyBuffers) (payload p : Payload)
    (held : Multiset Resource) (err : Bool) (t : Store) : Prop :=
  ∃ got, taken (fun i _ => (obj.item i).join) m.amount.toNat 0 (n + 4) = some got ∧ got ≠ [] ∧
    p = payload.serialized n m.amount got ∧
    t = ⟨n + 4 + m.amount.toNat, named .view got + .mem (n + 3) ::ₘ .mem (n + 2) ::ₘ
      .mem (n + 1) ::ₘ .mem n ::ₘ held, err⟩

/-- The combined shape of the library's own buffers. -/
def RuntimeCombined (grants : Nat → Bool) (n : Nat) (m : BufferMetadata) (payload p : Payload)
    (held : Multiset Resource) (err : Bool) (t : Store) : Prop :=
  ∃ got, taken (dataBlock grants (toUint64 m.bufsize)) m.amount.toNat 0 (n + 3) = some got ∧
    p = payload.made n m.amount (toUint64 m.bufsize) got ∧
    t = ⟨n + 3 + m.amount.toNat, named .mem got + .mem (n + 2) ::ₘ .mem (n + 1) ::ₘ .mem n ::ₘ
      held, err⟩

theorem combinedByOrigin_returned
    (hr : combinedByOrigin grants m buffersObj payload ⟨n, held, err⟩ = .ok (.ok p, t)) :
    (m.payloadOrigin = .payloadUser ∧ ∃ obj, buffersObj = some obj ∧
        UserCombined n m obj payload p held err t) ∨
      (m.payloadOrigin = .payloadRuntime ∧ RuntimeCombined grants n m payload p held err t) := by
  unfold combinedByOrigin at hr
  cases horigin : m.payloadOrigin with
  | payloadRuntime =>
    rw [horigin] at hr
    exact .inr ⟨rfl, makeBuffers_returned hr⟩
  | payloadUser =>
    rw [horigin] at hr
    cases buffersObj with
    | none => exact absurd hr (by simp [stop])
    | some obj => exact .inl ⟨rfl, obj, rfl, serializeBuffers_returned hr⟩
  | originNoVal =>
    rw [horigin] at hr
    exact absurd hr (by simp [returnNull, fail])

/-- The linear buffers alone, of either origin. -/
theorem linearByOrigin_returned
    (hr : linearByOrigin grants m buffersObj payload ⟨n, held, err⟩ = .ok (.ok p, t)) :
    (m.payloadOrigin = .payloadUser ∧ ∃ obj got, buffersObj = some obj ∧
        taken (fun i _ => (obj.item i).join) m.amount.toNat 0 (n + 2) = some got ∧ got ≠ [] ∧
        p = payload.withLinear
          (withViews (n + 1) (got.map userLinear) (some (userViews n got))) ∧
        t = ⟨n + 2 + m.amount.toNat,
          named .view got + .mem (n + 1) ::ₘ .mem n ::ₘ held, err⟩) ∨
      (m.payloadOrigin = .payloadRuntime ∧ ∃ got,
        taken (dataBlock grants (toUint64 m.bufsize)) m.amount.toNat 0 (n + 1) = some got ∧
        got ≠ [] ∧
        p = payload.withLinear
          (withViews n (got.map (runtimeLinear (toUint64 m.bufsize))) none) ∧
        t = ⟨n + 1 + m.amount.toNat, named .mem got + .mem n ::ₘ held, err⟩) := by
  unfold linearByOrigin at hr
  cases horigin : m.payloadOrigin with
  | payloadRuntime =>
    rw [horigin] at hr
    exact .inr ⟨rfl, createLinearBuffers_returned hr⟩
  | payloadUser =>
    rw [horigin] at hr
    cases buffersObj with
    | none => exact absurd hr (by simp [stop])
    | some obj =>
      obtain ⟨got, hgot, hne, hp, ht⟩ := serializeLinearBuffers_returned hr
      exact .inl ⟨rfl, obj, got, rfl, hgot, hne, hp, ht⟩
  | originNoVal =>
    rw [horigin] at hr
    exact absurd hr (Fails.null _ _ _)

/-- A builder assigns neither block nor mode of the payload, and holds more than was held
    before it. -/
def Acquires (payload p : Payload) (held : Multiset Resource) (err : Bool) (t : Store) : Prop :=
  p.block = payload.block ∧ p.mode = payload.mode ∧ ∃ n' extra, extra ≠ 0 ∧ t = ⟨n', extra + held, err⟩

theorem acquires_row {p : Payload} {n' : Nat} {got : Multiset Resource} (row : List Resource)
    (hblock : p.block = payload.block) (hmode : p.mode = payload.mode) (hrow : row ≠ [])
    (ht : t = ⟨n', got + row.foldr (· ::ₘ ·) held, err⟩) : Acquires payload p held err t := by
  have hfold : row.foldr (· ::ₘ ·) held = ↑row + held := by
    clear ht hrow hmode
    induction row with
    | nil => exact (Multiset.zero_add held).symm
    | cons r row ih => rw [List.foldr_cons, ih, ← Multiset.cons_coe, Multiset.cons_add]
  refine ⟨hblock, hmode, n', got + ↑row, fun hzero => hrow ?_, ?_⟩
  · have hcard := congrArg Multiset.card hzero
    rw [Multiset.card_add, Multiset.card_zero] at hcard
    exact List.length_eq_zero_iff.mp (Nat.eq_zero_of_add_eq_zero_left hcard)
  · rw [ht, hfold, Multiset.add_assoc]

theorem linearByOrigin_acquires
    (hr : linearByOrigin grants m buffersObj payload ⟨n, held, err⟩ = .ok (.ok p, t)) :
    Acquires payload p held err t := by
  rcases linearByOrigin_returned hr with
    ⟨-, obj, got, -, -, -, rfl, rfl⟩ | ⟨-, got, -, -, rfl, rfl⟩
  · exact acquires_row [.mem (n + 1), .mem n] rfl rfl (by simp) rfl
  · exact acquires_row [.mem n] rfl rfl (by simp) rfl

theorem vectoredByOrigin_acquires
    (hr : vectoredByOrigin grants m buffersObj payload ⟨n, held, err⟩ = .ok (.ok p, t)) :
    Acquires payload p held err t := by
  unfold vectoredByOrigin at hr
  cases horigin : m.payloadOrigin with
  | payloadRuntime =>
    rw [horigin] at hr
    obtain ⟨got, rfl, rfl⟩ := createVectoredBuffers_returned hr
    exact acquires_row [.mem (n + 1), .mem n] rfl rfl (by simp) rfl
  | payloadUser =>
    rw [horigin] at hr
    cases buffersObj with
    | none => exact absurd hr (by simp [stop])
    | some obj =>
      obtain ⟨fast, got, -, -, rfl, rfl⟩ := serializeVectoredBuffers_returned hr
      exact acquires_row [.mem (n + 2), .mem (n + 1), .mem n] rfl rfl (by simp) rfl
  | originNoVal =>
    rw [horigin] at hr
    exact absurd hr (Fails.null _ _ _)

theorem combinedByOrigin_acquires
    (hr : combinedByOrigin grants m buffersObj payload ⟨n, held, err⟩ = .ok (.ok p, t)) :
    Acquires payload p held err t := by
  rcases combinedByOrigin_returned hr with
    ⟨-, obj, -, got, -, -, rfl, rfl⟩ | ⟨-, got, -, rfl, rfl⟩
  · exact acquires_row [.mem (n + 3), .mem (n + 2), .mem (n + 1), .mem n] rfl rfl (by simp) rfl
  · exact acquires_row [.mem (n + 2), .mem (n + 1), .mem n] rfl rfl (by simp) rfl

theorem normalCase_acquires
    (hr : normalCase grants m payloadType buffersObj payload ⟨n, held, err⟩ = .ok (.ok p, t)) :
    Acquires payload p held err t := by
  unfold normalCase at hr
  cases payloadType with
  | payloadLinear => exact linearByOrigin_acquires hr
  | payloadIovec => exact vectoredByOrigin_acquires hr
  | payloadLinearAndIovec => exact combinedByOrigin_acquires hr
  | payloadTypeNoVal => exact absurd hr (Fails.null _ _ _)

/-! ## What the release leaves -/

theorem released_unique {before after : Multiset Resource} {force : Bool}
    (h : ReleasedOnce payload force t before) (h' : ReleasedOnce payload force t after) :
    before = after :=
  congrArg (fun r => r.2.held) (Except.ok.inj (Eq.trans (Eq.symm h) h'))

theorem not_released_of_stop {before : Multiset Resource} {force : Bool} {e : Fault}
    (h : freeBufferPayload payload force t = .error e) : ¬ ReleasedOnce payload force t before :=
  fun hr => absurd (Eq.trans (Eq.symm h) hr) (by simp)

/-- `make_buffers` leaves the views of its vector unassigned, and the release reads them. -/
theorem freeVector_unassigned {vector : Vector} (hviews : vector.views = none) (s t : Store) :
    freeVector payload (some vector) s ≠ .ok (.ok (), t) := by
  intro h
  rcases bind_eq_ok h with ⟨x, t', -, hx⟩ | ⟨a, t', -, hrest⟩
  · exact absurd hx (by simp)
  · have hstop : get vector.views t' = .error .unassigned := by
      rw [hviews]
      rfl
    exact absurd ((bind_stopped hstop).symm.trans hrest) (by simp)

theorem unassigned_not_released {vector : Vector} {before : Multiset Resource}
    (hvector : payload.vector = some (some vector)) (hviews : vector.views = none) :
    ¬ ReleasedOnce payload true s before := by
  intro h
  rcases bind_eq_ok h with ⟨x, t', -, hx⟩ | ⟨mode, t', -, hrest⟩
  · exact absurd hx (by simp)
  rw [if_neg (by simp)] at hrest
  rcases bind_eq_ok hrest with ⟨x, t', -, hx⟩ | ⟨linear, t', -, hrest⟩
  · exact absurd hx (by simp)
  rcases bind_eq_ok hrest with ⟨x, t', -, hx⟩ | ⟨a, t', -, hrest⟩
  · exact absurd hx (by simp)
  rw [hvector] at hrest
  change (freeVector payload (some vector) >>= fun _ => free payload.block) _ = _ at hrest
  rcases bind_eq_ok hrest with ⟨x, t', -, hx⟩ | ⟨a, t', hfree, -⟩
  · exact absurd hx (by simp)
  · exact freeVector_unassigned hviews _ _ hfree

/-- The row that `serialize_buffers` holds, in the order of the release. -/
theorem serialized_row {n' : Nat} (rest : Multiset Resource) :
    Resource.mem (n' + 3) ::ₘ .mem (n' + 2) ::ₘ .mem (n' + 1) ::ₘ .mem n' ::ₘ rest =
      .mem n' ::ₘ .mem (n' + 1) ::ₘ .mem (n' + 3) ::ₘ .mem (n' + 2) ::ₘ rest := by
  rw [cons_rotate (.mem (n' + 3)), cons_rotate (.mem (n' + 3)), Multiset.cons_swap]

section Serialized

variable {got : List (Nat × LinearBuffer)} {n' : Nat} {before : Multiset Resource}

theorem serialized_released (horigin : m.payloadOrigin = .payloadUser)
    (hlen : got.length = m.amount.toNat) (hne : got ≠ []) :
    ReleasedOnce ((payload.serialized n' m.amount got).finish m mode payloadType) true
      ⟨n, named .view got + .mem (n' + 3) ::ₘ .mem (n' + 2) ::ₘ .mem (n' + 1) ::ₘ .mem n' ::ₘ
        .raw payload.block ::ₘ held, err⟩ held := by
  rw [serialized_row]
  refine freeBufferPayload_held rfl (.inr rfl) rfl rfl
    (freeLinear_user (congrArg some horigin) rfl hlen hne) ?_
  exact freeVector_shared (congrArg some horigin)

/-- The iovecs and their structure stay held once the vector is dropped. -/
theorem entered_not_released (horigin : m.payloadOrigin = .payloadUser)
    (hlen : got.length = m.amount.toNat) (hne : got ≠ []) :
    ¬ ReleasedOnce ((payload.serialized n' m.amount got).finish m mode payloadType).entered true
      ⟨n, named .view got + .mem (n' + 3) ::ₘ .mem (n' + 2) ::ₘ .mem (n' + 1) ::ₘ .mem n' ::ₘ
        .raw payload.block ::ₘ held, err⟩ held := by
  have hfree : freeBufferPayload
      ((payload.serialized n' m.amount got).finish m mode payloadType).entered true
      ⟨n, named .view got + .mem (n' + 3) ::ₘ .mem (n' + 2) ::ₘ .mem (n' + 1) ::ₘ .mem n' ::ₘ
        .raw payload.block ::ₘ held, err⟩ =
      .ok (.ok (), ⟨n, .mem (n' + 3) ::ₘ .mem (n' + 2) ::ₘ held, err⟩) := by
    rw [serialized_row, cons_rotate (.mem (n' + 3)) (.mem (n' + 2))]
    refine freeBufferPayload_held rfl (.inr rfl) rfl rfl
      (freeLinear_user (congrArg some horigin) rfl hlen hne) rfl
  intro h
  have hcard := congrArg Multiset.card (released_unique hfree h)
  simp only [Multiset.card_cons] at hcard
  omega

end Serialized

/-! ## By mode -/

theorem providedCase_released (hmode : mode ≠ .fixed)
    (hr : providedCase grants m mode buffersObj payload ⟨n, .raw payload.block ::ₘ held, err⟩ =
      .ok (.ok p, t)) : ReleasedWhole p t held := by
  obtain ⟨a, hbuild, rfl⟩ := assigned_of_returned hr
  refine ⟨?_, fun hfixed => absurd (Option.some.inj hfixed) hmode⟩
  rcases linearByOrigin_returned hbuild with
    ⟨horigin, obj, got, -, hgot, hne, rfl, rfl⟩ | ⟨horigin, got, hgot, hne, rfl, rfl⟩
  · refine freeBufferPayload_held rfl (.inr rfl) rfl rfl ?_ rfl
    rw [Multiset.cons_swap]
    exact freeLinear_user (congrArg some horigin) rfl (taken_length hgot) hne
  · refine freeBufferPayload_held rfl (.inr rfl) rfl rfl ?_ rfl
    exact freeLinear_runtime (congrArg some horigin) rfl (taken_length hgot) hne

/-- The combined shape is released whole in no case. -/
theorem fixedCase_not_released {id : Nat} {before : Multiset Resource} (hblock : payload.block = id)
    (hr : fixedCase grants m mode buffersObj payload ⟨n, .raw id ::ₘ held, err⟩ = .ok (.ok p, t))
    (hbefore : mode = .fixed ∧ before = held ∨ before.card < held.card) :
    ¬ ReleasedWhole p t before := by
  subst hblock
  obtain ⟨a, hbuild, rfl⟩ := assigned_of_returned hr
  rcases combinedByOrigin_returned hbuild with
    ⟨horigin, obj, -, got, hgot, hne, rfl, rfl⟩ | ⟨-, got, -, rfl, rfl⟩
  · rcases hbefore with ⟨rfl, rfl⟩ | hlt
    · intro h
      exact entered_not_released horigin (taken_length hgot) hne (h.2 rfl)
    · intro h
      have hheld := released_unique (serialized_released horigin (taken_length hgot) hne) h.1
      exact absurd (congrArg Multiset.card hheld) (by omega)
  · exact fun h => unassigned_not_released rfl rfl h.1

end Build

theorem getBufferMetadata_returned {buffersObj : Option PyBuffers} {mode : BufferMode}
    {payloadType : PayloadType} {amount bufsize : Int} {m : BufferMetadata} {s t : Store}
    (hr : getBufferMetadata buffersObj mode payloadType amount bufsize s = .ok (.ok m, t)) :
    t.next = s.next ∧ t.held = s.held := by
  unfold getBufferMetadata at hr
  dsimp only at hr
  cases buffersObj with
  | none =>
    obtain ⟨-, rfl⟩ := Prod.mk.inj (Except.ok.inj hr)
    exact ⟨rfl, rfl⟩
  | some obj =>
    dsimp only at hr
    cases hseq : obj.isSequence with
    | false =>
      rw [if_pos (by simp [hseq])] at hr
      obtain ⟨-, rfl⟩ := Prod.mk.inj (Except.ok.inj hr)
      exact ⟨rfl, rfl⟩
    | true =>
      rw [if_neg (by simp [hseq])] at hr
      cases hlen : obj.length with
      | none =>
        rw [hlen] at hr
        obtain ⟨-, rfl⟩ := Prod.mk.inj (Except.ok.inj hr)
        exact ⟨rfl, rfl⟩
      | some k =>
        rw [hlen] at hr
        dsimp only at hr
        split at hr
        · exact absurd hr (by simp [stop])
        · obtain ⟨-, rfl⟩ := Prod.mk.inj (Except.ok.inj hr)
          exact ⟨rfl, rfl⟩

/-- The payload of a context is released whole in PROVIDED and BUF_RING, and in these alone. -/
theorem contextPayload_released_iff {grants : Nat → Bool} {mode : BufferMode}
    {payloadType : PayloadType} {buffersObj : Option PyBuffers} {amount bufsize rand : Int}
    {payload : Payload} {s t : Store}
    (hr : createBufferPayload grants mode payloadType buffersObj amount bufsize rand s =
      .ok (.ok payload, t)) :
    ReleasedWhole payload t s.held ↔ mode = .provided ∨ mode = .bufRing := by
  rcases bind_eq_ok hr with ⟨x, t', -, hx⟩ | ⟨m, ⟨n, held, err⟩, hmeta, hr⟩
  · exact absurd hx (by simp)
  obtain ⟨-, hheld⟩ := getBufferMetadata_returned hmeta
  obtain rfl : held = s.held := hheld
  have hr := malloc_of_returned (.after fun _ => .null) hr
  unfold createByMode at hr
  cases mode with
  | normalBuf =>
    refine iff_of_false ?_ (by simp)
    rcases bind_eq_ok hr with ⟨x, t', -, hx⟩ | ⟨p, t', hfirst, hr⟩
    · exact absurd hx (by simp)
    obtain ⟨hblock, -, n', extra, hne, rfl⟩ := normalCase_acquires hfirst
    rw [Multiset.add_cons] at hr
    refine fixedCase_not_released hblock hr (.inr ?_)
    have hpos := Multiset.card_pos.mpr hne
    rw [Multiset.card_add]
    omega
  | fixed =>
    refine iff_of_false ?_ (by simp)
    exact fixedCase_not_released rfl hr (.inl ⟨rfl, rfl⟩)
  | provided => exact iff_of_true (providedCase_released (by simp) hr) (.inl rfl)
  | bufRing => exact iff_of_true (providedCase_released (by simp) hr) (.inr rfl)
  | bufNoVal => exact absurd hr (Fails.null _ _ _)

/-- Two provided blocks are released. -/
theorem provided_payload_released : ∃ p t,
    createBufferPayload (fun _ => true) .provided .payloadLinear none 2 64 7 ⟨0, 0, false⟩ =
      .ok (.ok p, t) ∧ ReleasedWhole p t 0 := by
  have hrun : ∃ p t, createBufferPayload (fun _ => true) .provided .payloadLinear none 2 64 7
      ⟨0, 0, false⟩ = .ok (.ok p, t) := ⟨_, _, rfl⟩
  obtain ⟨p, t, hr⟩ := hrun
  exact ⟨p, t, hr, (contextPayload_released_iff hr).mpr (.inl rfl)⟩

/-- One fixed block of the library is freed with the linear buffers and again with the
    vector. -/
theorem fixed_payload_freed_twice : ∃ p t,
    createBufferPayload (fun _ => true) .fixed .payloadLinearAndIovec none 1 64 0 ⟨0, 0, false⟩ =
      .ok (.ok p, t) ∧ freeBufferPayload p true t = .error .notHeld ∧ ¬ ReleasedWhole p t 0 :=
  ⟨_, _, rfl, rfl, fun h => not_released_of_stop rfl h.1⟩

end Uringio.Buffers
