/-
  The payload of a context, as `create_buffer_payload` is asked for it.

  Metadata that could not be read comes back as zeros, and the construction goes on with them.
  NORMAL_BUF runs on into FIXED, which builds both structures and assigns their type. The
  combined builders end in a fault wherever they give up.
-/
import Uringio.Buffers.ContextPayload

namespace Uringio.Buffers

open Lib Lib.Program Lib.Ledger

/-! ## What was asked for -/

/-- `_get_buffer_metadata` sets an exception. -/
def metadataFails : Option PyBuffers → Bool
  | some obj => !obj.isSequence || obj.length.isNone
  | none => false

/-- The amount of the metadata: the argument, or the length of the sequence as an `int`. -/
def amountOf (buffersObj : Option PyBuffers) (amount : Int) : Int :=
  match buffersObj with
  | some obj => if obj.isSequence then (obj.length.map toInt).getD 0 else 0
  | none => amount

def originOf (buffersObj : Option PyBuffers) : PayloadOrigin :=
  if buffersObj.isSome then .payloadUser else .payloadRuntime

/-- The type that a payload of the mode should have. -/
def typeOf (mode : BufferMode) (payloadType : PayloadType) : PayloadType :=
  match mode with
  | .normalBuf => payloadType
  | .fixed => .payloadLinearAndIovec
  | _ => .payloadLinear

/-- Data and length of the buffers, in order: those that the user's objects export, or blocks
    of the library. -/
def Described (buffersObj : Option PyBuffers) (bufsize : Int) (buffers : List (Data × Nat)) :
    Prop :=
  ∀ i x, buffers[i]? = some x → match buffersObj with
    | some obj => ∃ b, obj.item i = some (some b) ∧ x = (.user b.buffer, b.len)
    | none => ∃ id, x = (.block id, toUint64 bufsize)

/-- The linear buffers of the payload are these. -/
def Payload.HoldsLinear (payload : Payload) (buffers : List (Data × Nat)) : Prop :=
  ∃ linear, payload.linear = some (some linear) ∧
    linear.entries.map (Option.map fun b => (b.buffer, b.len)) = buffers.map some

/-- The iovecs of the payload are these. -/
def Payload.HoldsVector (payload : Payload) (buffers : List (Data × Nat)) : Prop :=
  ∃ vector iovecs, payload.vector = some (some vector) ∧ vector.iovecs = some (some iovecs) ∧
    vector.nrVecs = some buffers.length ∧
    iovecs.entries.map (Option.map fun v => (v.iovBase, v.iovLen)) = buffers.map some

/-- The payload has the linear buffers and the vector that its type names, and no other. -/
def Payload.HoldsType (payload : Payload) (payloadType : PayloadType)
    (buffers : List (Data × Nat)) : Prop :=
  (if payloadType = .payloadIovec then payload.linear = some none
    else payload.HoldsLinear buffers) ∧
  if payloadType = .payloadLinear then payload.vector = some none
  else payload.HoldsVector buffers

/-- The payload is the one that was asked for. -/
structure Payload.Constructed (payload : Payload) (mode : BufferMode) (payloadType : PayloadType)
    (buffersObj : Option PyBuffers) (amount bufsize : Int) : Prop where
  mode_eq : payload.mode = some mode
  origin_eq : payload.payloadOrigin = some (originOf buffersObj)
  type_eq : payload.payloadType = some (typeOf mode payloadType)
  amount_eq : payload.amount = some (amountOf buffersObj amount)
  holds : ∃ buffers, buffers.length = (amountOf buffersObj amount).toNat ∧
    Described buffersObj bufsize buffers ∧ payload.HoldsType (typeOf mode payloadType) buffers

/-- NULL with an exception, or a payload as it was asked for, which takes metadata and a positive
    amount. -/
def ConstructedOrRefused (mode : BufferMode) (payloadType : PayloadType)
    (buffersObj : Option PyBuffers) (amount bufsize : Int)
    (r : Except Fault (Except Unit Payload × Store)) : Prop :=
  (∃ t, r = .ok (.error (), t) ∧ t.rest = true) ∨
    metadataFails buffersObj = false ∧ 0 < amountOf buffersObj amount ∧
      ∃ p t, r = .ok (.ok p, t) ∧ p.Constructed mode payloadType buffersObj amount bufsize

/-! ## What it takes -/

/-- The length of the sequence is 0 as an `int`, and `_get_buffer_metadata` divides by it. -/
def DividesByZero (buffersObj : Option PyBuffers) : Prop :=
  ∃ obj k, buffersObj = some obj ∧ obj.isSequence = true ∧ obj.length = some k ∧ toInt k = 0

section Granted

variable (grants : Nat → Bool) (buffersObj : Option PyBuffers) (amount bufsize : Int) (n : Nat)

/-- The linear buffers can be built. -/
def LinearGranted : Prop :=
  match buffersObj with
  | some obj => Granted grants n (arraySize sizeofPyBuffer amount) ∧
      Granted grants (n + 1) (arraySize sizeofLinearBuffer amount) ∧
      Exported obj.item amount.toNat
  | none => Granted grants n (arraySize sizeofLinearBuffer amount) ∧
      DataGranted grants (toUint64 bufsize) amount.toNat (n + 1)

/-- The vector can be built. -/
def VectorGranted : Prop :=
  match buffersObj with
  | some obj => ∃ fast, obj.fast = some fast ∧
      Granted grants n (arraySize sizeofPyBuffer (toInt fast.length)) ∧
      Granted grants (n + 1) sizeofVectoredBuffer ∧
      Granted grants (n + 2) (arraySize sizeofIovec (toInt fast.length)) ∧
      Exported (fun i => fast[i]?) (toInt fast.length).toNat
  | none => Granted grants n sizeofVectoredBuffer ∧
      Granted grants (n + 1) (arraySize sizeofIovec amount) ∧
      DataGranted grants (toUint64 bufsize) amount.toNat (n + 2)

/-- Both can be built. -/
def CombinedGranted : Prop :=
  match buffersObj with
  | some obj => SerializeGranted grants obj amount n
  | none => MakeGranted grants amount (toUint64 bufsize) n

end Granted

/-- The allocations and exports of a combined builder that returns. -/
def combinedAttempts (buffersObj : Option PyBuffers) (amount : Int) : Nat :=
  (if buffersObj.isSome then 4 else 3) + amount.toNat

/-- What the `switch` of `create_buffer_payload` needs: in PROVIDED and BUF_RING that it does not
    write to an empty array; in FIXED that both structures can be built. In NORMAL_BUF one
    structure alone may not be built, and both must be twice. -/
def SwitchGranted (grants : Nat → Bool) (mode : BufferMode) (payloadType : PayloadType)
    (buffersObj : Option PyBuffers) (amount bufsize : Int) (n : Nat) : Prop :=
  match mode, payloadType with
  | .normalBuf, .payloadLinear => ¬ LinearGranted grants buffersObj amount bufsize n
  | .normalBuf, .payloadIovec => ¬ VectorGranted grants buffersObj amount bufsize n
  | .normalBuf, _ => 0 < amount ∧ CombinedGranted grants buffersObj amount bufsize n ∧
      CombinedGranted grants buffersObj amount bufsize (n + combinedAttempts buffersObj amount)
  | .fixed, _ => 0 < amount ∧ CombinedGranted grants buffersObj amount bufsize n
  | _, _ => amount = 0 → ¬ LinearGranted grants buffersObj amount bufsize n

/-! ## The metadata -/

section Metadata

variable {buffersObj : Option PyBuffers} {mode : BufferMode} {payloadType : PayloadType}
  {amount bufsize : Int} {s : Store}

theorem getBufferMetadata_stops (h : DividesByZero buffersObj) :
    getBufferMetadata buffersObj mode payloadType amount bufsize s = .error .divByZero := by
  obtain ⟨obj, k, rfl, hseq, hlen, hzero⟩ := h
  unfold getBufferMetadata
  dsimp only
  rw [if_neg (by simp [hseq]), hlen]
  dsimp only
  rw [if_pos hzero]
  rfl

theorem getBufferMetadata_reads (h : ¬ DividesByZero buffersObj) :
    ∃ m err, getBufferMetadata buffersObj mode payloadType amount bufsize s =
        .ok (.ok m, ⟨s.next, s.held, err⟩) ∧
      m.amount = amountOf buffersObj amount ∧ m.payloadOrigin = originOf buffersObj ∧
      (buffersObj = none → m.bufsize = bufsize) := by
  unfold getBufferMetadata
  cases buffersObj with
  | none => exact ⟨_, _, rfl, rfl, rfl, fun _ => rfl⟩
  | some obj =>
    unfold amountOf
    dsimp only
    cases hseq : obj.isSequence with
    | false => exact ⟨_, _, rfl, rfl, rfl, fun hnone => absurd hnone (by simp)⟩
    | true =>
      rw [if_neg (by simp), if_pos rfl]
      cases hlen : obj.length with
      | none => exact ⟨_, _, rfl, rfl, rfl, fun hnone => absurd hnone (by simp)⟩
      | some k =>
        have hne : toInt k ≠ 0 := fun hzero => h ⟨obj, k, rfl, hseq, hlen, hzero⟩
        dsimp only
        rw [if_neg hne]
        exact ⟨_, _, rfl, rfl, rfl, fun hnone => absurd hnone (by simp)⟩

theorem metadata_of_pos (h : 0 < amountOf buffersObj amount) :
    metadataFails buffersObj = false := by
  cases buffersObj with
  | none => rfl
  | some obj =>
    unfold amountOf at h
    dsimp only at h
    split at h
    · rename_i hseq
      cases hlen : obj.length with
      | none =>
        rw [hlen] at h
        exact absurd h (by simp)
      | some k => simp [metadataFails, hseq, hlen]
    · exact absurd h (by simp)

theorem amountOf_range (h : -2 ^ 31 ≤ amount ∧ amount < 2 ^ 31) :
    -2 ^ 31 ≤ amountOf buffersObj amount ∧ amountOf buffersObj amount < 2 ^ 31 := by
  cases buffersObj with
  | none => exact h
  | some obj =>
    unfold amountOf
    dsimp only
    split
    · cases obj.length with
      | none => exact ⟨by decide, by decide⟩
      | some k => exact ⟨neg_le_toInt k, toInt_lt k⟩
    · exact ⟨by decide, by decide⟩

end Metadata

/-! ## The buffers -/

section Holds

variable {obj : PyBuffers} {bufsize amount : Int} {payload : Payload} {grants : Nat → Bool}
  {size n k : Nat} {views : Option Views}

/-- Data and length of the exports. -/
def userBuffers (got : List (Nat × LinearBuffer)) : List (Data × Nat) :=
  got.map fun x => (.user x.2.buffer, x.2.len)

def runtimeBuffers (size : Nat) (got : List (Nat × Unit)) : List (Data × Nat) :=
  got.map fun x => (.block x.1, size)

theorem described_user {got : List (Nat × LinearBuffer)}
    (hgot : taken (fun i _ => (obj.item i).join) k 0 n = some got) :
    Described (some obj) bufsize (userBuffers got) := by
  intro i x hx
  have hi : i < k := by
    rw [← taken_length hgot, ← List.length_map (f := fun x => (Data.user x.2.buffer, x.2.len))]
    exact (List.getElem?_eq_some_iff.mp hx).1
  obtain ⟨b, hb, hget⟩ := taken_get hgot hi
  unfold userBuffers at hx
  rw [List.getElem?_map, hget] at hx
  refine ⟨b, ?_, (Option.some.inj hx).symm⟩
  exact Option.join_eq_some_iff.mp (by simpa using hb)

theorem described_runtime {got : List (Nat × Unit)} :
    Described none bufsize (runtimeBuffers (toUint64 bufsize) got) := by
  intro i x hx
  unfold runtimeBuffers at hx
  rw [List.getElem?_map, Option.map_eq_some_iff] at hx
  obtain ⟨y, -, rfl⟩ := hx
  exact ⟨y.1, rfl⟩

theorem withViews_entries {block : Nat} {buffers : List Linear} :
    (withViews block buffers views).entries.map (Option.map fun b => (b.buffer, b.len)) =
      buffers.map fun b => some (b.buffer, b.len) := by
  cases buffers with
  | nil => rfl
  | cons b rest => simp [withViews, Function.comp_def]

theorem holdsLinear_user {block : Nat} {got : List (Nat × LinearBuffer)}
    (h : payload.linear = some (some (withViews block (got.map userLinear) views))) :
    payload.HoldsLinear (userBuffers got) := by
  refine ⟨_, h, ?_⟩
  rw [withViews_entries]
  simp [userBuffers, userLinear, Function.comp_def]

theorem holdsLinear_runtime {block : Nat} {got : List (Nat × Unit)}
    (h : payload.linear =
      some (some (withViews block (got.map (runtimeLinear size)) views))) :
    payload.HoldsLinear (runtimeBuffers size got) := by
  refine ⟨_, h, ?_⟩
  rw [withViews_entries]
  simp [runtimeBuffers, runtimeLinear, Function.comp_def]

theorem toUnsigned_of_pos (hpos : 0 < amount) (hlt : amount < 2 ^ 31) :
    toUnsigned amount = amount.toNat := by
  unfold toUnsigned
  omega

theorem serialized_holds {got : List (Nat × LinearBuffer)} (hpos : 0 < amount)
    (hlt : amount < 2 ^ 31) (hlen : got.length = amount.toNat) :
    (payload.serialized n amount got).HoldsLinear (userBuffers got) ∧
      (payload.serialized n amount got).HoldsVector (userBuffers got) := by
  refine ⟨holdsLinear_user rfl, _, _, rfl, rfl, ?_, ?_⟩
  · show some (toUnsigned amount) = some (got.map _).length
    rw [toUnsigned_of_pos hpos hlt, List.length_map, hlen]
  · simp [userBuffers, userVec, Function.comp_def]

theorem made_holds {got : List (Nat × Unit)} (hpos : 0 < amount) (hlt : amount < 2 ^ 31)
    (hlen : got.length = amount.toNat) :
    (payload.made n amount size got).HoldsLinear (runtimeBuffers size got) ∧
      (payload.made n amount size got).HoldsVector (runtimeBuffers size got) := by
  refine ⟨⟨_, rfl, ?_⟩, _, _, rfl, rfl, ?_, ?_⟩
  · simp [runtimeBuffers, runtimeLinear, Function.comp_def]
  · show some (toUnsigned amount) = some (got.map _).length
    rw [toUnsigned_of_pos hpos hlt, List.length_map, hlen]
  · simp [runtimeBuffers, runtimeVec, Function.comp_def]

end Holds

/-! ## The builders, by their origin -/

section ByOrigin

variable {grants : Nat → Bool} {m : BufferMetadata} {buffersObj : Option PyBuffers}
  {mode : BufferMode} {payloadType : PayloadType} {amount bufsize : Int} {payload : Payload}
  {n : Nat} {held : Multiset Resource} {err : Bool}

theorem nonneg_of_linear (hlow : -2 ^ 31 ≤ amount)
    (h : LinearGranted grants buffersObj amount bufsize n) : 0 ≤ amount := by
  by_contra hneg
  cases buffersObj with
  | none => exact not_granted_of_neg (.inl rfl) hlow (by omega) h.1
  | some obj => exact not_granted_of_neg (.inr (.inr rfl)) hlow (by omega) h.1

theorem linearByOrigin_refused (horigin : m.payloadOrigin = originOf buffersObj)
    (hsize : buffersObj = none → m.bufsize = bufsize)
    (h : ¬ LinearGranted grants buffersObj m.amount bufsize n) :
    ∃ k, linearByOrigin grants m buffersObj payload ⟨n, held, err⟩ =
      .ok (.error (), ⟨k, held, true⟩) := by
  unfold linearByOrigin
  rw [horigin]
  cases buffersObj with
  | none =>
    refine createLinearBuffers_refused fun harray hdata => h ⟨harray, ?_⟩
    rwa [hsize rfl] at hdata
  | some obj =>
    exact serializeLinearBuffers_refused fun hviews harray hexp => h ⟨hviews, harray, hexp⟩

theorem linearByOrigin_empty (horigin : m.payloadOrigin = originOf buffersObj)
    (hzero : m.amount = 0) (h : LinearGranted grants buffersObj m.amount bufsize n) :
    linearByOrigin grants m buffersObj payload ⟨n, held, err⟩ = .error .outOfBounds := by
  have hlen : m.amount.toNat = 0 := by omega
  unfold linearByOrigin
  rw [horigin]
  cases buffersObj with
  | none => exact createLinearBuffers_empty hlen h.1
  | some obj => exact serializeLinearBuffers_empty hlen h.1 h.2.1

theorem linearByOrigin_built (horigin : m.payloadOrigin = originOf buffersObj)
    (hsize : buffersObj = none → m.bufsize = bufsize) (hpos : 0 < m.amount)
    (h : LinearGranted grants buffersObj m.amount bufsize n) :
    ∃ p t buffers, linearByOrigin grants m buffersObj payload ⟨n, held, err⟩ =
        .ok (.ok p, t) ∧ buffers.length = m.amount.toNat ∧ Described buffersObj bufsize buffers ∧
      p.HoldsLinear buffers ∧ p.vector = some none := by
  unfold linearByOrigin
  rw [horigin]
  cases buffersObj with
  | none =>
    obtain ⟨harray, hdata⟩ := h
    obtain ⟨got, hgot⟩ := Option.isSome_iff_exists.mp (taken_data_isSome_iff.mpr hdata)
    rw [← hsize rfl] at hgot
    refine ⟨_, _, runtimeBuffers (toUint64 m.bufsize) got,
      createLinearBuffers_built hpos harray hgot, ?_, ?_, holdsLinear_runtime rfl, rfl⟩
    · exact (List.length_map _).trans (taken_length hgot)
    · rw [hsize rfl]
      exact described_runtime
  | some obj =>
    obtain ⟨hviews, harray, hexp⟩ := h
    obtain ⟨got, hgot⟩ := Option.isSome_iff_exists.mp
      ((taken_exports_isSome_iff (n := n + 2)).mpr hexp)
    refine ⟨_, _, userBuffers got, serializeLinearBuffers_built hpos hviews harray hgot, ?_,
      described_user hgot, holdsLinear_user rfl, rfl⟩
    exact (List.length_map _).trans (taken_length hgot)

theorem vectoredByOrigin_refused (horigin : m.payloadOrigin = originOf buffersObj)
    (hsize : buffersObj = none → m.bufsize = bufsize)
    (h : ¬ VectorGranted grants buffersObj m.amount bufsize n) :
    ∃ k, vectoredByOrigin grants m buffersObj payload ⟨n, held, err⟩ =
      .ok (.error (), ⟨k, held, true⟩) := by
  unfold vectoredByOrigin
  rw [horigin]
  cases buffersObj with
  | none =>
    refine createVectoredBuffers_refused fun hvec hiovecs hdata => h ⟨hvec, hiovecs, ?_⟩
    rwa [hsize rfl] at hdata
  | some obj =>
    exact serializeVectoredBuffers_refused fun fast hfast hviews hvec hiovecs hexp =>
      h ⟨fast, hfast, hviews, hvec, hiovecs, hexp⟩

theorem vectoredByOrigin_built (horigin : m.payloadOrigin = originOf buffersObj)
    (hsize : buffersObj = none → m.bufsize = bufsize)
    (h : VectorGranted grants buffersObj m.amount bufsize n) :
    ∃ p t, vectoredByOrigin grants m buffersObj payload ⟨n, held, err⟩ = .ok (.ok p, t) := by
  unfold vectoredByOrigin
  rw [horigin]
  cases buffersObj with
  | none =>
    obtain ⟨hvec, hiovecs, hdata⟩ := h
    obtain ⟨got, hgot⟩ := Option.isSome_iff_exists.mp (taken_data_isSome_iff.mpr hdata)
    rw [← hsize rfl] at hgot
    exact ⟨_, _, createVectoredBuffers_built hvec hiovecs hgot⟩
  | some obj =>
    obtain ⟨fast, hfast, hviews, hvec, hiovecs, hexp⟩ := h
    obtain ⟨got, hgot⟩ := Option.isSome_iff_exists.mp
      ((taken_exports_isSome_iff (n := n + 3)).mpr hexp)
    exact ⟨_, _, serializeVectoredBuffers_built hfast hviews hvec hiovecs hgot⟩

theorem combinedByOrigin_refused (horigin : m.payloadOrigin = originOf buffersObj)
    (hsize : buffersObj = none → m.bufsize = bufsize) (hmode : payload.mode = none)
    (h : ¬ CombinedGranted grants buffersObj m.amount bufsize n) :
    combinedByOrigin grants m buffersObj payload ⟨n, held, err⟩ = .error .unassigned := by
  unfold combinedByOrigin
  rw [horigin]
  cases buffersObj with
  | none =>
    refine makeBuffers_refused hmode fun hgranted => h ?_
    rwa [hsize rfl] at hgranted
  | some obj => exact serializeBuffers_refused hmode h

theorem combinedByOrigin_built (horigin : m.payloadOrigin = originOf buffersObj)
    (hsize : buffersObj = none → m.bufsize = bufsize) (hpos : 0 < m.amount)
    (hlt : m.amount < 2 ^ 31) (h : CombinedGranted grants buffersObj m.amount bufsize n) :
    ∃ p t buffers, combinedByOrigin grants m buffersObj payload ⟨n, held, err⟩ =
        .ok (.ok p, t) ∧ t.next = n + combinedAttempts buffersObj m.amount ∧
      buffers.length = m.amount.toNat ∧ Described buffersObj bufsize buffers ∧
      p.HoldsLinear buffers ∧ p.HoldsVector buffers := by
  unfold combinedByOrigin combinedAttempts
  rw [horigin]
  cases buffersObj with
  | none =>
    have h : MakeGranted grants m.amount (toUint64 m.bufsize) n := by
      rw [hsize rfl]
      exact h
    obtain ⟨got, hgot⟩ := h.taken
    obtain ⟨hlinear, hvector⟩ := made_holds hpos hlt (taken_length hgot)
    refine ⟨_, _, runtimeBuffers (toUint64 m.bufsize) got, makeBuffers_built h hgot, ?_, ?_, ?_,
      hlinear, hvector⟩
    · exact Nat.add_assoc _ _ _
    · exact (List.length_map _).trans (taken_length hgot)
    · rw [hsize rfl]
      exact described_runtime
  | some obj =>
    obtain ⟨got, hgot⟩ := SerializeGranted.taken h (n + 4)
    obtain ⟨hlinear, hvector⟩ := serialized_holds hpos hlt (taken_length hgot)
    refine ⟨_, _, userBuffers got, serializeBuffers_built hpos h hgot, ?_, ?_,
      described_user hgot, hlinear, hvector⟩
    · exact Nat.add_assoc _ _ _
    · exact (List.length_map _).trans (taken_length hgot)

/-- A combined builder of a payload without a mode does not return NULL. -/
theorem combinedByOrigin_not_null (horigin : m.payloadOrigin = originOf buffersObj)
    (hsize : buffersObj = none → m.bufsize = bufsize) (hmode : payload.mode = none)
    (hlow : -2 ^ 31 ≤ m.amount) (hlt : m.amount < 2 ^ 31) (x : Unit) (t : Store) :
    combinedByOrigin grants m buffersObj payload ⟨n, held, err⟩ ≠ .ok (.error x, t) := by
  intro hr
  by_cases h : CombinedGranted grants buffersObj m.amount bufsize n
  · by_cases hpos : 0 < m.amount
    · obtain ⟨p, t', -, hbuilt, -⟩ : ∃ p t b, combinedByOrigin grants m buffersObj payload
          ⟨n, held, err⟩ = .ok (.ok p, t) ∧ _ := combinedByOrigin_built horigin hsize hpos hlt h
      exact absurd (hbuilt.symm.trans hr) (by simp)
    · have hlen : m.amount.toNat = 0 := by omega
      unfold combinedByOrigin at hr
      rw [horigin] at hr
      cases buffersObj with
      | none =>
        have h : MakeGranted grants m.amount (toUint64 m.bufsize) n := by
          rw [hsize rfl]
          exact h
        obtain ⟨got, hgot⟩ := h.taken
        exact absurd ((makeBuffers_built h hgot).symm.trans hr) (by simp)
      | some obj => exact absurd ((serializeBuffers_empty hlen h).symm.trans hr) (by simp)
  · exact absurd ((combinedByOrigin_refused horigin hsize hmode h).symm.trans hr) (by simp)

end ByOrigin

/-! ## The payload -/

section Switch

variable {grants : Nat → Bool} {m : BufferMetadata} {buffersObj : Option PyBuffers}
  {mode : BufferMode} {payloadType : PayloadType} {amount bufsize rand : Int} {payload : Payload}
  {n : Nat} {held : Multiset Resource} {err : Bool}

/-- What the `switch` knows of the metadata and of the payload. -/
structure SwitchInput (m : BufferMetadata) (buffersObj : Option PyBuffers) (amount bufsize : Int)
    (payload : Payload) : Prop where
  amount_eq : m.amount = amountOf buffersObj amount
  origin_eq : m.payloadOrigin = originOf buffersObj
  size_eq : buffersObj = none → m.bufsize = bufsize
  low : -2 ^ 31 ≤ m.amount
  high : m.amount < 2 ^ 31
  mode_eq : payload.mode = none

theorem refused_of_null {r : Except Fault (Except Unit Payload × Store)} {k : Nat}
    (h : r = .ok (.error (), ⟨k, held, true⟩)) :
    ConstructedOrRefused mode payloadType buffersObj amount bufsize r :=
  .inl ⟨_, h, rfl⟩

theorem not_constructed_of_stop {r : Except Fault (Except Unit Payload × Store)} {e : Fault}
    (h : r = .error e) : ¬ ConstructedOrRefused mode payloadType buffersObj amount bufsize r := by
  rintro (⟨t, ht, -⟩ | ⟨-, -, p, t, ht, -⟩)
  · exact absurd (h.symm.trans ht) (by simp)
  · exact absurd (h.symm.trans ht) (by simp)

/-- FIXED does not return NULL, and what it returns has the combined type. -/
theorem fixedCase_type (hm : SwitchInput m buffersObj amount bufsize payload)
    (h : ConstructedOrRefused mode payloadType buffersObj amount bufsize
      (fixedCase grants m mode buffersObj payload ⟨n, held, err⟩)) :
    typeOf mode payloadType = .payloadLinearAndIovec ∧ 0 < m.amount := by
  rcases h with ⟨t, hr, -⟩ | ⟨-, hpos, p, t, hr, hcons⟩
  · rcases bind_eq_ok hr with ⟨x, t', hnull, -⟩ | ⟨a, t', -, hret⟩
    · exact absurd hnull (combinedByOrigin_not_null hm.origin_eq hm.size_eq hm.mode_eq hm.low
        hm.high x t')
    · exact absurd hret (by simp [pure, ret])
  · obtain ⟨a, -, rfl⟩ := assigned_of_returned hr
    exact ⟨(Option.some.inj hcons.type_eq).symm, hm.amount_eq ▸ hpos⟩

theorem fixedCase_constructed_iff (hm : SwitchInput m buffersObj amount bufsize payload)
    (htype : typeOf mode payloadType = .payloadLinearAndIovec) :
    ConstructedOrRefused mode payloadType buffersObj amount bufsize
        (fixedCase grants m mode buffersObj payload ⟨n, held, err⟩) ↔
      0 < m.amount ∧ CombinedGranted grants buffersObj m.amount bufsize n := by
  constructor
  · intro h
    refine ⟨(fixedCase_type hm h).2, ?_⟩
    by_contra hrefused
    refine not_constructed_of_stop (e := .unassigned) (bind_stopped ?_) h
    exact combinedByOrigin_refused hm.origin_eq hm.size_eq hm.mode_eq hrefused
  · rintro ⟨hpos, hgranted⟩
    obtain ⟨p, t, buffers, hbuilt, -, hlen, hdesc, hlinear, hvector⟩ :=
      combinedByOrigin_built hm.origin_eq hm.size_eq hpos hm.high hgranted
    have hpos' : 0 < amountOf buffersObj amount := hm.amount_eq ▸ hpos
    refine .inr ⟨metadata_of_pos hpos', hpos', _, t, bind_returned hbuilt, ?_⟩
    refine ⟨rfl, congrArg some hm.origin_eq, ?_, congrArg some hm.amount_eq, buffers, ?_, hdesc, ?_⟩
    · rw [htype]
      rfl
    · rw [hlen, hm.amount_eq]
    · rw [htype]
      exact ⟨hlinear, hvector⟩

theorem providedCase_constructed_iff (hm : SwitchInput m buffersObj amount bufsize payload)
    (htype : typeOf mode payloadType = .payloadLinear) :
    ConstructedOrRefused mode payloadType buffersObj amount bufsize
        (providedCase grants m mode buffersObj payload ⟨n, held, err⟩) ↔
      (m.amount = 0 → ¬ LinearGranted grants buffersObj m.amount bufsize n) := by
  constructor
  · intro h hzero hgranted
    refine not_constructed_of_stop (e := .outOfBounds) (bind_stopped ?_) h
    exact linearByOrigin_empty hm.origin_eq hzero hgranted
  · intro h
    by_cases hgranted : LinearGranted grants buffersObj m.amount bufsize n
    · have hpos : 0 < m.amount := by
        have hnonneg := nonneg_of_linear hm.low hgranted
        have hne : m.amount ≠ 0 := fun hzero => h hzero hgranted
        omega
      obtain ⟨p, t, buffers, hbuilt, hlen, hdesc, hlinear, hvector⟩ :=
        linearByOrigin_built hm.origin_eq hm.size_eq hpos hgranted
      have hpos' : 0 < amountOf buffersObj amount := hm.amount_eq ▸ hpos
      refine .inr ⟨metadata_of_pos hpos', hpos', _, t, bind_returned hbuilt, ?_⟩
      refine ⟨rfl, congrArg some hm.origin_eq, ?_, congrArg some hm.amount_eq, buffers, ?_,
        hdesc, ?_⟩
      · rw [htype]
        rfl
      · rw [hlen, hm.amount_eq]
      · rw [htype]
        exact ⟨hlinear, hvector⟩
    · obtain ⟨k, hk⟩ := linearByOrigin_refused hm.origin_eq hm.size_eq hgranted
      exact refused_of_null (bind_failed hk)

/-- NORMAL_BUF with one structure: FIXED assigns a type that was not asked for. -/
theorem normal_wrong_type {p : Payload} {t : Store}
    (hm : SwitchInput m buffersObj amount bufsize payload)
    (hfirst : normalCase grants m payloadType buffersObj payload ⟨n, held, err⟩ = .ok (.ok p, t))
    (hwrong : payloadType ≠ .payloadLinearAndIovec) :
    ¬ ConstructedOrRefused .normalBuf payloadType buffersObj amount bufsize
      (createByMode grants m .normalBuf payloadType buffersObj rand payload ⟨n, held, err⟩) := by
  obtain ⟨-, hmode, n', extra, -, rfl⟩ := normalCase_acquires hfirst
  have hrun : createByMode grants m .normalBuf payloadType buffersObj rand payload
      ⟨n, held, err⟩ = fixedCase grants m .normalBuf buffersObj p ⟨n', extra + held, err⟩ :=
    bind_returned hfirst
  rw [hrun]
  intro h
  exact hwrong (fixedCase_type { hm with mode_eq := hmode.trans hm.mode_eq } h).1

/-- NORMAL_BUF with both structures builds them twice. -/
theorem normal_both_constructed_iff (hm : SwitchInput m buffersObj amount bufsize payload) :
    ConstructedOrRefused .normalBuf .payloadLinearAndIovec buffersObj amount bufsize
        (createByMode grants m .normalBuf .payloadLinearAndIovec buffersObj rand payload
          ⟨n, held, err⟩) ↔
      SwitchGranted grants .normalBuf .payloadLinearAndIovec buffersObj m.amount bufsize n := by
  by_cases hgranted : CombinedGranted grants buffersObj m.amount bufsize n
  · by_cases hpos : 0 < m.amount
    · obtain ⟨p, t, -, hfirst, hnext, -⟩ : ∃ p t b, combinedByOrigin grants m buffersObj payload
          ⟨n, held, err⟩ = .ok (.ok p, t) ∧ _ :=
        combinedByOrigin_built hm.origin_eq hm.size_eq hpos hm.high hgranted
      obtain ⟨-, hmode, n', extra, -, rfl⟩ := combinedByOrigin_acquires hfirst
      have hrun : createByMode grants m .normalBuf .payloadLinearAndIovec buffersObj rand payload
          ⟨n, held, err⟩ = fixedCase grants m .normalBuf buffersObj p ⟨n', extra + held, err⟩ :=
        bind_returned hfirst
      rw [hrun, fixedCase_constructed_iff { hm with mode_eq := hmode.trans hm.mode_eq } rfl]
      obtain rfl : n' = n + combinedAttempts buffersObj m.amount := hnext
      exact ⟨fun h => ⟨hpos, hgranted, h.2⟩, fun h => ⟨hpos, h.2.2⟩⟩
    · refine iff_of_false (fun h => hpos ?_) (fun h => hpos h.1)
      rcases h with ⟨t, hr, hrest⟩ | ⟨-, hamount, -⟩
      · rcases bind_eq_ok hr with ⟨x, t', hnull, -⟩ | ⟨p, t', hfirst, hsecond⟩
        · exact absurd hnull (combinedByOrigin_not_null hm.origin_eq hm.size_eq hm.mode_eq hm.low
            hm.high x t')
        · obtain ⟨-, hmode, n', extra, -, rfl⟩ := combinedByOrigin_acquires hfirst
          have hsecond : ConstructedOrRefused .normalBuf .payloadLinearAndIovec buffersObj amount
              bufsize (fixedCase grants m .normalBuf buffersObj p ⟨n', extra + held, err⟩) :=
            .inl ⟨t, hsecond, hrest⟩
          exact (fixedCase_type { hm with mode_eq := hmode.trans hm.mode_eq } hsecond).2
      · exact hm.amount_eq ▸ hamount
  · refine iff_of_false ?_ (fun h => hgranted h.2.1)
    refine not_constructed_of_stop (e := .unassigned) (bind_stopped ?_)
    exact combinedByOrigin_refused hm.origin_eq hm.size_eq hm.mode_eq hgranted

theorem createByMode_constructed_iff (hmode : mode ≠ .bufNoVal)
    (htype : payloadType ≠ .payloadTypeNoVal)
    (hm : SwitchInput m buffersObj amount bufsize payload) :
    ConstructedOrRefused mode payloadType buffersObj amount bufsize
        (createByMode grants m mode payloadType buffersObj rand payload ⟨n, held, err⟩) ↔
      SwitchGranted grants mode payloadType buffersObj m.amount bufsize n := by
  cases mode with
  | fixed => exact fixedCase_constructed_iff hm rfl
  | provided =>
    have hm' : SwitchInput m buffersObj amount bufsize { payload with bgid := some rand } :=
      { hm with }
    exact providedCase_constructed_iff hm' rfl
  | bufRing => exact providedCase_constructed_iff hm rfl
  | bufNoVal => exact absurd rfl hmode
  | normalBuf =>
    cases payloadType with
    | payloadTypeNoVal => exact absurd rfl htype
    | payloadLinear =>
      by_cases hgranted : LinearGranted grants buffersObj m.amount bufsize n
      · refine iff_of_false ?_ (not_not_intro hgranted)
        by_cases hzero : m.amount = 0
        · refine not_constructed_of_stop (e := .outOfBounds) (bind_stopped ?_)
          exact linearByOrigin_empty hm.origin_eq hzero hgranted
        · have hnonneg := nonneg_of_linear hm.low hgranted
          obtain ⟨p, t, -, hbuilt, -⟩ :=
            linearByOrigin_built hm.origin_eq hm.size_eq (by omega) hgranted
          exact normal_wrong_type hm hbuilt (by simp)
      · obtain ⟨k, hk⟩ := linearByOrigin_refused hm.origin_eq hm.size_eq hgranted
        exact iff_of_true (refused_of_null (bind_failed hk)) hgranted
    | payloadIovec =>
      by_cases hgranted : VectorGranted grants buffersObj m.amount bufsize n
      · refine iff_of_false ?_ (not_not_intro hgranted)
        obtain ⟨p, t, hbuilt⟩ := vectoredByOrigin_built hm.origin_eq hm.size_eq hgranted
        exact normal_wrong_type hm hbuilt (by simp)
      · obtain ⟨k, hk⟩ := vectoredByOrigin_refused hm.origin_eq hm.size_eq hgranted
        exact iff_of_true (refused_of_null (bind_failed hk)) hgranted
    | payloadLinearAndIovec => exact normal_both_constructed_iff hm

end Switch

/-- `create_buffer_payload` gives what it was asked for, or NULL with an exception, exactly when
    it does not divide by zero and either gets no memory for the payload or gets through its
    `switch`. -/
theorem contextPayload_constructed_iff {mode : BufferMode} {payloadType : PayloadType}
    {amount : Int} (grants : Nat → Bool) (buffersObj : Option PyBuffers) (bufsize rand : Int)
    (s : Store) (hmode : mode ≠ .bufNoVal) (htype : payloadType ≠ .payloadTypeNoVal)
    (hamount : -2 ^ 31 ≤ amount ∧ amount < 2 ^ 31) :
    ConstructedOrRefused mode payloadType buffersObj amount bufsize
        (createBufferPayload grants mode payloadType buffersObj amount bufsize rand s) ↔
      ¬ DividesByZero buffersObj ∧ (grants s.next = true →
        SwitchGranted grants mode payloadType buffersObj (amountOf buffersObj amount) bufsize
          (s.next + 1)) := by
  by_cases hdiv : DividesByZero buffersObj
  · refine iff_of_false ?_ (fun h => h.1 hdiv)
    exact not_constructed_of_stop (e := .divByZero) (bind_stopped (getBufferMetadata_stops hdiv))
  · obtain ⟨m, err, hmeta, hamt, horigin, hsize⟩ := getBufferMetadata_reads hdiv
    have hrun : createBufferPayload grants mode payloadType buffersObj amount bufsize rand s = _ :=
      bind_returned hmeta
    rw [hrun]
    cases hblock : grants s.next with
    | false =>
      refine iff_of_true (.inl ⟨⟨s.next + 1, s.held, true⟩, ?_, rfl⟩)
        ⟨hdiv, fun h => absurd h (by simp)⟩
      exact (bind_returned (malloc_refused hblock)).trans (bind_returned rfl)
    | true =>
      have hrange : -2 ^ 31 ≤ m.amount ∧ m.amount < 2 ^ 31 := by
        rw [hamt]
        exact amountOf_range hamount
      rw [bind_returned (malloc_granted hblock), createByMode_constructed_iff hmode htype
        ⟨hamt, horigin, hsize, hrange.1, hrange.2, rfl⟩, hamt]
      exact ⟨fun h => ⟨hdiv, fun _ => h⟩, fun h => h.2 rfl⟩

/-- Two provided blocks. -/
theorem provided_payload_constructed :
    ConstructedOrRefused .provided .payloadLinear none 2 64
      (createBufferPayload (fun _ => true) .provided .payloadLinear none 2 64 7 ⟨0, 0, false⟩) := by
  refine (contextPayload_constructed_iff _ _ _ _ _ (by decide) (by decide) (by decide)).mpr ?_
  refine ⟨?_, fun _ hzero => absurd hzero (by decide)⟩
  rintro ⟨obj, k, hobj, -⟩
  exact absurd hobj (by simp)

/-- One linear block of NORMAL_BUF comes back with the combined type. -/
theorem normal_linear_wrong_type :
    ¬ ConstructedOrRefused .normalBuf .payloadLinear none 1 64
      (createBufferPayload (fun _ => true) .normalBuf .payloadLinear none 1 64 0
        ⟨0, 0, false⟩) := by
  have hrun : ∃ p t, createBufferPayload (fun _ => true) .normalBuf .payloadLinear none 1 64 0
      ⟨0, 0, false⟩ = .ok (.ok p, t) ∧ p.payloadType = some .payloadLinearAndIovec :=
    ⟨_, _, rfl, rfl⟩
  obtain ⟨p, t, hr, htype⟩ := hrun
  rw [hr]
  rintro (⟨t', ht, -⟩ | ⟨-, -, p', t', ht, hcons⟩)
  · exact absurd ht (by simp)
  · obtain ⟨hp, -⟩ := Prod.mk.inj (Except.ok.inj ht)
    obtain rfl := Except.ok.inj hp
    exact absurd (htype.symm.trans hcons.type_eq) (by decide)

end Uringio.Buffers
