/-
  How the builders end.

  A builder of one kind of buffers returns what it was asked for or NULL with an exception,
  and in the second case it holds nothing. Of an empty array `create_linear_buffers` and
  `serialize_linear_buffers` write the first entry all the same. The combined builders hand a
  payload that their caller has not filled to `free_buffer_payload`.
-/
import Uringio.Buffers.Create

namespace Uringio.Buffers

open Lib Lib.Program Lib.Ledger

/-! ## What has to be granted -/

/-- There is memory for an attempt of `PyMem_Malloc`. -/
def Granted (grants : Nat → Bool) (n size : Nat) : Prop := grants n = true ∧ size ≤ pySsizeTMax

instance {grants : Nat → Bool} {n size : Nat} : Decidable (Granted grants n size) :=
  inferInstanceAs (Decidable (_ ∧ _))

/-- There is memory for `k` data blocks. -/
def DataGranted (grants : Nat → Bool) (bufsize k n : Nat) : Prop :=
  ∀ j < k, Granted grants (n + j) bufsize

/-- The first `k` items are there and export their buffer. -/
def Exported (item : Nat → Option (Option LinearBuffer)) (k : Nat) : Prop :=
  ∀ j < k, (item j).join.isSome = true

section Steps

variable {grants : Nat → Bool} {n size id bufsize k : Nat} {held : Multiset Resource} {err : Bool}

theorem malloc_granted (h : grants n = true) :
    malloc grants ⟨n, held, err⟩ = .ok (.ok (some n), ⟨n + 1, .raw n ::ₘ held, err⟩) :=
  acquire_granted h

theorem malloc_refused (h : grants n = false) :
    malloc grants ⟨n, held, err⟩ = .ok (.ok none, ⟨n + 1, held, err⟩) :=
  acquire_refused h

theorem pyMemMalloc_granted (h : Granted grants n size) :
    pyMemMalloc grants size ⟨n, held, err⟩ =
      .ok (.ok (some n), ⟨n + 1, .mem n ::ₘ held, err⟩) :=
  acquire_granted (by simp [h.1, h.2])

theorem pyMemMalloc_refused (h : ¬ Granted grants n size) :
    pyMemMalloc grants size ⟨n, held, err⟩ = .ok (.ok none, ⟨n + 1, held, err⟩) := by
  refine acquire_refused ?_
  unfold Granted at h
  rw [Bool.and_eq_false_iff, decide_eq_false_iff_not]
  rcases not_and_or.mp h with hg | hs
  · exact .inl (by simpa using hg)
  · exact .inr hs

theorem pyMemFree_held :
    pyMemFree (some id) ⟨n, .mem id ::ₘ held, err⟩ = .ok (.ok (), ⟨n, held, err⟩) :=
  release_cons

theorem pyMemFree_of_eq {held' : Multiset Resource} (h : held = .mem id ::ₘ held') :
    pyMemFree (some id) ⟨n, held, err⟩ = .ok (.ok (), ⟨n, held', err⟩) :=
  h ▸ pyMemFree_held

theorem cons_rotate (a b c : Resource) (held : Multiset Resource) :
    a ::ₘ b ::ₘ c ::ₘ held = c ::ₘ a ::ₘ b ::ₘ held := by
  rw [Multiset.cons_swap b, Multiset.cons_swap a]

theorem free_held : free id ⟨n, .raw id ::ₘ held, err⟩ = .ok (.ok (), ⟨n, held, err⟩) :=
  release_cons

theorem freeBlocks_held {got : List (Nat × Unit)} :
    freeBlocks got ⟨n, named .mem got + held, err⟩ = .ok (.ok (), ⟨n, held, err⟩) :=
  releaseEach_add

theorem releaseViews_held {got : List (Nat × LinearBuffer)} :
    releaseViews got ⟨n, named .view got + held, err⟩ = .ok (.ok (), ⟨n, held, err⟩) :=
  releaseEach_add

theorem raise_then_null {α : Type} :
    (raise >>= fun _ => returnNull : BufferProgram α) ⟨n, held, err⟩ =
      .ok (.error (), ⟨n, held, true⟩) :=
  rfl

/-- An array of a negative length is too large. -/
theorem not_granted_of_neg {sizeof : Nat} {len : Int}
    (hsizeof : sizeof = sizeofLinearBuffer ∨ sizeof = sizeofIovec ∨ sizeof = sizeofPyBuffer)
    (hlow : -2 ^ 31 ≤ len) (hneg : len < 0) : ¬ Granted grants n (arraySize sizeof len) := by
  rintro ⟨-, hle⟩
  obtain ⟨k, rfl⟩ : ∃ k : Nat, len = -k := ⟨(-len).toNat, by omega⟩
  have hsize : 1 ≤ sizeof ∧ sizeof ≤ 80 := by
    unfold sizeofLinearBuffer sizeofIovec sizeofPyBuffer at hsizeof
    omega
  have hlow' : sizeof * k ≤ 80 * 2 ^ 31 := Nat.mul_le_mul hsize.2 (by omega)
  have hpos : 1 ≤ sizeof * k := Nat.mul_pos hsize.1 (by omega)
  have hconv : toUint64 (-(k : Int)) = 2 ^ 64 - k := by
    unfold toUint64
    omega
  have hwrap : sizeof * (2 ^ 64 - k) = (sizeof - 1) * 2 ^ 64 + (2 ^ 64 - sizeof * k) := by
    rw [Nat.mul_sub, Nat.sub_mul]
    omega
  unfold arraySize pySsizeTMax at hle
  rw [hconv, hwrap, Nat.mul_add_mod', Nat.mod_eq_of_lt (by omega)] at hle
  omega

theorem taken_data_isSome_iff :
    (taken (dataBlock grants bufsize) k 0 n).isSome ↔ DataGranted grants bufsize k n := by
  rw [taken_isSome_iff]
  refine forall₂_congr fun j _ => ?_
  unfold dataBlock Granted
  split
  · rename_i h
    simpa using h
  · rename_i h
    simpa using h

theorem taken_exports_isSome_iff {item : Nat → Option (Option LinearBuffer)} :
    (taken (fun i _ => (item i).join) k 0 n).isSome ↔ Exported item k := by
  rw [taken_isSome_iff]
  simp only [Nat.zero_add, Exported]

end Steps

/-! ## Linear buffers -/

section Builders

variable {grants : Nat → Bool} {n : Nat} {len bufsize : Int} {payload : Payload}
  {obj : PyBuffers} {held : Multiset Resource} {err : Bool}

/-- The payload with its linear buffers and nothing else. -/
def Payload.withLinear (payload : Payload) (linear : LinearArray) : Payload :=
  { payload with linear := some (some linear), vector := some none }

/-- The payload with its vector and nothing else. -/
def Payload.withVector (payload : Payload) (vector : Vector) : Payload :=
  { payload with vector := some (some vector), linear := some none }

/-- The exports of a user's buffers, with their views. -/
def userViews (views : Nat) (got : List (Nat × LinearBuffer)) : Views :=
  ⟨views, got.map fun x => some (viewOf x)⟩

theorem setViews_of_ne_nil {block : Nat} {buffers : List Linear} {views : Option Views}
    {s : Store} (h : buffers ≠ []) :
    setViews block buffers views s = .ok (.ok (withViews block buffers views), s) := by
  unfold setViews
  rw [if_neg (by simpa using h)]
  rfl

theorem setViews_nil {block : Nat} {views : Option Views} {s : Store} :
    setViews block [] views s = .error .outOfBounds :=
  rfl

theorem ne_nil_of_taken {β : Type} {get : Nat → Nat → Option β} {i : Nat}
    {got : List (Nat × β)} (h : taken get len.toNat i n = some got) (hlen : 0 < len) :
    got ≠ [] := by
  intro hnil
  have := taken_length h
  rw [hnil, List.length_nil] at this
  omega

theorem createLinearBuffers_built {got : List (Nat × Unit)} (hlen : 0 < len)
    (harray : Granted grants n (arraySize sizeofLinearBuffer len))
    (hgot : taken (dataBlock grants (toUint64 bufsize)) len.toNat 0 (n + 1) = some got) :
    createLinearBuffers grants len bufsize payload ⟨n, held, err⟩ =
      .ok (.ok (payload.withLinear
          (withViews n (got.map (runtimeLinear (toUint64 bufsize))) none)),
        ⟨n + 1 + len.toNat, named .mem got + .mem n ::ₘ held, err⟩) := by
  have hne := ne_nil_of_taken hgot hlen
  refine (bind_returned (pyMemMalloc_granted harray)).trans ?_
  refine (bind_returned (acquireAll_taken hgot)).trans ?_
  exact bind_returned (setViews_of_ne_nil (by simpa using hne))

theorem createLinearBuffers_empty (hlen : len.toNat = 0)
    (harray : Granted grants n (arraySize sizeofLinearBuffer len)) :
    createLinearBuffers grants len bufsize payload ⟨n, held, err⟩ = .error .outOfBounds := by
  have hgot : taken (dataBlock grants (toUint64 bufsize)) len.toNat 0 (n + 1) = some [] := by
    rw [hlen]
    rfl
  refine (bind_returned (pyMemMalloc_granted harray)).trans ?_
  refine (bind_returned (acquireAll_taken hgot)).trans ?_
  exact bind_stopped setViews_nil

theorem createLinearBuffers_refused
    (h : Granted grants n (arraySize sizeofLinearBuffer len) →
      ¬ DataGranted grants (toUint64 bufsize) len.toNat (n + 1)) :
    ∃ m, createLinearBuffers grants len bufsize payload ⟨n, held, err⟩ =
      .ok (.error (), ⟨m, held, true⟩) := by
  by_cases harray : Granted grants n (arraySize sizeofLinearBuffer len)
  · have hnone := h harray
    rw [← taken_data_isSome_iff, Option.not_isSome_iff_eq_none] at hnone
    rw [createLinearBuffers, bind_returned (pyMemMalloc_granted harray)]
    refine acquireAll_fails hnone fun xs m => ?_
    refine (bind_returned freeBlocks_held).trans ?_
    exact bind_returned pyMemFree_held
  · exact ⟨n + 1, bind_returned (pyMemMalloc_refused harray)⟩

theorem serializeLinearBuffers_built {got : List (Nat × LinearBuffer)} (hlen : 0 < len)
    (hviews : Granted grants n (arraySize sizeofPyBuffer len))
    (harray : Granted grants (n + 1) (arraySize sizeofLinearBuffer len))
    (hgot : taken (fun i _ => (obj.item i).join) len.toNat 0 (n + 2) = some got) :
    serializeLinearBuffers grants obj len payload ⟨n, held, err⟩ =
      .ok (.ok (payload.withLinear
          (withViews (n + 1) (got.map userLinear) (some (userViews n got)))),
        ⟨n + 2 + len.toNat, named .view got + .mem (n + 1) ::ₘ .mem n ::ₘ held, err⟩) := by
  have hne := ne_nil_of_taken hgot hlen
  refine (bind_returned (pyMemMalloc_granted hviews)).trans ?_
  refine (bind_returned (pyMemMalloc_granted harray)).trans ?_
  refine (bind_returned (acquireAll_taken hgot)).trans ?_
  exact bind_returned (setViews_of_ne_nil (by simpa using hne))

theorem serializeLinearBuffers_empty (hlen : len.toNat = 0)
    (hviews : Granted grants n (arraySize sizeofPyBuffer len))
    (harray : Granted grants (n + 1) (arraySize sizeofLinearBuffer len)) :
    serializeLinearBuffers grants obj len payload ⟨n, held, err⟩ = .error .outOfBounds := by
  have hgot : taken (fun i _ => (obj.item i).join) len.toNat 0 (n + 2) = some [] := by
    rw [hlen]
    rfl
  refine (bind_returned (pyMemMalloc_granted hviews)).trans ?_
  refine (bind_returned (pyMemMalloc_granted harray)).trans ?_
  refine (bind_returned (acquireAll_taken hgot)).trans ?_
  exact bind_stopped setViews_nil

theorem serializeLinearBuffers_refused
    (h : Granted grants n (arraySize sizeofPyBuffer len) →
      Granted grants (n + 1) (arraySize sizeofLinearBuffer len) → ¬ Exported obj.item len.toNat) :
    ∃ m, serializeLinearBuffers grants obj len payload ⟨n, held, err⟩ =
      .ok (.error (), ⟨m, held, true⟩) := by
  by_cases hviews : Granted grants n (arraySize sizeofPyBuffer len)
  · by_cases harray : Granted grants (n + 1) (arraySize sizeofLinearBuffer len)
    · have hnone := h hviews harray
      rw [← taken_exports_isSome_iff (n := n + 2), Option.not_isSome_iff_eq_none] at hnone
      rw [serializeLinearBuffers, bind_returned (pyMemMalloc_granted hviews),
        bind_returned (pyMemMalloc_granted harray)]
      refine acquireAll_fails hnone fun xs m => ?_
      refine (bind_returned rfl).trans ((bind_returned releaseViews_held).trans ?_)
      rw [Multiset.cons_swap]
      refine (bind_returned pyMemFree_held).trans ?_
      exact bind_returned pyMemFree_held
    · refine ⟨n + 2, (bind_returned (pyMemMalloc_granted hviews)).trans ?_⟩
      refine (bind_returned (pyMemMalloc_refused harray)).trans ?_
      exact bind_returned pyMemFree_held
  · by_cases harray : Granted grants (n + 1) (arraySize sizeofLinearBuffer len)
    · refine ⟨n + 2, (bind_returned (pyMemMalloc_refused hviews)).trans ?_⟩
      refine (bind_returned (pyMemMalloc_granted harray)).trans ?_
      exact (bind_returned rfl).trans (bind_returned pyMemFree_held)
    · refine ⟨n + 2, (bind_returned (pyMemMalloc_refused hviews)).trans ?_⟩
      exact bind_returned (pyMemMalloc_refused harray)

/-! ## Vectors -/

/-- The vector of `create_vectored_buffers`. -/
def runtimeVector (vec iovecs bufsize : Nat) (len : Int) (got : List (Nat × Unit)) : Vector :=
  ⟨vec, some (some ⟨iovecs, got.map fun x => some (runtimeVec bufsize x)⟩),
    some (toUnsigned len), some none⟩

/-- The vector of `serialize_vectored_buffers`. -/
def userVector (views vec iovecs : Nat) (len : Int) (got : List (Nat × LinearBuffer)) : Vector :=
  ⟨vec, some (some ⟨iovecs, got.map fun x => some (userVec x)⟩), some (toUnsigned len),
    some (some (userViews views got))⟩

theorem createVectoredBuffers_built {got : List (Nat × Unit)}
    (hvec : Granted grants n sizeofVectoredBuffer)
    (hiovecs : Granted grants (n + 1) (arraySize sizeofIovec len))
    (hgot : taken (dataBlock grants (toUint64 bufsize)) len.toNat 0 (n + 2) = some got) :
    createVectoredBuffers grants len bufsize payload ⟨n, held, err⟩ =
      .ok (.ok (payload.withVector (runtimeVector n (n + 1) (toUint64 bufsize) len got)),
        ⟨n + 2 + len.toNat, named .mem got + .mem (n + 1) ::ₘ .mem n ::ₘ held, err⟩) := by
  refine (bind_returned (pyMemMalloc_granted hvec)).trans ?_
  refine (bind_returned (pyMemMalloc_granted hiovecs)).trans ?_
  exact bind_returned (acquireAll_taken hgot)

theorem createVectoredBuffers_refused
    (h : Granted grants n sizeofVectoredBuffer →
      Granted grants (n + 1) (arraySize sizeofIovec len) →
        ¬ DataGranted grants (toUint64 bufsize) len.toNat (n + 2)) :
    ∃ m, createVectoredBuffers grants len bufsize payload ⟨n, held, err⟩ =
      .ok (.error (), ⟨m, held, true⟩) := by
  by_cases hvec : Granted grants n sizeofVectoredBuffer
  · by_cases hiovecs : Granted grants (n + 1) (arraySize sizeofIovec len)
    · have hnone := h hvec hiovecs
      rw [← taken_data_isSome_iff, Option.not_isSome_iff_eq_none] at hnone
      rw [createVectoredBuffers, bind_returned (pyMemMalloc_granted hvec)]
      dsimp only
      rw [bind_returned (pyMemMalloc_granted hiovecs)]
      refine acquireAll_fails hnone fun xs m => ?_
      refine (bind_returned freeBlocks_held).trans ?_
      refine (bind_returned pyMemFree_held).trans ?_
      exact bind_returned pyMemFree_held
    · refine ⟨n + 2, (bind_returned (pyMemMalloc_granted hvec)).trans ?_⟩
      refine (bind_returned (pyMemMalloc_refused hiovecs)).trans ?_
      exact bind_returned pyMemFree_held
  · exact ⟨n + 1, bind_returned (pyMemMalloc_refused hvec)⟩

section Serialize

variable {fast : List (Option LinearBuffer)}

theorem serializeVectoredBuffers_built {got : List (Nat × LinearBuffer)}
    (hfast : obj.fast = some fast)
    (hviews : Granted grants n (arraySize sizeofPyBuffer (toInt fast.length)))
    (hvec : Granted grants (n + 1) sizeofVectoredBuffer)
    (hiovecs : Granted grants (n + 2) (arraySize sizeofIovec (toInt fast.length)))
    (hgot : taken (fun i _ => (fast[i]?).join) (toInt fast.length).toNat 0 (n + 3) = some got) :
    serializeVectoredBuffers grants obj payload ⟨n, held, err⟩ =
      .ok (.ok (payload.withVector (userVector n (n + 1) (n + 2) (toInt fast.length) got)),
        ⟨n + 3 + (toInt fast.length).toNat,
          named .view got + .mem (n + 2) ::ₘ .mem (n + 1) ::ₘ .mem n ::ₘ held, err⟩) := by
  unfold serializeVectoredBuffers
  rw [hfast]
  refine (bind_returned (pyMemMalloc_granted hviews)).trans ?_
  refine (bind_returned (pyMemMalloc_granted hvec)).trans ?_
  refine (bind_returned (pyMemMalloc_granted hiovecs)).trans ?_
  exact bind_returned (acquireAll_taken hgot)

theorem serializeVectoredBuffers_refused
    (h : ∀ fast, obj.fast = some fast →
      Granted grants n (arraySize sizeofPyBuffer (toInt fast.length)) →
      Granted grants (n + 1) sizeofVectoredBuffer →
      Granted grants (n + 2) (arraySize sizeofIovec (toInt fast.length)) →
        ¬ Exported (fun i => fast[i]?) (toInt fast.length).toNat) :
    ∃ m, serializeVectoredBuffers grants obj payload ⟨n, held, err⟩ =
      .ok (.error (), ⟨m, held, true⟩) := by
  unfold serializeVectoredBuffers
  cases hfast : obj.fast with
  | none => exact ⟨n, rfl⟩
  | some fast =>
    dsimp only
    by_cases hviews : Granted grants n (arraySize sizeofPyBuffer (toInt fast.length))
    · rw [bind_returned (pyMemMalloc_granted hviews)]
      by_cases hvec : Granted grants (n + 1) sizeofVectoredBuffer
      · rw [bind_returned (pyMemMalloc_granted hvec)]
        dsimp only
        by_cases hiovecs : Granted grants (n + 2) (arraySize sizeofIovec (toInt fast.length))
        · have hnone := h fast hfast hviews hvec hiovecs
          rw [← taken_exports_isSome_iff (n := n + 3), Option.not_isSome_iff_eq_none] at hnone
          rw [bind_returned (pyMemMalloc_granted hiovecs)]
          refine acquireAll_fails hnone fun xs m => ?_
          refine (bind_returned rfl).trans ((bind_returned releaseViews_held).trans ?_)
          refine (bind_returned (pyMemFree_of_eq (cons_rotate _ _ _ held))).trans ?_
          refine (bind_returned pyMemFree_held).trans ?_
          exact bind_returned pyMemFree_held
        · refine ⟨n + 3, (bind_returned (pyMemMalloc_refused hiovecs)).trans ?_⟩
          dsimp only
          rw [Multiset.cons_swap]
          refine (bind_returned pyMemFree_held).trans ?_
          exact bind_returned pyMemFree_held
      · refine ⟨n + 2, (bind_returned (pyMemMalloc_refused hvec)).trans ?_⟩
        exact bind_returned pyMemFree_held
    · rw [bind_returned (pyMemMalloc_refused hviews)]
      by_cases hvec : Granted grants (n + 1) sizeofVectoredBuffer
      · refine ⟨n + 2, (bind_returned (pyMemMalloc_granted hvec)).trans ?_⟩
        exact (bind_returned rfl).trans (bind_returned pyMemFree_held)
      · exact ⟨n + 2, bind_returned (pyMemMalloc_refused hvec)⟩

end Serialize

/-! ## Both -/

theorem dropPayload_unassigned {α : Type} {s : Store} (h : payload.mode = none) :
    (dropPayload payload : BufferProgram α) s = .error .unassigned := by
  have hfree : freeBufferPayload payload true ⟨s.next, s.held, true⟩ = .error .unassigned := by
    refine bind_stopped ?_
    rw [h]
    rfl
  exact (bind_returned rfl).trans (bind_stopped hfree)

/-- What `serialize_buffers` asks for. -/
structure SerializeGranted (grants : Nat → Bool) (obj : PyBuffers) (len : Int) (n : Nat) :
    Prop where
  views : Granted grants n (arraySize sizeofPyBuffer len)
  buffers : Granted grants (n + 1) (arraySize sizeofLinearBuffer len)
  vec : Granted grants (n + 2) sizeofVectoredBuffer
  iovecs : Granted grants (n + 3) (arraySize sizeofIovec len)
  exports : Exported obj.item len.toNat

/-- What `make_buffers` asks for. -/
structure MakeGranted (grants : Nat → Bool) (len : Int) (bufsize n : Nat) : Prop where
  buffers : Granted grants n 0 ∧ toUint64 len ≤ pySsizeTMax / sizeofLinearBuffer
  vec : Granted grants (n + 1) sizeofVectoredBuffer
  iovecs : Granted grants (n + 2) (arraySize sizeofIovec len)
  data : DataGranted grants bufsize len.toNat (n + 3)

/-- The payload of `serialize_buffers`. -/
def Payload.serialized (payload : Payload) (n : Nat) (len : Int)
    (got : List (Nat × LinearBuffer)) : Payload :=
  { payload with
    linear := some (some (withViews (n + 1) (got.map userLinear) (some (userViews n got))))
    vector := some (some ⟨n + 2, some (some ⟨n + 3, got.map fun x => some (userVec x)⟩),
      some (toUnsigned len), some none⟩) }

/-- The payload of `make_buffers`. -/
def Payload.made (payload : Payload) (n : Nat) (len : Int) (bufsize : Nat)
    (got : List (Nat × Unit)) : Payload :=
  { payload with
    linear := some (some ⟨n, got.map fun x => some (runtimeLinear bufsize x)⟩)
    vector := some (some ⟨n + 1, some (some ⟨n + 2, got.map fun x =>
      some (runtimeVec bufsize x)⟩), some (toUnsigned len), none⟩) }

theorem SerializeGranted.taken (h : SerializeGranted grants obj len n) (m : Nat) :
    ∃ got, taken (fun i _ => (obj.item i).join) len.toNat 0 m = some got :=
  Option.isSome_iff_exists.mp (taken_exports_isSome_iff.mpr h.exports)

theorem MakeGranted.taken {bufsize : Nat} (h : MakeGranted grants len bufsize n) :
    ∃ got, taken (dataBlock grants bufsize) len.toNat 0 (n + 3) = some got :=
  Option.isSome_iff_exists.mp (taken_data_isSome_iff.mpr h.data)

theorem serializeBuffers_built {got : List (Nat × LinearBuffer)} (hlen : 0 < len)
    (h : SerializeGranted grants obj len n)
    (hgot : taken (fun i _ => (obj.item i).join) len.toNat 0 (n + 4) = some got) :
    serializeBuffers grants obj len payload ⟨n, held, err⟩ =
      .ok (.ok (payload.serialized n len got),
        ⟨n + 4 + len.toNat, named .view got + .mem (n + 3) ::ₘ .mem (n + 2) ::ₘ .mem (n + 1) ::ₘ
          .mem n ::ₘ held, err⟩) := by
  have hne := ne_nil_of_taken hgot hlen
  have hlength := taken_length hgot
  refine (bind_returned (pyMemMalloc_granted h.views)).trans ?_
  refine (bind_returned (pyMemMalloc_granted h.buffers)).trans ?_
  refine (bind_returned (pyMemMalloc_granted h.vec)).trans ?_
  refine (bind_returned (pyMemMalloc_granted h.iovecs)).trans ?_
  refine (bind_returned (acquireAll_taken hgot)).trans ?_
  refine (bind_returned (setViews_of_ne_nil (by simpa using hne))).trans ?_
  dsimp only [List.nil_append]
  rw [hlength, Nat.sub_self, List.replicate_zero, List.append_nil]
  rfl

theorem serializeBuffers_empty (hlen : len.toNat = 0) (h : SerializeGranted grants obj len n) :
    serializeBuffers grants obj len payload ⟨n, held, err⟩ = .error .outOfBounds := by
  have hgot : taken (fun i _ => (obj.item i).join) len.toNat 0 (n + 4) = some [] := by
    rw [hlen]
    rfl
  refine (bind_returned (pyMemMalloc_granted h.views)).trans ?_
  refine (bind_returned (pyMemMalloc_granted h.buffers)).trans ?_
  refine (bind_returned (pyMemMalloc_granted h.vec)).trans ?_
  refine (bind_returned (pyMemMalloc_granted h.iovecs)).trans ?_
  refine (bind_returned (acquireAll_taken hgot)).trans ?_
  exact bind_stopped setViews_nil

/-- Every failure exit of `serialize_buffers` reads the mode of the payload. -/
theorem serializeBuffers_refused (hmode : payload.mode = none)
    (h : ¬ SerializeGranted grants obj len n) :
    serializeBuffers grants obj len payload ⟨n, held, err⟩ = .error .unassigned := by
  by_cases hviews : Granted grants n (arraySize sizeofPyBuffer len)
  · refine (bind_returned (pyMemMalloc_granted hviews)).trans ?_
    by_cases hbuffers : Granted grants (n + 1) (arraySize sizeofLinearBuffer len)
    · refine (bind_returned (pyMemMalloc_granted hbuffers)).trans ?_
      by_cases hvec : Granted grants (n + 2) sizeofVectoredBuffer
      · refine (bind_returned (pyMemMalloc_granted hvec)).trans ?_
        by_cases hiovecs : Granted grants (n + 3) (arraySize sizeofIovec len)
        · refine (bind_returned (pyMemMalloc_granted hiovecs)).trans ?_
          have hnone : ¬ Exported obj.item len.toNat :=
            fun hexp => h ⟨hviews, hbuffers, hvec, hiovecs, hexp⟩
          rw [← taken_exports_isSome_iff (n := n + 4), Option.not_isSome_iff_eq_none] at hnone
          exact acquireAll_stops hnone fun xs m => dropPayload_unassigned hmode
        · refine (bind_returned (pyMemMalloc_refused hiovecs)).trans ?_
          exact dropPayload_unassigned hmode
      · refine (bind_returned (pyMemMalloc_refused hvec)).trans ?_
        exact dropPayload_unassigned hmode
    · refine (bind_returned (pyMemMalloc_refused hbuffers)).trans ?_
      exact dropPayload_unassigned hmode
  · refine (bind_returned (pyMemMalloc_refused hviews)).trans ?_
    exact dropPayload_unassigned hmode

theorem pyMemCalloc_granted {nelem elsize : Nat}
    (h : Granted grants n 0 ∧ nelem ≤ pySsizeTMax / elsize) :
    pyMemCalloc grants nelem elsize ⟨n, held, err⟩ =
      .ok (.ok (some n), ⟨n + 1, .mem n ::ₘ held, err⟩) :=
  acquire_granted (by simp [h.1.1, h.2])

theorem pyMemCalloc_refused {nelem elsize : Nat}
    (h : ¬ (Granted grants n 0 ∧ nelem ≤ pySsizeTMax / elsize)) :
    pyMemCalloc grants nelem elsize ⟨n, held, err⟩ = .ok (.ok none, ⟨n + 1, held, err⟩) := by
  refine acquire_refused ?_
  rw [Bool.and_eq_false_iff, decide_eq_false_iff_not]
  rcases not_and_or.mp h with hg | hs
  · refine .inl ?_
    by_contra hn
    exact hg ⟨by simpa using hn, Nat.zero_le _⟩
  · exact .inr hs

theorem makeBuffers_built {bufsize : Nat} {got : List (Nat × Unit)}
    (h : MakeGranted grants len bufsize n)
    (hgot : taken (dataBlock grants bufsize) len.toNat 0 (n + 3) = some got) :
    makeBuffers grants len bufsize payload ⟨n, held, err⟩ =
      .ok (.ok (payload.made n len bufsize got),
        ⟨n + 3 + len.toNat, named .mem got + .mem (n + 2) ::ₘ .mem (n + 1) ::ₘ .mem n ::ₘ held,
          err⟩) := by
  have hlength := taken_length hgot
  refine (bind_returned (pyMemCalloc_granted h.buffers)).trans ?_
  refine (bind_returned (pyMemMalloc_granted h.vec)).trans ?_
  refine (bind_returned (pyMemMalloc_granted h.iovecs)).trans ?_
  refine (bind_returned (acquireAll_taken hgot)).trans ?_
  dsimp only [List.nil_append]
  rw [hlength, Nat.sub_self, List.replicate_zero, List.replicate_zero, List.append_nil,
    List.append_nil]
  rfl

/-- Every failure exit of `make_buffers` reads the mode of the payload. -/
theorem makeBuffers_refused {bufsize : Nat} (hmode : payload.mode = none)
    (h : ¬ MakeGranted grants len bufsize n) :
    makeBuffers grants len bufsize payload ⟨n, held, err⟩ = .error .unassigned := by
  by_cases hbuffers : Granted grants n 0 ∧ toUint64 len ≤ pySsizeTMax / sizeofLinearBuffer
  · refine (bind_returned (pyMemCalloc_granted hbuffers)).trans ?_
    by_cases hvec : Granted grants (n + 1) sizeofVectoredBuffer
    · refine (bind_returned (pyMemMalloc_granted hvec)).trans ?_
      by_cases hiovecs : Granted grants (n + 2) (arraySize sizeofIovec len)
      · refine (bind_returned (pyMemMalloc_granted hiovecs)).trans ?_
        have hnone : ¬ DataGranted grants bufsize len.toNat (n + 3) :=
          fun hdata => h ⟨hbuffers, hvec, hiovecs, hdata⟩
        rw [← taken_data_isSome_iff, Option.not_isSome_iff_eq_none] at hnone
        exact acquireAll_stops hnone fun xs m => dropPayload_unassigned hmode
      · refine (bind_returned (pyMemMalloc_refused hiovecs)).trans ?_
        exact dropPayload_unassigned hmode
    · refine (bind_returned (pyMemMalloc_refused hvec)).trans ?_
      exact dropPayload_unassigned hmode
  · refine (bind_returned (pyMemCalloc_refused hbuffers)).trans ?_
    exact dropPayload_unassigned hmode

end Builders

/-! ## What a return says -/

section Returned

variable {grants : Nat → Bool} {n : Nat} {len bufsize : Int} {payload p : Payload}
  {obj : PyBuffers} {held : Multiset Resource} {err : Bool} {s t : Store}

/-- A program that ends in `return NULL`. -/
def Fails {α : Type} (m : BufferProgram α) : Prop := ∀ s a t, m s ≠ .ok (.ok a, t)

theorem Fails.null {α : Type} : Fails (returnNull : BufferProgram α) := by
  intro s a t h
  exact absurd h (by simp [returnNull, fail])

theorem Fails.after {α β : Type} {m : BufferProgram α} {f : α → BufferProgram β}
    (hf : ∀ a, Fails (f a)) : Fails (m >>= f) := by
  intro s b t h
  rcases bind_eq_ok h with ⟨x, t', -, hx⟩ | ⟨a, t', -, hfa⟩
  · exact absurd hx (by simp)
  · exact hf a t' b t hfa

/-- A function that returns has got past its first attempt, if it gives up without it. -/
theorem granted_of_returned {f : Option Nat → BufferProgram Payload}
    {m : BufferProgram (Option Nat)} {mk : Nat → Resource} {P : Prop} (hnone : Fails (f none))
    (hgranted : P → m ⟨n, held, err⟩ = .ok (.ok (some n), ⟨n + 1, mk n ::ₘ held, err⟩))
    (hrefused : ¬ P → m ⟨n, held, err⟩ = .ok (.ok none, ⟨n + 1, held, err⟩))
    (hr : (m >>= f) ⟨n, held, err⟩ = .ok (.ok p, t)) :
    f (some n) ⟨n + 1, mk n ::ₘ held, err⟩ = .ok (.ok p, t) := by
  by_cases hp : P
  · exact (bind_returned (hgranted hp)).symm.trans hr
  · exact absurd ((bind_returned (hrefused hp)).symm.trans hr) (hnone _ _ _)

theorem pyMemMalloc_of_returned {f : Option Nat → BufferProgram Payload} {size : Nat}
    (hnone : Fails (f none))
    (hr : (pyMemMalloc grants size >>= f) ⟨n, held, err⟩ = .ok (.ok p, t)) :
    f (some n) ⟨n + 1, .mem n ::ₘ held, err⟩ = .ok (.ok p, t) :=
  granted_of_returned hnone pyMemMalloc_granted pyMemMalloc_refused hr

theorem malloc_of_returned {f : Option Nat → BufferProgram Payload} (hnone : Fails (f none))
    (hr : (malloc grants >>= f) ⟨n, held, err⟩ = .ok (.ok p, t)) :
    f (some n) ⟨n + 1, .raw n ::ₘ held, err⟩ = .ok (.ok p, t) :=
  granted_of_returned hnone malloc_granted (fun h => malloc_refused (by simpa using h)) hr

theorem exports_of_returned {f : List (Nat × LinearBuffer) → BufferProgram Payload}
    {item : Nat → Option (Option LinearBuffer)}
    {undo : List (Nat × LinearBuffer) → BufferProgram (List (Nat × LinearBuffer))}
    (hundo : ∀ got, Fails (undo got))
    (hr : (acquireExports item len undo >>= f) ⟨n, held, err⟩ = .ok (.ok p, t)) :
    ∃ got, taken (fun i _ => (item i).join) len.toNat 0 n = some got ∧
      f got ⟨n + len.toNat, named .view got + held, err⟩ = .ok (.ok p, t) := by
  cases hgot : taken (fun i _ => (item i).join) len.toNat 0 n with
  | some got => exact ⟨got, rfl, (bind_returned (acquireAll_taken hgot)).symm.trans hr⟩
  | none =>
    obtain ⟨xs, m, -, hrun⟩ := acquireAll_refused Resource.view undo held err
      (show taken _ len.toNat ([] : List (Nat × LinearBuffer)).length n = none from hgot)
    rcases bind_eq_ok hr with ⟨x, t', -, hx⟩ | ⟨got, t', hacq, -⟩
    · exact absurd hx (by simp)
    · exact absurd (hrun.symm.trans hacq) (hundo _ _ _ _)

theorem data_of_returned {f : List (Nat × Unit) → BufferProgram Payload} {size : Nat}
    {undo : List (Nat × Unit) → BufferProgram (List (Nat × Unit))} (hundo : ∀ got, Fails (undo got))
    (hr : (allocate grants size len undo >>= f) ⟨n, held, err⟩ = .ok (.ok p, t)) :
    ∃ got, taken (dataBlock grants size) len.toNat 0 n = some got ∧
      f got ⟨n + len.toNat, named .mem got + held, err⟩ = .ok (.ok p, t) := by
  cases hgot : taken (dataBlock grants size) len.toNat 0 n with
  | some got => exact ⟨got, rfl, (bind_returned (acquireAll_taken hgot)).symm.trans hr⟩
  | none =>
    obtain ⟨xs, m, -, hrun⟩ := acquireAll_refused Resource.mem undo held err
      (show taken _ len.toNat ([] : List (Nat × Unit)).length n = none from hgot)
    rcases bind_eq_ok hr with ⟨x, t', -, hx⟩ | ⟨got, t', hacq, -⟩
    · exact absurd hx (by simp)
    · exact absurd (hrun.symm.trans hacq) (hundo _ _ _ _)

theorem setViews_of_returned {f : LinearArray → BufferProgram Payload} {block : Nat}
    {buffers : List Linear} {views : Option Views}
    (hr : (setViews block buffers views >>= f) s = .ok (.ok p, t)) :
    buffers ≠ [] ∧ f (withViews block buffers views) s = .ok (.ok p, t) := by
  cases buffers with
  | nil => exact absurd ((bind_stopped setViews_nil).symm.trans hr) (by simp)
  | cons b rest =>
    have hne : b :: rest ≠ [] := List.cons_ne_nil _ _
    exact ⟨hne, (bind_returned (setViews_of_ne_nil hne)).symm.trans hr⟩

theorem createLinearBuffers_returned
    (hr : createLinearBuffers grants len bufsize payload ⟨n, held, err⟩ = .ok (.ok p, t)) :
    ∃ got, taken (dataBlock grants (toUint64 bufsize)) len.toNat 0 (n + 1) = some got ∧ got ≠ [] ∧
      p = payload.withLinear (withViews n (got.map (runtimeLinear (toUint64 bufsize))) none) ∧
      t = ⟨n + 1 + len.toNat, named .mem got + .mem n ::ₘ held, err⟩ := by
  have hr := pyMemMalloc_of_returned (.after fun _ => .null) hr
  obtain ⟨got, hgot, hr⟩ := data_of_returned
    (fun _ => .after fun _ => .after fun _ => .after fun _ => .null) hr
  obtain ⟨hne, hr⟩ := setViews_of_returned hr
  obtain ⟨hp, rfl⟩ := Prod.mk.inj (Except.ok.inj hr)
  exact ⟨got, hgot, by simpa using hne, (Except.ok.inj hp).symm, rfl⟩

theorem serializeLinearBuffers_returned
    (hr : serializeLinearBuffers grants obj len payload ⟨n, held, err⟩ = .ok (.ok p, t)) :
    ∃ got, taken (fun i _ => (obj.item i).join) len.toNat 0 (n + 2) = some got ∧ got ≠ [] ∧
      p = payload.withLinear (withViews (n + 1) (got.map userLinear) (some (userViews n got))) ∧
      t = ⟨n + 2 + len.toNat, named .view got + .mem (n + 1) ::ₘ .mem n ::ₘ held, err⟩ := by
  have hr := pyMemMalloc_of_returned
    (.after fun _ => .after fun _ => .after fun _ => .after fun _ => .null) hr
  have hr := pyMemMalloc_of_returned (.after fun _ => .after fun _ => .after fun _ => .null) hr
  obtain ⟨got, hgot, hr⟩ := exports_of_returned
    (fun _ => .after fun _ => .after fun _ => .after fun _ => .after fun _ => .null) hr
  obtain ⟨hne, hr⟩ := setViews_of_returned hr
  obtain ⟨hp, rfl⟩ := Prod.mk.inj (Except.ok.inj hr)
  exact ⟨got, hgot, by simpa using hne, (Except.ok.inj hp).symm, rfl⟩

theorem createVectoredBuffers_returned
    (hr : createVectoredBuffers grants len bufsize payload ⟨n, held, err⟩ = .ok (.ok p, t)) :
    ∃ got, p = payload.withVector (runtimeVector n (n + 1) (toUint64 bufsize) len got) ∧
      t = ⟨n + 2 + len.toNat, named .mem got + .mem (n + 1) ::ₘ .mem n ::ₘ held, err⟩ := by
  have hr := pyMemMalloc_of_returned (.after fun _ => .null) hr
  have hr := pyMemMalloc_of_returned (.after fun _ => .after fun _ => .null) hr
  obtain ⟨got, -, hr⟩ := data_of_returned
    (fun _ => .after fun _ => .after fun _ => .after fun _ => .after fun _ => .null) hr
  obtain ⟨hp, rfl⟩ := Prod.mk.inj (Except.ok.inj hr)
  exact ⟨got, (Except.ok.inj hp).symm, rfl⟩

theorem serializeVectoredBuffers_returned
    (hr : serializeVectoredBuffers grants obj payload ⟨n, held, err⟩ = .ok (.ok p, t)) :
    ∃ fast got, obj.fast = some fast ∧
      taken (fun i _ => (fast[i]?).join) (toInt fast.length).toNat 0 (n + 3) = some got ∧
      p = payload.withVector (userVector n (n + 1) (n + 2) (toInt fast.length) got) ∧
      t = ⟨n + 3 + (toInt fast.length).toNat,
        named .view got + .mem (n + 2) ::ₘ .mem (n + 1) ::ₘ .mem n ::ₘ held, err⟩ := by
  unfold serializeVectoredBuffers at hr
  cases hfast : obj.fast with
  | none =>
    rw [hfast] at hr
    exact absurd hr (Fails.after (fun _ => .null) _ _ _)
  | some fast =>
    rw [hfast] at hr
    have hr := pyMemMalloc_of_returned
      (.after fun _ => .after fun _ => .after fun _ => .after fun _ => .null) hr
    have hr := pyMemMalloc_of_returned (.after fun _ => .after fun _ => .after fun _ => .null) hr
    have hr := pyMemMalloc_of_returned (.after fun _ => .after fun _ => .after fun _ => .null) hr
    obtain ⟨got, hgot, hr⟩ := exports_of_returned
      (fun _ => .after fun _ => .after fun _ => .after fun _ => .after fun _ => .after fun _ =>
        .null) hr
    obtain ⟨hp, rfl⟩ := Prod.mk.inj (Except.ok.inj hr)
    exact ⟨fast, got, rfl, hgot, (Except.ok.inj hp).symm, rfl⟩

theorem Fails.dropPayload {α : Type} : Fails (Buffers.dropPayload payload : BufferProgram α) :=
  .after fun _ => .after fun _ => .null

theorem serializeBuffers_returned
    (hr : serializeBuffers grants obj len payload ⟨n, held, err⟩ = .ok (.ok p, t)) :
    ∃ got, taken (fun i _ => (obj.item i).join) len.toNat 0 (n + 4) = some got ∧ got ≠ [] ∧
      p = payload.serialized n len got ∧
      t = ⟨n + 4 + len.toNat, named .view got + .mem (n + 3) ::ₘ .mem (n + 2) ::ₘ .mem (n + 1) ::ₘ
        .mem n ::ₘ held, err⟩ := by
  have hr := pyMemMalloc_of_returned .dropPayload hr
  have hr := pyMemMalloc_of_returned .dropPayload hr
  have hr := pyMemMalloc_of_returned .dropPayload hr
  have hr := pyMemMalloc_of_returned .dropPayload hr
  obtain ⟨got, hgot, hr⟩ := exports_of_returned (fun _ => .dropPayload) hr
  obtain ⟨hne, hr⟩ := setViews_of_returned hr
  obtain ⟨hp, rfl⟩ := Prod.mk.inj (Except.ok.inj hr)
  refine ⟨got, hgot, by simpa using hne, ?_, rfl⟩
  rw [← Except.ok.inj hp]
  dsimp only [List.nil_append]
  rw [taken_length hgot, Nat.sub_self, List.replicate_zero, List.append_nil]
  rfl

theorem makeBuffers_returned {bufsize : Nat}
    (hr : makeBuffers grants len bufsize payload ⟨n, held, err⟩ = .ok (.ok p, t)) :
    ∃ got, taken (dataBlock grants bufsize) len.toNat 0 (n + 3) = some got ∧
      p = payload.made n len bufsize got ∧
      t = ⟨n + 3 + len.toNat, named .mem got + .mem (n + 2) ::ₘ .mem (n + 1) ::ₘ .mem n ::ₘ held,
        err⟩ := by
  have hr := granted_of_returned .dropPayload pyMemCalloc_granted pyMemCalloc_refused hr
  have hr := pyMemMalloc_of_returned .dropPayload hr
  have hr := pyMemMalloc_of_returned .dropPayload hr
  obtain ⟨got, hgot, hr⟩ := data_of_returned (fun _ => .dropPayload) hr
  obtain ⟨hp, rfl⟩ := Prod.mk.inj (Except.ok.inj hr)
  refine ⟨got, hgot, ?_, rfl⟩
  rw [← Except.ok.inj hp]
  dsimp only [List.nil_append]
  rw [taken_length hgot, Nat.sub_self, List.replicate_zero, List.replicate_zero,
    List.append_nil, List.append_nil]
  rfl

end Returned

end Uringio.Buffers
