/-
  NULL and exceptions of the functions that build a payload.

  Every one of them that fails sets an exception, and one that succeeds sets none, with one
  exception: `_get_buffer_metadata` has no way to fail. It sets an exception of an object that
  is no sequence and returns zeros, and the caller goes on (`createBufferPayload_settled`,
  `createBufferPayload_passes`).
-/
import Uringio.Buffers.Outcomes

namespace Uringio.Buffers

open Lib Lib.Program Lib.Ledger

/-- An exception is pending or not. -/
def Flagged (pending : Bool) (s : Store) : Prop := s.rest = pending

/-- The program sets no exception, and does not fail. -/
def Steps {α : Type} (m : BufferProgram α) : Prop :=
  ∀ pending, Triple (Flagged pending) m (fun _ => Flagged pending) (fun _ _ => False)

/-- NULL comes with an exception and a result without. -/
def Settled {α : Type} (pending : Bool) (m : BufferProgram α) : Prop :=
  Triple (Flagged pending) m (fun _ => Flagged false) (fun _ => Flagged true)

/-! ## Steps -/

section Steps

variable {α β : Type} {m : BufferProgram α} {f : α → BufferProgram β}

theorem Steps.pure (a : α) : Steps (Pure.pure a : BufferProgram α) := fun _ _ hs => hs

theorem Steps.ret (a : α) : Steps (Program.ret a : BufferProgram α) := fun _ _ hs => hs

theorem Steps.stop (e : Fault) : Steps (Program.stop e : BufferProgram α) := fun _ _ _ => trivial

theorem Steps.bind (hm : Steps m) (hf : ∀ a, Steps (f a)) : Steps (m >>= f) := fun pending =>
  (hm pending).bind fun a => hf a pending

theorem acquire_steps (grants : Nat → Bool) (mk : Nat → Resource) :
    Steps (Ledger.acquire grants mk) := by
  intro pending s hs
  unfold Ledger.acquire
  cases grants s.next with
  | true => exact hs
  | false => exact hs

theorem release_steps (r : Resource) : Steps (Ledger.release .notHeld r) := by
  intro pending s hs
  unfold Ledger.release
  by_cases h : r ∈ s.held
  · rw [if_pos h]
    exact hs
  · rw [if_neg h]
    trivial

theorem releaseEach_steps (rs : List Resource) : Steps (Ledger.releaseEach .notHeld rs) := by
  induction rs with
  | nil => exact .ret ()
  | cons r rs ih => exact (release_steps r).bind fun _ => ih

theorem pyMemFree_steps (block : Option Nat) : Steps (pyMemFree block) := by
  cases block with
  | none => exact .ret ()
  | some id => exact release_steps _

theorem freeData_steps (data : Data) : Steps (freeData data) := by
  rcases data with _ | id | buf
  · exact .ret ()
  · exact pyMemFree_steps (some id)
  · cases buf with
    | null => exact .ret ()
    | _ => exact .stop _

theorem pyBufferRelease_steps (view : View) : Steps (pyBufferRelease view) := by
  unfold pyBufferRelease
  cases view.obj with
  | none => exact .ret ()
  | some id => exact release_steps _

theorem get_steps (x : Field α) : Steps (get x) := by
  cases x with
  | none => exact .stop _
  | some a => exact .ret a

theorem getEntry_steps (entries : List (Field α)) (i : Nat) : Steps (getEntry entries i) := by
  unfold getEntry
  cases entries[i]? with
  | none => exact .stop _
  | some entry => exact get_steps entry

theorem forEntries_steps {entries : List (Field α)} {g : α → BufferProgram Unit}
    (hg : ∀ a, Steps (g a)) (n i : Nat) : Steps (forEntries entries g n i) := by
  induction n generalizing i with
  | zero => exact .ret ()
  | succ n ih => exact (getEntry_steps entries i).bind fun a => (hg a).bind fun _ => ih (i + 1)

theorem setViews_steps (block : Nat) (buffers : List Linear) (views : Option Views) :
    Steps (setViews block buffers views) := by
  unfold setViews
  split
  · exact .stop _
  · exact .ret _

theorem freeViews_steps (payload : Payload) (views : Option Views) :
    Steps (freeViews payload views) := by
  cases views with
  | none => exact .ret ()
  | some views =>
    refine (get_steps _).bind fun amount => ?_
    exact (forEntries_steps pyBufferRelease_steps _ _).bind fun _ => pyMemFree_steps _

theorem freeLinear_steps (payload : Payload) (linear : Option LinearArray) :
    Steps (freeLinear payload linear) := by
  cases linear with
  | none => exact .ret ()
  | some linear =>
    have hdata : Steps (freeLinearData payload linear) := by
      refine (get_steps _).bind fun origin => ?_
      split
      · exact (get_steps _).bind fun amount => forEntries_steps (fun b => freeData_steps _) _ _
      · exact .ret ()
    refine hdata.bind fun _ => (getEntry_steps _ _).bind fun first => ?_
    exact (freeViews_steps _ _).bind fun _ => pyMemFree_steps _

theorem freeVector_steps (payload : Payload) (vector : Option Vector) :
    Steps (freeVector payload vector) := by
  cases vector with
  | none => exact .ret ()
  | some vector =>
    have hdata : Steps (freeVectorData payload vector) := by
      refine (get_steps _).bind fun origin => ?_
      split
      · refine (get_steps _).bind fun nrVecs => (get_steps _).bind fun iovecs => ?_
        cases iovecs with
        | some iovecs => exact forEntries_steps (fun v => freeData_steps _) _ _
        | none =>
          dsimp only
          split
          · exact .ret ()
          · exact .stop _
      · exact .ret ()
    refine hdata.bind fun _ => (get_steps _).bind fun views => (freeViews_steps _ _).bind fun _ => ?_
    refine (get_steps _).bind fun iovecs => ?_
    exact (pyMemFree_steps _).bind fun _ => pyMemFree_steps _

theorem freeBufferPayload_steps (payload : Payload) (force : Bool) :
    Steps (freeBufferPayload payload force) := by
  refine (get_steps _).bind fun mode => ?_
  split
  · exact .ret ()
  · refine (get_steps _).bind fun linear => (freeLinear_steps _ _).bind fun _ => ?_
    refine (get_steps _).bind fun vector => (freeVector_steps _ _).bind fun _ => ?_
    exact release_steps _

end Steps

/-! ## Settled programs -/

section Settled

variable {α β : Type} {pending : Bool} {m : BufferProgram α} {f : α → BufferProgram β}

theorem Settled.pure (a : α) : Settled false (Pure.pure a : BufferProgram α) := fun _ hs => hs

theorem Settled.stop (e : Fault) : Settled pending (Program.stop e : BufferProgram α) :=
  fun _ _ => trivial

theorem Settled.null : Settled true (returnNull : BufferProgram α) := fun _ hs => hs

theorem Settled.bind (hm : Settled pending m) (hf : ∀ a, Settled false (f a)) :
    Settled pending (m >>= f) :=
  Triple.bind hm hf

/-- A step leaves the rest of the program as it is. -/
theorem Steps.then (hm : Steps m) (hf : ∀ a, Settled pending (f a)) :
    Settled pending (m >>= f) :=
  Triple.bind ((hm pending).conseq (fun _ h => h) (fun _ _ h => h) fun _ _ h => h.elim) hf

/-- Once an exception is set a program can only fail. -/
theorem raise_then {m : BufferProgram α} (hm : Settled true m) :
    Settled pending (raise >>= fun _ => m) :=
  Triple.bind (Q := fun _ => Flagged true) (.change fun _ _ => rfl) fun _ => hm

theorem Settled.refuse : Settled pending (raise >>= fun _ => returnNull : BufferProgram α) :=
  raise_then .null

theorem dropPayload_settled (payload : Payload) :
    Settled pending (dropPayload payload : BufferProgram α) :=
  raise_then ((freeBufferPayload_steps payload true).then fun _ => .null)

theorem acquireAll_settled {γ : Type} {get : Nat → Nat → Option γ} {mk : Nat → Resource}
    {undo : List (Nat × γ) → BufferProgram (List (Nat × γ))} (hu : ∀ got, Settled false (undo got))
    (k : Nat) (got : List (Nat × γ)) : Settled false (Ledger.acquireAll get mk undo k got) := by
  induction k generalizing got with
  | zero => exact .pure got
  | succ k ih =>
    intro s hs
    unfold Ledger.acquireAll
    cases get got.length s.next with
    | some b => exact ih _ _ hs
    | none => exact hu got _ hs

end Settled

/-! ## The builders -/

section Builders

variable {grants : Nat → Bool}

theorem createLinearBuffers_settled (len bufsize : Int) (payload : Payload) :
    Settled false (createLinearBuffers grants len bufsize payload) := by
  refine (acquire_steps _ _).then fun buffers => ?_
  cases buffers with
  | none => exact .refuse
  | some buffers =>
    refine (acquireAll_settled (fun got => ?_) _ _).bind fun got => ?_
    · exact (releaseEach_steps _).then fun _ => (pyMemFree_steps _).then fun _ => .refuse
    · exact (setViews_steps _ _ _).then fun _ => .pure _

theorem serializeLinearBuffers_settled (obj : PyBuffers) (len : Int) (payload : Payload) :
    Settled false (serializeLinearBuffers grants obj len payload) := by
  have hexit : ∀ views buffers : Option Nat, Settled false
      (pyMemFree views >>= fun _ => pyMemFree buffers >>= fun _ =>
        raise >>= fun _ => (returnNull : BufferProgram Payload)) := fun views buffers =>
    (pyMemFree_steps _).then fun _ => (pyMemFree_steps _).then fun _ => .refuse
  refine (acquire_steps _ _).then fun views => (acquire_steps _ _).then fun buffers => ?_
  cases views with
  | none => exact hexit none buffers
  | some views =>
    cases buffers with
    | none => exact hexit (some views) none
    | some buffers =>
      refine (acquireAll_settled (fun got => ?_) _ _).bind fun got => ?_
      · refine raise_then ((releaseEach_steps _).then fun _ => ?_)
        exact (pyMemFree_steps _).then fun _ => (pyMemFree_steps _).then fun _ => .null
      · exact (setViews_steps _ _ _).then fun _ => .pure _

theorem createVectoredBuffers_settled (len bufsize : Int) (payload : Payload) :
    Settled false (createVectoredBuffers grants len bufsize payload) := by
  refine (acquire_steps _ _).then fun vec => ?_
  cases vec with
  | none => exact .refuse
  | some vec =>
    refine (acquire_steps _ _).then fun iovecs => ?_
    cases iovecs with
    | none => exact (pyMemFree_steps _).then fun _ => .refuse
    | some iovecs =>
      refine (acquireAll_settled (fun got => ?_) _ _).bind fun got => .pure _
      refine (releaseEach_steps _).then fun _ => (pyMemFree_steps _).then fun _ => ?_
      exact (pyMemFree_steps _).then fun _ => .refuse

theorem serializeVectoredBuffers_settled (obj : PyBuffers) (payload : Payload) :
    Settled false (serializeVectoredBuffers grants obj payload) := by
  have hexit : ∀ views vec : Option Nat, Settled false
      (pyMemFree views >>= fun _ => pyMemFree vec >>= fun _ =>
        raise >>= fun _ => (returnNull : BufferProgram Payload)) := fun views vec =>
    (pyMemFree_steps _).then fun _ => (pyMemFree_steps _).then fun _ => .refuse
  unfold serializeVectoredBuffers
  cases obj.fast with
  | none => exact .refuse
  | some fast =>
    refine (acquire_steps _ _).then fun views => (acquire_steps _ _).then fun vec => ?_
    cases views with
    | none => exact hexit none vec
    | some views =>
      cases vec with
      | none => exact hexit (some views) none
      | some vec =>
        refine (acquire_steps _ _).then fun iovecs => ?_
        cases iovecs with
        | none => exact hexit (some views) (some vec)
        | some iovecs =>
          refine (acquireAll_settled (fun got => ?_) _ _).bind fun got => .pure _
          refine raise_then ((releaseEach_steps _).then fun _ => (pyMemFree_steps _).then fun _ => ?_)
          exact (pyMemFree_steps _).then fun _ => (pyMemFree_steps _).then fun _ => .null

theorem serializeBuffers_settled (obj : PyBuffers) (len : Int) (payload : Payload) :
    Settled false (serializeBuffers grants obj len payload) := by
  refine (acquire_steps _ _).then fun views => ?_
  cases views with
  | none => exact dropPayload_settled _
  | some views =>
    refine (acquire_steps _ _).then fun buffers => ?_
    cases buffers with
    | none => exact dropPayload_settled _
    | some buffers =>
      refine (acquire_steps _ _).then fun vec => ?_
      cases vec with
      | none => exact dropPayload_settled _
      | some vec =>
        refine (acquire_steps _ _).then fun iovecs => ?_
        cases iovecs with
        | none => exact dropPayload_settled _
        | some iovecs =>
          refine (acquireAll_settled (fun got => dropPayload_settled _) _ _).bind fun got => ?_
          exact (setViews_steps _ _ _).then fun _ => .pure _

theorem makeBuffers_settled (len : Int) (bufsize : Nat) (payload : Payload) :
    Settled false (makeBuffers grants len bufsize payload) := by
  refine (acquire_steps _ _).then fun buffers => ?_
  cases buffers with
  | none => exact dropPayload_settled _
  | some buffers =>
    refine (acquire_steps _ _).then fun vec => ?_
    cases vec with
    | none => exact dropPayload_settled _
    | some vec =>
      refine (acquire_steps _ _).then fun iovecs => ?_
      cases iovecs with
      | none => exact dropPayload_settled _
      | some iovecs =>
        exact (acquireAll_settled (fun got => dropPayload_settled _) _ _).bind fun got => .pure _

variable {m : BufferMetadata} {buffersObj : Option PyBuffers} {payloadType : PayloadType}
  {mode : BufferMode} {payload : Payload} (horigin : m.payloadOrigin ≠ .originNoVal)

include horigin

theorem linearByOrigin_settled :
    Settled false (linearByOrigin grants m buffersObj payload) := by
  unfold linearByOrigin
  split
  · exact createLinearBuffers_settled _ _ _
  · exact serializeLinearBuffers_settled _ _ _
  · exact .stop _
  · exact absurd ‹_› horigin

theorem vectoredByOrigin_settled :
    Settled false (vectoredByOrigin grants m buffersObj payload) := by
  unfold vectoredByOrigin
  split
  · exact createVectoredBuffers_settled _ _ _
  · exact serializeVectoredBuffers_settled _ _
  · exact .stop _
  · exact absurd ‹_› horigin

theorem combinedByOrigin_settled :
    Settled false (combinedByOrigin grants m buffersObj payload) := by
  unfold combinedByOrigin
  split
  · exact makeBuffers_settled _ _ _
  · exact serializeBuffers_settled _ _ _
  · exact .stop _
  · exact absurd ‹_› horigin

theorem createByMode_settled (hmode : mode ≠ .bufNoVal)
    (htype : payloadType ≠ .payloadTypeNoVal) (rand : Int) :
    Settled false (createByMode grants m mode payloadType buffersObj rand payload) := by
  have hfixed : ∀ payload, Settled false (fixedCase grants m mode buffersObj payload) :=
    fun payload => (combinedByOrigin_settled horigin).bind fun _ => .pure _
  have hprovided : ∀ payload, Settled false (providedCase grants m mode buffersObj payload) :=
    fun payload => (linearByOrigin_settled horigin).bind fun _ => .pure _
  cases mode with
  | normalBuf =>
    refine Settled.bind ?_ hfixed
    cases payloadType with
    | payloadLinear => exact linearByOrigin_settled horigin
    | payloadIovec => exact vectoredByOrigin_settled horigin
    | payloadLinearAndIovec => exact combinedByOrigin_settled horigin
    | payloadTypeNoVal => exact absurd rfl htype
  | fixed => exact hfixed payload
  | provided => exact hprovided _
  | bufRing => exact hprovided payload
  | bufNoVal => exact absurd rfl hmode

end Builders

/-! ## `create_buffer_payload` -/

section Create

variable {grants : Nat → Bool} {mode : BufferMode} {payloadType : PayloadType}
  {buffersObj : Option PyBuffers} {amount bufsize rand : Int}

/-- The buffers were left out, or are a sequence with a length. -/
def Sized : Option PyBuffers → Prop
  | none => True
  | some obj => obj.isSequence = true ∧ obj.length.isSome = true

instance : DecidablePred Sized
  | none => .isTrue trivial
  | some _ => inferInstanceAs (Decidable (_ ∧ _))

/-- `_get_buffer_metadata` of anything else sets an exception and returns zeros. -/
theorem getBufferMetadata_of_not_sized (h : ¬ Sized buffersObj) (s : Store) :
    getBufferMetadata buffersObj mode payloadType amount bufsize s =
      .ok (.ok .zero, ⟨s.next, s.held, true⟩) := by
  unfold getBufferMetadata
  cases buffersObj with
  | none => exact absurd trivial h
  | some obj =>
    cases hseq : obj.isSequence with
    | false =>
      simp only [hseq, Bool.not_false, if_true]
      rfl
    | true =>
      cases hlen : obj.length with
      | none =>
        simp only [hseq, hlen, Bool.not_true, Bool.false_eq_true, if_false]
        rfl
      | some n => exact absurd ⟨hseq, by simp [hlen]⟩ h

theorem getBufferMetadata_of_sized (h : Sized buffersObj) :
    Triple (Flagged false) (getBufferMetadata buffersObj mode payloadType amount bufsize)
      (fun m s => Flagged false s ∧ m.payloadOrigin ≠ .originNoVal) (fun _ => Flagged true) := by
  unfold getBufferMetadata
  cases buffersObj with
  | none => exact fun s hs => ⟨hs, by simp⟩
  | some obj =>
    obtain ⟨hseq, hlen⟩ := h
    obtain ⟨n, hlen⟩ := Option.isSome_iff_exists.mp hlen
    simp only [hseq, hlen, Bool.not_true, Bool.false_eq_true, if_false]
    split
    · exact .stop
    · exact fun s hs => ⟨hs, by simp⟩

theorem createBufferPayload_settled (h : Sized buffersObj) (hmode : mode ≠ .bufNoVal)
    (htype : payloadType ≠ .payloadTypeNoVal) :
    Settled false (createBufferPayload grants mode payloadType buffersObj amount bufsize rand) := by
  refine Triple.bind (getBufferMetadata_of_sized h) fun m => .given fun horigin => ?_
  refine (acquire_steps _ _).then fun block => ?_
  cases block with
  | none => exact .refuse
  | some block => exact createByMode_settled horigin hmode htype rand

/-- With memory for everything, the buffers give a vector. -/
def Vectorable (obj : PyBuffers) : Prop :=
  ∃ fast, obj.fast = some fast ∧
    arraySize sizeofPyBuffer (toInt fast.length) ≤ pySsizeTMax ∧
    arraySize sizeofIovec (toInt fast.length) ≤ pySsizeTMax ∧
    Exported (fun i => fast[i]?) (toInt fast.length).toNat

/-- The builder that comes first fails although the metadata are zeros. -/
def Stopped (mode : BufferMode) (payloadType : PayloadType) (obj : PyBuffers) : Prop :=
  mode = .normalBuf ∧ payloadType = .payloadIovec ∧ ¬ Vectorable obj

variable {obj : PyBuffers}

/-- The exception of the metadata is followed by NULL. -/
theorem createBufferPayload_stopped (h : ¬ Sized (some obj)) (hs : Stopped mode payloadType obj)
    (s : Store) : ∃ t, createBufferPayload grants mode payloadType (some obj) amount bufsize rand s =
      .ok (.error (), t) ∧ t.rest = true := by
  obtain ⟨rfl, rfl, hvec⟩ := hs
  rw [show createBufferPayload grants .normalBuf .payloadIovec (some obj) amount bufsize rand s = _
    from bind_returned (getBufferMetadata_of_not_sized h s)]
  cases hg : grants s.next with
  | false => exact ⟨_, bind_returned (malloc_refused hg), rfl⟩
  | true =>
    rw [bind_returned (malloc_granted hg)]
    have hrefused : ∃ n, serializeVectoredBuffers grants obj
        { Payload.unassigned s.next with bgid := some 0 }
        ⟨s.next + 1, .raw s.next ::ₘ s.held, true⟩ =
          .ok (.error (), ⟨n, .raw s.next ::ₘ s.held, true⟩) :=
      serializeVectoredBuffers_refused fun fast hfast hviews _ hiovecs hexp =>
        hvec ⟨fast, hfast, hviews.2, hiovecs.2, hexp⟩
    obtain ⟨n, hn⟩ := hrefused
    exact ⟨_, bind_failed hn, rfl⟩

theorem arraySize_zero (sizeof : Nat) : arraySize sizeof 0 = 0 := by
  simp [arraySize, toUint64]

theorem granted_all {n size : Nat} (h : size ≤ pySsizeTMax) : Granted (fun _ => true) n size :=
  ⟨rfl, h⟩

theorem serializeGranted_none (n : Nat) : SerializeGranted (fun _ => true) obj 0 n where
  views := granted_all (by simp [arraySize_zero])
  buffers := granted_all (by simp [arraySize_zero])
  vec := granted_all (by decide)
  iovecs := granted_all (by simp [arraySize_zero])
  exports := fun _ hj => absurd hj (by simp)

/-- Otherwise, with memory for everything, the zeros lead to a write past an empty array. -/
theorem createBufferPayload_passes (h : ¬ Sized (some obj)) (hmode : mode ≠ .bufNoVal)
    (htype : payloadType ≠ .payloadTypeNoVal) (hs : ¬ Stopped mode payloadType obj) (s : Store) :
    createBufferPayload (fun _ => true) mode payloadType (some obj) amount bufsize rand s =
      .error .outOfBounds := by
  rw [show createBufferPayload (fun _ => true) mode payloadType (some obj) amount bufsize rand s = _
    from bind_returned (getBufferMetadata_of_not_sized h s), bind_returned (malloc_granted rfl)]
  have hlinear : ∀ payload n held err,
      serializeLinearBuffers (fun _ => true) obj 0 payload ⟨n, held, err⟩ = .error .outOfBounds :=
    fun payload n held err => serializeLinearBuffers_empty rfl
      (granted_all (by simp [arraySize_zero])) (granted_all (by simp [arraySize_zero]))
  have hboth : ∀ payload n held err,
      serializeBuffers (fun _ => true) obj 0 payload ⟨n, held, err⟩ = .error .outOfBounds :=
    fun payload n held err => serializeBuffers_empty rfl (serializeGranted_none n)
  cases mode with
  | bufNoVal => exact absurd rfl hmode
  | fixed => exact bind_stopped (hboth _ _ _ _)
  | provided => exact bind_stopped (hlinear _ _ _ _)
  | bufRing => exact bind_stopped (hlinear _ _ _ _)
  | normalBuf =>
    cases payloadType with
    | payloadTypeNoVal => exact absurd rfl htype
    | payloadLinear => exact bind_stopped (hlinear _ _ _ _)
    | payloadLinearAndIovec => exact bind_stopped (hboth _ _ _ _)
    | payloadIovec =>
      have hvec : Vectorable obj := by
        by_contra hv
        exact hs ⟨rfl, rfl, hv⟩
      obtain ⟨fast, hfast, hviews, hiovecs, hexp⟩ := hvec
      obtain ⟨got, hgot⟩ := Option.isSome_iff_exists.mp
        (taken_exports_isSome_iff (n := s.next + 4).mpr hexp)
      refine (bind_returned (serializeVectoredBuffers_built hfast (granted_all hviews)
        (granted_all (by decide)) (granted_all hiovecs) hgot)).trans ?_
      exact bind_stopped (hboth _ _ _ _)

end Create

end Uringio.Buffers
