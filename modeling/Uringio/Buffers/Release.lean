/-
  What `free_buffer_payload` releases.

  `amount` counts the exports and `nr_vecs` the iovecs, and the data blocks of both arrays are
  freed for a payload of the library's own. One lemma for each shape that a payload can have.
-/
import Uringio.Buffers.Outcomes

namespace Uringio.Buffers

open Lib Lib.Program Lib.Ledger

section Release

variable {n : Nat} {held : Multiset Resource} {err : Bool} {payload : Payload} {force : Bool}

/-! ## Loops -/

theorem get_some {α : Type} {a : α} {s : Store} {x : Field α} (h : x = some a) :
    get x s = .ok (.ok a, s) := by
  rw [h]
  rfl

theorem getEntry_append {α : Type} {pre rest : List (Field α)} {a : α} {s : Store} :
    getEntry (pre ++ some a :: rest) pre.length s = .ok (.ok a, s) := by
  unfold getEntry
  rw [List.getElem?_append_right (Nat.le_refl _), Nat.sub_self]
  rfl

/-- A loop that releases one resource for every entry. -/
theorem forEntries_named {α β : Type} (g : Nat × β → α) {f : α → BufferProgram Unit}
    {mk : Nat → Resource}
    (hf : ∀ x (held : Multiset Resource), f (g x) ⟨n, mk x.1 ::ₘ held, err⟩ =
      .ok (.ok (), ⟨n, held, err⟩))
    (pre : List (Field α)) (got : List (Nat × β)) :
    forEntries (pre ++ got.map fun x => some (g x)) f got.length pre.length
      ⟨n, named mk got + held, err⟩ = .ok (.ok (), ⟨n, held, err⟩) := by
  induction got generalizing pre with
  | nil =>
    rw [named_nil, Multiset.zero_add]
    rfl
  | cons x got ih =>
    have hnext := ih (pre ++ [some (g x)])
    rw [List.append_assoc, List.singleton_append, List.length_append, List.length_singleton]
      at hnext
    rw [named_cons, Multiset.cons_add]
    refine (bind_returned getEntry_append).trans ?_
    exact (bind_returned (hf x _)).trans hnext

theorem freeBlock_entry {id : Nat} :
    freeData (.block id) ⟨n, .mem id ::ₘ held, err⟩ = .ok (.ok (), ⟨n, held, err⟩) :=
  pyMemFree_held

/-- The exports of a payload and their views. -/
theorem releaseViews_entries (views : Nat) (got : List (Nat × LinearBuffer)) :
    forEntries (userViews views got).slots pyBufferRelease got.length 0
      ⟨n, named .view got + held, err⟩ = .ok (.ok (), ⟨n, held, err⟩) :=
  forEntries_named viewOf (fun _ _ => release_cons) [] got

/-! ## The two structures -/

theorem withViews_none {bufsize block : Nat} {got : List (Nat × Unit)} :
    withViews block (got.map (runtimeLinear bufsize)) none =
      ⟨block, got.map fun x => some (runtimeLinear bufsize x)⟩ := by
  cases got with
  | nil => rfl
  | cons x got => simp [withViews, runtimeLinear, Function.comp_def]

theorem freeViews_held {amount : Int} (views : Nat) (got : List (Nat × LinearBuffer))
    (hamount : payload.amount = some amount) (hlen : got.length = amount.toNat) :
    freeViews payload (some (userViews views got))
      ⟨n, named .view got + .mem views ::ₘ held, err⟩ = .ok (.ok (), ⟨n, held, err⟩) := by
  refine (bind_returned (get_some hamount)).trans ?_
  rw [← hlen]
  exact (bind_returned (releaseViews_entries views got)).trans pyMemFree_held

theorem freeLinearData_user {linear : LinearArray} {s : Store}
    (horigin : payload.payloadOrigin = some .payloadUser) :
    freeLinearData payload linear s = .ok (.ok (), s) :=
  bind_returned (get_some horigin)

theorem freeVectorData_user {vector : Vector} {s : Store}
    (horigin : payload.payloadOrigin = some .payloadUser) :
    freeVectorData payload vector s = .ok (.ok (), s) :=
  bind_returned (get_some horigin)

theorem freeLinear_runtime {amount : Int} {bufsize block : Nat} {got : List (Nat × Unit)}
    (horigin : payload.payloadOrigin = some .payloadRuntime)
    (hamount : payload.amount = some amount) (hlen : got.length = amount.toNat)
    (hne : got ≠ []) :
    freeLinear payload (some (withViews block (got.map (runtimeLinear bufsize)) none))
      ⟨n, named .mem got + .mem block ::ₘ held, err⟩ = .ok (.ok (), ⟨n, held, err⟩) := by
  have hdata : freeLinearData payload ⟨block, got.map fun x => some (runtimeLinear bufsize x)⟩
      ⟨n, named .mem got + .mem block ::ₘ held, err⟩ =
        .ok (.ok (), ⟨n, .mem block ::ₘ held, err⟩) := by
    refine (bind_returned (get_some horigin)).trans ((bind_returned (get_some hamount)).trans ?_)
    rw [← hlen]
    exact forEntries_named (runtimeLinear bufsize) (fun _ _ => freeBlock_entry) [] got
  obtain ⟨x, rest, rfl⟩ := List.exists_cons_of_ne_nil hne
  rw [withViews_none]
  refine (bind_returned hdata).trans ?_
  exact (bind_returned rfl).trans ((bind_returned rfl).trans pyMemFree_held)

theorem freeLinear_user {amount : Int} {block views : Nat} {got : List (Nat × LinearBuffer)}
    (horigin : payload.payloadOrigin = some .payloadUser)
    (hamount : payload.amount = some amount) (hlen : got.length = amount.toNat)
    (hne : got ≠ []) :
    freeLinear payload (some (withViews block (got.map userLinear) (some (userViews views got))))
      ⟨n, named .view got + .mem views ::ₘ .mem block ::ₘ held, err⟩ =
        .ok (.ok (), ⟨n, held, err⟩) := by
  have hviews : freeViews payload (some (userViews views got))
      ⟨n, named .view got + .mem views ::ₘ .mem block ::ₘ held, err⟩ =
        .ok (.ok (), ⟨n, .mem block ::ₘ held, err⟩) := freeViews_held views got hamount hlen
  obtain ⟨x, rest, rfl⟩ := List.exists_cons_of_ne_nil hne
  refine (bind_returned (freeLinearData_user horigin)).trans ((bind_returned rfl).trans ?_)
  exact (bind_returned hviews).trans pyMemFree_held

theorem freeVector_runtime {bufsize vec iovecs : Nat} {len : Int} {got : List (Nat × Unit)}
    (horigin : payload.payloadOrigin = some .payloadRuntime)
    (hlen : got.length = toUnsigned len) :
    freeVector payload (some (runtimeVector vec iovecs bufsize len got))
      ⟨n, named .mem got + .mem iovecs ::ₘ .mem vec ::ₘ held, err⟩ =
        .ok (.ok (), ⟨n, held, err⟩) := by
  have hdata : freeVectorData payload (runtimeVector vec iovecs bufsize len got)
      ⟨n, named .mem got + .mem iovecs ::ₘ .mem vec ::ₘ held, err⟩ =
        .ok (.ok (), ⟨n, .mem iovecs ::ₘ .mem vec ::ₘ held, err⟩) := by
    refine (bind_returned (get_some horigin)).trans ((bind_returned rfl).trans ?_)
    refine (bind_returned rfl).trans ?_
    rw [← hlen]
    exact forEntries_named (runtimeVec bufsize) (fun _ _ => freeBlock_entry) [] got
  refine (bind_returned hdata).trans ((bind_returned rfl).trans ((bind_returned rfl).trans ?_))
  exact (bind_returned rfl).trans ((bind_returned pyMemFree_held).trans pyMemFree_held)

theorem freeVector_user {views vec iovecs : Nat} {len amount : Int}
    {got : List (Nat × LinearBuffer)} (horigin : payload.payloadOrigin = some .payloadUser)
    (hamount : payload.amount = some amount) (hlen : got.length = amount.toNat) :
    freeVector payload (some (userVector views vec iovecs len got))
      ⟨n, named .view got + .mem views ::ₘ .mem iovecs ::ₘ .mem vec ::ₘ held, err⟩ =
        .ok (.ok (), ⟨n, held, err⟩) := by
  refine (bind_returned (freeVectorData_user horigin)).trans ((bind_returned rfl).trans ?_)
  refine (bind_returned (freeViews_held views got hamount hlen)).trans ((bind_returned rfl).trans ?_)
  exact (bind_returned pyMemFree_held).trans pyMemFree_held

/-- A vector whose exports hang on the linear buffers. -/
theorem freeVector_shared {vec : Nat} {iovecs : IovecArray} {nrVecs : Field Nat}
    (horigin : payload.payloadOrigin = some .payloadUser) :
    freeVector payload (some ⟨vec, some (some iovecs), nrVecs, some none⟩)
      ⟨n, .mem iovecs.block ::ₘ .mem vec ::ₘ held, err⟩ = .ok (.ok (), ⟨n, held, err⟩) := by
  refine (bind_returned (freeVectorData_user horigin)).trans ((bind_returned rfl).trans ?_)
  refine (bind_returned rfl).trans ((bind_returned rfl).trans ?_)
  exact (bind_returned pyMemFree_held).trans pyMemFree_held

/-! ## The payload -/

/-- The release of a payload, from those of its two structures. -/
theorem freeBufferPayload_held {mode : BufferMode} {linear : Option LinearArray}
    {vector : Option Vector} {held1 held2 : Multiset Resource}
    (hmode : payload.mode = some mode) (hforce : mode = .normalBuf ∨ force = true)
    (hlinear : payload.linear = some linear) (hvector : payload.vector = some vector)
    (hfirst : freeLinear payload linear ⟨n, held1, err⟩ = .ok (.ok (), ⟨n, held2, err⟩))
    (hsecond : freeVector payload vector ⟨n, held2, err⟩ =
      .ok (.ok (), ⟨n, .raw payload.block ::ₘ held, err⟩)) :
    freeBufferPayload payload force ⟨n, held1, err⟩ = .ok (.ok (), ⟨n, held, err⟩) := by
  have hskip : ¬ (mode ≠ .normalBuf ∧ ¬ force) := by
    rcases hforce with hm | hf
    · simp [hm]
    · simp [hf]
  unfold freeBufferPayload
  rw [bind_returned (get_some hmode), if_neg hskip, bind_returned (get_some hlinear),
    bind_returned hfirst, bind_returned (get_some hvector), bind_returned hsecond]
  exact free_held

end Release

end Uringio.Buffers
