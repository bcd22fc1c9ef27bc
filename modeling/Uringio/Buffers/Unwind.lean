/-
  The failure exits of `serialize_buffers` and `make_buffers`.

  The builders of one kind of buffers unwind by themselves (`simple_builders_unwind`). The
  combined ones leave it to `free_buffer_payload`, which starts with the mode of the payload;
  `create_buffer_payload` assigns that after they have returned.
-/
import Uringio.Buffers.Outcomes

namespace Uringio.Buffers

open Lib Lib.Program Lib.Ledger

/-- The function returns NULL with an exception, has read nothing that was not assigned, and
    holds what it should. -/
def Unwinds (m : BufferProgram Payload) (s : Store) (after : Multiset Resource) : Prop :=
  ∃ t, m s = .ok (.error (), t) ∧ t.held = after ∧ t.rest = true

/-- The payload before `create_buffer_payload` has assigned its mode. -/
def Payload.unfinished (payload : Payload) : Payload := { payload with mode := none }

section Unwind

variable {grants : Nat → Bool} {obj : PyBuffers} {len bufsize : Int} {payload : Payload}
  {s : Store}

/-- What `create_linear_buffers` asks for, and so on for the other builders of one kind. -/
theorem simple_builders_unwind :
    ((Granted grants s.next (arraySize sizeofLinearBuffer len) →
        ¬ DataGranted grants (toUint64 bufsize) len.toNat (s.next + 1)) →
      Unwinds (createLinearBuffers grants len bufsize payload) s s.held) ∧
    ((Granted grants s.next (arraySize sizeofPyBuffer len) →
        Granted grants (s.next + 1) (arraySize sizeofLinearBuffer len) →
          ¬ Exported obj.item len.toNat) →
      Unwinds (serializeLinearBuffers grants obj len payload) s s.held) ∧
    ((Granted grants s.next sizeofVectoredBuffer →
        Granted grants (s.next + 1) (arraySize sizeofIovec len) →
          ¬ DataGranted grants (toUint64 bufsize) len.toNat (s.next + 2)) →
      Unwinds (createVectoredBuffers grants len bufsize payload) s s.held) ∧
    ((∀ fast, obj.fast = some fast →
        Granted grants s.next (arraySize sizeofPyBuffer (toInt fast.length)) →
        Granted grants (s.next + 1) sizeofVectoredBuffer →
        Granted grants (s.next + 2) (arraySize sizeofIovec (toInt fast.length)) →
          ¬ Exported (fun i => fast[i]?) (toInt fast.length).toNat) →
      Unwinds (serializeVectoredBuffers grants obj payload) s s.held) := by
  obtain ⟨n, held, err⟩ := s
  refine ⟨fun h => ?_, fun h => ?_, fun h => ?_, fun h => ?_⟩
  · obtain ⟨m, hm⟩ := createLinearBuffers_refused h
    exact ⟨_, hm, rfl, rfl⟩
  · obtain ⟨m, hm⟩ := serializeLinearBuffers_refused h
    exact ⟨_, hm, rfl, rfl⟩
  · obtain ⟨m, hm⟩ := createVectoredBuffers_refused h
    exact ⟨_, hm, rfl, rfl⟩
  · obtain ⟨m, hm⟩ := serializeVectoredBuffers_refused h
    exact ⟨_, hm, rfl, rfl⟩

theorem not_unwinds_of_error {m : BufferProgram Payload} {e : Fault} (h : m s = .error e)
    (after : Multiset Resource) : ¬ Unwinds m s after := by
  rintro ⟨t, ht, -⟩
  exact absurd (h.symm.trans ht) (by simp)

/-- Wherever a lookup, an export or an allocation of a combined builder fails, it does not
    unwind, to whatever it should hold then: it reads the mode of the payload. -/
theorem combined_builders_never_unwind (grants : Nat → Bool) (obj : PyBuffers) (len : Int)
    (bufsize : Nat) (payload : Payload) (s : Store) :
    (¬ SerializeGranted grants obj len s.next →
      (∀ after, ¬ Unwinds (serializeBuffers grants obj len payload.unfinished) s after) ∧
      serializeBuffers grants obj len payload.unfinished s = .error .unassigned) ∧
    (¬ MakeGranted grants len bufsize s.next →
      (∀ after, ¬ Unwinds (makeBuffers grants len bufsize payload.unfinished) s after) ∧
      makeBuffers grants len bufsize payload.unfinished s = .error .unassigned) := by
  obtain ⟨n, held, err⟩ := s
  constructor
  · intro h
    have herr : serializeBuffers grants obj len payload.unfinished ⟨n, held, err⟩ =
        .error .unassigned := serializeBuffers_refused rfl h
    exact ⟨not_unwinds_of_error herr, herr⟩
  · intro h
    have herr : makeBuffers grants len bufsize payload.unfinished ⟨n, held, err⟩ =
        .error .unassigned := makeBuffers_refused rfl h
    exact ⟨not_unwinds_of_error herr, herr⟩

/-- A list whose second object exports no buffer. -/
theorem second_export_fails : ¬ ∃ after,
    Unwinds (serializeBuffers (fun _ => true) (.ofList [some ⟨.mem 512, 8⟩, none]) 2
      (Payload.unassigned 0).unfinished) ⟨1, {.raw 0}, false⟩ after := by
  rintro ⟨after, h⟩
  exact not_unwinds_of_error rfl after h

end Unwind

end Uringio.Buffers
