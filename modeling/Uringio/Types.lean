/-
  Enumerations, identifiers and Python-side values shared by the whole model.

  Python objects that the library only passes on are identifiers (`FutureId`, `FileId`,
  `SocketId`): positions in the corresponding list of the loop state. `PayloadId` is a
  `BufferPayload *` and `Block` any other block from `malloc`.

  `Stop` is how a call can fail to return: `abort()`, or a read through a null or
  unassigned pointer. `stuck` marks an action that cannot be taken in the given state at
  all (a completion of an SQE that is not in flight, a method of an object that does not
  exist).
-/
import Mathlib.Algebra.Group.Int.Defs

namespace Uringio

inductive StreamStrategy where
  | oneshot | multishot
deriving DecidableEq, Repr, Inhabited

inductive TransferMode where
  | normalTransfer | zeroCopy
deriving DecidableEq, Repr

inductive BufferMode where
  | normalBuf | fixed | provided | bufRing | bufNoVal
deriving DecidableEq, Repr

inductive PayloadOrigin where
  | payloadUser | payloadRuntime | originNoVal
deriving DecidableEq, Repr

inductive PayloadType where
  | payloadLinear | payloadIovec | payloadLinearAndIovec | payloadTypeNoVal
deriving DecidableEq, Repr

/-- The `int` opcode of a request slot: the `IORING_OP_*` values that the library stores,
    0 for a cleared slot (`nop`), and any other value. -/
inductive Opcode where
  | nop | readv | writev | fsync | timeout | accept | connect | close | read | write
  | send | recv | sendmsg | recvmsg | openat2 | splice | socket | bind | listen
  | other (code : Int)
deriving DecidableEq, Repr, Inhabited

abbrev FutureId := Nat
abbrev FileId := Nat
abbrev SocketId := Nat
abbrev PayloadId := Nat
abbrev Block := Nat

/-- Where a run ends without a return: an abort, a pointer that leads nowhere, a variable or
    a field that was never assigned, or a call that cannot be made. -/
inductive Stop where
  | abort
  | segv
  | unassigned
  | stuck
deriving DecidableEq, Repr

theorem except_bind_of_ok {ε α β : Type} {x : Except ε α} {a : α} {f : α → Except ε β}
    (h : x = .ok a) : (x >>= f) = f a := by
  rw [h]
  rfl

/-- A bind of two parts that returns has run both. -/
theorem except_bind_ok {α β : Type} {x : Except Stop α} {f : α → Except Stop β} {y : β}
    (h : (x >>= f) = .ok y) : ∃ a, x = .ok a ∧ f a = .ok y := by
  cases x with
  | error e => exact absurd h (by simp [bind, Except.bind])
  | ok a => exact ⟨a, rfl, h⟩

theorem except_map_ok {α β : Type} {x : Except Stop α} {f : α → β} {y : β}
    (h : x.map f = .ok y) : ∃ a, x = .ok a ∧ f a = y := by
  cases x with
  | error e => exact absurd h (by simp [Except.map])
  | ok a => exact ⟨a, rfl, Except.ok.inj h⟩

/-! ## Python exceptions and arguments -/

inductive ExcType where
  | runtimeError | brokenPipeError | typeError | valueError | memoryError | osError
  | connectionRefusedError | overflowError | invalidStateError | runtimeWarning | raised
deriving DecidableEq, Repr

/-- A pending exception. `raised` stands for whatever a failed call into Python raises. -/
structure PyErr where
  type : ExcType
  message : String
deriving DecidableEq, Repr

/-- A value of an argument dict. -/
inductive PyItem where
  | int (n : Int)
  | bool (b : Bool)
  | other
deriving DecidableEq, Repr

/-- The object passed as `timeout_params` or `timer_params`. -/
inductive PyVal where
  | none
  | dict (items : List (String × PyItem))
  | other
deriving DecidableEq, Repr

/-- `PyLong_Check` together with the integer; a `bool` is an `int`. -/
def PyItem.asPyLong : PyItem → Option Int
  | .int n => some n
  | .bool b => some (if b then 1 else 0)
  | .other => none

/-- `PyBool_Check` together with `PyObject_IsTrue`. -/
def PyItem.asPyBool : PyItem → Option Bool
  | .bool b => some b
  | _ => none

/-- `PyLong_AsLong`: -1 with an OverflowError outside the range of `long`. -/
def pyLongAsLong (n : Int) : Int × Option PyErr :=
  if -2 ^ 63 ≤ n ∧ n < 2 ^ 63 then (n, none)
  else (-1, some ⟨.overflowError, "Python int too large to convert to C long"⟩)

end Uringio
