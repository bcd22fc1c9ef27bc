/-
  NULL and exceptions of the public calls: the operations, the two `__aenter__`, and the
  constructors, enters and exits of the context managers.

  A call of an extension module returns NULL exactly with an exception pending.
  `PublicCall.coherent_iff_clean` says of which calls that is true in every state and environment.
-/
import Uringio.PyOps.Coherence
import Uringio.Contexts.Constructors
import Uringio.Contexts.Enters

namespace Uringio

open Lib Program

/-! ## The other calls -/

/-- `UringioFile_aenter` and `UringioSocket_aenter`: what `set_result` returns is dropped, and
    what it raises stays pending. -/
def aenter (self : ResultValue) (setResult : Option PyErr) (env : CallEnv) :
    PyProgram (FutureId × Option PyErr) := do
  let future ← createFuture env
  change fun l => ((), l.callFuture future (.setResult self))
  return (future, setResult)

/-- `__exit__` of a manager; `reset` says whether `ContextVar_reset` succeeds. -/
def Manager.exitRaising (m : Manager) (h : Host) (self : Entered) (reset : Bool)
    (submit : Int) : Except Stop (Except (Option PyErr) Unit × Host) :=
  if !reset then
    .ok (.error (some ⟨.valueError, "Error while resetting contextvar"⟩), h)
  else (m.exit h self submit).map fun h => (.ok (), h)

/-! ## All calls -/

/-- A call with its arguments and what the environment decides about them: what the buffers
    of an operation come to, the domain of the Socket, and what `set_result` raises. -/
inductive PublicCall where
  | operation (call : OpCall) (buffers : BufferEnv) (domain : Int)
  | aenter (self : ResultValue) (setResult : Option PyErr)
  | construct (call : ConstructorCall)
  | enter (m : Manager)
  | exit (m : Manager)

namespace PublicCall

/-- In every state and environment an exception is pending at the return if and only if the
    call returns NULL, and the call reads no argument that was left unassigned. -/
def Coherent : PublicCall → Prop
  | .operation call buffers domain => call.Coherent buffers domain
  | .aenter self setResult => ∀ env l,
    match Uringio.aenter self setResult env l with
    | .error _ => True
    | .ok (.error e, _) => e.isSome
    | .ok (.ok (_, pending), _) => pending = none
  | .construct call => call.Coherent
  | .enter m => ∀ h env steps,
    match m.enterRaising h env steps with
    | .ok (.error e, _) => e.isSome
    | _ => True
  | .exit m => ∀ h self reset submit,
    match m.exitRaising h self reset submit with
    | .ok (.error e, _) => e.isSome
    | _ => True

/-- The helpers of an operation raise where they fail and leave nothing behind, `set_result`
    raises nothing, and buffers that are passed to a constructor are a sequence. -/
def Clean : PublicCall → Prop
  | .operation call buffers domain => call.Clean buffers domain
  | .aenter _ setResult => setResult = none
  | .construct call => call.Clean
  | .enter _ | .exit _ => True

theorem aenter_coherent_iff {self : ResultValue} {setResult : Option PyErr} :
    (PublicCall.aenter self setResult).Coherent ↔ setResult = none := by
  constructor
  · intro h
    exact h CallEnv.ok openLoop
  · rintro rfl env l
    cases hf : env.future with
    | none =>
      have hcreate : createFuture env l = .ok (.ok l.nextFuture,
          { l with nextFuture := l.nextFuture + 1 }) := by
        unfold createFuture
        rw [hf]
        rfl
      rw [show Uringio.aenter self none env l = _ from bind_returned hcreate]
      rfl
    | some e =>
      have hcreate : createFuture env l = .ok (.error (some e), l) := by
        unfold createFuture
        rw [hf]
        rfl
      rw [show Uringio.aenter self none env l = _ from bind_failed hcreate]
      rfl

/-- Every failure of the switch over the buffer mode raises. -/
theorem initBuffersRaising_raises {h h' : Host} {p : PayloadId} {token : Token}
    {env : EnterEnv} {e : Option PyErr}
    (hr : initBuffersRaising h p token env = .ok (.error e, h')) : e.isSome := by
  unfold initBuffersRaising at hr
  cases hb : h.loop.heap.payloads[p]? with
  | none => simp [hb] at hr
  | some b =>
    simp only [hb] at hr
    cases hm : b.mode with
    | normalBuf => simp [hm] at hr
    | bufNoVal => simp [hm] at hr
    | bufRing =>
      simp only [hm] at hr
      cases hl : b.linear with
      | none => simp [hl] at hr
      | some linear => simp [hl] at hr
    | provided =>
      simp only [hm] at hr
      cases hl : b.linear with
      | none => simp [hl] at hr
      | some linear =>
        simp only [hl] at hr
        split at hr
        · rw [← Except.error.inj (Prod.mk.inj (Except.ok.inj hr)).1]
          rfl
        · exact absurd hr (by simp)
    | fixed =>
      simp only [hm] at hr
      cases hv : b.vector with
      | none => simp [hv] at hr
      | some vector =>
        simp only [hv] at hr
        split at hr
        · rw [← Except.error.inj (Prod.mk.inj (Except.ok.inj hr)).1]
          rfl
        · split at hr
          · rw [← Except.error.inj (Prod.mk.inj (Except.ok.inj hr)).1]
            rfl
          · exact absurd hr (by simp)

theorem enter_coherent (m : Manager) : (PublicCall.enter m).Coherent := by
  intro h env steps
  cases hr : m.enterRaising h env steps with
  | error e => trivial
  | ok r =>
    obtain ⟨r, h'⟩ := r
    cases r with
    | ok entered => trivial
    | error e =>
      show e.isSome
      unfold Manager.enterRaising at hr
      split at hr
      next err _ =>
        rw [← Except.error.inj (Prod.mk.inj (Except.ok.inj hr)).1]
        rfl
      next =>
        cases ho : m.owned with
        | none => simp [ho] at hr
        | some p =>
          simp only [ho] at hr
          exact initBuffersRaising_raises hr

theorem exit_coherent (m : Manager) : (PublicCall.exit m).Coherent := by
  intro h self reset submit
  unfold Manager.exitRaising
  cases reset with
  | false => rfl
  | true =>
    cases m.exit h self submit with
    | error e => trivial
    | ok h' => trivial

end PublicCall

end Uringio
