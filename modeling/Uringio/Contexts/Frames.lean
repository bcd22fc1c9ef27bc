/-
  What one step of the interpreter leaves alone.

  No step takes a capsule, a context or an object away, so that a value that is referred to
  before and after leads to the same context (`Grows.behind`). A step changes the variable in
  no other Python context than the one its action runs in, and no token but that of the object
  it names (`value_of_step`, `object_of_step`).
-/
import Uringio.Contexts.Variable

namespace Uringio

namespace VarAct

/-- The Python context whose variable an action sets. -/
def python : VarAct → Option Nat
  | .newLoop python _ | .close _ python | .enter _ python _ | .exit _ python => some python
  | _ => none

/-- The manager that an action enters or leaves. -/
def object : VarAct → Option Nat
  | .enter object _ _ | .exit object _ => some object
  | _ => none

end VarAct

/-- What the constructor set, and no enter or exit changes. -/
def ManagerObject.made (o : ManagerObject) : Manager × Option Nat := (o.manager, o.payload)

namespace Interpreter

variable {s t u : Interpreter}

/-! ## The context behind a value -/

/-- The valid context that a value of the variable leads to. -/
def behind (s : Interpreter) (v : VarValue) : Option ExecutionContext :=
  match v with
  | .capsule id =>
    if !s.created then none
    else (s.capsules[id]?).bind fun k =>
      (s.blocks[k.pointer]?).bind fun b => if b.freed then none else some b.context
  | _ => none

/-- The value in a Python context, which is `unset` before anything was stored. -/
def valueIn (s : Interpreter) (python : Nat) : VarValue := s.values.getD python .unset

theorem contextOf_eq_behind (s : Interpreter) (python : Nat) :
    s.contextOf python = s.behind (s.valueIn python) := by
  unfold contextOf contextVarGet behind valueIn
  rw [List.getD_eq_getElem?_getD]
  cases s.created with
  | false => cases (s.values[python]?).getD .unset <;> rfl
  | true =>
    cases s.values[python]? with
    | none => rfl
    | some v =>
      cases v with
      | unset => rfl
      | none => rfl
      | capsule id => cases hk : s.capsules[id]? <;> simp [hk]

theorem behind_of_alive {id : Nat} (hs : s.Owned) (h : .capsule id ∈ s.refs) :
    ∃ k b, s.capsules[id]? = some k ∧ s.blocks[k.pointer]? = some b ∧
      s.behind (.capsule id) = some b.context := by
  obtain ⟨k, hk, hal⟩ := hs.alive id h
  obtain ⟨b, hb, hf⟩ := hs.valid id k hk hal
  refine ⟨k, b, hk, hb, ?_⟩
  simp [behind, hs.created id h, hk, hb, hf]

/-! ## What no step takes back -/

/-- Capsules keep their pointer and contexts their fields, whether or not they are destroyed. -/
structure Grows (s t : Interpreter) : Prop where
  capsules : ∀ (id : Nat) (k : Capsule), s.capsules[id]? = some k →
    ∃ k', t.capsules[id]? = some k' ∧ k'.pointer = k.pointer
  blocks : ∀ (p : Nat) (b : ContextBlock), s.blocks[p]? = some b →
    ∃ b', t.blocks[p]? = some b' ∧ b'.context = b.context

theorem Grows.trans (h : Grows s t) (h' : Grows t u) : Grows s u := by
  constructor
  case capsules =>
    intro id k hk
    obtain ⟨k', hk', he⟩ := h.capsules id k hk
    obtain ⟨k'', hk'', he'⟩ := h'.capsules id k' hk'
    exact ⟨k'', hk'', he'.trans he⟩
  case blocks =>
    intro p b hb
    obtain ⟨b', hb', he⟩ := h.blocks p b hb
    obtain ⟨b'', hb'', he'⟩ := h'.blocks p b' hb'
    exact ⟨b'', hb'', he'.trans he⟩

/-- A value that is referred to before and after leads to the same context. -/
theorem Grows.behind {v : VarValue} (h : Grows s t) (hs : s.Owned) (ht : t.Owned)
    (hv : v ∈ s.refs) (hv' : v ∈ t.refs) : t.behind v = s.behind v := by
  cases v with
  | unset => rfl
  | none => rfl
  | capsule id =>
    obtain ⟨k, b, hk, hb, he⟩ := behind_of_alive hs hv
    obtain ⟨k', b', hk', hb', he'⟩ := behind_of_alive ht hv'
    obtain ⟨l, hl, hp⟩ := h.capsules id k hk
    obtain rfl := Option.some.inj (hk'.symm.trans hl)
    obtain ⟨c, hc, hctx⟩ := h.blocks k.pointer b hb
    rw [hp] at hb'
    obtain rfl := Option.some.inj (hb'.symm.trans hc)
    rw [he, he', hctx]

theorem Grows.of_append {cs : List Capsule} {bs : List ContextBlock}
    (hc : t.capsules = s.capsules ++ cs) (hb : t.blocks = s.blocks ++ bs) : Grows s t := by
  refine ⟨fun id k hk => ⟨k, ?_, rfl⟩, fun p b hb' => ⟨b, ?_, rfl⟩⟩
  · rw [hc]
    exact (List.getElem?_append_left (List.getElem?_eq_some_iff.mp hk).1).trans hk
  · rw [hb]
    exact (List.getElem?_append_left (List.getElem?_eq_some_iff.mp hb').1).trans hb'

theorem Grows.of_eq (hc : t.capsules = s.capsules) (hb : t.blocks = s.blocks) : Grows s t :=
  .of_append (hc.trans (List.append_nil _).symm) (hb.trans (List.append_nil _).symm)

theorem Grows.addBlock (s : Interpreter) (context : ExecutionContext) (freed : Bool) :
    Grows s (s.addBlock context freed) :=
  .of_append (List.append_nil _).symm rfl

theorem Grows.addCapsule (s : Interpreter) (pointer : Nat) : Grows s (s.addCapsule pointer) :=
  .of_append rfl (List.append_nil _).symm

theorem Grows.shutdown (s : Interpreter) (python : Nat) : Grows s (s.shutdown python) := by
  unfold Interpreter.shutdown contextVarSet
  split <;> exact .of_eq rfl rfl

theorem Grows.contextVarReset (s : Interpreter) (python : Nat) (t : VarToken) :
    Grows s (s.contextVarReset python t) := by
  unfold Interpreter.contextVarReset
  split <;> exact .of_eq rfl rfl

theorem Grows.contextVarInit (s : Interpreter) (python : Nat) (env : InitEnv) :
    Grows s (s.contextVarInit python env).2 := by
  unfold Interpreter.contextVarInit
  split
  · exact .of_eq rfl rfl
  · dsimp only
    split
    · exact .of_eq rfl rfl
    · split
      · exact .of_append (List.append_nil _).symm rfl
      · exact .of_append rfl rfl

theorem Grows.newLoop (s : Interpreter) (python : Nat) (env : InitEnv) :
    Grows s (s.stepNewLoop python env) := by
  unfold stepNewLoop
  split
  · exact .shutdown s python
  · have hi := Grows.contextVarInit s python env
    cases hx : s.contextVarInit python env with
    | mk ok u =>
      rw [hx] at hi
      cases ok with
      | false => exact hi.trans (.shutdown u python)
      | true => exact hi.trans (.of_eq rfl rfl)

theorem Grows.close {loop python : Nat} (ht : s.stepClose loop python = .ok t) : Grows s t := by
  unfold stepClose at ht
  split at ht
  · cases ht
  · cases ht
    exact .of_eq rfl rfl
  · cases ht
    exact (Grows.shutdown s python).trans (.of_eq rfl rfl)

theorem Grows.newManager {loop : Nat} {manager : Manager}
    (ht : s.stepNewManager loop manager = .ok t) : Grows s t := by
  unfold stepNewManager at ht
  split at ht
  · cases ht
  · cases ht
    exact .of_eq rfl rfl
  · cases manager with
    | executionContext payload p =>
      cases ht
      exact (Grows.addBlock s payload false).trans (.of_eq rfl rfl)
    | bufferMode payload p =>
      cases ht
      exact .of_eq rfl rfl
    | streamStrategy payload =>
      cases ht
      exact .of_eq rfl rfl
    | transferMode payload =>
      cases ht
      exact .of_eq rfl rfl

theorem Grows.keepToken (s : Interpreter) (object : Nat) (o : ManagerObject) (t : VarToken)
    (opened : Bool) : Grows s (s.keepToken object o t opened) := by
  unfold Interpreter.keepToken
  split
  · exact .contextVarReset s _ t
  · exact .of_eq rfl rfl

theorem enterWith_eq {object python pointer : Nat} {o : ManagerObject} {opened : Bool}
    (hc : s.created = true) : s.enterWith object o python pointer opened =
      ((s.addCapsule pointer).setValue python (.capsule s.capsules.length)).keepToken object o
        ⟨python, s.valueIn python⟩ opened := by
  have hc' : (!(s.addCapsule pointer).created) = false := by simp [addCapsule, hc]
  unfold enterWith contextVarSet
  rw [hc']
  rfl

theorem enterWith_of_not_created {object python pointer : Nat} {o : ManagerObject}
    {opened : Bool} (hc : s.created = false) :
    s.enterWith object o python pointer opened = s.addCapsule pointer := by
  have hc' : (!(s.addCapsule pointer).created) = true := by simp [addCapsule, hc]
  unfold enterWith contextVarSet
  rw [hc']
  rfl

theorem Grows.enterWith (s : Interpreter) (object : Nat) (o : ManagerObject)
    (python pointer : Nat) (opened : Bool) :
    Grows s (s.enterWith object o python pointer opened) := by
  cases hc : s.created with
  | false =>
    rw [enterWith_of_not_created hc]
    exact .addCapsule s pointer
  | true =>
    rw [enterWith_eq hc]
    refine (Grows.addCapsule s pointer).trans (Grows.trans ?_ (.keepToken _ _ _ _ _))
    exact .of_eq rfl rfl

theorem Grows.enter {object python : Nat} {env : VarEnterEnv}
    (ht : s.stepEnter object python env = .ok t) : Grows s t := by
  have hent : Grows s { s with entered := object :: s.entered } := .of_eq rfl rfl
  unfold stepEnter at ht
  split at ht
  · cases ht
  · dsimp only at ht
    split at ht
    · split at ht
      · cases ht
        exact hent
      · cases ht
        exact hent.trans (.enterWith _ _ _ _ _ _)
    · cases ht
    · split at ht
      · cases ht
        exact hent
      · split at ht
        · split at ht
          · cases ht
            exact hent
          · cases ht
            exact hent.trans ((Grows.addBlock _ _ _).trans (.enterWith _ _ _ _ _ _))
        · cases ht

theorem Grows.exit {object python : Nat} (ht : s.stepExit object python = .ok t) :
    Grows s t := by
  unfold stepExit at ht
  split at ht
  · cases ht
  · split at ht
    · cases ht
    · cases ht
      exact .of_eq rfl rfl
    · rename_i tok _
      cases ht
      exact (Grows.contextVarReset s python tok).trans (.of_eq rfl rfl)

theorem Grows.destroy {id : Nat} (ht : s.stepDestroy id = .ok t) : Grows s t := by
  unfold stepDestroy at ht
  split at ht
  · rename_i pointer hk
    split at ht
    · cases ht
    · split at ht
      · rename_i context hb
        cases ht
        refine ⟨fun i k hi => ?_, fun p b hp => ?_⟩
        · by_cases he : id = i
          · subst he
            obtain rfl := Option.some.inj (hk.symm.trans hi)
            exact ⟨_, List.getElem?_set_self (List.getElem?_eq_some_iff.mp hk).1, rfl⟩
          · exact ⟨k, (List.getElem?_set_ne he).trans hi, rfl⟩
        · by_cases he : pointer = p
          · subst he
            obtain rfl := Option.some.inj (hb.symm.trans hp)
            exact ⟨_, List.getElem?_set_self (List.getElem?_eq_some_iff.mp hb).1, rfl⟩
          · exact ⟨b, (List.getElem?_set_ne he).trans hp, rfl⟩
      · cases ht
  · cases ht

theorem Grows.step {a : VarAct} (ht : s.step a = .ok t) : Grows s t := by
  cases a with
  | newContext =>
    cases ht
    exact .of_eq rfl rfl
  | copyContext python =>
    cases ht
    exact .of_eq rfl rfl
  | newLoop python env =>
    cases ht
    exact .newLoop s python env
  | close loop python => exact .close ht
  | newManager loop manager => exact .newManager ht
  | enter object python env => exact .enter ht
  | exit object python => exact .exit ht
  | destroy id => exact .destroy ht
  | call python loop call env =>
    cases ht
    exact .of_eq rfl rfl

/-! ## What an action of another Python context leaves alone -/

/-- From `s` to `t` at most the variable in `python` and the token of `object` change; new
    Python contexts may be there. -/
structure Touches (python object : Option Nat) (s t : Interpreter) : Prop where
  values : ∀ p, python ≠ some p → p < s.values.length → t.values[p]? = s.values[p]?
  made : ∀ i : Nat, (t.objects[i]?).map ManagerObject.made = (s.objects[i]?).map ManagerObject.made
  tokens : ∀ i : Nat, object ≠ some i → t.objects[i]? = s.objects[i]?

theorem Touches.trans {python object : Option Nat} (h : Touches python object s t)
    (h' : Touches python object t u) : Touches python object s u := by
  constructor
  case values =>
    intro p hp hlt
    have hv := h.values p hp hlt
    have hlt' : p < t.values.length := by
      rw [List.getElem?_eq_getElem hlt] at hv
      exact (List.getElem?_eq_some_iff.mp hv).1
    exact (h'.values p hp hlt').trans hv
  case made => exact fun i => (h'.made i).trans (h.made i)
  case tokens => exact fun i hi => (h'.tokens i hi).trans (h.tokens i hi)

theorem Touches.of_objects {python object : Option Nat} (ho : t.objects = s.objects)
    (hv : ∀ p, python ≠ some p → p < s.values.length → t.values[p]? = s.values[p]?) :
    Touches python object s t :=
  ⟨hv, fun _ => by rw [ho], fun _ _ => by rw [ho]⟩

theorem Touches.of_eq {python object : Option Nat} (hv : t.values = s.values)
    (ho : t.objects = s.objects) : Touches python object s t :=
  .of_objects ho fun p _ _ => congrArg (·[p]?) hv

theorem Touches.setValue {object : Option Nat} (s : Interpreter) (python : Nat) (v : VarValue) :
    Touches (some python) object s (s.setValue python v) :=
  .of_objects rfl fun _ hp _ => List.getElem?_set_ne fun h => hp (congrArg some h)

theorem Touches.shutdown {object : Option Nat} (s : Interpreter) (python : Nat) :
    Touches (some python) object s (s.shutdown python) := by
  unfold Interpreter.shutdown contextVarSet
  split
  · exact .of_eq rfl rfl
  · exact .setValue s python .none

theorem Touches.contextVarReset {object : Option Nat} (s : Interpreter) (python : Nat)
    (t : VarToken) : Touches (some python) object s (s.contextVarReset python t) := by
  unfold Interpreter.contextVarReset
  split
  · exact .setValue s python t.old
  · exact .of_eq rfl rfl

theorem Touches.contextVarInit {object : Option Nat} (s : Interpreter) (python : Nat)
    (env : InitEnv) : Touches (some python) object s (s.contextVarInit python env).2 := by
  unfold Interpreter.contextVarInit
  split
  · exact .of_eq rfl rfl
  · dsimp only
    split
    · exact .of_eq rfl rfl
    · split
      · exact .of_eq rfl rfl
      · exact .of_objects rfl fun _ hp _ => List.getElem?_set_ne fun h => hp (congrArg some h)

theorem Touches.newLoop {object : Option Nat} (s : Interpreter) (python : Nat)
    (env : InitEnv) : Touches (some python) object s (s.stepNewLoop python env) := by
  unfold stepNewLoop
  split
  · exact .shutdown s python
  · have hi := @Touches.contextVarInit object s python env
    cases hx : s.contextVarInit python env with
    | mk ok u =>
      rw [hx] at hi
      cases ok with
      | false => exact hi.trans (.shutdown u python)
      | true => exact hi.trans (.of_eq rfl rfl)

theorem Touches.close {object : Option Nat} {loop python : Nat}
    (ht : s.stepClose loop python = .ok t) : Touches (some python) object s t := by
  unfold stepClose at ht
  split at ht
  · cases ht
  · cases ht
    exact .of_eq rfl rfl
  · cases ht
    exact (Touches.shutdown s python).trans (.of_eq rfl rfl)

/-- Only the field `token` of one object changes. -/
theorem Touches.setToken {python : Option Nat} {object : Nat} {o : ManagerObject}
    {token : TokenField} (hv : t.values = s.values) (hobj : s.objects[object]? = some o)
    (ho : t.objects = s.objects.set object { o with token := token }) :
    Touches python (some object) s t := by
  refine ⟨fun p _ _ => congrArg (·[p]?) hv, fun i => ?_, fun i hi => ?_⟩
  · rw [ho]
    by_cases hi : object = i
    · subst hi
      rw [List.getElem?_set_self (List.getElem?_eq_some_iff.mp hobj).1, hobj]
      rfl
    · rw [List.getElem?_set_ne hi]
  · rw [ho]
    exact List.getElem?_set_ne fun h => hi (congrArg some h)

theorem Touches.keepToken {object python : Nat} {o : ManagerObject} {old : VarValue}
    {opened : Bool} (ho : s.objects[object]? = some o) :
    Touches (some python) (some object) s (s.keepToken object o ⟨python, old⟩ opened) := by
  unfold Interpreter.keepToken
  split
  · exact .contextVarReset s python ⟨python, old⟩
  · exact .setToken rfl ho rfl

theorem Touches.enterWith {object python pointer : Nat} {o : ManagerObject} {opened : Bool}
    (ho : s.objects[object]? = some o) :
    Touches (some python) (some object) s (s.enterWith object o python pointer opened) := by
  cases hc : s.created with
  | false =>
    rw [enterWith_of_not_created hc]
    exact .of_eq rfl rfl
  | true =>
    rw [enterWith_eq hc]
    have hset := @Touches.setValue (some object) (s.addCapsule pointer) python
      (.capsule s.capsules.length)
    refine Touches.trans ?_ (hset.trans (.keepToken ho))
    exact .of_eq rfl rfl

theorem Touches.enter {object python : Nat} {env : VarEnterEnv}
    (ht : s.stepEnter object python env = .ok t) :
    Touches (some python) (some object) s t := by
  have hent : Touches (some python) (some object) s { s with entered := object :: s.entered } :=
    .of_eq rfl rfl
  unfold stepEnter at ht
  split at ht
  · cases ht
  · rename_i o ho
    dsimp only at ht
    split at ht
    · split at ht
      · cases ht
        exact hent
      · cases ht
        exact hent.trans (.enterWith ho)
    · cases ht
    · split at ht
      · cases ht
        exact hent
      · split at ht
        · split at ht
          · cases ht
            exact hent
          · cases ht
            refine hent.trans (Touches.trans ?_ (.enterWith ho))
            exact .of_eq rfl rfl
        · cases ht

theorem contextVarReset_objects (s : Interpreter) (python : Nat) (t : VarToken) :
    (s.contextVarReset python t).objects = s.objects := by
  unfold contextVarReset
  split <;> rfl

theorem Touches.exit {object python : Nat} (ht : s.stepExit object python = .ok t) :
    Touches (some python) (some object) s t := by
  unfold stepExit at ht
  split at ht
  · cases ht
  · rename_i o ho
    split at ht
    · cases ht
    · cases ht
      exact .of_eq rfl rfl
    · rename_i tok _
      cases ht
      have hobjects := contextVarReset_objects s python tok
      refine (Touches.contextVarReset s python tok).trans ?_
      refine @Touches.setToken _ _ _ _ o .null rfl (hobjects ▸ ho) ?_
      rw [hobjects]

theorem Touches.destroy {python object : Option Nat} {id : Nat}
    (ht : s.stepDestroy id = .ok t) : Touches python object s t := by
  unfold stepDestroy at ht
  split at ht
  · split at ht
    · cases ht
    · split at ht
      · cases ht
        exact .of_eq rfl rfl
      · cases ht
  · cases ht

/-- The context that an ExecutionContextCtx wraps is the one it was made with. -/
def Wraps (s : Interpreter) (o : ManagerObject) : Prop :=
  ∀ (c : ExecutionContext) (p : PayloadId), o.manager = .executionContext c p →
    ∃ q b, o.payload = some q ∧ s.blocks[q]? = some b ∧ b.context = c

theorem newManager_objects {loop : Nat} {manager : Manager}
    (ht : s.stepNewManager loop manager = .ok t) :
    t.values = s.values ∧ ∃ os, t.objects = s.objects ++ os ∧ ∀ o ∈ os, t.Wraps o := by
  unfold stepNewManager at ht
  split at ht
  · cases ht
  · cases ht
    exact ⟨rfl, [], (List.append_nil _).symm, by simp⟩
  · cases manager with
    | executionContext payload p =>
      cases ht
      refine ⟨rfl, [_], rfl, fun o ho c p hm => ?_⟩
      obtain rfl := List.mem_singleton.mp ho
      obtain ⟨rfl, -⟩ := Manager.executionContext.inj hm
      exact ⟨_, ⟨payload, false⟩, rfl, by simp [Interpreter.addBlock], rfl⟩
    | bufferMode payload p =>
      cases ht
      refine ⟨rfl, [_], rfl, fun o ho c p hm => ?_⟩
      obtain rfl := List.mem_singleton.mp ho
      exact absurd hm (by simp)
    | streamStrategy payload =>
      cases ht
      refine ⟨rfl, [_], rfl, fun o ho c p hm => ?_⟩
      obtain rfl := List.mem_singleton.mp ho
      exact absurd hm (by simp)
    | transferMode payload =>
      cases ht
      refine ⟨rfl, [_], rfl, fun o ho c p hm => ?_⟩
      obtain rfl := List.mem_singleton.mp ho
      exact absurd hm (by simp)

/-- A step touches what its action names, or it is a constructor. -/
theorem step_touches {a : VarAct} (ht : s.step a = .ok t) :
    Touches a.python a.object s t ∨
      t.values = s.values ∧ ∃ os, t.objects = s.objects ++ os ∧ ∀ o ∈ os, t.Wraps o := by
  cases a with
  | newContext =>
    cases ht
    exact .inl (.of_objects rfl fun p _ hp => List.getElem?_append_left hp)
  | copyContext python =>
    cases ht
    exact .inl (.of_objects rfl fun p _ hp => List.getElem?_append_left hp)
  | newLoop python env =>
    cases ht
    exact .inl (.newLoop s python env)
  | close loop python => exact .inl (.close ht)
  | newManager loop manager => exact .inr (newManager_objects ht)
  | enter object python env => exact .inl (.enter ht)
  | exit object python => exact .inl (.exit ht)
  | destroy id => exact .inl (.destroy ht)
  | call python loop call env =>
    cases ht
    exact .inl (.of_eq rfl rfl)

theorem value_of_step {a : VarAct} {p : Nat} (ht : s.step a = .ok t) (ha : a.python ≠ some p)
    (hp : p < s.values.length) : t.values[p]? = s.values[p]? := by
  rcases step_touches ht with h | ⟨hv, -⟩
  · exact h.values p ha hp
  · rw [hv]

theorem object_of_step {a : VarAct} {i : Nat} {o : ManagerObject} (ht : s.step a = .ok t)
    (ha : a.object ≠ some i) (ho : s.objects[i]? = some o) : t.objects[i]? = some o := by
  rcases step_touches ht with h | ⟨-, os, hos, -⟩
  · exact (h.tokens i ha).trans ho
  · rw [hos]
    exact (List.getElem?_append_left (List.getElem?_eq_some_iff.mp ho).1).trans ho

/-- Every object wraps the context it was made with. -/
def Made (s : Interpreter) : Prop :=
  ∀ (i : Nat) (o : ManagerObject), s.objects[i]? = some o → s.Wraps o

theorem Wraps.step {a : VarAct} {o o' : ManagerObject} (hs : s.Wraps o)
    (ht : s.step a = .ok t) (hmade : o'.made = o.made) : t.Wraps o' := by
  intro c p hm
  obtain ⟨hman, hpay⟩ := Prod.mk.inj hmade
  obtain ⟨q, b, hq, hb, hc⟩ := hs c p (hman.symm.trans hm)
  obtain ⟨b', hb', hc'⟩ := (Grows.step ht).blocks q b hb
  exact ⟨q, b', hpay.trans hq, hb', hc'.trans hc⟩

theorem Made.step {a : VarAct} (hs : s.Made) (ht : s.step a = .ok t) : t.Made := by
  intro i o ho
  rcases step_touches ht with h | ⟨-, os, hos, hw⟩
  · have hm := h.made i
    rw [ho] at hm
    obtain ⟨o', ho', he⟩ := Option.map_eq_some_iff.mp hm.symm
    exact (hs i o' ho').step ht he.symm
  · rw [hos] at ho
    rcases List.mem_append.mp (List.mem_of_getElem? ho) with hold | hnew
    · obtain ⟨j, hj⟩ := List.mem_iff_getElem?.mp hold
      exact (hs j o hj).step ht rfl
    · exact hw o hnew

end Interpreter

end Uringio
