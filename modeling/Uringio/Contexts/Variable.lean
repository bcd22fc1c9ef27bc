/-
  The context variable in the whole interpreter (`contextvar.c`).

  The variable is one static object for all loops, and has a value of its own in every Python
  context: none at all, None, or a capsule around an ExecutionContext. `ContextVar_get` returns
  NULL unless it is a capsule, the getters read through what it returns, and the shutdown of
  any loop stores None. A capsule is destroyed some time after the last reference to it is
  gone, and takes the ExecutionContext with it.

  `reads_safe_iff`: the getters of the operations return the fields of a valid context exactly
  when the variable holds a capsule in the Python context of each operation that comes to
  one, as long as no ExecutionContextCtx is entered a second time.
-/
import Uringio.Contexts.Nesting
import Uringio.PyOps.Reads

namespace Uringio

/-! ## State -/

/-- The variable in one Python context. -/
inductive VarValue where
  | unset
  | none
  | capsule (id : Nat)
deriving DecidableEq, Repr

/-- A capsule with the position of its ExecutionContext. -/
structure Capsule where
  pointer : Nat
  alive : Bool
deriving DecidableEq, Repr

/-- An ExecutionContext from `malloc`. -/
structure ContextBlock where
  context : ExecutionContext
  freed : Bool
deriving DecidableEq, Repr

/-- A token works in the Python context that it was made in. -/
structure VarToken where
  python : Nat
  old : VarValue
deriving DecidableEq, Repr

/-- The field `token` of a manager. Two of the constructors leave it unassigned. -/
inductive TokenField where
  | unassigned
  | null
  | token (t : VarToken)
deriving DecidableEq, Repr

/-- A manager; `payload` is the block behind the field of that name of an
    ExecutionContextCtx. -/
structure ManagerObject where
  manager : Manager
  payload : Option Nat
  token : TokenField
deriving DecidableEq, Repr

/-- `created` says whether `execution_context_var` is set, `values` has the variable in each
    Python context, `loops` whether each loop is open. `leaked` has the tokens that a second
    enter has overwritten, and `entered` the objects whose `__enter__` was called. -/
structure Interpreter where
  created : Bool
  values : List VarValue
  capsules : List Capsule
  blocks : List ContextBlock
  objects : List ManagerObject
  leaked : List VarValue
  loops : List Bool
  entered : List Nat
deriving DecidableEq, Repr

/-- What the environment decides while a loop is created: all that comes before
    `ContextVar_init`, the variable itself, and the memory for the context and its capsule. -/
structure InitEnv where
  ring : Bool
  imported : Bool
  block : Bool
  capsule : Bool
deriving DecidableEq, Repr

/-- What it decides in an enter: memory for the copy of the context and for the capsule, and
    whether the buffer mode can be opened. -/
structure VarEnterEnv where
  block : Bool
  capsule : Bool
  opened : Bool
deriving DecidableEq, Repr

/-- What runs in a Python context `python`, and what makes new ones: a thread starts with an
    empty context, a task with a copy. `close` is `close()` or the deallocation of a loop. In
    a call the loop is in whatever state it has by then. -/
inductive VarAct where
  | newContext
  | copyContext (python : Nat)
  | newLoop (python : Nat) (env : InitEnv)
  | close (loop python : Nat)
  | newManager (loop : Nat) (manager : Manager)
  | enter (object python : Nat) (env : VarEnterEnv)
  | exit (object python : Nat)
  | destroy (capsule : Nat)
  | call (python : Nat) (loop : Loop) (call : OpCall) (env : CallEnv)

namespace TokenField

/-- The value that the token would restore. -/
def old : TokenField → List VarValue
  | .token t => [t.old]
  | _ => []

end TokenField

namespace Interpreter

/-- One thread without a loop. -/
def init : Interpreter := ⟨false, [.unset], [], [], [], [], [], []⟩

/-- All that holds a reference to a value of the variable. -/
def refs (s : Interpreter) : List VarValue :=
  s.values ++ s.objects.flatMap (fun o => o.token.old) ++ s.leaked

/-! ## The functions of `contextvar.c` -/

def setValue (s : Interpreter) (python : Nat) (v : VarValue) : Interpreter :=
  { s with values := s.values.set python v }

def addBlock (s : Interpreter) (context : ExecutionContext) (freed : Bool) : Interpreter :=
  { s with blocks := s.blocks ++ [⟨context, freed⟩] }

/-- `PyCapsule_New`. -/
def addCapsule (s : Interpreter) (pointer : Nat) : Interpreter :=
  { s with capsules := s.capsules ++ [⟨pointer, true⟩] }

/-- `ContextVar_get`: the pointer in the capsule, or NULL. -/
def contextVarGet (s : Interpreter) (python : Nat) : Option Nat :=
  if !s.created then none
  else
    match s.values[python]? with
    | some (.capsule id) => (s.capsules[id]?).map Capsule.pointer
    | _ => none

/-- The context that the getters find behind that pointer. -/
def contextOf (s : Interpreter) (python : Nat) : Option ExecutionContext :=
  (s.contextVarGet python).bind fun p =>
    (s.blocks[p]?).bind fun b => if b.freed then none else some b.context

/-- `ContextVar_set`. -/
def contextVarSet (s : Interpreter) (python : Nat) (v : VarValue) :
    Option VarToken × Interpreter :=
  if !s.created then (none, s)
  else (some ⟨python, s.values.getD python .unset⟩, s.setValue python v)

/-- `ContextVar_reset` with a token that was not used before. -/
def contextVarReset (s : Interpreter) (python : Nat) (t : VarToken) : Interpreter :=
  if t.python = python then s.setValue python t.old else s

/-- `ContextVar_init`, with whether it returns the variable. -/
def contextVarInit (s : Interpreter) (python : Nat) (env : InitEnv) : Bool × Interpreter :=
  if !s.created && !env.imported then (false, s)
  else
    let s := { s with created := true }
    if !env.block then (false, s)
    else if !env.capsule then (false, s.addBlock .default true)
    else
      (true, ((s.addBlock .default false).addCapsule s.blocks.length).setValue python
        (.capsule s.capsules.length))

/-! ## Steps -/

/-- What `graceful_shutdown` does to the variable. -/
def shutdown (s : Interpreter) (python : Nat) : Interpreter :=
  (s.contextVarSet python .none).2

/-- A loop that cannot be initialised is deallocated at once. -/
def stepNewLoop (s : Interpreter) (python : Nat) (env : InitEnv) : Interpreter :=
  if !env.ring then s.shutdown python
  else
    match s.contextVarInit python env with
    | (true, s) => { s with loops := s.loops ++ [true] }
    | (false, s) => s.shutdown python

def stepClose (s : Interpreter) (loop python : Nat) : Except Stop Interpreter :=
  match s.loops[loop]? with
  | none => .error .stuck
  | some false => .ok s
  | some true => .ok { s.shutdown python with loops := s.loops.set loop false }

/-- A closed loop raises. -/
def stepNewManager (s : Interpreter) (loop : Nat) (manager : Manager) :
    Except Stop Interpreter :=
  match s.loops[loop]? with
  | none => .error .stuck
  | some false => .ok s
  | some true =>
    match manager with
    | .executionContext payload _ =>
      let o : ManagerObject := ⟨manager, some s.blocks.length, .null⟩
      .ok { s.addBlock payload false with objects := s.objects ++ [o] }
    | .bufferMode _ _ => .ok { s with objects := s.objects ++ [⟨manager, none, .null⟩] }
    | .streamStrategy _ | .transferMode _ =>
      .ok { s with objects := s.objects ++ [⟨manager, none, .unassigned⟩] }

/-- The end of an enter: the token goes into the object, or the mode cannot be opened and the
    variable is set back. -/
def keepToken (s : Interpreter) (object : Nat) (o : ManagerObject) (t : VarToken)
    (opened : Bool) : Interpreter :=
  if !opened then s.contextVarReset t.python t
  else
    { s with
      objects := s.objects.set object { o with token := .token t }
      leaked := o.token.old ++ s.leaked }

/-- The variable gets a new capsule around `pointer`. -/
def enterWith (s : Interpreter) (object : Nat) (o : ManagerObject) (python pointer : Nat)
    (opened : Bool) : Interpreter :=
  match (s.addCapsule pointer).contextVarSet python (.capsule s.capsules.length) with
  | (none, s) => s
  | (some t, s) => s.keepToken object o t opened

/-- The enters of the managers. All but that of the ExecutionContextCtx copy the current
    context, if there is one. -/
def stepEnter (s : Interpreter) (object python : Nat) (env : VarEnterEnv) :
    Except Stop Interpreter :=
  match s.objects[object]? with
  | none => .error .stuck
  | some o =>
    let s := { s with entered := object :: s.entered }
    match o.manager, o.payload with
    | .executionContext _ _, some pointer =>
      if !env.capsule then .ok s else .ok (s.enterWith object o python pointer env.opened)
    | .executionContext _ _, none => .error .segv
    | m, _ =>
      match s.contextVarGet python with
      | none => .ok s
      | some pointer =>
        match s.blocks[pointer]? with
        | some ⟨context, false⟩ =>
          if !env.block || !env.capsule then .ok s
          else
            let opened := match m with
              | .bufferMode _ _ => env.opened
              | _ => true
            .ok ((s.addBlock (m.override context) false).enterWith object o python
              s.blocks.length opened)
        | _ => .error .segv

/-- The exits: a token of another Python context raises, and is dropped as well. -/
def stepExit (s : Interpreter) (object python : Nat) : Except Stop Interpreter :=
  match s.objects[object]? with
  | none => .error .stuck
  | some o =>
    match o.token with
    | .unassigned => .error .segv
    | .null => .ok s
    | .token t =>
      .ok { s.contextVarReset python t with
        objects := s.objects.set object { o with token := .null } }

/-- `free_exec_context` of a capsule that nothing refers to. -/
def stepDestroy (s : Interpreter) (id : Nat) : Except Stop Interpreter :=
  match s.capsules[id]? with
  | some ⟨pointer, true⟩ =>
    if .capsule id ∈ s.refs then .error .stuck
    else
      match s.blocks[pointer]? with
      | some ⟨context, false⟩ =>
        .ok { s with
          capsules := s.capsules.set id ⟨pointer, false⟩
          blocks := s.blocks.set pointer ⟨context, true⟩ }
      | _ => .error .abort
  | _ => .error .stuck

def step (s : Interpreter) (a : VarAct) : Except Stop Interpreter :=
  match a with
  | .newContext => .ok { s with values := s.values ++ [.unset] }
  | .copyContext python => .ok { s with values := s.values ++ [s.values.getD python .unset] }
  | .newLoop python env => .ok (s.stepNewLoop python env)
  | .close loop python => s.stepClose loop python
  | .newManager loop manager => s.stepNewManager loop manager
  | .enter object python env => s.stepEnter object python env
  | .exit object python => s.stepExit object python
  | .destroy id => s.stepDestroy id
  | .call _ _ _ _ => .ok s

abbrev run (s : Interpreter) (acts : List VarAct) : Except Stop Interpreter :=
  Lib.run step s acts

/-! ## Who owns a context -/

/-- Every capsule that is referred to is alive and has a context of its own; the contexts of
    the objects that were not entered have no capsule yet. -/
structure Owned (s : Interpreter) : Prop where
  created : ∀ id, .capsule id ∈ s.refs → s.created = true
  alive : ∀ id, .capsule id ∈ s.refs → ∃ k, s.capsules[id]? = some k ∧ k.alive = true
  valid : ∀ (id : Nat) (k : Capsule), s.capsules[id]? = some k → k.alive = true →
    ∃ b, s.blocks[k.pointer]? = some b ∧ b.freed = false
  bounded : ∀ (id : Nat) (k : Capsule), s.capsules[id]? = some k → k.pointer < s.blocks.length
  owner : ∀ (i j : Nat) (k k' : Capsule), s.capsules[i]? = some k → s.capsules[j]? = some k' →
    k.pointer = k'.pointer → i = j
  payload : ∀ (i : Nat) (o : ManagerObject) (p : Nat), s.objects[i]? = some o →
    o.payload = some p → p < s.blocks.length
  waiting : ∀ (i : Nat) (o : ManagerObject) (p : Nat), s.objects[i]? = some o →
    o.payload = some p → i ∉ s.entered →
      (∃ b, s.blocks[p]? = some b ∧ b.freed = false) ∧
      ∀ (id : Nat) (k : Capsule), s.capsules[id]? = some k → k.pointer ≠ p
  apart : ∀ (i j : Nat) (o o' : ManagerObject) (p : Nat), s.objects[i]? = some o →
    s.objects[j]? = some o' → o.payload = some p → o'.payload = some p → i = j

theorem init_owned : init.Owned := by
  constructor
  case created => simp [init, refs]
  case alive => simp [init, refs]
  case valid => simp [init]
  case bounded => simp [init]
  case owner => simp [init]
  case payload => simp [init]
  case waiting => simp [init]
  case apart => simp [init]

/-- The variable of a Python context is set. -/
def IsSet (s : Interpreter) (python : Nat) : Prop := ∃ id, s.values[python]? = some (.capsule id)

theorem contextOf_of_isSet {s : Interpreter} {python : Nat} (hs : s.Owned)
    (h : s.IsSet python) : ∃ c, s.contextOf python = some c := by
  obtain ⟨id, hid⟩ := h
  have hmem : VarValue.capsule id ∈ s.refs := by simp [refs, List.mem_of_getElem? hid]
  obtain ⟨k, hk, hal⟩ := hs.alive id hmem
  obtain ⟨b, hb, hf⟩ := hs.valid id k hk hal
  refine ⟨b.context, ?_⟩
  unfold contextOf contextVarGet
  simp [hs.created id hmem, hid, hk, hb, hf]

theorem isSet_of_contextOf {s : Interpreter} {python : Nat} {c : ExecutionContext}
    (h : s.contextOf python = some c) : s.IsSet python := by
  unfold contextOf contextVarGet at h
  split at h
  · exact absurd h (by simp)
  · split at h
    · rename_i id hid
      exact ⟨id, hid⟩
    · exact absurd h (by simp)

/-! ## What the steps keep -/

section Steps

variable {s t : Interpreter}

/-- A step that moves values around and makes no new capsule or block. -/
structure Rebinds (s t : Interpreter) : Prop where
  capsules : t.capsules = s.capsules
  blocks : t.blocks = s.blocks
  payloads : t.objects.map ManagerObject.payload = s.objects.map ManagerObject.payload
  entered : ∀ i ∈ s.entered, i ∈ t.entered
  created : s.created = true → t.created = true
  refs : ∀ id, .capsule id ∈ t.refs → .capsule id ∈ s.refs ∨
    t.created = true ∧ ∃ k, s.capsules[id]? = some k ∧ k.alive = true

theorem Rebinds.object (h : Rebinds s t) {i : Nat} {o : ManagerObject}
    (ho : t.objects[i]? = some o) : ∃ o', s.objects[i]? = some o' ∧ o'.payload = o.payload := by
  have hp := congrArg (·[i]?) h.payloads
  simp only [List.getElem?_map, ho, Option.map_some] at hp
  obtain ⟨o', ho', he⟩ := Option.map_eq_some_iff.mp hp.symm
  exact ⟨o', ho', he⟩

theorem Owned.rebind (hs : s.Owned) (h : Rebinds s t) : t.Owned := by
  constructor
  case created =>
    intro id hid
    rcases h.refs id hid with hold | hnew
    · exact h.created (hs.created id hold)
    · exact hnew.1
  case alive =>
    intro id hid
    rw [h.capsules]
    rcases h.refs id hid with hold | hnew
    · exact hs.alive id hold
    · exact hnew.2
  case valid =>
    intro id k hk hal
    rw [h.capsules] at hk
    rw [h.blocks]
    exact hs.valid id k hk hal
  case bounded =>
    intro id k hk
    rw [h.capsules] at hk
    rw [h.blocks]
    exact hs.bounded id k hk
  case owner =>
    intro i j k k' hk hk'
    rw [h.capsules] at hk hk'
    exact hs.owner i j k k' hk hk'
  case payload =>
    intro i o p ho hp
    obtain ⟨o', ho', he⟩ := h.object ho
    rw [h.blocks]
    exact hs.payload i o' p ho' (he.trans hp)
  case waiting =>
    intro i o p ho hp hent
    obtain ⟨o', ho', he⟩ := h.object ho
    rw [h.blocks, h.capsules]
    exact hs.waiting i o' p ho' (he.trans hp) fun hi => hent (h.entered i hi)
  case apart =>
    intro i j o o' p ho ho' hp hp'
    obtain ⟨q, hq, he⟩ := h.object ho
    obtain ⟨q', hq', he'⟩ := h.object ho'
    exact hs.apart i j q q' p hq hq' (he.trans hp) (he'.trans hp')

theorem Rebinds.of_values (hc : t.capsules = s.capsules) (hb : t.blocks = s.blocks)
    (ho : t.objects = s.objects) (he : t.entered = s.entered) (hl : t.leaked = s.leaked)
    (hcr : s.created = true → t.created = true)
    (hv : ∀ v ∈ t.values, v ∈ s.values ∨ ∀ id, v ≠ .capsule id) : Rebinds s t := by
  refine ⟨hc, hb, by rw [ho], fun i hi => he ▸ hi, hcr, fun id hid => .inl ?_⟩
  unfold Interpreter.refs at hid ⊢
  rw [ho, hl] at hid
  rw [List.append_assoc, List.mem_append] at hid ⊢
  rcases hid with hid | hid
  · rcases hv _ hid with h | h
    · exact .inl h
    · exact absurd rfl (h id)
  · exact .inr hid

theorem mem_getD {vs : List VarValue} {i id : Nat} (h : vs.getD i .unset = .capsule id) :
    .capsule id ∈ vs := by
  rw [List.getD_eq_getElem?_getD] at h
  cases hv : vs[i]? with
  | none =>
    rw [hv] at h
    exact absurd h (by simp)
  | some v =>
    rw [hv] at h
    exact h ▸ List.mem_of_getElem? hv

theorem Owned.shutdown (hs : s.Owned) (python : Nat) : (s.shutdown python).Owned := by
  unfold Interpreter.shutdown contextVarSet
  split
  · exact hs
  · refine hs.rebind (.of_values rfl rfl rfl rfl rfl id fun v hv => ?_)
    rcases List.mem_or_eq_of_mem_set hv with h | h
    · exact .inl h
    · exact .inr fun id hid => by rw [h] at hid; exact absurd hid (by simp)

theorem Owned.addBlock (hs : s.Owned) (context : ExecutionContext) (freed : Bool) :
    (s.addBlock context freed).Owned := by
  have hkeep : ∀ (p : Nat) (b : ContextBlock), s.blocks[p]? = some b →
      (s.addBlock context freed).blocks[p]? = some b := by
    intro p b hb
    have hlt : p < s.blocks.length := (List.getElem?_eq_some_iff.mp hb).1
    exact (List.getElem?_append_left hlt).trans hb
  have hlen : (s.addBlock context freed).blocks.length = s.blocks.length + 1 := by
    simp [Interpreter.addBlock]
  constructor
  case created => exact hs.created
  case alive => exact hs.alive
  case valid =>
    intro id k hk hal
    obtain ⟨b, hb, hf⟩ := hs.valid id k hk hal
    exact ⟨b, hkeep _ _ hb, hf⟩
  case bounded =>
    intro id k hk
    have := hs.bounded id k hk
    omega
  case owner => exact hs.owner
  case payload =>
    intro i o p ho hp
    have := hs.payload i o p ho hp
    omega
  case waiting =>
    intro i o p ho hp hent
    obtain ⟨⟨b, hb, hf⟩, hno⟩ := hs.waiting i o p ho hp hent
    exact ⟨⟨b, hkeep _ _ hb, hf⟩, hno⟩
  case apart => exact hs.apart

/-- A new capsule around a context that nobody has wrapped. -/
theorem Owned.addCapsule {p : Nat} (hs : s.Owned)
    (hb : ∃ b, s.blocks[p]? = some b ∧ b.freed = false)
    (hno : ∀ (id : Nat) (k : Capsule), s.capsules[id]? = some k → k.pointer ≠ p)
    (hent : ∀ (i : Nat) (o : ManagerObject), s.objects[i]? = some o → o.payload = some p →
      i ∈ s.entered) : (s.addCapsule p).Owned := by
  have hcases : ∀ (id : Nat) (k : Capsule), (s.addCapsule p).capsules[id]? = some k →
      s.capsules[id]? = some k ∨ id = s.capsules.length ∧ k = ⟨p, true⟩ := by
    intro id k hk
    rcases Nat.lt_or_ge id s.capsules.length with hlt | hge
    · exact .inl ((List.getElem?_append_left hlt).symm.trans hk)
    · rw [show (s.addCapsule p).capsules[id]? = _ from List.getElem?_append_right hge,
        List.getElem?_singleton] at hk
      split at hk
      · exact .inr ⟨by omega, (Option.some.inj hk).symm⟩
      · exact absurd hk (by simp)
  have hkeep : ∀ (id : Nat) (k : Capsule), s.capsules[id]? = some k →
      (s.addCapsule p).capsules[id]? = some k := by
    intro id k hk
    have hlt : id < s.capsules.length := (List.getElem?_eq_some_iff.mp hk).1
    exact (List.getElem?_append_left hlt).trans hk
  constructor
  case created => exact hs.created
  case alive =>
    intro id hid
    obtain ⟨k, hk, hal⟩ := hs.alive id hid
    exact ⟨k, hkeep id k hk, hal⟩
  case valid =>
    intro id k hk hal
    rcases hcases id k hk with hold | ⟨-, rfl⟩
    · exact hs.valid id k hold hal
    · exact hb
  case bounded =>
    intro id k hk
    rcases hcases id k hk with hold | ⟨-, rfl⟩
    · exact hs.bounded id k hold
    · obtain ⟨b, hb, -⟩ := hb
      exact (List.getElem?_eq_some_iff.mp hb).1
  case owner =>
    intro i j k k' hk hk' he
    rcases hcases i k hk with hold | ⟨hi, rfl⟩
    · rcases hcases j k' hk' with hold' | ⟨-, rfl⟩
      · exact hs.owner i j k k' hold hold' he
      · exact absurd he (hno i k hold)
    · rcases hcases j k' hk' with hold' | ⟨hj, -⟩
      · exact absurd he.symm (hno j k' hold')
      · exact hi.trans hj.symm
  case payload => exact hs.payload
  case waiting =>
    intro i o q ho hq hi
    obtain ⟨hlive, hnone⟩ := hs.waiting i o q ho hq hi
    refine ⟨hlive, fun id k hk => ?_⟩
    rcases hcases id k hk with hold | ⟨-, rfl⟩
    · exact hnone id k hold
    · intro he
      exact hi (hent i o ho (hq.trans (congrArg some he.symm)))
  case apart => exact hs.apart

/-- A capsule that is alive becomes the value of the variable. -/
theorem Owned.setValue {python : Nat} {v : VarValue} (hs : s.Owned)
    (hv : ∀ id, v = .capsule id →
      s.created = true ∧ ∃ k, s.capsules[id]? = some k ∧ k.alive = true) :
    (s.setValue python v).Owned := by
  refine hs.rebind ⟨rfl, rfl, rfl, fun _ hi => hi, fun h => h, fun id hid => ?_⟩
  simp only [refs, List.append_assoc, List.mem_append] at hid ⊢
  rcases hid with hid | hid
  · rcases List.mem_or_eq_of_mem_set hid with h | h
    · exact .inl (.inl h)
    · exact .inr (hv id h.symm)
  · exact .inl (.inr hid)

theorem Owned.contextVarInit (hs : s.Owned) (python : Nat) (env : InitEnv) :
    (s.contextVarInit python env).2.Owned := by
  unfold Interpreter.contextVarInit
  split
  · exact hs
  · have hc : ({ s with created := true } : Interpreter).Owned :=
      hs.rebind (.of_values rfl rfl rfl rfl rfl (fun _ => rfl) fun v hv => .inl hv)
    dsimp only
    split
    · exact hc
    · split
      · exact hc.addBlock _ _
      · have hblock := hc.addBlock .default false
        refine Owned.setValue (hblock.addCapsule ?_ ?_ ?_) ?_
        · exact ⟨⟨.default, false⟩, by simp [Interpreter.addBlock], rfl⟩
        · exact fun id k hk => Nat.ne_of_lt (hs.bounded id k hk)
        · exact fun i o ho hp => absurd (hs.payload i o _ ho hp) (Nat.lt_irrefl _)
        · intro id hid
          obtain rfl := VarValue.capsule.inj hid
          refine ⟨rfl, ⟨s.blocks.length, true⟩, ?_, rfl⟩
          simp [Interpreter.addCapsule, Interpreter.addBlock]

theorem Owned.newLoop (hs : s.Owned) (python : Nat) (env : InitEnv) :
    (s.stepNewLoop python env).Owned := by
  unfold stepNewLoop
  split
  · exact hs.shutdown python
  · have hi := hs.contextVarInit python env
    cases hx : s.contextVarInit python env with
    | mk ok u =>
      rw [hx] at hi
      cases ok with
      | false => exact Owned.shutdown hi python
      | true =>
        exact Owned.rebind hi (.of_values rfl rfl rfl rfl rfl id fun v hv => .inl hv)

theorem Owned.close {loop python : Nat} (hs : s.Owned) (ht : s.stepClose loop python = .ok t) :
    t.Owned := by
  unfold stepClose at ht
  split at ht
  · cases ht
  · cases ht
    exact hs
  · cases ht
    exact (hs.shutdown python).rebind (.of_values rfl rfl rfl rfl rfl id fun v hv => .inl hv)

/-- A new object, with a block of its own or with none. -/
theorem Owned.addObject {o : ManagerObject} (hs : s.Owned) (ho : o.token.old = [])
    (hp : ∀ p, o.payload = some p → (∃ b, s.blocks[p]? = some b ∧ b.freed = false) ∧
      (∀ (id : Nat) (k : Capsule), s.capsules[id]? = some k → k.pointer ≠ p) ∧
      ∀ (i : Nat) (o' : ManagerObject), s.objects[i]? = some o' → o'.payload ≠ some p) :
    ({ s with objects := s.objects ++ [o] } : Interpreter).Owned := by
  have hcases : ∀ (i : Nat) (x : ManagerObject), (s.objects ++ [o])[i]? = some x →
      s.objects[i]? = some x ∨ i = s.objects.length ∧ x = o := by
    intro i x hx
    rcases Nat.lt_or_ge i s.objects.length with hlt | hge
    · exact .inl ((List.getElem?_append_left hlt).symm.trans hx)
    · rw [List.getElem?_append_right hge, List.getElem?_singleton] at hx
      split at hx
      · exact .inr ⟨by omega, (Option.some.inj hx).symm⟩
      · exact absurd hx (by simp)
  constructor
  case created =>
    intro id hid
    exact hs.created id (by simpa [refs, List.flatMap_append, ho] using hid)
  case alive =>
    intro id hid
    exact hs.alive id (by simpa [refs, List.flatMap_append, ho] using hid)
  case valid => exact hs.valid
  case bounded => exact hs.bounded
  case owner => exact hs.owner
  case payload =>
    intro i x p hx hxp
    rcases hcases i x hx with hold | ⟨-, rfl⟩
    · exact hs.payload i x p hold hxp
    · obtain ⟨⟨b, hb, -⟩, -⟩ := hp p hxp
      exact (List.getElem?_eq_some_iff.mp hb).1
  case waiting =>
    intro i x p hx hxp hent
    rcases hcases i x hx with hold | ⟨-, rfl⟩
    · exact hs.waiting i x p hold hxp hent
    · exact ⟨(hp p hxp).1, (hp p hxp).2.1⟩
  case apart =>
    intro i j x y p hx hy hxp hyp
    rcases hcases i x hx with hold | ⟨hi, rfl⟩
    · rcases hcases j y hy with hold' | ⟨-, rfl⟩
      · exact hs.apart i j x y p hold hold' hxp hyp
      · exact absurd hxp ((hp p hyp).2.2 i x hold)
    · rcases hcases j y hy with hold' | ⟨hj, -⟩
      · exact absurd hyp ((hp p hxp).2.2 j y hold')
      · exact hi.trans hj.symm

theorem Owned.newManager {loop : Nat} {manager : Manager} (hs : s.Owned)
    (ht : s.stepNewManager loop manager = .ok t) : t.Owned := by
  unfold stepNewManager at ht
  split at ht
  · cases ht
  · cases ht
    exact hs
  · cases manager with
    | executionContext payload p =>
      cases ht
      refine (hs.addBlock payload false).addObject rfl fun q hq => ?_
      obtain rfl := Option.some.inj hq
      refine ⟨⟨⟨payload, false⟩, by simp [Interpreter.addBlock], rfl⟩, fun id k hk => ?_,
        fun i o ho hp => ?_⟩
      · exact Nat.ne_of_lt (hs.bounded id k hk)
      · exact absurd (hs.payload i o _ ho hp) (Nat.lt_irrefl _)
    | bufferMode payload p =>
      cases ht
      exact hs.addObject rfl fun q hq => absurd hq (by simp)
    | streamStrategy payload =>
      cases ht
      exact hs.addObject rfl fun q hq => absurd hq (by simp)
    | transferMode payload =>
      cases ht
      exact hs.addObject rfl fun q hq => absurd hq (by simp)

/-- What an object's token holds is referred to. -/
theorem mem_refs_of_token {object : Nat} {o : ManagerObject} {v : VarValue}
    (ho : s.objects[object]? = some o) (hv : v ∈ o.token.old) : v ∈ s.refs := by
  simp only [refs, List.append_assoc, List.mem_append]
  exact .inr (.inl (List.mem_flatMap.mpr ⟨o, List.mem_of_getElem? ho, hv⟩))

/-- A new token for an object; the old one is leaked, or was used up. -/
theorem Owned.setToken {object : Nat} {o : ManagerObject} {token : TokenField}
    {leaked : List VarValue} (hs : s.Owned) (ho : s.objects[object]? = some o)
    (hl : ∀ v ∈ leaked, v ∈ s.refs)
    (ht : ∀ id, .capsule id ∈ token.old →
      s.created = true ∧ ∃ k, s.capsules[id]? = some k ∧ k.alive = true) :
    ({ s with
      objects := s.objects.set object { o with token := token }, leaked := leaked } :
      Interpreter).Owned := by
  refine hs.rebind ⟨rfl, rfl, ?_, fun _ hi => hi, fun h => h, fun id hid => ?_⟩
  · rw [List.map_set]
    obtain ⟨hlt, rfl⟩ := List.getElem?_eq_some_iff.mp ho
    apply List.ext_getElem?
    intro i
    by_cases hi : object = i
    · subst hi
      simp [hlt]
    · simp [hi]
  · have hmem : .capsule id ∈ s.values ∨
        .capsule id ∈ (s.objects.set object { o with token := token }).flatMap
          (fun o => o.token.old) ∨ .capsule id ∈ leaked := by
      simpa [refs] using hid
    rcases hmem with h | h | h
    · exact .inl (by simp [refs, h])
    · obtain ⟨x, hx, hxid⟩ := List.mem_flatMap.mp h
      rcases List.mem_or_eq_of_mem_set hx with hx | rfl
      · obtain ⟨i, hi⟩ := List.mem_iff_getElem?.mp hx
        exact .inl (mem_refs_of_token hi hxid)
      · exact .inr (ht id hxid)
    · exact .inl (hl _ h)

theorem Owned.contextVarReset {python : Nat} {t : VarToken} (hs : s.Owned)
    (hold : ∀ id, t.old = .capsule id →
      s.created = true ∧ ∃ k, s.capsules[id]? = some k ∧ k.alive = true) :
    (s.contextVarReset python t).Owned := by
  unfold Interpreter.contextVarReset
  split
  · exact hs.setValue hold
  · exact hs

theorem Owned.keepToken {object : Nat} {o : ManagerObject} {t : VarToken} {opened : Bool}
    (hs : s.Owned) (ho : s.objects[object]? = some o)
    (hold : ∀ id, t.old = .capsule id →
      s.created = true ∧ ∃ k, s.capsules[id]? = some k ∧ k.alive = true) :
    (s.keepToken object o t opened).Owned := by
  unfold Interpreter.keepToken
  split
  · exact hs.contextVarReset hold
  · refine hs.setToken ho (fun v hv => ?_) fun id hid => hold id (List.mem_singleton.mp hid).symm
    rcases List.mem_append.mp hv with hv | hv
    · exact mem_refs_of_token ho hv
    · simp [refs, hv]

theorem Owned.enterWith {object python pointer : Nat} {o : ManagerObject} {opened : Bool}
    (hs : (s.addCapsule pointer).Owned) (ho : s.objects[object]? = some o) :
    (s.enterWith object o python pointer opened).Owned := by
  unfold Interpreter.enterWith contextVarSet
  by_cases hc : s.created
  · have hc' : (!(s.addCapsule pointer).created) = false := by simp [Interpreter.addCapsule, hc]
    rw [hc']
    simp only [Bool.false_eq_true, if_false]
    refine (hs.setValue fun id hid => ?_).keepToken ho fun id hid => ?_
    · obtain rfl := VarValue.capsule.inj hid
      exact ⟨hc, ⟨pointer, true⟩, by simp [Interpreter.addCapsule], rfl⟩
    · have hmem : VarValue.capsule id ∈ (s.addCapsule pointer).refs := by
        simp [refs, mem_getD hid]
      exact ⟨hc, hs.alive id hmem⟩
  · have hc' : (!(s.addCapsule pointer).created) = true := by simp [Interpreter.addCapsule, hc]
    rw [hc']
    simpa using hs

/-- An ExecutionContextCtx is entered once. -/
def Once (s : Interpreter) (a : VarAct) : Prop :=
  match a with
  | .enter object _ _ =>
    object ∈ s.entered → (s.objects[object]?.all fun o => o.payload.isNone) = true
  | _ => True

instance (s : Interpreter) (a : VarAct) : Decidable (s.Once a) := by
  unfold Once
  split <;> infer_instance

theorem Owned.enter {object python : Nat} {env : VarEnterEnv} (hs : s.Owned)
    (honce : s.Once (.enter object python env)) (ht : s.stepEnter object python env = .ok t) :
    t.Owned := by
  have hent : ({ s with entered := object :: s.entered } : Interpreter).Owned :=
    hs.rebind ⟨rfl, rfl, rfl, fun _ hi => List.mem_cons_of_mem _ hi, fun h => h,
      fun _ hid => .inl hid⟩
  unfold stepEnter at ht
  cases ho : s.objects[object]? with
  | none =>
    rw [ho] at ht
    cases ht
  | some o =>
    rw [ho] at ht
    dsimp only at ht
    split at ht
    · rename_i pointer hm hp
      split at ht
      · cases ht
        exact hent
      · cases ht
        have hnew : object ∉ s.entered := by
          intro hmem
          have hnone := honce hmem
          simp [ho, hp] at hnone
        obtain ⟨hlive, hwrapped⟩ := hs.waiting object o pointer ho hp hnew
        refine Owned.enterWith (hent.addCapsule hlive hwrapped ?_) ho
        · intro i o' ho' hp'
          obtain rfl := hs.apart i object o' o pointer ho' ho hp' hp
          exact List.mem_cons_self
    · cases ht
    · split at ht
      · cases ht
        exact hent
      · split at ht
        · rename_i context hb
          split at ht
          · cases ht
            exact hent
          · cases ht
            refine Owned.enterWith ((hent.addBlock _ false).addCapsule ?_ ?_ ?_) ho
            · exact ⟨⟨o.manager.override context, false⟩, by simp [Interpreter.addBlock], rfl⟩
            · exact fun id k hk => Nat.ne_of_lt (hs.bounded id k hk)
            · exact fun i o ho hp => absurd (hs.payload i o _ ho hp) (Nat.lt_irrefl _)
        · cases ht

theorem Owned.exit {object python : Nat} (hs : s.Owned)
    (ht : s.stepExit object python = .ok t) : t.Owned := by
  unfold stepExit at ht
  cases ho : s.objects[object]? with
  | none =>
    rw [ho] at ht
    cases ht
  | some o =>
    rw [ho] at ht
    dsimp only at ht
    split at ht
    · cases ht
    · cases ht
      exact hs
    · rename_i tok htok
      cases ht
      have hreset : (s.contextVarReset python tok).Owned := by
        refine hs.contextVarReset fun id hid => ?_
        have hmem : VarValue.capsule id ∈ s.refs :=
          mem_refs_of_token ho (by simp [htok, TokenField.old, hid])
        exact ⟨hs.created id hmem, hs.alive id hmem⟩
      have hobjects : (s.contextVarReset python tok).objects = s.objects := by
        unfold Interpreter.contextVarReset
        split <;> rfl
      have hnull : ∀ id, .capsule id ∈ TokenField.null.old →
          (s.contextVarReset python tok).created = true ∧
            ∃ k, (s.contextVarReset python tok).capsules[id]? = some k ∧ k.alive = true := by
        intro id hid
        exact absurd hid (by simp [TokenField.old])
      have hleaked : ∀ v ∈ (s.contextVarReset python tok).leaked,
          v ∈ (s.contextVarReset python tok).refs := by
        intro v hv
        simp [refs, hv]
      have hset := hreset.setToken (hobjects ▸ ho) hleaked hnull
      rw [hobjects] at hset
      exact hset

theorem Owned.destroy {id : Nat} (hs : s.Owned) (ht : s.stepDestroy id = .ok t) : t.Owned := by
  unfold stepDestroy at ht
  split at ht
  · rename_i pointer hk
    split at ht
    · cases ht
    · rename_i hno
      split at ht
      · rename_i context hb
        cases ht
        have hlt : id < s.capsules.length := (List.getElem?_eq_some_iff.mp hk).1
        have hcases : ∀ (i : Nat) (k : Capsule),
            (s.capsules.set id ⟨pointer, false⟩)[i]? = some k →
              (i ≠ id ∧ s.capsules[i]? = some k) ∨ i = id ∧ k = ⟨pointer, false⟩ := by
          intro i k hi
          by_cases he : id = i
          · subst he
            rw [List.getElem?_set_self hlt] at hi
            exact .inr ⟨rfl, (Option.some.inj hi).symm⟩
          · rw [List.getElem?_set_ne he] at hi
            exact .inl ⟨fun h => he h.symm, hi⟩
        have hpointer : ∀ (i : Nat) (k : Capsule),
            (s.capsules.set id ⟨pointer, false⟩)[i]? = some k →
              ∃ k', s.capsules[i]? = some k' ∧ k'.pointer = k.pointer := by
          intro i k hi
          rcases hcases i k hi with ⟨-, hold⟩ | ⟨rfl, rfl⟩
          · exact ⟨k, hold, rfl⟩
          · exact ⟨_, hk, rfl⟩
        constructor
        case created => exact hs.created
        case alive =>
          intro i hi
          obtain ⟨k, hik, hal⟩ := hs.alive i hi
          have hne : id ≠ i := fun h => hno (h ▸ hi)
          exact ⟨k, (List.getElem?_set_ne hne).trans hik, hal⟩
        case valid =>
          intro i k hi hal
          rcases hcases i k hi with ⟨hne, hold⟩ | ⟨-, rfl⟩
          · obtain ⟨b, hbi, hf⟩ := hs.valid i k hold hal
            have hp : pointer ≠ k.pointer := by
              intro he
              exact hne (hs.owner i id k ⟨pointer, true⟩ hold hk he.symm)
            exact ⟨b, (List.getElem?_set_ne hp).trans hbi, hf⟩
          · exact absurd hal (by simp)
        case bounded =>
          intro i k hi
          obtain ⟨k', hold, he⟩ := hpointer i k hi
          rw [List.length_set, ← he]
          exact hs.bounded i k' hold
        case owner =>
          intro i j k k' hi hj he
          obtain ⟨q, hq, hqe⟩ := hpointer i k hi
          obtain ⟨q', hq', hqe'⟩ := hpointer j k' hj
          exact hs.owner i j q q' hq hq' (hqe.trans (he.trans hqe'.symm))
        case payload =>
          intro i o p ho hp
          rw [List.length_set]
          exact hs.payload i o p ho hp
        case waiting =>
          intro i o p ho hp hent
          obtain ⟨⟨b, hbp, hf⟩, hnone⟩ := hs.waiting i o p ho hp hent
          refine ⟨⟨b, ?_, hf⟩, fun j k hj => ?_⟩
          · exact (List.getElem?_set_ne (hnone id _ hk)).trans hbp
          · obtain ⟨k', hold, he⟩ := hpointer j k hj
            rw [← he]
            exact hnone j k' hold
        case apart => exact hs.apart
      · cases ht
  · cases ht

/-- Every step keeps the ownership, as long as no ExecutionContextCtx is entered again. -/
theorem Owned.step {a : VarAct} (hs : s.Owned) (honce : s.Once a) (ht : s.step a = .ok t) :
    t.Owned := by
  cases a with
  | newContext =>
    cases ht
    refine hs.rebind (.of_values rfl rfl rfl rfl rfl id fun v hv => ?_)
    rcases List.mem_append.mp hv with hv | hv
    · exact .inl hv
    · exact .inr fun id hid => by rw [List.mem_singleton.mp hv] at hid; exact absurd hid (by simp)
  | copyContext python =>
    cases ht
    refine hs.rebind (.of_values rfl rfl rfl rfl rfl id fun v hv => ?_)
    rcases List.mem_append.mp hv with hv | hv
    · exact .inl hv
    · rw [List.mem_singleton.mp hv]
      cases hd : s.values.getD python .unset with
      | unset => exact .inr fun id hid => absurd hid (by simp)
      | none => exact .inr fun id hid => absurd hid (by simp)
      | capsule id => exact .inl (mem_getD hd)
  | newLoop python env =>
    cases ht
    exact hs.newLoop python env
  | close loop python => exact hs.close ht
  | newManager loop manager => exact hs.newManager ht
  | enter object python env => exact hs.enter honce ht
  | exit object python => exact hs.exit ht
  | destroy id => exact hs.destroy ht
  | call python loop call env =>
    cases ht
    exact hs

end Steps

/-! ## The getters -/

/-- A call that comes to a getter finds the fields of a valid context. -/
def Safe (s : Interpreter) (a : VarAct) (_ : Interpreter) : Prop :=
  match a with
  | .call python l call env =>
    call.Reads env (l.withContext (s.contextOf python)) → ∃ c, s.contextOf python = some c
  | _ => True

/-- A call that comes to a getter is made where the variable holds a capsule. -/
def HoldsCapsule (s : Interpreter) (a : VarAct) : Prop :=
  match a with
  | .call python l call env => call.Reads env l → s.IsSet python
  | _ => True

theorem safe_iff {s t : Interpreter} {a : VarAct} (hs : s.Owned) :
    s.Safe a t ↔ s.HoldsCapsule a := by
  cases a with
  | call python l call env =>
    have hreads : call.Reads env (l.withContext (s.contextOf python)) ↔ call.Reads env l :=
      OpCall.reads_withContext
    constructor
    · intro h hr
      obtain ⟨c, hc⟩ := h (hreads.mpr hr)
      exact isSet_of_contextOf hc
    · exact fun h hr => contextOf_of_isSet hs (h (hreads.mp hr))
  | _ => exact Iff.rfl

/-- A call that is not safe does not return. -/
theorem not_safe {s t : Interpreter} {python : Nat} {l : Loop} {call : OpCall} {env : CallEnv}
    (h : ¬ s.Safe (.call python l call env) t) :
    call.prepare env (l.withContext (s.contextOf python)) = .error .segv := by
  unfold Safe at h
  push Not at h
  obtain ⟨hr, hnone⟩ := h
  apply OpCall.prepare_of_unset hr
  exact Option.eq_none_iff_forall_ne_some.mpr hnone

/-- A timer in a Python context. -/
def timerIn (python : Nat) : VarAct :=
  .call python (uringioLoopInit 4 .failed 3 1) (.timer none) .ok

/-- A loop, a block around a timer in the same context, and a timer in a task. -/
def oneLoop : List VarAct :=
  [.newLoop 0 ⟨true, true, true, true⟩, .newManager 0 (.transferMode .zeroCopy),
    .enter 0 0 ⟨true, true, true⟩, timerIn 0, .copyContext 0, .exit 0 0, timerIn 1]

/-- Two loops in one Python context, of which the first is closed. -/
def twoLoops : List VarAct :=
  [.newLoop 0 ⟨true, true, true, true⟩, .newLoop 0 ⟨true, true, true, true⟩, .close 0 0, timerIn 0]

/-- One loop, and a thread that did not create it. -/
def otherContext : List VarAct :=
  [.newLoop 0 ⟨true, true, true, true⟩, .newContext, timerIn 1]

end Interpreter

end Uringio
