/-
  The `with` blocks of one task, while all other Python contexts run in between.

  `opened` has the blocks that are open in one Python context, the innermost first. The others
  enter and leave managers, create and close loops, are created themselves, and capsules are
  destroyed, in any order. `reads_own_blocks`: after every such run the context that the getters
  find is what the task's own open blocks make of the one it started with.

  The argument: contexts that something still refers to keep their fields (`Grows.behind`), and
  an action of another Python context leaves this one's value and the tokens of its blocks as
  they are.
-/
import Uringio.Contexts.Frames

namespace Uringio

/-- What a manager makes of the current context, where there need not be one. -/
def Manager.overrides (m : Manager) (c : Option ExecutionContext) : Option ExecutionContext :=
  match m with
  | .executionContext payload _ => some payload
  | m => c.map m.override

/-- Only a buffer mode can be refused when it is opened. -/
def Manager.opens (m : Manager) (opened : Bool) : Bool :=
  match m with
  | .bufferMode _ _ => opened
  | _ => true

namespace Interpreter

variable {s t u : Interpreter}

/-! ## What an enter and an exit do to their own Python context -/

/-- An enter returns the manager: a context was there to copy, if one is needed, and all the
    memory. -/
def enters (s : Interpreter) (m : Manager) (python : Nat) (env : VarEnterEnv) : Bool :=
  s.created && env.capsule &&
    match m with
    | .executionContext _ _ => env.opened
    | m => (s.contextVarGet python).isSome && env.block && m.opens env.opened

theorem getElem?_values {python : Nat} (h : python < s.values.length) :
    s.values[python]? = some (s.valueIn python) := by
  simp [valueIn, List.getD_eq_getElem?_getD, h]

/-- The object keeps the token, and the new capsule is the value. -/
structure Kept (s : Interpreter) (object : Nat) (o : ManagerObject) (python pointer : Nat)
    (t : Interpreter) : Prop where
  value : t.values[python]? = some (.capsule s.capsules.length)
  object : t.objects[object]? = some { o with token := .token ⟨python, s.valueIn python⟩ }
  capsule : t.capsules[s.capsules.length]? = some ⟨pointer, true⟩
  blocks : t.blocks = s.blocks

/-- Nothing is left of the enter but its memory. -/
structure Undone (s : Interpreter) (python : Nat) (t : Interpreter) : Prop where
  value : t.values[python]? = s.values[python]?
  objects : t.objects = s.objects

theorem enterWith_kept {object python pointer : Nat} {o : ManagerObject}
    (hc : s.created = true) (hp : python < s.values.length)
    (ho : s.objects[object]? = some o) :
    Kept s object o python pointer (s.enterWith object o python pointer true) := by
  rw [enterWith_eq hc]
  constructor
  case value => exact List.getElem?_set_self hp
  case object => exact List.getElem?_set_self (List.getElem?_eq_some_iff.mp ho).1
  case capsule => simp [keepToken, setValue, addCapsule]
  case blocks => rfl

theorem Undone.of_eq {python : Nat} (h : Undone u python t) (hv : u.values = s.values)
    (ho : u.objects = s.objects) : Undone s python t :=
  ⟨by rw [h.value, hv], h.objects.trans ho⟩

theorem enterWith_undone {object python pointer : Nat} {o : ManagerObject} {opened : Bool}
    (h : (s.created && opened) = false) (hp : python < s.values.length) :
    Undone s python (s.enterWith object o python pointer opened) := by
  cases hc : s.created with
  | false =>
    rw [enterWith_of_not_created hc]
    exact ⟨rfl, rfl⟩
  | true =>
    obtain rfl : opened = false := by simpa [hc] using h
    rw [enterWith_eq hc]
    refine ⟨?_, ?_⟩
    · rw [getElem?_values hp]
      simp [keepToken, contextVarReset, setValue, addCapsule, hp]
    · simp [keepToken, contextVarReset, setValue, addCapsule]

/-- The capsule of an enter leads to what the manager makes of the context. -/
theorem Kept.behind {object python pointer : Nat} {o : ManagerObject} {b : ContextBlock}
    (h : Kept s object o python pointer t) (ht : t.Owned) (hb : s.blocks[pointer]? = some b) :
    t.behind (.capsule s.capsules.length) = some b.context := by
  have hmem : VarValue.capsule s.capsules.length ∈ t.refs := by
    simp [refs, List.mem_of_getElem? h.value]
  obtain ⟨k, b', hk, hb', he⟩ := behind_of_alive ht hmem
  obtain rfl := Option.some.inj (hk.symm.trans h.capsule)
  rw [h.blocks, hb] at hb'
  rw [he, Option.some.inj hb']

/-- An enter that copies the current context, where there is one. -/
theorem enter_copies {object python : Nat} {env : VarEnterEnv} {o : ManagerObject}
    (hm : ∀ c p, o.manager ≠ .executionContext c p) (ho : s.objects[object]? = some o)
    (ht : s.stepEnter object python env = .ok t) :
    ((s.contextVarGet python).isSome && env.block && env.capsule) = false ∧
        t = { s with entered := object :: s.entered } ∨
      ∃ pointer context, s.contextVarGet python = some pointer ∧
        s.blocks[pointer]? = some ⟨context, false⟩ ∧ env.block = true ∧ env.capsule = true ∧
        t = (({ s with entered := object :: s.entered } : Interpreter).addBlock
          (o.manager.override context) false).enterWith object o python s.blocks.length
            (o.manager.opens env.opened) := by
  unfold stepEnter at ht
  rw [ho] at ht
  dsimp only at ht
  split at ht
  · rename_i c p _ hman _
    exact absurd hman (hm c p)
  · cases ht
  · split at ht
    · rename_i hget
      cases ht
      have hnone : s.contextVarGet python = none := hget
      exact .inl ⟨by simp [hnone], rfl⟩
    · rename_i pointer hget
      have hsome : s.contextVarGet python = some pointer := hget
      split at ht
      · rename_i context hb
        split at ht
        · rename_i hmem
          cases ht
          refine .inl ⟨?_, rfl⟩
          rw [hsome]
          cases hblock : env.block with
          | false => rfl
          | true => simpa [hblock] using hmem
        · rename_i hmem
          cases ht
          obtain ⟨hblock, hcapsule⟩ : env.block = true ∧ env.capsule = true := by
            simpa using hmem
          exact .inr ⟨pointer, context, hsome, hb, hblock, hcapsule, rfl⟩
      · cases ht

theorem contextVarGet_created {python pointer : Nat} (h : s.contextVarGet python = some pointer) :
    s.created = true := by
  unfold contextVarGet at h
  split at h
  · cases h
  · rename_i hc
    simpa using hc

/-- What an enter does: it keeps a token and the variable leads to what the manager makes of
    the context, or everything is as before. -/
structure Installed (s : Interpreter) (object python : Nat) (o : ManagerObject)
    (t : Interpreter) : Prop where
  object : t.objects[object]? = some { o with token := .token ⟨python, s.valueIn python⟩ }
  value : ∃ id, t.values[python]? = some (.capsule id) ∧
    t.behind (.capsule id) = o.manager.overrides (s.behind (s.valueIn python))

theorem Kept.installed {object python pointer : Nat} {o : ManagerObject} {b : ContextBlock}
    (h : Kept u object o python pointer t) (ht : t.Owned) (hv : u.valueIn python = s.valueIn python)
    (hb : u.blocks[pointer]? = some b)
    (ho : o.manager.overrides (s.behind (s.valueIn python)) = some b.context) :
    Installed s object python o t := by
  constructor
  case object => exact hv ▸ h.object
  case value => exact ⟨_, h.value, (h.behind ht hb).trans ho.symm⟩

theorem enter_spec_copies {object python : Nat} {env : VarEnterEnv} {o : ManagerObject}
    (hm : ∀ c p, o.manager ≠ .executionContext c p) (hto : t.Owned) (hp : python < s.values.length)
    (ho : s.objects[object]? = some o) (ht : s.stepEnter object python env = .ok t) :
    if s.created && env.capsule && ((s.contextVarGet python).isSome && env.block &&
      o.manager.opens env.opened) then Installed s object python o t else Undone s python t := by
  rcases enter_copies hm ho ht with ⟨hno, rfl⟩ | ⟨pointer, context, hget, hb, hblock, hcap, rfl⟩
  · rw [if_neg]
    · exact ⟨rfl, rfl⟩
    · intro h
      simp only [Bool.and_eq_true] at h
      simp [h.1.2, h.2.1.1, h.2.1.2] at hno
  · have hc := contextVarGet_created hget
    have hif : (s.created && env.capsule && ((s.contextVarGet python).isSome && env.block &&
        o.manager.opens env.opened)) = o.manager.opens env.opened := by
      simp [hc, hcap, hget, hblock]
    rw [hif]
    cases hopen : o.manager.opens env.opened with
    | false =>
      refine Undone.of_eq (enterWith_undone ?_ ?_) rfl rfl
      · exact Bool.and_false _
      · exact hp
    | true =>
      rw [hopen] at hto
      have hover : o.manager.overrides (s.behind (s.valueIn python)) =
          some (o.manager.override context) := by
        have hof : s.contextOf python = some context := by simp [contextOf, hget, hb]
        rw [← contextOf_eq_behind, hof]
        cases hman : o.manager with
        | executionContext c p => exact absurd hman (hm c p)
        | _ => rfl
      refine @Kept.installed s _ _ _ _ _ o ⟨o.manager.override context, false⟩
        (enterWith_kept ?_ ?_ ?_) hto rfl ?_ hover
      · exact hc
      · exact hp
      · exact ho
      · exact List.getElem?_concat_length

theorem enter_spec {object python : Nat} {env : VarEnterEnv} {o : ManagerObject}
    (hm : s.Made) (hto : t.Owned) (hp : python < s.values.length)
    (ho : s.objects[object]? = some o) (ht : s.stepEnter object python env = .ok t) :
    if s.enters o.manager python env then Installed s object python o t
    else Undone s python t := by
  cases hman : o.manager with
  | executionContext c p =>
    obtain ⟨pointer, b, hpay, hb, hc⟩ := hm object o ho c p hman
    simp only [stepEnter, ho, hman, hpay] at ht
    have hover : o.manager.overrides (s.behind (s.valueIn python)) = some b.context := by
      rw [hman, hc]
      rfl
    cases hcap : env.capsule with
    | false =>
      simp only [hcap] at ht
      cases ht
      simp only [enters, hcap, Bool.and_false, Bool.false_and]
      exact ⟨rfl, rfl⟩
    | true =>
      simp only [hcap] at ht
      cases ht
      simp only [enters, hcap, Bool.and_true]
      cases hopen : s.created && env.opened with
      | false =>
        refine Undone.of_eq (enterWith_undone ?_ ?_) rfl rfl
        · exact hopen
        · exact hp
      | true =>
        obtain ⟨hcr, hop⟩ := Bool.and_eq_true_iff.mp hopen
        rw [hop] at hto ⊢
        refine Kept.installed (enterWith_kept ?_ ?_ ?_) hto rfl hb hover
        · exact hcr
        · exact hp
        · exact ho
  | bufferMode payload p =>
    have h := enter_spec_copies (by simp [hman]) hto hp ho ht
    rwa [hman] at h
  | streamStrategy payload =>
    have h := enter_spec_copies (by simp [hman]) hto hp ho ht
    rwa [hman] at h
  | transferMode payload =>
    have h := enter_spec_copies (by simp [hman]) hto hp ho ht
    rwa [hman] at h

/-- Leaving a manager in the Python context of its token. -/
theorem exit_spec {object python : Nat} {o : ManagerObject} {old : VarValue}
    (hp : python < s.values.length) (ho : s.objects[object]? = some o)
    (htok : o.token = .token ⟨python, old⟩) (ht : s.stepExit object python = .ok t) :
    t.values[python]? = some old := by
  simp only [stepExit, ho, htok, contextVarReset, if_pos] at ht
  cases ht
  exact List.getElem?_set_self hp

end Interpreter

/-! ## The blocks of one Python context -/

/-- An open block: the object, and the manager that it is. -/
structure TaskBlock where
  object : Nat
  manager : Manager
deriving DecidableEq, Repr

/-- The interpreter, and the blocks that are open in one Python context, innermost first. -/
structure TaskBlocks where
  interp : Interpreter
  opened : List TaskBlock
deriving DecidableEq, Repr

namespace TaskBlocks

open Interpreter

variable {python : Nat} {s t : TaskBlocks} {i : Interpreter}

/-- An enter that returns opens a block, an exit ends the innermost. -/
def after (python : Nat) (s : TaskBlocks) (a : VarAct) : List TaskBlock :=
  match a with
  | .enter object q env =>
    match s.interp.objects[object]? with
    | some o =>
      if q = python ∧ s.interp.enters o.manager q env = true then
        ⟨object, o.manager⟩ :: s.opened
      else s.opened
    | none => s.opened
  | .exit _ q => if q = python then s.opened.tail else s.opened
  | _ => s.opened

def step (python : Nat) (s : TaskBlocks) (a : VarAct) : Except Stop TaskBlocks :=
  match s.interp.step a with
  | .error e => .error e
  | .ok i => .ok ⟨i, s.after python a⟩

abbrev run (python : Nat) (s : TaskBlocks) (acts : List VarAct) : Except Stop TaskBlocks :=
  Lib.run (step python) s acts

/-- The context creates and closes no loop, leaves its innermost block, and nobody else enters
    or leaves a manager that it has open. -/
def WellNested (python : Nat) (s : TaskBlocks) (a : VarAct) : Prop :=
  s.interp.Once a ∧
    match a with
    | .newLoop q _ | .close _ q => q ≠ python
    | .enter object _ _ => object ∉ s.opened.map TaskBlock.object
    | .exit object q =>
      if q = python then (s.opened.head?.map TaskBlock.object) = some object
      else object ∉ s.opened.map TaskBlock.object
    | _ => True

instance (python : Nat) (s : TaskBlocks) (a : VarAct) : Decidable (s.WellNested python a) := by
  apply VarAct.casesOn (motive := fun a => Decidable (s.WellNested python a)) a <;> intros <;>
    dsimp only [WellNested] <;> infer_instance

theorem step_ok {a : VarAct} : s.step python a = .ok t ↔
    s.interp.step a = .ok t.interp ∧ t.opened = s.after python a := by
  unfold step
  cases s.interp.step a with
  | error e => simp
  | ok i =>
    constructor
    · intro h
      obtain rfl := Except.ok.inj h
      exact ⟨rfl, rfl⟩
    · rintro ⟨h, ho⟩
      obtain rfl := Except.ok.inj h
      exact congrArg Except.ok (congrArg (TaskBlocks.mk t.interp) ho.symm)

/-- Each block holds the token to what the one around it left, and its value leads to what its
    manager makes of that. -/
inductive Opened (i : Interpreter) (python : Nat) (base : Option ExecutionContext) :
    VarValue → List TaskBlock → Prop
  | nil {v : VarValue} (value : i.behind v = base) : Opened i python base v []
  | cons {v old : VarValue} {b : TaskBlock} {bs : List TaskBlock} {o : ManagerObject}
      (object : i.objects[b.object]? = some o) (manager : o.manager = b.manager)
      (token : o.token = .token ⟨python, old⟩)
      (value : i.behind v = b.manager.overrides (i.behind old))
      (outer : Opened i python base old bs) : Opened i python base v (b :: bs)

/-- The value leads to what all open blocks make of the context around them. -/
theorem Opened.behind {base : Option ExecutionContext} {v : VarValue} {bs : List TaskBlock}
    (h : Opened i python base v bs) :
    i.behind v = Lib.overlay (fun b c => b.manager.overrides c) base bs := by
  induction h with
  | nil value => exact value
  | cons _ _ _ value _ ih => rw [value, ih, Lib.overlay_cons]

/-- Blocks stay open as long as their objects keep their tokens. -/
theorem Opened.frame {j : Interpreter} {base : Option ExecutionContext} {v : VarValue}
    {bs : List TaskBlock} (h : Opened i python base v bs) (hg : Grows i j) (hi : i.Owned)
    (hj : j.Owned)
    (hobj : ∀ b ∈ bs, ∀ o, i.objects[b.object]? = some o → j.objects[b.object]? = some o)
    (hv : v ∈ i.refs) (hv' : v ∈ j.refs) : Opened j python base v bs := by
  induction h with
  | nil value => exact .nil ((hg.behind hi hj hv hv').trans value)
  | @cons v old b bs o object manager token value outer ih =>
    have hkept := hobj b List.mem_cons_self o object
    have hold : old ∈ i.refs := mem_refs_of_token object (by simp [token, TokenField.old])
    have hold' : old ∈ j.refs := mem_refs_of_token hkept (by simp [token, TokenField.old])
    refine .cons hkept manager token ?_
      (ih (fun b' hb => hobj b' (List.mem_cons_of_mem _ hb)) hold hold')
    rw [hg.behind hi hj hv hv', hg.behind hi hj hold hold', value]

/-- What holds of the blocks of a Python context in which `base` was the context at the
    start. -/
structure Nest (python : Nat) (base : Option ExecutionContext) (s : TaskBlocks) : Prop where
  owned : s.interp.Owned
  made : s.interp.Made
  lives : python < s.interp.values.length
  distinct : (s.opened.map TaskBlock.object).Nodup
  opened : Opened s.interp python base (s.interp.valueIn python) s.opened

theorem valueIn_congr {i j : Interpreter} (h : j.values[python]? = i.values[python]?) :
    j.valueIn python = i.valueIn python := by
  unfold valueIn
  rw [List.getD_eq_getElem?_getD, List.getD_eq_getElem?_getD, h]

theorem valueIn_eq {v : VarValue} (h : i.values[python]? = some v) : i.valueIn python = v := by
  unfold valueIn
  rw [List.getD_eq_getElem?_getD, h]
  rfl

theorem mem_refs_of_value {v : VarValue} (h : i.values[python]? = some v) : v ∈ i.refs := by
  simp [refs, List.mem_of_getElem? h]

/-- The objects of the open blocks are not the one that an action names. -/
theorem objects_kept {a : VarAct} {j : Interpreter} (ht : i.step a = .ok j)
    (bs : List TaskBlock) (ha : ∀ object, a.object = some object →
      object ∉ bs.map TaskBlock.object) :
    ∀ b ∈ bs, ∀ o, i.objects[b.object]? = some o → j.objects[b.object]? = some o := by
  intro b hb o ho
  refine object_of_step ht (fun h => ?_) ho
  exact ha b.object h (List.mem_map_of_mem hb)

section Step

variable {base : Option ExecutionContext} {a : VarAct}

/-- A step that leaves the variable of this Python context and its blocks alone. -/
theorem Nest.keep (hs : s.Nest python base) (ht : s.interp.step a = .ok t.interp)
    (honce : s.interp.Once a) (hv : t.interp.values[python]? = s.interp.values[python]?)
    (ha : ∀ object, a.object = some object → object ∉ s.opened.map TaskBlock.object)
    (ho : t.opened = s.opened) : t.Nest python base := by
  have howned := hs.owned.step honce ht
  have hsome := getElem?_values hs.lives
  have hsome' := hv.trans hsome
  constructor
  case owned => exact howned
  case made => exact hs.made.step ht
  case lives => exact (List.getElem?_eq_some_iff.mp hsome').1
  case distinct =>
    rw [ho]
    exact hs.distinct
  case opened =>
    rw [ho, valueIn_congr hv]
    exact hs.opened.frame (Grows.step ht) hs.owned howned (objects_kept ht s.opened ha)
      (mem_refs_of_value hsome) (mem_refs_of_value hsome')

/-- An enter in this Python context opens a block. -/
theorem Nest.enter {object : Nat} {env : VarEnterEnv} {o : ManagerObject}
    (hs : s.Nest python base) (ht : s.interp.step (.enter object python env) = .ok t.interp)
    (honce : s.interp.Once (.enter object python env))
    (hent : Installed s.interp object python o t.interp)
    (ha : object ∉ s.opened.map TaskBlock.object)
    (ho : t.opened = ⟨object, o.manager⟩ :: s.opened) : t.Nest python base := by
  have howned := hs.owned.step honce ht
  have hg := Grows.step ht
  have hold := mem_refs_of_value (getElem?_values hs.lives)
  have hold' : s.interp.valueIn python ∈ t.interp.refs :=
    mem_refs_of_token hent.object (by simp [TokenField.old])
  have hkept := objects_kept ht s.opened fun x hx => by
    obtain rfl := Option.some.inj hx
    exact ha
  obtain ⟨id, hv, hb⟩ := hent.value
  constructor
  case owned => exact howned
  case made => exact hs.made.step ht
  case lives => exact (List.getElem?_eq_some_iff.mp hv).1
  case distinct =>
    rw [ho, List.map_cons]
    exact List.nodup_cons.mpr ⟨ha, hs.distinct⟩
  case opened =>
    rw [ho, valueIn_eq hv]
    refine .cons hent.object rfl rfl ?_ (hs.opened.frame hg hs.owned howned hkept hold hold')
    rw [hb, hg.behind hs.owned howned hold hold']

/-- An exit in this Python context ends the innermost block. -/
theorem Nest.exit {object : Nat} (hs : s.Nest python base)
    (ht : s.interp.step (.exit object python) = .ok t.interp)
    (ha : (s.opened.head?.map TaskBlock.object) = some object)
    (ho : t.opened = s.opened.tail) : t.Nest python base := by
  have howned := hs.owned.step (a := .exit object python) trivial ht
  have hd := hs.distinct
  have hopened := hs.opened
  cases hbs : s.opened with
  | nil =>
    rw [hbs] at ha
    cases ha
  | cons b bs =>
    rw [hbs] at ha ho hd hopened
    obtain rfl := Option.some.inj ha
    rw [List.map_cons, List.nodup_cons] at hd
    cases hopened with
    | @cons _ old _ _ o hobj hman htok _ outer =>
      have hv := Interpreter.exit_spec hs.lives hobj htok ht
      have hkept := objects_kept ht bs fun x hx => by
        obtain rfl := Option.some.inj hx
        exact hd.1
      constructor
      case owned => exact howned
      case made => exact hs.made.step ht
      case lives => exact (List.getElem?_eq_some_iff.mp hv).1
      case distinct =>
        rw [ho]
        exact hd.2
      case opened =>
        rw [ho, valueIn_eq hv]
        exact outer.frame (Grows.step ht) hs.owned howned hkept
          (mem_refs_of_token hobj (by simp [htok, TokenField.old])) (mem_refs_of_value hv)

theorem after_enter {object q : Nat} {env : VarEnterEnv} {o : ManagerObject}
    (hobj : s.interp.objects[object]? = some o) :
    s.after python (.enter object q env) =
      if q = python ∧ s.interp.enters o.manager q env = true then ⟨object, o.manager⟩ :: s.opened
      else s.opened := by
  simp only [after, hobj]

/-- Every well-nested step keeps the blocks in their nest, whoever takes it. -/
theorem Nest.step (hs : s.Nest python base) (hw : s.WellNested python a)
    (ht : s.step python a = .ok t) : t.Nest python base := by
  obtain ⟨hi, ho⟩ := step_ok.mp ht
  obtain ⟨honce, hw⟩ := hw
  have hkeep (hp : a.python ≠ some python)
      (ha : ∀ object, a.object = some object → object ∉ s.opened.map TaskBlock.object)
      (hsame : s.after python a = s.opened) : t.Nest python base :=
    hs.keep hi honce (value_of_step hi hp hs.lives) ha (ho.trans hsame)
  cases a with
  | newContext => exact hkeep (by simp [VarAct.python]) (by simp [VarAct.object]) rfl
  | copyContext q => exact hkeep (by simp [VarAct.python]) (by simp [VarAct.object]) rfl
  | newLoop q env =>
    exact hkeep (fun h => hw (Option.some.inj h)) (by simp [VarAct.object]) rfl
  | close loop q =>
    exact hkeep (fun h => hw (Option.some.inj h)) (by simp [VarAct.object]) rfl
  | newManager loop manager =>
    exact hkeep (by simp [VarAct.python]) (by simp [VarAct.object]) rfl
  | enter object q env =>
    have hnot : ∀ x, VarAct.object (.enter object q env) = some x →
        x ∉ s.opened.map TaskBlock.object := by
      intro x hx
      obtain rfl := Option.some.inj hx
      exact hw
    cases hobj : s.interp.objects[object]? with
    | none =>
      simp only [Interpreter.step, stepEnter, hobj] at hi
      cases hi
    | some o =>
      rw [after_enter hobj] at hkeep ho
      by_cases hq : q = python
      · subst hq
        have hspec := Interpreter.enter_spec hs.made (hs.owned.step honce hi) hs.lives hobj hi
        cases hent : s.interp.enters o.manager q env with
        | true =>
          rw [hent, if_pos rfl] at hspec
          rw [if_pos ⟨rfl, hent⟩] at ho
          exact hs.enter hi honce hspec hw ho
        | false =>
          rw [hent, if_neg Bool.false_ne_true] at hspec
          rw [if_neg fun h => Bool.false_ne_true (hent.symm.trans h.2)] at ho
          exact hs.keep hi honce hspec.value hnot ho
      · exact hkeep (fun h => hq (Option.some.inj h)) hnot (if_neg fun h => hq h.1)
  | exit object q =>
    by_cases hq : q = python
    · subst hq
      simp only [if_true] at hw
      exact hs.exit hi hw (ho.trans (if_pos rfl))
    · simp only [if_neg hq] at hw
      refine hkeep (fun h => hq (Option.some.inj h)) (fun x hx => ?_) (if_neg hq)
      obtain rfl := Option.some.inj hx
      exact hw
  | destroy id => exact hkeep (by simp [VarAct.python]) (by simp [VarAct.object]) rfl
  | call q loop call env => exact hkeep (by simp [VarAct.python]) (by simp [VarAct.object]) rfl

end Step

theorem init_made : Interpreter.init.Made := by
  intro i o ho
  simp [Interpreter.init] at ho

/-- What a run of the interpreter comes to, before the first block. -/
theorem init_nest {acts : List VarAct} (honce : Lib.Meets Interpreter.step Once .init acts)
    (hi : Interpreter.init.run acts = .ok i) (hp : python < i.values.length) :
    Nest python (i.contextOf python) ⟨i, []⟩ := by
  have h : i.Owned ∧ i.Made := honce.invariant (fun s => s.Owned ∧ s.Made)
    (fun s a t hs ho ht => ⟨hs.1.step ho ht, hs.2.step ht⟩) ⟨init_owned, init_made⟩ hi
  exact ⟨h.1, h.2, hp, List.nodup_nil, .nil (contextOf_eq_behind i python).symm⟩

/-- A loop, and a task with a copy of the context. -/
def twoTasks : List VarAct :=
  [.newLoop 0 ⟨true, true, true, true⟩, .copyContext 0, .newManager 0 (.transferMode .zeroCopy),
    .newManager 0 (.streamStrategy .multishot), .newManager 0 (.transferMode .zeroCopy)]

/-- The first context opens two blocks; in between the task opens one of its own, fails to
    open a second and closes the loop. -/
def crossed : List VarAct :=
  [.enter 0 0 ⟨true, true, true⟩, .enter 2 1 ⟨true, true, true⟩, .enter 1 0 ⟨true, true, true⟩,
    .exit 2 1, .newContext, .close 0 1, .enter 2 1 ⟨true, true, true⟩, .destroy 2]

end TaskBlocks

end Uringio
