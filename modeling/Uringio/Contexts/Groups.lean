/-
  The buffer groups of open PROVIDED and BUF_RING contexts.

  `create_buffer_payload` draws the number of a PROVIDED group from `rand()`, and every
  BUF_RING payload has 0; the kernel keeps 16 bits of either. Nothing compares a number with
  those of the contexts that are open, so the groups of open contexts stay apart exactly when
  the numbers were drawn apart. The SQEs of the dispatchers then carry the group of the payload,
  but for the one-shot `recvmsg` (`group_identity_iff`).
-/
import Uringio.Contexts.Registrations
import Uringio.PyOps.Selects

namespace Uringio

/-! ## The number of a group -/

/-- The number that the payload of a new object gets for its group. -/
def ManagerArgs.drawn : ManagerArgs → Option Int
  | .bufferMode .provided _ _ bgid _ _ => some bgid
  | .executionContext .provided _ _ _ _ bgid _ _ => some bgid
  | .bufferMode .bufRing _ _ _ _ _ => some 0
  | .executionContext .bufRing _ _ _ _ _ _ _ => some 0
  | _ => none

/-- Two objects with the same group: both PROVIDED with the same 16 bits drawn, both BUF_RING,
    or a BUF_RING and a PROVIDED that has drawn a multiple of 2^16. -/
def ManagerArgs.Clash (a b : ManagerArgs) : Prop :=
  a.drawn.isSome ∧ a.drawn.map (· % 2 ^ 16) = b.drawn.map (· % 2 ^ 16)

instance (a b : ManagerArgs) : Decidable (a.Clash b) := inferInstanceAs (Decidable (_ ∧ _))

/-- The group that `buffer_payload->bgid` stands for in the kernel, for the modes that have
    one. -/
def BufferPayload.group (b : BufferPayload) : Option Nat :=
  match b.mode with
  | .provided | .bufRing => some (toUint16 b.bgid)
  | .normalBuf | .fixed | .bufNoVal => none

/-- The group of the payload that the object owns. -/
def Manager.group (m : Manager) (h : Heap) : Option Nat :=
  m.owned.bind fun p => (h.payloads[p]?).bind BufferPayload.group

theorem BufferPayload.group_of_selects {b : BufferPayload} (h : b.Selects) :
    b.group = some (toUint16 b.bgid) := by
  unfold group
  rcases h with h | h
  · rw [h]
  · rw [h]

theorem toUint16_eq_iff {v w : Int} : toUint16 v = toUint16 w ↔ v % 2 ^ 16 = w % 2 ^ 16 := by
  unfold toUint16
  omega

/-- The payload of the object is there, and has the group that the arguments say. -/
structure Manager.HasGroup (m : Manager) (args : ManagerArgs) (h : Heap) : Prop where
  lives : ∀ p, m.owned = some p → ∃ b, h.payloads[p]? = some b
  group : m.group h = args.drawn.map toUint16

theorem Manager.HasGroup.keep {m : Manager} {args : ManagerArgs} {h h' : Heap}
    (hm : m.HasGroup args h) (hk : h.KeepsRequests h') : m.HasGroup args h' := by
  cases ho : m.owned with
  | none =>
    refine ⟨by simp [ho], ?_⟩
    have hg := hm.group
    unfold Manager.group at hg ⊢
    rw [ho] at hg ⊢
    exact hg
  | some p =>
    obtain ⟨b, hb⟩ := hm.lives p ho
    obtain ⟨b', hb', hs⟩ := hk p b hb
    refine ⟨fun q hq => ?_, ?_⟩
    · obtain rfl := Option.some.inj (ho.symm.trans hq)
      exact ⟨b', hb'⟩
    · rw [← hm.group]
      unfold Manager.group BufferPayload.group
      rw [ho, Option.bind_some, Option.bind_some, hb, hb', Option.bind_some, Option.bind_some,
        hs.mode, hs.bgid]

/-- What `create_buffer_payload` writes into `bgid`. -/
theorem createBufferPayload_bgid {h h' : Heap} {mode : BufferMode} {buffersObj : Bool}
    {buffers : Option (List LinearBuffer)} {bgid unassigned : Int} {p : PayloadId}
    (hc : createBufferPayload h mode buffersObj buffers bgid unassigned = (some p, h')) :
    ∃ b, h'.payloads[p]? = some b ∧ b.mode = mode ∧
      b.bgid = if mode = .provided then bgid else 0 := by
  cases buffers with
  | none => cases mode <;> exact absurd (congrArg Prod.fst hc) (by simp [createBufferPayload])
  | some buffers =>
    cases mode with
    | bufNoVal => exact absurd (congrArg Prod.fst hc) (by simp [createBufferPayload])
    | normalBuf =>
      obtain ⟨hp, rfl⟩ := Prod.mk.inj hc
      obtain rfl := Option.some.inj hp
      exact ⟨_, alloc_payloads_self, rfl, rfl⟩
    | fixed =>
      obtain ⟨hp, rfl⟩ := Prod.mk.inj hc
      obtain rfl := Option.some.inj hp
      exact ⟨_, alloc_payloads_self, rfl, rfl⟩
    | provided =>
      obtain ⟨hp, rfl⟩ := Prod.mk.inj hc
      obtain rfl := Option.some.inj hp
      exact ⟨_, alloc_payloads_self, rfl, rfl⟩
    | bufRing =>
      obtain ⟨hp, rfl⟩ := Prod.mk.inj hc
      obtain rfl := Option.some.inj hp
      exact ⟨_, alloc_payloads_self, rfl, rfl⟩

theorem hasGroup_of_payload {m : Manager} {args : ManagerArgs} {h : Heap} {p : PayloadId}
    {b : BufferPayload} {mode : BufferMode} {bgid : Int} (ho : m.owned = some p)
    (hb : h.payloads[p]? = some b) (hm : b.mode = mode)
    (hg : b.bgid = if mode = .provided then bgid else 0)
    (hd : args.drawn =
      if mode = .provided then some bgid else if mode = .bufRing then some 0 else none) :
    m.HasGroup args h := by
  refine ⟨fun q hq => ⟨b, (Option.some.inj (ho.symm.trans hq)) ▸ hb⟩, ?_⟩
  unfold Manager.group BufferPayload.group
  rw [ho, Option.bind_some, hb, Option.bind_some, hm, hg, hd]
  cases mode <;> rfl

/-- A new object has the group of its arguments. -/
theorem ManagerArgs.create_hasGroup {args : ManagerArgs} {l : Loop} {m : Manager}
    (h : (args.create l).1 = some m) : m.HasGroup args (args.create l).2.heap := by
  cases args with
  | streamStrategy stream =>
    obtain rfl := Option.some.inj h
    exact ⟨by simp [Manager.owned], rfl⟩
  | transferMode mode =>
    obtain rfl := Option.some.inj h
    exact ⟨by simp [Manager.owned], rfl⟩
  | bufferMode mode buffersObj buffers bgid unassigned object =>
    simp only [ManagerArgs.create, uringioLoopBufferMode] at h ⊢
    cases hc : createBufferPayload l.heap mode buffersObj buffers bgid unassigned with
    | mk r heap =>
      rw [hc] at h
      cases r with
      | none => exact absurd h (by simp)
      | some p =>
        cases object with
        | false => exact absurd h (by simp)
        | true =>
          obtain rfl := Option.some.inj h
          obtain ⟨b, hb, hm, hg⟩ := createBufferPayload_bgid hc
          exact hasGroup_of_payload rfl hb hm hg (by cases mode <;> rfl)
  | executionContext mode stream transfer buffersObj buffers bgid unassigned object =>
    simp only [ManagerArgs.create, uringioLoopExecutionContext] at h ⊢
    cases hc : createBufferPayload l.heap mode buffersObj buffers bgid unassigned with
    | mk r heap =>
      rw [hc] at h
      cases r with
      | none => exact absurd h (by simp)
      | some p =>
        cases object with
        | false => exact absurd h (by simp)
        | true =>
          obtain rfl := Option.some.inj h
          obtain ⟨b, hb, hm, hg⟩ := createBufferPayload_bgid hc
          exact hasGroup_of_payload rfl hb hm hg (by cases mode <;> rfl)

/-! ## What enters and exits leave of the payloads and the other groups -/

theorem Manager.enter_keeps {m : Manager} {h h' : Host} {env : EnterEnv} {r : Option Entered}
    (he : m.enter h env = .ok (r, h')) : h.loop.heap.KeepsRequests h'.loop.heap := by
  cases m with
  | bufferMode payload p =>
    simp only [Manager.enter, bufferModeCtxEnter] at he
    cases hc : h.loop.context with
    | none =>
      simp only [hc, Except.ok.injEq, Prod.mk.injEq] at he
      obtain ⟨-, rfl⟩ := he
      exact (OwnPayload.refl none _).own
    | some current =>
      simp only [hc] at he
      exact (initBuffers_inited he).heap.own
  | executionContext payload p =>
    have hi : initBuffers (contextVarSet h payload).2 p (contextVarSet h payload).1 env =
      .ok (r, h') := he
    exact (initBuffers_inited hi).heap.own
  | streamStrategy payload =>
    simp only [Manager.enter, streamStrategyCtxEnter] at he
    cases hc : h.loop.context with
    | none =>
      simp only [hc, Except.ok.injEq, Prod.mk.injEq] at he
      obtain ⟨-, rfl⟩ := he
      exact (OwnPayload.refl none _).own
    | some current =>
      simp only [hc, contextVarSet, Except.ok.injEq, Prod.mk.injEq] at he
      obtain ⟨-, rfl⟩ := he
      exact (OwnPayload.refl none _).own
  | transferMode payload =>
    simp only [Manager.enter, transferModeCtxEnter] at he
    cases hc : h.loop.context with
    | none =>
      simp only [hc, Except.ok.injEq, Prod.mk.injEq] at he
      obtain ⟨-, rfl⟩ := he
      exact (OwnPayload.refl none _).own
    | some current =>
      simp only [hc, contextVarSet, Except.ok.injEq, Prod.mk.injEq] at he
      obtain ⟨-, rfl⟩ := he
      exact (OwnPayload.refl none _).own

theorem Registrations.setGroup_of_ne {k : Registrations} {g i : Nat} (a : BufferGroup)
    (h : g ≠ i) : (k.setGroup i a).groups g = k.groups g := if_neg h

theorem Registrations.remove_of_ne {k : Registrations} {g : Nat} {nr bgid : Int}
    (h : g ≠ toUint16 bgid) : (k.remove nr bgid).groups g = k.groups g := by
  unfold remove
  split
  · split
    · exact setGroup_of_ne _ h
    · rfl
  · rfl

theorem Registrations.freeBufRing_of_ne {k : Registrations} {g : Nat} {bgid : Int}
    (h : g ≠ toUint16 bgid) : (k.freeBufRing bgid).groups g = k.groups g := by
  unfold freeBufRing
  split
  · exact setGroup_of_ne _ h
  · rfl

/-- A step leaves a group as it was, or as the requests make it that were queued before. -/
def Host.SparesGroup (h h' : Host) (g : Nat) : Prop :=
  h'.kernel.groups g = h.kernel.groups g ∨
    h'.kernel.groups g = (h.kernel.afterQueue h.loop.ring).groups g

instance (h h' : Host) (g : Nat) : Decidable (h.SparesGroup h' g) :=
  inferInstanceAs (Decidable (_ ∨ _))

/-- What an exit asks the kernel for is about the group of its own payload. -/
theorem Manager.exit_spares {m : Manager} {h h' : Host} {self : Entered} {submit : Int} {g : Nat}
    (hx : m.exit h self submit = .ok h') (hg : m.group h.loop.heap ≠ some g) :
    h.SparesGroup h' g := by
  cases m with
  | streamStrategy payload =>
    cases hx
    exact .inl rfl
  | transferMode payload =>
    cases hx
    exact .inl rfl
  | executionContext payload p =>
    cases hx
    exact .inl rfl
  | bufferMode payload p =>
    simp only [Manager.exit, bufferModeCtxExit, contextVarReset] at hx
    cases hb : h.loop.heap.payloads[p]? with
    | none => simp [hb] at hx
    | some b =>
      have hne : b.Selects → g ≠ toUint16 b.bgid := by
        rintro hs rfl
        apply hg
        simp only [Manager.group, Manager.owned, Option.bind_some, hb,
          BufferPayload.group_of_selects hs]
      simp only [hb] at hx
      cases hm : b.mode with
      | normalBuf =>
        simp only [hm, Except.ok.injEq] at hx
        subst hx
        exact .inl rfl
      | bufNoVal =>
        simp only [hm, Except.ok.injEq] at hx
        subst hx
        exact .inl rfl
      | fixed =>
        simp only [hm, Except.ok.injEq] at hx
        subst hx
        exact .inl rfl
      | provided =>
        simp only [hm, Except.ok.injEq] at hx
        subst hx
        have hk := advance_submitUntagged_eq h.kernel h.loop.ring
          (.removeBuffers b.amount b.bgid) submit
        unfold Host.SparesGroup closeProvidedMode
        rw [hk]
        split
        · exact .inr (Registrations.remove_of_ne (hne (.inl hm)))
        · exact .inl rfl
      | bufRing =>
        simp only [hm] at hx
        split at hx
        · cases hx
          exact .inl rfl
        · cases hx
          exact .inl (Registrations.freeBufRing_of_ne (hne (.inr hm)))

/-! ## The SQEs of the dispatchers -/

/-- The dispatcher is not the one-shot `recvmsg`, or the number of the group has the bits of
    the flag that takes its place. -/
def ReadDispatcher.InOrder (d : ReadDispatcher) (b : BufferPayload) : Prop :=
  match d with
  | .recvmsg _ .oneshot isPollFirst _ => b.bgid % 2 ^ 16 = if isPollFirst then 1 else 0
  | _ => True

theorem ReadDispatcher.inOrder_iff (d : ReadDispatcher) (b : BufferPayload) :
    d.bgid b % 2 ^ 16 = b.bgid % 2 ^ 16 ↔ d.InOrder b := by
  cases d with
  | read fd stream size offset => exact ⟨fun _ => trivial, fun _ => rfl⟩
  | readv fd offset nowait => exact ⟨fun _ => trivial, fun _ => rfl⟩
  | recv fd stream isPollFirst => exact ⟨fun _ => trivial, fun _ => rfl⟩
  | recvmsg fd stream isPollFirst msghdr =>
    cases stream with
    | multishot => exact ⟨fun _ => trivial, fun _ => rfl⟩
    | oneshot => cases isPollFirst <;> exact eq_comm

/-! ## Runs -/

/-- Nested blocks with what their objects were created from: `args` for the objects in the
    order of `nesting.managers`, `opened` for those of the open frames. -/
structure Grouping where
  nesting : Nesting
  args : List ManagerArgs
  opened : List ManagerArgs

/-- A step of the blocks, or anything else on the ring: the operations inside of the blocks
    leave the queue and the registrations in some other state. -/
inductive GroupAct where
  | block (a : BlockAct)
  | other (ring : Ring) (kernel : Registrations)

namespace Grouping

def init (h : Host) : Grouping := ⟨.init h, [], []⟩

/-- The `__enter__` of the object returns the object. -/
def Opens (s : Grouping) (object : Nat) (env : EnterEnv) : Bool :=
  (s.nesting.managers[object]?).any fun m =>
    match m.enter s.nesting.host env with
    | .ok (some _, _) => true
    | _ => false

def step (s : Grouping) (a : GroupAct) : Except Stop Grouping :=
  match a with
  | .block (.create args) =>
    let made := (args.create s.nesting.host.loop).1.isSome
    .ok ⟨s.nesting.stepCreate args, s.args ++ (if made then [args] else []), s.opened⟩
  | .block (.enter object env) =>
    (s.nesting.stepEnter object env).map fun t =>
      ⟨t, s.args, (if s.Opens object env then s.args[object]?.toList else []) ++ s.opened⟩
  | .block (.leave submit) =>
    (s.nesting.stepLeave submit).map fun t => ⟨t, s.args, s.opened.tail⟩
  | .other ring kernel =>
    .ok { s with nesting := { s.nesting with
      host := ⟨{ s.nesting.host.loop with ring := ring }, kernel⟩ } }

abbrev run (s : Grouping) (acts : List GroupAct) : Except Stop Grouping := Lib.run step s acts

/-- The groups of the open contexts. -/
def groups (s : Grouping) : List Nat :=
  s.nesting.opened.filterMap fun f => f.manager.group s.nesting.host.loop.heap

/-- The groups of the open contexts are different, and the exit of one leaves those of the
    others alone. -/
def Identified (s : Grouping) (a : GroupAct) (t : Grouping) : Prop :=
  t.groups.Nodup ∧
    match a with
    | .block (.leave _) => ∀ g ∈ t.groups, s.nesting.host.SparesGroup t.nesting.host g
    | _ => True

instance (s : Grouping) (a : GroupAct) (t : Grouping) : Decidable (s.Identified a t) := by
  unfold Identified
  split <;> infer_instance

/-- A context is opened only where none is open whose number has the same 16 bits. -/
def Fresh (s : Grouping) (a : GroupAct) : Prop :=
  match a with
  | .block (.enter object env) =>
    s.Opens object env = true → ∀ x ∈ s.args[object]?.toList, ∀ y ∈ s.opened, ¬ x.Clash y
  | _ => True

instance (s : Grouping) (a : GroupAct) : Decidable (s.Fresh a) := by
  unfold Fresh
  split <;> infer_instance

/-- The objects and the open frames have the groups that their arguments say. -/
structure Tracked (s : Grouping) : Prop where
  objects : List.Forall₂ (fun m args => Manager.HasGroup m args s.nesting.host.loop.heap)
    s.nesting.managers s.args
  opened : List.Forall₂
    (fun f args => Manager.HasGroup (Frame.manager f) args s.nesting.host.loop.heap)
    s.nesting.opened s.opened

theorem Tracked.groups_eq {s : Grouping} (hs : s.Tracked) :
    s.groups = s.opened.filterMap fun args => args.drawn.map toUint16 := by
  have ho := hs.opened
  unfold groups
  generalize s.nesting.opened = fs at ho ⊢
  generalize s.opened = as at ho ⊢
  induction ho with
  | nil => rfl
  | cons hf _ ih => rw [List.filterMap_cons, List.filterMap_cons, hf.group, ih]

theorem Tracked.keep {s : Grouping} {h : Host} (hs : s.Tracked)
    (hk : s.nesting.host.loop.heap.KeepsRequests h.loop.heap) :
    List.Forall₂ (fun m args => Manager.HasGroup m args h.loop.heap) s.nesting.managers s.args ∧
      List.Forall₂ (fun f args => Manager.HasGroup (Frame.manager f) args h.loop.heap)
        s.nesting.opened s.opened :=
  ⟨hs.objects.imp fun _ _ hm => hm.keep hk, hs.opened.imp fun _ _ hf => hf.keep hk⟩

theorem clash_iff {x y : ManagerArgs} {v : Int} (hv : x.drawn = some v) :
    x.Clash y ↔ y.drawn.map toUint16 = some (toUint16 v) := by
  unfold ManagerArgs.Clash
  rw [hv]
  cases y.drawn with
  | none => simp
  | some w =>
    simp only [Option.isSome_some, Option.map_some, Option.some.injEq, true_and]
    exact ⟨fun h => (toUint16_eq_iff.mpr h).symm, fun h => toUint16_eq_iff.mp h.symm⟩

/-- One more open context: its group is new exactly when its number clashes with no other. -/
theorem nodup_cons_iff {x : ManagerArgs} {ys : List ManagerArgs}
    (hn : (ys.filterMap fun args => args.drawn.map toUint16).Nodup) :
    ((x :: ys).filterMap fun args => args.drawn.map toUint16).Nodup ↔
      ∀ y ∈ ys, ¬ x.Clash y := by
  rw [List.filterMap_cons]
  cases hv : x.drawn with
  | none =>
    refine ⟨fun _ y _ hc => ?_, fun _ => hn⟩
    exact absurd hc.1 (by simp [hv])
  | some v =>
    show (toUint16 v :: _).Nodup ↔ _
    rw [List.nodup_cons, List.mem_filterMap]
    constructor
    · rintro ⟨hnew, -⟩ y hy hc
      exact hnew ⟨y, hy, (clash_iff hv).mp hc⟩
    · refine fun h => ⟨?_, hn⟩
      rintro ⟨y, hy, hg⟩
      exact h y hy ((clash_iff hv).mpr hg)

theorem Tracked.create {s : Grouping} (hs : s.Tracked) (args : ManagerArgs) :
    (⟨s.nesting.stepCreate args,
      s.args ++ (if (args.create s.nesting.host.loop).1.isSome then [args] else []),
      s.opened⟩ : Grouping).Tracked := by
  have hc := args.create_spec s.nesting.host.loop
  have hk : s.nesting.host.loop.heap.KeepsRequests (args.create s.nesting.host.loop).2.heap :=
    fun p b hb => ⟨b, hc.kept p b hb, .refl b⟩
  obtain ⟨hobj, hopen⟩ := hs.keep (h := (s.nesting.stepCreate args).host) hk
  refine ⟨?_, hopen⟩
  cases hm : (args.create s.nesting.host.loop).1 with
  | none =>
    simp only [Nesting.stepCreate, hm, Option.toList_none, List.append_nil, Option.isSome_none,
      Bool.false_eq_true, if_false]
    exact hobj
  | some m =>
    simp only [Nesting.stepCreate, hm]
    exact List.rel_append hobj (.cons (ManagerArgs.create_hasGroup hm) .nil)

theorem Tracked.enter {s : Grouping} {t : Nesting} {object : Nat} {env : EnterEnv}
    (hs : s.Tracked) (hn : s.groups.Nodup) (ht : s.nesting.stepEnter object env = .ok t) :
    let u : Grouping :=
      ⟨t, s.args, (if s.Opens object env then s.args[object]?.toList else []) ++ s.opened⟩
    u.Tracked ∧ (u.groups.Nodup ↔ s.Fresh (.block (.enter object env))) := by
  obtain ⟨m, r, h, hm, he, rfl⟩ := Nesting.stepEnter_ok ht
  obtain ⟨hobj, hopen⟩ := hs.keep (Manager.enter_keeps he)
  have hopens : s.Opens object env = r.isSome := by
    unfold Opens
    rw [hm, Option.any_some, he]
    cases r with
    | none => rfl
    | some self => rfl
  have hfresh : s.Fresh (.block (.enter object env)) ↔
      (r.isSome = true → ∀ x ∈ s.args[object]?.toList, ∀ y ∈ s.opened, ¬ x.Clash y) := by
    rw [← hopens]
    exact Iff.rfl
  rw [hs.groups_eq] at hn
  rw [hfresh, hopens]
  cases r with
  | none =>
    have hu : (⟨⟨h, s.nesting.managers, object :: s.nesting.entered, s.nesting.opened⟩, s.args,
        s.opened⟩ : Grouping).Tracked := ⟨hobj, hopen⟩
    refine ⟨hu, ?_⟩
    have hg := hu.groups_eq
    exact ⟨fun _ h => absurd h (by simp), fun _ => hg ▸ hn⟩
  | some self =>
    obtain ⟨args, hargs, hgroup⟩ : ∃ args, s.args[object]? = some args ∧
        m.HasGroup args h.loop.heap := by
      obtain ⟨hlt, rfl⟩ := List.getElem?_eq_some_iff.mp hm
      have hlt' : object < s.args.length := hobj.length_eq ▸ hlt
      exact ⟨_, List.getElem?_eq_getElem hlt', hobj.get hlt hlt'⟩
    rw [hargs]
    have hu : (⟨⟨h, s.nesting.managers, object :: s.nesting.entered,
        ⟨m, self, s.nesting.host, h⟩ :: s.nesting.opened⟩, s.args,
        args :: s.opened⟩ : Grouping).Tracked := ⟨hobj, .cons hgroup hopen⟩
    refine ⟨hu, ?_⟩
    have hg := hu.groups_eq
    have hiff := nodup_cons_iff (x := args) hn
    rw [← show _ = _ from hg] at hiff
    refine hiff.trans ⟨fun h _ x hx => ?_, fun h => h rfl args (by simp)⟩
    obtain rfl := Option.some.inj (Option.mem_toList.mp hx)
    exact h

theorem Tracked.leave {s : Grouping} {t : Nesting} {submit : Int} (hs : s.Tracked)
    (hn : s.groups.Nodup) (ht : s.nesting.stepLeave submit = .ok t) :
    let u : Grouping := ⟨t, s.args, s.opened.tail⟩
    u.Tracked ∧ s.Identified (.block (.leave submit)) u := by
  obtain ⟨f, fs, h, ho, hx, rfl⟩ := Nesting.stepLeave_ok ht
  have hk : s.nesting.host.loop.heap.KeepsRequests h.loop.heap :=
    (Manager.exit_spec hx).heap.own
  obtain ⟨hobj, hopen⟩ := hs.keep hk
  have hn' := hn
  rw [hs.groups_eq] at hn'
  have hgroups : s.groups = (f.manager.group s.nesting.host.loop.heap).toList ++
      fs.filterMap fun g => g.manager.group s.nesting.host.loop.heap := by
    unfold groups
    rw [ho, List.filterMap_cons]
    cases f.manager.group s.nesting.host.loop.heap <;> rfl
  have hold := hs.opened
  rw [ho] at hopen hold
  cases hargs : s.opened with
  | nil =>
    rw [hargs] at hopen
    cases hopen
  | cons args as =>
    rw [hargs] at hopen hold hn'
    cases hopen with
    | cons _ hrest =>
      cases hold with
      | cons _ holdrest =>
        have hu : (⟨⟨h, s.nesting.managers, s.nesting.entered, fs⟩, s.args, as⟩ :
            Grouping).Tracked := ⟨hobj, hrest⟩
        have hsame : Grouping.groups ⟨⟨h, s.nesting.managers, s.nesting.entered, fs⟩, s.args, as⟩ =
            fs.filterMap fun g => g.manager.group s.nesting.host.loop.heap := by
          have hmid : (⟨{ s.nesting with opened := fs }, s.args, as⟩ : Grouping).Tracked :=
            ⟨hs.objects, holdrest⟩
          exact hu.groups_eq.trans hmid.groups_eq.symm
        rw [hgroups] at hn
        refine ⟨hu, ?_, fun g hg => ?_⟩
        · show (Grouping.groups _).Nodup
          rw [List.tail_cons, hsame]
          exact (List.nodup_append.mp hn).2.1
        · rw [List.tail_cons, hsame] at hg
          refine Manager.exit_spares hx fun hown => ?_
          have := (List.nodup_append.mp hn).2.2 g (by simp [hown]) g hg
          exact this rfl

theorem Tracked.step {s t : Grouping} {a : GroupAct} (hs : s.Tracked) (hn : s.groups.Nodup)
    (ht : s.step a = .ok t) : t.Tracked ∧ (s.Identified a t ↔ s.Fresh a) := by
  cases a with
  | other ring kernel =>
    cases ht
    exact ⟨⟨hs.objects, hs.opened⟩, ⟨fun _ => trivial, fun _ => ⟨hn, trivial⟩⟩⟩
  | block a =>
    cases a with
    | create args =>
      cases ht
      have hu := hs.create args
      refine ⟨hu, fun _ => trivial, fun _ => ⟨?_, trivial⟩⟩
      rw [hs.groups_eq] at hn
      exact hu.groups_eq ▸ hn
    | enter object env =>
      obtain ⟨u, hu, rfl⟩ := except_map_ok ht
      obtain ⟨htr, hiff⟩ := hs.enter hn hu
      exact ⟨htr, ⟨fun h => hiff.mp h.1, fun h => ⟨hiff.mpr h, trivial⟩⟩⟩
    | leave submit =>
      obtain ⟨u, hu, rfl⟩ := except_map_ok ht
      obtain ⟨htr, hid⟩ := hs.leave hn hu
      exact ⟨htr, ⟨fun _ => trivial, fun _ => hid⟩⟩

/-- In every run the groups of the open contexts stay apart, and each exit keeps to its own,
    exactly when every context that is opened finds no open one whose number has the same 16
    bits. The SQE of a dispatcher selects the group of the payload unless it is that of a
    one-shot `recvmsg`, which selects the flag. -/
theorem group_identity_iff {h : Host} {acts : List GroupAct} {s : Grouping}
    (hr : (init h).run acts = .ok s) {d : ReadDispatcher} {heap heap' : Heap} {p : PayloadId}
    {b : BufferPayload} {op : COp} (hb : heap.payloads[p]? = some b) (hs : b.Selects)
    (hd : d.call p heap = .ok (op, heap')) {r : Ring} {idx : Int} {t : TimeoutParams}
    {submit : Int} (hq : 0 ≤ (op.exec r idx t submit).1) :
    (Lib.Each step Identified (init h) acts ↔ Lib.Meets step Fresh (init h) acts) ∧
      ((r.newSqe (op.exec r idx t submit).2).bind Sqe.bufGroup = some (toUint16 b.bgid) ↔
        d.InOrder b) := by
  constructor
  · refine Lib.each_iff_meets (fun s => s.Tracked ∧ s.groups.Nodup) ?_ hr ?_
    · rintro s a t ⟨htr, hn⟩ ht
      obtain ⟨htr', hiff⟩ := htr.step hn ht
      exact ⟨hiff, fun hf => ⟨htr', (hiff.mpr hf).1⟩⟩
    · exact ⟨⟨.nil, .nil⟩, List.nodup_nil⟩
  · have hgid := d.call_bgid hb hs hd
    have ha : op.Accepts := COp.accepts_of_bgid (by simp [hgid])
    rw [COp.exec_newSqe ha hq, Option.bind_some, COp.requestEntry_bufGroup hgid,
      Option.some.injEq, toUint16_eq_iff]
    exact d.inOrder_iff b

/-- A PROVIDED context in another one, with the numbers that `rand()` returned; something else
    is submitted in between. -/
def blocksOf (outer inner : Int) : List GroupAct :=
  [.block (.create (.bufferMode .provided false (some [⟨.mem 1, 8⟩]) outer 0 true)),
    .block (.create (.bufferMode .provided false (some [⟨.mem 2, 8⟩]) inner 0 true)),
    .block (.enter 0 ⟨true, true, 1⟩),
    .other Nesting.newHost.loop.ring ⟨false, fun _ => .provided 1⟩,
    .block (.enter 1 ⟨true, true, 1⟩), .block (.leave 1), .block (.leave 1)]

/-- The payload of a PROVIDED context with the number 5. -/
def providedHeap : Heap :=
  (createBufferPayload ⟨[], []⟩ .provided false (some [⟨.mem 1, 8⟩]) 5 0).2

theorem group_identity_iff_apart :
    Lib.Each step Identified (init Nesting.newHost) (blocksOf 5 6) ∧
      ∃ b, (COp.staleRing.newSqe
        ((COp.recvBufferSelect 3 8 5 false).exec COp.staleRing 0 .zero 1).2).bind Sqe.bufGroup =
          some (toUint16 (BufferPayload.bgid b)) := by
  have hmeets : Lib.Meets step Fresh (init Nesting.newHost) (blocksOf 5 6) := by decide +kernel
  obtain ⟨s, hr⟩ : ∃ s, (init Nesting.newHost).run (blocksOf 5 6) = .ok s := by decide +kernel
  obtain ⟨b, hb⟩ : ∃ b, providedHeap.payloads[0]? = some b := ⟨_, rfl⟩
  have hs : b.Selects := by
    obtain rfl := Option.some.inj hb
    exact .inl rfl
  have hd : (ReadDispatcher.recv 3 .oneshot false).call 0 providedHeap =
      .ok (.recvBufferSelect 3 8 5 false, providedHeap) := rfl
  have hq : 0 ≤ ((COp.recvBufferSelect 3 8 5 false).exec COp.staleRing 0 .zero 1).1 := by
    decide
  have hiff := group_identity_iff hr hb hs hd hq
  exact ⟨hiff.1.mpr hmeets, b, hiff.2.mpr trivial⟩

/-- Two numbers with the same 16 bits make two open contexts one group, and the one-shot
    `recvmsg` in a context with the number 5 selects group 0. -/
theorem groups_collide :
    ¬ Lib.Each step Identified (init Nesting.newHost) (blocksOf 5 65541) ∧
      ∃ op, (ReadDispatcher.recvmsg 3 .oneshot false none).call 0 providedHeap =
          .ok (op, providedHeap) ∧
        0 ≤ (op.exec COp.staleRing 0 .zero 1).1 ∧
        (COp.staleRing.newSqe (op.exec COp.staleRing 0 .zero 1).2).bind Sqe.bufGroup =
          some 0 := by
  refine ⟨by decide +kernel, .recvmsgBufferSelect 3 5 0, rfl, by decide, by decide⟩

end Grouping

end Uringio
