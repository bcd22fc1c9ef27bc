/-
  The Files and Sockets that the library makes, over whole runs.

  A call of `open` or `prep_socket` makes its object at once, without a descriptor, and its
  future gets the object when the CQE comes. `published_once`: an object has its descriptor
  exactly when the future of the call that made it was given the object, no other future gets
  it, and the descriptor is never written again.
-/
import Uringio.Reader.Published
import Uringio.System.Descriptors

namespace Uringio

open Lib

/-- The object that the request makes. -/
def Submitted.makes (sub : Submitted) : Option ClosedFlag :=
  (sub.registration.slot sub.index).makes

section Objects

variable {l l1 : Loop} {o : ClosedFlag} {made : Option ClosedFlag}

theorem Loop.has_of_descriptor {fd : Int} (h : l.descriptor o = some fd) : l.Has o := by
  cases o with
  | file id =>
    obtain ⟨f, hf, -⟩ := Option.bind_eq_some_iff.mp h
    exact (List.getElem?_eq_some_iff.mp hf).1
  | socket id =>
    obtain ⟨f, hf, -⟩ := Option.bind_eq_some_iff.mp h
    exact (List.getElem?_eq_some_iff.mp hf).1

theorem Loop.descriptor_setClosed {closed : Bool} {flag : Option ClosedFlag} :
    (l.setClosed closed flag).descriptor o = l.descriptor o := by
  cases flag with
  | none => rfl
  | some flag =>
    cases flag with
    | file id =>
      cases o with
      | socket i => rfl
      | file i => exact Loop.KeepsDescriptors.bind_modify fun _ _ => rfl
    | socket id =>
      cases o with
      | file i => rfl
      | socket i => exact Loop.KeepsDescriptors.bind_modify fun _ _ => rfl

/-- The object of a request that is prepared is new and has no descriptor. -/
theorem Prepared.makes_fresh {call : OpCall} {g : Grown} {req : Request} {index : Int}
    (hp : Prepared call l g req) (hm : (req.registration.slot index).makes = some o) :
    ¬ l.Has o ∧ (l.grow g).descriptor o = none := by
  simp only [RequestSlot.makes, Registration.slot, hp.opcode, hp.file, hp.socket] at hm
  cases call with
  | «open» =>
    obtain rfl := Option.some.inj hm
    refine ⟨Nat.lt_irrefl _, ?_⟩
    show (l.files ++ g.files)[l.files.length]?.bind _ = _
    rw [hp.files]
    exact congrArg (·.bind UringioFile.fd) List.getElem?_concat_length
  | prepSocket =>
    obtain rfl := Option.some.inj hm
    refine ⟨Nat.lt_irrefl _, ?_⟩
    show (l.sockets ++ g.sockets)[l.sockets.length]?.bind _ = _
    rw [hp.sockets]
    exact congrArg (·.bind UringioSocket.sockFd) List.getElem?_concat_length
  | _ => cases hm

end Objects

namespace System

variable {s t : System} {a : Act} {acts more : List Act} {registrySize : Nat}
  {setup : SignalSetup} {wakeupFd submit : Int}

/-- Each object is made by one request; it has its descriptor exactly when the future of that
    request was given the object, and no other future was. -/
structure Published (s : System) : Prop where
  unique : ∀ x ∈ s.subs, ∀ y ∈ s.subs, ∀ o, x.makes = some o → y.makes = some o → x = y
  given : ∀ sub ∈ s.subs, ∀ o, sub.makes = some o → ((s.loop.descriptor o).isSome ↔
    (sub.registration.future, .setResult o.result) ∈ s.loop.callLog)
  maker : ∀ f o, (f, .setResult (ClosedFlag.result o)) ∈ s.loop.callLog →
    ∃ sub ∈ s.subs, sub.makes = some o ∧ sub.registration.future = f

/-- What has a descriptor keeps it. -/
def KeepsDescriptors (s t : System) : Prop :=
  ∀ o fd, s.loop.descriptor o = some fd → t.loop.descriptor o = some fd

theorem init_published {l : Loop} (hl : l.callLog = []) : (init l).Published := by
  refine ⟨fun x hx => absurd hx List.not_mem_nil, fun x hx => absurd hx List.not_mem_nil,
    fun f o hm => ?_⟩
  have hlog : (init l).loop.callLog = [] := hl
  rw [hlog] at hm
  exact absurd hm List.not_mem_nil

/-- The objects that requests make exist. -/
theorem has_of_makes (h : ObjectInv s.loop s.subs) {sub : Submitted} (hm : sub ∈ s.subs)
    {o : ClosedFlag} (ho : sub.makes = some o) : s.loop.Has o := by
  unfold Submitted.makes RequestSlot.makes at ho
  split at ho
  · obtain ⟨id, hid, rfl⟩ := Option.map_eq_some_iff.mp ho
    exact h.file sub hm id hid
  · obtain ⟨id, hid, rfl⟩ := Option.map_eq_some_iff.mp ho
    exact h.socket sub hm id hid
  · cases ho

theorem not_mem_of_calls {l : Loop} {f : FutureId} {call : FutureCall} (h : l.calls f = []) :
    (f, call) ∉ l.callLog := by
  intro hm
  unfold Loop.calls at h
  have hmem : (f, call) ∈ l.callLog.filter fun e => e.1 == f :=
    List.mem_filter.mpr ⟨hm, beq_self_eq_true f⟩
  rw [List.map_eq_nil_iff.mp h] at hmem
  exact absurd hmem List.not_mem_nil

/-- A step that publishes nothing. -/
theorem Published.keep (h : s.Published) (ho : ObjectInv s.loop s.subs) (hs : t.subs = s.subs)
    (hp : PublishesNone s.loop t.loop) : t.Published ∧ s.KeepsDescriptors t := by
  obtain ⟨calls, hlog, hcalls⟩ := hp.callLog
  have hmem : ∀ f (o : ClosedFlag), (f, .setResult o.result) ∈ t.loop.callLog ↔
      (f, .setResult o.result) ∈ s.loop.callLog := by
    intro f o
    rw [hlog, List.mem_append]
    exact or_iff_left fun hm => hcalls _ hm o rfl
  refine ⟨⟨?_, fun sub hm o hmakes => ?_, fun f o hm => ?_⟩, fun o fd hfd => ?_⟩
  · rw [hs]
    exact h.unique
  · rw [hs] at hm
    rw [hmem, hp.descriptors o (has_of_makes ho hm hmakes) nofun]
    exact h.given sub hm o hmakes
  · rw [hs]
    exact h.maker f o ((hmem f o).mp hm)
  · rw [hp.descriptors o (Loop.has_of_descriptor hfd) nofun]
    exact hfd

/-- The loop after a call that is not accepted. -/
theorem publishesNone_afterCall {l : Loop} {g : Grown} {reg : RequestRegistry} {heap : Heap}
    {ring : Ring} {closed : Bool} {flag : Option ClosedFlag} :
    PublishesNone l ((l.afterCall g reg heap ring).setClosed closed flag) := by
  refine ⟨fun o ho hm => ?_, [], ?_, fun _ he => absurd he List.not_mem_nil⟩
  · rw [Loop.descriptor_setClosed]
    exact Loop.KeepsDescriptors.grow rfl rfl o ho hm
  · rw [Loop.setClosed_callLog, List.append_nil]
    rfl

/-- An accepted request makes a new object, or none. -/
theorem Published.accepted (h : s.Published) (hb : s.Base) (hu : s.Uncalled) {call : OpCall}
    {g : Grown} {req : Request} {sub : Submitted} {l1 : Loop} (hp : Prepared call s.loop g req)
    (hreg : sub.registration = req.registration) (hl : PublishesNone s.loop l1)
    (hnew : ∀ o, l1.descriptor o = (s.loop.grow g).descriptor o) (hlog : l1.callLog = s.loop.callLog) :
    ({ s.withLoop l1 with subs := sub :: s.subs } : System).Published := by
  have hfresh : ∀ o, sub.makes = some o →
      ¬ s.loop.Has o ∧ (s.loop.grow g).descriptor o = none := by
    intro o ho
    unfold Submitted.makes at ho
    rw [hreg] at ho
    exact hp.makes_fresh ho
  have hold : ∀ x ∈ s.subs, ∀ o, x.makes = some o → sub.makes ≠ some o := fun x hx o ho hsub =>
    (hfresh o hsub).1 (has_of_makes hb.objects hx ho)
  refine ⟨fun x hx y hy o hxo hyo => ?_, fun x hx o ho => ?_, fun f o hm => ?_⟩
  · rcases List.mem_cons.mp hx with hnewx | holdx
    · rcases List.mem_cons.mp hy with hnewy | holdy
      · exact hnewx.trans hnewy.symm
      · exact absurd (hnewx ▸ hxo) (hold y holdy o hyo)
    · rcases List.mem_cons.mp hy with hnewy | holdy
      · exact absurd (hnewy ▸ hyo) (hold x holdx o hxo)
      · exact h.unique x holdx y holdy o hxo hyo
  · show (l1.descriptor o).isSome ↔ _ ∈ l1.callLog
    rw [hlog]
    rcases List.mem_cons.mp hx with rfl | hx
    · rw [hnew, (hfresh o ho).2]
      refine iff_of_false Bool.false_ne_true (not_mem_of_calls (hu.fresh _ (Nat.le_of_eq ?_)))
      rw [hreg, hp.future]
    · rw [hl.descriptors o (has_of_makes hb.objects hx ho) nofun]
      exact h.given x hx o ho
  · have hm' : (f, .setResult o.result) ∈ l1.callLog := hm
    rw [hlog] at hm'
    obtain ⟨x, hx, hxo, hxf⟩ := h.maker f o hm'
    exact ⟨x, List.mem_cons_of_mem _ hx, hxo, hxf⟩

/-- The next CQE publishes the object of its request. -/
theorem Published.published (h : s.Published) (hb : s.Base) (hu : s.Uncalled) {i : Int}
    {slot : RequestSlot} {future : FutureId} {o : ClosedFlag} {fd : Int}
    (hl : s.loop.registry.liveSlot i = some slot) (hf : slot.future = some future)
    (ho : slot.makes = some o) (hs : t.subs = s.subs)
    (hp : Publishes s.loop future o fd t.loop) : t.Published ∧ s.KeepsDescriptors t := by
  obtain ⟨sub, hholder, rfl⟩ := hb.registry.holder i slot hl
  obtain ⟨hsub, hi⟩ := mem_of_holder hholder
  obtain rfl := Option.some.inj hf
  have hmakes : sub.makes = some o := by
    unfold Submitted.makes
    rw [hi]
    exact ho
  have hcalls : s.loop.calls sub.registration.future = [] := hu.live i _ _ hl rfl
  have hmem : ∀ f (o' : ClosedFlag), (f, .setResult o'.result) ∈ t.loop.callLog ↔
      (f, .setResult o'.result) ∈ s.loop.callLog ∨ f = sub.registration.future ∧ o' = o := by
    intro f o'
    rw [hp.callLog, List.mem_append, List.mem_singleton]
    refine or_congr_right ⟨fun he => ?_, fun he => ?_⟩
    · obtain ⟨hf, hr⟩ := Prod.mk.inj he
      exact ⟨hf, ClosedFlag.result_inj (FutureCall.setResult.inj hr)⟩
    · rw [he.1, he.2]
  refine ⟨⟨?_, fun x hx o' hxo => ?_, fun f o' hm => ?_⟩, fun o' fd' hfd => ?_⟩
  · rw [hs]
    exact h.unique
  · rw [hs] at hx
    rw [hmem]
    by_cases he : o' = o
    · obtain rfl := he
      obtain rfl := h.unique x hx sub hsub o' hxo hmakes
      rw [hp.descriptor]
      exact iff_of_true rfl (.inr ⟨rfl, rfl⟩)
    · have hkeeps := hp.others o' (has_of_makes hb.objects hx hxo)
        fun he' => he (Option.some.inj he').symm
      rw [hkeeps, or_iff_left fun hn => he hn.2]
      exact h.given x hx o' hxo
  · rw [hs]
    rcases (hmem f o').mp hm with hold | ⟨rfl, rfl⟩
    · exact h.maker f o' hold
    · exact ⟨sub, hsub, hmakes, rfl⟩
  · have hne : o' ≠ o := by
      rintro rfl
      have hgiven := (h.given sub hsub o' hmakes).mp (by rw [hfd]; rfl)
      exact not_mem_of_calls hcalls hgiven
    rw [hp.others o' (Loop.has_of_descriptor hfd) fun he => hne (Option.some.inj he).symm]
    exact hfd

/-! ## The shutdown -/

/-- The objects stay as they are, and none is handed over. -/
structure Silent (l l1 : Loop) : Prop where
  files : l1.files = l.files
  sockets : l1.sockets = l.sockets
  callLog : ∃ calls, l1.callLog = l.callLog ++ calls ∧
    ∀ e ∈ calls, ∀ o : ClosedFlag, e.2 ≠ .setResult o.result

namespace Silent

variable {l m n : Loop}

theorem of_eq (hf : m.files = l.files) (hs : m.sockets = l.sockets)
    (hc : m.callLog = l.callLog) : Silent l m :=
  ⟨hf, hs, [], hc.trans (List.append_nil _).symm, fun _ he => absurd he List.not_mem_nil⟩

theorem trans (h : Silent l m) (h' : Silent m n) : Silent l n := by
  obtain ⟨calls, hlog, hcalls⟩ := h.callLog
  obtain ⟨calls', hlog', hcalls'⟩ := h'.callLog
  refine ⟨h'.files.trans h.files, h'.sockets.trans h.sockets, calls ++ calls', ?_, fun e he => ?_⟩
  · rw [hlog', hlog, List.append_assoc]
  · rcases List.mem_append.mp he with he | he
    · exact hcalls e he
    · exact hcalls' e he

theorem publishesNone (h : Silent l m) : PublishesNone l m :=
  ⟨.of_eq h.files h.sockets, h.callLog⟩

end Silent

theorem shutdownCqe_silent {l l1 : Loop} {d : Drained} (h : shutdownCqe l d = .ok l1) :
    Silent l l1 := by
  unfold shutdownCqe at h
  split at h
  · cases h
    exact .of_eq rfl rfl rfl
  · split at h
    · cases h
      exact .of_eq rfl rfl rfl
    · obtain ⟨hlog, hf, hs⟩ := finishCqe_objects h
      refine Silent.trans ?_ (.of_eq hf hs hlog)
      split
      · rename_i future _
        split
        · refine ⟨rfl, rfl, [(future, closedCall)], rfl, fun e he o heo => ?_⟩
          rw [List.mem_singleton.mp he] at heo
          cases heo
        · exact .of_eq rfl rfl rfl
      · exact .of_eq rfl rfl rfl

theorem drain_silent {l l1 : Loop} {drained : List Drained}
    (h : Lib.run shutdownCqe l drained = .ok l1) : Silent l l1 := by
  induction drained generalizing l with
  | nil =>
    cases h
    exact .of_eq rfl rfl rfl
  | cons d drained ih =>
    obtain ⟨m, hm, hrest⟩ := Lib.run_cons_ok.mp h
    exact (shutdownCqe_silent hm).trans (ih hrest)

theorem gracefulShutdown_silent {l l1 : Loop} {drained : List Drained} {result : Int}
    (h : gracefulShutdown l drained result = .ok l1) : Silent l l1 := by
  obtain ⟨m, hm, rfl⟩ := gracefulShutdown_eq_ok.mp h
  exact (drain_silent hm).trans (.of_eq rfl rfl rfl)

/-! ## Runs -/

theorem Published.step (h : s.Published) (hb : s.Base) (hu : s.Uncalled) (hs : Stepped s a t) :
    t.Published ∧ s.KeepsDescriptors t := by
  cases hs with
  | called _ ho =>
    cases ho with
    | refused hr =>
      obtain ⟨g, rfl, -⟩ := hr
      exact h.keep hb.objects rfl ⟨.grow rfl rfl, [], (List.append_nil _).symm,
        fun _ he => absurd he List.not_mem_nil⟩
    | full _ _ _ _ => exact h.keep hb.objects rfl (@publishesNone_afterCall _ _ _ _ _ false none)
    | rejected _ _ _ _ _ _ _ _ _ _ _ => exact h.keep hb.objects rfl publishesNone_afterCall
    | accepted _ hp _ _ _ _ _ =>
      refine ⟨h.accepted hb hu hp rfl publishesNone_afterCall (fun o => ?_) ?_, fun o fd hfd => ?_⟩
      · exact Loop.descriptor_setClosed
      · exact Loop.setClosed_callLog
      · refine .trans ?_ hfd
        exact publishesNone_afterCall.descriptors o (Loop.has_of_descriptor hfd) nofun
  | posted _ => exact h.keep hb.objects rfl (publishesNone_of_eq rfl rfl rfl)
  | dropped _ _ => exact h.keep hb.objects rfl (publishesNone_of_eq rfl rfl rfl)
  | skipped _ _ _ => exact h.keep hb.objects rfl (publishesNone_of_eq rfl rfl rfl)
  | handled _ hl hf hr _ =>
    have hv := hb.registry.sound.valid_of_live hl
    obtain ⟨sub, hholder, hslot⟩ := hb.registry.holder _ _ hl
    obtain ⟨hsub, -⟩ := mem_of_holder hholder
    have hfile := hb.objects.file sub hsub
    have hsock := hb.objects.socket sub hsub
    rcases readLive_publishes hv hl (hb.slotFits hl) (ne_wakeupFdTag_of_live hl)
        (hslot ▸ hfile) (hslot ▸ hsock) hr with ⟨o, ho, hp⟩ | hp
    · exact h.published hb hu hl hf ho rfl hp
    · exact h.keep hb.objects rfl hp
  | quiet _ hq =>
    exact h.keep hb.objects hq.subs (publishesNone_of_eq hq.files hq.sockets hq.callLog)
  | shutdown _ hg => exact h.keep hb.objects rfl (gracefulShutdown_silent hg).publishesNone

/-- What the runs keep. -/
structure PublishedInv (s : System) : Prop where
  base : s.down = false → s.Base ∧ s.Uncalled
  published : s.Published

theorem newLoop_publishedInv (h : registrySize < 2 ^ 32) :
    (init (uringioLoopInit registrySize setup wakeupFd submit)).PublishedInv :=
  ⟨fun _ => ⟨newLoop_base h, init_uncalled rfl⟩, init_published rfl⟩

theorem PublishedInv.step (h : s.PublishedInv) (hs : s.step a = .ok t) :
    t.PublishedInv ∧ s.KeepsDescriptors t := by
  obtain ⟨hb, hu⟩ := h.base (down_of_step hs)
  obtain ⟨-, hstep⟩ := step_cases hb hs
  obtain ⟨hp, hkeeps⟩ := h.published.step hb hu hstep
  exact ⟨⟨fun hd => ⟨hb.step hs hd, hu.step hb hstep hd⟩, hp⟩, hkeeps⟩

theorem PublishedInv.run (h : s.PublishedInv) (hr : s.run acts = .ok t) :
    t.PublishedInv ∧ s.KeepsDescriptors t := by
  refine Lib.Meets.invariant (fun u : System => u.PublishedInv ∧ s.KeepsDescriptors u)
    (fun u a v hu _ hs => ?_) Lib.meets_true ⟨h, fun _ _ hfd => hfd⟩ hr
  obtain ⟨hv, hkeeps⟩ := hu.1.step hs
  exact ⟨hv, fun o fd hfd => hkeeps o fd (hu.2 o fd hfd)⟩

/-- A File is opened, read from and closed, and a second one is opened meanwhile. -/
def openedRun : List Act :=
  [.call (.open 0 (.ok "f") 0 0 0 none) .ok, .post 1 7 0, .read .ok]

def closedRun : List Act :=
  [.call (.open 0 (.ok "g") 0 0 0 none) .ok, .call (.fileClose 0 none) .ok, .post 2 9 0,
    .read .ok, .post 3 0 0, .read .ok]

end System

end Uringio
