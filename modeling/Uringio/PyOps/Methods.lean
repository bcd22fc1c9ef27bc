/-
  Every method of File and Socket, `open`, `prep_socket` and the timer get ready as
  `Prepared` says or give up (`OpCall.prepare_spec`): one lemma for each method, put
  together from the lemmas about its steps.
-/
import Uringio.PyOps.Prepared

namespace Uringio

open Lib Program

section Methods

variable {l : Loop} {g : Grown} {env : CallEnv} {call : OpCall}

/-! ## Common parts -/

theorem from_self {α : Type} {m : PyProgram α} {Q : α → Loop → Prop}
    {E : Option PyErr → Loop → Prop} (h : Triple (fun s => s = l.grow .none) m Q E) :
    Triple (fun s => s = l) m Q E :=
  fun s hs => h s (hs.trans l.grow_none.symm)

theorem refused_of_eq {s : Loop} (h : s = l) : Refused l s := h ▸ refused_self

theorem HasFd.bind_fd {self : FileId} {fd : Int} {file : UringioFile} (h : HasFd l self fd file) :
    (l.files[self]?).bind UringioFile.fd = some fd := by
  rw [h.1]
  exact h.2

theorem HasSockFd.bind_fd {self : SocketId} {fd : Int} {sock : UringioSocket}
    (h : HasSockFd l self fd sock) : (l.sockets[self]?).bind UringioSocket.sockFd = some fd := by
  rw [h.1]
  exact h.2

namespace OpCall

theorem ready_of_file (call : OpCall) {self : FileId} {fd : Int} {file : UringioFile}
    (hf : call.onFile = some self) (hs : call.onSocket = none) (h : HasFd l self fd file)
    (hc : call.isAexit = false → file.closed = false) : call.Ready l := by
  refine ⟨fun id hid => ?_, fun id hid => ?_⟩
  · obtain rfl : self = id := Option.some.inj (hf.symm.trans hid)
    exact ⟨fd, file, h, hc⟩
  · exact absurd (hs.symm.trans hid) (by simp)

theorem ready_of_socket (call : OpCall) {self : SocketId} {fd : Int} {sock : UringioSocket}
    (hf : call.onFile = none) (hs : call.onSocket = some self) (h : HasSockFd l self fd sock)
    (hc : call.isAexit = false → sock.closed = false) : call.Ready l := by
  refine ⟨fun id hid => ?_, fun id hid => ?_⟩
  · exact absurd (hf.symm.trans hid) (by simp)
  · obtain rfl : self = id := Option.some.inj (hs.symm.trans hid)
    exact ⟨fd, sock, h, hc⟩

theorem ready_of_none (call : OpCall) (hf : call.onFile = none) (hs : call.onSocket = none) : call.Ready l :=
  ⟨fun _ hid => absurd (hf.symm.trans hid) (by simp),
    fun _ hid => absurd (hs.symm.trans hid) (by simp)⟩

end OpCall

/-- The payload in use can be read. -/
theorem PayloadUse.get {user : Bool} {shape : BufferPayload → Prop} {p : PayloadId}
    (h : PayloadUse l g user shape p) :
    ∃ b, (l.grow g).heap.payloads[p]? = some b ∧
      (b.Own ∨ (user = false ∧ g.payloads = [] ∧ b.mode ≠ .normalBuf)) := by
  cases h with
  | @own b hp hg ho hs =>
    refine ⟨b, ?_, .inl ho⟩
    simp [Loop.grow, hp, hg]
  | context hu hg hc =>
    obtain ⟨b, hb, -, hm⟩ := hc.get (g := g)
    exact ⟨b, hb, .inr ⟨hu, hg, hm⟩⟩

/-- A payload with buffers of the user is the operation's own. -/
theorem PayloadUse.get_own {shape : BufferPayload → Prop} {p : PayloadId}
    (h : PayloadUse l g true shape p) :
    ∃ b, (l.grow g).heap.payloads[p]? = some b ∧ b.Own := by
  obtain ⟨b, hb, ho | ⟨hu, -, -⟩⟩ := h.get
  · exact ⟨b, hb, ho⟩
  · exact absurd hu (by simp)

/-- The dispatchers of all operations but `read` leave the heap. -/
theorem dispatch_plain {req : Request}
    (h : PlainDispatch (call.fd l) (l.grow g).heap (req.dispatch (l.grow g).heap))
    (hn : call.opcode ≠ .read) : DispatchPart call l g req :=
  .plain h fun hr => absurd hr hn

/-! ## Files -/

theorem open_prepares (dfd : Int) (path : Except PyErr String) (flags resolve mode : Int)
    (t : Option PyVal) :
    Prepares (.open dfd path flags resolve mode t) l
      (uringioOpen dfd path flags resolve mode t env) := by
  unfold Prepares uringioOpen
  have hr : ∀ s, s = l → Refused l s := fun _ hs => refused_of_eq hs
  refine .bind (assertLoopIsUringio_spec hr) fun _ => ?_
  refine .bind (assertLoopThread_spec hr) fun _ => ?_
  refine .bind (assertRingLoopIsClosing_spec hr) fun _ => ?_
  refine .bind (check_spec hr) fun _ => .given fun _ => ?_
  refine .bind (parseArgs_spec hr) fun _ => ?_
  cases path with
  | error e => exact .fail hr
  | ok path =>
    refine .bind (parseTimeout_spec hr t) fun r => .given fun ht => ?_
    refine .bind (from_self (createFuture_spec rfl rfl rfl)) fun f => .given fun hf => ?_
    refine .bind (Q := fun n s => s = l.grow ⟨1, [], [⟨none, false⟩], []⟩ ∧ n = l.files.length)
      (.change ?_) fun n => .given fun hn => .pure fun s hs => ⟨_, hs, ?_⟩
    · intro s hs
      subst hs
      simp [Loop.grow, Grown.none]
    · exact ⟨rfl, rfl, rfl, hf, rfl, congrArg some hn, rfl, rfl, .inl rfl, ⟨_, ht⟩,
        OpCall.ready_of_none _ rfl rfl, .none rfl rfl rfl fun _ => id, dispatch_plain (plain_of_const rfl)
          (by simp [OpCall.opcode])⟩

theorem fileAexit_prepares (self : FileId) :
    Prepares (.fileAexit self) l (UringioFile.aexit self env) := by
  unfold Prepares UringioFile.aexit
  refine .bind (selfFile_spec self) fun r => .given fun hobj => ?_
  refine .bind (parseArgs_spec fun _ hs => refused_of_eq hs) fun _ => ?_
  refine .bind (from_self (createFuture_spec rfl rfl rfl)) fun f => .given fun hf => .pure ?_
  have hfd : OpCall.fd (.fileAexit self) l = some r.2 := hobj.bind_fd
  have hready := OpCall.ready_of_file (.fileAexit self) rfl rfl hobj (by simp [OpCall.isAexit])
  exact fun s hs => ⟨_, hs, rfl, rfl, rfl, hf, rfl, rfl, rfl, rfl, .inl rfl, ⟨_, rfl⟩, hready,
    .none rfl rfl rfl fun _ => id,
    dispatch_plain (hfd ▸ plain_of_const rfl) (by simp [OpCall.opcode])⟩

/-- The methods of a File that use no payload. -/
theorem fileOperation_prepares (self : FileId) (op : Int → COp) (t : Option PyVal)
    (hfile : call.onFile = some self) (hsock : call.onSocket = none)
    (hopen : call.newFiles = [] ∧ call.newSockets = [])
    (hreg : call.file l = some self ∧ call.socket l = none) (hflag : call.flag = none)
    (ht : call.timeoutArg = t) (hshape : ∀ b, ¬ call.PayloadShape b)
    (hop : call.opcode ≠ .read)
    (hfd : ∀ fd, (l.files[self]?).bind UringioFile.fd = some fd →
      (op fd).fd = call.fd l ∧ (op fd).bufIndex = none) :
    Prepares call l (fileOperation self call.opcode op t env) := by
  unfold Prepares fileOperation
  refine .bind (openFileMethod_spec self) fun fd => .given fun hobj => ?_
  refine .bind (parseTimeout_spec (fun _ hs => refused_of_eq hs) t) fun r => .given fun htm => ?_
  refine .bind (from_self (createFuture_spec rfl rfl rfl)) fun f => .given fun hf => .pure ?_
  obtain ⟨file, hobj, hc⟩ := hobj
  have hop' := hfd fd hobj.bind_fd
  exact fun s hs => ⟨_, hs, rfl, hopen.1.symm, hopen.2.symm, hf, rfl, hreg.1.symm, hreg.2.symm,
    hflag.symm, .inl rfl, ⟨_, ht ▸ htm⟩, OpCall.ready_of_file call hfile hsock hobj fun _ => hc,
    .none rfl rfl rfl hshape, dispatch_plain (hop'.1 ▸ plain_of_const hop'.2) hop⟩

theorem fileClose_prepares (self : FileId) (t : Option PyVal) :
    Prepares (.fileClose self t) l (UringioFile.close self t env) :=
  fileOperation_prepares self .closeFile t rfl rfl ⟨rfl, rfl⟩ ⟨rfl, rfl⟩
    rfl rfl (fun _ => id) (by simp [OpCall.opcode]) fun _ hfd => ⟨hfd.symm, rfl⟩

theorem fsync_prepares (self : FileId) (t : Option PyVal) :
    Prepares (.fsync self t) l (UringioFile.fsync self t env) :=
  fileOperation_prepares self .fsync t rfl rfl ⟨rfl, rfl⟩ ⟨rfl, rfl⟩
    rfl rfl (fun _ => id) (by simp [OpCall.opcode]) fun _ hfd => ⟨hfd.symm, rfl⟩

theorem fdatasync_prepares (self : FileId) (t : Option PyVal) :
    Prepares (.fdatasync self t) l (UringioFile.fdatasync self t env) :=
  fileOperation_prepares self .fdatasync t rfl rfl ⟨rfl, rfl⟩ ⟨rfl, rfl⟩
    rfl rfl (fun _ => id) (by simp [OpCall.opcode]) fun _ hfd => ⟨hfd.symm, rfl⟩

theorem splice_prepares (self : FileId) (src dst count offsetSrc offsetDst flag : Int)
    (t : Option PyVal) :
    Prepares (.splice self src dst count offsetSrc offsetDst flag t) l
      (UringioFile.splice self src dst count offsetSrc offsetDst flag t env) :=
  fileOperation_prepares self _ t
    rfl rfl ⟨rfl, rfl⟩ ⟨rfl, rfl⟩ rfl rfl (fun _ => id) (by simp [OpCall.opcode])
    fun _ _ => ⟨rfl, rfl⟩

theorem read_prepares (hctx : ContextOk l) (self : FileId) (offset size : Int) (t : Option PyVal) :
    Prepares (.read self offset size t) l (UringioFile.read self offset size t env) := by
  unfold Prepares UringioFile.read
  refine .bind (openFileMethod_spec self) fun fd => .given fun ⟨file, hobj, hc⟩ => ?_
  refine .bind (parseTimeout_spec (fun _ hs => refused_of_eq hs) t) fun r => .given fun ht => ?_
  refine .bind (from_self (createFuture_spec rfl rfl rfl)) fun f => .given fun hf => ?_
  refine .bind (linearPayload_spec hctx rfl rfl rfl false size) fun p => ?_
  refine .bind (getContext_spec (l := l) ?_) fun c => .given fun hctx => .pure ?_
  · rintro s ⟨ps, rfl, -⟩
    rfl
  · rintro s ⟨ps, rfl, huse⟩
    have hfd : OpCall.fd (.read self offset size t) l = some fd := hobj.bind_fd
    have hready := OpCall.ready_of_file (.read self offset size t) rfl rfl hobj fun _ => hc
    refine ⟨_, rfl, rfl, rfl, rfl, hf, rfl, rfl, rfl, rfl, .inr ⟨rfl, c, hctx, rfl⟩, ⟨_, ht⟩, hready,
      .registered rfl rfl rfl huse, ?_⟩
    obtain ⟨b, hb, hown⟩ := huse.get
    obtain ⟨hplain, hfixed⟩ := readDispatcher_spec hb fd c.stream size offset
    by_cases hm : b.mode = .fixed
    · refine .fixed rfl rfl ?_ (hfd ▸ hfixed hm)
      rcases hown with ho | ⟨-, hg, -⟩
      · exact absurd (ho.mode.symm.trans hm) (by simp)
      · exact hg
    · refine .plain (hfd ▸ hplain hm) fun _ q b' hq hb' => ?_
      obtain rfl : p = q := Option.some.inj hq
      rw [Option.some.inj (hb'.symm.trans hb)]
      exact hm

theorem PayloadUse.mono {user : Bool} {shape shape' : BufferPayload → Prop} {p : PayloadId}
    (h : PayloadUse l g user shape p) (hs : ∀ b, shape b → shape' b) :
    PayloadUse l g user shape' p := by
  cases h with
  | own hp hg ho hb => exact .own hp hg ho (hs _ hb)
  | context hu hg hc => exact .context hu hg hc

theorem PayloadUse.notUser {user : Bool} {shape : BufferPayload → Prop} {p : PayloadId}
    (h : PayloadUse l g user shape p) : PayloadUse l g false shape p := by
  cases h with
  | own hp hg ho hb => exact .own hp hg ho hb
  | context hu hg hc => exact .context rfl hg hc

theorem LinearShape.any {user : Bool} {b : BufferPayload} (h : LinearShape user b) :
    LinearShape true b := by
  obtain ⟨ht, linear, hl, -⟩ := h
  exact ⟨ht, linear, hl, by simp⟩

theorem selectedPayload_spec {E : Option PyErr → Loop → Prop} :
    Triple (fun s => s = l) selectedPayload
      (fun x s => s = l ∧ ∀ p, x = some p → ContextPayload l p) E := by
  unfold selectedPayload
  refine .bind (getContext_spec (l := l) fun _ hs => hs ▸ rfl) fun c => .given fun hc => .look ?_
  intro s hs
  subst hs
  refine ⟨rfl, fun p hp => ?_⟩
  obtain ⟨hcp, hany⟩ := Option.filter_eq_some_iff.mp hp
  cases hb : s.heap.payloads[p]? with
  | none =>
    rw [hb] at hany
    exact absurd hany (by simp)
  | some b =>
    rw [hb] at hany
    refine ⟨c, b, hc, hcp, hb, fun hm => ?_⟩
    rw [Option.any_some, hm] at hany
    exact absurd hany (by decide)

theorem readv_prepares (hctx : ContextOk l) (self : FileId) (buffersObj : Bool) (offset : Int)
    (nowait : Bool) (t : Option PyVal) :
    Prepares (.readv self buffersObj offset nowait t) l
      (UringioFile.readv self buffersObj offset nowait t env) := by
  unfold Prepares UringioFile.readv
  refine .bind (openFileMethod_spec self) fun fd => .given fun ⟨file, hobj, hc⟩ => ?_
  refine .bind (parseTimeout_spec (fun _ hs => refused_of_eq hs) t) fun r => .given fun ht => ?_
  refine .bind selectedPayload_spec fun x => .given fun hx => ?_
  have hrest : ∀ p, Triple (Holding l .none false VectorShape p)
      (do
        let future ← createFutureOrDrop p env
        return fileRequest self future p .oneshot .readv r (readvDispatcher fd p offset nowait))
      (fun req s => ∃ g, s = l.grow g ∧ Prepared (.readv self buffersObj offset nowait t) l g req)
      (fun _ s => Refused l s) := by
    intro p
    refine .bind (createFutureOrDrop_spec rfl rfl) fun f => .given fun hf => .pure ?_
    rintro s ⟨ps, rfl, huse⟩
    have hfd : OpCall.fd (.readv self buffersObj offset nowait t) l = some fd := hobj.bind_fd
    have hready := OpCall.ready_of_file (.readv self buffersObj offset nowait t) rfl rfl
      hobj fun _ => hc
    obtain ⟨b, hb, -⟩ := huse.get
    exact ⟨_, rfl, rfl, rfl, rfl, hf, rfl, rfl, rfl, rfl, .inl rfl, ⟨_, ht⟩, hready,
      .registered rfl rfl rfl huse,
      dispatch_plain (hfd ▸ readvDispatcher_spec hb fd offset nowait) (by simp [OpCall.opcode])⟩
  cases x with
  | some p =>
    refine .bind (m := ret p) (Q := fun p s => Holding l .none false VectorShape p s) ?_ hrest
    intro s hs
    subst hs
    exact ⟨[], s.grow_none.symm, .context rfl rfl (hx p rfl)⟩
  | none =>
    refine .bind (m := vectoredPayload buffersObj env) (from_self ?_) hrest
    refine (vectoredPayload_spec hctx rfl rfl rfl buffersObj).conseq (fun _ hs => hs) ?_
      fun _ _ hs => hs
    rintro p s ⟨ps, hs, huse⟩
    exact ⟨ps, hs, huse.notUser⟩

/-- `readv_raw`, `writev` and `writev_raw` from their payload on. -/
theorem vectored_prepares (call : OpCall) (self : FileId) {t : Option PyVal} {fd : Int}
    {r : TimeoutParams × Option PyErr} {op : List Iovec → Nat → COp}
    (hfile : call.onFile = some self) (hsock : call.onSocket = none)
    (hopen : call.newFiles = [] ∧ call.newSockets = [])
    (hreg : call.file l = some self ∧ call.socket l = none) (hflag : call.flag = none)
    (htime : call.timeoutArg = t) (ht : parseTimeoutParams t = .ok r)
    (hkeep : call.keepsPayload = false) (huser : call.userBuffers = true)
    (hshape : call.PayloadShape = VectorShape) (hop : call.opcode ≠ .read)
    (hobj : ∃ file, HasFd l self fd file ∧ file.closed = false)
    (hfd : (l.files[self]?).bind UringioFile.fd = some fd → call.fd l = some fd)
    (hcall : ∀ iovecs n, (op iovecs n).fd = some fd ∧ (op iovecs n).bufIndex = none)
    (p : PayloadId) :
    Triple (Holding l .none true VectorShape p)
      (do
        let future ← createFutureOrDrop p env
        return fileRequest self future p .oneshot call.opcode r (vectoredCall p op))
      (fun req s => ∃ g, s = l.grow g ∧ Prepared call l g req) (fun _ s => Refused l s) := by
  refine .bind (createFutureOrDrop_spec rfl rfl) fun f => .given fun hf => .pure ?_
  rintro s ⟨ps, rfl, huse⟩
  obtain ⟨file, hobj, hc⟩ := hobj
  obtain ⟨b, hb, -⟩ := huse.get
  have hcfd := hfd hobj.bind_fd
  exact ⟨_, rfl, rfl, hopen.1.symm, hopen.2.symm, hf, rfl, hreg.1.symm, hreg.2.symm, hflag.symm,
    .inl rfl, ⟨_, htime ▸ ht⟩, OpCall.ready_of_file call hfile hsock hobj fun _ => hc,
    .registered rfl rfl hkeep (huser ▸ hshape ▸ huse),
    dispatch_plain (hcfd ▸ vectoredCall_spec hb hcall) hop⟩

theorem readvRaw_prepares (self : FileId) (iovecs : Except PyErr (List Iovec)) (offset : Int)
    (nowait : Bool) (t : Option PyVal) :
    Prepares (.readvRaw self iovecs offset nowait t) l
      (UringioFile.readvRaw self iovecs offset nowait t env) := by
  unfold Prepares UringioFile.readvRaw
  refine .bind (openFileMethod_spec self) fun fd => .given fun hobj => ?_
  refine .bind (parseTimeout_spec (fun _ hs => refused_of_eq hs) t) fun r => .given fun ht => ?_
  cases iovecs with
  | error e => exact .fail fun _ hs => refused_of_eq hs
  | ok iovecs =>
    refine .bind (from_self (pybufferPayload_spec rfl rfl rfl iovecs)) fun p => ?_
    exact vectored_prepares (.readvRaw self (.ok iovecs) offset nowait t) self rfl rfl
      ⟨rfl, rfl⟩ ⟨rfl, rfl⟩ rfl rfl ht rfl rfl rfl (by simp [OpCall.opcode]) hobj id
      (fun _ _ => ⟨rfl, rfl⟩) p

theorem writev_prepares (hctx : ContextOk l) (self : FileId) (flags offset : Int)
    (t : Option PyVal) :
    Prepares (.writev self flags offset t) l (UringioFile.writev self flags offset t env) := by
  unfold Prepares UringioFile.writev
  refine .bind (openFileMethod_spec self) fun fd => .given fun hobj => ?_
  refine .bind (parseTimeout_spec (fun _ hs => refused_of_eq hs) t) fun r => .given fun ht => ?_
  refine .bind (from_self (vectoredPayload_spec hctx rfl rfl rfl true)) fun p => ?_
  exact vectored_prepares (.writev self flags offset t) self rfl rfl
    ⟨rfl, rfl⟩ ⟨rfl, rfl⟩ rfl rfl ht rfl rfl rfl (by simp [OpCall.opcode]) hobj id
    (fun _ _ => ⟨rfl, rfl⟩) p

theorem writevRaw_prepares (self : FileId) (iovecs : Except PyErr (List Iovec))
    (flags offset : Int) (t : Option PyVal) :
    Prepares (.writevRaw self iovecs flags offset t) l
      (UringioFile.writevRaw self iovecs flags offset t env) := by
  unfold Prepares UringioFile.writevRaw
  refine .bind (openFileMethod_spec self) fun fd => .given fun hobj => ?_
  refine .bind (parseTimeout_spec (fun _ hs => refused_of_eq hs) t) fun r => .given fun ht => ?_
  cases iovecs with
  | error e => exact .fail fun _ hs => refused_of_eq hs
  | ok iovecs =>
    refine .bind (from_self (pybufferPayload_spec rfl rfl rfl iovecs)) fun p => ?_
    exact vectored_prepares (.writevRaw self (.ok iovecs) flags offset t) self rfl rfl
      ⟨rfl, rfl⟩ ⟨rfl, rfl⟩ rfl rfl ht rfl rfl rfl (by simp [OpCall.opcode]) hobj id
      (fun _ _ => ⟨rfl, rfl⟩) p

theorem write_prepares (self : FileId) (offset : Int) (t : Option PyVal) :
    Prepares (.write self offset t) l (UringioFile.write self offset t env) := by
  unfold Prepares UringioFile.write
  refine .bind (openFileMethod_spec self) fun fd => .given fun ⟨file, hobj, hc⟩ => ?_
  refine .bind (parseTimeout_spec (fun _ hs => refused_of_eq hs) t) fun r => .given fun ht => ?_
  refine .bind (from_self (createFuture_spec rfl rfl rfl)) fun f => .given fun hf => ?_
  refine .bind (dataPayload_spec rfl rfl rfl) fun p => .pure ?_
  rintro s ⟨ps, rfl, huse⟩
  have hfd : OpCall.fd (.write self offset t) l = some fd := hobj.bind_fd
  have hready := OpCall.ready_of_file (.write self offset t) rfl rfl hobj fun _ => hc
  obtain ⟨b, hb, ho⟩ := huse.get_own
  have hm : b.mode ≠ .fixed := by simp [ho.mode]
  exact ⟨_, rfl, rfl, rfl, rfl, hf, rfl, rfl, rfl, rfl, .inl rfl, ⟨_, ht⟩, hready,
    .registered rfl rfl rfl huse,
    dispatch_plain (hfd ▸ writeDispatcher_spec hb hm fd offset) (by simp [OpCall.opcode])⟩

/-! ## Sockets -/

theorem prepSocket_prepares (domain socktype : Int) (t : Option PyVal) :
    Prepares (.prepSocket domain socktype t) l (uringioPrepSocket domain socktype t env) := by
  unfold Prepares uringioPrepSocket
  have hr : ∀ s, s = l → Refused l s := fun _ hs => refused_of_eq hs
  refine .bind (assertLoopIsUringio_spec hr) fun _ => ?_
  refine .bind (assertLoopThread_spec hr) fun _ => ?_
  refine .bind (assertRingLoopIsClosing_spec hr) fun _ => ?_
  refine .bind (check_spec hr) fun _ => .given fun _ => ?_
  refine .bind (parseArgs_spec hr) fun _ => ?_
  refine .bind (parseTimeout_spec hr t) fun r => .given fun ht => ?_
  refine .bind (from_self (createFuture_spec rfl rfl rfl)) fun f => .given fun hf => ?_
  refine .bind (Q := fun n s => s = l.grow ⟨1, [], [], [⟨none, domain, none, false⟩]⟩ ∧
    n = l.sockets.length) (.change ?_) fun n => .given fun hn => .pure fun s hs => ⟨_, hs, ?_⟩
  · intro s hs
    subst hs
    simp [Loop.grow, Grown.none]
  · exact ⟨rfl, rfl, rfl, hf, rfl, rfl, congrArg some hn, rfl, .inl rfl, ⟨_, ht⟩,
      OpCall.ready_of_none _ rfl rfl, .none rfl rfl rfl fun _ => id,
      dispatch_plain (plain_of_const rfl) (by simp [OpCall.opcode])⟩

theorem socketAexit_prepares (self : SocketId) :
    Prepares (.socketAexit self) l (UringioSocket.aexit self env) := by
  unfold Prepares UringioSocket.aexit
  refine .bind (selfSocket_spec self) fun r => .given fun hobj => ?_
  refine .bind (parseArgs_spec fun _ hs => refused_of_eq hs) fun _ => ?_
  refine .bind (from_self (createFuture_spec rfl rfl rfl)) fun f => .given fun hf => .pure ?_
  have hfd : OpCall.fd (.socketAexit self) l = some r.2 := hobj.bind_fd
  have hready := OpCall.ready_of_socket (.socketAexit self) rfl rfl hobj
    (by simp [OpCall.isAexit])
  exact fun s hs => ⟨_, hs, rfl, rfl, rfl, hf, rfl, rfl, rfl, rfl, .inl rfl, ⟨_, rfl⟩, hready,
    .none rfl rfl rfl fun _ => id,
    dispatch_plain (hfd ▸ plain_of_const rfl) (by simp [OpCall.opcode])⟩

/-- `bind` and `connect`. -/
theorem addressedOperation_prepares (self : SocketId) (op : Int → SockAddr → Nat → COp)
    (host : HostArg) (port : Int) (t : Option PyVal)
    (hfile : call.onFile = none) (hsock : call.onSocket = some self)
    (hopen : call.newFiles = [] ∧ call.newSockets = [])
    (hreg : call.file l = none ∧ call.socket l = some self) (hflag : call.flag = none)
    (htime : call.timeoutArg = t) (hshape : ∀ b, ¬ call.PayloadShape b) (hop : call.opcode ≠ .read)
    (hfd : call.fd l = (l.sockets[self]?).bind UringioSocket.sockFd)
    (hcall : ∀ fd addr n, (op fd addr n).fd = some fd ∧ (op fd addr n).bufIndex = none) :
    Prepares call l (addressedOperation self call.opcode op host port t env) := by
  unfold Prepares addressedOperation
  refine .bind (openSocketMethod_spec self) fun r => .given fun ⟨hobj, hc⟩ => ?_
  refine .bind (parseTimeout_spec (fun _ hs => refused_of_eq hs) t) fun tm => .given fun ht => ?_
  refine .bind (serializeAddress_spec (fun _ hs => refused_of_eq hs) host port r.1.domain)
    fun a => ?_
  refine .bind (from_self (createFuture_spec rfl rfl rfl)) fun f => .given fun hf => .pure ?_
  have hplain := hcall r.2 a.1 (getSocketSize r.1.domain)
  exact fun s hs => ⟨_, hs, rfl, hopen.1.symm, hopen.2.symm, hf, rfl, hreg.1.symm, hreg.2.symm,
    hflag.symm, .inl rfl, ⟨_, htime ▸ ht⟩, OpCall.ready_of_socket call hfile hsock hobj fun _ => hc,
    .none rfl rfl rfl hshape,
    dispatch_plain ((hfd.trans hobj.bind_fd) ▸ hplain.1 ▸ plain_of_const hplain.2) hop⟩

theorem bind_prepares (self : SocketId) (host : List Nat) (parsed : Bool) (port : Int)
    (t : Option PyVal) :
    Prepares (.bind self host parsed port t) l (UringioSocket.bind self host parsed port t env) :=
  addressedOperation_prepares self .bind _ port t rfl rfl
    ⟨rfl, rfl⟩ ⟨rfl, rfl⟩ rfl rfl (fun _ => id) (by simp [OpCall.opcode]) rfl
    fun _ _ _ => ⟨rfl, rfl⟩

theorem connect_prepares (self : SocketId) (host : List Nat) (parsed : Bool) (port : Int)
    (t : Option PyVal) :
    Prepares (.connect self host parsed port t) l
      (UringioSocket.connect self host parsed port t env) :=
  addressedOperation_prepares self .connect _ port t
    rfl rfl ⟨rfl, rfl⟩ ⟨rfl, rfl⟩ rfl rfl (fun _ => id) (by simp [OpCall.opcode]) rfl
    fun _ _ _ => ⟨rfl, rfl⟩

theorem listen_prepares (self : SocketId) (backlog : Int) (t : Option PyVal) :
    Prepares (.listen self backlog t) l (UringioSocket.listen self backlog t env) := by
  unfold Prepares UringioSocket.listen
  refine .bind (openSocketMethod_spec self) fun r => .given fun ⟨hobj, hc⟩ => ?_
  refine .bind (parseTimeout_spec (fun _ hs => refused_of_eq hs) t) fun tm => .given fun ht => ?_
  refine .bind (from_self (createFuture_spec rfl rfl rfl)) fun f => .given fun hf => .pure ?_
  have hfd : OpCall.fd (.listen self backlog t) l = some r.2 := hobj.bind_fd
  have hready := OpCall.ready_of_socket (.listen self backlog t) rfl rfl hobj fun _ => hc
  exact fun s hs => ⟨_, hs, rfl, rfl, rfl, hf, rfl, rfl, rfl, rfl, .inl rfl, ⟨_, ht⟩, hready,
    .none rfl rfl rfl fun _ => id,
    dispatch_plain (hfd ▸ plain_of_const rfl) (by simp [OpCall.opcode])⟩

theorem accept_prepares (self : SocketId) (t : Option PyVal) :
    Prepares (.accept self t) l (UringioSocket.accept self t env) := by
  unfold Prepares UringioSocket.accept
  refine .bind (openSocketMethod_spec self) fun r => .given fun ⟨hobj, hc⟩ => ?_
  refine .bind (parseTimeout_spec (fun _ hs => refused_of_eq hs) t) fun tm => .given fun ht => ?_
  refine .bind (from_self (createFuture_spec rfl rfl rfl)) fun f => .given fun hf => ?_
  cases env.msghdr with
  | none => exact .fail fun s hs => hs ▸ refused_grow rfl rfl rfl
  | some addrlen =>
    refine .bind (getContext_spec (l := l) fun _ hs => hs ▸ rfl) fun c => .given fun hctx => .pure ?_
    have hfd : OpCall.fd (.accept self t) l = some r.2 := hobj.bind_fd
    have hready := OpCall.ready_of_socket (.accept self t) rfl rfl hobj fun _ => hc
    exact fun s hs => ⟨_, hs, rfl, rfl, rfl, hf, rfl, rfl, rfl, rfl, .inr ⟨rfl, c, hctx, rfl⟩, ⟨_, ht⟩,
      hready, .none rfl rfl rfl fun _ => id,
      dispatch_plain (hfd ▸ acceptDispatcher_spec r.2 c.stream env.block) (by simp [OpCall.opcode])⟩

theorem socketClose_prepares (self : SocketId) (t : Option PyVal) :
    Prepares (.socketClose self t) l (UringioSocket.close self t env) := by
  unfold Prepares UringioSocket.close
  refine .bind (openSocketMethod_spec self) fun r => .given fun ⟨hobj, hc⟩ => ?_
  refine .bind (parseTimeout_spec (fun _ hs => refused_of_eq hs) t) fun tm => .given fun ht => ?_
  refine .bind (from_self (createFuture_spec rfl rfl rfl)) fun f => .given fun hf => .pure ?_
  have hfd : OpCall.fd (.socketClose self t) l = some r.2 := hobj.bind_fd
  have hready := OpCall.ready_of_socket (.socketClose self t) rfl rfl hobj fun _ => hc
  exact fun s hs => ⟨_, hs, rfl, rfl, rfl, hf, rfl, rfl, rfl, rfl, .inl rfl, ⟨_, ht⟩, hready,
    .none rfl rfl rfl fun _ => id,
    dispatch_plain (hfd ▸ plain_of_const rfl) (by simp [OpCall.opcode])⟩

/-- The context can be read while the operation holds a payload. -/
theorem holding_context {user : Bool} {shape : BufferPayload → Prop} {p : PayloadId} {s : Loop}
    (h : Holding l g user shape p s) : s.context = l.context := by
  obtain ⟨ps, rfl, -⟩ := h
  rfl

theorem send_prepares (self : SocketId) (isPollFirst : Bool) (t : Option PyVal) :
    Prepares (.send self isPollFirst t) l (UringioSocket.send self isPollFirst t env) := by
  unfold Prepares UringioSocket.send
  refine .bind (openSocketMethod_spec self) fun r => .given fun ⟨hobj, hc⟩ => ?_
  refine .bind (parseTimeout_spec (fun _ hs => refused_of_eq hs) t) fun tm => .given fun ht => ?_
  refine .bind (from_self (dataPayload_spec rfl rfl rfl)) fun p => ?_
  refine .bind (getContext_spec (l := l) fun _ hs => holding_context hs) fun c => .given fun _ => ?_
  refine .bind (createFutureOrDrop_spec rfl rfl) fun f => .given fun hf => .pure ?_
  rintro s ⟨ps, rfl, huse⟩
  have hfd : OpCall.fd (.send self isPollFirst t) l = some r.2 := hobj.bind_fd
  have hready := OpCall.ready_of_socket (.send self isPollFirst t) rfl rfl hobj fun _ => hc
  obtain ⟨b, hb, ho⟩ := huse.get_own
  have hm : b.mode ≠ .fixed := by simp [ho.mode]
  exact ⟨_, rfl, rfl, rfl, rfl, hf, rfl, rfl, rfl, rfl, .inl rfl, ⟨_, ht⟩, hready,
    .registered rfl rfl rfl huse,
    dispatch_plain (hfd ▸ sendDispatcher_spec hb hm r.2 c.transferMode isPollFirst)
      (by simp [OpCall.opcode])⟩

theorem recv_prepares (hctx : ContextOk l) (self : SocketId) (bufsize : Int)
    (bufferObj isPollFirst : Bool) (t : Option PyVal) :
    Prepares (.recv self bufsize bufferObj isPollFirst t) l
      (UringioSocket.recv self bufsize bufferObj isPollFirst t env) := by
  unfold Prepares UringioSocket.recv
  refine .bind (openSocketMethod_spec self) fun r => .given fun ⟨hobj, hc⟩ => ?_
  refine .bind (parseTimeout_spec (fun _ hs => refused_of_eq hs) t) fun tm => .given fun ht => ?_
  refine .bind (from_self (linearPayload_spec hctx rfl rfl rfl bufferObj bufsize)) fun p => ?_
  refine .bind (getContext_spec (l := l) fun _ hs => holding_context hs) fun c => .given fun hcx => ?_
  refine .bind (createFutureOrDrop_spec rfl rfl) fun f => .given fun hf => .pure ?_
  rintro s ⟨ps, rfl, huse⟩
  have hfd : OpCall.fd (.recv self bufsize bufferObj isPollFirst t) l = some r.2 := hobj.bind_fd
  have hready := OpCall.ready_of_socket (.recv self bufsize bufferObj isPollFirst t)
    rfl rfl hobj fun _ => hc
  obtain ⟨b, hb, -⟩ := huse.get
  exact ⟨_, rfl, rfl, rfl, rfl, hf, rfl, rfl, rfl, rfl, .inr ⟨rfl, c, hcx, rfl⟩, ⟨_, ht⟩, hready,
    .registered rfl rfl rfl (huse.mono fun _ => LinearShape.any),
    dispatch_plain (hfd ▸ recvDispatcher_spec hb r.2 c.stream isPollFirst)
      (by simp [OpCall.opcode])⟩

theorem sendto_prepares (self : SocketId) (host : List Nat) (parsed : Bool) (port domain : Int)
    (isPollFirst : Bool) (t : Option PyVal) :
    Prepares (.sendto self host parsed port domain isPollFirst t) l
      (UringioSocket.sendto self host parsed port domain isPollFirst t env) := by
  unfold Prepares UringioSocket.sendto
  refine .bind (openSocketMethod_spec self) fun r => .given fun ⟨hobj, hc⟩ => ?_
  refine .bind (parseTimeout_spec (fun _ hs => refused_of_eq hs) t) fun tm => .given fun ht => ?_
  refine .bind (serializeAddress_spec (fun _ hs => refused_of_eq hs) _ port domain) fun a => ?_
  refine .bind (from_self (dataPayload_spec rfl rfl rfl)) fun p => ?_
  refine .bind (createFutureOrDrop_spec rfl rfl) fun f => .given fun hf => .pure ?_
  rintro s ⟨ps, rfl, huse⟩
  have hfd : OpCall.fd (.sendto self host parsed port domain isPollFirst t) l = some r.2 :=
    hobj.bind_fd
  have hready := OpCall.ready_of_socket (.sendto self host parsed port domain isPollFirst t) rfl rfl hobj fun _ => hc
  obtain ⟨b, hb, -⟩ := huse.get
  exact ⟨_, rfl, rfl, rfl, rfl, hf, rfl, rfl, rfl, rfl, .inl rfl, ⟨_, ht⟩, hready,
    .kept rfl rfl rfl huse,
    dispatch_plain (hfd ▸ linearCall_spec hb (f := fun buf len =>
      .sendto r.2 buf len a.1 (getSocketSize domain) isPollFirst) fun _ _ => ⟨rfl, rfl⟩)
      (by simp [OpCall.opcode])⟩

theorem recvfrom_prepares (hctx : ContextOk l) (self : SocketId) (bufsize : Int)
    (bufferObj : Bool) (address : Option (HostArg × Int × Int)) (isPollFirst : Bool)
    (t : Option PyVal) :
    Prepares (.recvfrom self bufsize bufferObj address isPollFirst t) l
      (UringioSocket.recvfrom self bufsize bufferObj address isPollFirst t env) := by
  unfold Prepares UringioSocket.recvfrom
  refine .bind (openSocketMethod_spec self) fun r => .given fun ⟨hobj, hc⟩ => ?_
  refine .bind (parseTimeout_spec (fun _ hs => refused_of_eq hs) t) fun tm => .given fun ht => ?_
  cases address with
  | none => exact .stop
  | some address =>
    refine .bind (serializeAddress_spec (fun _ hs => refused_of_eq hs) _ _ _) fun a => ?_
    refine .bind (from_self (linearPayload_spec hctx rfl rfl rfl bufferObj bufsize)) fun p => ?_
    cases env.msghdr with
    | none => exact .bind (dropPayload_spec rfl rfl) fun _ => .fail fun _ hs => hs
    | some msg =>
      refine .bind (createFutureOrDrop_spec rfl rfl) fun f => .given fun hf => .pure ?_
      rintro s ⟨ps, rfl, huse⟩
      have hfd : OpCall.fd (.recvfrom self bufsize bufferObj (some address) isPollFirst t) l =
          some r.2 := hobj.bind_fd
      have hready := OpCall.ready_of_socket (.recvfrom self bufsize bufferObj (some address) isPollFirst t) rfl rfl hobj
        fun _ => hc
      obtain ⟨b, hb, -⟩ := huse.get
      exact ⟨_, rfl, rfl, rfl, rfl, hf, rfl, rfl, rfl, rfl, .inl rfl, ⟨_, ht⟩, hready,
        .registered rfl rfl rfl (huse.mono fun _ => LinearShape.any),
        dispatch_plain (hfd ▸ linearCall_spec hb (f := fun buf len =>
          .recvfrom r.2 buf len a.1 (getSocketSize address.2.2) isPollFirst) fun _ _ => ⟨rfl, rfl⟩)
          (by simp [OpCall.opcode])⟩

theorem sendmsgTarget_spec (address : Option (HostArg × Int × Int)) :
    Triple (fun s => s = l) (sendmsgTarget address env) (fun _ s => s = l)
      (fun _ s => Refused l s) := by
  unfold sendmsgTarget
  cases address with
  | none => exact fun _ hs => hs
  | some address =>
    refine .bind (serializeAddress_spec (fun _ hs => refused_of_eq hs) _ _ _) fun a => ?_
    exact .pure fun _ hs => hs

theorem sendmsg_prepares (hctx : ContextOk l) (self : SocketId)
    (address : Option (HostArg × Int × Int)) (isPollFirst : Bool) (t : Option PyVal) :
    Prepares (.sendmsg self address isPollFirst t) l
      (UringioSocket.sendmsg self address isPollFirst t env) := by
  unfold Prepares UringioSocket.sendmsg
  refine .bind (openSocketMethod_spec self) fun r => .given fun ⟨hobj, hc⟩ => ?_
  refine .bind (parseTimeout_spec (fun _ hs => refused_of_eq hs) t) fun tm => .given fun ht => ?_
  refine .bind (sendmsgTarget_spec address) fun a => ?_
  refine .bind (from_self (vectoredPayload_spec hctx rfl rfl rfl true)) fun p => ?_
  refine .bind (getContext_spec (l := l) fun _ hs => holding_context hs) fun c => .given fun _ => ?_
  refine .bind (createFutureOrDrop_spec rfl rfl) fun f => .given fun hf => .pure ?_
  rintro s ⟨ps, rfl, huse⟩
  have hfd : OpCall.fd (.sendmsg self address isPollFirst t) l = some r.2 := hobj.bind_fd
  have hready := OpCall.ready_of_socket (.sendmsg self address isPollFirst t) rfl rfl hobj
    fun _ => hc
  obtain ⟨b, hb, ho⟩ := huse.get_own
  exact ⟨_, rfl, rfl, rfl, rfl, hf, rfl, rfl, rfl, rfl, .inl rfl, ⟨_, ht⟩, hready,
    .registered rfl rfl rfl huse,
    dispatch_plain (hfd ▸ sendmsgDispatcher_spec hb ho.idxRegistry r.2 c.transferMode a.1 a.2.1
      isPollFirst) (by simp [OpCall.opcode])⟩

theorem recvmsg_prepares (hctx : ContextOk l) (self : SocketId) (buffersObj isPollFirst : Bool)
    (t : Option PyVal) :
    Prepares (.recvmsg self buffersObj isPollFirst t) l
      (UringioSocket.recvmsg self buffersObj isPollFirst t env) := by
  unfold Prepares UringioSocket.recvmsg
  refine .bind (openSocketMethod_spec self) fun r => .given fun ⟨hobj, hc⟩ => ?_
  refine .bind (parseTimeout_spec (fun _ hs => refused_of_eq hs) t) fun tm => .given fun ht => ?_
  cases buffersObj with
  | false => exact .stop
  | true =>
    refine .bind (from_self (vectoredPayload_spec hctx rfl rfl rfl true)) fun p => ?_
    refine .bind (getContext_spec (l := l) fun _ hs => holding_context hs) fun c =>
      .given fun hcx => ?_
    refine .bind (createFutureOrDrop_spec rfl rfl) fun f => .given fun hf => .pure ?_
    rintro s ⟨ps, rfl, huse⟩
    have hfd : OpCall.fd (.recvmsg self true isPollFirst t) l = some r.2 := hobj.bind_fd
    have hready := OpCall.ready_of_socket (.recvmsg self true isPollFirst t) rfl rfl hobj
      fun _ => hc
    obtain ⟨b, hb, -⟩ := huse.get
    exact ⟨_, rfl, rfl, rfl, rfl, hf, rfl, rfl, rfl, rfl, .inr ⟨rfl, c, hcx, rfl⟩, ⟨_, ht⟩, hready,
      .registered rfl rfl rfl huse,
      dispatch_plain (hfd ▸ recvmsgDispatcher_spec hb r.2 c.stream isPollFirst env.msghdr)
        (by simp [OpCall.opcode])⟩

/-! ## The timer -/

theorem parseTimer_spec (obj : Option PyVal) (stream : StreamStrategy) :
    Triple (fun s => s = l) (parseTimer obj stream) (fun _ s => s = l)
      (fun _ s => Refused l s) := by
  unfold parseTimer
  split
  · exact fun _ hs => hs
  · exact fun _ hs => hs
  · split
    · exact fun _ hs => hs
    · exact .fail fun _ hs => refused_of_eq hs

theorem timer_prepares (timerParams : Option PyVal) :
    Prepares (.timer timerParams) l (uringioLoopTimer timerParams env) := by
  unfold Prepares uringioLoopTimer
  have hr : ∀ s, s = l → Refused l s := fun _ hs => refused_of_eq hs
  refine .bind (parseArgs_spec hr) fun _ => ?_
  refine .bind (assertLoopThread_spec hr) fun _ => ?_
  refine .bind (assertRingLoopIsClosing_spec hr) fun _ => ?_
  refine .bind (getContext_spec (l := l) fun _ hs => hs ▸ rfl) fun c => .given fun _ => ?_
  refine .bind (parseTimer_spec timerParams c.stream) fun r => ?_
  refine .bind (from_self (createFuture_spec rfl rfl rfl)) fun f => .given fun hf => .pure ?_
  exact fun s hs => ⟨_, hs, rfl, rfl, rfl, hf, rfl, rfl, rfl, rfl, .inl rfl, ⟨_, rfl⟩,
    OpCall.ready_of_none _ rfl rfl, .none rfl rfl rfl fun _ => id,
    dispatch_plain (plain_of_const rfl) (by simp [OpCall.opcode])⟩

/-! ## All operations -/

theorem OpCall.prepare_spec (hctx : ContextOk l) (call : OpCall) (env : CallEnv) :
    Prepares call l (call.prepare env) := by
  cases call with
  | «open» dfd path flags resolve mode t => exact open_prepares dfd path flags resolve mode t
  | fileAexit self => exact fileAexit_prepares self
  | fileClose self t => exact fileClose_prepares self t
  | read self offset size t => exact read_prepares hctx self offset size t
  | readv self buffersObj offset nowait t => exact readv_prepares hctx self buffersObj offset nowait t
  | readvRaw self iovecs offset nowait t => exact readvRaw_prepares self iovecs offset nowait t
  | write self offset t => exact write_prepares self offset t
  | writev self flags offset t => exact writev_prepares hctx self flags offset t
  | writevRaw self iovecs flags offset t => exact writevRaw_prepares self iovecs flags offset t
  | fsync self t => exact fsync_prepares self t
  | fdatasync self t => exact fdatasync_prepares self t
  | splice self src dst count offsetSrc offsetDst flag t =>
    exact splice_prepares self src dst count offsetSrc offsetDst flag t
  | prepSocket domain socktype t => exact prepSocket_prepares domain socktype t
  | socketAexit self => exact socketAexit_prepares self
  | bind self host parsed port t => exact bind_prepares self host parsed port t
  | connect self host parsed port t => exact connect_prepares self host parsed port t
  | listen self backlog t => exact listen_prepares self backlog t
  | accept self t => exact accept_prepares self t
  | socketClose self t => exact socketClose_prepares self t
  | send self isPollFirst t => exact send_prepares self isPollFirst t
  | recv self bufsize bufferObj isPollFirst t =>
    exact recv_prepares hctx self bufsize bufferObj isPollFirst t
  | sendto self host parsed port domain isPollFirst t =>
    exact sendto_prepares self host parsed port domain isPollFirst t
  | recvfrom self bufsize bufferObj address isPollFirst t =>
    exact recvfrom_prepares hctx self bufsize bufferObj address isPollFirst t
  | sendmsg self address isPollFirst t => exact sendmsg_prepares hctx self address isPollFirst t
  | recvmsg self buffersObj isPollFirst t =>
    exact recvmsg_prepares hctx self buffersObj isPollFirst t
  | timer timerParams => exact timer_prepares timerParams

end Methods

end Uringio
