/-
  What a call of an operation does to the registry.

  Up to the submission no operation touches it (`OpCall.prepare_names`). The submission adds
  one slot, and takes it out again on a result below 1. `registry_add` pops an index and
  leaves it in the array, so that `registry_remove` writes the same index back to the same
  place: the stack is restored whatever it holds (`remove_registryAdd`).
-/
import Uringio.PyOps.Run
import Uringio.Loop.Init

namespace Uringio

open Lib Program

/-! ## Before the submission -/

/-- The registry and the objects are those of `l`. -/
structure Since (l s : Loop) : Prop where
  registry : s.registry = l.registry
  files : s.files = l.files
  sockets : s.sockets = l.sockets

theorem Since.refl (l : Loop) : Since l l := ⟨rfl, rfl, rfl⟩

/-- The registration has the opcode and the object of the operation. -/
structure Registration.Names (reg : Registration) (call : OpCall) (l : Loop) : Prop where
  opcode : reg.opcode = call.opcode
  file : reg.file = call.file l
  socket : reg.socket = call.socket l

/-- The operation leaves the registry alone, and registers its own opcode and object. -/
def Registers (call : OpCall) (l : Loop) (program : PyProgram Request) : Prop :=
  Triple (Since l) program
    (fun req s => s.registry = l.registry ∧ req.registration.Names call l)
    (fun _ s => s.registry = l.registry)

section Steps

variable {l : Loop} {env : CallEnv} {call : OpCall}

/-- A step that keeps the registry and the objects, and then the rest of the operation. -/
theorem Registers.step {α : Type} {m : PyProgram α} {f : α → PyProgram Request}
    (hm : Keeps (Since l) m) (hf : ∀ a, Registers call l (f a)) : Registers call l (m >>= f) :=
  Triple.bind (hm.conseq (fun _ hs => hs) (fun _ _ hs => hs) fun _ _ hs => hs.registry) hf

theorem Registers.pure {req : Request} (h : req.registration.Names call l) :
    Registers call l (Pure.pure req) :=
  fun _ hs => ⟨hs.registry, h⟩

theorem Registers.fail (x : Option PyErr) : Registers call l (Program.fail x) :=
  fun _ hs => hs.registry

theorem assertLoopThread_since : Keeps (Since l) (assertLoopThread env) := .check _

theorem assertRingLoopIsClosing_since : Keeps (Since l) (assertRingLoopIsClosing env) :=
  .bind (.look _) fun _ => .check _

theorem parseArgs_since : Keeps (Since l) (parseArgs env) := .check _

theorem parseTimeout_since (obj : Option PyVal) : Keeps (Since l) (parseTimeout obj) := by
  unfold parseTimeout
  split
  · exact .fail _
  · exact .ret _

theorem createFuture_since : Keeps (Since l) (createFuture env) :=
  .bind (.check _) fun _ => .change fun _ hs => ⟨hs.registry, hs.files, hs.sockets⟩

theorem getContext_since : Keeps (Since l) getContext := by
  refine .bind (.look _) fun c => ?_
  split
  · exact .pure _
  · exact .stop _

theorem selfFile_since (self : FileId) : Keeps (Since l) (selfFile self) := by
  refine .bind (.look _) fun file => ?_
  split
  · exact .pure _
  · exact .stop _

theorem selfSocket_since (self : SocketId) : Keeps (Since l) (selfSocket self) := by
  refine .bind (.look _) fun sock => ?_
  split
  · exact .pure _
  · exact .stop _

theorem openFileMethod_since (self : FileId) : Keeps (Since l) (openFileMethod self env) := by
  unfold openFileMethod
  refine .bind (selfFile_since self) fun r => .bind assertLoopThread_since fun _ => ?_
  refine .bind assertRingLoopIsClosing_since fun _ => .bind (.check _) fun _ => ?_
  exact .bind parseArgs_since fun _ => .pure _

theorem openSocketMethod_since (self : SocketId) :
    Keeps (Since l) (openSocketMethod self env) := by
  unfold openSocketMethod
  refine .bind (selfSocket_since self) fun r => .bind assertLoopThread_since fun _ => ?_
  refine .bind assertRingLoopIsClosing_since fun _ => .bind (.check _) fun _ => ?_
  exact .bind parseArgs_since fun _ => .pure _

theorem dropPayload_since (payload : Option PayloadId) : Keeps (Since l) (dropPayload payload) :=
  .change fun _ hs => ⟨hs.registry, hs.files, hs.sockets⟩

theorem createFutureOrDrop_since (payload : Option PayloadId) :
    Keeps (Since l) (createFutureOrDrop payload env) := by
  unfold createFutureOrDrop
  split
  · exact createFuture_since
  · exact .bind (dropPayload_since payload) fun _ => .fail _

theorem orFail_since (payload : Option PayloadId) (e : Option PyErr) :
    Keeps (Since l) (orFail payload e) := by
  unfold orFail
  split
  · exact .ret _
  · exact .fail _

theorem linearPayload_since (buffersObj : Bool) (bufsize : Int) :
    Keeps (Since l) (linearPayload buffersObj bufsize env) := by
  refine .bind getContext_since fun c => .bind (fun s hs => ?_) fun _ => orFail_since _ _
  cases he : getOrCreateLinearBuffer s.heap c.bufferPayload buffersObj bufsize env.buffers with
  | error e => simp only
  | ok r =>
    simp only
    exact ⟨hs.registry, hs.files, hs.sockets⟩

theorem vectoredPayload_since (buffersObj : Bool) :
    Keeps (Since l) (vectoredPayload buffersObj env) := by
  refine .bind getContext_since fun c => .bind (.change fun s hs => ?_) fun _ => orFail_since _ _
  exact ⟨hs.registry, hs.files, hs.sockets⟩

theorem selectedPayload_since : Keeps (Since l) selectedPayload :=
  .bind getContext_since fun _ => .look _

theorem dataPayload_since : Keeps (Since l) (dataPayload env) :=
  .bind (.change fun _ hs => ⟨hs.registry, hs.files, hs.sockets⟩) fun _ => orFail_since _ _

theorem pybufferPayload_since (iovecs : List Iovec) :
    Keeps (Since l) (pybufferPayload iovecs env) :=
  .bind (.change fun _ hs => ⟨hs.registry, hs.files, hs.sockets⟩) fun _ => orFail_since _ _

theorem serializeAddress_since (host : HostArg) (port domain : Int) :
    Keeps (Since l) (serializeAddress host port domain env) := by
  unfold serializeAddress
  split
  · exact .fail _
  · split
    · split
      · exact .fail _
      · exact .ret _
      · exact .ret _
    · split
      · split
        · exact .fail _
        · exact .ret _
        · exact .ret _
      · exact .fail _

theorem sendmsgTarget_since (address : Option (HostArg × Int × Int)) :
    Keeps (Since l) (sendmsgTarget address env) := by
  unfold sendmsgTarget
  split
  · exact .ret _
  · exact .bind (serializeAddress_since _ _ _) fun _ => .pure _

theorem parseTimer_since (obj : Option PyVal) (stream : StreamStrategy) :
    Keeps (Since l) (parseTimer obj stream) := by
  unfold parseTimer
  split
  · exact .ret _
  · exact .ret _
  · split
    · exact .ret _
    · exact .fail _

/-- What every method of an open File or Socket starts with. -/
theorem Registers.fileMethod {f : Int → TimeoutParams × Option PyErr → PyProgram Request}
    (self : FileId) (t : Option PyVal) (hf : ∀ fd r, Registers call l (f fd r)) :
    Registers call l (do
      let fd ← openFileMethod self env
      let r ← parseTimeout t
      f fd r) :=
  .step (openFileMethod_since self) fun fd => .step (parseTimeout_since t) fun r => hf fd r

theorem Registers.socketMethod
    {f : UringioSocket × Int → TimeoutParams × Option PyErr → PyProgram Request}
    (self : SocketId) (t : Option PyVal) (hf : ∀ s r, Registers call l (f s r)) :
    Registers call l (do
      let s ← openSocketMethod self env
      let r ← parseTimeout t
      f s r) :=
  .step (openSocketMethod_since self) fun s => .step (parseTimeout_since t) fun r => hf s r

/-- The methods of a File without a payload. -/
theorem fileOperation_registers (self : FileId) (op : Int → COp) (t : Option PyVal)
    (hfile : call.file l = some self) (hsocket : call.socket l = none) :
    Registers call l (fileOperation self call.opcode op t env) :=
  .fileMethod self t fun _ _ => .step createFuture_since fun _ =>
    .pure ⟨rfl, hfile.symm, hsocket.symm⟩

theorem addressedOperation_registers (self : SocketId) (op : Int → SockAddr → Nat → COp)
    (host : HostArg) (port : Int) (t : Option PyVal) (hfile : call.file l = none)
    (hsocket : call.socket l = some self) :
    Registers call l (addressedOperation self call.opcode op host port t env) :=
  .socketMethod self t fun _ _ => .step (serializeAddress_since _ _ _) fun _ =>
    .step createFuture_since fun _ => .pure ⟨rfl, hfile.symm, hsocket.symm⟩

theorem open_registers (dfd : Int) (path : Except PyErr String) (flags resolve mode : Int)
    (t : Option PyVal) :
    Registers (.open dfd path flags resolve mode t) l
      (uringioOpen dfd path flags resolve mode t env) := by
  unfold uringioOpen
  refine .step (.check _) fun _ => .step assertLoopThread_since fun _ => ?_
  refine .step assertRingLoopIsClosing_since fun _ => .step (.check _) fun _ => ?_
  refine .step parseArgs_since fun _ => ?_
  cases path with
  | error e => exact .fail _
  | ok path =>
    refine .step (parseTimeout_since t) fun r => .step createFuture_since fun f => ?_
    refine .bind (Q := fun n s => s.registry = l.registry ∧ n = l.files.length) (.change ?_)
      fun n => .pure ?_
    · intro s hs
      exact ⟨hs.registry, congrArg List.length hs.files⟩
    · rintro s ⟨hreg, hn⟩
      exact ⟨hreg, rfl, congrArg some hn, rfl⟩

theorem prepSocket_registers (domain socktype : Int) (t : Option PyVal) :
    Registers (.prepSocket domain socktype t) l (uringioPrepSocket domain socktype t env) := by
  unfold uringioPrepSocket
  refine .step (.check _) fun _ => .step assertLoopThread_since fun _ => ?_
  refine .step assertRingLoopIsClosing_since fun _ => .step (.check _) fun _ => ?_
  refine .step parseArgs_since fun _ => .step (parseTimeout_since t) fun r => ?_
  refine .step createFuture_since fun f => ?_
  refine .bind (Q := fun n s => s.registry = l.registry ∧ n = l.sockets.length) (.change ?_)
    fun n => .pure ?_
  · intro s hs
    exact ⟨hs.registry, congrArg List.length hs.sockets⟩
  · rintro s ⟨hreg, hn⟩
    exact ⟨hreg, rfl, rfl, congrArg some hn⟩

theorem readv_registers (self : FileId) (buffersObj : Bool) (offset : Int) (nowait : Bool)
    (t : Option PyVal) :
    Registers (.readv self buffersObj offset nowait t) l
      (UringioFile.readv self buffersObj offset nowait t env) := by
  refine .fileMethod self t fun fd r => .step selectedPayload_since fun selected => ?_
  cases selected with
  | some p =>
    exact .step (.ret p) fun p => .step (createFutureOrDrop_since p) fun _ => .pure ⟨rfl, rfl, rfl⟩
  | none =>
    exact .step (vectoredPayload_since _) fun p => .step (createFutureOrDrop_since p) fun _ =>
      .pure ⟨rfl, rfl, rfl⟩

/-- `readv_raw` and `writev_raw`: the iovecs are parsed from the buffer argument. -/
theorem rawOperation_registers (self : FileId) (iovecs : Except PyErr (List Iovec))
    (t : Option PyVal) {req : Int → TimeoutParams × Option PyErr → PayloadId → FutureId → Request}
    (h : ∀ fd r p f, (req fd r p f).registration.Names call l) :
    Registers call l (do
      let fd ← openFileMethod self env
      let r ← parseTimeout t
      match iovecs with
      | .error e => fail (some e)
      | .ok iovecs =>
        let payload ← pybufferPayload iovecs env
        let future ← createFutureOrDrop payload env
        return req fd r payload future) := by
  refine .fileMethod self t fun fd r => ?_
  cases iovecs with
  | error e => exact .fail _
  | ok iovecs =>
    exact .step (pybufferPayload_since iovecs) fun p => .step (createFutureOrDrop_since p) fun f =>
      .pure (h fd r p f)

theorem accept_registers (self : SocketId) (t : Option PyVal) :
    Registers (.accept self t) l (UringioSocket.accept self t env) := by
  refine .socketMethod self t fun s r => .step createFuture_since fun f => ?_
  cases env.msghdr with
  | none => exact .fail _
  | some addrlen => exact .step getContext_since fun c => .pure ⟨rfl, rfl, rfl⟩

theorem recvfrom_registers (self : SocketId) (bufsize : Int) (bufferObj : Bool)
    (address : Option (HostArg × Int × Int)) (isPollFirst : Bool) (t : Option PyVal) :
    Registers (.recvfrom self bufsize bufferObj address isPollFirst t) l
      (UringioSocket.recvfrom self bufsize bufferObj address isPollFirst t env) := by
  refine .socketMethod self t fun s r => ?_
  cases address with
  | none => exact fun _ _ => trivial
  | some a =>
    refine .step (serializeAddress_since _ _ _) fun x => .step (linearPayload_since _ _) fun p => ?_
    cases env.msghdr with
    | none => exact .step (dropPayload_since p) fun _ => .fail _
    | some msg => exact .step (createFutureOrDrop_since p) fun f => .pure ⟨rfl, rfl, rfl⟩

theorem recvmsg_registers (self : SocketId) (buffersObj isPollFirst : Bool) (t : Option PyVal) :
    Registers (.recvmsg self buffersObj isPollFirst t) l
      (UringioSocket.recvmsg self buffersObj isPollFirst t env) := by
  refine .socketMethod self t fun s r => ?_
  cases buffersObj with
  | false => exact fun _ _ => trivial
  | true =>
    exact .step (vectoredPayload_since true) fun p => .step getContext_since fun c =>
      .step (createFutureOrDrop_since p) fun f => .pure ⟨rfl, rfl, rfl⟩

/-- Up to its submission no operation touches the registry. -/
theorem OpCall.prepare_registers (call : OpCall) (l : Loop) (env : CallEnv) :
    Registers call l (call.prepare env) := by
  cases call with
  | «open» dfd path flags resolve mode t => exact open_registers dfd path flags resolve mode t
  | fileAexit self =>
    exact .step (selfFile_since self) fun _ => .step parseArgs_since fun _ =>
      .step createFuture_since fun _ => .pure ⟨rfl, rfl, rfl⟩
  | fileClose self t =>
    exact .fileMethod self t fun _ _ => .step createFuture_since fun _ => .pure ⟨rfl, rfl, rfl⟩
  | read self offset size t =>
    exact .fileMethod self t fun _ _ => .step createFuture_since fun _ =>
      .step (linearPayload_since false size) fun _ => .step getContext_since fun _ =>
        .pure ⟨rfl, rfl, rfl⟩
  | readv self buffersObj offset nowait t => exact readv_registers self buffersObj offset nowait t
  | readvRaw self iovecs offset nowait t =>
    exact rawOperation_registers self iovecs t fun _ _ _ _ => ⟨rfl, rfl, rfl⟩
  | write self offset t =>
    exact .fileMethod self t fun _ _ => .step createFuture_since fun _ =>
      .step dataPayload_since fun _ => .pure ⟨rfl, rfl, rfl⟩
  | writev self flags offset t =>
    exact .fileMethod self t fun _ _ => .step (vectoredPayload_since true) fun p =>
      .step (createFutureOrDrop_since p) fun _ => .pure ⟨rfl, rfl, rfl⟩
  | writevRaw self iovecs flags offset t =>
    exact rawOperation_registers self iovecs t fun _ _ _ _ => ⟨rfl, rfl, rfl⟩
  | fsync self t => exact fileOperation_registers self .fsync t rfl rfl
  | fdatasync self t => exact fileOperation_registers self .fdatasync t rfl rfl
  | splice self src dst count offsetSrc offsetDst flag t =>
    exact fileOperation_registers self _ t rfl rfl
  | prepSocket domain socktype t => exact prepSocket_registers domain socktype t
  | socketAexit self =>
    exact .step (selfSocket_since self) fun _ => .step parseArgs_since fun _ =>
      .step createFuture_since fun _ => .pure ⟨rfl, rfl, rfl⟩
  | bind self host parsed port t => exact addressedOperation_registers self _ _ port t rfl rfl
  | connect self host parsed port t => exact addressedOperation_registers self _ _ port t rfl rfl
  | listen self backlog t =>
    exact .socketMethod self t fun _ _ => .step createFuture_since fun _ => .pure ⟨rfl, rfl, rfl⟩
  | accept self t => exact accept_registers self t
  | socketClose self t =>
    exact .socketMethod self t fun _ _ => .step createFuture_since fun _ => .pure ⟨rfl, rfl, rfl⟩
  | send self isPollFirst t =>
    exact .socketMethod self t fun _ _ => .step dataPayload_since fun p =>
      .step getContext_since fun _ => .step (createFutureOrDrop_since p) fun _ =>
        .pure ⟨rfl, rfl, rfl⟩
  | recv self bufsize bufferObj isPollFirst t =>
    exact .socketMethod self t fun _ _ => .step (linearPayload_since _ _) fun p =>
      .step getContext_since fun _ => .step (createFutureOrDrop_since p) fun _ =>
        .pure ⟨rfl, rfl, rfl⟩
  | sendto self host parsed port domain isPollFirst t =>
    exact .socketMethod self t fun _ _ => .step (serializeAddress_since _ _ _) fun _ =>
      .step dataPayload_since fun p => .step (createFutureOrDrop_since p) fun _ =>
        .pure ⟨rfl, rfl, rfl⟩
  | recvfrom self bufsize bufferObj address isPollFirst t =>
    exact recvfrom_registers self bufsize bufferObj address isPollFirst t
  | sendmsg self address isPollFirst t =>
    exact .socketMethod self t fun _ _ => .step (sendmsgTarget_since address) fun _ =>
      .step (vectoredPayload_since true) fun p => .step getContext_since fun _ =>
        .step (createFutureOrDrop_since p) fun _ => .pure ⟨rfl, rfl, rfl⟩
  | recvmsg self buffersObj isPollFirst t => exact recvmsg_registers self buffersObj isPollFirst t
  | timer timerParams =>
    exact .step parseArgs_since fun _ => .step assertLoopThread_since fun _ =>
      .step assertRingLoopIsClosing_since fun _ => .step getContext_since fun c =>
        .step (parseTimer_since timerParams c.stream) fun _ => .step createFuture_since fun _ =>
          .pure ⟨rfl, rfl, rfl⟩

end Steps

/-! ## The whole call -/

namespace RequestRegistry

/-- Top, the stack below it and every live slot are the same. -/
structure SameAs (reg' reg : RequestRegistry) : Prop where
  top : reg'.top = reg.top
  stack : reg'.free = reg.free
  live : ∀ j, reg'.liveSlot j = reg.liveSlot j

theorem SameAs.refl (reg : RequestRegistry) : reg.SameAs reg := ⟨rfl, rfl, fun _ => rfl⟩

/-- One slot more is live than in `reg`. -/
structure OneMore (reg' reg : RequestRegistry) (index : Int) (slot : RequestSlot) : Prop where
  free : reg.liveSlot index = none
  added : reg'.liveSlot index = some slot
  others : ∀ j, j ≠ index → reg'.liveSlot j = reg.liveSlot j

variable {reg reg' : RequestRegistry} {request : Registration} {heap heap' : Heap}

theorem Valid.oneMore (h : reg.Valid) (request : Registration) (ht : ¬ reg.top < 0) :
    (registryAdd reg request).2.OneMore reg (registryAdd reg request).1
      (request.slot (registryAdd reg request).1) := by
  obtain ⟨-, -, -, hdead, hlive⟩ := h.add request ht
  refine ⟨Option.not_isSome_iff_eq_none.mp hdead, ?_, fun j hj => ?_⟩
  · rw [hlive, if_pos rfl]
  · rw [hlive, if_neg hj]

/-- The index that was popped is written back where it came from. -/
theorem set_popped (stack : List Int) (top : Int) :
    stack.set (top - 1 + 1).toNat (stack.getD top.toNat default) = stack := by
  rw [Int.sub_add_cancel, List.getD_eq_getElem?_getD]
  by_cases hlt : top.toNat < stack.length
  · rw [List.getElem?_eq_getElem hlt, Option.getD_some, List.set_getElem_self]
  · exact List.set_eq_of_length_le (by omega)

/-- `registry_add` and `registry_remove` of the index it returned restore the registry. -/
theorem Valid.remove_registryAdd (h : reg.Valid) (ht : ¬ reg.top < 0)
    (hr : registryRemove (registryAdd reg request).2 heap (registryAdd reg request).1 =
      .ok (reg', heap')) : reg'.SameAs reg := by
  obtain ⟨hv, hsize, hrange, hdead, hlive⟩ := h.add request ht
  have hslot := (hlive (registryAdd reg request).1).trans (if_pos rfl)
  obtain ⟨reg2, hr2, -, -, hlive2⟩ := hv.remove heap hslot
  obtain ⟨rfl, -⟩ := Prod.mk.inj (Except.ok.inj (hr.symm.trans hr2))
  have hin := hv.inRange_iff.mpr (hsize ▸ hrange)
  have hadd : registryAdd reg request =
      (reg.availableIndices.getD reg.top.toNat default, { reg with
        top := reg.top - 1
        slots := reg.slots.set (reg.availableIndices.getD reg.top.toNat default).toNat
          (request.slot (reg.availableIndices.getD reg.top.toNat default)) }) := by
    unfold registryAdd
    rw [if_neg ht]
  have hstack : reg'.top = reg.top ∧ reg'.availableIndices = reg.availableIndices := by
    unfold registryRemove at hr
    rw [hin] at hr
    simp only [Bool.not_true, Bool.false_eq_true, if_false] at hr
    split at hr
    · exact absurd hr (by simp)
    · obtain ⟨rfl, -⟩ := Prod.mk.inj (Except.ok.inj hr)
      rw [hadd]
      exact ⟨by dsimp only; omega, set_popped reg.availableIndices reg.top⟩
  refine ⟨hstack.1, ?_, fun j => ?_⟩
  · unfold free
    rw [hstack.1, hstack.2]
  · rw [hlive2, hlive]
    split
    · rename_i hj
      rw [hj]
      exact (Option.not_isSome_iff_eq_none.mp hdead).symm
    · rfl

end RequestRegistry

/-- The call left the registry `reg` of the loop `l` as the result says: as it was, or with
    the slot of the future that it returned. -/
def OpCall.Accounted (call : OpCall) (l : Loop) (reg : RequestRegistry) :
    Except (Option PyErr) Submitted → Prop
  | .error _ => reg.SameAs l.registry
  | .ok s => ∃ slot, reg.OneMore l.registry s.index slot ∧
      slot.future = some s.registration.future ∧ slot.opcode = call.opcode ∧
      slot.file = call.file l ∧ slot.socket = call.socket l

/-- A call that returns NULL leaves the registry as it was, whatever made it fail; one that
    returns a future has added one slot, its own. -/
theorem OpCall.run_accounted (call : OpCall) (env : CallEnv) {l l' : Loop}
    (hreg : l.registry.Sound) {r : Except (Option PyErr) Submitted}
    (h : call.run env l = .ok (r, l')) : call.Accounted l l'.registry r := by
  have hprep := call.prepare_registers l env
  rcases bind_eq_ok h with ⟨x, t, hp, hr⟩ | ⟨req, t, hp, hs⟩
  · obtain ⟨rfl, rfl⟩ := Prod.mk.inj hr
    show l'.registry.SameAs l.registry
    rw [hprep.failed (Since.refl l) hp]
    exact .refl _
  obtain ⟨hkept, hnames⟩ := hprep.returned (Since.refl l) hp
  rw [← hkept] at hreg
  cases submitRequest_outcome hreg hs with
  | full htop hh => exact hkept ▸ .refl _
  | rejected htop hd hx hn hrem =>
    show RequestRegistry.SameAs _ l.registry
    rw [Loop.setClosed_registry, ← hkept]
    exact (hreg.valid_of_room htop).remove_registryAdd htop hrem
  | accepted htop hd hx hn =>
    refine ⟨req.registration.slot (registryAdd t.registry req.registration).1, ?_, rfl,
      hnames.opcode, hnames.file, hnames.socket⟩
    rw [Loop.setClosed_registry, ← hkept]
    exact (hreg.valid_of_room htop).oneMore req.registration htop

/-- A socket of an unsupported domain: the slot is added and taken out again. -/
theorem OpCall.run_accounted_unsupported :
    ∃ l' e, (OpCall.prepSocket 16 1 none).run .ok (uringioLoopInit 4 .failed 3 1) =
        .ok (.error e, l') ∧
      l'.registry.SameAs (uringioLoopInit 4 .failed 3 1).registry := by
  have hsound : (registryNew 4).Sound :=
    (RequestRegistry.registryNew_sound (by decide)).1
  have hrun : ((OpCall.prepSocket 16 1 none).run .ok
      (uringioLoopInit 4 .failed 3 1)).toOption.map (fun x => x.1.isOk) = some false := by
    decide +kernel
  cases h : (OpCall.prepSocket 16 1 none).run .ok (uringioLoopInit 4 .failed 3 1) with
  | error stop =>
    rw [h] at hrun
    cases hrun
  | ok x =>
    rw [h] at hrun
    obtain ⟨r, l'⟩ := x
    cases r with
    | ok v => cases hrun
    | error e => exact ⟨l', e, rfl, OpCall.run_accounted _ .ok hsound h⟩

end Uringio
