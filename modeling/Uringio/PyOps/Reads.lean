/-
  Which operations read the execution context, and when.

  `_get_buffer`, `get_stream_strategy` and `get_transfer_mode` are called by ten operations,
  each after its own checks. `OpCall.beforeContext` is what such an operation does until then
  (`OpCall.prepare_eq`), and the other operations do not depend on the context at all
  (`OpCall.prepare_blind`).
-/
import Uringio.PyOps.Sockets

namespace Uringio

open Lib Program

/-- The loop with what the caller's execution context is. -/
def Loop.withContext (l : Loop) (context : Option ExecutionContext) : Loop :=
  { l with context := context }

@[simp] theorem Loop.withContext_self (l : Loop) : l.withContext l.context = l := rfl

/-! ## Steps that do not read it -/

/-- The program does not depend on the execution context. -/
def Blind {α : Type} (m : PyProgram α) : Prop :=
  ∀ context, Commutes (fun l => Loop.withContext l context) m

section Steps

variable {env : CallEnv}

theorem Blind.bind {α β : Type} {m : PyProgram α} {f : α → PyProgram β} (hm : Blind m)
    (hf : ∀ a, Blind (f a)) : Blind (m >>= f) :=
  fun c => (hm c).bind fun a => hf a c

theorem Blind.pure {α : Type} (a : α) : Blind (Pure.pure a : PyProgram α) := fun _ => .pure a

theorem Blind.ret {α : Type} (a : α) : Blind (Program.ret a : PyProgram α) := fun _ => .pure a

theorem Blind.fail {α : Type} (x : Option PyErr) : Blind (Program.fail x : PyProgram α) :=
  fun _ => .fail x

theorem Blind.stop {α : Type} (e : Stop) : Blind (Program.stop e : PyProgram α) :=
  fun _ => .stop e

theorem Blind.check (x : Option (Option PyErr)) : Blind (Program.check x : PyProgram Unit) :=
  fun _ => .check x

/-- A program that does not depend on the context leaves it alone. -/
theorem Blind.keeps {α : Type} {m : PyProgram α} (hm : Blind m) {l l' : Loop}
    {r : Except (Option PyErr) α} (h : m l = .ok (r, l')) : l'.context = l.context :=
  (congrArg Loop.context ((hm l.context).keeps l.withContext_self h)).symm

theorem assertLoopThread_blind : Blind (assertLoopThread env) := .check _

theorem assertRingLoopIsClosing_blind : Blind (assertRingLoopIsClosing env) :=
  .bind (fun _ => .look fun _ => rfl) fun _ => .check _

theorem assertLoopIsUringio_blind : Blind (assertLoopIsUringio env) := .check _

theorem parseArgs_blind : Blind (parseArgs env) := .check _

theorem parseTimeout_blind (obj : Option PyVal) : Blind (parseTimeout obj) := by
  unfold parseTimeout
  split
  · exact .fail _
  · exact .ret _

theorem createFuture_blind : Blind (createFuture env) :=
  .bind (.check _) fun _ _ => .change fun _ => rfl

theorem selfFile_blind (self : FileId) : Blind (selfFile self) := by
  refine .bind (fun _ => .look fun _ => rfl) fun file => ?_
  split
  · exact .pure _
  · exact .stop _

theorem selfSocket_blind (self : SocketId) : Blind (selfSocket self) := by
  refine .bind (fun _ => .look fun _ => rfl) fun sock => ?_
  split
  · exact .pure _
  · exact .stop _

theorem openFileMethod_blind (self : FileId) : Blind (openFileMethod self env) := by
  unfold openFileMethod
  refine .bind (selfFile_blind self) fun r => .bind assertLoopThread_blind fun _ => ?_
  refine .bind assertRingLoopIsClosing_blind fun _ => .bind (.check _) fun _ => ?_
  exact .bind parseArgs_blind fun _ => .pure _

theorem openSocketMethod_blind (self : SocketId) : Blind (openSocketMethod self env) := by
  unfold openSocketMethod
  refine .bind (selfSocket_blind self) fun r => .bind assertLoopThread_blind fun _ => ?_
  refine .bind assertRingLoopIsClosing_blind fun _ => .bind (.check _) fun _ => ?_
  exact .bind parseArgs_blind fun _ => .pure _

theorem createFutureOrDrop_blind (payload : Option PayloadId) :
    Blind (createFutureOrDrop payload env) := by
  unfold createFutureOrDrop
  split
  · exact createFuture_blind
  · exact .bind (fun _ => .change fun _ => rfl) fun _ => .fail _

theorem orFail_blind (payload : Option PayloadId) (e : Option PyErr) :
    Blind (orFail payload e) := by
  unfold orFail
  split
  · exact .ret _
  · exact .fail _

theorem dataPayload_blind : Blind (dataPayload env) :=
  .bind (fun _ => .change fun _ => rfl) fun _ => orFail_blind _ _

theorem pybufferPayload_blind (iovecs : List Iovec) : Blind (pybufferPayload iovecs env) :=
  .bind (fun _ => .change fun _ => rfl) fun _ => orFail_blind _ _

theorem serializeAddress_blind (host : HostArg) (port domain : Int) :
    Blind (serializeAddress host port domain env) := by
  unfold serializeAddress
  split
  · exact .fail _
  · split
    · split
      · exact .fail _
      · exact .ret _
      · exact .ret _
    · split
      · split
        · exact .fail _
        · exact .ret _
        · exact .ret _
      · exact .fail _

theorem sendmsgTarget_blind (address : Option (HostArg × Int × Int)) :
    Blind (sendmsgTarget address env) := by
  unfold sendmsgTarget
  split
  · exact .ret _
  · exact .bind (serializeAddress_blind _ _ _) fun _ => .pure _

theorem fileOperation_blind (self : FileId) (opcode : Opcode) (op : Int → COp)
    (t : Option PyVal) : Blind (fileOperation self opcode op t env) := by
  unfold fileOperation
  refine .bind (openFileMethod_blind self) fun _ => .bind (parseTimeout_blind t) fun _ => ?_
  exact .bind createFuture_blind fun _ => .pure _

theorem addressedOperation_blind (self : SocketId) (opcode : Opcode)
    (op : Int → SockAddr → Nat → COp) (host : HostArg) (port : Int) (t : Option PyVal) :
    Blind (addressedOperation self opcode op host port t env) := by
  unfold addressedOperation
  refine .bind (openSocketMethod_blind self) fun _ => .bind (parseTimeout_blind t) fun _ => ?_
  exact .bind (serializeAddress_blind _ _ _) fun _ => .bind createFuture_blind fun _ => .pure _

end Steps

/-! ## Steps up to the first getter -/

theorem getContext_eq (l : Loop) : getContext l =
    match l.context with
    | some c => .ok (.ok c, l)
    | none => .error .segv := by
  change (match l.context with
    | some c => (Pure.pure c : PyProgram ExecutionContext)
    | none => stop .segv) l = _
  cases l.context with
  | none => rfl
  | some c => rfl

/-- The program does `before`, then reads the context, and goes on with what it has read. -/
def ReadsAfter {α : Type} (m : PyProgram α) (before : PyProgram Unit) : Prop :=
  ∃ (β : Type) (first : PyProgram β) (rest : β → ExecutionContext → PyProgram α),
    (before = first >>= fun _ => Pure.pure ()) ∧ m = first >>= fun b => getContext >>= rest b

section ReadsAfter

variable {α β : Type}

theorem ReadsAfter.getContext (rest : ExecutionContext → PyProgram α) :
    ReadsAfter (Uringio.getContext >>= rest) (Pure.pure ()) :=
  ⟨Unit, Pure.pure (), fun _ => rest, rfl, rfl⟩

theorem ReadsAfter.fail (x : Option PyErr) :
    ReadsAfter (Program.fail x : PyProgram α) (Program.fail x) :=
  ⟨Unit, Program.fail x, fun _ _ => Program.fail x, rfl, rfl⟩

theorem ReadsAfter.stop (e : Stop) :
    ReadsAfter (Program.stop e : PyProgram α) (Program.stop e) :=
  ⟨Unit, Program.stop e, fun _ _ => Program.stop e, rfl, rfl⟩

theorem ReadsAfter.bind {m : PyProgram β} {f : β → PyProgram α} {before : β → PyProgram Unit}
    (h : ∀ b, ReadsAfter (f b) (before b)) : ReadsAfter (m >>= f) (m >>= before) := by
  choose γ first rest hbefore hf using h
  refine ⟨(b : β) × γ b, m >>= fun b => first b >>= fun c => Pure.pure ⟨b, c⟩,
    fun x => rest x.1 x.2, ?_, ?_⟩
  · simp only [bind_assoc, pure_bind]
    congr 1
    funext b
    exact hbefore b
  · simp only [bind_assoc, pure_bind]
    congr 1
    funext b
    exact hf b

/-- A helper that starts with the getter, and what follows it. -/
theorem ReadsAfter.helper {m : PyProgram β} (h : ReadsAfter m (Pure.pure ()))
    (f : β → PyProgram α) : ReadsAfter (m >>= f) (Pure.pure ()) := by
  obtain ⟨γ, first, rest, hbefore, rfl⟩ := h
  refine ⟨γ, first, fun c context => rest c context >>= f, hbefore, ?_⟩
  simp only [bind_assoc]

theorem linearPayload_reads (buffersObj : Bool) (bufsize : Int) (env : CallEnv) :
    ReadsAfter (linearPayload buffersObj bufsize env) (Pure.pure ()) :=
  .getContext _

theorem vectoredPayload_reads (buffersObj : Bool) (env : CallEnv) :
    ReadsAfter (vectoredPayload buffersObj env) (Pure.pure ()) :=
  .getContext _

theorem selectedPayload_reads : ReadsAfter selectedPayload (Pure.pure ()) := .getContext _

/-- Where the context is not set, the program does not get past the getter. -/
theorem ReadsAfter.unset {m : PyProgram α} {before : PyProgram Unit} (h : ReadsAfter m before)
    (hb : Blind before) {l l' : Loop} (hl : l.context = none)
    (hr : before l = .ok (.ok (), l')) : m l = .error .segv := by
  obtain ⟨γ, first, rest, rfl, rfl⟩ := h
  have hl' : l'.context = none := (hb.keeps hr).trans hl
  show seq first _ l = _
  have hfirst : seq first (fun _ => ret ()) l = .ok (.ok (), l') := hr
  unfold seq at hfirst ⊢
  cases hx : first l with
  | error e =>
    rw [hx] at hfirst
    exact absurd hfirst (by simp)
  | ok r =>
    obtain ⟨r, t⟩ := r
    rw [hx] at hfirst
    cases r with
    | error x => exact absurd hfirst (by simp)
    | ok c =>
      obtain ⟨-, rfl⟩ := Prod.mk.inj (Except.ok.inj hfirst)
      show seq Uringio.getContext (rest c) t = _
      unfold seq
      rw [getContext_eq, hl']

end ReadsAfter

/-! ## The operations -/

namespace OpCall

/-- What an operation does before it first calls one of the three getters. `none` for those
    that call none. -/
def beforeContext (call : OpCall) (env : CallEnv) : Option (PyProgram Unit) :=
  match call with
  | .read self _ _ t => some do
    let _ ← openFileMethod self env
    let _ ← parseTimeout t
    let _ ← createFuture env
    return ()
  | .readv self _ _ _ t | .writev self _ _ t => some do
    let _ ← openFileMethod self env
    let _ ← parseTimeout t
    return ()
  | .accept self t => some do
    let _ ← openSocketMethod self env
    let _ ← parseTimeout t
    let _ ← createFuture env
    match env.msghdr with
    | none => fail (some ⟨.memoryError, ""⟩)
    | some _ => return ()
  | .send self _ t => some do
    let _ ← openSocketMethod self env
    let _ ← parseTimeout t
    let _ ← dataPayload env
    return ()
  | .recv self _ _ _ t => some do
    let _ ← openSocketMethod self env
    let _ ← parseTimeout t
    return ()
  | .recvfrom self _ _ address _ t => some do
    let _ ← openSocketMethod self env
    let _ ← parseTimeout t
    match address with
    | none => stop .unassigned
    | some (host, port, domain) => do
      let _ ← serializeAddress host port domain env
      return ()
  | .sendmsg self address _ t => some do
    let _ ← openSocketMethod self env
    let _ ← parseTimeout t
    let _ ← sendmsgTarget address env
    return ()
  | .recvmsg self buffersObj _ t => some do
    let _ ← openSocketMethod self env
    let _ ← parseTimeout t
    if !buffersObj then stop .unassigned else return ()
  | .timer _ => some do
    parseArgs env
    assertLoopThread env
    assertRingLoopIsClosing env
    return ()
  | _ => none

/-- The operation comes to a getter. -/
def Reads (call : OpCall) (env : CallEnv) (l : Loop) : Prop :=
  ∃ before, call.beforeContext env = some before ∧ ∃ l', before l = .ok (.ok (), l')

variable {call : OpCall} {env : CallEnv}

theorem beforeContext_blind {before : PyProgram Unit}
    (h : call.beforeContext env = some before) : Blind before := by
  cases call with
  | read self offset size t =>
    obtain rfl := Option.some.inj h
    refine .bind (openFileMethod_blind self) fun _ => .bind (parseTimeout_blind t) fun _ => ?_
    exact .bind createFuture_blind fun _ => .pure _
  | readv self buffersObj offset nowait t =>
    obtain rfl := Option.some.inj h
    exact .bind (openFileMethod_blind self) fun _ => .bind (parseTimeout_blind t) fun _ => .pure _
  | writev self flags offset t =>
    obtain rfl := Option.some.inj h
    exact .bind (openFileMethod_blind self) fun _ => .bind (parseTimeout_blind t) fun _ => .pure _
  | accept self t =>
    obtain rfl := Option.some.inj h
    refine .bind (openSocketMethod_blind self) fun _ => .bind (parseTimeout_blind t) fun _ => ?_
    refine .bind createFuture_blind fun _ => ?_
    split
    · exact .fail _
    · exact .pure _
  | send self isPollFirst t =>
    obtain rfl := Option.some.inj h
    refine .bind (openSocketMethod_blind self) fun _ => .bind (parseTimeout_blind t) fun _ => ?_
    exact .bind dataPayload_blind fun _ => .pure _
  | recv self bufsize bufferObj isPollFirst t =>
    obtain rfl := Option.some.inj h
    exact .bind (openSocketMethod_blind self) fun _ => .bind (parseTimeout_blind t) fun _ => .pure _
  | recvfrom self bufsize bufferObj address isPollFirst t =>
    obtain rfl := Option.some.inj h
    refine .bind (openSocketMethod_blind self) fun _ => .bind (parseTimeout_blind t) fun _ => ?_
    split
    · exact .stop _
    · exact .bind (serializeAddress_blind _ _ _) fun _ => .pure _
  | sendmsg self address isPollFirst t =>
    obtain rfl := Option.some.inj h
    refine .bind (openSocketMethod_blind self) fun _ => .bind (parseTimeout_blind t) fun _ => ?_
    exact .bind (sendmsgTarget_blind _) fun _ => .pure _
  | recvmsg self buffersObj isPollFirst t =>
    obtain rfl := Option.some.inj h
    refine .bind (openSocketMethod_blind self) fun _ => .bind (parseTimeout_blind t) fun _ => ?_
    split
    · exact .stop _
    · exact .pure _
  | timer timerParams =>
    obtain rfl := Option.some.inj h
    refine .bind parseArgs_blind fun _ => .bind assertLoopThread_blind fun _ => ?_
    exact .bind assertRingLoopIsClosing_blind fun _ => .pure _
  | _ => exact absurd h (by simp [beforeContext])

/-- An operation that calls a getter does so right after `beforeContext`. -/
theorem prepare_reads {before : PyProgram Unit} (h : call.beforeContext env = some before) :
    ReadsAfter (call.prepare env) before := by
  cases call with
  | read self offset size t =>
    obtain rfl := Option.some.inj h
    refine .bind fun _ => .bind fun _ => .bind fun _ => ?_
    exact (linearPayload_reads false size env).helper _
  | readv self buffersObj offset nowait t =>
    obtain rfl := Option.some.inj h
    exact .bind fun _ => .bind fun _ => selectedPayload_reads.helper _
  | writev self flags offset t =>
    obtain rfl := Option.some.inj h
    exact .bind fun _ => .bind fun _ => (vectoredPayload_reads true env).helper _
  | accept self t =>
    obtain rfl := Option.some.inj h
    refine .bind fun _ => .bind fun _ => .bind fun _ => ?_
    generalize env.msghdr = msghdr
    cases msghdr with
    | none => exact .fail _
    | some addrlen => exact .getContext _
  | send self isPollFirst t =>
    obtain rfl := Option.some.inj h
    exact .bind fun _ => .bind fun _ => .bind fun _ => .getContext _
  | recv self bufsize bufferObj isPollFirst t =>
    obtain rfl := Option.some.inj h
    exact .bind fun _ => .bind fun _ => (linearPayload_reads bufferObj bufsize env).helper _
  | recvfrom self bufsize bufferObj address isPollFirst t =>
    obtain rfl := Option.some.inj h
    refine .bind fun _ => .bind fun _ => ?_
    split
    · exact .stop _
    · exact .bind fun _ => (linearPayload_reads bufferObj bufsize env).helper _
  | sendmsg self address isPollFirst t =>
    obtain rfl := Option.some.inj h
    refine .bind fun _ => .bind fun _ => .bind fun _ => ?_
    exact (vectoredPayload_reads true env).helper _
  | recvmsg self buffersObj isPollFirst t =>
    obtain rfl := Option.some.inj h
    refine .bind fun _ => .bind fun _ => ?_
    split
    · exact .stop _
    · exact (vectoredPayload_reads true env).helper _
  | timer timerParams =>
    obtain rfl := Option.some.inj h
    exact .bind fun _ => .bind fun _ => .bind fun _ => .getContext _
  | _ => exact absurd h (by simp [beforeContext])

/-- An operation that comes to a getter reads through NULL where the context is not set. -/
theorem prepare_of_unset {l : Loop} (h : call.Reads env l) (hl : l.context = none) :
    call.prepare env l = .error .segv := by
  obtain ⟨before, hb, l', hr⟩ := h
  exact (prepare_reads hb).unset (beforeContext_blind hb) hl hr

/-- Whether an operation comes to a getter does not depend on the context. -/
theorem reads_withContext {l : Loop} {context : Option ExecutionContext} :
    call.Reads env (l.withContext context) ↔ call.Reads env l := by
  refine exists_congr fun before => and_congr_right fun hb => ?_
  have hc := beforeContext_blind hb context l
  dsimp only at hc
  rw [hc]
  constructor
  · rintro ⟨l', hr⟩
    obtain ⟨r, hr, he⟩ := except_map_ok hr
    exact ⟨r.2, by rw [hr, ← (Prod.mk.inj he).1]⟩
  · rintro ⟨l', hr⟩
    exact ⟨l'.withContext context, by rw [hr]; rfl⟩

/-- An operation that calls no getter does not depend on the context. -/
theorem prepare_blind (h : call.beforeContext env = none) : Blind (call.prepare env) := by
  cases call with
  | «open» dfd path flags resolve mode t =>
    unfold prepare uringioOpen
    refine .bind assertLoopIsUringio_blind fun _ => .bind assertLoopThread_blind fun _ => ?_
    refine .bind assertRingLoopIsClosing_blind fun _ => .bind (.check _) fun _ => ?_
    refine .bind parseArgs_blind fun _ => ?_
    split
    · exact .fail _
    · refine .bind (parseTimeout_blind t) fun _ => .bind createFuture_blind fun _ => ?_
      exact .bind (fun _ => .change fun _ => rfl) fun _ => .pure _
  | fileAexit self =>
    unfold prepare UringioFile.aexit
    refine .bind (selfFile_blind self) fun _ => .bind parseArgs_blind fun _ => ?_
    exact .bind createFuture_blind fun _ => .pure _
  | fileClose self t => exact fileOperation_blind self .close .closeFile t
  | readvRaw self iovecs offset nowait t =>
    unfold prepare UringioFile.readvRaw
    refine .bind (openFileMethod_blind self) fun _ => .bind (parseTimeout_blind t) fun _ => ?_
    split
    · exact .fail _
    · refine .bind (pybufferPayload_blind _) fun _ => ?_
      exact .bind (createFutureOrDrop_blind _) fun _ => .pure _
  | write self offset t =>
    unfold prepare UringioFile.write
    refine .bind (openFileMethod_blind self) fun _ => .bind (parseTimeout_blind t) fun _ => ?_
    exact .bind createFuture_blind fun _ => .bind dataPayload_blind fun _ => .pure _
  | writevRaw self iovecs flags offset t =>
    unfold prepare UringioFile.writevRaw
    refine .bind (openFileMethod_blind self) fun _ => .bind (parseTimeout_blind t) fun _ => ?_
    split
    · exact .fail _
    · refine .bind (pybufferPayload_blind _) fun _ => ?_
      exact .bind (createFutureOrDrop_blind _) fun _ => .pure _
  | fsync self t => exact fileOperation_blind self .fsync .fsync t
  | fdatasync self t => exact fileOperation_blind self .fsync .fdatasync t
  | splice self src dst count offsetSrc offsetDst flag t =>
    exact fileOperation_blind self .splice _ t
  | prepSocket domain socktype t =>
    unfold prepare uringioPrepSocket
    refine .bind assertLoopIsUringio_blind fun _ => .bind assertLoopThread_blind fun _ => ?_
    refine .bind assertRingLoopIsClosing_blind fun _ => .bind (.check _) fun _ => ?_
    refine .bind parseArgs_blind fun _ => .bind (parseTimeout_blind t) fun _ => ?_
    refine .bind createFuture_blind fun _ => ?_
    exact .bind (fun _ => .change fun _ => rfl) fun _ => .pure _
  | socketAexit self =>
    unfold prepare UringioSocket.aexit
    refine .bind (selfSocket_blind self) fun _ => .bind parseArgs_blind fun _ => ?_
    exact .bind createFuture_blind fun _ => .pure _
  | bind self host parsed port t => exact addressedOperation_blind self .bind .bind _ port t
  | connect self host parsed port t =>
    exact addressedOperation_blind self .connect .connect _ port t
  | listen self backlog t =>
    unfold prepare UringioSocket.listen
    refine .bind (openSocketMethod_blind self) fun _ => .bind (parseTimeout_blind t) fun _ => ?_
    exact .bind createFuture_blind fun _ => .pure _
  | socketClose self t =>
    unfold prepare UringioSocket.close
    refine .bind (openSocketMethod_blind self) fun _ => .bind (parseTimeout_blind t) fun _ => ?_
    exact .bind createFuture_blind fun _ => .pure _
  | sendto self host parsed port domain isPollFirst t =>
    unfold prepare UringioSocket.sendto
    refine .bind (openSocketMethod_blind self) fun _ => .bind (parseTimeout_blind t) fun _ => ?_
    refine .bind (serializeAddress_blind _ _ _) fun _ => .bind dataPayload_blind fun _ => ?_
    exact .bind (createFutureOrDrop_blind _) fun _ => .pure _
  | _ => exact absurd h (by simp [beforeContext])

end OpCall

end Uringio
