/-
  Socket addresses, from the arguments to the bytes that the kernel gets.

  `_serialize_address` fills a `struct sockaddr_storage` and `_get_socket_size` gives the
  length; `decode` reads both as the kernel does. They agree on the two supported families.
  What goes wrong lies before: the port is cut to 16 bits, and two ways of failing set no
  exception (`encodes_iff`).
-/
import Uringio.PyOps.Raising

namespace Uringio

open Lib Program

/-! ## Bytes -/

/-- `htons` and two bytes of memory: the number in network order. -/
def be16 (n : Nat) : List Nat := [n / 256 % 256, n % 256]

/-- A number of two bytes as a little-endian machine keeps it. -/
def le16 (n : Nat) : List Nat := [n % 256, n / 256 % 256]

def readBe16 : List Nat → Nat
  | [a, b] => a * 256 + b
  | _ => 0

def readLe16 : List Nat → Nat
  | [a, b] => a + b * 256
  | _ => 0

theorem readBe16_be16 {n : Nat} (h : n < 65536) : readBe16 (be16 n) = n := by
  show n / 256 % 256 * 256 + n % 256 = n
  omega

theorem readLe16_le16 {n : Nat} (h : n < 65536) : readLe16 (le16 n) = n := by
  show n % 256 + n / 256 % 256 * 256 = n
  omega

/-! ## The structures -/

/-- The `struct sockaddr_storage` of 128 bytes: family, port, and for AF_INET6 the flow
    information of four bytes before the address. -/
def SockAddr.storage (a : SockAddr) : List Nat :=
  let head := le16 (toUint16 a.family) ++ be16 a.port ++
    (if a.family = afInet6 then List.replicate 4 0 else []) ++ a.addr
  head ++ List.replicate (128 - head.length) 0

/-- What the kernel reads in `len` bytes of the storage: the family, the port and the
    address, if the length is that of the family's structure. -/
def decode (storage : List Nat) (len : Nat) : Option (Int × Int × List Nat) :=
  let bytes := storage.take len
  let family : Int := readLe16 (bytes.take 2)
  let port : Int := readBe16 ((bytes.drop 2).take 2)
  if family = afInet ∧ len = 16 then some (family, port, (bytes.drop 4).take 4)
  else if family = afInet6 ∧ len = 28 then some (family, port, (bytes.drop 8).take 16)
  else none

/-- `inet_pton`: the bytes of the address, of which AF_INET has four and AF_INET6 sixteen. -/
structure InetPton where
  parse : Int → String → Option (List Nat)
  inet : ∀ host addr, parse afInet host = some addr → addr.length = 4
  inet6 : ∀ host addr, parse afInet6 host = some addr → addr.length = 16

/-- What is left of an address in the middle of the storage. -/
theorem take_of_padded {addr zeros : List Nat} {n m : Nat} (h : addr.length = n) (hm : n ≤ m) :
    ((addr ++ zeros).take m).take n = addr := by
  rw [List.take_take, Nat.min_eq_left hm, ← h, List.take_left]

/-- The two helpers agree on the domain. -/
theorem decode_storage {domain : Int} {port : Nat} {addr : List Nat} (hp : port < 65536)
    (h : (domain = afInet ∧ addr.length = 4) ∨ (domain = afInet6 ∧ addr.length = 16)) :
    decode (SockAddr.storage ⟨domain, port, addr⟩) (getSocketSize domain) =
      some (domain, (port : Int), addr) := by
  have hport := readBe16_be16 hp
  rcases h with ⟨rfl, hlen⟩ | ⟨rfl, hlen⟩
  · simp [decode, SockAddr.storage, getSocketSize, afInet, afInet6, le16, be16, toUint16]
      at hport ⊢
    exact ⟨rfl, congrArg Nat.cast hport, take_of_padded hlen (by decide)⟩
  · simp [decode, SockAddr.storage, getSocketSize, afInet, afInet6, le16, be16, toUint16]
      at hport ⊢
    exact ⟨rfl, congrArg Nat.cast hport, take_of_padded hlen (by decide)⟩

/-! ## The calls -/

/-- The sockaddr and its length that an SQE names. -/
def PrepCall.sockaddr : PrepCall → Option (SockAddr × Nat)
  | .bind _ addr addrlen | .connect _ addr addrlen => some (addr, addrlen)
  | .sendto _ _ _ _ addr addrlen => some (addr, addrlen)
  | .sendmsg _ msg _ | .recvmsg _ msg _ | .sendmsgZc _ msg _ =>
    msg.name.map fun addr => (addr, msg.namelen)
  | _ => none

theorem COp.call_sockaddr (op : COp) {a : SockAddr × Nat} (h : op.sockaddr = some a) :
    op.call.sockaddr = some a := by
  cases op with
  | bind | connect | sendto | recvfrom => exact h
  | sendmsg fd iovecs n addr addrlen isPollFirst =>
    cases addr with
    | none => exact absurd h (by simp [sockaddr])
    | some addr => exact h
  | sendmsgZc fd iovecs n addr addrlen isPollFirst bufIndex =>
    cases addr with
    | none => exact absurd h (by simp [sockaddr])
    | some addr => exact h
  | _ => exact absurd h (by simp [sockaddr])

/-- The five operations that are given an address. -/
inductive AddressedKind where
  | bind
  | connect
  | sendto
  | recvfrom (bufsize : Int) (bufferObj : Bool)
  | sendmsg
deriving DecidableEq, Repr

namespace AddressedKind

/-- The call, for a host of which `inet_pton` makes `addr`. -/
def call (kind : AddressedKind) (addr : Option (List Nat)) (domain port : Int) (self : SocketId)
    (isPollFirst : Bool) (t : Option PyVal) : OpCall :=
  match kind with
  | .bind => .bind self (addr.getD []) addr.isSome port t
  | .connect => .connect self (addr.getD []) addr.isSome port t
  | .sendto => .sendto self (addr.getD []) addr.isSome port domain isPollFirst t
  | .recvfrom bufsize bufferObj =>
    .recvfrom self bufsize bufferObj (some (some addr, port, domain)) isPollFirst t
  | .sendmsg => .sendmsg self (some (some addr, port, domain)) isPollFirst t

/-- `bind` and `connect` are given no domain, they take that of their Socket. -/
def On (kind : AddressedKind) (domain : Int) (self : SocketId) (l : Loop) : Prop :=
  match kind with
  | .bind | .connect => ∀ sock, l.sockets[self]? = some sock → sock.domain = domain
  | .sendto | .recvfrom _ _ | .sendmsg => True

/-- The call fails with an exception and submits nothing; or its SQE is submitted, with a
    sockaddr and a length that the kernel reads as the domain, the port and the host. -/
def Asks (pton : InetPton) (domain : Int) (host : String) (port : Int) (l : Loop) :
    Except (Option PyErr) Submitted × Loop → Prop
  | (.error e, l') => e.isSome ∧ l'.ring.inflight = l.ring.inflight
  | (.ok sub, l') => ∃ x ∈ l'.ring.inflight, x.seq = sub.seq ∧ ∃ a len addr,
      x.sqe.call.sockaddr = some (a, len) ∧ pton.parse domain host = some addr ∧
        decode a.storage len = some (domain, port, addr)

/-- Whatever the other arguments and the loop are, the call asks the kernel for the address
    that it is given, and reads nothing that is not assigned. -/
def Encodes (kind : AddressedKind) (pton : InetPton) (buffers : BufferEnv) (domain : Int)
    (host : String) (port : Int) : Prop :=
  ∀ self isPollFirst t env l, env.buffers = buffers → kind.On domain self l →
    match (kind.call (pton.parse domain host) domain port self isPollFirst t).run env l with
    | .error e => e ≠ .unassigned
    | .ok r => Asks pton domain host port l r

/-- What the helpers of the call come to. -/
def fetches (kind : AddressedKind) (addr : Option (List Nat)) (buffers : BufferEnv)
    (domain : Int) : Fetched :=
  match kind with
  | .bind | .connect => .address (some addr) domain
  | .sendto => (Fetched.address (some addr) domain).andThen (.data buffers)
  | .recvfrom bufsize bufferObj =>
    (Fetched.address (some addr) domain).andThen (.linear bufferObj bufsize buffers)
  | .sendmsg => (Fetched.address (some addr) domain).andThen (.vectored buffers)

/-- The domain is supported, no helper fails without an exception, and a call that comes to
    its submission has a port of 16 bits. -/
def Sound (kind : AddressedKind) (addr : Option (List Nat)) (buffers : BufferEnv)
    (domain port : Int) : Prop :=
  match kind.fetches addr buffers domain with
  | .raises => True
  | .done => 0 ≤ port ∧ port < 65536
  | .silent | .unassigned => False

instance (kind : AddressedKind) (addr : Option (List Nat)) (buffers : BufferEnv)
    (domain port : Int) : Decidable (kind.Sound addr buffers domain port) := by
  unfold Sound
  split <;> infer_instance

section Encoding

variable {kind : AddressedKind} {pton : InetPton} {buffers : BufferEnv} {domain port : Int}
  {host : String}

/-- What every call of the five does. -/
theorem prepare_raises {addr : Option (List Nat)} {self : SocketId} {isPollFirst : Bool}
    {t : Option PyVal} {env : CallEnv} {l : Loop} (hon : kind.On domain self l)
    (hf : (kind.fetches addr env.buffers domain).Proper) :
    Raises (fun s => s = l) l.ring ((kind.call addr domain port self isPollFirst t).prepare env)
      fun req => req.After t ∧ kind.fetches addr env.buffers domain = .done ∧
        req.Addresses ⟨domain, toUint16 port, addr.getD []⟩ (getSocketSize domain) := by
  have harg : (some (if addr.isSome = true then some (addr.getD []) else none) : HostArg) =
      some addr := by
    cases addr with
    | none => rfl
    | some a => rfl
  have hring : ∀ s, s = l → OnRing l.ring s := fun s hs => hs ▸ rfl
  cases kind with
  | bind =>
    show Raises _ _ (UringioSocket.bind _ _ _ _ _ _) _
    unfold UringioSocket.bind
    rw [harg]
    exact addressedOperation_raises (fun _ _ _ => rfl) hon fun _ _ => hf
  | connect =>
    show Raises _ _ (UringioSocket.connect _ _ _ _ _ _) _
    unfold UringioSocket.connect
    rw [harg]
    exact addressedOperation_raises (fun _ _ _ => rfl) hon fun _ _ => hf
  | sendto =>
    have h : Raises (OnRing l.ring) l.ring (UringioSocket.sendto self (addr.getD []) addr.isSome
        port domain isPollFirst t env) _ := sendto_raises fun p hp => by
      rw [harg]
      exact (Fetched.andThen_proper.mp hf).1
    rw [harg] at h
    exact h.of_pre hring
  | recvfrom bufsize bufferObj => exact (recvfrom_raises fun _ _ => hf).of_pre hring
  | sendmsg => exact (sendmsg_raises fun _ _ => hf).of_pre hring

/-- A call on a supported domain asks for the port as far as it fits in 16 bits. -/
theorem run_sends {addr : Option (List Nat)} {self : SocketId} {isPollFirst : Bool}
    {t : Option PyVal} {env : CallEnv} {l : Loop} (hon : kind.On domain self l)
    (hf : (kind.fetches addr env.buffers domain).Proper) :
    Ends (fun e => e ≠ .unassigned) (fun s => s = l)
      ((kind.call addr domain port self isPollFirst t).run env)
      (fun sub s => kind.fetches addr env.buffers domain = .done ∧
        ∃ x ∈ s.ring.inflight, x.seq = sub.seq ∧ x.sqe.call.sockaddr =
          some (⟨domain, toUint16 port, addr.getD []⟩, getSocketSize domain))
      (fun e s => e.isSome ∧ s.ring.inflight = l.ring.inflight) := by
  refine Ends.bind ((prepare_raises hon hf).conseq (fun _ h => h) (fun _ _ h => h)
    fun _ _ h => ⟨h.1, congrArg Ring.inflight h.2⟩) fun req => .given fun h => ?_
  obtain ⟨hafter, hdone, haddr⟩ := h
  refine (submitRequest_raises hafter.reports haddr env.submit).conseq (fun _ h => h) ?_
    fun _ _ h => h
  rintro sub s ⟨hsent, -, hsock⟩
  refine ⟨hdone, requestEntry l.ring sub.index (sub.op.linked req.timeoutParams) sub.op.prep, ?_,
    hsent.seq.symm, ?_⟩
  · rw [hsent.ring.inflight]
    exact List.mem_append_right _ List.mem_cons_self
  · show (sub.op.prep _).call.sockaddr = _
    rw [sub.op.prep_call _ hsent.ring.accepts]
    exact sub.op.call_sockaddr hsock

theorem supported_of_proper {addr : Option (List Nat)}
    (h : (kind.fetches addr buffers domain).Proper) : Supported domain := by
  cases kind with
  | bind | connect => exact Fetched.address_proper.mp h
  | sendto | recvfrom | sendmsg =>
    exact Fetched.address_proper.mp (Fetched.andThen_proper.mp h).1

/-- A host that is no address raises. -/
theorem fetches_of_none (hd : Supported domain) : kind.fetches none buffers domain = .raises := by
  have haddr : Fetched.address (some none) domain = .raises := by simp [Fetched.address, hd]
  cases kind with
  | bind | connect => exact haddr
  | sendto | recvfrom | sendmsg =>
    unfold fetches
    rw [haddr]
    rfl

theorem parsed_of_done {addr : Option (List Nat)}
    (h : kind.fetches addr buffers domain = .done) : ∃ a, addr = some a := by
  cases addr with
  | some a => exact ⟨a, rfl⟩
  | none =>
    have hne : Fetched.address (some none) domain ≠ .done := by
      unfold Fetched.address
      by_cases hd : Supported domain
      · simp [hd]
      · simp [hd]
    cases kind with
    | bind | connect => exact absurd h hne
    | sendto | recvfrom | sendmsg => exact absurd (Fetched.andThen_done.mp h).1 hne

theorem proper_of_sound {addr : Option (List Nat)} (h : kind.Sound addr buffers domain port) :
    (kind.fetches addr buffers domain).Proper := by
  unfold Sound at h
  split at h
  next hf => exact hf ▸ by decide
  next hf => exact hf ▸ by decide
  next => exact h.elim
  next => exact h.elim

theorem toUint16_of_range (h : 0 ≤ port ∧ port < 65536) : (toUint16 port : Int) = port := by
  unfold toUint16
  omega

/-- The lengths of the addresses. -/
theorem InetPton.parsed (hd : Supported domain) {addr : List Nat}
    (h : pton.parse domain host = some addr) :
    (domain = afInet ∧ addr.length = 4) ∨ (domain = afInet6 ∧ addr.length = 16) := by
  rcases hd with rfl | rfl
  · exact .inl ⟨rfl, pton.inet host addr h⟩
  · exact .inr ⟨rfl, pton.inet6 host addr h⟩

theorem encodes_of_sound (h : kind.Sound (pton.parse domain host) buffers domain port) :
    kind.Encodes pton buffers domain host port := by
  intro self isPollFirst t env l hbuf hon
  subst hbuf
  have hproper := proper_of_sound h
  have hends := (run_sends hon hproper : Ends _ _ ((kind.call (pton.parse domain host) domain port
    self isPollFirst t).run env) _ _) l rfl
  cases hrun : (kind.call (pton.parse domain host) domain port self isPollFirst t).run env l with
  | error e =>
    rw [hrun] at hends
    exact hends
  | ok r =>
    rw [hrun] at hends
    obtain ⟨res, l'⟩ := r
    cases res with
    | error e => exact hends
    | ok sub =>
      obtain ⟨hdone, x, hx, hseq, hsock⟩ := hends
      obtain ⟨addr, haddr⟩ := parsed_of_done hdone
      have hrange : 0 ≤ port ∧ port < 65536 := by
        unfold Sound at h
        rw [hdone] at h
        exact h
      refine ⟨x, hx, hseq, _, _, addr, hsock, haddr, ?_⟩
      rw [haddr]
      have hlen := InetPton.parsed (supported_of_proper hproper) haddr
      have hdec := decode_storage (show toUint16 port < 65536 by unfold toUint16; omega) hlen
      rw [toUint16_of_range hrange] at hdec
      exact hdec

/-! ## Where it fails -/

/-- `openLoop` with a Socket of the domain. -/
def socketLoop (domain : Int) : Loop :=
  { openLoop with sockets := [⟨some 5, domain, none, false⟩] }

theorem on_socketLoop : kind.On domain 0 (socketLoop domain) := by
  have h : ∀ sock, (socketLoop domain).sockets[0]? = some sock → sock.domain = domain := by
    intro sock hs
    obtain rfl := Option.some.inj hs
    rfl
  cases kind with
  | bind => exact h
  | connect => exact h
  | sendto => trivial
  | recvfrom bufsize bufferObj => trivial
  | sendmsg => trivial

/-- A call on `socketLoop`, where everything else works. -/
def sample (kind : AddressedKind) (addr : Option (List Nat)) (buffers : BufferEnv)
    (domain port : Int) : Except Stop (Except (Option PyErr) Submitted × Loop) :=
  (kind.call addr domain port 0 false none).run { CallEnv.ok with buffers := buffers }
    (socketLoop domain)

theorem sample_unsupported (kind : AddressedKind) (addr : Option (List Nat))
    (buffers : BufferEnv) (port : Int) (hd : ¬ Supported domain) :
    ∃ l', kind.sample addr buffers domain port = .ok (.error none, l') := by
  have h1 : ¬ domain = afInet := fun h => hd (.inl h)
  have h2 : ¬ domain = afInet6 := fun h => hd (.inr h)
  have haddr : ∀ arg s, serializeAddress arg port domain { CallEnv.ok with buffers := buffers } s =
      .ok (.error none, s) := by
    intro arg s
    unfold serializeAddress
    simp only [CallEnv.ok, h1, h2, if_false]
    rfl
  refine ⟨socketLoop domain, bind_failed ?_⟩
  cases kind with
  | bind => exact (bind_returned rfl).trans ((bind_returned rfl).trans (bind_failed (haddr _ _)))
  | connect =>
    exact (bind_returned rfl).trans ((bind_returned rfl).trans (bind_failed (haddr _ _)))
  | sendto =>
    exact (bind_returned rfl).trans ((bind_returned rfl).trans (bind_failed (haddr _ _)))
  | recvfrom bufsize bufferObj =>
    exact (bind_returned rfl).trans ((bind_returned rfl).trans (bind_failed (haddr _ _)))
  | sendmsg =>
    exact (bind_returned rfl).trans
      ((bind_returned rfl).trans (bind_failed (bind_failed (haddr _ _))))

/-- Without memory for its payload a call fails and raises nothing. -/
theorem sample_silent (port : Int) {addr : List Nat} (hd : Supported domain)
    (h : kind.fetches (some addr) buffers domain = .silent) :
    ∃ l', kind.sample (some addr) buffers domain port = .ok (.error none, l') := by
  obtain ⟨payload, runtime, views, unassigned⟩ := buffers
  rcases hd with rfl | rfl
  all_goals
    cases kind with
    | bind => cases h
    | connect => cases h
    | sendto =>
      cases payload with
      | false => cases h
      | true => rcases views with _ | _ | ⟨v, vs⟩ <;> cases h
    | recvfrom bufsize bufferObj =>
      cases payload with
      | false =>
        cases bufferObj with
        | false => exact ⟨_, rfl⟩
        | true => exact ⟨_, rfl⟩
      | true =>
        cases bufferObj with
        | false => cases runtime <;> cases h
        | true => rcases views with _ | _ | ⟨v, vs⟩ <;> cases h
    | sendmsg =>
      cases payload with
      | false => exact ⟨_, rfl⟩
      | true => cases views <;> cases h

/-- A linear buffer that could not be made is used all the same. -/
theorem sample_unassigned {addr : List Nat} (hd : Supported domain)
    (h : kind.fetches (some addr) buffers domain = .unassigned) :
    kind.sample (some addr) buffers domain port = .error .unassigned := by
  obtain ⟨payload, runtime, views, unassigned⟩ := buffers
  rcases hd with rfl | rfl
  all_goals
    cases kind with
    | bind => cases h
    | connect => cases h
    | sendto =>
      cases payload with
      | false => cases h
      | true => rcases views with _ | _ | ⟨v, vs⟩ <;> cases h
    | recvfrom bufsize bufferObj =>
      cases payload with
      | false => cases h
      | true =>
        cases bufferObj with
        | false =>
          cases runtime with
          | none => rfl
          | some p => cases h
        | true =>
          rcases views with _ | _ | ⟨v, vs⟩
          · rfl
          · rfl
          · cases h
    | sendmsg =>
      cases payload with
      | false => cases h
      | true => cases views <;> cases h

/-- A call that comes to its submission is submitted. -/
theorem sample_sends (port : Int) {addr : List Nat} (hd : Supported domain)
    (h : kind.fetches (some addr) buffers domain = .done) :
    ∃ sub l' x, kind.sample (some addr) buffers domain port = .ok (.ok sub, l') ∧
      l'.ring.inflight = [x] ∧ x.sqe.call.sockaddr =
        some (⟨domain, toUint16 port, addr⟩, getSocketSize domain) := by
  obtain ⟨payload, runtime, views, unassigned⟩ := buffers
  rcases hd with rfl | rfl
  all_goals
    cases kind with
    | bind => exact ⟨_, _, _, rfl, rfl, rfl⟩
    | connect => exact ⟨_, _, _, rfl, rfl, rfl⟩
    | sendto =>
      cases payload with
      | false => cases h
      | true =>
        rcases views with _ | _ | ⟨v, vs⟩
        · cases h
        · cases h
        · exact ⟨_, _, _, rfl, rfl, rfl⟩
    | recvfrom bufsize bufferObj =>
      cases payload with
      | false => cases h
      | true =>
        cases bufferObj with
        | false =>
          cases runtime with
          | none => cases h
          | some p => exact ⟨_, _, _, rfl, rfl, rfl⟩
        | true =>
          rcases views with _ | _ | ⟨v, vs⟩
          · cases h
          · cases h
          · exact ⟨_, _, _, rfl, rfl, rfl⟩
    | sendmsg =>
      cases payload with
      | false => cases h
      | true =>
        cases views with
        | none => cases h
        | some vs => exact ⟨_, _, _, rfl, rfl, rfl⟩

/-- Every call asks the kernel for what it is given exactly when the domain is supported, no
    helper fails without an exception, and a port that gets as far has 16 bits. -/
theorem encodes_iff (kind : AddressedKind) (pton : InetPton) (buffers : BufferEnv)
    (domain : Int) (host : String) (port : Int) :
    kind.Encodes pton buffers domain host port ↔
      kind.Sound (pton.parse domain host) buffers domain port := by
  refine ⟨fun h => ?_, encodes_of_sound⟩
  have hsample := h 0 false none { CallEnv.ok with buffers := buffers } (socketLoop domain) rfl
    on_socketLoop
  change match kind.sample (pton.parse domain host) buffers domain port with
    | .error e => e ≠ .unassigned
    | .ok r => Asks pton domain host port (socketLoop domain) r at hsample
  by_cases hd : Supported domain
  · cases hparse : pton.parse domain host with
    | none =>
      unfold Sound
      rw [fetches_of_none hd]
      trivial
    | some addr =>
      rw [hparse] at hsample
      unfold Sound
      split
      next => trivial
      next hf =>
        obtain ⟨sub, l', x, hrun, hin, hsock⟩ := sample_sends port hd hf
        rw [hrun] at hsample
        obtain ⟨y, hy, -, a, len, addr', hsock', hparse', hdec⟩ := hsample
        rw [hin] at hy
        obtain rfl := List.mem_singleton.mp hy
        obtain ⟨rfl, rfl⟩ := Prod.mk.inj (Option.some.inj (hsock.symm.trans hsock'))
        have hlen := InetPton.parsed hd hparse
        rw [decode_storage (by unfold toUint16; omega) hlen] at hdec
        have hport := congrArg (fun r : Int × Int × List Nat => r.2.1) (Option.some.inj hdec)
        dsimp only at hport
        unfold toUint16 at hport
        omega
      next hf =>
        obtain ⟨l', hrun⟩ := sample_silent port hd hf
        rw [hrun] at hsample
        exact absurd hsample.1 (by simp)
      next hf =>
        rw [sample_unassigned hd hf] at hsample
        exact hsample rfl
  · obtain ⟨l', hrun⟩ := sample_unsupported kind (pton.parse domain host) buffers port hd
    rw [hrun] at hsample
    exact absurd hsample.1 (by simp)

end Encoding

/-- What `inet_pton` makes of the loopback address of AF_INET, and no other host. -/
def loopback : InetPton where
  parse := fun domain host =>
    if domain = afInet ∧ host = "127.0.0.1" then some [127, 0, 0, 1] else none
  inet := by
    intro host addr h
    split at h
    · exact Option.some.inj h ▸ rfl
    · exact absurd h (by simp)
  inet6 := by
    intro host addr h
    split at h
    next hd => exact absurd hd.1 (by decide)
    next => exact absurd h (by simp)

/-- A connect to port 65616 goes to port 80. -/
theorem connect_wrong_port :
    ¬ AddressedKind.connect.Encodes loopback CallEnv.ok.buffers afInet "127.0.0.1" 65616 ∧
      ∃ sub l' a len, AddressedKind.connect.sample (some [127, 0, 0, 1]) CallEnv.ok.buffers afInet
          65616 = .ok (.ok sub, l') ∧
        l'.ring.inflight.map (fun x => x.sqe.call.sockaddr) = [some (a, len)] ∧
        decode a.storage len = some (afInet, 80, [127, 0, 0, 1]) := by
  refine ⟨fun h => ?_, _, _, _, _, rfl, rfl, by decide⟩
  have hsample := h 0 false none .ok (socketLoop afInet) rfl on_socketLoop
  obtain ⟨x, hx, -, a, len, addr, hsock, -, hdec⟩ := hsample
  obtain rfl := List.mem_singleton.mp hx
  obtain ⟨rfl, rfl⟩ := Prod.mk.inj (Option.some.inj hsock)
  have hport : some (80 : Int) = some 65616 :=
    congrArg (Option.map fun r : Int × Int × List Nat => r.2.1) hdec
  exact absurd hport (by decide)

end AddressedKind

end Uringio
