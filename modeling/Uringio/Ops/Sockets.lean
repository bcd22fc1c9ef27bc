/-
  The C-layer socket operations (`src/ops/sockets`). They have the shape of the file
  operations, except `prepSocket`, which checks the domain after its SQE was taken and
  returns -2 for one it does not support.
-/
import Uringio.Ops.Files

namespace Uringio

def afInet : Int := 2
def afInet6 : Int := 10

/-- The `flags` argument built from `is_poll_first`. -/
def pollFirstFlags (isPollFirst : Bool) : Nat := if isPollFirst then ioringRecvsendPollFirst else 0

/-- Marks a prepared SQE as using the registered buffer `bufIndex`. -/
def useFixedBuf (bufIndex : Int) (e : Sqe) : Sqe :=
  { e with bufIndex := toUint16 bufIndex, ioprio := e.ioprio ||| ioringRecvsendFixedBuf }

def prepSocket (r : Ring) (requestIdx domain type : Int) (timeoutParams : TimeoutParams)
    (submit : Int) : Int × Ring :=
  match sqeWithOptionalTimeout r (some timeoutParams) with
  | (none, r) => (-1, r)
  | (some sqe, r) =>
    if !(domain = afInet ∨ domain = afInet6) then (-2, r)
    else
      setDataAndSubmit (r.modify sqe (ioUringPrep (.socket domain type 0 0))) sqe requestIdx submit

def uringioBind (r : Ring) (requestIdx fd : Int) (addr : SockAddr) (addrlen : Nat)
    (timeoutParams : TimeoutParams) (submit : Int) : Int × Ring :=
  prepAndSubmit r requestIdx timeoutParams (ioUringPrep (.bind fd addr addrlen)) submit

def uringioConnect (r : Ring) (requestIdx fd : Int) (addr : SockAddr) (addrlen : Nat)
    (timeoutParams : TimeoutParams) (submit : Int) : Int × Ring :=
  prepAndSubmit r requestIdx timeoutParams (ioUringPrep (.connect fd addr addrlen)) submit

def uringioListen (r : Ring) (requestIdx fd backlog : Int) (timeoutParams : TimeoutParams)
    (submit : Int) : Int × Ring :=
  prepAndSubmit r requestIdx timeoutParams (ioUringPrep (.listen fd backlog)) submit

def uringioAccept (r : Ring) (requestIdx sockfd : Int) (addr : Option Block) (flags : Int)
    (timeoutParams : TimeoutParams) (submit : Int) : Int × Ring :=
  prepAndSubmit r requestIdx timeoutParams (ioUringPrep (.accept sockfd addr flags)) submit

def uringioCloseSocket (r : Ring) (requestIdx sockfd : Int) (timeoutParams : TimeoutParams)
    (submit : Int) : Int × Ring :=
  prepAndSubmit r requestIdx timeoutParams (ioUringPrep (.close sockfd)) submit

def uringioSend (r : Ring) (requestIdx sockfd : Int) (buf : Ptr) (len : Nat) (isPollFirst : Bool)
    (timeoutParams : TimeoutParams) (submit : Int) : Int × Ring :=
  prepAndSubmit r requestIdx timeoutParams
    (ioUringPrep (.send sockfd buf len (pollFirstFlags isPollFirst))) submit

def uringioRecv (r : Ring) (requestIdx sockfd : Int) (buf : Ptr) (len : Nat) (isPollFirst : Bool)
    (timeoutParams : TimeoutParams) (submit : Int) : Int × Ring :=
  prepAndSubmit r requestIdx timeoutParams
    (ioUringPrep (.recv sockfd buf len (pollFirstFlags isPollFirst))) submit

def uringioSendto (r : Ring) (requestIdx sockfd : Int) (buf : Ptr) (len : Nat) (addr : SockAddr)
    (addrlen : Nat) (isPollFirst : Bool) (timeoutParams : TimeoutParams) (submit : Int) :
    Int × Ring :=
  prepAndSubmit r requestIdx timeoutParams
    (ioUringPrep (.sendto sockfd buf len (pollFirstFlags isPollFirst) addr addrlen)) submit

/-- The message header of `uringio_recvfrom` lies in the block the caller passes. -/
def uringioRecvfrom (r : Ring) (requestIdx sockfd : Int) (buf : Ptr) (len : Nat)
    (addr : SockAddr) (addrlen : Nat) (isPollFirst : Bool) (timeoutParams : TimeoutParams)
    (submit : Int) : Int × Ring :=
  let msg : Msghdr := ⟨some addr, addrlen, [⟨buf, len⟩], 1⟩
  prepAndSubmit r requestIdx timeoutParams
    (ioUringPrep (.recvmsg sockfd msg (pollFirstFlags isPollFirst))) submit

def uringioSendmsg (r : Ring) (requestIdx sockfd : Int) (iovecs : List Iovec) (nrVecs : Nat)
    (addr : Option SockAddr) (addrlen : Nat) (isPollFirst : Bool) (timeoutParams : TimeoutParams)
    (submit : Int) : Int × Ring :=
  let msg : Msghdr := ⟨addr, addrlen, iovecs, nrVecs⟩
  prepAndSubmit r requestIdx timeoutParams
    (ioUringPrep (.sendmsg sockfd msg (pollFirstFlags isPollFirst))) submit

def uringioRecvmsg (r : Ring) (requestIdx sockfd : Int) (iovecs : List Iovec) (nrVecs : Nat)
    (isPollFirst : Bool) (timeoutParams : TimeoutParams) (submit : Int) : Int × Ring :=
  let msg : Msghdr := ⟨none, 0, iovecs, nrVecs⟩
  prepAndSubmit r requestIdx timeoutParams
    (ioUringPrep (.recvmsg sockfd msg (pollFirstFlags isPollFirst))) submit

/-! ## Fixed buffers -/

def uringioRecvFixed (r : Ring) (requestIdx sockfd : Int) (buf : Ptr) (len : Nat)
    (isPollFirst : Bool) (bufIndex : Int) (timeoutParams : TimeoutParams) (submit : Int) :
    Int × Ring :=
  prepAndSubmit r requestIdx timeoutParams
    (useFixedBuf bufIndex ∘ ioUringPrep (.recv sockfd buf len (pollFirstFlags isPollFirst))) submit

def uringioRecvmsgFixed (r : Ring) (requestIdx sockfd : Int) (iovecs : List Iovec) (nrVecs : Nat)
    (isPollFirst : Bool) (bufIndex : Int) (timeoutParams : TimeoutParams) (submit : Int) :
    Int × Ring :=
  let msg : Msghdr := ⟨none, 0, iovecs, nrVecs⟩
  prepAndSubmit r requestIdx timeoutParams
    (useFixedBuf bufIndex ∘ ioUringPrep (.recvmsg sockfd msg (pollFirstFlags isPollFirst))) submit

/-! ## Multishot -/

def uringioAcceptMultishot (r : Ring) (requestIdx sockfd : Int) (addr : Option Block) (flags : Int)
    (timeoutParams : TimeoutParams) (submit : Int) : Int × Ring :=
  prepAndSubmit r requestIdx timeoutParams (ioUringPrep (.multishotAccept sockfd addr flags)) submit

def uringioRecvMultishot (r : Ring) (requestIdx sockfd : Int) (len : Nat) (bgid : Int)
    (isPollFirst : Bool) (timeoutParams : TimeoutParams) (submit : Int) : Int × Ring :=
  prepAndSubmit r requestIdx timeoutParams
    (selectBuffer bgid ∘
      ioUringPrep (.recvMultishot sockfd .null len (pollFirstFlags isPollFirst))) submit

def uringioRecvmsgMultishot (r : Ring) (requestIdx sockfd bgid : Int) (isPollFirst : Bool)
    (msghdr : Option Block) (timeoutParams : TimeoutParams) (submit : Int) : Int × Ring :=
  prepAndSubmit r requestIdx timeoutParams
    (selectBuffer bgid ∘
      ioUringPrep (.recvmsgMultishot sockfd msghdr (pollFirstFlags isPollFirst))) submit

/-- `is_uringio_recvmsg_multishot_resubmit_required`. -/
def isUringioRecvmsgMultishotResubmitRequired (c : Cqe) : Bool := !c.hasMore

/-! ## Buffer selection -/

def uringioRecvBufferSelect (r : Ring) (requestIdx sockfd : Int) (len : Nat) (bgid : Int)
    (isPollFirst : Bool) (timeoutParams : TimeoutParams) (submit : Int) : Int × Ring :=
  prepAndSubmit r requestIdx timeoutParams
    (selectBuffer bgid ∘ ioUringPrep (.recv sockfd .null len (pollFirstFlags isPollFirst))) submit

/-- The parameters `is_poll_first` and `bgid` stand in the order of the source, which is
    not the order of its siblings. -/
def uringioRecvmsgBufferSelect (r : Ring) (requestIdx sockfd : Int) (isPollFirst : Int)
    (bgid : Int) (timeoutParams : TimeoutParams) (submit : Int) : Int × Ring :=
  let msg : Msghdr := ⟨none, 0, [], 0⟩
  prepAndSubmit r requestIdx timeoutParams
    (selectBuffer bgid ∘
      ioUringPrep (.recvmsg sockfd msg (pollFirstFlags (isPollFirst != 0)))) submit

/-! ## Zero copy -/

def uringioSendZc (r : Ring) (requestIdx sockfd : Int) (buf : Ptr) (len : Nat)
    (isPollFirst : Bool) (timeoutParams : TimeoutParams) (submit : Int) : Int × Ring :=
  prepAndSubmit r requestIdx timeoutParams
    (ioUringPrep (.sendZc sockfd buf len (pollFirstFlags isPollFirst) 0)) submit

def uringioSendZcFixed (r : Ring) (requestIdx sockfd : Int) (buf : Ptr) (len : Nat)
    (isPollFirst : Bool) (bufIndex : Int) (timeoutParams : TimeoutParams) (submit : Int) :
    Int × Ring :=
  prepAndSubmit r requestIdx timeoutParams
    (ioUringPrep (.sendZcFixed sockfd buf len (pollFirstFlags isPollFirst) 0 bufIndex)) submit

def uringioSendmsgZc (r : Ring) (requestIdx sockfd : Int) (iovecs : List Iovec) (nrVecs : Nat)
    (addr : Option SockAddr) (addrlen : Nat) (isPollFirst : Bool) (bufIndex : Int)
    (timeoutParams : TimeoutParams) (submit : Int) : Int × Ring :=
  let msg : Msghdr := ⟨addr, addrlen, iovecs, nrVecs⟩
  prepAndSubmit r requestIdx timeoutParams
    (useFixedBuf bufIndex ∘ ioUringPrep (.sendmsgZc sockfd msg (pollFirstFlags isPollFirst))) submit

end Uringio
