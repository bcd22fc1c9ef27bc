/-
  The C-layer file operations (`src/ops/files`). Each takes its SQE, lets one prep helper
  fill it, sets the request index and submits (`prepAndSubmit`); the result is -1, 0 or 1.
-/
import Uringio.Timer.Timer

namespace Uringio

/-- O_RDWR | O_CREAT. -/
def openDefaultFlags : Int := 66

/-- IORING_FSYNC_DATASYNC. -/
def ioringFsyncDatasync : Nat := 1

/-- RWF_NOWAIT. -/
def rwfNowait : Int := 8

/-- Selects a buffer group on a prepared SQE. -/
def selectBuffer (bgid : Int) (e : Sqe) : Sqe :=
  { e with flags := e.flags ||| iosqeBufferSelect, bufIndex := toUint16 bgid }

def openFile (r : Ring) (requestIdx dfd : Int) (path : String) (flags resolve mode : Int)
    (timeoutParams : TimeoutParams) (submit : Int) : Int × Ring :=
  let flags := if flags = -1 then openDefaultFlags else flags
  let how : OpenHow := ⟨toUint64 flags, toUnsigned mode, toUint64 resolve⟩
  prepAndSubmit r requestIdx timeoutParams (ioUringPrep (.openat2 dfd path how)) submit

def uringioRead (r : Ring) (requestIdx fd : Int) (buf : Ptr) (size : Nat) (offset : Int)
    (timeoutParams : TimeoutParams) (submit : Int) : Int × Ring :=
  prepAndSubmit r requestIdx timeoutParams (ioUringPrep (.read fd buf size (toUint64 offset)))
    submit

def uringioReadv (r : Ring) (requestIdx fd : Int) (iovecs : List Iovec) (nrVecs : Nat)
    (offset : Int) (nowait : Bool) (timeoutParams : TimeoutParams) (submit : Int) : Int × Ring :=
  let flags := if nowait then rwfNowait else 0
  prepAndSubmit r requestIdx timeoutParams
    (ioUringPrep (.readv2 fd iovecs nrVecs (toUint64 offset) flags)) submit

def uringioWrite (r : Ring) (requestIdx fd : Int) (buf : Ptr) (size : Nat) (offset : Int)
    (timeoutParams : TimeoutParams) (submit : Int) : Int × Ring :=
  prepAndSubmit r requestIdx timeoutParams (ioUringPrep (.write fd buf size (toUint64 offset)))
    submit

def uringioWritev (r : Ring) (requestIdx fd : Int) (iovecs : List Iovec) (nrVecs : Nat)
    (offset flags : Int) (timeoutParams : TimeoutParams) (submit : Int) : Int × Ring :=
  prepAndSubmit r requestIdx timeoutParams
    (ioUringPrep (.writev2 fd iovecs nrVecs (toUint64 offset) flags)) submit

def uringioCloseFile (r : Ring) (requestIdx fd : Int) (timeoutParams : TimeoutParams)
    (submit : Int) : Int × Ring :=
  prepAndSubmit r requestIdx timeoutParams (ioUringPrep (.close fd)) submit

def uringioFsync (r : Ring) (requestIdx fd : Int) (timeoutParams : TimeoutParams)
    (submit : Int) : Int × Ring :=
  prepAndSubmit r requestIdx timeoutParams (ioUringPrep (.fsync fd 0)) submit

def uringioFdatasync (r : Ring) (requestIdx fd : Int) (timeoutParams : TimeoutParams)
    (submit : Int) : Int × Ring :=
  prepAndSubmit r requestIdx timeoutParams (ioUringPrep (.fsync fd ioringFsyncDatasync)) submit

def uringioSplice (r : Ring) (requestIdx fdIn offIn fdOut offOut nbytes flag : Int)
    (timeoutParams : TimeoutParams) (submit : Int) : Int × Ring :=
  prepAndSubmit r requestIdx timeoutParams
    (ioUringPrep (.splice fdIn offIn fdOut offOut (toUnsigned nbytes) (toUnsigned flag))) submit

def uringioReadFixed (r : Ring) (requestIdx fd : Int) (buf : Ptr) (size : Nat)
    (offset bufIndex : Int) (timeoutParams : TimeoutParams) (submit : Int) : Int × Ring :=
  prepAndSubmit r requestIdx timeoutParams
    (ioUringPrep (.readFixed fd buf size (toUint64 offset) bufIndex)) submit

def uringioWriteFixed (r : Ring) (requestIdx fd : Int) (buf : Ptr) (size : Nat)
    (offset bufIndex : Int) (timeoutParams : TimeoutParams) (submit : Int) : Int × Ring :=
  prepAndSubmit r requestIdx timeoutParams
    (ioUringPrep (.writeFixed fd buf size (toUint64 offset) bufIndex)) submit

def uringioReadMultishot (r : Ring) (requestIdx fd offset bgid : Int)
    (timeoutParams : TimeoutParams) (submit : Int) : Int × Ring :=
  prepAndSubmit r requestIdx timeoutParams
    (ioUringPrep (.readMultishot fd 0 (toUint64 offset) bgid)) submit

def uringioReadBufferSelect (r : Ring) (requestIdx fd : Int) (size : Nat) (offset bgid : Int)
    (timeoutParams : TimeoutParams) (submit : Int) : Int × Ring :=
  prepAndSubmit r requestIdx timeoutParams
    (selectBuffer bgid ∘ ioUringPrep (.read fd .null size (toUint64 offset))) submit

def uringioReadvBufferSelect (r : Ring) (requestIdx fd : Int) (size : Nat) (offset bgid : Int)
    (nowait : Bool) (timeoutParams : TimeoutParams) (submit : Int) : Int × Ring :=
  let flags := if nowait then rwfNowait else 0
  prepAndSubmit r requestIdx timeoutParams
    (selectBuffer bgid ∘ ioUringPrep (.readv2 fd [⟨.null, size⟩] 1 (toUint64 offset) flags)) submit

end Uringio
