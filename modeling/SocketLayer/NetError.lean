import SocketLayer.Errno
import SocketLayer.Lifecycle

/-!
# Failures of socket operations

An `IoFailure` is what a system call reports; a `NetError` is what an operation reports. The one
becomes the other under the name of the operation (`NetError.ofIo`), except that a failure which
says "not supported" loses its cause and becomes `NetError.unsupported`. Data transfer on a
connection has no part in this: it ends in a `Transfer`.
-/

set_option autoImplicit false

namespace SocketLayer

/-- A failure of an input or output call. -/
inductive IoFailure where
  /-- The kernel answered with an error number. -/
  | errno (number : Errno)
  /-- A bare class with no number. -/
  | bare (kind : FailureKind)
  /-- A class with a message of its own. -/
  | described (kind : FailureKind) (text : String)
  deriving DecidableEq, Repr

namespace IoFailure

/-- The class of the failure. -/
def kind : IoFailure → FailureKind
  | .errno number => number.kind
  | .bare kind => kind
  | .described kind _ => kind

/-- The error number, where there is one. -/
def number? : IoFailure → Option Errno
  | .errno number => some number
  | _ => none

/-- The failure as shown to the user. -/
def message : IoFailure → String
  | .errno number => number.describe
  | .bare .wouldBlock => "operation would block"
  | .bare .unsupported => "unsupported"
  | .bare .other => "other error"
  | .described _ text => text

/-- Whether a failed connect goes on in the background: only the kernel's own number says so. -/
def isInProgress (failure : IoFailure) : Bool :=
  match failure.number? with
  | some number => number.isInProgress
  | none => false

end IoFailure

/-- Why a socket operation failed. -/
inductive NetError where
  /-- A system call made for the named operation failed. -/
  | os (op : String) (cause : IoFailure)
  /-- The raw value does not name a descriptor. -/
  | invalidHandle
  /-- The handle's lifecycle position does not allow the operation. -/
  | invalidState (op : String) (state : Lifecycle)
  /-- The handle has no established peer. -/
  | noPeer
  /-- The peer is of another family. -/
  | unsupportedFamily (family : Int32)
  /-- The operation does not exist here. -/
  | unsupported (op : String)
  deriving DecidableEq, Repr

namespace NetError

/-- The failure of a system call made for the named operation. -/
def ofIo (op : String) (failure : IoFailure) : NetError :=
  if failure.kind = .unsupported then .unsupported op else .os op failure

/-- The failure of a system call that answered with an error number. -/
def ofErrno (op : String) (number : Errno) : NetError := ofIo op (.errno number)

/-- The failure beneath, where there is one. -/
def cause? : NetError → Option IoFailure
  | .os _ cause => some cause
  | _ => none

/-- The error as shown to the user. -/
def message : NetError → String
  | .os op cause => op ++ ": " ++ cause.message
  | .invalidHandle => "invalid socket handle"
  | .invalidState op state => op ++ " is not valid on a " ++ state.name ++ " socket"
  | .noPeer => "socket has no peer"
  | .unsupportedFamily family => "unsupported peer address family " ++ toString family.toInt
  | .unsupported op => op ++ " is not supported on this platform"

/-- Errors made from a failed call never carry an "unsupported" cause. -/
theorem ofIo_ne_os_of_unsupported {op op' : String} {failure cause : IoFailure}
    (h : ofIo op failure = .os op' cause) : cause.kind ≠ .unsupported := by
  unfold ofIo at h
  split at h
  · cases h
  · rename_i hk
    cases h
    exact hk

end NetError
end SocketLayer
