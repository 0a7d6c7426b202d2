/-!
# Error numbers

The kernel reports a failure as a number. `Errno.describe` gives its message, and `Errno.kind` the
class that callers decide on: would-block, unsupported, or anything else.
-/

set_option autoImplicit false

namespace SocketLayer

/-- The classes of failure that change what a caller does next. -/
inductive FailureKind where
  | wouldBlock
  | unsupported
  | other
  deriving DecidableEq, Repr

/-- An error number of the kernel. -/
structure Errno where
  code : Int32
  deriving DecidableEq, Repr

namespace Errno

def noSuchEntry : Errno := ⟨2⟩
def badDescriptor : Errno := ⟨9⟩
def wouldBlock : Errno := ⟨11⟩
def fileExists : Errno := ⟨17⟩
def noSuchDevice : Errno := ⟨19⟩
def invalidArgument : Errno := ⟨22⟩
def tooManyOpenFiles : Errno := ⟨24⟩
def brokenPipe : Errno := ⟨32⟩
def notImplemented : Errno := ⟨38⟩
def protocolError : Errno := ⟨71⟩
def notSocket : Errno := ⟨88⟩
def destinationRequired : Errno := ⟨89⟩
def messageTooLong : Errno := ⟨90⟩
def protocolUnavailable : Errno := ⟨92⟩
def notSupported : Errno := ⟨95⟩
def familyNotSupported : Errno := ⟨97⟩
def addressInUse : Errno := ⟨98⟩
def addressUnavailable : Errno := ⟨99⟩
def networkUnreachable : Errno := ⟨101⟩
def connectionReset : Errno := ⟨104⟩
def alreadyConnected : Errno := ⟨106⟩
def notConnected : Errno := ⟨107⟩
def connectionRefused : Errno := ⟨111⟩
def inProgress : Errno := ⟨115⟩

/-- Would-block is one number; two say that a call is not supported. -/
def kind (e : Errno) : FailureKind :=
  if e = wouldBlock then .wouldBlock
  else if e = notImplemented ∨ e = notSupported then .unsupported
  else .other

/-- Whether a failed connect goes on in the background. -/
def isInProgress (e : Errno) : Bool := e == inProgress

/-- The messages in the order of their numbers; an unused number has the empty message. -/
def messages : Array String := #[
  "Success",
  "Operation not permitted",
  "No such file or directory",
  "No such process",
  "Interrupted system call",
  "Input/output error",
  "No such device or address",
  "Argument list too long",
  "Exec format error",
  "Bad file descriptor",
  "No child processes",
  "Resource temporarily unavailable",
  "Cannot allocate memory",
  "Permission denied",
  "Bad address",
  "Block device required",
  "Device or resource busy",
  "File exists",
  "Invalid cross-device link",
  "No such device",
  "Not a directory",
  "Is a directory",
  "Invalid argument",
  "Too many open files in system",
  "Too many open files",
  "Inappropriate ioctl for device",
  "Text file busy",
  "File too large",
  "No space left on device",
  "Illegal seek",
  "Read-only file system",
  "Too many links",
  "Broken pipe",
  "Numerical argument out of domain",
  "Numerical result out of range",
  "Resource deadlock avoided",
  "File name too long",
  "No locks available",
  "Function not implemented",
  "Directory not empty",
  "Too many levels of symbolic links",
  "",
  "No message of desired type",
  "Identifier removed",
  "Channel number out of range",
  "Level 2 not synchronized",
  "Level 3 halted",
  "Level 3 reset",
  "Link number out of range",
  "Protocol driver not attached",
  "No CSI structure available",
  "Level 2 halted",
  "Invalid exchange",
  "Invalid request descriptor",
  "Exchange full",
  "No anode",
  "Invalid request code",
  "Invalid slot",
  "",
  "Bad font file format",
  "Device not a stream",
  "No data available",
  "Timer expired",
  "Out of streams resources",
  "Machine is not on the network",
  "Package not installed",
  "Object is remote",
  "Link has been severed",
  "Advertise error",
  "Srmount error",
  "Communication error on send",
  "Protocol error",
  "Multihop attempted",
  "RFS specific error",
  "Bad message",
  "Value too large for defined data type",
  "Name not unique on network",
  "File descriptor in bad state",
  "Remote address changed",
  "Can not access a needed shared library",
  "Accessing a corrupted shared library",
  ".lib section in a.out corrupted",
  "Attempting to link in too many shared libraries",
  "Cannot exec a shared library directly",
  "Invalid or incomplete multibyte or wide character",
  "Interrupted system call should be restarted",
  "Streams pipe error",
  "Too many users",
  "Socket operation on non-socket",
  "Destination address required",
  "Message too long",
  "Protocol wrong type for socket",
  "Protocol not available",
  "Protocol not supported",
  "Socket type not supported",
  "Operation not supported",
  "Protocol family not supported",
  "Address family not supported by protocol",
  "Address already in use",
  "Cannot assign requested address",
  "Network is down",
  "Network is unreachable",
  "Network dropped connection on reset",
  "Software caused connection abort",
  "Connection reset by peer",
  "No buffer space available",
  "Transport endpoint is already connected",
  "Transport endpoint is not connected",
  "Cannot send after transport endpoint shutdown",
  "Too many references: cannot splice",
  "Connection timed out",
  "Connection refused",
  "Host is down",
  "No route to host",
  "Operation already in progress",
  "Operation now in progress",
  "Stale file handle",
  "Structure needs cleaning",
  "Not a XENIX named type file",
  "No XENIX semaphores available",
  "Is a named type file",
  "Remote I/O error",
  "Disk quota exceeded",
  "No medium found",
  "Wrong medium type",
  "Operation canceled",
  "Required key not available",
  "Key has expired",
  "Key has been revoked",
  "Key was rejected by service",
  "Owner died",
  "State not recoverable",
  "Operation not possible due to RF-kill",
  "Memory page has hardware error"
]

/-- The message of an error number; a number without one is called unknown. -/
def message (e : Errno) : String :=
  let unknown := "Unknown error " ++ toString e.code.toInt
  if e.code.toInt < 0 then unknown
  else
    match messages[e.code.toInt.toNat]? with
    | some text => if text.isEmpty then unknown else text
    | none => unknown

/-- The message with its number, as shown to the user. -/
def describe (e : Errno) : String :=
  e.message ++ " (os error " ++ toString e.code.toInt ++ ")"

theorem kind_eq_wouldBlock_iff (e : Errno) : e.kind = .wouldBlock ↔ e = wouldBlock := by
  unfold kind
  split
  · simp [*]
  · split <;> simp [*]

theorem kind_eq_unsupported_iff (e : Errno) :
    e.kind = .unsupported ↔ e = notImplemented ∨ e = notSupported := by
  unfold kind
  split
  · rename_i h
    subst h
    simp only [reduceCtorEq, false_iff, not_or]
    decide
  · split <;> simp [*]

end Errno
end SocketLayer
