/-!
# Outcomes of data transfer

A call that moves bytes over a connection ends in one of three ways, and the caller only decides
whether to go on, to wait or to close. The cause of a disconnect is dropped on purpose.
-/

set_option autoImplicit false

namespace SocketLayer

/-- How a send, a receive or a peek ended. -/
inductive Transfer where
  /-- So many bytes were moved. -/
  | transferred (count : Nat)
  /-- The call would block; poll for readiness and try again. -/
  | retry
  /-- The connection is finished: closed in order, or failed. -/
  | disconnected
  deriving DecidableEq, Repr

namespace Transfer

/-- The bytes moved, if any were. -/
def count? : Transfer → Option Nat
  | .transferred count => some count
  | _ => none

/-- Whether the caller should try again. -/
def isRetry (t : Transfer) : Bool := t == .retry

/-- Whether the connection is finished. -/
def isDisconnected (t : Transfer) : Bool := t == .disconnected

/-- Whether bytes were moved, perhaps none. -/
def isTransferred (t : Transfer) : Bool := t.count?.isSome

/-- The outcome's name in answers. -/
def name : Transfer → String
  | .transferred _ => "Transferred"
  | .retry => "Retry"
  | .disconnected => "Disconnected"

end Transfer

/-- How a successful connect stands. -/
inductive Connect where
  /-- The connection is up. -/
  | established
  /-- The handshake goes on; wait for writability. -/
  | inProgress
  deriving DecidableEq, Repr

/-- The connect result's name in answers. -/
def Connect.name : Connect → String
  | .established => "Established"
  | .inProgress => "InProgress"

end SocketLayer
