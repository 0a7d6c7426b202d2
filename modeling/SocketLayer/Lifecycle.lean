/-!
# Transports and lifecycle positions

A handle has a transport for its whole life and a position in its lifecycle, which the operations
`bind`, `listen` and `connect` move forward.
-/

set_option autoImplicit false

namespace SocketLayer

/-- The transport protocol of a socket. -/
inductive Transport where
  | tcp
  | udp
  deriving DecidableEq, Repr

/-- The transport's name in answers and log records. -/
def Transport.name : Transport → String
  | .tcp => "tcp"
  | .udp => "udp"

/-- Where a handle stands: `created`, then perhaps `bound`, then `listening` or `connected`. -/
inductive Lifecycle where
  | created
  | bound
  | listening
  | connected
  deriving DecidableEq, Repr

/-- The position's name in answers and log records. -/
def Lifecycle.name : Lifecycle → String
  | .created => "Created"
  | .bound => "Bound"
  | .listening => "Listening"
  | .connected => "Connected"

/-- The directions a connection is shut down in. -/
inductive Direction where
  | read
  | write
  | both
  deriving DecidableEq, Repr

namespace Direction

/-- Whether reading stops. -/
def coversRead : Direction → Bool
  | .read | .both => true
  | .write => false

/-- Whether writing stops. -/
def coversWrite : Direction → Bool
  | .write | .both => true
  | .read => false

end Direction
end SocketLayer
