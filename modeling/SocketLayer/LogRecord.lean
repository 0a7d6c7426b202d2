import SocketLayer.NetError
import SocketLayer.SystemCall

/-!
# Log records

What the socket layer reports about itself: lifecycle steps at `debug`, the causes that a
`Transfer` drops at `trace`, and a close that fails unseen at `warn`.
-/

set_option autoImplicit false

namespace SocketLayer

/-- How much a record matters. -/
inductive LogLevel where
  | debug
  | trace
  | warn
  deriving DecidableEq, Repr

/-- The level's name in the log. -/
def LogLevel.name : LogLevel → String
  | .debug => "DEBUG"
  | .trace => "TRACE"
  | .warn => "WARN"

/-- One entry of the log. -/
inductive LogRecord where
  | createdTcp (fd : Descriptor) (blocking : Bool)
  | createdUdp (fd : Descriptor)
  | setupFailed (fd : Descriptor) (error : NetError)
  | closing (fd : Descriptor)
  | closeFailed (fd : Descriptor) (cause : IoFailure)
  | accepted (listener connection : Descriptor)
  | moved (fd : Descriptor) (source target : Lifecycle)
  | bindFailed (endpoint : Endpoint) (fd : Descriptor) (error : NetError)
  | disconnected (op : String) (fd : Descriptor) (cause : IoFailure)
  | peerClosed (op : String) (fd : Descriptor)
  | peerLookupFailed (fd : Descriptor) (cause : IoFailure)
  | membershipFailed (fd : Descriptor) (group interface : Ipv4) (cause : IoFailure)
  | reusePortSkipped
  deriving DecidableEq, Repr

namespace LogRecord

/-- The level a record is sent at. -/
def level : LogRecord → LogLevel
  | .closeFailed .. => .warn
  | .disconnected .. | .peerClosed .. | .peerLookupFailed .. => .trace
  | _ => .debug

/-- The text of a record; the caller says how descriptors and bound ports are written. -/
def text (descriptor : Descriptor → String) (port : UInt16 → String) : LogRecord → String
  | .createdTcp fd blocking =>
    "created tcp socket " ++ descriptor fd ++ " (blocking=" ++ toString blocking ++ ")"
  | .createdUdp fd => "created udp socket " ++ descriptor fd
  | .setupFailed fd error =>
    "socket " ++ descriptor fd ++ " setup failed, closing: " ++ error.message
  | .closing fd => "closing socket " ++ descriptor fd
  | .closeFailed fd cause => "failed to close socket " ++ descriptor fd ++ ": " ++ cause.message
  | .accepted listener connection =>
    "socket " ++ descriptor listener ++ " accepted " ++ descriptor connection
  | .moved fd source target =>
    "socket " ++ descriptor fd ++ ": " ++ source.name ++ " -> " ++ target.name
  | .bindFailed endpoint fd error =>
    "bind " ++ endpoint.ip.text ++ ":" ++ port endpoint.port ++ " on socket " ++ descriptor fd ++
      " failed: " ++ error.message
  | .disconnected op fd cause =>
    op ++ " on socket " ++ descriptor fd ++ " disconnected: " ++ cause.message
  | .peerClosed op fd => op ++ " on socket " ++ descriptor fd ++ ": peer closed"
  | .peerLookupFailed fd cause =>
    "getpeername on socket " ++ descriptor fd ++ " failed: " ++ cause.message
  | .membershipFailed fd group interface cause =>
    "socket " ++ descriptor fd ++ ": membership change for " ++ group.text ++ " via " ++
      interface.text ++ " failed: " ++ cause.message
  | .reusePortSkipped => "SO_REUSEPORT unavailable, skipped"

end LogRecord
end SocketLayer
