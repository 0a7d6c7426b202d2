import SocketLayer.Socket.Basic

/-!
# Readiness

A handle is an event source: an event loop that owns a poller watches its descriptor and learns
when a call that ended in `retry` is worth repeating. The layer itself never waits.
-/

set_option autoImplicit false

namespace SocketLayer.Socket

/-- Starts watching the handle under a token. -/
def register (s : Socket) (poller : Descriptor) (token : Nat) (interest : Interest) :
    Program (Except Errno Unit) :=
  Program.request (.watch poller s.descriptor token interest)

/-- Changes the token and the interest under which the handle is watched. -/
def reregister (s : Socket) (poller : Descriptor) (token : Nat) (interest : Interest) :
    Program (Except Errno Unit) :=
  Program.request (.rewatch poller s.descriptor token interest)

/-- Stops watching the handle. -/
def deregister (s : Socket) (poller : Descriptor) : Program (Except Errno Unit) :=
  Program.request (.unwatch poller s.descriptor)

end SocketLayer.Socket
