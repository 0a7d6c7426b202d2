import SocketLayer.Socket.Basic

/-!
# Bind, listen, accept, connect, shut down

These operations move a handle through its lifecycle. A handle is never both listening and
connected: connect is refused on a listener, listen on a connected handle, and accept works on a
listener only. A call that its guard refuses makes no system call.
-/

set_option autoImplicit false

namespace SocketLayer.Socket

/-- Gives the handle a local address. -/
def tryBind (s : Socket) (address : SocketAddress) : Program (Except NetError Unit × Socket) := do
  if s.state ≠ .created then
    return (.error (.invalidState "bind" s.state), s)
  match ← ask "bind" (.bind s.descriptor address) with
  | .error error => return (.error error, s)
  | .ok () => return (.ok (), ← s.moveTo .bound)

/-- Gives the handle a local address and tells only whether it worked. -/
def bind (s : Socket) (address : SocketAddress) : Program (Bool × Socket) := do
  match ← s.tryBind address with
  | (.ok (), s) => return (true, s)
  | (.error error, s) =>
    Program.note (.bindFailed address.endpoint s.descriptor error)
    return (false, s)

/-- Gives the handle the local address made of the given parts. -/
def bindIpv4 (s : Socket) (ip : Ipv4) (port : UInt16) : Program (Bool × Socket) :=
  s.bind (.ofEndpoint ⟨ip, port⟩)

/-- Whether a handle may start listening: TCP, and not yet listening or connected. -/
def mayListen (s : Socket) : Bool :=
  s.transport = .tcp && (s.state = .created || s.state = .bound)

/-- Starts accepting connections. -/
def listen (s : Socket) (backlog : Int32) : Program (Except NetError Unit × Socket) := do
  if !s.mayListen then
    return (.error (.invalidState "listen" s.state), s)
  match ← ask "listen" (.listen s.descriptor backlog) with
  | .error error => return (.error error, s)
  | .ok () => return (.ok (), ← s.moveTo .listening)

/-- Takes one pending connection; `none` says that a non-blocking listener has none. -/
def accept (s : Socket) : Program (Except NetError (Option Socket)) := do
  if s.state ≠ .listening then
    return .error (.invalidState "accept" s.state)
  match ← Program.request (.accept s.descriptor s.nonBlocking true) with
  | .ok fd =>
    Program.note (.accepted s.descriptor fd)
    return .ok (some ⟨fd, .tcp, .connected, s.nonBlocking⟩)
  | .error e =>
    if e.kind = .wouldBlock then return .ok none else return .error (.ofErrno "accept" e)

/-- Connects to a remote address; a pending handshake counts as connected. -/
def connect (s : Socket) (address : SocketAddress) : Program (Except NetError Connect × Socket) := do
  if s.state = .listening then
    return (.error (.invalidState "connect" s.state), s)
  match ← Program.request (.connect s.descriptor address) with
  | .ok () => return (.ok .established, ← s.moveTo .connected)
  | .error e =>
    if e.isInProgress then return (.ok .inProgress, ← s.moveTo .connected)
    else return (.error (.ofErrno "connect" e), s)

/-- Shuts down one direction or both. -/
def shutdown (s : Socket) (direction : Direction) : Program (Except NetError Unit) :=
  ask "shutdown" (.shutdown s.descriptor direction)

/-- The local address, in the form the kernel gave it. -/
def localAddress (s : Socket) : Program (Except NetError SocketAddress) :=
  ask "local_addr" (.localName s.descriptor)

end SocketLayer.Socket
