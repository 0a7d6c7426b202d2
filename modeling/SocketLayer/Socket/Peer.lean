import SocketLayer.Socket.Basic

/-!
# Looking up the peer

A peer is reported as an endpoint. A lookup that the kernel refuses means that there is no peer,
whatever the cause, and a peer of another family is reported as such.
-/

set_option autoImplicit false

namespace SocketLayer.Socket

/-- The endpoint of the connected peer. -/
def peerAddress (s : Socket) : Program (Except NetError Endpoint) := do
  match ← Program.request (.peerName s.descriptor) with
  | .ok address =>
    if address.family = .inet then return .ok address.endpoint
    else return .error (.unsupportedFamily (.ofNat address.family.toNat))
  | .error e =>
    Program.note (.peerLookupFailed s.descriptor (.errno e))
    return .error .noPeer

/-- The address of the connected peer. -/
def peerIp (s : Socket) : Program (Except NetError Ipv4) := do
  return (← s.peerAddress).map Endpoint.ip

/-- The port of the connected peer. -/
def peerPort (s : Socket) : Program (Except NetError UInt16) := do
  return (← s.peerAddress).map Endpoint.port

end SocketLayer.Socket
