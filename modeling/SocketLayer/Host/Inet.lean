import SocketLayer.Host.Settings
import SocketLayer.Host.Watch

/-!
# IPv4 sockets of a host without a network

No interface of the host is up: it has no address of its own and no route. A socket can be bound to
any address and can listen, but it never has a peer and never receives anything, so what is left of
its state is its local name, its options and the directions that were shut down.
-/

set_option autoImplicit false

namespace SocketLayer.Host

/-- An IPv4 socket without a peer. -/
structure InetSocket where
  transport : Transport
  settings : Settings
  noDelay : Bool
  multicastTtl : Int32
  multicastLoop : Bool
  listening : Bool
  /-- The local address; unspecified until one is bound. -/
  ip : Ipv4
  /-- The port held, zero for none. -/
  port : UInt16
  /-- The port that a name lookup shows: the last one held. -/
  shownPort : UInt16
  /-- Whether the address was chosen by a bind, so that ending a listen keeps it. -/
  ipChosen : Bool
  /-- Whether the port was chosen by a bind, so that ending a listen keeps it. -/
  portChosen : Bool
  readShut : Bool
  writeShut : Bool
  deriving DecidableEq, Repr

namespace InetSocket

/-- A socket as it is made. -/
def fresh (transport : Transport) : InetSocket where
  transport
  settings := match transport with
    | .tcp => .fresh 16384 131072
    | .udp => .fresh 212992 212992
  noDelay := false
  multicastTtl := 1
  multicastLoop := true
  listening := false
  ip := .unspecified
  port := 0
  shownPort := 0
  ipChosen := false
  portChosen := false
  readShut := false
  writeShut := false

/-- The local endpoint as a name lookup shows it. -/
def localEndpoint (s : InetSocket) : Endpoint := ⟨s.ip, s.shownPort⟩

/-- The socket holding a port. -/
def withPort (s : InetSocket) (port : UInt16) : InetSocket := { s with port, shownPort := port }

/-- Whether two local addresses can be the target of one packet. -/
def addressesMeet (a b : Ipv4) : Bool := a == b || a == .unspecified || b == .unspecified

/-- The longest datagram the protocol has room for. -/
def longestDatagram : Nat := 65507

/-- The longest datagram that is looked at. -/
def longestMessage : Nat := 65535

/-- The reply to a send on a socket without a peer. -/
def send (s : InetSocket) (length : Nat) : Except Errno Nat :=
  match s.transport with
  | .tcp => .error .brokenPipe
  | .udp => if length > longestMessage then .error .messageTooLong else .error .destinationRequired

/-- The reply to a send to an address. Without a route only the unspecified address, which stands
for the host itself, can be sent to; the datagram is lost on the interface that is down. -/
def sendTo (s : InetSocket) (length : Nat) (target : SocketAddress) : Except Errno Nat :=
  match s.transport with
  | .tcp => .error .brokenPipe
  | .udp =>
    if length > longestMessage then .error .messageTooLong
    else if target.family ≠ .inet then .error .familyNotSupported
    else if target.port = 0 then .error .invalidArgument
    else if target.ip ≠ .unspecified then .error .networkUnreachable
    else if s.writeShut then .error .brokenPipe
    else if length > longestDatagram then .error .messageTooLong
    else .ok length

/-- The reply to a connect: there is no route to any address. -/
def connect (s : InetSocket) (target : SocketAddress) : Except Errno Unit :=
  if s.listening then .error .alreadyConnected
  else if target.family ≠ .inet then .error .familyNotSupported
  else .error .networkUnreachable

/-- The reply to a receive. A stream that is not connected has ended or never began; a datagram
socket has nothing queued. -/
def receive (s : InetSocket) (nonBlocking : Bool) : Except Errno (List UInt8) :=
  match s.transport with
  | .tcp => if s.readShut && !s.listening then .ok [] else .error .notConnected
  | .udp => if s.readShut && !nonBlocking then .ok [] else .error .wouldBlock

/-- Why an accept takes nothing: nothing ever arrives. -/
def acceptRefusal (s : InetSocket) : Errno :=
  match s.transport with
  | .udp => .notSupported
  | .tcp => if s.listening then .wouldBlock else .invalidArgument

/-- Marks directions as shut down. -/
def shut (s : InetSocket) (direction : Direction) : InetSocket :=
  { s with
    readShut := s.readShut || direction.coversRead
    writeShut := s.writeShut || direction.coversWrite }

/-- Ends listening: what a bind chose stays, the rest is given up. -/
def endListening (s : InetSocket) : InetSocket :=
  { s with
    listening := false
    ip := if s.ipChosen then s.ip else .unspecified
    port := if s.portChosen then s.port else 0
    readShut := false
    writeShut := false }

/-- The socket's readiness. -/
def readiness (s : InetSocket) : Readiness :=
  match s.transport with
  | .tcp =>
    if s.listening then {}
    else { readable := s.readShut, peerClosed := s.readShut, writable := true, hungUp := true }
  | .udp =>
    { readable := s.readShut, peerClosed := s.readShut, writable := true,
      hungUp := s.readShut && s.writeShut }

/-- The reply to setting a word option, with the socket afterwards. -/
def setWord (s : InetSocket) (name : WordOption) (value : Int32) : Except Errno InetSocket :=
  let settings := s.settings
  match name, s.transport with
  | .sendBuffer, _ =>
    .ok { s with
      settings.sendBuffer := Settings.bufferSize Settings.leastSendBuffer value }
  | .receiveBuffer, _ =>
    .ok { s with
      settings.receiveBuffer := Settings.bufferSize Settings.leastReceiveBuffer value }
  | .reuseAddress, _ => .ok { s with settings := { settings with reuseAddress := value != 0 } }
  | .reusePort, _ => .ok { s with settings := { settings with reusePort := value != 0 } }
  | .tcpNoDelay, .tcp => .ok { s with noDelay := value != 0 }
  | .tcpNoDelay, .udp => .error .protocolUnavailable
  | .multicastTtl, .tcp => .error .invalidArgument
  | .multicastTtl, .udp => .ok { s with multicastTtl := value }
  | .multicastLoop, _ => .ok { s with multicastLoop := value != 0 }

/-- The reply to reading a word option. -/
def getWord (s : InetSocket) (name : WordOption) : Except Errno Int32 :=
  match name, s.transport with
  | .sendBuffer, _ => .ok (.ofNat s.settings.sendBuffer)
  | .receiveBuffer, _ => .ok (.ofNat s.settings.receiveBuffer)
  | .reuseAddress, _ => .ok (flagWord s.settings.reuseAddress)
  | .reusePort, _ => .ok (flagWord s.settings.reusePort)
  | .tcpNoDelay, .tcp => .ok (flagWord s.noDelay)
  | .tcpNoDelay, .udp => .error .notSupported
  | .multicastTtl, _ => .ok s.multicastTtl
  | .multicastLoop, _ => .ok (flagWord s.multicastLoop)

/-- The reply to choosing the interface of group datagrams: only "any" names one. -/
def setMulticastInterface (s : InetSocket) (interface : Octets) : Except Errno Unit :=
  match s.transport with
  | .tcp => .error .invalidArgument
  | .udp =>
    if Ipv4.ofOctets interface = .unspecified then .ok () else .error .addressUnavailable

/-- The reply to a change of membership: there is no interface to join on, and nothing to leave. -/
def changeMembership (s : InetSocket) (change : MembershipChange) (group interface : Octets) :
    Except Errno Unit :=
  let group := Ipv4.ofOctets group
  match s.transport, change with
  | .tcp, _ => .error .protocolError
  | .udp, .join => if group.isMulticast then .error .noSuchDevice else .error .invalidArgument
  | .udp, .leave =>
    if Ipv4.ofOctets interface = .unspecified && group != .unspecified then .error .noSuchDevice
    else .error .addressUnavailable

end InetSocket
end SocketLayer.Host
