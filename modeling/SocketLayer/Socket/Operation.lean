import SocketLayer.OptionProfile
import SocketLayer.Socket.Connection
import SocketLayer.Socket.Data
import SocketLayer.Socket.Peer
import SocketLayer.Socket.Readiness

/-!
# Operations on a live handle

Every operation that a live handle offers, as data: what holds of `Socket.perform` for each
`Operation` holds of the whole interface. Ending a handle (`close`, `drop`, `release`) and making
one are not among them.
-/

set_option autoImplicit false

namespace SocketLayer

/-- An operation on a live handle with its arguments. -/
inductive Operation where
  | configureNonBlocking
  | bind (address : SocketAddress)
  | bindIpv4 (ip : Ipv4) (port : UInt16)
  | tryBind (address : SocketAddress)
  | listen (backlog : Int32)
  | accept
  | connect (address : SocketAddress)
  | shutdown (direction : Direction)
  | localAddress
  | peerAddress
  | peerIp
  | peerPort
  | send (data : List UInt8)
  | sendTo (data : List UInt8) (address : SocketAddress)
  | receive (capacity : Nat)
  | peek (capacity : Nat)
  | isDead
  | setSendBufferSize (size : Nat)
  | sendBufferSize
  | setReceiveBufferSize (size : Nat)
  | receiveBufferSize
  | setLinger (linger : Option Duration)
  | linger
  | setReuseAddress (on : Bool)
  | reuseAddress
  | setReusePort (on : Bool)
  | reusePort
  | setTcpNoDelay (on : Bool)
  | tcpNoDelay
  | apply (profile : OptionProfile)
  | joinMulticast (interface group : Ipv4)
  | leaveMulticast (interface group : Ipv4)
  | setMulticastTtl (ttl : UInt8)
  | setMulticastLoop (on : Bool)
  | setMulticastInterface (interface : Ipv4)
  | register (poller : Descriptor) (token : Nat) (interest : Interest)
  | reregister (poller : Descriptor) (token : Nat) (interest : Interest)
  | deregister (poller : Descriptor)
  deriving DecidableEq, Repr

namespace Operation

/-- What the operation tells its caller. -/
def Result : Operation → Type
  | .bind _ | .bindIpv4 _ _ | .isDead | .joinMulticast _ _ | .leaveMulticast _ _ => Bool
  | .accept => Except NetError (Option Socket)
  | .connect _ => Except NetError Connect
  | .localAddress => Except NetError SocketAddress
  | .peerAddress => Except NetError Endpoint
  | .peerIp => Except NetError Ipv4
  | .peerPort => Except NetError UInt16
  | .send _ => Transfer
  | .sendTo _ _ => Except NetError Nat
  | .receive _ | .peek _ => Transfer × List UInt8
  | .sendBufferSize | .receiveBufferSize => Except NetError Int32
  | .linger => Except NetError (Option Duration)
  | .reuseAddress | .reusePort | .tcpNoDelay => Except NetError Bool
  | .register _ _ _ | .reregister _ _ _ | .deregister _ => Except Errno Unit
  | _ => Except NetError Unit

end Operation

namespace Socket

/-- Pairs a result with the handle it leaves as it was. -/
def keeping {α : Type} (s : Socket) (program : Program α) : Program (α × Socket) := do
  return (← program, s)

/-- Performs an operation: its result, and the handle afterwards. -/
def perform (s : Socket) : (operation : Operation) → Program (operation.Result × Socket)
  | .configureNonBlocking => s.configureNonBlocking
  | .bind address => s.bind address
  | .bindIpv4 ip port => s.bindIpv4 ip port
  | .tryBind address => s.tryBind address
  | .listen backlog => s.listen backlog
  | .accept => s.keeping s.accept
  | .connect address => s.connect address
  | .shutdown direction => s.keeping (s.shutdown direction)
  | .localAddress => s.keeping s.localAddress
  | .peerAddress => s.keeping s.peerAddress
  | .peerIp => s.keeping s.peerIp
  | .peerPort => s.keeping s.peerPort
  | .send data => s.keeping (s.send data)
  | .sendTo data address => s.keeping (s.sendTo data address)
  | .receive capacity => s.keeping (s.receive capacity)
  | .peek capacity => s.keeping (s.peek capacity)
  | .isDead => s.keeping s.isDead
  | .setSendBufferSize size => s.keeping (s.setSendBufferSize size)
  | .sendBufferSize => s.keeping s.sendBufferSize
  | .setReceiveBufferSize size => s.keeping (s.setReceiveBufferSize size)
  | .receiveBufferSize => s.keeping s.receiveBufferSize
  | .setLinger linger => s.keeping (s.setLinger linger)
  | .linger => s.keeping s.linger
  | .setReuseAddress on => s.keeping (s.setReuseAddress on)
  | .reuseAddress => s.keeping s.reuseAddress
  | .setReusePort on => s.keeping (s.setReusePort on)
  | .reusePort => s.keeping s.reusePort
  | .setTcpNoDelay on => s.keeping (s.setTcpNoDelay on)
  | .tcpNoDelay => s.keeping s.tcpNoDelay
  | .apply profile => s.keeping (profile.apply s)
  | .joinMulticast interface group => s.keeping (s.joinMulticast interface group)
  | .leaveMulticast interface group => s.keeping (s.leaveMulticast interface group)
  | .setMulticastTtl ttl => s.keeping (s.setMulticastTtl ttl)
  | .setMulticastLoop on => s.keeping (s.setMulticastLoop on)
  | .setMulticastInterface interface => s.keeping (s.setMulticastInterface interface)
  | .register poller token interest => s.keeping (s.register poller token interest)
  | .reregister poller token interest => s.keeping (s.reregister poller token interest)
  | .deregister poller => s.keeping (s.deregister poller)

end Socket
end SocketLayer
