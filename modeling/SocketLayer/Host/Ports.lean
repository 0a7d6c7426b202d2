import SocketLayer.Host.Basic

/-!
# Ports

A socket holds at most one port. Whether two sockets may hold the same port depends on their
transport, their local addresses, the reuse flags and, for TCP, on whether one of them listens.

* UDP: the latest other holder that is in the way decides.
* TCP: a port keeps a `PortGroup`, which lets a socket on without a look at the others when all of
  them reuse addresses, or share the port as the socket does.
-/

set_option autoImplicit false

namespace SocketLayer.Host

/-- The other sockets of a transport that hold a port, latest first. -/
def holdersOf (h : Host) (fd : Nat) (transport : Transport) (port : UInt16) : List InetSocket :=
  (h.holders.filter (· != fd)).filterMap fun other =>
    match h.inet? other with
    | some s => if s.transport = transport ∧ s.port = port then some s else none
    | none => none

/-- Whether a datagram socket is refused a port because of the others that hold it. -/
def datagramConflict (s : InetSocket) (others : List InetSocket) : Bool :=
  let inTheWay (other : InetSocket) :=
    !(other.settings.reuseAddress && s.settings.reuseAddress) &&
      InetSocket.addressesMeet s.ip other.ip
  match others.find? inTheWay with
  | some other => !(other.settings.reusePort && s.settings.reusePort)
  | none => false

/-- Whether a stream socket is refused a port because of another that holds it. -/
def streamConflict (s other : InetSocket) : Bool :=
  InetSocket.addressesMeet s.ip other.ip &&
    !(s.settings.reuseAddress && other.settings.reuseAddress && !other.listening) &&
    !(s.settings.reusePort && other.settings.reusePort)

/-- Whether a stream socket reuses its address: a listener does not. -/
def reusesAddress (s : InetSocket) : Bool := s.settings.reuseAddress && !s.listening

/-- Whether a port is shared in the way the socket shares it. -/
def PortGroup.admits (group : PortGroup) (s : InetSocket) : Bool :=
  s.settings.reusePort &&
    match group.sharing with
    | .none => false
    | .anyAddress => true
    | .only ip => ip == s.ip || ip == .unspecified

/-- The group of a port that a stream socket holds alone. -/
def PortGroup.ofSocket (s : InetSocket) : PortGroup where
  reuse := reusesAddress s
  sharing := if s.settings.reusePort then .anyAddress else .none

/-- The group of a port after a stream socket joined it. -/
def PortGroup.join (group : PortGroup) (s : InetSocket) : PortGroup where
  reuse := group.reuse && reusesAddress s
  sharing :=
    if !s.settings.reusePort then .none
    else if group.admits s then group.sharing
    else .only s.ip

/-- The group of a TCP port once the socket holds it, or the refusal. -/
def joinPort (h : Host) (fd : Nat) (s : InetSocket) (port : UInt16) : Except Errno PortGroup :=
  match h.portGroups.get? port.toNat with
  | none => .ok (.ofSocket s)
  | some group =>
    let welcome := (group.reuse && reusesAddress s) || group.admits s
    if !welcome && (h.holdersOf fd .tcp port).any (streamConflict s) then .error .addressInUse
    else .ok (group.join s)

/-- The first port from `candidate` on that may be chosen, tried `fuel` times. -/
def choosePort (reserved : List UInt16) : (fuel candidate : Nat) → Nat
  | 0, candidate => candidate
  | fuel + 1, candidate =>
    if reserved.contains (.ofNat candidate) then choosePort reserved fuel (candidate + 1)
    else candidate

/-- Notes that the socket under a descriptor holds a port. -/
def hold (h : Host) (fd : Nat) : Host := { h with holders := fd :: h.holders.filter (· != fd) }

/-- Gives a socket a port of the kernel's choice. -/
def takeFreshPort (h : Host) (fd : Nat) (s : InetSocket) : InetSocket × Host :=
  let chosen := choosePort h.reserved h.reserved.length h.nextPort
  let port : UInt16 := .ofNat chosen
  let h := { h with nextPort := chosen + 1 }.hold fd
  let h := match s.transport with
    | .tcp => { h with portGroups := h.portGroups.set chosen (.ofSocket s) }
    | .udp => h
  (s.withPort port, h)

/-- Gives a socket the port it asks for, or one of the kernel's choice if it asks for none. -/
def takePort (h : Host) (fd : Nat) (s : InetSocket) (port : UInt16) :
    Except Errno (InetSocket × Host) :=
  if port = 0 then .ok (h.takeFreshPort fd s)
  else
    match s.transport with
    | .udp =>
      if datagramConflict s (h.holdersOf fd .udp port) then .error .addressInUse
      else .ok (s.withPort port, h.hold fd)
    | .tcp => do
      let group ← h.joinPort fd s port
      return (s.withPort port, { h with portGroups := h.portGroups.set port.toNat group }.hold fd)

/-- Notes that the socket under a descriptor holds its port no longer. -/
def dropPort (h : Host) (fd : Nat) (s : InetSocket) : Host :=
  let h := { h with holders := h.holders.filter (· != fd) }
  if s.transport = .tcp ∧ (h.holdersOf fd .tcp s.port).isEmpty then
    { h with portGroups := h.portGroups.erase s.port.toNat }
  else h

/-- A datagram socket gets a port before it is used. -/
def ensurePort (h : Host) (fd : Nat) (s : InetSocket) : InetSocket × Host :=
  if s.port = 0 then
    let (s, h) := h.takeFreshPort fd s
    (s, h.setBody fd (.inet s))
  else (s, h)

end SocketLayer.Host
