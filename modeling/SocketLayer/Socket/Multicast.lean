import SocketLayer.Socket.Options

/-!
# Multicast

Group membership lives in the kernel; nothing of it is kept here. A refused join or leave leaves
the handle as it was.
-/

set_option autoImplicit false

namespace SocketLayer.Socket

/-- Changes group membership and tells only whether it worked. -/
def changeMembership (change : MembershipChange) (s : Socket) (interface group : Ipv4) :
    Program Bool := do
  match ← Program.request (.changeMembership s.descriptor change group.octets interface.octets) with
  | .ok () => return true
  | .error e =>
    Program.note (.membershipFailed s.descriptor group interface (.errno e))
    return false

/-- Joins a group on a local interface; the unspecified address lets the kernel choose one. -/
def joinMulticast (s : Socket) (interface group : Ipv4) : Program Bool :=
  s.changeMembership .join interface group

/-- Leaves a group joined with the same addresses. -/
def leaveMulticast (s : Socket) (interface group : Ipv4) : Program Bool :=
  s.changeMembership .leave interface group

/-- Sets how far outgoing group datagrams travel. -/
def setMulticastTtl (s : Socket) (ttl : UInt8) : Program (Except NetError Unit) :=
  ask "set_multicast_ttl" (.setWord s.descriptor .multicastTtl (.ofNat ttl.toNat))

/-- Sets whether outgoing group datagrams come back to local listeners. -/
def setMulticastLoop (s : Socket) (on : Bool) : Program (Except NetError Unit) :=
  s.setFlag "set_multicast_loop" .multicastLoop on

/-- Chooses the local interface for outgoing group datagrams. -/
def setMulticastInterface (s : Socket) (interface : Ipv4) : Program (Except NetError Unit) :=
  ask "set_multicast_interface" (.setMulticastInterface s.descriptor interface.octets)

end SocketLayer.Socket
