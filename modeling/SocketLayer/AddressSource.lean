import SocketLayer.SocketAddress

/-!
# Ways of making an address

A caller makes an address from a host-order number and a port, from the octets of a standard
address, or by copying one. All of them lead to the one form that the kernel reads.

* `IpArgument` — where an address is asked for, octets and a host-order number are both taken.
* `AddressSource` — how an address was made; `AddressSource.address` is what it is.
-/

set_option autoImplicit false

namespace SocketLayer

/-- An address as callers pass it: by its octets or as a host-order number. -/
inductive IpArgument where
  | octets (octets : Octets)
  | number (value : UInt32)
  deriving DecidableEq, Repr

/-- The address that an argument means. -/
def IpArgument.toIpv4 : IpArgument → Ipv4
  | .octets o => .ofOctets o
  | .number value => ⟨value⟩

/-- The address with a host-order number and a port. -/
def SocketAddress.new (ip : UInt32) (port : UInt16) : SocketAddress := .ofEndpoint ⟨⟨ip⟩, port⟩

/-- How a caller came by an address. -/
inductive AddressSource where
  /-- It was at hand, for example reported by the kernel. -/
  | given (address : SocketAddress)
  | new (ip : UInt32) (port : UInt16)
  | build (ip : UInt32) (port : UInt16)
  /-- Converted from a standard address with its port. -/
  | ofStandard (ip : Octets) (port : UInt16)
  /-- Converted from a pair of an address and a port. -/
  | ofPair (ip : Octets) (port : UInt16)
  | clone (source : AddressSource)
  deriving DecidableEq, Repr

/-- The address that was made. -/
def AddressSource.address : AddressSource → SocketAddress
  | .given address => address
  | .new ip port | .build ip port => .new ip port
  | .ofStandard ip port | .ofPair ip port => .new (Ipv4.ofOctets ip).value port
  | .clone source => source.address

end SocketLayer
