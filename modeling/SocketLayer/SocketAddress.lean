import SocketLayer.Endpoint

/-!
# Socket addresses

A `SocketAddress` is an endpoint in the form the kernel reads and writes: a family, the port and
the address in network byte order, and eight bytes of padding. Callers see it as an `Endpoint`,
and two addresses are equal when they show the same endpoint, whatever the family and the padding
the kernel left in them.

* `SocketAddress.ofEndpoint` — the form handed to the kernel.
* `SocketAddress.endpoint` — the endpoint read back (`endpoint_ofEndpoint`).
-/

set_option autoImplicit false

namespace SocketLayer

/-- The number that names a protocol family. -/
abbrev Family := UInt16

namespace Family

/-- Pairs of local sockets. -/
def unix : Family := 1

/-- IPv4. -/
def inet : Family := 2

end Family

/-- An endpoint as the kernel stores it. -/
structure SocketAddress where
  family : Family
  portHigh : UInt8
  portLow : UInt8
  address : Octets
  padding : List UInt8
  deriving DecidableEq, Repr

namespace SocketAddress

/-- Eight zero bytes. -/
def zeroPadding : List UInt8 := List.replicate 8 0

/-- The kernel's form of an endpoint: IPv4 family, network byte order, zero padding. -/
def ofEndpoint (e : Endpoint) : SocketAddress where
  family := .inet
  portHigh := .ofNat (e.port.toNat / 256)
  portLow := .ofNat e.port.toNat
  address := e.ip.octets
  padding := zeroPadding

/-- The address of another family that carries no IPv4 endpoint: every byte after the family is
zero. -/
def ofFamily (family : Family) : SocketAddress :=
  { ofEndpoint ⟨.unspecified, 0⟩ with family }

/-- The port in the order it travels. -/
def portBytes (a : SocketAddress) : List UInt8 := [a.portHigh, a.portLow]

/-- The host-order address. -/
def ip (a : SocketAddress) : Ipv4 := Ipv4.ofOctets a.address

/-- The host-order port. -/
def port (a : SocketAddress) : UInt16 := .ofNat (a.portHigh.toNat * 256 + a.portLow.toNat)

/-- What callers see of the address. -/
def endpoint (a : SocketAddress) : Endpoint := ⟨a.ip, a.port⟩

/-- Addresses are equal when they show the same endpoint. -/
instance : BEq SocketAddress := ⟨fun a b => a.endpoint == b.endpoint⟩

@[simp] theorem ip_ofEndpoint (e : Endpoint) : (ofEndpoint e).ip = e.ip :=
  Ipv4.ofOctets_octets e.ip

@[simp] theorem port_ofEndpoint (e : Endpoint) : (ofEndpoint e).port = e.port := by
  have h := e.port.toNat_lt
  apply UInt16.toNat_inj.mp
  simp only [port, ofEndpoint, UInt16.toNat_ofNat', UInt8.toNat_ofNat']
  omega

@[simp] theorem endpoint_ofEndpoint (e : Endpoint) : (ofEndpoint e).endpoint = e := by
  simp [endpoint]

theorem beq_iff_endpoint_eq (a b : SocketAddress) : (a == b) = true ↔ a.endpoint = b.endpoint := by
  change (a.endpoint == b.endpoint) = true ↔ _
  exact beq_iff_eq

end SocketAddress
end SocketLayer
