import SocketLayer.Ipv4

/-!
# Endpoints

An endpoint is an address with a port, both in host order: the only form callers see. Its text is
the dotted address, a colon and the decimal port, and `Endpoint.read?` accepts that text alone.
-/

set_option autoImplicit false

namespace SocketLayer

/-- An IPv4 address and a port. -/
structure Endpoint where
  ip : Ipv4
  port : UInt16
  deriving DecidableEq, Repr

namespace Endpoint

/-- The address and the port in decimal, divided by a colon. -/
def chars (e : Endpoint) : List Char := e.ip.chars ++ ':' :: Decimal.digits e.port.toNat

/-- The address and the port in decimal, divided by a colon. -/
def text (e : Endpoint) : String := String.ofList e.chars

/-- The text under the type's name, for diagnostics. -/
def debugText (e : Endpoint) : String := "SocketAddress(" ++ e.text ++ ")"

/-- A numeral up to 65535. -/
def readPort? (numeral : List Char) : Option UInt16 :=
  match Decimal.read? numeral with
  | some n => if n < 65536 then some (.ofNat n) else none
  | none => none

/-- Reads the text of an endpoint; refuses all else. -/
def read? (text : List Char) : Option Endpoint :=
  match Ipv4.split ':' text with
  | [ip, port] => do return ⟨← Ipv4.read? ip, ← readPort? port⟩
  | _ => none

end Endpoint
end SocketLayer
