import SocketLayer.NetError
import SocketLayer.Transfer
import SocketLayer.Ipv4

/-!
# The numeric contract

Callers that take plain integers get each result as one signed 32-bit number.

| code | meaning |
|------|---------|
| `n ≥ 0` | bytes moved, an option's value, an address or a port |
| `failure` | creation, a lifecycle call or an option call failed |
| `retry` | the call would block |
| `disconnected` | the connection is finished |
| `peerLookupFailed` | there is no peer |
| `peerUnsupportedFamily` | the peer is not IPv4 |

`failure` and `retry` share a value; no call returns both.
-/

set_option autoImplicit false

namespace SocketLayer

/-- Types whose values have a place in the numeric contract. -/
class StatusCode (α : Type) where
  statusCode : α → Int32

export StatusCode (statusCode)

namespace StatusCode

/-- A creation, lifecycle or option call failed. -/
def failure : Int32 := -1
/-- The call would block. -/
def retry : Int32 := -1
/-- The connection was closed or failed. -/
def disconnected : Int32 := -2
/-- There is no established peer. -/
def peerLookupFailed : Int32 := -1
/-- The peer is not an IPv4 endpoint. -/
def peerUnsupportedFamily : Int32 := -2

/-- The largest code. -/
def largest : Nat := 0x7FFFFFFF

/-- A count as a code: the largest code stands for every count beyond it. -/
def ofCount (n : Nat) : Int32 := Int32.ofNat (min n largest)

end StatusCode

open StatusCode

instance : StatusCode Unit := ⟨fun _ => 0⟩

instance : StatusCode Bool := ⟨fun b => if b then 1 else 0⟩

instance : StatusCode Int32 := ⟨id⟩

instance : StatusCode Nat := ⟨ofCount⟩

instance : StatusCode UInt16 := ⟨fun port => Int32.ofNat port.toNat⟩

/-- Addresses from 128.0.0.0 on come out negative. -/
instance : StatusCode Ipv4 := ⟨fun a => a.value.toInt32⟩

/-- A pending handshake is a success. -/
instance : StatusCode Connect := ⟨fun _ => 0⟩

instance : StatusCode Transfer where
  statusCode
    | .transferred n => ofCount n
    | .retry => retry
    | .disconnected => disconnected

instance : StatusCode NetError where
  statusCode
    | .unsupportedFamily _ => peerUnsupportedFamily
    | .noPeer => peerLookupFailed
    | _ => failure

instance {α : Type} [StatusCode α] : StatusCode (Except NetError α) where
  statusCode
    | .ok value => statusCode value
    | .error e => statusCode e

end SocketLayer
