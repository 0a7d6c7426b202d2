import SocketLayer.SystemCall

/-!
# Option values every socket keeps

Buffer sizes are kept doubled, within the host's bounds; the linger time survives being turned off.
-/

set_option autoImplicit false

namespace SocketLayer.Host

/-- The values of the options that do not depend on the protocol. -/
structure Settings where
  sendBuffer : Nat
  receiveBuffer : Nat
  linger : LingerWords
  reuseAddress : Bool
  reusePort : Bool
  deriving DecidableEq, Repr

namespace Settings

/-- The largest buffer size that can be asked for. -/
def largestRequest : Nat := 212992

/-- The least send buffer. -/
def leastSendBuffer : Nat := 4608

/-- The least receive buffer. -/
def leastReceiveBuffer : Nat := 2304

/-- The size kept for a requested one: capped, doubled, and not below the least. -/
def bufferSize (least : Nat) (request : Int32) : Nat :=
  max (2 * min request.toInt.toNat largestRequest) least

/-- Fresh option values with the given buffer sizes. -/
def fresh (sendBuffer receiveBuffer : Nat) : Settings where
  sendBuffer
  receiveBuffer
  linger := ⟨0, 0⟩
  reuseAddress := false
  reusePort := false

/-- Sets the linger time; turning it off keeps the time for later. -/
def setLinger (s : Settings) (words : LingerWords) : Settings :=
  if words.onOff = 0 then { s with linger := { s.linger with onOff := 0 } }
  else { s with linger := ⟨1, words.seconds⟩ }

end Settings
end SocketLayer.Host
