import SocketLayer.Socket.Basic

/-!
# Data transfer

Each call makes one send or one receive and sorts the reply:

| reply | outcome |
|-------|---------|
| a count of bytes | `transferred` |
| would block | `retry` |
| no bytes, from a receive | `disconnected` |
| any other error | `disconnected`, with the cause in the log |

Nothing is buffered, repeated or retried here. A datagram sent to an explicit address has no
connection to lose, so its failures are `NetError`s.
-/

set_option autoImplicit false

namespace SocketLayer.Socket

/-- The outcome of a failed transfer. -/
def failedTransfer (op : String) (fd : Descriptor) (e : Errno) : Program Transfer := do
  if e.kind = .wouldBlock then return .retry
  Program.note (.disconnected op fd (.errno e))
  return .disconnected

/-- Sends bytes on a connected handle. -/
def send (s : Socket) (data : List UInt8) : Program Transfer := do
  match ← Program.request (.send s.descriptor data true) with
  | .ok count => return .transferred count
  | .error e => failedTransfer "send" s.descriptor e

/-- A receive of at most `capacity` bytes: its outcome, and the bytes put into the buffer. An empty
buffer is never handed to the kernel, because its answer would look like an orderly close. -/
def read (op : String) (peek : Bool) (s : Socket) (capacity : Nat) :
    Program (Transfer × List UInt8) := do
  if capacity = 0 then return (.transferred 0, [])
  match ← Program.request (.receive s.descriptor capacity peek) with
  | .ok [] =>
    Program.note (.peerClosed op s.descriptor)
    return (.disconnected, [])
  | .ok data => return (.transferred data.length, data)
  | .error e => return (← failedTransfer op s.descriptor e, [])

/-- Receives bytes from a connected handle. -/
def receive (s : Socket) (capacity : Nat) : Program (Transfer × List UInt8) :=
  s.read "recv" false capacity

/-- Receives bytes and leaves them queued for the next read. -/
def peek (s : Socket) (capacity : Nat) : Program (Transfer × List UInt8) :=
  s.read "peek" true capacity

/-- Sends one datagram to an address. -/
def sendTo (s : Socket) (data : List UInt8) (address : SocketAddress) :
    Program (Except NetError Nat) :=
  ask "send_to" (.sendTo s.descriptor data true address)

/-- Whether the peer has gone away. The probe consumes one byte of data if any is pending. -/
def isDead (s : Socket) : Program Bool := do
  return (← s.receive 1).1.isDisconnected

end SocketLayer.Socket
