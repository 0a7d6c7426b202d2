import SocketLayer.Host.Watch
import SocketLayer.Socket.Operation

/-!
# Steps of a session

A session is a script over named slots, each of which holds at most one handle. A step makes
handles, changes the host, or does something with the handle of one slot.
-/

set_option autoImplicit false

namespace SocketLayer.Session

/-- The name of a slot. -/
abbrev Slot := String

/-- An address in a script: written out, or taken from a handle or from an earlier step. -/
inductive AddressRef where
  | literal (endpoint : Endpoint)
  /-- The local address of the handle in a slot. -/
  | localOf (slot : Slot)
  /-- An address with the local port of the handle in a slot. -/
  | portOf (ip : Ipv4) (slot : Slot)
  /-- The local address stored under a name. -/
  | saved (name : String)
  deriving DecidableEq, Repr

/-- How long a transfer is repeated. -/
inductive Until where
  /-- One call only. -/
  | once
  /-- While the outcome is `retry`. -/
  | ready
  /-- While the connection is not finished. -/
  | disconnected
  /-- While the connection is not finished and fewer bytes than these were moved. -/
  | bytes (count : Nat)
  deriving DecidableEq, Repr

namespace Until

/-- Whether an outcome asks for another attempt. -/
def again : Until → Transfer → Bool
  | .once, _ => false
  | .ready, t => t.isRetry
  | .disconnected, t => !t.isDisconnected
  | .bytes count, t => !t.isDisconnected && t.count?.getD 0 < count

end Until

/-- A use of an address by a handle. -/
inductive AddressUse where
  | bind
  | tryBind
  | connect
  | sendTo (data : List UInt8)
  /-- Compare with the handle's own local address. -/
  | compare
  deriving DecidableEq, Repr

/-- What a step does with the handle of its slot. -/
inductive Action where
  /-- Only show the handle. -/
  | look
  /-- Release the descriptor and adopt it again. -/
  | rewrap (transport : Transport) (state : Lifecycle)
  | rawNumber
  | descriptorFlags
  /-- Change the blocking mode behind the handle's back. -/
  | setRawNonBlocking (on : Bool)
  | close
  | drop
  /-- An operation whose answer is reported as it is. -/
  | operate (operation : Operation)
  | withAddress (use : AddressUse) (address : AddressRef)
  /-- Accept into another slot; with `wait`, repeated while nothing is pending. -/
  | accept (target : Slot) (wait : Bool)
  /-- Look the local address up and perhaps store it. -/
  | localAddress (save : Option String)
  | send (data : List UInt8) (repetition : Until)
  | receive (capacity : Nat) (repetition : Until)
  | peek (capacity : Nat) (repetition : Until)
  /-- Probe for the peer's end; with `wait`, repeated until it has come. -/
  | isDead (wait : Bool)
  /-- Receive until a number of bytes has come, in reads of at most `capacity`. -/
  | receiveAll (total capacity : Nat)
  /-- Send until nothing more is taken, then receive it all on another handle. -/
  | fill (data : List UInt8) (target : Slot)
  /-- Read a size and report only whether it reaches a bound. -/
  | sendBufferAtLeast (bound : Int)
  | receiveBufferAtLeast (bound : Int)
  /-- Look at the multicast options as the kernel keeps them. -/
  | multicastView
  | register (token : Nat) (interest : Interest)
  | reregister (token : Nat) (interest : Interest)
  | deregister
  deriving DecidableEq, Repr

/-- A step of a session. An action that could not be read names the field at fault. -/
inductive Step where
  | makeTcp (slot : Slot) (blocking : Bool)
  | makeUdp (slot : Slot)
  | adopt (slot : Slot) (raw : Int) (transport : Transport) (state : Lifecycle)
  /-- Adopt both ends of a fresh local stream pair. -/
  | makePair (first second : Slot) (transport : Transport) (state : Lifecycle)
  /-- Limit the number of descriptors; `none` restores the limit. -/
  | limitDescriptors (limit : Option Nat)
  | use (slot : Slot) (action : Except String Action)
  /-- Ask whether an event of a class has come for a token. -/
  | poll (token : Nat) (event : Host.EventClass)
  | invalid (field : String)
  | unknown

/-- A step with the slot that is shown after it. -/
structure Request where
  shown : Option Slot
  step : Step

end SocketLayer.Session
