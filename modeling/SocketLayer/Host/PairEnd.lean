import SocketLayer.Host.Settings
import SocketLayer.Host.Watch

/-!
# Ends of a local stream pair

A pair is made connected. Each end has a queue of messages from the other; a read takes bytes
across message borders, and a write is cut into messages that are charged against the sender's
buffer until they are read.

* `PairEnd.take` — the bytes a read gets and what is left (`take_append`: nothing is lost).
* `PairEnd.cutWrite` — how much of a write the sender's buffer admits.
-/

set_option autoImplicit false

namespace SocketLayer.Host

/-- A queued message and the buffer space it is charged for. -/
structure Message where
  data : List UInt8
  charge : Nat
  deriving DecidableEq, Repr

namespace Message

/-- The memory page size. -/
def page : Nat := 4096

/-- The part of a message that one page holds beside its bookkeeping. -/
def headLimit : Nat := 3776

/-- The longest message a write is cut into, whatever the buffer. -/
def longest : Nat := headLimit + 32768

/-- The least power of two, from `size` on, that covers the need; tried `fuel` times. -/
def roundUp (need : Nat) : (fuel size : Nat) → Nat
  | 0, size => size
  | fuel + 1, size => if need ≤ size then size else roundUp need fuel (2 * size)

/-- The buffer space that a message of the given length takes: its head, rounded to an allocation
size, the pages that hold the rest, and the bookkeeping. -/
def chargeOf (length : Nat) : Nat :=
  let pages (n : Nat) := (n + page - 1) / page * page
  let paged := if length > headLimit then min length (pages (length - headLimit)) else 0
  roundUp (length - paged + 320) 4 512 + 256 + pages paged

/-- The message that carries the given bytes. -/
def ofData (data : List UInt8) : Message := ⟨data, chargeOf data.length⟩

end Message

/-- One end of a connected local stream pair. -/
structure PairEnd where
  settings : Settings
  /-- The descriptor of the other end while it is open. -/
  peer : Option Nat
  /-- What the other end has sent and this end has not read. -/
  queue : List Message
  /-- The buffer space charged for what this end has sent and the other has not read. -/
  inFlight : Nat
  readShut : Bool
  writeShut : Bool
  /-- Whether the other end was closed with unread data, which the next empty read reports. -/
  resetPending : Bool
  /-- Whether the end was given a name. -/
  named : Bool
  deriving DecidableEq, Repr

namespace PairEnd

/-- An end as it is made, connected to the descriptor of the other. -/
def fresh (peer : Nat) : PairEnd where
  settings := .fresh 212992 212992
  peer := some peer
  queue := []
  inFlight := 0
  readShut := false
  writeShut := false
  resetPending := false
  named := false

/-- Marks directions as shut down. -/
def shut (e : PairEnd) (read write : Bool) : PairEnd :=
  { e with readShut := e.readShut || read, writeShut := e.writeShut || write }

/-- Whether the end counts as writable: a quarter of its buffer may be in flight. -/
def isWritable (e : PairEnd) : Bool := 4 * (e.inFlight + 1) ≤ e.settings.sendBuffer

/-- The end's readiness. -/
def readiness (e : PairEnd) : Readiness where
  readable := e.readShut || !e.queue.isEmpty
  peerClosed := e.readShut
  writable := e.isWritable
  hungUp := e.readShut && e.writeShut
  failed := e.resetPending

/-- The bytes that a read of at most `capacity` bytes gets, the messages left, and the buffer space
freed by the messages that were used up. -/
def take : (capacity : Nat) → List Message → List UInt8 × List Message × Nat
  | _, [] => ([], [], 0)
  | capacity, message :: rest =>
    if capacity = 0 then ([], message :: rest, 0)
    else if message.data.length ≤ capacity then
      let (data, left, freed) := take (capacity - message.data.length) rest
      (message.data ++ data, left, message.charge + freed)
    else
      (message.data.take capacity, { message with data := message.data.drop capacity } :: rest, 0)

/-- The bytes of queued messages. -/
def bytes (queue : List Message) : List UInt8 := queue.flatMap Message.data

/-- The buffer space that messages are charged for. -/
def totalCharge : List Message → Nat
  | [] => 0
  | message :: rest => message.charge + totalCharge rest

/-- Reading neither loses nor reorders bytes. -/
theorem take_append (capacity : Nat) (queue : List Message) :
    (take capacity queue).1 ++ bytes (take capacity queue).2.1 = bytes queue := by
  induction queue generalizing capacity with
  | nil => rfl
  | cons message rest ih =>
    unfold take
    split
    · rfl
    · split
      · simp only [bytes, List.flatMap_cons, List.append_assoc] at ih ⊢
        rw [ih]
      · simp [bytes, List.take_append_drop, ← List.append_assoc]

/-- How many bytes beyond its first a message of a write holds at most. -/
def messageTail (e : PairEnd) : Nat := min Message.longest (e.settings.sendBuffer / 2 - 64) - 1

/-- The messages of a write that the sender's buffer admits: each needs some of it free. -/
def cutWrite (tail room : Nat) : List UInt8 → List Message
  | [] => []
  | first :: rest =>
    if room = 0 then []
    else
      let message := Message.ofData (first :: rest.take tail)
      message :: cutWrite tail (room - message.charge) (rest.drop tail)
termination_by data => data.length
decreasing_by
  simp only [List.length_drop, List.length_cons]
  omega

/-- The reply to setting a word option, with the end afterwards. A local stream has none of the
network's options and cannot share a port. -/
def setWord (e : PairEnd) (name : WordOption) (value : Int32) : Except Errno PairEnd :=
  let settings := e.settings
  match name with
  | .sendBuffer =>
    .ok { e with settings.sendBuffer := Settings.bufferSize Settings.leastSendBuffer value }
  | .receiveBuffer =>
    .ok { e with settings.receiveBuffer := Settings.bufferSize Settings.leastReceiveBuffer value }
  | .reuseAddress => .ok { e with settings := { settings with reuseAddress := value != 0 } }
  | .reusePort => if value = 0 then .ok e else .error .notSupported
  | .tcpNoDelay | .multicastTtl | .multicastLoop => .error .notSupported

/-- The reply to reading a word option. -/
def getWord (e : PairEnd) (name : WordOption) : Except Errno Int32 :=
  match name with
  | .sendBuffer => .ok (.ofNat e.settings.sendBuffer)
  | .receiveBuffer => .ok (.ofNat e.settings.receiveBuffer)
  | .reuseAddress => .ok (flagWord e.settings.reuseAddress)
  | .reusePort => .ok (flagWord e.settings.reusePort)
  | .tcpNoDelay | .multicastTtl | .multicastLoop => .error .notSupported

end PairEnd
end SocketLayer.Host
