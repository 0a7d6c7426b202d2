import SocketLayer.Errno
import SocketLayer.Lifecycle
import SocketLayer.SocketAddress

/-!
# System calls

The requests that socket operations make of the kernel, each with the type of its successful
answer. A `Reply` is that answer or an error number. Nothing is assumed here of what a kernel
replies: the operations are written against every possible reply.

The status flags of an open file are one word; which bit of it a change of the blocking mode touches
is said by `StatusFlags.bit_withNonBlocking`.
-/

set_option autoImplicit false

namespace SocketLayer

/-- The number under which the kernel knows an open file. -/
structure Descriptor where
  number : Nat
  deriving DecidableEq, Repr

/-- The status-flag word of an open file. -/
structure StatusFlags where
  word : UInt32
  deriving DecidableEq, Repr

namespace StatusFlags

/-- The bit that makes calls return instead of waiting. -/
def nonBlockingBit : UInt32 := 0x800

/-- Whether calls return instead of waiting. -/
def isNonBlocking (flags : StatusFlags) : Bool := flags.word &&& nonBlockingBit != 0

/-- The same word with the non-blocking bit as given. -/
def withNonBlocking (flags : StatusFlags) (on : Bool) : StatusFlags :=
  ⟨if on then flags.word ||| nonBlockingBit else flags.word &&& ~~~nonBlockingBit⟩

/-- One bit of the word, counted from zero at the low end. The non-blocking bit is number 11. -/
def bit (flags : StatusFlags) (i : Nat) : Bool := flags.word.toBitVec.getLsbD i

theorem toBitVec_nonBlockingBit : nonBlockingBit.toBitVec = BitVec.twoPow 32 11 := by decide

/-- A word is its bits. -/
theorem eq_of_bits {a b : StatusFlags} (h : ∀ i, a.bit i = b.bit i) : a = b := by
  have hword : a.word.toBitVec = b.word.toBitVec := BitVec.eq_of_getLsbD_eq fun i _ => h i
  exact congrArg StatusFlags.mk (UInt32.toBitVec_inj.mp hword)

theorem isNonBlocking_eq_bit (flags : StatusFlags) : flags.isNonBlocking = flags.bit 11 := by
  have hand : (flags.word &&& nonBlockingBit).toBitVec =
      if flags.bit 11 = true then BitVec.twoPow 32 11 else 0#32 := by
    rw [UInt32.toBitVec_and, toBitVec_nonBlockingBit, BitVec.and_twoPow]
    rfl
  have hclear : flags.word &&& nonBlockingBit = 0 ↔ flags.bit 11 = false := by
    rw [← UInt32.toBitVec_inj, hand]
    cases flags.bit 11 <;> decide
  rw [Bool.eq_iff_iff, isNonBlocking, bne_iff_ne, ne_eq, hclear, Bool.not_eq_false]

/-- Writing the non-blocking bit leaves all others as they were. -/
theorem bit_withNonBlocking (flags : StatusFlags) (on : Bool) (i : Nat) :
    (flags.withNonBlocking on).bit i = if i = 11 then on else flags.bit i := by
  have hplace : nonBlockingBit.toBitVec.getLsbD i = decide (i = 11) := by
    rw [toBitVec_nonBlockingBit, BitVec.getLsbD_twoPow]
    simp [eq_comm]
  have hbeyond : 32 ≤ i → flags.word.toBitVec.getLsbD i = false :=
    flags.word.toBitVec.getLsbD_of_ge i
  unfold withNonBlocking bit
  cases on with
  | true =>
    simp only [if_true, UInt32.toBitVec_or, BitVec.getLsbD_or, hplace]
    by_cases h : i = 11 <;> simp [h]
  | false =>
    simp only [Bool.false_eq_true, if_false, UInt32.toBitVec_and, UInt32.toBitVec_not,
      BitVec.getLsbD_and, BitVec.getLsbD_not, hplace]
    by_cases h : i = 11
    · simp [h]
    · by_cases hi : i < 32
      · simp [h, hi]
      · simp [h, hbeyond (by omega)]

/-- Writing the bit and reading it back. -/
@[simp] theorem isNonBlocking_withNonBlocking (flags : StatusFlags) (on : Bool) :
    (flags.withNonBlocking on).isNonBlocking = on := by
  rw [isNonBlocking_eq_bit, bit_withNonBlocking, if_pos rfl]

/-- Only the last write of the bit counts. -/
theorem withNonBlocking_withNonBlocking (flags : StatusFlags) (first last : Bool) :
    (flags.withNonBlocking first).withNonBlocking last = flags.withNonBlocking last := by
  refine eq_of_bits fun i => ?_
  simp only [bit_withNonBlocking]
  split <;> rfl

/-- Writing the bit changes the word only if it changes the bit. -/
theorem withNonBlocking_eq_self_iff (flags : StatusFlags) {on : Bool} :
    flags.withNonBlocking on = flags ↔ flags.isNonBlocking = on := by
  constructor
  · intro h
    rw [← h, isNonBlocking_withNonBlocking]
  · intro h
    refine eq_of_bits fun i => ?_
    rw [bit_withNonBlocking]
    split
    · rename_i hi
      rw [hi, ← isNonBlocking_eq_bit, h]
    · rfl

end StatusFlags

/-- The options whose value is one word. -/
inductive WordOption where
  | sendBuffer
  | receiveBuffer
  | reuseAddress
  | reusePort
  | tcpNoDelay
  | multicastTtl
  | multicastLoop
  deriving DecidableEq, Repr

/-- A flag as the kernel takes and gives it. -/
def flagWord (on : Bool) : Int32 := if on then 1 else 0

/-- The value of the linger option: an on/off word and a time in seconds. -/
structure LingerWords where
  onOff : Int32
  seconds : Int32
  deriving DecidableEq, Repr

/-- A change of group membership. -/
inductive MembershipChange where
  | join
  | leave
  deriving DecidableEq, Repr

/-- What an event loop wants to hear of. -/
structure Interest where
  readable : Bool
  writable : Bool
  deriving DecidableEq, Repr

/-- A request to the kernel. -/
inductive SystemCall where
  /-- Make an IPv4 socket. -/
  | socket (transport : Transport) (closeOnExec : Bool)
  /-- Release a descriptor. -/
  | close (fd : Descriptor)
  /-- Read the status flags. -/
  | getFlags (fd : Descriptor)
  /-- Write the status flags. -/
  | setFlags (fd : Descriptor) (flags : StatusFlags)
  /-- Give the socket a local address. -/
  | bind (fd : Descriptor) (address : SocketAddress)
  /-- Start a queue of pending connections. -/
  | listen (fd : Descriptor) (backlog : Int32)
  /-- Take a pending connection. -/
  | accept (fd : Descriptor) (nonBlocking closeOnExec : Bool)
  /-- Connect to a remote address. -/
  | connect (fd : Descriptor) (address : SocketAddress)
  /-- Shut a connection down. -/
  | shutdown (fd : Descriptor) (direction : Direction)
  /-- Send to the connected peer. -/
  | send (fd : Descriptor) (data : List UInt8) (noSignal : Bool)
  /-- Send to an explicit address. -/
  | sendTo (fd : Descriptor) (data : List UInt8) (noSignal : Bool) (address : SocketAddress)
  /-- Receive at most `capacity` bytes; with `peek` they stay queued. -/
  | receive (fd : Descriptor) (capacity : Nat) (peek : Bool)
  /-- Ask for the local address. -/
  | localName (fd : Descriptor)
  /-- Ask for the peer's address. -/
  | peerName (fd : Descriptor)
  /-- Set a one-word option. -/
  | setWord (fd : Descriptor) (name : WordOption) (value : Int32)
  /-- Ask for a one-word option. -/
  | getWord (fd : Descriptor) (name : WordOption)
  /-- Set the linger option. -/
  | setLinger (fd : Descriptor) (value : LingerWords)
  /-- Ask for the linger option. -/
  | getLinger (fd : Descriptor)
  /-- Choose the interface of outgoing group datagrams. -/
  | setMulticastInterface (fd : Descriptor) (interface : Octets)
  /-- Join or leave a group on an interface. -/
  | changeMembership (fd : Descriptor) (change : MembershipChange) (group interface : Octets)
  /-- Make an instance that watches descriptors. -/
  | createPoller
  /-- Start watching a descriptor. -/
  | watch (poller fd : Descriptor) (token : Nat) (interest : Interest)
  /-- Change how a descriptor is watched. -/
  | rewatch (poller fd : Descriptor) (token : Nat) (interest : Interest)
  /-- Stop watching a descriptor. -/
  | unwatch (poller fd : Descriptor)
  deriving DecidableEq, Repr

namespace SystemCall

/-- What the kernel hands back when the call succeeds. -/
def Answer : SystemCall → Type
  | .socket .. | .accept .. | .createPoller => Descriptor
  | .getFlags _ => StatusFlags
  | .send .. | .sendTo .. => Nat
  | .receive .. => List UInt8
  | .localName _ | .peerName _ => SocketAddress
  | .getWord .. => Int32
  | .getLinger _ => LingerWords
  | _ => Unit

end SystemCall

/-- The kernel's reply: the answer of a call that succeeded, or the number of its error. -/
abbrev Reply (call : SystemCall) : Type := Except Errno call.Answer

end SocketLayer
