import Mathlib.Algebra.Group.Nat.Defs
import SocketLayer.AddressSource

/-!
# Words in memory

A machine keeps the bytes of a word in an order of its own, little or big end first. The records
that hold an address are made of words, which are converted so that their bytes in memory are in
network order. On every machine the bytes come out as `SocketAddress` and `Ipv4.octets` have them,
and the numbers come back.

* `lowBytes`, `numberOf` — a number as a string of bytes, and back.
* `ByteOrder.network` — the conversion between the order of a machine and that of the network.
* `AddressWords` — the words of an address; `AddressWords.memory_make`: what they are in memory.
* `GroupWords` — the words of a membership request; `GroupWords.memory_make`.
* `ByteOrder.keepsNumbers` — the numbers of callers keep their value on every machine.
-/

set_option autoImplicit false

namespace SocketLayer

/-! ## The bytes of a number -/

/-- The low bytes of a number, the least significant first. -/
def lowBytes : Nat → Nat → List UInt8
  | 0, _ => []
  | width + 1, n => .ofNat n :: lowBytes width (n / 256)

/-- The number with some bytes, the least significant first. -/
def numberOf : List UInt8 → Nat
  | [] => 0
  | b :: rest => b.toNat + 256 * numberOf rest

@[simp] theorem length_lowBytes (width n : Nat) : (lowBytes width n).length = width := by
  induction width generalizing n with
  | zero => rfl
  | succ width ih => simp [lowBytes, ih]

/-- Of a number that is written in so many bytes the low part is read back. -/
theorem numberOf_lowBytes (width n : Nat) : numberOf (lowBytes width n) = n % 256 ^ width := by
  induction width generalizing n with
  | zero => simp [lowBytes, numberOf, Nat.mod_one]
  | succ width ih =>
    have hbyte : (UInt8.ofNat n).toNat = n % 256 := UInt8.toNat_ofNat'
    rw [lowBytes, numberOf, ih, hbyte, Nat.pow_succ', Nat.mod_mul]

theorem lowBytes_numberOf (bytes : List UInt8) :
    lowBytes bytes.length (numberOf bytes) = bytes := by
  induction bytes with
  | nil => rfl
  | cons b rest ih =>
    have hb := b.toNat_lt
    have hlow : UInt8.ofNat (b.toNat + 256 * numberOf rest) = b := by
      apply UInt8.toNat_inj.mp
      rw [UInt8.toNat_ofNat']
      omega
    have hhigh : (b.toNat + 256 * numberOf rest) / 256 = numberOf rest := by omega
    rw [List.length_cons, numberOf, lowBytes, hlow, hhigh, ih]

/-- Only the low part of a number is written. -/
theorem lowBytes_mod (width n : Nat) : lowBytes width (n % 256 ^ width) = lowBytes width n := by
  have h := lowBytes_numberOf (lowBytes width n)
  rwa [length_lowBytes, numberOf_lowBytes] at h

/-! ## The order of a machine -/

/-- The order in which a machine keeps the bytes of a word. -/
inductive ByteOrder where
  | little
  | big
  deriving DecidableEq, Repr

namespace ByteOrder

/-- The bytes of a word in memory. -/
def store (order : ByteOrder) (width n : Nat) : List UInt8 :=
  match order with
  | .little => lowBytes width n
  | .big => (lowBytes width n).reverse

/-- The word that bytes in memory make. -/
def load (order : ByteOrder) (bytes : List UInt8) : Nat :=
  match order with
  | .little => numberOf bytes
  | .big => numberOf bytes.reverse

/-- The word with its bytes the other way round. -/
def swap (width n : Nat) : Nat := numberOf (lowBytes width n).reverse

/-- Converts a word between the order of the machine and that of the network, in either direction:
a machine that keeps the little end first swaps the bytes. -/
def network (order : ByteOrder) (width n : Nat) : Nat :=
  match order with
  | .little => swap width n
  | .big => n

/-- The conversion of a two-byte word. -/
def network16 (order : ByteOrder) (word : UInt16) : UInt16 := .ofNat (order.network 2 word.toNat)

/-- The conversion of a four-byte word. -/
def network32 (order : ByteOrder) (word : UInt32) : UInt32 := .ofNat (order.network 4 word.toNat)

variable (order : ByteOrder)

theorem store_mod (width n : Nat) : order.store width (n % 256 ^ width) = order.store width n := by
  cases order with
  | little => exact lowBytes_mod width n
  | big => exact congrArg List.reverse (lowBytes_mod width n)

theorem store_load (bytes : List UInt8) : order.store bytes.length (order.load bytes) = bytes := by
  cases order with
  | little => exact lowBytes_numberOf bytes
  | big =>
    have h := lowBytes_numberOf bytes.reverse
    rw [List.length_reverse] at h
    show (lowBytes bytes.length (numberOf bytes.reverse)).reverse = bytes
    rw [h, List.reverse_reverse]

/-- On every machine a converted word has the bytes of the number in memory, the big end first. -/
theorem store_network (width n : Nat) :
    order.store width (order.network width n) = big.store width n := by
  cases order with
  | little =>
    have h := lowBytes_numberOf (lowBytes width n).reverse
    rwa [List.length_reverse, length_lowBytes] at h
  | big => rfl

/-- On every machine a word read from memory is converted to the number whose bytes are there, the
big end first. -/
theorem network_load (bytes : List UInt8) :
    order.network bytes.length (order.load bytes) = big.load bytes := by
  cases order with
  | little =>
    show numberOf (lowBytes bytes.length (numberOf bytes)).reverse = numberOf bytes.reverse
    rw [lowBytes_numberOf]
  | big => rfl

/-- A converted word is what a machine finds in the bytes of the number, the big end first. -/
theorem load_store (width n : Nat) (h : n < 256 ^ width) :
    order.load (big.store width n) = order.network width n := by
  cases order with
  | little => rfl
  | big =>
    show numberOf (lowBytes width n).reverse.reverse = n
    rw [List.reverse_reverse, numberOf_lowBytes, Nat.mod_eq_of_lt h]

/-- Only the low part of a word is converted. -/
theorem network_mod (width n : Nat) :
    order.network width (n % 256 ^ width) % 256 ^ width = order.network width n % 256 ^ width := by
  cases order with
  | little =>
    show numberOf (lowBytes width (n % 256 ^ width)).reverse % _ = _
    rw [lowBytes_mod]
    rfl
  | big => exact Nat.mod_mod n _

theorem store_network32 (word : UInt32) :
    order.store 4 (order.network32 word).toNat = big.store 4 word.toNat := by
  have hlow := order.store_mod 4 (order.network 4 word.toNat)
  rw [network32, UInt32.toNat_ofNat']
  exact hlow.trans (order.store_network 4 word.toNat)

theorem network16_load {bytes : List UInt8} (h : bytes.length = 2) :
    order.network16 (.ofNat (order.load bytes)) = .ofNat (big.load bytes) := by
  have hlow := order.network_mod 2 (order.load bytes)
  have hload := order.network_load bytes
  rw [h] at hload
  apply UInt16.toNat_inj.mp
  rw [network16, UInt16.toNat_ofNat', UInt16.toNat_ofNat', UInt16.toNat_ofNat', ← hload]
  exact hlow

theorem network32_load {bytes : List UInt8} (h : bytes.length = 4) :
    order.network32 (.ofNat (order.load bytes)) = .ofNat (big.load bytes) := by
  have hlow := order.network_mod 4 (order.load bytes)
  have hload := order.network_load bytes
  rw [h] at hload
  apply UInt32.toNat_inj.mp
  rw [network32, UInt32.toNat_ofNat', UInt32.toNat_ofNat', UInt32.toNat_ofNat', ← hload]
  exact hlow

end ByteOrder

/-! ## The bytes of addresses -/

/-- The octets of an address are its bytes, the big end first. -/
theorem Ipv4.toList_octets (a : Ipv4) : a.octets.toList = ByteOrder.big.store 4 a.value.toNat := by
  simp [Ipv4.octets, Octets.toList, ByteOrder.store, lowBytes, Nat.div_div_eq_div_mul]

theorem Ipv4.value_ofOctets (o : Octets) :
    (Ipv4.ofOctets o).value = .ofNat (ByteOrder.big.load o.toList) := by
  apply congrArg UInt32.ofNat
  simp only [ByteOrder.load, Octets.toList, List.reverse_cons, List.reverse_nil, List.nil_append,
    List.cons_append, numberOf]
  omega

theorem SocketAddress.portBytes_new (ip : UInt32) (port : UInt16) :
    (SocketAddress.new ip port).portBytes = ByteOrder.big.store 2 port.toNat := rfl

theorem SocketAddress.toList_address_new (ip : UInt32) (port : UInt16) :
    (SocketAddress.new ip port).address.toList = ByteOrder.big.store 4 ip.toNat :=
  Ipv4.toList_octets ⟨ip⟩

theorem SocketAddress.port_eq_load (a : SocketAddress) :
    a.port = .ofNat (ByteOrder.big.load a.portBytes) := by
  apply congrArg UInt16.ofNat
  simp only [ByteOrder.load, SocketAddress.portBytes, List.reverse_cons, List.reverse_nil,
    List.nil_append, List.cons_append, numberOf]
  omega

/-- An address in memory. The family is in the order of the machine. -/
def SocketAddress.memory (order : ByteOrder) (a : SocketAddress) : List UInt8 :=
  order.store 2 a.family.toNat ++ a.portBytes ++ a.address.toList ++ a.padding

/-! ## The records of a machine -/

/-- The words of an address. -/
structure AddressWords where
  family : Family
  port : UInt16
  address : UInt32
  padding : List UInt8

namespace AddressWords

/-- The record for a host-order address and port. -/
def make (order : ByteOrder) (ip : UInt32) (port : UInt16) : AddressWords where
  family := .inet
  port := order.network16 port
  address := order.network32 ip
  padding := List.replicate 8 0

/-- The words that a machine finds where the kernel left an address. -/
def read (order : ByteOrder) (name : SocketAddress) : AddressWords where
  family := name.family
  port := .ofNat (order.load name.portBytes)
  address := .ofNat (order.load name.address.toList)
  padding := name.padding

/-- The host-order address. -/
def ip (order : ByteOrder) (words : AddressWords) : UInt32 := order.network32 words.address

/-- The host-order port. -/
def hostPort (order : ByteOrder) (words : AddressWords) : UInt16 := order.network16 words.port

/-- The record in memory. -/
def memory (order : ByteOrder) (words : AddressWords) : List UInt8 :=
  order.store 2 words.family.toNat ++ order.store 2 words.port.toNat ++
    order.store 4 words.address.toNat ++ words.padding

variable (order : ByteOrder)

/-- A record that is read has the bytes that the kernel left. -/
theorem memory_read (name : SocketAddress) :
    (read order name).memory order = name.memory order := by
  have hport : order.store 2 (UInt16.ofNat (order.load name.portBytes)).toNat = name.portBytes := by
    rw [UInt16.toNat_ofNat']
    exact (order.store_mod 2 _).trans (order.store_load name.portBytes)
  have haddress : order.store 4 (UInt32.ofNat (order.load name.address.toList)).toNat =
      name.address.toList := by
    rw [UInt32.toNat_ofNat']
    exact (order.store_mod 4 _).trans (order.store_load name.address.toList)
  rw [memory, read, hport, haddress, SocketAddress.memory]

theorem ip_read (name : SocketAddress) : (read order name).ip order = name.ip.value :=
  (order.network32_load rfl).trans (Ipv4.value_ofOctets name.address).symm

theorem hostPort_read (name : SocketAddress) : (read order name).hostPort order = name.port :=
  (order.network16_load rfl).trans name.port_eq_load.symm

/-- The record that is made is the one that would be read. -/
theorem read_new (ip : UInt32) (port : UInt16) :
    read order (SocketAddress.new ip port) = make order ip port := by
  have hip : order.load (SocketAddress.new ip port).address.toList = order.network 4 ip.toNat := by
    rw [SocketAddress.toList_address_new]
    exact order.load_store 4 ip.toNat ip.toNat_lt
  have hport : order.load (SocketAddress.new ip port).portBytes = order.network 2 port.toNat := by
    rw [SocketAddress.portBytes_new]
    exact order.load_store 2 port.toNat port.toNat_lt
  rw [read, hip, hport]
  rfl

/-- **A record that is made has the bytes of its address in memory**, on every machine. -/
theorem memory_make (ip : UInt32) (port : UInt16) :
    (make order ip port).memory order = (SocketAddress.new ip port).memory order := by
  rw [← read_new, memory_read]

theorem ip_make (ip : UInt32) (port : UInt16) : (make order ip port).ip order = ip := by
  rw [← read_new, ip_read]
  exact congrArg Ipv4.value (SocketAddress.ip_ofEndpoint ⟨⟨ip⟩, port⟩)

theorem hostPort_make (ip : UInt32) (port : UInt16) :
    (make order ip port).hostPort order = port := by
  rw [← read_new, hostPort_read]
  exact SocketAddress.port_ofEndpoint ⟨⟨ip⟩, port⟩

end AddressWords

/-- The words of a membership request. -/
structure GroupWords where
  group : UInt32
  interface : UInt32

namespace GroupWords

/-- The request for a host-order group and interface. -/
def make (order : ByteOrder) (group interface : UInt32) : GroupWords :=
  ⟨order.network32 group, order.network32 interface⟩

/-- The request in memory. -/
def memory (order : ByteOrder) (words : GroupWords) : List UInt8 :=
  order.store 4 words.group.toNat ++ order.store 4 words.interface.toNat

/-- **A request has the octets of its group in memory and then those of its interface**, on every
machine. -/
theorem memory_make (order : ByteOrder) (group interface : Ipv4) :
    (make order group.value interface.value).memory order =
      group.octets.toList ++ interface.octets.toList := by
  rw [memory, make, order.store_network32, order.store_network32, group.toList_octets,
    interface.toList_octets]

end GroupWords

/-- What a machine does with host-order numbers.

* `made` — the record of an address is in memory what it is to be: the IPv4 family, the bytes of the
  port and of the address with the big end first, and eight zero bytes.
* `given` — the kernel gets the bytes of `SocketAddress.new`.
* `kept` — the record gives the numbers back.
* `read` — a record that the kernel left has its bytes, and gives the numbers that they mean.
* `request`, `interface` — a group and an interface are handed over by their octets. -/
structure ByteOrder.KeepsNumbers (order : ByteOrder) : Prop where
  made : ∀ ip port, (AddressWords.make order ip port).memory order =
    order.store 2 Family.inet.toNat ++ big.store 2 port.toNat ++ big.store 4 ip.toNat ++
      List.replicate 8 0
  given : ∀ ip port, (AddressWords.make order ip port).memory order =
    (SocketAddress.new ip port).memory order
  kept : ∀ ip port, (AddressWords.make order ip port).ip order = ip ∧
    (AddressWords.make order ip port).hostPort order = port
  read : ∀ name, (AddressWords.read order name).memory order = name.memory order ∧
    (AddressWords.read order name).ip order = name.ip.value ∧
    (AddressWords.read order name).hostPort order = name.port
  request : ∀ group interface : Ipv4,
    (GroupWords.make order group.value interface.value).memory order =
      group.octets.toList ++ interface.octets.toList
  interface : ∀ interface : Ipv4,
    order.store 4 (order.network32 interface.value).toNat = interface.octets.toList

/-- **The numbers of callers keep their value in memory, whatever the order of the machine.** -/
theorem ByteOrder.keepsNumbers (order : ByteOrder) : order.KeepsNumbers where
  made ip port := by
    rw [AddressWords.memory_make, SocketAddress.memory, SocketAddress.portBytes_new,
      SocketAddress.toList_address_new]
    rfl
  given := AddressWords.memory_make order
  kept ip port := ⟨AddressWords.ip_make order ip port, AddressWords.hostPort_make order ip port⟩
  read name := ⟨AddressWords.memory_read order name, AddressWords.ip_read order name,
    AddressWords.hostPort_read order name⟩
  request := GroupWords.memory_make order
  interface interface := by rw [order.store_network32, interface.toList_octets]

end SocketLayer
