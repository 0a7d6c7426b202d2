import SocketLayer.Text.Decimal

/-!
# IPv4 addresses

An address is the 32-bit number callers use; the network sees its four octets, most significant
first.

* `Ipv4.octets`, `Ipv4.ofOctets` — the two views, inverse to each other.
* `Ipv4.chars`, `Ipv4.read?` — the dotted text, and the reader that accepts nothing else.
* `Ipv4.isMulticast` — the class the group operations depend on.
-/

set_option autoImplicit false

namespace SocketLayer

/-- An IPv4 address as a host-order number. -/
structure Ipv4 where
  value : UInt32
  deriving DecidableEq, Repr

/-- The four octets of an address in the order they travel. -/
structure Octets where
  first : UInt8
  second : UInt8
  third : UInt8
  fourth : UInt8
  deriving DecidableEq, Repr

/-- The octets as a byte string. -/
def Octets.toList (o : Octets) : List UInt8 := [o.first, o.second, o.third, o.fourth]

namespace Ipv4

/-- The address that stands for "any local address". -/
def unspecified : Ipv4 := ⟨0⟩

/-- The octets of an address, most significant first. -/
def octets (a : Ipv4) : Octets :=
  let n := a.value.toNat
  ⟨.ofNat (n / 0x1000000), .ofNat (n / 0x10000), .ofNat (n / 0x100), .ofNat n⟩

/-- The address with the given octets. -/
def ofOctets (o : Octets) : Ipv4 :=
  ⟨.ofNat (((o.first.toNat * 256 + o.second.toNat) * 256 + o.third.toNat) * 256 + o.fourth.toNat)⟩

/-- Group addresses are those of 224.0.0.0/4. -/
def isMulticast (a : Ipv4) : Bool := a.octets.first.toNat / 16 == 14

/-- The dotted text of an address. -/
def chars (a : Ipv4) : List Char :=
  let part (b : UInt8) := Decimal.digits b.toNat
  part a.octets.first ++ '.' :: part a.octets.second ++ '.' :: part a.octets.third ++
    '.' :: part a.octets.fourth

/-- The dotted text of an address. -/
def text (a : Ipv4) : String := String.ofList a.chars

/-- A numeral up to 255. -/
def readOctet? (numeral : List Char) : Option UInt8 :=
  match Decimal.read? numeral with
  | some n => if n < 256 then some (.ofNat n) else none
  | none => none

/-- The parts of a text between the separators: always one more than there are separators. -/
def split (separator : Char) : List Char → List (List Char)
  | [] => [[]]
  | c :: rest =>
    match split separator rest with
    | [] => [[c]]
    | part :: parts => if c = separator then [] :: part :: parts else (c :: part) :: parts

/-- Reads four dotted numerals, each up to 255 and without leading zeros; refuses all else. -/
def read? (text : List Char) : Option Ipv4 :=
  match split '.' text with
  | [a, b, c, d] => do
    let o : Octets := ⟨← readOctet? a, ← readOctet? b, ← readOctet? c, ← readOctet? d⟩
    return ofOctets o
  | _ => none

/-- The octets of an address determine it. -/
theorem ofOctets_octets (a : Ipv4) : ofOctets a.octets = a := by
  obtain ⟨v⟩ := a
  have hv := v.toNat_lt
  simp only [ofOctets, octets, UInt8.toNat_ofNat']
  congr 1
  apply UInt32.toNat_inj.mp
  simp only [UInt32.toNat_ofNat']
  omega

theorem octets_ofOctets (o : Octets) : (ofOctets o).octets = o := by
  obtain ⟨a, b, c, d⟩ := o
  have ha := a.toNat_lt
  have hb := b.toNat_lt
  have hc := c.toNat_lt
  have hd := d.toNat_lt
  simp only [ofOctets, octets, UInt32.toNat_ofNat', Octets.mk.injEq]
  refine ⟨?_, ?_, ?_, ?_⟩ <;>
    · apply UInt8.toNat_inj.mp
      simp only [UInt8.toNat_ofNat']
      omega

end Ipv4
end SocketLayer
