/-!
# Payloads

The bytes a script sends are given in short, and the bytes it gets back are shown in short: a long
byte string by its length and a 64-bit digest.

* `Payload.pattern` — a reproducible byte string.
* `Payload.readHex?`, `Payload.hex` — hexadecimal text.
* `Payload.digest` — the 64-bit FNV-1a digest.
-/

set_option autoImplicit false

namespace SocketLayer.Payload

/-- The byte string of the given length whose byte `i` is `7 * i + i / 256 + seed`, reduced. -/
def pattern (length seed : Nat) : List UInt8 :=
  (List.range length).map fun i => .ofNat (7 * i + i / 256 + seed)

/-- The value of a hexadecimal digit. -/
def hexDigit? (c : Char) : Option Nat :=
  if c.isDigit then some (c.toNat - '0'.toNat)
  else if 'a' ≤ c ∧ c ≤ 'f' then some (c.toNat - 'a'.toNat + 10)
  else if 'A' ≤ c ∧ c ≤ 'F' then some (c.toNat - 'A'.toNat + 10)
  else none

/-- Reads pairs of hexadecimal digits. -/
def readHex? : List Char → Option (List UInt8)
  | [] => some []
  | [_] => none
  | high :: low :: rest => do
    let byte := 16 * (← hexDigit? high) + (← hexDigit? low)
    return .ofNat byte :: (← readHex? rest)

/-- The lower-case digits of a number in base sixteen, padded with zeros to the given width. -/
def hexDigits (width n : Nat) : List Char := (Nat.toDigits 16 n).leftpad width '0'

/-- The bytes in hexadecimal, two lower-case digits each. -/
def hex (bytes : List UInt8) : String := String.ofList (bytes.flatMap fun b => hexDigits 2 b.toNat)

/-- One step of the digest: mix in a byte, then multiply by the prime. -/
def digestStep (h : UInt64) (b : UInt8) : UInt64 := (h ^^^ b.toUInt64) * 0x100000001b3

/-- The 64-bit FNV-1a digest. -/
def digest (bytes : List UInt8) : UInt64 := bytes.foldl digestStep 0xcbf29ce484222325

/-- The digest as sixteen hexadecimal digits. -/
def digestText (bytes : List UInt8) : String := String.ofList (hexDigits 16 (digest bytes).toNat)

/-- The longest byte string that is shown whole. -/
def longestShown : Nat := 64

end SocketLayer.Payload
