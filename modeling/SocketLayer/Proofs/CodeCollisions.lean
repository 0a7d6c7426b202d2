import SocketLayer.StatusCode

/-!
# What a code tells, and where codes collide

All results share one signed 32-bit space: sentinels below zero, values from zero on. A code then
tells a success from a failure and gives the value back, except for the types whose values may be
negative themselves. For those the collisions are listed, and there are no others.

* `TransferCodes` — the codes of a transfer: three ranges, and the count up to the largest code.
* `FailureCodes` — the types with no collision: a negative code means a failure.
* `AddressCodes`, `WordCodes` — addresses and words: each success that looks like a failure.
* `codes_decodable` — the whole contract.
-/

set_option autoImplicit false

namespace SocketLayer

namespace NetError

/-- Whether the error is that of a peer of another family, the only one with a code of its own. -/
def IsFamily (error : NetError) : Prop := ∃ family, error = .unsupportedFamily family

instance : DecidablePred IsFamily
  | .unsupportedFamily family => .isTrue ⟨family, rfl⟩
  | .os .. | .invalidHandle | .invalidState .. | .noPeer | .unsupported _ => .isFalse nofun

/-- An error has one of two codes. -/
theorem statusCode_eq (error : NetError) :
    statusCode error = if error.IsFamily then -2 else -1 := by
  cases error <;> rfl

theorem statusCode_lt_zero (error : NetError) : statusCode error < 0 := by
  rw [statusCode_eq]
  split <;> decide

theorem statusCode_eq_neg_two_iff (error : NetError) :
    statusCode error = -2 ↔ error.IsFamily := by
  rw [statusCode_eq]
  split <;> simp_all

end NetError

namespace StatusCode

/-! ## Counts -/

theorem toInt_ofCount (n : Nat) : (ofCount n).toInt = min n largest := by
  have h : min n largest < 2 ^ 31 := by
    simp only [largest]
    omega
  simpa [ofCount] using Int32.toInt_ofNat_of_lt h

theorem ofCount_nonneg (n : Nat) : 0 ≤ ofCount n := by
  rw [Int32.le_iff_toInt_le, toInt_ofCount]
  exact Int.natCast_nonneg _

theorem ofCount_mono {m n : Nat} (h : m ≤ n) : ofCount m ≤ ofCount n := by
  rw [Int32.le_iff_toInt_le, toInt_ofCount, toInt_ofCount]
  omega

/-- Counts share a code only where both are beyond the largest. -/
theorem ofCount_inj_iff (m n : Nat) :
    ofCount m = ofCount n ↔ m = n ∨ (largest ≤ m ∧ largest ≤ n) := by
  rw [← Int32.toInt_inj, toInt_ofCount, toInt_ofCount]
  omega

/-! ## Transfers -/

/-- The codes of a transfer.

* `transferred_iff`, `retry_iff`, `disconnected_iff` — the code tells the outcome.
* `exact` — the code of a count is the count itself, up to the largest code.
* `saturated` — every larger count has the largest code.
* `mono` — more bytes never have a smaller code. -/
structure TransferCodes : Prop where
  transferred_iff : ∀ t : Transfer, 0 ≤ statusCode t ↔ ∃ n, t = .transferred n
  retry_iff : ∀ t : Transfer, statusCode t = -1 ↔ t = .retry
  disconnected_iff : ∀ t : Transfer, statusCode t = -2 ↔ t = .disconnected
  exact : ∀ n ≤ 0x7FFFFFFF, (statusCode (Transfer.transferred n)).toInt = n
  saturated : ∀ n ≥ 0x7FFFFFFF, (statusCode (Transfer.transferred n)).toInt = 0x7FFFFFFF
  mono : ∀ m n, m ≤ n → statusCode (Transfer.transferred m) ≤ statusCode (Transfer.transferred n)

/-- No count has the code of a sentinel. -/
theorem ofCount_ne_of_neg {c : Int32} (hc : c < 0) (n : Nat) : ofCount n ≠ c := by
  rintro rfl
  exact Int32.not_lt.mpr (ofCount_nonneg n) hc

theorem transferCodes : TransferCodes where
  transferred_iff
    | .transferred n => ⟨fun _ => ⟨n, rfl⟩, fun _ => ofCount_nonneg n⟩
    | .retry | .disconnected => ⟨fun h => absurd h (by decide), nofun⟩
  retry_iff
    | .transferred n => ⟨fun h => absurd h (ofCount_ne_of_neg (by decide) n), nofun⟩
    | .retry => ⟨fun _ => rfl, fun _ => rfl⟩
    | .disconnected => ⟨fun h => absurd h (by decide), nofun⟩
  disconnected_iff
    | .transferred n => ⟨fun h => absurd h (ofCount_ne_of_neg (by decide) n), nofun⟩
    | .retry => ⟨fun h => absurd h (by decide), nofun⟩
    | .disconnected => ⟨fun _ => rfl, fun _ => rfl⟩
  exact n hn := by
    show (ofCount n).toInt = n
    rw [toInt_ofCount, largest]
    omega
  saturated n hn := by
    show (ofCount n).toInt = 0x7FFFFFFF
    rw [toInt_ofCount, largest]
    omega
  mono _ _ h := ofCount_mono h

/-! ## Types whose values are never negative -/

variable {α : Type} [StatusCode α]

/-- The codes of results without a collision: a negative code means a failure, and -2 is the code of
a peer of another family alone. -/
structure FailureCodes (α : Type) [StatusCode α] : Prop where
  negative_iff : ∀ r : Except NetError α, statusCode r < 0 ↔ ∃ error, r = .error error
  family_iff : ∀ r : Except NetError α,
    statusCode r = -2 ↔ ∃ error, r = .error error ∧ error.IsFamily

/-- A type whose values are never negative has no collision. -/
theorem failureCodes_of_nonneg (h : ∀ a : α, 0 ≤ statusCode a) : FailureCodes α where
  negative_iff
    | .ok a => ⟨fun hneg => absurd (h a) (Int32.not_le.mpr hneg), nofun⟩
    | .error error => ⟨fun _ => ⟨error, rfl⟩, fun _ => error.statusCode_lt_zero⟩
  family_iff
    | .ok a => by
      refine ⟨fun hcode => ?_, nofun⟩
      have hnonneg : (0 : Int32) ≤ -2 := hcode ▸ h a
      exact absurd hnonneg (by decide)
    | .error error => by
      show statusCode error = -2 ↔ _
      simp [error.statusCode_eq_neg_two_iff]

theorem toInt_port (port : UInt16) : (statusCode port).toInt = port.toNat := by
  have h : port.toNat < 2 ^ 31 := by
    have := port.toNat_lt
    omega
  exact Int32.toInt_ofNat_of_lt h

theorem port_nonneg (port : UInt16) : 0 ≤ statusCode port := by
  rw [Int32.le_iff_toInt_le, toInt_port]
  exact Int.natCast_nonneg _

theorem port_injective {p q : UInt16} (h : statusCode p = statusCode q) : p = q := by
  rw [← Int32.toInt_inj, toInt_port, toInt_port] at h
  exact UInt16.toNat_inj.mp (by omega)

/-! ## Types with collisions -/

/-- A success and a failure have the same code. -/
def Collides (a : α) (error : NetError) : Prop :=
  statusCode (.ok a : Except NetError α) = statusCode (.error error : Except NetError α)

/-- Every collision is at a sentinel. -/
theorem collides_iff (a : α) (error : NetError) :
    Collides a error ↔
      (statusCode a = -1 ∧ ¬ error.IsFamily) ∨ (statusCode a = -2 ∧ error.IsFamily) := by
  show statusCode a = statusCode error ↔ _
  rw [error.statusCode_eq]
  split <;> simp_all

theorem toInt32_eq_iff (x : UInt32) (c : Int32) : x.toInt32 = c ↔ x = c.toUInt32 := by
  constructor
  · rintro rfl
    exact (UInt32.toUInt32_toInt32 x).symm
  · rintro rfl
    exact Int32.toInt32_toUInt32 c

/-- Read as signed, the upper half of the words is negative. -/
theorem toInt32_neg_iff (x : UInt32) : x.toInt32 < 0 ↔ 0x80000000 ≤ x.toNat := by
  rw [Int32.lt_iff_toInt_lt]
  show x.toBitVec.toInt < 0 ↔ 0x80000000 ≤ x.toBitVec.toNat
  have := x.toBitVec.isLt
  rw [BitVec.toInt_eq_toNat_cond]
  split <;> omega

/-- The codes of an address lookup.

* `injective` — different addresses have different codes.
* `recovered` — read as unsigned, the code is the address.
* `negative_iff` — a negative code means a failure or an address from 128.0.0.0 on.
* `collides_iff` — two addresses look like a failure: 255.255.255.255 like those with code -1, and
  255.255.255.254 like a peer of another family. -/
structure AddressCodes : Prop where
  injective : ∀ a b : Ipv4,
    statusCode (.ok a : Except NetError Ipv4) = statusCode (.ok b : Except NetError Ipv4) → a = b
  recovered : ∀ a : Ipv4, (⟨(statusCode (.ok a : Except NetError Ipv4)).toUInt32⟩ : Ipv4) = a
  negative_iff : ∀ r : Except NetError Ipv4, statusCode r < 0 ↔
    (∃ error, r = .error error) ∨ ∃ a, r = .ok a ∧ (Ipv4.ofOctets ⟨128, 0, 0, 0⟩).value ≤ a.value
  collides_iff : ∀ (a : Ipv4) (error : NetError), Collides a error ↔
    (a = .ofOctets ⟨255, 255, 255, 255⟩ ∧ ¬ error.IsFamily) ∨
      (a = .ofOctets ⟨255, 255, 255, 254⟩ ∧ error.IsFamily)

theorem address_eq_iff (a : Ipv4) (c : Int32) : statusCode a = c ↔ a = ⟨c.toUInt32⟩ := by
  obtain ⟨value⟩ := a
  rw [Ipv4.mk.injEq]
  exact toInt32_eq_iff value c

theorem addressCodes : AddressCodes where
  injective a b h := by
    have hb : b = ⟨(statusCode a).toUInt32⟩ := (address_eq_iff b _).mp h.symm
    have ha : a = ⟨(statusCode a).toUInt32⟩ := (address_eq_iff a _).mp rfl
    rw [ha, ← hb]
  recovered a := ((address_eq_iff a _).mp rfl).symm
  negative_iff
    | .ok a => by
      have hhalf : (Ipv4.ofOctets ⟨128, 0, 0, 0⟩).value.toNat = 0x80000000 := by decide
      show a.value.toInt32 < 0 ↔ _
      simp [toInt32_neg_iff, UInt32.le_iff_toNat_le, hhalf]
    | .error error => ⟨fun _ => .inl ⟨error, rfl⟩, fun _ => error.statusCode_lt_zero⟩
  collides_iff a error := by
    have hfirst : (⟨(-1 : Int32).toUInt32⟩ : Ipv4) = .ofOctets ⟨255, 255, 255, 255⟩ := by decide
    have hsecond : (⟨(-2 : Int32).toUInt32⟩ : Ipv4) = .ofOctets ⟨255, 255, 255, 254⟩ := by decide
    rw [StatusCode.collides_iff, address_eq_iff, address_eq_iff, hfirst, hsecond]

/-- The code of a word is the word, so that it looks like a failure at the sentinels. -/
structure WordCodes : Prop where
  exact : ∀ value : Int32, statusCode (.ok value : Except NetError Int32) = value
  collides_iff : ∀ (value : Int32) (error : NetError), Collides value error ↔
    (value = -1 ∧ ¬ error.IsFamily) ∨ (value = -2 ∧ error.IsFamily)

/-! ## The contract -/

/-- What the codes tell.

* `transfer` — of a transfer, everything up to the largest code.
* `unit`, `flag`, `port`, `count`, `connect` — of these results, success or failure.
* `flag_injective`, `port_injective`, `count_iff` — and the value of a success.
* `address`, `word` — of addresses and words, everything outside two collisions. -/
structure Decodable : Prop where
  transfer : TransferCodes
  unit : FailureCodes Unit
  flag : FailureCodes Bool
  port : FailureCodes UInt16
  count : FailureCodes Nat
  connect : FailureCodes Connect
  flag_injective : ∀ a b : Bool,
    statusCode (.ok a : Except NetError Bool) = statusCode (.ok b : Except NetError Bool) → a = b
  port_injective : ∀ p q : UInt16,
    statusCode (.ok p : Except NetError UInt16) = statusCode (.ok q : Except NetError UInt16) →
      p = q
  count_iff : ∀ m n : Nat,
    statusCode (.ok m : Except NetError Nat) = statusCode (.ok n : Except NetError Nat) ↔
      m = n ∨ (0x7FFFFFFF ≤ m ∧ 0x7FFFFFFF ≤ n)
  address : AddressCodes
  word : WordCodes

/-- **The numeric contract can be decoded, exactly outside its collisions.** -/
theorem codes_decodable : Decodable where
  transfer := transferCodes
  unit := failureCodes_of_nonneg fun _ => Int32.le_refl 0
  flag := failureCodes_of_nonneg (by decide)
  port := failureCodes_of_nonneg port_nonneg
  count := failureCodes_of_nonneg ofCount_nonneg
  connect := failureCodes_of_nonneg fun _ => Int32.le_refl 0
  flag_injective := by decide
  port_injective _ _ h := port_injective h
  count_iff := ofCount_inj_iff
  address := addressCodes
  word := ⟨fun _ => rfl, fun value error => collides_iff value error⟩

end StatusCode
end SocketLayer
