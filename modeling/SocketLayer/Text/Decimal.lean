/-!
# Decimal numerals

Natural numbers are written in base ten with no leading zero, and only that spelling is read
back: each number has exactly one numeral.

* `Decimal.digits` writes a number.
* `Decimal.read?` accepts a numeral and nothing else (`read?_digits`).
-/

set_option autoImplicit false

namespace SocketLayer.Decimal

/-- The base-ten digits of a number, most significant first. -/
def digits (n : Nat) : List Char := Nat.toDigits 10 n

/-- A non-empty run of ASCII digits that starts with zero only if it is zero. -/
def isNumeral : List Char → Bool
  | [] => false
  | [c] => c.isDigit
  | c :: rest => c.isDigit && c != '0' && rest.all Char.isDigit

/-- The number a numeral stands for; any other text is refused. -/
def read? (text : List Char) : Option Nat :=
  if isNumeral text then some (Nat.ofDigitChars 10 text 0) else none

theorem isDigit_of_mem_digits {n : Nat} {c : Char} (h : c ∈ digits n) : c.isDigit = true :=
  Nat.isDigit_of_mem_toDigits (by decide) (by decide) h

theorem digits_of_lt {n : Nat} (h : n < 10) : digits n = [n.digitChar] :=
  Nat.toDigits_of_lt_base h

theorem digits_step {n : Nat} (h : 10 ≤ n) :
    digits n = digits (n / 10) ++ [(n % 10).digitChar] := by
  rw [digits, Nat.toDigits_eq_if (by decide), if_neg (by omega)]
  rfl

theorem digits_ne_nil (n : Nat) : digits n ≠ [] := by
  by_cases h : n < 10
  · simp [digits_of_lt h]
  · simp [digits_step (Nat.le_of_not_lt h)]

/-- Only zero is written with a leading zero. -/
theorem head?_digits_ne_zero {n : Nat} (h : 0 < n) : (digits n).head? ≠ some '0' := by
  induction n using Nat.strongRecOn with
  | _ n ih =>
    by_cases hn : n < 10
    · have : n = 1 ∨ n = 2 ∨ n = 3 ∨ n = 4 ∨ n = 5 ∨ n = 6 ∨ n = 7 ∨ n = 8 ∨ n = 9 := by omega
      rcases this with h | h | h | h | h | h | h | h | h <;> subst h <;> decide
    · have hn : 10 ≤ n := by omega
      rw [digits_step hn, List.head?_append]
      have := ih (n / 10) (by omega) (by omega)
      cases hd : digits (n / 10) with
      | nil => exact absurd hd (digits_ne_nil _)
      | cons c rest => simpa [hd] using this

theorem isNumeral_digits (n : Nat) : isNumeral (digits n) = true := by
  have all : ∀ c ∈ digits n, c.isDigit = true := fun c h => isDigit_of_mem_digits h
  by_cases hn : n < 10
  · rw [digits_of_lt hn] at all ⊢
    simpa [isNumeral] using all
  · have lead := head?_digits_ne_zero (n := n) (by omega)
    have more := digits_ne_nil (n / 10)
    rw [digits_step (by omega)] at all lead ⊢
    cases hd : digits (n / 10) with
    | nil => exact absurd hd more
    | cons c rest =>
      rw [hd] at all lead
      cases rest <;> simp_all [isNumeral]

/-- Reading what was written gives the number back. -/
theorem read?_digits (n : Nat) : read? (digits n) = some n := by
  rw [read?, if_pos (isNumeral_digits n), digits, Nat.ofDigitChars_toDigits (by decide) (by decide)]

end SocketLayer.Decimal
