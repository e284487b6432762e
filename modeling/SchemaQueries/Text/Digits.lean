/-!
# Digits

## Main definitions

* `Text.ofDigits` — the number that decimal digits stand for.
* `Text.hexDigit?` — the value of a hexadecimal digit.

## Main results

* `Text.ofDigits_toDigits` — a number is read back from its decimal digits.
-/

set_option autoImplicit false
set_option relaxedAutoImplicit false

namespace SchemaQueries.Text

/-- The number that decimal digits stand for. -/
def ofDigits (digits : List Char) : Nat :=
  Nat.ofDigitChars 10 digits 0

/-- A number is read back from its decimal digits. -/
@[simp] theorem ofDigits_toDigits (n : Nat) : ofDigits (Nat.toDigits 10 n) = n :=
  Nat.ofDigitChars_ten_toDigits

/-- The value of a hexadecimal digit. -/
def hexDigit? (c : Char) : Option Nat :=
  if c.isDigit then some (c.toNat - '0'.toNat)
  else if 'a' ≤ c && c ≤ 'f' then some (c.toNat - 'a'.toNat + 10)
  else if 'A' ≤ c && c ≤ 'F' then some (c.toNat - 'A'.toNat + 10)
  else none

end SchemaQueries.Text
