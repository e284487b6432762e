/-!
# Binary64 numbers

The numbers of the binary64 format without its not-a-number values, and correct rounding to it:
to the nearest number of the format, of two equally near ones to the one with the even
significand. All arithmetic is exact on natural numbers; only the result is rounded.

## Main definitions

* `Binary64` — a signed number `significand · 2 ^ exponent`, or a signed infinity.
* `Binary64.ofRatio` — a fraction, rounded.
* `Binary64.ofDecimal` — `digits · 10 ^ exponent`, rounded.
* `Binary64.mul`, `Binary64.div` — product and quotient of the magnitudes, rounded.
-/

set_option autoImplicit false
set_option relaxedAutoImplicit false

namespace SchemaQueries

/-- A number of the binary64 format: `± significand · 2 ^ exponent` with a significand below
`2 ^ 53`, or an infinity. -/
inductive Binary64 where
  | finite (negative : Bool) (significand : Nat) (exponent : Int)
  | infinite (negative : Bool)
  deriving DecidableEq, Repr

namespace Binary64

/-- The least exponent of the format. -/
def minExponent : Int := -1074

/-- The greatest exponent of the format. -/
def maxExponent : Int := 971

/-- Zero with a sign. -/
def zero (negative : Bool) : Binary64 :=
  .finite negative 0 minExponent

/-- The sign of a number. -/
def negative : Binary64 → Bool
  | .finite n _ _ => n
  | .infinite n => n

/-- Whether a number is an infinity. -/
def isInfinite : Binary64 → Bool
  | .finite .. => false
  | .infinite _ => true

/-- Whether a number is a zero. -/
def isZero : Binary64 → Bool
  | .finite _ m _ => m == 0
  | .infinite _ => false

/-- The number with the given sign. -/
def withSign (negative : Bool) : Binary64 → Binary64
  | .finite _ m e => .finite negative m e
  | .infinite _ => .infinite negative

/-- The quotient of two naturals rounded to the nearest natural, a half to the even one. -/
def roundQuotient (num den : Nat) : Nat :=
  let whole := num / den
  let twice := 2 * (num % den)
  if twice < den then whole
  else if twice = den then whole + whole % 2
  else whole + 1

/-- The fraction `num / den` divided by `2 ^ exponent`, as a fraction of naturals. -/
def scaled (num den : Nat) (exponent : Int) : Nat × Nat :=
  if 0 ≤ exponent then (num, den * Nat.pow 2 exponent.toNat)
  else (num * Nat.pow 2 (-exponent).toNat, den)

/-- The number with a significand of at most `2 ^ 53`, or an infinity if the exponent is too
large for the format. -/
def normalized (negative : Bool) (significand : Nat) (exponent : Int) : Binary64 :=
  let carried : Nat × Int :=
    if significand = Nat.pow 2 53 then (Nat.pow 2 52, exponent + 1) else (significand, exponent)
  if maxExponent < carried.2 then .infinite negative
  else .finite negative carried.1 carried.2

/-- The fraction `num / den`, rounded. The exponent is the one that leaves a significand of
53 binary digits, but not below the least exponent of the format. -/
def ofRatio (negative : Bool) (num den : Nat) : Binary64 :=
  if num = 0 then zero negative
  else
    let estimate : Int := max ((num.log2 : Int) - (den.log2 : Int) - 53) minExponent
    let atEstimate := scaled num den estimate
    let exponent :=
      if atEstimate.2 * Nat.pow 2 53 ≤ atEstimate.1 then estimate + 1 else estimate
    let fraction := scaled num den exponent
    normalized negative (roundQuotient fraction.1 fraction.2) exponent

/-- The number `digits · 10 ^ exponent`, rounded. Outside the range of the format the result is
known from the count of digits alone. -/
def ofDecimal (negative : Bool) (digits : Nat) (exponent : Int) : Binary64 :=
  if digits = 0 then zero negative
  else
    let magnitude : Int := (Nat.toDigits 10 digits).length + exponent
    if 310 < magnitude then .infinite negative
    else if magnitude < -330 then zero negative
    else if 0 ≤ exponent then ofRatio negative (digits * Nat.pow 10 exponent.toNat) 1
    else ofRatio negative digits (Nat.pow 10 (-exponent).toNat)

/-- The natural number `n`, rounded. -/
def ofNat (n : Nat) : Binary64 :=
  ofRatio false n 1

/-- The product of the magnitudes of two finite numbers, rounded. -/
def mul : Binary64 → Binary64 → Binary64
  | .finite _ m e, .finite _ n f =>
    let fraction := scaled (m * n) 1 (-(e + f))
    ofRatio false fraction.1 fraction.2
  | _, _ => .infinite false

/-- The quotient of the magnitudes of two finite numbers, the second not zero, rounded. -/
def div : Binary64 → Binary64 → Binary64
  | .finite _ m e, .finite _ n f =>
    let fraction := scaled m n (-(e - f))
    ofRatio false fraction.1 fraction.2
  | .finite .., .infinite _ => zero false
  | .infinite _, _ => .infinite false

end Binary64

end SchemaQueries
