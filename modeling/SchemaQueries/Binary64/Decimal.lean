import SchemaQueries.Binary64.Basic

/-!
# The decimal text of a binary64 number

A number is written with the fewest decimal digits that read back as the same number, and of the
texts of that length with the one nearest to it. How those digits are laid out is a choice of the
format that prints them.

## Main definitions

* `Binary64.shortest` — the fewest digits that read back, and their power of ten.
* `DecimalLayout` — when a number is written without exponent, and whether a whole number keeps a
  point and a zero.
* `Binary64.text` — the text of a number in a layout.

## Implementation notes

The digits are looked for on ever finer grids `10 ^ k`. The numbers that read back as a given one
form an interval around it, which contains its own ends exactly if the significand is even. If any
point of a grid lies in the interval, one of the two grid points next to the number does.
-/

set_option autoImplicit false
set_option relaxedAutoImplicit false

namespace SchemaQueries

/-- How the digits of a number are laid out. -/
structure DecimalLayout where
  /-- The least and the greatest power of ten of a leading digit that is written without
  exponent; `none` if no number is written with one. -/
  positional : Option (Int × Int)
  /-- Whether a whole number written without exponent ends in a point and a zero. -/
  pointAlways : Bool
  /-- Whether of two equally near shortest texts the greater one is taken, and not the one whose
  last digit is even. -/
  halfUp : Bool
  deriving Repr

namespace Binary64

/-- The point of the grid `10 ^ k` that reads back as `m · 2 ^ q` and is nearest to it, as a
multiple of `10 ^ k`, or `none` if no point of the grid reads back; `halfUp` decides between two
equally near points. Lengths are compared in
quarters of `2 ^ q`: the interval reaches half a step up, and half a step down, or a quarter
below a power of two, where the steps are half as wide. -/
def nearestOnGrid (halfUp : Bool) (m : Nat) (q k : Int) : Option Nat :=
  let binary := Nat.pow 2 (q - 2).toNat
  let den := Nat.pow 2 (2 - q).toNat * Nat.pow 10 k.toNat
  let unit := binary * Nat.pow 10 (-k).toNat
  let value := 4 * m * unit
  let low := (4 * m - (if m = Nat.pow 2 52 && minExponent < q then 1 else 2)) * unit
  let high := (4 * m + 2) * unit
  let inside (c : Nat) : Bool :=
    if m % 2 = 0 then low ≤ c * den && c * den ≤ high else low < c * den && c * den < high
  let below := value / den
  let above := below + 1
  match inside below, inside above with
  | true, true =>
    let toBelow := value - below * den
    let toAbove := above * den - value
    some (if toBelow < toAbove || (toBelow = toAbove && !halfUp && below % 2 = 0) then below
      else above)
  | true, false => some below
  | false, true => some above
  | false, false => none

/-- The first grid at or below `10 ^ k`, within `steps` tries, that has a point reading back as
`m · 2 ^ q`: the point and the exponent of its grid. -/
def coarsestGrid (halfUp : Bool) (m : Nat) (q k : Int) : Nat → Nat × Int
  | 0 => (0, k)
  | steps + 1 =>
    match nearestOnGrid halfUp m q k with
    | some c => (c, k)
    | none => coarsestGrid halfUp m q (k - 1) steps

/-- The number without its last zeros, and the power of ten that makes up for them. At most
`steps` zeros are taken off. -/
def withoutTrailingZeros (digits : Nat) (exponent : Int) : Nat → Nat × Int
  | 0 => (digits, exponent)
  | steps + 1 =>
    if digits ≠ 0 && digits % 10 = 0 then withoutTrailingZeros (digits / 10) (exponent + 1) steps
    else (digits, exponent)

/-- The fewest decimal digits that read back as `m · 2 ^ q`, as a natural number without a zero at
its end, and the power of ten that they are multiplied by. -/
def shortest (halfUp : Bool) (m : Nat) (q : Int) : Nat × Int :=
  if m = 0 then (0, 0)
  else
    let leading : Int := (((m.log2 : Int) + q) * 30103).fdiv 100000
    let point := coarsestGrid halfUp m q (leading + 2) 24
    withoutTrailingZeros point.1 point.2 20

/-- Digits and a power of ten, written without exponent. -/
def positionalText (pointAlways : Bool) (digits : List Char) (exponent : Int) : List Char :=
  if 0 ≤ exponent then
    digits ++ List.replicate exponent.toNat '0' ++ (if pointAlways then ['.', '0'] else [])
  else
    let places := (-exponent).toNat
    if places < digits.length then
      digits.take (digits.length - places) ++ '.' :: digits.drop (digits.length - places)
    else
      '0' :: '.' :: List.replicate (places - digits.length) '0' ++ digits

/-- Digits and the power of ten of the first one, written with an exponent that has a sign. -/
def exponentText (digits : List Char) (leading : Int) : List Char :=
  let mantissa := match digits with
    | d :: e :: rest => d :: '.' :: e :: rest
    | short => short
  mantissa ++ 'e' :: (if 0 ≤ leading then '+' else '-') :: Nat.toDigits 10 leading.natAbs

/-- The text of a number in a layout. -/
def text (layout : DecimalLayout) : Binary64 → List Char
  | .infinite negative => if negative then "-inf".toList else "inf".toList
  | .finite negative m q =>
    let (d, k) := shortest layout.halfUp m q
    let digits := Nat.toDigits 10 d
    let leading : Int := digits.length + k - 1
    let withoutExponent := match layout.positional with
      | none => true
      | some (least, greatest) => least ≤ leading && leading ≤ greatest
    (if negative then ['-'] else []) ++
      (if withoutExponent then positionalText layout.pointAlways digits k
       else exponentText digits leading)

end Binary64

end SchemaQueries
