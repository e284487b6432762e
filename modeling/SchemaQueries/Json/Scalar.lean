import SchemaQueries.Json.Basic
import SchemaQueries.Json.Fault
import SchemaQueries.Text.Digits
import SchemaQueries.Text.Space

/-!
# Numbers and strings in a JSON text

A value that nobody asks for is passed over with less care than one that is read: a number may be
out of range, and a string may hold half a surrogate pair. So what is found in a text is kept
apart from whether it can be read.

## Main definitions

* `Json.Scanned` — what stands at the start of a text: something complete, with what a reader makes
  of it, or something broken.
* `Json.scanNumber`, `Json.scanString` — numbers and strings.
* `Json.NumberText.value` — the number that a text stands for.

## Implementation notes

A number with a point, an exponent or too many digits is built from a significand of 64 bits and a
power of ten, by one multiplication or division with rounding; further digits of the significand
are dropped. The result can be off by one in its last place.
-/

set_option autoImplicit false
set_option relaxedAutoImplicit false

namespace SchemaQueries.Json

/-- What stands at the start of a text. -/
inductive Scanned (α : Type) where
  /-- Something complete, what a reader makes of it, and the text behind it. -/
  | complete (value : Except Fault α) (rest : List Char)
  /-- The text breaks off: the fault that a reader reports, and the one that is reported by someone
  who passes over the value. -/
  | broken (read skipped : Fault)

/-! ### Numbers -/

/-- The parts of a number: its sign, the digits before and after the point, and the sign and
the digits of the exponent. -/
structure NumberText where
  negative : Bool
  whole : List Char
  fraction : Option (List Char)
  exponent : Option (Bool × List Char)

/-- Appends digits to a significand as long as it fits into 64 bits, and returns the digits that
were not appended. -/
def significandFrom (significand : Nat) : List Char → Nat × List Char
  | [] => (significand, [])
  | c :: rest =>
    let next := 10 * significand + (c.toNat - '0'.toNat)
    if next < Nat.pow 2 64 then significandFrom next rest else (significand, c :: rest)

/-- The power of ten `10 ^ n`, rounded. -/
def powerOfTen (n : Nat) : Binary64 :=
  .ofDecimal false 1 n

/-- Divides by `10 ^ 308` while the exponent is below `-308` and the number is not zero, at most
`steps` times. -/
def scaleDown (x : Binary64) (exponent : Int) : Nat → Binary64 × Int
  | 0 => (x, exponent)
  | steps + 1 =>
    if exponent < -308 && !x.isZero then
      scaleDown (x.div (powerOfTen 308)) (exponent + 308) steps
    else (x, exponent)

/-- The number `significand · 10 ^ exponent`. Its magnitude is out of range if it exceeds the
format. -/
def floatOf (negative : Bool) (significand : Nat) (exponent : Int) : Except Fault Number :=
  let (x, e) := scaleDown (.ofNat significand) exponent 4
  if x.isZero then .ok (.float (.zero negative))
  else if 308 < e then .error .numberOutOfRange
  else
    let y := if 0 ≤ e then x.mul (powerOfTen e.toNat) else x.div (powerOfTen (-e).toNat)
    if y.isInfinite then .error .numberOutOfRange else .ok (.float (y.withSign negative))

/-- The number with a significand, a power of ten and an exponent as it is written. An exponent
beyond 32 bits is out of range or gives zero. -/
def withExponent (negative : Bool) (significand : Nat) (power : Int) :
    Option (Bool × List Char) → Except Fault Number
  | none => floatOf negative significand power
  | some (below, digits) =>
    let e := Text.ofDigits digits
    if Nat.pow 2 31 ≤ e then
      if significand ≠ 0 && !below then .error .numberOutOfRange
      else .ok (.float (.zero negative))
    else floatOf negative significand (if below then power - e else power + e)

/-- The number that a text stands for. -/
def NumberText.value (t : NumberText) : Except Fault Number :=
  let (significand, dropped) := significandFrom 0 t.whole
  match t.fraction, t.exponent with
  | none, none =>
    if dropped.isEmpty then
      if !t.negative then .ok (.natural significand)
      else if significand = 0 || Nat.pow 2 63 < significand then
        .ok (.float ((Binary64.ofNat significand).withSign true))
      else .ok (.negative significand)
    else floatOf t.negative significand dropped.length
  | none, exponent => withExponent t.negative significand dropped.length exponent
  | some places, exponent =>
    let (longer, left) := significandFrom significand places
    let power : Int := dropped.length - (places.length - left.length : Nat)
    withExponent t.negative longer power exponent

/-- The number at the start of a text that starts with a minus sign or a digit. -/
def scanNumber (cs : List Char) : Scanned Number :=
  let (negative, cs) := match cs with
    | '-' :: rest => (true, rest)
    | cs => (false, cs)
  let whole := cs.takeWhile Char.isDigit
  let rest := cs.dropWhile Char.isDigit
  if whole.isEmpty then
    .broken (if rest.isEmpty then .endInValue else .invalidNumber) .invalidNumber
  else if whole.head? = some '0' && whole.length ≠ 1 then .broken .invalidNumber .invalidNumber
  else
    let (fraction, rest) := match rest with
      | '.' :: rest => (some (rest.takeWhile Char.isDigit), rest.dropWhile Char.isDigit)
      | rest => (none, rest)
    if fraction = some [] then
      .broken (if rest.isEmpty then .endInValue else .invalidNumber) .invalidNumber
    else
      let exponentOf (rest : List Char) : Option (Bool × List Char) × List Char :=
        let (below, rest) := match rest with
          | '+' :: rest => (false, rest)
          | '-' :: rest => (true, rest)
          | rest => (false, rest)
        (some (below, rest.takeWhile Char.isDigit), rest.dropWhile Char.isDigit)
      let (exponent, rest) := match rest with
        | 'e' :: rest => exponentOf rest
        | 'E' :: rest => exponentOf rest
        | rest => (none, rest)
      if (exponent.map (·.2)) = some [] then
        .broken (if rest.isEmpty then .endInValue else .invalidNumber) .invalidNumber
      else .complete (NumberText.value ⟨negative, whole, fraction, exponent⟩) rest

/-! ### Strings -/

/-- The UTF-16 unit of four hexadecimal digits. -/
def unit? (a b c d : Char) : Option Nat := do
  let high := 16 * (← Text.hexDigit? a) + (← Text.hexDigit? b)
  let low := 16 * (← Text.hexDigit? c) + (← Text.hexDigit? d)
  return 256 * high + low

/-- The character that a letter behind a backslash stands for. -/
def shortEscape? (c : Char) : Option Char :=
  if c = '"' || c = '\\' || c = '/' then some c
  else if c = 'b' then some '\x08'
  else if c = 'f' then some '\x0c'
  else if c = 'n' then some '\n'
  else if c = 'r' then some '\r'
  else if c = 't' then some '\t'
  else none

/-- How far a reader has come in a string: the characters so far in reverse, the first half of a
surrogate pair that waits for the second one, and the first fault that only a reader minds. -/
structure StringProgress where
  seen : List Char
  half : Option Nat
  minded : Option Fault

namespace StringProgress

/-- Nothing read yet. -/
def start : StringProgress := ⟨[], none, none⟩

/-- Whatever comes next, it is not the second half of a pair. -/
def settle (p : StringProgress) : StringProgress :=
  match p.half with
  | none => p
  | some _ => { p with half := none, minded := p.minded.or (some .endOfSurrogatePair) }

/-- A character. -/
def push (p : StringProgress) (c : Char) : StringProgress :=
  let q := p.settle
  { q with seen := c :: q.seen }

/-- A UTF-16 unit. -/
def pushUnit (p : StringProgress) (n : Nat) : StringProgress :=
  let isFirst := 0xD800 ≤ n && n ≤ 0xDBFF
  let isSecond := 0xDC00 ≤ n && n ≤ 0xDFFF
  match p.half with
  | some first =>
    if isSecond then
      let c := Char.ofNat (0x10000 + (first - 0xD800) * 0x400 + (n - 0xDC00))
      { p with seen := c :: p.seen, half := none }
    else { p with half := none, minded := p.minded.or (some .loneSurrogate) }
  | none =>
    if isSecond then { p with minded := p.minded.or (some .loneSurrogate) }
    else if isFirst then { p with half := some n }
    else { p with seen := Char.ofNat n :: p.seen }

/-- What a reader makes of the string. -/
def result (p : StringProgress) : Except Fault String :=
  match p.settle.minded with
  | some f => .error f
  | none => .ok (String.ofList p.seen.reverse)

/-- The string breaks off with a fault. -/
def breakOff (p : StringProgress) (f : Fault) : Scanned String :=
  .broken (p.minded.getD f) f

end StringProgress

/-- The fault of four characters that are not all hexadecimal digits: that the text ends, if fewer
than four bytes of it are left. -/
def hexFault (cs : List Char) : Fault :=
  if Text.byteLength cs < 4 then .endInString else .invalidEscape

/-- The string whose opening quote and first characters have been read. -/
def scanStringFrom (p : StringProgress) : List Char → Scanned String
  | [] => p.breakOff .endInString
  | ['\\'] => p.breakOff .endInString
  | '\\' :: 'u' :: a :: b :: c :: d :: rest =>
    match unit? a b c d with
    | some n => scanStringFrom (p.pushUnit n) rest
    | none => p.breakOff (hexFault (a :: b :: c :: d :: rest))
  | '\\' :: 'u' :: rest => p.breakOff (hexFault rest)
  | '\\' :: c :: rest =>
    match shortEscape? c with
    | some x => scanStringFrom (p.push x) rest
    | none => p.settle.breakOff .invalidEscape
  | c :: rest =>
    if c = '"' then .complete p.result rest
    else if c.toNat < 0x20 then p.settle.breakOff .controlCharacter
    else scanStringFrom (p.push c) rest

/-- The string behind an opening quote. -/
def scanString (cs : List Char) : Scanned String :=
  scanStringFrom .start cs

end SchemaQueries.Json
