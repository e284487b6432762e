import SchemaQueries.Text.Digits
import SchemaQueries.Text.Parts

/-!
# Numeric addresses of hosts

The two kinds of numbers that hosts have, and their texts.

## Main definitions

* `Network.Ipv4` — four bytes as one number, and `Network.Ipv4.ofText?`, which reads up to four
  parts in decimal, octal or hexadecimal digits; the last part fills what the others leave.
* `Network.Ipv4.endsInNumber` — whether the name of a host has to be such a number.
* `Network.Ipv6` — eight pieces, and `Network.Ipv6.ofText?`.
* `Network.Ipv4.text`, `Network.Ipv6.text` — the texts.
-/

set_option autoImplicit false
set_option relaxedAutoImplicit false

namespace SchemaQueries.Network

/-- The number in digits of a base, if all characters are such digits. -/
def numberIn? (base : Nat) (cs : List Char) : Option Nat := do
  let digits ← cs.mapM Text.hexDigit?
  if digits.all (· < base) then return digits.foldl (fun n d => base * n + d) 0 else none

/-! ### Four bytes -/

/-- A number of 32 bits. -/
structure Ipv4 where
  number : Nat
  deriving DecidableEq, Repr

namespace Ipv4

/-- The number in a part of an address: hexadecimal behind `0x`, octal behind `0`. -/
def part? : List Char → Option Nat
  | [] => none
  | '0' :: 'x' :: digits => numberIn? 16 digits
  | '0' :: 'X' :: digits => numberIn? 16 digits
  | '0' :: d :: digits => numberIn? 8 (d :: digits)
  | digits => numberIn? 10 digits

/-- The parts of a text between points, without an empty one at the end. -/
def partsOf (cs : List Char) : List (List Char) :=
  let parts := Text.partsBetween (· == '.') cs
  if parts.getLast? = some [] then parts.dropLast else parts

/-- Whether the last part of a name is a number or at least in decimal digits. -/
def endsInNumber (cs : List Char) : Bool :=
  match (partsOf cs).getLast? with
  | none => false
  | some part => (!part.isEmpty && part.all Char.isDigit) || (part? part).isSome

/-- The number of an address whose last part is this one. The other parts are bytes. -/
def ofParts? (bytes : List Nat) (last : Nat) : Option Ipv4 :=
  let space := Nat.pow 256 (4 - bytes.length)
  if bytes.length < 4 && bytes.all (· < 256) && last < space then
    some ⟨bytes.foldl (fun n b => 256 * n + b) 0 * space + last⟩
  else none

/-- The address that a text denotes. -/
def ofText? (cs : List Char) : Option Ipv4 := do
  let numbers ← (partsOf cs).mapM part?
  ofParts? numbers.dropLast (← numbers.getLast?)

/-- The text of an address: its bytes in decimal digits. -/
def text (a : Ipv4) : List Char :=
  let byte (place : Nat) := Nat.toDigits 10 (a.number / Nat.pow 256 place % 256)
  ['.'].intercalate [byte 3, byte 2, byte 1, byte 0]

end Ipv4

/-! ### Eight pieces -/

/-- Eight numbers of 16 bits. -/
structure Ipv6 where
  pieces : List Nat
  deriving DecidableEq, Repr

namespace Ipv6

/-- A byte in decimal digits, without zeros in front. -/
def byte? (cs : List Char) : Option Nat :=
  if cs.isEmpty || 3 < cs.length || (1 < cs.length && cs.head? = some '0') then none
  else (numberIn? 10 cs).filter (· < 256)

/-- The two pieces that four bytes make up. -/
def bytes? (cs : List Char) : Option (List Nat) :=
  match (Text.partsBetween (· == '.') cs).mapM byte? with
  | some [a, b, c, d] => some [256 * a + b, 256 * c + d]
  | _ => none

/-- A piece in hexadecimal digits. -/
def piece? (cs : List Char) : Option Nat :=
  if cs.isEmpty || 4 < cs.length then none else numberIn? 16 cs

/-- The pieces in a text. The last two can be written as four bytes. -/
def pieces? (cs : List Char) (bytesAllowed : Bool) : Option (List Nat) :=
  if cs.isEmpty then some []
  else do
    let parts := Text.partsBetween (· == ':') cs
    let last ← parts.getLast?
    let others ← parts.dropLast.mapM piece?
    if bytesAllowed && last.contains '.' then return others ++ (← bytes? last)
    else return others ++ [← piece? last]

/-- The text in front of the first two colons, and the text behind them. -/
def splitAtGap : List Char → Option (List Char × List Char)
  | ':' :: ':' :: rest => some ([], rest)
  | c :: rest => (splitAtGap rest).map fun parts => (c :: parts.1, parts.2)
  | [] => none

/-- The address that a text denotes. Two colons stand for zeros, at least for one. -/
def ofText? (cs : List Char) : Option Ipv6 :=
  match splitAtGap cs with
  | none => do
    let pieces ← pieces? cs true
    if pieces.length = 8 then return ⟨pieces⟩ else none
  | some (front, back) => do
    let first ← pieces? front false
    let last ← pieces? back true
    let count := first.length + last.length
    if count < 8 then return ⟨first ++ List.replicate (8 - count) 0 ++ last⟩ else none

/-- How many zeros the pieces from each place on start with. -/
def zerosFrom : List Nat → List Nat
  | [] => []
  | p :: rest =>
    let zeros := zerosFrom rest
    (if p = 0 then zeros.head?.getD 0 + 1 else 0) :: zeros

/-- Pieces with colons between them. -/
def joined (pieces : List Nat) : List Char :=
  [':'].intercalate (pieces.map (Nat.toDigits 16))

/-- The text of an address. The first of the longest runs of zeros is left out if it has more
than one. -/
def text (a : Ipv6) : List Char :=
  let zeros := zerosFrom a.pieces
  let longest := zeros.foldl max 0
  if longest < 2 then joined a.pieces
  else
    let start := zeros.idxOf longest
    joined (a.pieces.take start) ++ [':', ':'] ++ joined (a.pieces.drop (start + longest))

end Ipv6

end SchemaQueries.Network
