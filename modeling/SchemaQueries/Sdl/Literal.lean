import SchemaQueries.Binary64.Basic
import SchemaQueries.Text.Digits
import SchemaQueries.Text.Space

/-!
# Literals of the schema language

The numbers and the quoted texts of the schema definition language, from their characters to what
they stand for.

## Main definitions

* `Sdl.integer?`, `Sdl.float?` — the number that a lexeme stands for.
* `Sdl.unescape?` — the text between the quotes of a string.
* `Sdl.blockValue` — the text between the triple quotes of a block string.

## Implementation notes

The exponent of a number may start with a sign or with one of the digits `1` to `8`. The escape
`\b` stands for U+0010. The indentation of a block string is measured in bytes; where that many
bytes end inside a character of another line, the block has no value.
-/

set_option autoImplicit false
set_option relaxedAutoImplicit false

namespace SchemaQueries.Sdl

/-! ### Numbers -/

/-- Whether the text is one or more digits. -/
def isDigits (cs : List Char) : Bool :=
  !cs.isEmpty && cs.all Char.isDigit

/-- Whether the text is a zero, or digits that do not start with a zero. -/
def isWhole (cs : List Char) : Bool :=
  isDigits cs && (cs.head? != some '0' || cs.length == 1)

/-- The sign of a number and what follows it. -/
def unsigned : List Char → Bool × List Char
  | '-' :: rest => (true, rest)
  | cs => (false, cs)

/-- The integer that a lexeme stands for: a whole number, with or without a minus sign, that fits
into 64 bits. -/
def integer? (cs : List Char) : Option Int :=
  let (negative, digits) := unsigned cs
  if isWhole digits then
    let n := Text.ofDigits digits
    if negative then (if n ≤ Nat.pow 2 63 then some (-n) else none)
    else (if n < Nat.pow 2 63 then some n else none)
  else none

/-- The exponent that a text stands for. The first digit after the letter is none of `0` and `9`,
unless a sign stands before it. -/
def exponent? : List Char → Option Int
  | '-' :: digits => if isDigits digits then some (-(Text.ofDigits digits : Int)) else none
  | '+' :: digits => if isDigits digits then some (Text.ofDigits digits : Int) else none
  | c :: rest =>
    if '0' < c && c < '9' && rest.all Char.isDigit then some (Text.ofDigits (c :: rest) : Int)
    else none
  | [] => none

/-- What stands before and after the last character of a text that satisfies `p`. -/
def splitAtLast (p : Char → Bool) (cs : List Char) : Option (List Char × List Char) :=
  match cs.reverse.dropWhile (!p ·) with
  | [] => none
  | _ :: before => some (before.reverse, (cs.reverse.takeWhile (!p ·)).reverse)

/-- The number that a lexeme with a point or an exponent stands for. -/
def float? (cs : List Char) : Option Binary64 :=
  let (mantissa, exponent) :=
    match splitAtLast (fun c => c == 'e' || c == 'E') cs with
    | some (before, after) => (before, exponent? after)
    | none => (cs, some 0)
  let (whole, fraction) :=
    match splitAtLast (· == '.') mantissa with
    | some (before, after) => (before, if isDigits after then some after else none)
    | none => (mantissa, some [])
  let (negative, digits) := unsigned whole
  match exponent, fraction with
  | some e, some places =>
    if isWhole digits then
      some (.ofDecimal negative (Text.ofDigits (digits ++ places)) (e - places.length))
    else none
  | _, _ => none

/-! ### Strings -/

/-- The value of hexadecimal digits. -/
def hexValue? (cs : List Char) : Option Nat :=
  cs.foldlM (fun n c => (Text.hexDigit? c).map (16 * n + ·)) 0

/-- The character whose code point is written in four characters: four hexadecimal digits, or a
plus sign and three. -/
def escapedChar? (cs : List Char) : Option Char :=
  let digits := match cs with
    | '+' :: rest => rest
    | _ => cs
  (hexValue? digits).bind fun n => if n.isValidChar then some (Char.ofNat n) else none

/-- The text that stands between the quotes of a string. -/
def unescape? : List Char → Option (List Char)
  | [] => some []
  | '\\' :: 'u' :: a :: b :: c :: d :: rest =>
    (escapedChar? [a, b, c, d]).bind fun x => (unescape? rest).map (x :: ·)
  | '\\' :: c :: rest =>
    let escaped : Option Char :=
      if c = '"' || c = '\\' || c = '/' then some c
      else if c = 'b' then some '\x10'
      else if c = 'f' then some '\x0c'
      else if c = 'n' then some '\n'
      else if c = 'r' then some '\r'
      else if c = 't' then some '\t'
      else none
    escaped.bind fun x => (unescape? rest).map (x :: ·)
  | ['\\'] => none
  | c :: rest => (unescape? rest).map (c :: ·)

/-! ### Block strings -/

/-- The text without its first `n` bytes, or `none` if they end inside a character. -/
def dropBytes? : Nat → List Char → Option (List Char)
  | 0, cs => some cs
  | _ + 1, [] => none
  | n + 1, c :: rest => if c.utf8Size ≤ n + 1 then dropBytes? (n + 1 - c.utf8Size) rest else none
  termination_by _ cs => cs.length

/-- The indentation that all lines but the first one share, blank lines aside, in bytes. -/
def commonIndent (lines : List (List Char)) : Nat :=
  ((lines.drop 1).filter (!Text.isBlank ·)).map (Text.byteLength <| ·.takeWhile Text.isSpace)
    |>.min?.getD 0

/-- A line of a block without the shared indentation. A shorter line is kept. -/
def unindent? (indent : Nat) (line : List Char) : Option (List Char) :=
  if indent ≤ Text.byteLength line then dropBytes? indent line else some line

/-- The text without the backslash before a triple quote. -/
def unescapeTripleQuotes : List Char → List Char
  | '\\' :: '"' :: '"' :: '"' :: rest => '"' :: '"' :: '"' :: unescapeTripleQuotes rest
  | c :: rest => c :: unescapeTripleQuotes rest
  | [] => []

/-- The lines without the blank ones at the start and at the end. -/
def trimBlankLines (lines : List (List Char)) : List (List Char) :=
  ((lines.dropWhile Text.isBlank).reverse.dropWhile Text.isBlank).reverse

/-- The lines joined by line feeds. -/
def unlines : List (List Char) → List Char
  | [] => []
  | [last] => last
  | first :: next :: rest => first ++ '\n' :: unlines (next :: rest)

/-- The text that stands between the triple quotes of a block string: its lines from the first to
the last one that is not blank, without the indentation they share, which the first line of the
block does not count for. -/
def blockValue (body : List Char) : Option (List Char) := do
  let lines := Text.lines body
  let indent := commonIndent lines
  let blankBefore := (lines.takeWhile Text.isBlank).length
  let kept := trimBlankLines lines
  let cut ←
    if blankBefore = 0 then
      match kept with
      | [] => some []
      | first :: rest => (rest.mapM (unindent? indent)).map (first :: ·)
    else kept.mapM (unindent? indent)
  return unescapeTripleQuotes (unlines cut)

end SchemaQueries.Sdl
