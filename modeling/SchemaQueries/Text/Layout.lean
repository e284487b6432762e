import SchemaQueries.Text.Space

/-!
# Layout of printed documents

The parts that printed schemas and printed queries share: margins, separated lists, blocks between
braces and quoted texts. A printer knows the number of spaces per level and the level it is at.

## Main definitions

* `Layout` — spaces per level, and the current level.
* `Layout.block` — lines between braces, one level deeper.
* `Layout.quoted` — a text in quotes, on one line or as a block of lines.
* `Text.joinWith` — texts with a separator between them.
-/

set_option autoImplicit false
set_option relaxedAutoImplicit false

namespace SchemaQueries

namespace Text

/-- The texts one after the other with `separator` between them. -/
def joinWith (separator : List Char) : List (List Char) → List Char
  | [] => []
  | [last] => last
  | first :: next :: rest => first ++ separator ++ joinWith separator (next :: rest)

/-- The text with a backslash before every triple quote. -/
def escapeTripleQuotes : List Char → List Char
  | '"' :: '"' :: '"' :: rest => '\\' :: '"' :: '"' :: '"' :: escapeTripleQuotes rest
  | c :: rest => c :: escapeTripleQuotes rest
  | [] => []

/-- Whether a quoted text can hold the character without escaping it by its code point. -/
def isQuotable (c : Char) : Bool :=
  c == '\n' || c == '\r' || c == '\t' || (0x20 ≤ c.toNat && c.toNat ≤ 0xFFFF)

/-- How a character is written in a text quoted on one line. A character that is not quotable is
written as its code point in decimal digits, at least four of them. -/
def quotedChar (c : Char) : List Char :=
  if c = '\r' then ['\\', 'r']
  else if c = '\n' then ['\\', 'n']
  else if c = '\t' then ['\\', 't']
  else if c = '"' || c = '\\' then ['\\', c]
  else if isQuotable c then [c]
  else
    let digits := Nat.toDigits 10 c.toNat
    '\\' :: 'u' :: List.replicate (4 - digits.length) '0' ++ digits

/-- A text quoted on one line. -/
def quotedLine (cs : List Char) : List Char :=
  '"' :: cs.flatMap quotedChar ++ ['"']

end Text

/-- Where a printer stands: the number of spaces per level, and the level. -/
structure Layout where
  indent : Nat
  level : Nat
  deriving DecidableEq, Repr

namespace Layout

/-- The layout at the outermost level. -/
def outermost (indent : Nat) : Layout := ⟨indent, 0⟩

/-- The layout one level deeper. -/
def deeper (l : Layout) : Layout := { l with level := l.level + 1 }

/-- The spaces at the start of a line. A printer counts them in 32 bits, so that the counter starts anew
where they do not fit; one that checks its arithmetic stops there. -/
def margin (l : Layout) : List Char :=
  List.replicate (l.indent * l.level % UInt32.size) ' '

/-- A margin that can be counted in 32 bits has all its spaces. -/
theorem margin_eq {l : Layout} (h : l.indent * l.level < UInt32.size) :
    l.margin = List.replicate (l.indent * l.level) ' ' := by
  rw [margin, Nat.mod_eq_of_lt h]

/-- A space, then lines between braces, the closing brace at the margin. The lines, each with its
line feed, are printed one level deeper by `lines`. -/
def block (l : Layout) (lines : Layout → List Char) : List Char :=
  [' ', '\x7b', '\n'] ++ lines l.deeper ++ l.margin ++ ['\x7d', '\n']

/-- A line of a quoted block. A line of white space only is printed empty. -/
def blockLine (l : Layout) (line : List Char) : List Char :=
  (if Text.isBlank line then [] else l.margin ++ Text.escapeTripleQuotes line) ++ ['\n']

/-- A text in quotes: as a block of lines, one level deeper, if it has a line feed and only
quotable characters, else on one line. -/
def quoted (l : Layout) (s : String) : List Char :=
  let cs := s.toList
  if cs.contains '\n' && cs.all Text.isQuotable then
    ['"', '"', '"', '\n'] ++ (Text.lines cs).flatMap l.deeper.blockLine ++ l.margin
      ++ ['"', '"', '"']
  else Text.quotedLine cs

end Layout

end SchemaQueries
