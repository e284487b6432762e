/-!
# White space and lines

The Unicode property `White_Space`, and the division of a text into lines.

## Main definitions

* `Text.isSpace` — the character has the property `White_Space`.
* `Text.byteLength` — the size of a text.
* `Text.trimEnd` — a text without the white space at its end.
* `Text.lines` — the lines of a text.
* `Text.withLineBreak` — a text with another line break in place of each line feed.
-/

set_option autoImplicit false
set_option relaxedAutoImplicit false

namespace SchemaQueries.Text

/-- The property `White_Space`. -/
def isSpace (c : Char) : Bool :=
  let n := c.toNat
  (0x9 ≤ n && n ≤ 0xD) || n == 0x20 || n == 0x85 || n == 0xA0 || n == 0x1680
    || (0x2000 ≤ n && n ≤ 0x200A) || n == 0x2028 || n == 0x2029 || n == 0x202F || n == 0x205F
    || n == 0x3000

/-- The number of bytes of a text in UTF-8. -/
def byteLength : List Char → Nat
  | [] => 0
  | c :: rest => c.utf8Size + byteLength rest

/-- Whether a text is white space only. -/
def isBlank (cs : List Char) : Bool :=
  cs.all isSpace

/-- The text without the white space at its end. -/
def trimEnd (cs : List Char) : List Char :=
  (cs.reverse.dropWhile isSpace).reverse

/-- The line whose characters are given in reverse, without a carriage return at its end. -/
def lineOfReversed : List Char → List Char
  | '\r' :: cs => cs.reverse
  | cs => cs.reverse

/-- The lines of a text that continues a line of which `seen`, in reverse, has been read. -/
def linesAfter (seen : List Char) : List Char → List (List Char)
  | [] => if seen.isEmpty then [] else [seen.reverse]
  | '\n' :: rest => lineOfReversed seen :: linesAfter [] rest
  | c :: rest => linesAfter (c :: seen) rest

/-- The lines of a text. A line ends with a line feed, which may have one carriage return before
it; a line feed at the very end starts no further line. -/
def lines (cs : List Char) : List (List Char) :=
  linesAfter [] cs

/-- The text with `lineBreak` in place of each line feed. -/
def withLineBreak (lineBreak : List Char) (cs : List Char) : List Char :=
  cs.flatMap fun c => if c = '\n' then lineBreak else [c]

/-- A text without line feeds keeps its characters. -/
theorem withLineBreak_of_not_mem {lineBreak cs : List Char} (h : '\n' ∉ cs) :
    withLineBreak lineBreak cs = cs := by
  induction cs with
  | nil => rfl
  | cons c rest ih =>
    have hc : c ≠ '\n' := fun e => h (by simp [e])
    have hr : withLineBreak lineBreak rest = rest := ih fun hm => h (by simp [hm])
    unfold withLineBreak at hr ⊢
    simp [hc, hr]

/-- Line breaks are replaced piece by piece. -/
@[simp] theorem withLineBreak_append (lineBreak a b : List Char) :
    withLineBreak lineBreak (a ++ b) = withLineBreak lineBreak a ++ withLineBreak lineBreak b := by
  simp [withLineBreak]

/-- With the line feed as line break a text stays as it is. -/
theorem withLineBreak_lineFeed (cs : List Char) : withLineBreak ['\n'] cs = cs := by
  induction cs with
  | nil => rfl
  | cons c rest ih =>
    unfold withLineBreak at ih ⊢
    by_cases h : c = '\n' <;> simp [h, ih]

end SchemaQueries.Text
