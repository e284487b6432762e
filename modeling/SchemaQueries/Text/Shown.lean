import SchemaQueries.Text.VisibleTable

/-!
# A text shown between quotes

The form in which a message shows a text that it complains about: between double quotes, with
everything escaped that could not be seen.

## Main definitions

* `Text.isVisible` — the character is written as itself.
* `Text.shown` — a text between quotes.
-/

set_option autoImplicit false
set_option relaxedAutoImplicit false

namespace SchemaQueries.Text

/-- Whether a shown text writes the character as itself, quotes and backslashes aside. -/
def isVisible (c : Char) : Bool :=
  if c.toNat < 0x80 then 0x20 ≤ c.toNat && c.toNat < 0x7F
  else inRuns visibleRuns c

/-- How a character is written in a shown text: a short escape where there is one, else the
character itself if it is visible, else its code point in hexadecimal digits between braces. -/
def shownChar (c : Char) : List Char :=
  if c = '\x00' then ['\\', '0']
  else if c = '\t' then ['\\', 't']
  else if c = '\r' then ['\\', 'r']
  else if c = '\n' then ['\\', 'n']
  else if c = '\\' || c = '"' then ['\\', c]
  else if isVisible c then [c]
  else ['\\', 'u', '\x7b'] ++ Nat.toDigits 16 c.toNat ++ ['\x7d']

/-- The text between double quotes, each character as `shownChar` says. -/
def shown (s : String) : String :=
  String.ofList ('"' :: s.toList.flatMap shownChar ++ ['"'])

end SchemaQueries.Text
