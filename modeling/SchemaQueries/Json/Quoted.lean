/-!
# Writing a string in JSON

## Main definitions

* `Json.quotedText` — a string as it is written.
-/

set_option autoImplicit false
set_option relaxedAutoImplicit false

namespace SchemaQueries.Json

/-- How a character of a string is written: a short escape where there is one, else four
hexadecimal digits for a control character, else the character itself. -/
def quotedChar (c : Char) : List Char :=
  if c = '"' || c = '\\' then ['\\', c]
  else if c = '\n' then ['\\', 'n']
  else if c = '\r' then ['\\', 'r']
  else if c = '\t' then ['\\', 't']
  else if c = '\x08' then ['\\', 'b']
  else if c = '\x0c' then ['\\', 'f']
  else if c.toNat < 0x20 then
    ['\\', 'u', '0', '0', Nat.digitChar (c.toNat / 16), Nat.digitChar (c.toNat % 16)]
  else [c]

/-- A string between quotes. -/
def quotedText (cs : List Char) : List Char :=
  '"' :: cs.flatMap quotedChar ++ ['"']

end SchemaQueries.Json
