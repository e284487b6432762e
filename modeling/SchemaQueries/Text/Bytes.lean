/-!
# Texts as bytes

The UTF-8 form of a text.

## Main definitions

* `Bytes` — the content of a file or of standard input.
* `Bytes.ofText` — a text in UTF-8.
* `Bytes.toText?` — the text that bytes stand for, if they are UTF-8.
* `Bytes.firstLine` — the bytes of the first line.

## Main results

* `Bytes.toText?_ofText` — every text is read back from its bytes.
* `Bytes.ofText_append` — a text in two parts is the bytes of the one and then of the other.
-/

set_option autoImplicit false
set_option relaxedAutoImplicit false

namespace SchemaQueries

/-- The content of a file or of standard input. -/
abbrev Bytes := List UInt8

namespace Bytes

/-- A text in UTF-8. -/
def ofText (s : String) : Bytes :=
  s.toUTF8.data.toList

/-- The text that the bytes stand for, or `none` if they are not UTF-8. -/
def toText? (bytes : Bytes) : Option String :=
  String.fromUTF8? ⟨bytes.toArray⟩

/-- The bytes up to the first line feed, which belongs to them. -/
def firstLine : Bytes → Bytes
  | [] => []
  | b :: rest => if b = 10 then [b] else b :: firstLine rest

/-- Every text is read back from its bytes. -/
@[simp] theorem toText?_ofText (s : String) : toText? (ofText s) = some s := by
  have hs : s.toByteArray.IsValidUTF8 := s.isValidUTF8
  simp [toText?, ofText, String.fromUTF8?, hs, String.fromUTF8]

/-- A text in two parts is the bytes of the one and then of the other. -/
theorem ofText_append (s t : String) : ofText (s ++ t) = ofText s ++ ofText t := by
  simp [ofText]

/-- The bytes determine the text. -/
theorem ofText_injective {s t : String} (h : ofText s = ofText t) : s = t := by
  have := congrArg toText? h
  simpa using this

end Bytes

end SchemaQueries
