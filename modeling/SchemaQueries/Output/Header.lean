import SchemaQueries.Checksum
import SchemaQueries.Text.Digits
import SchemaQueries.Text.Space

/-!
# The header of an output file

The first line of an output file holds the checksum of what follows it, so that a later run can tell
whether the file would change without comparing it.

## Main definitions

* `Output.headerText` — the header of a file.
* `Output.hashInLine?` — the checksum in a first line.
* `Output.fileText` — a file with its header.
-/

set_option autoImplicit false
set_option relaxedAutoImplicit false

namespace SchemaQueries.Output

/-- What a header starts with. -/
def hashMark : List Char := "# hash:".toList

/-- The content of a file with its line breaks. -/
def body (lineBreak content : List Char) : List Char :=
  Text.withLineBreak lineBreak content

/-- The checksum of a text. -/
def hash (text : List Char) : BitVec 32 :=
  Checksum.crc32 (Bytes.ofText (String.ofList text))

/-- The header for a checksum. -/
def headerText (lineBreak : List Char) (h : BitVec 32) : List Char :=
  hashMark ++ Nat.toDigits 10 h.toNat ++ lineBreak

/-- A file: the header and the content, with its line breaks. -/
def fileText (lineBreak content : List Char) : List Char :=
  let text := body lineBreak content
  headerText lineBreak (hash text) ++ text

/-- The text behind a mark at its start. -/
def afterMark? : List Char → List Char → Option (List Char)
  | [], cs => some cs
  | _ :: _, [] => none
  | m :: mark, c :: cs => if m = c then afterMark? mark cs else none

/-- The natural number of 32 bits that decimal digits stand for, possibly behind a plus sign. -/
def word? (cs : List Char) : Option (BitVec 32) :=
  let digits := match cs with
    | '+' :: rest => rest
    | cs => cs
  let n := Text.ofDigits digits
  if digits.isEmpty || !digits.all Char.isDigit || Nat.pow 2 32 ≤ n then none
  else some (BitVec.ofNat 32 n)

/-- The checksum in the first line of a file. White space at the end of the line does not
count. -/
def hashInLine? (line : List Char) : Option (BitVec 32) :=
  (afterMark? hashMark line).bind fun rest => word? (Text.trimEnd rest)

end SchemaQueries.Output
