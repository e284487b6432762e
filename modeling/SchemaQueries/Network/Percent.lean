import SchemaQueries.Text.Bytes
import SchemaQueries.Text.Digits

/-!
# Percent encoding

The form in which an address holds bytes that cannot stand in it as characters: two hexadecimal
digits behind a percent sign.

## Main definitions

* `Network.percentEncode` — the text with some of its characters as bytes.
* `Network.percentDecode` — the bytes of a text in which some may be written so.
-/

set_option autoImplicit false
set_option relaxedAutoImplicit false

namespace SchemaQueries.Network

/-- A byte in hexadecimal digits behind a percent sign. -/
def percentByte (b : UInt8) : List Char :=
  let digit (n : Nat) : Char := (Nat.digitChar n).toUpper
  ['%', digit (b.toNat / 16), digit (b.toNat % 16)]

/-- The text with its control characters, with what is not ASCII and with the characters of
`reserved` as bytes. -/
def percentEncode (reserved : List Char) (cs : List Char) : List Char :=
  cs.flatMap fun c =>
    if c.toNat < 0x20 || 0x7E < c.toNat || reserved.contains c then
      (Bytes.ofText (String.singleton c)).flatMap percentByte
    else [c]

/-- The bytes of a text. A percent sign without two digits behind it stands for itself. -/
def percentDecode : List Char → Bytes
  | [] => []
  | '%' :: high :: low :: rest =>
    match Text.hexDigit? high, Text.hexDigit? low with
    | some h, some l => UInt8.ofNat (16 * h + l) :: percentDecode rest
    | _, _ => 0x25 :: percentDecode (high :: low :: rest)
  | c :: rest => Bytes.ofText (String.singleton c) ++ percentDecode rest

/-- The text whose bytes are written so, if they are UTF-8. -/
def percentDecodedText? (cs : List Char) : Option (List Char) :=
  (Bytes.toText? (percentDecode cs)).map String.toList

end SchemaQueries.Network
