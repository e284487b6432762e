import SchemaQueries.Network.Exchange

/-!
# Requests and replies as bytes

The bytes that carry a text to an address, and the reply in the bytes that come back until the
connection is closed.

## Main definitions

* `Network.requestBytes` — what is sent.
* `Network.Reply.ofBytes?` — the reply in what comes back.
-/

set_option autoImplicit false
set_option relaxedAutoImplicit false

namespace SchemaQueries.Network

/-- The number of the service that is connected to. -/
def Url.connectTo (u : Url) : Nat :=
  ((u.authority.bind Authority.service).or u.scheme.impliedService?).getD 0

/-- The name of the host that is connected to, or its number. -/
def Url.hostName (u : Url) : List Char :=
  match u.authority.map Authority.host with
  | none => []
  | some (.name text) => text
  | some (.ipv4 address) => address.text
  | some (.ipv6 address) => address.text

/-- Lines, each with the line break of a header. -/
def headerLines (lines : List (List Char)) : List Char :=
  lines.flatMap fun line => line ++ ['\r', '\n']

/-- What is sent to an address to bring it a text in JSON. -/
def requestBytes (url : Url) (body : String) : Bytes :=
  let content := Bytes.ofText body
  let lines := ["POST ".toList ++ url.path ++ url.queryText ++ " HTTP/1.1".toList,
    "host: ".toList ++ (url.authority.map Authority.placeText).getD [],
    "content-type: application/json".toList,
    "accept: */*".toList,
    "content-length: ".toList ++ Nat.toDigits 10 content.length,
    "connection: close".toList, []]
  Bytes.ofText (String.ofList (headerLines lines)) ++ content

/-- A reply: its number, the lines of its header, and what follows them. -/
structure Reply where
  status : Nat
  header : List (List Char × List Char)
  content : Bytes
  deriving Repr

/-- The first line, without the line break, and the bytes behind it. -/
def splitLine (bytes : Bytes) : List Char × Bytes :=
  let line := Bytes.firstLine bytes
  let text := (line.filter fun b => b != 10 && b != 13).map fun b => Char.ofNat b.toNat
  (text, bytes.drop line.length)

/-- The lines of a header up to the empty one, and the bytes behind it. At most so many lines are
read. -/
def splitHeader : Nat → Bytes → List (List Char) × Bytes
  | 0, bytes => ([], bytes)
  | bound + 1, bytes =>
    match splitLine bytes with
    | ([], rest) => ([], rest)
    | (line, rest) =>
      let (lines, rest) := splitHeader bound rest
      (line :: lines, rest)

/-- The text without blanks at its ends. -/
def trimBlanks (cs : List Char) : List Char :=
  ((cs.dropWhile (· == ' ')).reverse.dropWhile (· == ' ')).reverse

/-- The name of a header line in small letters, and its value. -/
def headerEntry (line : List Char) : List Char × List Char :=
  let (name, value) := Text.splitBefore (· == ':') line
  (name.map Char.toLower, trimBlanks value.tail)

/-- The number in hexadecimal digits at the start of a text. -/
def hexNumber (number : Nat) : List Char → Nat
  | [] => number
  | c :: rest =>
    match Text.hexDigit? c with
    | some digit => hexNumber (16 * number + digit) rest
    | none => number

/-- The number in decimal digits at the start of a text. -/
def leadingNumber (cs : List Char) : Nat :=
  Text.ofDigits (cs.takeWhile Char.isDigit)

/-- The content that comes in pieces, each behind its length. At most so many pieces are read. -/
def joinPieces : Nat → Bytes → Bytes
  | 0, _ => []
  | bound + 1, bytes =>
    let (line, rest) := splitLine bytes
    let length := hexNumber 0 line
    if length = 0 then []
    else rest.take length ++ joinPieces bound (rest.drop (length + 2))

/-- The reply in what comes back. -/
def Reply.ofBytes? (bytes : Bytes) : Option Reply :=
  match splitHeader bytes.length bytes with
  | ([], _) => none
  | (first :: lines, rest) =>
    let status := leadingNumber (Text.splitBefore (· == ' ') first).2.tail
    let header := lines.map headerEntry
    let inPieces := header.lookup "transfer-encoding".toList = some "chunked".toList
    let content :=
      if inPieces then joinPieces rest.length rest
      else
        match header.lookup "content-length".toList with
        | some length => rest.take (leadingNumber length)
        | none => rest
    if status = 0 then none else some { status, header, content }

/-- The text of bytes, with a replacement character in place of each byte that is not part of a
character. At most so many characters are read. -/
def looseText : Nat → Bytes → List Char
  | 0, _ => []
  | _ + 1, [] => []
  | bound + 1, b :: rest =>
    let whole := [1, 2, 3, 4].findSome? fun n =>
      (Bytes.toText? ((b :: rest).take n)).bind fun text => text.toList.head?.map fun c => (c, n)
    match whole with
    | some (c, n) => c :: looseText bound ((b :: rest).drop n)
    | none => '\ufffd' :: looseText bound rest

/-- What comes of a request for which these bytes come back. -/
def Outcome.ofBytes (bytes : Bytes) : Outcome :=
  match Reply.ofBytes? bytes with
  | some r => .reply r.status (String.ofList (looseText r.content.length r.content))
  | none => .noConnection (.other 0 "incomplete message")

end SchemaQueries.Network
