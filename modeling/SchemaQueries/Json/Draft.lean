import SchemaQueries.Json.Scalar

/-!
# JSON texts as far as they can be read

A text is read from left to right up to its first fault, and the first problem wins: a fault of the
text or a value of the wrong kind, whichever comes first. So a text is turned into a draft, which
holds everything up to the fault and the fault in its place, and what a text means is decided on
the draft.

## Main definitions

* `Json.Draft` — a value, possibly broken off.
* `Json.draft` — the draft of the value at the start of a text.
* `Json.Draft.skipFault?` — the fault that someone meets who passes over the value.

## Implementation notes

Nothing behind the value is looked at. The functions that nest take a bound, which the number of
characters of the text never lets them reach.
-/

set_option autoImplicit false
set_option relaxedAutoImplicit false

namespace SchemaQueries.Json

/-- How an array goes on behind its last item. -/
inductive ArrayEnd where
  | closed
  /-- The last item is broken off. -/
  | cut
  /-- The text ends. -/
  | endOfText
  /-- Something that is neither a comma nor a bracket. -/
  | junk
  /-- A comma and a bracket. -/
  | commaClosed
  /-- A comma, and the text ends. -/
  | commaEndOfText
  deriving DecidableEq, Repr

/-- How an object goes on behind its last member. -/
inductive ObjectEnd where
  | closed
  /-- The value of the last member is broken off. -/
  | cut
  /-- The text ends. -/
  | endOfText
  /-- Something that is neither a comma nor a brace. -/
  | junk
  /-- Something that is no key. -/
  | noKey
  /-- A comma and a brace. -/
  | commaClosed
  /-- A comma, and the text ends. -/
  | commaEndOfText
  /-- A key that is broken off. -/
  | brokenKey (read skipped : Fault)
  /-- A key, and something that is no colon. -/
  | noColon (key : Except Fault String) (fault : Fault)

/-- A JSON value as far as it can be read. -/
inductive Draft where
  | null
  | bool (b : Bool)
  | number (n : Except Fault Number)
  | string (s : Except Fault String)
  | array (items : List Draft) (ending : ArrayEnd)
  | object (members : List (Except Fault String × Draft)) (ending : ObjectEnd)
  /-- No value: the fault that a reader reports, and the one of someone who passes over it. -/
  | broken (read skipped : Fault)

/-- The fault that a reader meets behind the last item of an array. -/
def ArrayEnd.fault? : ArrayEnd → Option Fault
  | closed => none
  | cut => some .endInValue
  | endOfText => some .endInList
  | junk => some .commaOrBracketExpected
  | commaClosed => some .trailingComma
  | commaEndOfText => some .endInValue

/-- The fault behind the last item for someone who passes over the array. -/
def ArrayEnd.skipFault? : ArrayEnd → Option Fault
  | commaClosed => some .valueExpected
  | ending => ending.fault?

/-- The fault behind the last item for a reader who expects no further one. -/
def ArrayEnd.closeFault? : ArrayEnd → Option Fault
  | junk | commaEndOfText => some .trailingCharacters
  | ending => ending.fault?

/-- The fault of what stands where a further key, or the end of the object, should. -/
def ObjectEnd.fault? : ObjectEnd → Option Fault
  | closed => none
  | cut => some .endInValue
  | endOfText => some .endInObject
  | junk => some .commaOrBraceExpected
  | noKey => some .keyNotString
  | commaClosed => some .trailingComma
  | commaEndOfText => some .endInValue
  | brokenKey read _ => some read
  | noColon _ fault => some fault

/-- The fault behind the last member for someone who passes over the object. -/
def ObjectEnd.skipFault? : ObjectEnd → Option Fault
  | closed => none
  | cut => some .endInValue
  | endOfText | commaEndOfText => some .endInObject
  | junk => some .commaOrBraceExpected
  | noKey | commaClosed => some .keyNotString
  | brokenKey _ skipped => some skipped
  | noColon _ fault => some fault

mutual

/-- The fault that someone meets who passes over the value. -/
def Draft.skipFault? : Draft → Option Fault
  | .null | .bool _ | .number _ | .string _ => none
  | .broken _ skipped => some skipped
  | .array items ending => (itemsSkipFault? items).or ending.skipFault?
  | .object members ending => (membersSkipFault? members).or ending.skipFault?

/-- The first fault in passing over the items. -/
def itemsSkipFault? : List Draft → Option Fault
  | [] => none
  | first :: rest => first.skipFault?.or (itemsSkipFault? rest)

/-- The first fault in passing over the members. -/
def membersSkipFault? : List (Except Fault String × Draft) → Option Fault
  | [] => none
  | (_, first) :: rest => first.skipFault?.or (membersSkipFault? rest)

end

/-! ### The draft of a text -/

/-- Whether the character is white space between the parts of a JSON text. -/
def isBlank (c : Char) : Bool :=
  c == ' ' || c == '\n' || c == '\t' || c == '\r'

/-- The text behind the white space at its start. -/
def skipBlanks (cs : List Char) : List Char :=
  cs.dropWhile isBlank

/-- A word at the start of a text: the text behind it, or the fault that it breaks off with. -/
def ident : List Char → List Char → Except Fault (List Char)
  | [], rest => .ok rest
  | _ :: _, [] => .error .endInValue
  | expected :: more, c :: rest =>
    if c = expected then ident more rest else .error .identExpected

/-- A word that stands for a value. -/
def draftIdent (word : List Char) (value : Draft) (cs : List Char) : Draft × Option (List Char) :=
  match ident word cs with
  | .ok rest => (value, some rest)
  | .error f => (.broken f f, none)

mutual

/-- The draft of the value at the start of a text, and the text behind it unless it is broken
off. -/
def draftFrom : Nat → List Char → Draft × Option (List Char)
  | 0, _ => (.broken .endInValue .endInValue, none)
  | bound + 1, cs =>
    match skipBlanks cs with
    | [] => (.broken .endInValue .endInValue, none)
    | c :: rest =>
      if c = '"' then
        match scanString rest with
        | .complete value rest => (.string value, some rest)
        | .broken read skipped => (.broken read skipped, none)
      else if c = '[' then
        let (items, ending, rest) := draftItems bound true rest
        (.array items ending, rest)
      else if c = '\x7b' then
        let (members, ending, rest) := draftMembers bound true rest
        (.object members ending, rest)
      else if c = '-' || c.isDigit then
        match scanNumber (c :: rest) with
        | .complete value rest => (.number value, some rest)
        | .broken read skipped => (.broken read skipped, none)
      else if c = 'n' then draftIdent "ull".toList .null rest
      else if c = 't' then draftIdent "rue".toList (.bool true) rest
      else if c = 'f' then draftIdent "alse".toList (.bool false) rest
      else (.broken .valueExpected .valueExpected, none)

/-- The items of an array from here on, how it goes on behind them, and the text behind it.
`first` says that no item has been read yet. -/
def draftItems : Nat → Bool → List Char → List Draft × ArrayEnd × Option (List Char)
  | 0, _, _ => ([], .endOfText, none)
  | bound + 1, first, cs =>
    let item (cs : List Char) : List Draft × ArrayEnd × Option (List Char) :=
      match draftFrom bound cs with
      | (value, none) => ([value], .cut, none)
      | (value, some rest) =>
        let (items, ending, rest) := draftItems bound false rest
        (value :: items, ending, rest)
    match skipBlanks cs with
    | [] => ([], .endOfText, none)
    | c :: rest =>
      if c = ']' then ([], .closed, some rest)
      else if first then item (c :: rest)
      else if c = ',' then
        match skipBlanks rest with
        | [] => ([], .commaEndOfText, none)
        | ']' :: _ => ([], .commaClosed, none)
        | cs => item cs
      else ([], .junk, none)

/-- The members of an object from here on, how it goes on behind them, and the text behind it.
`first` says that no member has been read yet. -/
def draftMembers : Nat → Bool → List Char →
    List (Except Fault String × Draft) × ObjectEnd × Option (List Char)
  | 0, _, _ => ([], .endOfText, none)
  | bound + 1, first, cs =>
    let member (cs : List Char) :
        List (Except Fault String × Draft) × ObjectEnd × Option (List Char) :=
      match scanString cs with
      | .broken read skipped => ([], .brokenKey read skipped, none)
      | .complete key rest =>
        match skipBlanks rest with
        | [] => ([], .noColon key .endInObject, none)
        | ':' :: rest =>
          match draftFrom bound rest with
          | (value, none) => ([(key, value)], .cut, none)
          | (value, some rest) =>
            let (members, ending, rest) := draftMembers bound false rest
            ((key, value) :: members, ending, rest)
        | _ :: _ => ([], .noColon key .colonExpected, none)
    match skipBlanks cs with
    | [] => ([], .endOfText, none)
    | c :: rest =>
      if c = '\x7d' then ([], .closed, some rest)
      else if first then (if c = '"' then member rest else ([], .noKey, none))
      else if c = ',' then
        match skipBlanks rest with
        | [] => ([], .commaEndOfText, none)
        | '"' :: rest => member rest
        | '\x7d' :: _ => ([], .commaClosed, none)
        | _ :: _ => ([], .noKey, none)
      else ([], .junk, none)

end

/-- The draft of the value at the start of a text. -/
def draft (cs : List Char) : Draft :=
  (draftFrom (2 * cs.length + 2) cs).1

end SchemaQueries.Json
