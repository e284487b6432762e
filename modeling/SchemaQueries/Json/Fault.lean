/-!
# Faults in a JSON text

## Main definitions

* `Json.Fault` — what is wrong with a text that is not JSON.
* `Json.Fault.message` — the wording.
-/

set_option autoImplicit false
set_option relaxedAutoImplicit false

namespace SchemaQueries.Json

/-- What is wrong with a text that is not JSON, or goes beyond what a reader takes. -/
inductive Fault where
  | endInValue | endInObject | endInList | endInString
  | valueExpected | identExpected | colonExpected
  | commaOrBraceExpected | commaOrBracketExpected
  | keyNotString | trailingComma | trailingCharacters
  | invalidNumber | numberOutOfRange
  | invalidEscape | loneSurrogate | endOfSurrogatePair | controlCharacter
  | nestingTooDeep
  deriving DecidableEq, Repr

/-- The wording of a fault. -/
def Fault.message : Fault → String
  | endInValue => "EOF while parsing a value"
  | endInObject => "EOF while parsing an object"
  | endInList => "EOF while parsing a list"
  | endInString => "EOF while parsing a string"
  | valueExpected => "expected value"
  | identExpected => "expected ident"
  | colonExpected => "expected `:`"
  | commaOrBraceExpected => "expected `,` or `\x7d`"
  | commaOrBracketExpected => "expected `,` or `]`"
  | keyNotString => "key must be a string"
  | trailingComma => "trailing comma"
  | trailingCharacters => "trailing characters"
  | invalidNumber => "invalid number"
  | numberOutOfRange => "number out of range"
  | invalidEscape => "invalid escape"
  | loneSurrogate => "lone leading surrogate in hex escape"
  | endOfSurrogatePair => "unexpected end of hex escape"
  | controlCharacter => "control character (\\u0000-\\u001F) found while parsing a string"
  | nestingTooDeep => "recursion limit exceeded"

end SchemaQueries.Json
