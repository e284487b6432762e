/-!
# Events

What a run reports while it goes on.

## Main definitions

* `WriteResult` — what has been done to an output file.
* `Event` — an event, with its wording.
* `Event.line` — the line that reports an event.
-/

set_option autoImplicit false
set_option relaxedAutoImplicit false

namespace SchemaQueries

/-- What has been done to an output file. -/
inductive WriteResult where
  | created | overwritten
  /-- The file has the content already. -/
  | unchanged
  deriving DecidableEq, Repr

/-- The wording of what has been done to a file. -/
def WriteResult.message : WriteResult → String
  | created => "created"
  | overwritten => "overwritten"
  | unchanged => "skipped (no change)"

/-- What a run reports. -/
inductive Event where
  | readingFile (path : String)
  | fetching (url : String)
  | readingInput
  | loaded (definitions : Nat)
  | generated (operations : Nat)
  | written (file : String) (result : WriteResult)
  deriving DecidableEq, Repr

/-- The wording of an event. -/
def Event.message : Event → String
  | readingFile path => "Reading schema from " ++ path
  | fetching url => "Fetching schema from " ++ url
  | readingInput => "Reading schema from stdin"
  | loaded definitions => "Loaded schema with " ++ toString definitions ++ " definitions"
  | generated operations => "Generated " ++ toString operations ++ " operations"
  | written file result => file ++ " - " ++ result.message

/-- The control characters below `0x80` that a terminal can take as a command: the bell, the
backspace, the form feed, the escape and the delete character. -/
def terminalControls : List Nat := [0x07, 0x08, 0x0C, 0x1B, 0x7F]

/-- How a line of a report shows a character. What a terminal can take as a command is written in
hexadecimal digits, so that it stays text. -/
def reportedChar (c : Char) : List Char :=
  let n := c.toNat
  if terminalControls.contains n then
    ['\\', 'x', Nat.digitChar (n / 16), Nat.digitChar (n % 16)]
  else if 0x80 ≤ n && n < 0xA0 then ['\\', 'u', '\x7b'] ++ Nat.toDigits 16 n ++ ['\x7d']
  else [c]

/-- The line that reports an event. -/
def Event.line (e : Event) : String :=
  String.ofList (e.message.toList.flatMap reportedChar)

end SchemaQueries
