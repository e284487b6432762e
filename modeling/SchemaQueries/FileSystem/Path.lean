import SchemaQueries.Text.Bytes
import SchemaQueries.Text.Parts

/-!
# Paths

The text of a path and the names that it consists of, and what a system says when it does not
lead anywhere.

## Main definitions

* `SystemError` — why a system refuses to do something.
* `FileSystem.Path` — a path as names.
* `FileSystem.Path.ofText` — the path that a text denotes.
* `FileSystem.join` — the text of the path to a file in a directory.
-/

set_option autoImplicit false
set_option relaxedAutoImplicit false

namespace SchemaQueries

/-- Why a system refuses to do something. -/
inductive SystemError where
  | noEntry | alreadyExists | notDirectory | isDirectory | nameTooLong | networkUnreachable
  /-- A path with a null character is not even passed to the system. -/
  | nullInName
  /-- Any other reason, by its number and its text. -/
  | other (code : Nat) (text : String)
  deriving DecidableEq, Repr

/-- A reason with its number. -/
def SystemError.numbered (text : String) (code : Nat) : String :=
  text ++ " (os error " ++ toString code ++ ")"

/-- The wording of a refusal. -/
def SystemError.message : SystemError → String
  | noEntry => numbered "No such file or directory" 2
  | alreadyExists => numbered "File exists" 17
  | notDirectory => numbered "Not a directory" 20
  | isDirectory => numbered "Is a directory" 21
  | nameTooLong => numbered "File name too long" 36
  | networkUnreachable => numbered "Network is unreachable" 101
  | nullInName => "file name contained an unexpected NUL byte"
  | other code text => numbered text code

/-- The reason with a number. -/
def SystemError.ofCode (code : Nat) (text : String) : SystemError :=
  match code with
  | 2 => noEntry
  | 17 => alreadyExists
  | 20 => notDirectory
  | 21 => isDirectory
  | 36 => nameTooLong
  | 101 => networkUnreachable
  | code => other code text

namespace FileSystem

/-- How many bytes a name may have. -/
def maxNameBytes : Nat := 255

/-- How many bytes a path may have. -/
def maxPathBytes : Nat := 4095

/-- A path: where it starts, the names in it, and whether a slash follows the last name. -/
structure Path where
  fromRoot : Bool
  names : List String
  slashAtEnd : Bool
  deriving DecidableEq, Repr

/-- The path that a text denotes. Slashes that follow one another count as one. -/
def Path.ofText (text : String) : Except SystemError Path :=
  let cs := text.toList
  if cs.contains '\x00' then .error .nullInName
  else if cs.isEmpty then .error .noEntry
  else if maxPathBytes < text.utf8ByteSize then .error .nameTooLong
  else .ok {
    fromRoot := cs.head? = some '/'
    names := ((Text.partsBetween (· == '/') cs).filter fun part => !part.isEmpty).map String.ofList
    slashAtEnd := cs.getLast? = some '/' }

/-- The text of the path to a file in a directory. -/
def join (directory file : String) : String :=
  if directory.isEmpty || directory.toList.getLast? = some '/' then directory ++ file
  else directory ++ "/" ++ file

end FileSystem

end SchemaQueries
