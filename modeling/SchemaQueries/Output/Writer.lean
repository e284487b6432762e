import SchemaQueries.Output.Header
import SchemaQueries.Script

/-!
# Writing the output files

A file is written only if its content changes, which the checksum in its header tells. Both output
files are tried, even if one of them fails.

## Main definitions

* `Output.Failure` — why a file is not written.
* `Output.writeFile` — the script that brings one file up to date.
* `Output.writeFiles` — the script that brings both output files up to date.
-/

set_option autoImplicit false
set_option relaxedAutoImplicit false

namespace SchemaQueries

/-- Why a text cannot be read. -/
inductive TextError where
  | system (e : SystemError)
  | notUtf8
  deriving DecidableEq, Repr

/-- The wording of a failure to read a text. -/
def TextError.message : TextError → String
  | system e => e.message
  | notUtf8 => "stream did not contain valid UTF-8"

namespace Output

/-- The name of the file with the queries. -/
def queriesFileName : String := "queries.graphql"

/-- The name of the file with the schema. -/
def schemaFileName : String := "schema.graphql"

/-- Why a file is not written. -/
inductive Failure where
  | directory (path : String) (e : SystemError)
  | openHeader (path : String) (e : SystemError)
  | readHeader (path : String) (e : TextError)
  | truncate (path : String) (e : SystemError)
  | create (path : String) (e : SystemError)
  | write (path : String) (e : SystemError)
  deriving DecidableEq, Repr

/-- The wording of a failure. -/
def Failure.message : Failure → String
  | directory path e =>
    "Unable to create output directory " ++ path ++ ", does the parent folder exist?: " ++ e.message
  | openHeader path e =>
    "Failed while trying to open " ++ path ++ " in order to read hash: " ++ e.message
  | readHeader path e =>
    "Failed while trying to read first line from " ++ path ++ ": " ++ e.message
  | truncate path e => "Unable to create or truncate file " ++ path ++ ": " ++ e.message
  | create path e => "Unable to create file " ++ path ++ ": " ++ e.message
  | write path e => "Unable to write to file " ++ path ++ ": " ++ e.message

/-- The checksum that a first line tells. -/
def readHeader (path : String) : Except LineError Bytes → Except Failure (Option (BitVec 32))
  | .error (.opening e) => .error (.openHeader path e)
  | .error (.reading e) => .error (.readHeader path (.system e))
  | .ok line =>
    match Bytes.toText? line with
    | some text => .ok (hashInLine? text.toList)
    | none => .error (.readHeader path .notUtf8)

/-- Brings one file up to date. -/
def writeFile (path lineBreak content : String) : ExceptT Failure Script WriteResult := do
  let text := body lineBreak.toList content.toList
  let whole := Bytes.ofText (String.ofList (fileText lineBreak.toList content.toList))
  if ← Script.perform (.pathExists path) then
    let line ← Script.perform (.readFirstLine path)
    if (← readHeader path line) = some (hash text) then return .unchanged
    (Script.perform (.truncateFile path)).orFail (.truncate path)
    (Script.perform (.writeFile path whole)).orFail (.write path)
    return .overwritten
  else
    (Script.perform (.createFile path)).orFail (.create path)
    (Script.perform (.writeFile path whole)).orFail (.write path)
    return .created

/-- Brings a file in a directory up to date and reports what has been done. -/
def updateFile (directory lineBreak file content : String) : ExceptT Failure Script Unit := do
  let result ← writeFile (FileSystem.join directory file) lineBreak content
  Script.perform (.report (.written file result))

/-- The documents that a run produces. -/
structure Documents where
  queries : String
  schema : String
  deriving DecidableEq, Repr

/-- Creates the output directory if it is missing. -/
def prepare (directory : String) : ExceptT Failure Script Unit := do
  if ← Script.perform (.pathExists directory) then return
  (Script.perform (.createDirectory directory)).orFail (.directory directory)

/-- What two attempts come to: the failure of the first one goes before that of the second. -/
def both : Except Failure Unit → Except Failure Unit → Except Failure Unit
  | .error e, _ => .error e
  | .ok _, second => second

/-- Brings both output files up to date in a directory that is there. -/
def updateFiles (documents : Documents) (directory lineBreak : String) :
    Script (Except Failure Unit) := do
  let queries ← (updateFile directory lineBreak queriesFileName documents.queries).run
  let schema ← (updateFile directory lineBreak schemaFileName documents.schema).run
  return both queries schema

/-- Brings both output files up to date. -/
def writeFiles (documents : Documents) (directory lineBreak : String) :
    ExceptT Failure Script Unit := do
  prepare directory
  ExceptT.mk (updateFiles documents directory lineBreak)

end Output

end SchemaQueries
