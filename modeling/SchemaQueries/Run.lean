import SchemaQueries.Derivation
import SchemaQueries.Introspection.Request
import SchemaQueries.Introspection.Response
import SchemaQueries.Json.Quoted
import SchemaQueries.Options
import SchemaQueries.Output.Writer
import SchemaQueries.Query.Printer
import SchemaQueries.Schema.Printer
import SchemaQueries.Sdl.Reader

/-!
# A run of the program

The config file and the command line say what to do; the schema is fetched and read; its queries
are derived; the output files are brought up to date.

## Main definitions

* `RunError` — why a run fails.
* `Run.readSchema` — the schema document of a text that has been fetched.
* `Run.documents` — the documents that a schema leads to.
* `Run.run` — the script of a run.
-/

set_option autoImplicit false
set_option relaxedAutoImplicit false

namespace SchemaQueries

/-- Why a run fails. -/
inductive RunError where
  | configNotFound (path : String)
  | configUnreadable (path : String) (e : TextError)
  | invalidConfig (path : String) (failure : Json.Failure)
  | options (problem : Options.Problem)
  | fileUnreadable (path : String) (e : TextError)
  | inputUnreadable (e : TextError)
  | noAnswer (url : String) (failure : Network.Failure)
  | sdl (e : Sdl.ReadError)
  | introspection (e : Introspection.ReadError)
  | derivation (e : DerivationError)
  | output (failure : Output.Failure)
  deriving DecidableEq, Repr

/-- The wording of a failure, from the outermost cause to the innermost one. -/
def RunError.message : RunError → String
  | configNotFound path => "Unable to locate config file " ++ path
  | configUnreadable path e => "Unable to read config file " ++ path ++ ": " ++ e.message
  | invalidConfig path failure =>
    "Invalid config file " ++ path ++ ": " ++ Config.failureMessage failure
  | options problem => problem.message
  | fileUnreadable path e => "Unable to read schema file " ++ path ++ ": " ++ e.message
  | inputUnreadable e => "Unable to read schema from stdin: " ++ e.message
  | noAnswer url failure => "request to " ++ url ++ " failed: " ++ failure.message
  | sdl e => e.message
  | introspection e => e.message
  | derivation e => e.message
  | output failure => failure.message

namespace Run

/-- The config file that is read if no flag names one. -/
def defaultConfigPath : String := "entity-queries.json"

/-- The text that has been read. -/
def textOf : Except SystemError Bytes → Except TextError String
  | .error e => .error (.system e)
  | .ok bytes =>
    match Bytes.toText? bytes with
    | some text => .ok text
    | none => .error .notUtf8

/-- The config in a file, if there is one. -/
def readConfig (path : String) : ExceptT RunError Script (Option Config) := do
  if ← Script.perform (.pathExists path) then
    let bytes ← Script.perform (.readFile path)
    let text ← Script.known (textOf bytes) (.configUnreadable path)
    let config ← Script.known (Config.read text.toList) (.invalidConfig path)
    return some config
  else return none

/-- The config that the arguments name. A file that they name must be there. -/
def findConfig (arguments : CommandLine.Arguments) : ExceptT RunError Script (Option Config) :=
  match arguments.config with
  | none => readConfig defaultConfigPath
  | some path => do
    match ← readConfig path with
    | some config => return some config
    | none => throw (.configNotFound path)

/-- What is sent to an endpoint. -/
def requestBody : String :=
  String.ofList ("\x7b\"query\":".toList ++ Json.quotedText Introspection.request.text ++ ['\x7d'])

/-- The text of the schema from where it comes. -/
def fetch : Source → ExceptT RunError Script String
  | .file path => do
    Script.perform (.report (.readingFile path))
    let bytes ← Script.perform (.readFile path)
    Script.known (textOf bytes) (.fileUnreadable path)
  | .pipe => do
    Script.perform (.report .readingInput)
    let bytes ← Script.perform .readInput
    Script.known (textOf bytes) .inputUnreadable
  | .endpoint text => do
    Script.perform (.report (.fetching text))
    let url ← Script.known (Network.target text) (.noAnswer text)
    let outcome ← Script.perform (.post url requestBody)
    Script.known (Network.answer url outcome) (.noAnswer text)

/-- The schema document of a text. -/
def readSchema (text : String) : SourceFormat → Except RunError Schema.Document
  | .sdl => (Sdl.read text.toList).mapError .sdl
  | .introspection => (Introspection.read text.toList).mapError .introspection

/-- The documents that a schema and its queries are printed to. -/
def documents (indent : Nat) (schema : Schema.Document) (queries : Query.Document) :
    Output.Documents where
  queries := String.ofList (queries.text indent)
  schema := String.ofList (schema.text indent)

/-- Does what the options say. -/
def execute (options : Options) : ExceptT RunError Script Unit := do
  let text ← fetch options.source
  let schema ← Script.known (readSchema text options.format) id
  Script.perform (.report (.loaded schema.definitions.length))
  let queries ← Script.known (derive schema) .derivation
  Script.perform (.report (.generated queries.operations.length))
  (Output.writeFiles (documents options.indent schema queries) options.outputDirectory
    options.lineBreak).run.orFail .output

/-- A run with these arguments. -/
def run (arguments : CommandLine.Arguments) : ExceptT RunError Script Unit := do
  let config ← findConfig arguments
  let options ← Script.known (Options.resolve arguments config) .options
  execute options

end Run

end SchemaQueries
