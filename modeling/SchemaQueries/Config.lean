import SchemaQueries.Json.Reading

/-!
# The config file

A config file is a JSON object that says where the output goes, how it is laid out, and by which
profile the schema is fetched.

## Main definitions

* `Profile` — a way to get a schema.
* `Config` — the content of a config file.
* `Config.read` — the config of a text.
-/

set_option autoImplicit false
set_option relaxedAutoImplicit false

namespace SchemaQueries

open Json (Cause Entry Failure Form Reader asNothing asRecord asString)

/-- A way to get a schema: the answer of an endpoint, a file, or standard input with an answer
or a schema. -/
inductive Profile where
  | endpoint (url : String)
  | file (path : String)
  | pipedResponse
  | pipedSdl
  deriving DecidableEq, Repr

namespace Profile

/-- The kinds of profiles. -/
inductive Method where
  | endpoint | file | pipedResponse | pipedSdl
  deriving DecidableEq, Repr

/-- The kinds of profiles by the names that a config gives them. -/
def methods : List (String × Method) :=
  [("Endpoint", .endpoint), ("File", .file), ("PipeResponse", .pipedResponse),
    ("PipeSdl", .pipedSdl)]

/-- The members of a profile with one text. -/
def textForm (name : String) : Form Json Cause [String] :=
  (.required name asString, ())

/-- The profile of a kind. -/
def ofContent (content : Json) : Method → Except Cause Profile
  | .endpoint => do
    let (url, _) ← asRecord (.variant "ConfigProfile" "Endpoint") (textForm "url") content
    return .endpoint url
  | .file => do
    let (path, _) ← asRecord (.variant "ConfigProfile" "File") (textForm "path") content
    return .file path
  | .pipedResponse => (asNothing content).map fun _ => .pipedResponse
  | .pipedSdl => (asNothing content).map fun _ => .pipedSdl

/-- A profile in a config file. -/
def reader : Reader Profile := fun room d => do
  let (method, content) ← Json.readTagged "ConfigProfile" "method" methods room d
  (ofContent content method).mapError .here

end Profile

/-- The content of a config file. Everything may be left out. -/
structure Config where
  profiles : Option (List (String × Profile))
  outputDirectory : Option String
  lineBreak : Option String
  indent : Option Nat
  deriving DecidableEq, Repr

namespace Config

/-- The members of a config. -/
def form (room : Nat) : Form Json.Draft Failure
    [Option (List (String × Profile)), Option String, Option String, Option Nat] :=
  (.optional "profiles" (Json.readOption (Json.readMap Profile.reader) room),
    .optional "outputDirectory" (Json.readOption Json.readString room),
    .optional "lineBreak" (Json.readOption Json.readString room),
    .optional "indent" (Json.readOption Json.readWord room), ())

/-- A config. -/
def reader : Reader Config := fun room d => do
  let (profiles, outputDirectory, lineBreak, indent, _) ←
    Json.readRecord (.record "CodegenJsonConfig") .lenient form room d
  return { profiles, outputDirectory, lineBreak, indent }

/-- The config of a text. -/
def read (text : List Char) : Except Failure Config :=
  Json.read reader text

/-- The wording of what is wrong with a config: the place, if it is known, and the cause. -/
def failureMessage (f : Failure) : String :=
  if f.path.saysNothing then f.cause.message else f.path.text ++ ": " ++ f.cause.message

end Config

end SchemaQueries
