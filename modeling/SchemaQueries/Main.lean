import SchemaQueries.Network.Http
import SchemaQueries.Run
import Std.Async.DNS
import Std.Async.TCP

/-!
# The program

The outer layer: a script is carried out by the system, and what it reports goes to the error
stream.

## Main definitions

* `Program.perform` — what the system gives for one thing that a script asks for.
* `main` — the program.
-/

set_option autoImplicit false
set_option relaxedAutoImplicit false

namespace SchemaQueries.Program

open Std.Async

/-! ### Refusals -/

/-- The refusal with a number, which comes with its sign changed from a connection. -/
def refusalOf (code : UInt32) (text : String) : SystemError :=
  .ofCode (if code.toNat < Nat.pow 2 31 then code.toNat else Nat.pow 2 32 - code.toNat) text

/-- The refusal in a failure of the system. -/
def refusal : IO.Error → SystemError
  | .alreadyExists _ code text | .permissionDenied _ code text | .resourceExhausted _ code text
  | .inappropriateType _ code text | .noSuchThing _ code text | .invalidArgument _ code text
  | .interrupted _ code text | .noFileOrDirectory _ code text => refusalOf code text
  | .otherError code text | .resourceBusy code text | .resourceVanished code text
  | .unsupportedOperation code text | .hardwareFault code text | .unsatisfiedConstraints code text
  | .illegalOperation code text | .protocolError code text | .timeExpired code text =>
    refusalOf code text
  | .unexpectedEof => .other 0 "unexpected end of file"
  | .userError text => .other 0 text

/-- The result of an attempt. -/
def attempt {α : Type} (action : IO α) : IO (Except SystemError α) := do
  return (← action.toBaseIO).mapError refusal

/-! ### Files and standard input -/

/-- Whether something can be opened. -/
def canOpen (path : String) : IO Bool := do
  return (← attempt (IO.FS.Handle.mk path .read)).toOption.isSome

/-- The bytes of an array. -/
def bytesOf (bytes : ByteArray) : Bytes :=
  bytes.data.toList

/-- Bytes as an array. -/
def arrayOf (bytes : Bytes) : ByteArray :=
  ⟨bytes.toArray⟩

/-- The content of a file. -/
def contentOf (path : String) : IO Bytes := do
  return bytesOf (← (← IO.FS.Handle.mk path .read).readBinToEnd)

/-- The first line of a file. -/
def firstLineOf (path : String) : IO (Except LineError Bytes) := do
  match ← attempt (IO.FS.Handle.mk path .read) with
  | .error e => return .error (.opening e)
  | .ok file =>
    return ((← attempt file.readBinToEnd).map fun bytes => Bytes.firstLine (bytesOf bytes)).mapError
      .reading

/-- Gives a file its content, in a mode that says what may be there. -/
def store (path : String) (mode : IO.FS.Mode) (content : Bytes) : IO Unit := do
  (← IO.FS.Handle.mk path mode).write (arrayOf content)

/-- What is left of a stream. -/
partial def rest (stream : IO.FS.Stream) (seen : ByteArray) : IO ByteArray := do
  let more ← stream.read 65536
  if more.isEmpty then return seen else rest stream (seen ++ more)

/-! ### Endpoints -/

/-- Everything that comes back on a connection. -/
partial def replyBytes (socket : TCP.Socket.Client) (seen : ByteArray) : Async ByteArray := do
  match ← socket.recv? 65536 with
  | none => return seen
  | some more => replyBytes socket (seen ++ more)

/-- Sends bytes to a service of a host and returns what comes back. -/
def exchange (host : String) (service : UInt16) (bytes : Bytes) : Async ByteArray := do
  match (← DNS.getAddrInfo host "")[0]? with
  | none => throw (IO.userError "no address found")
  | some address =>
    let socket ← TCP.Socket.Client.mk
    match address with
    | .v4 address => socket.connect (.v4 ⟨address, service⟩)
    | .v6 address => socket.connect (.v6 ⟨address, service⟩)
    socket.send (arrayOf bytes)
    replyBytes socket .empty

/-- What comes of sending a text to an address. Nothing is sent where encryption is asked for. -/
def send (url : Network.Url) (body : String) : IO Network.Outcome := do
  if url.scheme = .https then return .noConnection (.other 93 "Protocol not supported")
  let host := String.ofList url.hostName
  let bytes := Network.requestBytes url body
  match ← attempt (exchange host (UInt16.ofNat url.connectTo) bytes).block with
  | .ok reply => return .ofBytes (bytesOf reply)
  | .error e => return .noConnection e

/-! ### Scripts -/

/-- What the system gives for one thing that a script asks for. -/
def perform : (action : Action) → IO action.Result
  | .pathExists path => canOpen path
  | .readFile path => attempt (contentOf path)
  | .readFirstLine path => firstLineOf path
  | .createDirectory path => attempt (IO.FS.createDir path)
  | .truncateFile path => attempt (store path .write [])
  | .createFile path => attempt (store path .writeNew [])
  | .writeFile path content => attempt (store path .write content)
  | .readInput => attempt do return bytesOf (← rest (← IO.getStdin) .empty)
  | .post url body => send url body
  | .report event => IO.eprintln ("INFO " ++ event.line)

/-- Carries out a script. -/
def carryOut {α : Type} : Script α → IO α
  | .done a => return a
  | .ask action next => do carryOut (next (← perform action))

/-- How the program is called. -/
def usage : String :=
  "\n".intercalate [
    "Generates GetOne/GetMany queries for every entity of a subgraph schema", "", "Options:",
    "  -c, --config <CONFIG>    Path to config file, default: entity-queries.json",
    "  -p, --profile <PROFILE>  Profile used from config file, default: default",
    "  -u, --url <URL>          Generates queries from introspection",
    "  -f, --file <FILE>        Generates queries from SDL in file",
    "  -o, --output <OUTPUT>    Output directory",
    "  -h, --help               Print help"]

/-- The program with its arguments. -/
def start (arguments : List String) : IO UInt32 := do
  match CommandLine.parse arguments with
  | .error .helpWanted =>
    IO.println usage
    return 0
  | .error problem =>
    IO.eprintln ("error: " ++ problem.message)
    return 2
  | .ok arguments =>
    match ← carryOut (Run.run arguments).run with
    | .ok _ => return 0
    | .error e =>
      IO.eprintln ("ERROR " ++ e.message)
      return 1

end SchemaQueries.Program

/-- The program. -/
def main (arguments : List String) : IO UInt32 :=
  SchemaQueries.Program.start arguments
