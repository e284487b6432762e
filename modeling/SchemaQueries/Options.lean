import SchemaQueries.CommandLine
import SchemaQueries.Config

/-!
# Options

What a run is to do, from the command line and the config file. Flags go before the config, and
an address goes before a file, and a file before a profile.

## Main definitions

* `Options` — what a run is to do.
* `Options.resolve` — the options of a command line and a config.
* `Options.Problem` — why they do not say what to do.
-/

set_option autoImplicit false
set_option relaxedAutoImplicit false

namespace SchemaQueries

/-- Where the schema comes from. -/
inductive Source where
  | file (path : String)
  | endpoint (url : String)
  /-- Standard input. -/
  | pipe
  deriving DecidableEq, Repr

/-- The form in which the schema comes. -/
inductive SourceFormat where
  | sdl
  /-- The answer to the introspection request. -/
  | introspection
  deriving DecidableEq, Repr

/-- Where the schema of a profile comes from, and in which form. -/
def Profile.source : Profile → Source × SourceFormat
  | endpoint url => (.endpoint url, .introspection)
  | file path => (.file path, .sdl)
  | pipedResponse => (.pipe, .introspection)
  | pipedSdl => (.pipe, .sdl)

/-- What a run is to do. -/
structure Options where
  outputDirectory : String
  lineBreak : String
  indent : Nat
  source : Source
  format : SourceFormat
  deriving DecidableEq, Repr

namespace Options

/-- The number of spaces per level where the config says nothing. -/
def defaultIndent : Nat := 2

/-- The line break where the config says nothing. -/
def defaultLineBreak : String := "\n"

/-- The profile where no flag names one. -/
def defaultProfileName : String := "default"

/-- Why a command line and a config do not say what to do. -/
inductive Problem where
  | noOutputDirectory
  /-- Neither a flag nor a config. -/
  | noSource
  /-- The config has no profiles. -/
  | noProfiles
  | noProfileNamed (name : String)
  deriving DecidableEq, Repr

/-- The wording of a problem. -/
def Problem.message : Problem → String
  | noOutputDirectory => "No output directory was given"
  | noSource => "No method to fetch schema was provided"
  | noProfiles =>
    "No method to fetch schema was provided and default profile is not defined in config file"
  | noProfileNamed name => "No profile named \"" ++ name ++ "\""

/-- The source of the profile that is asked for. -/
def profileSource (name : String) (config : Config) : Except Problem (Source × SourceFormat) :=
  match config.profiles with
  | none => .error .noProfiles
  | some profiles =>
    match profiles.lookup name with
    | some profile => .ok profile.source
    | none => .error (.noProfileNamed name)

/-- Where the schema comes from. -/
def resolveSource (arguments : CommandLine.Arguments) (config : Option Config) :
    Except Problem (Source × SourceFormat) :=
  match arguments.url, arguments.file, config with
  | some url, _, _ => .ok (.endpoint url, .introspection)
  | none, some path, _ => .ok (.file path, .sdl)
  | none, none, some config =>
    profileSource (arguments.profile.getD defaultProfileName) config
  | none, none, none => .error .noSource

/-- The options of a command line and a config. -/
def resolve (arguments : CommandLine.Arguments) (config : Option Config) :
    Except Problem Options :=
  match arguments.output.or (config.bind Config.outputDirectory) with
  | none => .error .noOutputDirectory
  | some outputDirectory => do
    let (source, format) ← resolveSource arguments config
    return {
      outputDirectory, source, format
      lineBreak := (config.bind Config.lineBreak).getD defaultLineBreak
      indent := (config.bind Config.indent).getD defaultIndent }

end Options

end SchemaQueries
