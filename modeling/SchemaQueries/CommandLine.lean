/-!
# The command line

The flags of the program, each with one value: `--file X`, `--file=X`, `-f X`, `-fX` or `-f=X`.
The arguments are read from left to right and the first problem wins. That a flag lacks its value
or is given twice comes to light when the next flag starts or the arguments end.

## Main definitions

* `CommandLine.Flag`, `CommandLine.Arguments` — the flags, and the values given to them.
* `CommandLine.Word` — what an argument is by itself.
* `CommandLine.Problem` — why arguments are refused.
* `CommandLine.parse` — the values of the flags from the arguments.
-/

set_option autoImplicit false
set_option relaxedAutoImplicit false

namespace SchemaQueries.CommandLine

/-! ### Flags -/

/-- The flags with a value. -/
inductive Flag where
  | config | profile | url | file | output
  deriving DecidableEq, Repr

/-- All flags with a value. -/
def Flag.all : List Flag :=
  [.config, .profile, .url, .file, .output]

/-- The name of a flag behind two dashes. -/
def Flag.name : Flag → List Char
  | config => "config".toList
  | profile => "profile".toList
  | url => "url".toList
  | file => "file".toList
  | output => "output".toList

/-- The letter of a flag behind one dash. -/
def Flag.letter : Flag → Char
  | config => 'c'
  | profile => 'p'
  | url => 'u'
  | file => 'f'
  | output => 'o'

/-- The values given to the flags. -/
structure Arguments where
  config : Option String
  profile : Option String
  url : Option String
  file : Option String
  output : Option String
  deriving DecidableEq, Repr

namespace Arguments

/-- No flag is given. -/
def none : Arguments :=
  ⟨.none, .none, .none, .none, .none⟩

/-- The value given to a flag. -/
def value? (a : Arguments) : Flag → Option String
  | .config => a.config
  | .profile => a.profile
  | .url => a.url
  | .file => a.file
  | .output => a.output

/-- Gives a value to a flag. -/
def put (a : Arguments) (value : String) : Flag → Arguments
  | .config => { a with config := some value }
  | .profile => { a with profile := some value }
  | .url => { a with url := some value }
  | .file => { a with file := some value }
  | .output => { a with output := some value }

end Arguments

/-! ### Words -/

/-- What an argument is by itself. -/
inductive Word where
  /-- Two dashes. No flag can follow. -/
  | separator
  /-- A flag, possibly with its value. -/
  | flag (flag : Flag) (attached : Option String)
  | help
  /-- The flag for help with a value, which it does not take. -/
  | helpWithValue
  /-- It starts with a dash and is no flag. -/
  | unknown
  /-- Anything else: a value, if one is waited for. -/
  | plain
  deriving DecidableEq, Repr

/-- The text up to the first `=`, and the one behind it. -/
def splitValue : List Char → List Char × Option (List Char)
  | [] => ([], none)
  | '=' :: rest => ([], some rest)
  | c :: rest =>
    let (name, value) := splitValue rest
    (c :: name, value)

/-- The argument that has these characters behind two dashes. -/
def longWord (cs : List Char) : Word :=
  let (name, value) := splitValue cs
  match Flag.all.find? (·.name == name) with
  | some flag => .flag flag (value.map String.ofList)
  | none =>
    if name = "help".toList then if value.isSome then .helpWithValue else .help
    else .unknown

/-- The value attached to a letter: what follows it, less one `=` in front. -/
def attachedValue : List Char → Option String
  | [] => none
  | '=' :: rest => some (String.ofList rest)
  | rest => some (String.ofList rest)

/-- The argument that has this letter and these characters behind one dash. -/
def shortWord (letter : Char) (rest : List Char) : Word :=
  match Flag.all.find? (·.letter == letter) with
  | some flag => .flag flag (attachedValue rest)
  | none => if letter = 'h' then .help else .unknown

/-- What an argument is by itself. A lone dash is no flag. -/
def Word.of (argument : String) : Word :=
  match argument.toList with
  | ['-', '-'] => .separator
  | '-' :: '-' :: rest => longWord rest
  | '-' :: letter :: rest => shortWord letter rest
  | _ => .plain

/-! ### Reading the arguments -/

/-- Why arguments are refused. -/
inductive Problem where
  | unknownArgument
  | missingValue
  | repeatedFlag
  | unexpectedValue
  /-- Help is asked for. -/
  | helpWanted
  deriving DecidableEq, Repr

/-- The wording of a problem. -/
def Problem.message : Problem → String
  | unknownArgument => "unexpected argument found"
  | missingValue => "a value is required but none was supplied"
  | repeatedFlag => "an argument cannot be used multiple times"
  | unexpectedValue => "unexpected value found; no more were expected"
  | helpWanted => "help requested"

/-- How far the arguments have been read: the values given so far, and the last flag with its
value, if it has one, as long as it is not among them. -/
structure Progress where
  given : Arguments
  last : Option (Flag × Option String)

namespace Progress

/-- Nothing has been read. -/
def start : Progress :=
  ⟨.none, none⟩

/-- Gives a value to a flag that has none. -/
def give (given : Arguments) (flag : Flag) (value : String) : Except Problem Arguments :=
  match given.value? flag with
  | some _ => .error .repeatedFlag
  | none => .ok (given.put value flag)

/-- The values given, the one of the last flag included. -/
def settle (p : Progress) : Except Problem Arguments :=
  match p.last with
  | none => .ok p.given
  | some (_, none) => .error .missingValue
  | some (flag, some value) => give p.given flag value

/-- Reads a further argument that is not the separator. -/
def step (p : Progress) (argument : String) : Word → Except Problem Progress
  | .flag flag none => do return ⟨← p.settle, some (flag, none)⟩
  | .flag flag (some value) => do return ⟨← give (← p.settle) flag value, none⟩
  | .help => do
    let _ ← p.settle
    throw .helpWanted
  | .helpWithValue => .error .unexpectedValue
  | .plain =>
    match p.last with
    | some (flag, none) => .ok { p with last := some (flag, some argument) }
    | _ => .error .unknownArgument
  | .separator | .unknown => .error .unknownArgument

end Progress

/-- The values of the flags when these arguments follow. -/
def parseFrom (p : Progress) : List String → Except Problem Arguments
  | [] => p.settle
  | argument :: rest =>
    match Word.of argument with
    | .separator => if rest.isEmpty then p.settle else .error .unknownArgument
    | word => do parseFrom (← p.step argument word) rest

/-- The values of the flags. -/
def parse (arguments : List String) : Except Problem Arguments :=
  parseFrom .start arguments

end SchemaQueries.CommandLine
