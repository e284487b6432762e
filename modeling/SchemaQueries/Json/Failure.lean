import SchemaQueries.Json.Basic
import SchemaQueries.Json.Fault

/-!
# Why a JSON text does not hold what is asked for

## Main definitions

* `Json.Step`, `Json.Path` — the way from the whole value to a part of it.
* `Json.Title`, `Json.Expected` — what is asked for.
* `Json.Cause` — what is wrong with a value.
* `Json.Failure` — what is wrong, and where.
-/

set_option autoImplicit false
set_option relaxedAutoImplicit false

namespace SchemaQueries.Json

/-! ### Places -/

/-- A step from a value to a part of it. -/
inductive Step where
  | key (name : String)
  | index (i : Nat)
  /-- The step to a member whose key cannot be read. -/
  | unreadable
  deriving DecidableEq, Repr

/-- The way from the whole value to a part of it. -/
abbrev Path := List Step

/-- How a step is written. -/
def Step.text : Step → String
  | key name => name
  | index i => "[" ++ toString i ++ "]"
  | unreadable => "?"

/-- Whether a point stands before the step where it is not the first. -/
def Step.isPointed : Step → Bool
  | index _ => false
  | _ => true

/-- How the steps behind the first one are written. -/
def Path.textOfRest (steps : Path) : String :=
  String.join (steps.map fun step => if step.isPointed then "." ++ step.text else step.text)

/-- How a path is written: a lone point for the whole value, else the steps, with a point before
every step to a member but the first. -/
def Path.text : Path → String
  | [] => "."
  | first :: rest => first.text ++ Path.textOfRest rest

/-- Whether the path names no member and no item. -/
def Path.saysNothing (path : Path) : Bool :=
  path.all (· == .unreadable)

/-! ### Causes -/

/-- What a message calls a record. -/
inductive Title where
  | record (name : String)
  /-- The content of a variant. -/
  | variant (type name : String)
  deriving DecidableEq, Repr

/-- The wording of a title. -/
def Title.text : Title → String
  | record name => "struct " ++ name
  | variant type name => "struct variant " ++ type ++ "::" ++ name

/-- What is asked for. -/
inductive Expected where
  | string | list | map
  /-- A natural number of 32 bits. -/
  | word
  | variant
  /-- The place of a variant among so many. -/
  | variantIndex (count : Nat)
  /-- An object, or an array of the members. -/
  | record (title : Title)
  /-- An object with a member that tells its variant. -/
  | tagged (name : String)
  /-- An array of all members of a record. -/
  | elements (title : Title) (count : Nat)
  /-- An array without anything beyond the members of a record. -/
  | noMoreThan (count : Nat)
  deriving DecidableEq, Repr

/-- So many elements. -/
def elementCount (n : Nat) : String :=
  if n = 1 then "1 element" else toString n ++ " elements"

/-- The wording of what is asked for. -/
def Expected.text : Expected → String
  | string => "a string"
  | list => "a sequence"
  | map => "a map"
  | word => "u32"
  | variant => "variant identifier"
  | variantIndex count => "variant index 0 <= i < " ++ toString count
  | record title => title.text
  | tagged name => "internally tagged enum " ++ name
  | elements title count => title.text ++ " with " ++ elementCount count
  | noMoreThan count => elementCount count ++ " in sequence"

/-- What is wrong with a value. -/
inductive Cause where
  | fault (f : Fault)
  | missingField (name : String)
  | duplicateField (name : String)
  | unknownField (name : String) (known : List String)
  | unknownVariant (name : String) (known : List String)
  | invalidType (found : Kind) (expected : Expected)
  | invalidValue (found : Kind) (expected : Expected)
  | invalidLength (length : Nat) (expected : Expected)
  deriving DecidableEq, Repr

/-- A name between accents. -/
def quoted (name : String) : String :=
  "`" ++ name ++ "`"

/-- The names that are known, as a list of what was expected. -/
def oneOf : List String → String
  | [] => ""
  | [a] => quoted a
  | [a, b] => quoted a ++ " or " ++ quoted b
  | names => "one of " ++ ", ".intercalate (names.map quoted)

/-- The wording of a cause. -/
def Cause.message : Cause → String
  | fault f => f.message
  | missingField name => "missing field " ++ quoted name
  | duplicateField name => "duplicate field " ++ quoted name
  | unknownField name known => "unknown field " ++ quoted name ++ ", expected " ++ oneOf known
  | unknownVariant name known => "unknown variant " ++ quoted name ++ ", expected " ++ oneOf known
  | invalidType found expected => "invalid type: " ++ found.shown ++ ", expected " ++ expected.text
  | invalidValue found expected =>
    "invalid value: " ++ found.shown ++ ", expected " ++ expected.text
  | invalidLength length expected =>
    "invalid length " ++ toString length ++ ", expected " ++ expected.text

/-- What is wrong, and where. -/
structure Failure where
  path : Path
  cause : Cause
  deriving DecidableEq, Repr

namespace Failure

/-- The value itself is wrong. -/
def here (cause : Cause) : Failure :=
  ⟨[], cause⟩

/-- The failure of a part as a failure of the whole. -/
def within (step : Step) (f : Failure) : Failure :=
  { f with path := step :: f.path }

end Failure

end SchemaQueries.Json
