import SchemaQueries.Value

/-!
# The introspection request

What an endpoint is asked for to learn its schema: the types with their fields, input fields and
enum values. A type reference is asked for by a fragment, wrapper by wrapper, so the request says
beforehand how many wrappers it looks through.

## Main definitions

* `Introspection.Part` — what is selected of a value.
* `Introspection.Request` — a request with its fragments.
* `Introspection.request` — the request for a schema.
* `Introspection.Request.text` — the text of a request.
-/

set_option autoImplicit false
set_option relaxedAutoImplicit false

namespace SchemaQueries.Introspection

/-- What is selected of a value: a member with what is selected of it, or what a fragment says. -/
inductive Part where
  | member (name : String) (arguments : List (String × Value)) (parts : List Part)
  | fragment (name : String)
  deriving Repr

/-- What is selected of the values of a type, under a name. -/
structure Fragment where
  name : String
  type : String
  parts : List Part
  deriving Repr

/-- A named request and the fragments that it refers to. -/
structure Request where
  name : String
  parts : List Part
  fragments : List Fragment
  deriving Repr

/-! ### The request for a schema -/

/-- A member of which nothing further is selected. -/
def leaf (name : String) : Part :=
  .member name [] []

/-- How many list and non-null wrappers of a type reference are looked through. -/
def wrapperLevels : Nat := 7

/-- What is selected of a type reference inside at most so many wrappers. -/
def typeParts : Nat → List Part
  | 0 => [leaf "kind", leaf "name"]
  | levels + 1 => [leaf "kind", leaf "name", .member "ofType" [] (typeParts levels)]

/-- The fragment for type references. -/
def typeFragment : Fragment where
  name := "TypeRef"
  type := "__Type"
  parts := typeParts wrapperLevels

/-- The type of a field or an argument. -/
def typeMember : Part :=
  .member "type" [] [.fragment typeFragment.name]

/-- Asks for deprecated members too. -/
def withDeprecated : List (String × Value) :=
  [("includeDeprecated", .boolean true)]

/-- What is selected of a field. -/
def fieldParts : List Part :=
  [leaf "name", leaf "description",
    .member "args" [] [leaf "name", leaf "description", typeMember], typeMember]

/-- What is selected of a type. -/
def fullTypeParts : List Part :=
  [leaf "kind", leaf "name", leaf "description",
    .member "fields" withDeprecated fieldParts,
    .member "inputFields" [] [leaf "name", leaf "description", typeMember],
    .member "enumValues" withDeprecated [leaf "name", leaf "description"]]

/-- The request for the types of a schema. -/
def request : Request where
  name := "IntrospectionQuery"
  parts := [.member "__schema" [] [.member "types" [] fullTypeParts]]
  fragments := [typeFragment]

/-! ### The text of a request -/

mutual

/-- A part on a line of its own, and what is selected below it in a block. -/
def Part.text (l : Layout) : Part → List Char
  | .fragment name => l.margin ++ ['.', '.', '.'] ++ name.toList ++ ['\n']
  | .member name arguments [] =>
    l.margin ++ name.toList ++ Value.argumentsText l arguments ++ ['\n']
  | .member name arguments (first :: rest) =>
    l.margin ++ name.toList ++ Value.argumentsText l arguments ++ [' ', '\x7b', '\n']
      ++ partsText l.deeper (first :: rest) ++ l.margin ++ ['\x7d', '\n']

/-- Parts, each on a line of its own. -/
def partsText (l : Layout) : List Part → List Char
  | [] => []
  | first :: rest => first.text l ++ partsText l rest

end

/-- The text of a fragment. -/
def Fragment.text (l : Layout) (f : Fragment) : List Char :=
  "fragment ".toList ++ f.name.toList ++ " on ".toList ++ f.type.toList
    ++ l.block fun inner => partsText inner f.parts

/-- The text of a request, two spaces per level. -/
def Request.text (r : Request) : List Char :=
  let l : Layout := .outermost 2
  Text.joinWith ['\n'] (("query ".toList ++ r.name.toList
    ++ l.block fun inner => partsText inner r.parts) :: r.fragments.map (Fragment.text l))

end SchemaQueries.Introspection
