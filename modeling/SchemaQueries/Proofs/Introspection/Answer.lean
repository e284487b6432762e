import SchemaQueries.Introspection.Request
import SchemaQueries.Json.Basic
import SchemaQueries.Schema.Basic

/-!
# How an endpoint answers

A request is answered by going down the schema of the endpoint along the selected members. Each
value of introspection answers for its own members: the schema for its types, a type for its
fields, and a type reference for its kind and for what is inside it.

## Main definitions

* `Introspection.Shown` — the values of introspection.
* `Introspection.Shown.member` — what a value answers for one of its members.
* `Introspection.Request.selection` — what a request selects, its fragments put in.
* `Introspection.Request.answer` — the answer to a request.

## Implementation notes

A field or an enum value counts as deprecated if it has the directive `deprecated`. A reference to
a type that the schema does not list is answered as one to a scalar.
-/

set_option autoImplicit false
set_option relaxedAutoImplicit false

namespace SchemaQueries

/-- How many list and non-null wrappers stand around the name. -/
def TypeRef.wrappers : TypeRef → Nat
  | named _ => 0
  | list item => item.wrappers + 1
  | nonNull inner => inner.wrappers + 1

/-- What introspection calls the kind of a type. -/
def Schema.TypeBody.kindName : Schema.TypeBody → String
  | .scalar => "SCALAR"
  | .object .. => "OBJECT"
  | .interface .. => "INTERFACE"
  | .union _ => "UNION"
  | .enum _ => "ENUM"
  | .input _ => "INPUT_OBJECT"

namespace Introspection

/-! ### Values of introspection -/

/-- The values that introspection shows. -/
inductive Shown where
  | root
  | schema
  | type (t : Schema.TypeDefinition)
  | ref (r : TypeRef)
  | field (f : Schema.Field)
  | input (v : Schema.InputValue)
  | value (v : Schema.EnumValue)

/-- What a value answers for one of its members. -/
inductive Member where
  | leaf (j : Json)
  | one (s : Shown)
  | many (ss : List Shown)

/-- A description, or `null` if there is none. -/
def textOrNull : Option String → Json
  | none => .null
  | some s => .string s

/-- Whether something with these directives is deprecated. -/
def isDeprecated (directives : List Schema.Directive) : Bool :=
  directives.any (·.name == "deprecated")

/-- Whether the arguments of a member ask for deprecated values too. -/
def asksForDeprecated (arguments : List (String × Value)) : Bool :=
  arguments.any fun
    | ("includeDeprecated", .boolean b) => b
    | _ => false

/-- The kind of the type with a name. -/
def kindOf (types : List Schema.TypeDefinition) (name : String) : String :=
  match types.find? (·.name == name) with
  | some t => t.body.kindName
  | none => "SCALAR"

/-- What a type answers for a member. -/
def typeMemberOf (t : Schema.TypeDefinition) (arguments : List (String × Value)) :
    String → Member
  | "kind" => .leaf (.string t.body.kindName)
  | "name" => .leaf (.string t.name)
  | "description" => .leaf (textOrNull t.description)
  | "fields" =>
    match t.body with
    | .object _ fields | .interface _ fields =>
      .many ((fields.filter fun f => asksForDeprecated arguments || !isDeprecated f.directives).map
        .field)
    | _ => .leaf .null
  | "inputFields" =>
    match t.body with
    | .input fields => .many (fields.map .input)
    | _ => .leaf .null
  | "enumValues" =>
    match t.body with
    | .enum values =>
      .many ((values.filter fun v => asksForDeprecated arguments || !isDeprecated v.directives).map
        .value)
    | _ => .leaf .null
  | _ => .leaf .null

/-- What a type reference answers for a member. A wrapper has no name, and a named type wraps
nothing. -/
def refMember (types : List Schema.TypeDefinition) : TypeRef → String → Member
  | .named name, "kind" => .leaf (.string (kindOf types name))
  | .list _, "kind" => .leaf (.string "LIST")
  | .nonNull _, "kind" => .leaf (.string "NON_NULL")
  | .named name, "name" => .leaf (.string name)
  | .list item, "ofType" => .one (.ref item)
  | .nonNull inner, "ofType" => .one (.ref inner)
  | _, _ => .leaf .null

/-- What a value answers for the member of a name, in a schema with these types. -/
def Shown.member (types : List Schema.TypeDefinition) (name : String)
    (arguments : List (String × Value)) : Shown → Member
  | .root => if name = "__schema" then .one .schema else .leaf .null
  | .schema => if name = "types" then .many (types.map .type) else .leaf .null
  | .type t => typeMemberOf t arguments name
  | .ref r => refMember types r name
  | .field f =>
    match name with
    | "name" => .leaf (.string f.name)
    | "description" => .leaf (textOrNull f.description)
    | "args" => .many (f.arguments.map .input)
    | "type" => .one (.ref f.type)
    | _ => .leaf .null
  | .input v =>
    match name with
    | "name" => .leaf (.string v.name)
    | "description" => .leaf (textOrNull v.description)
    | "type" => .one (.ref v.type)
    | _ => .leaf .null
  | .value v =>
    match name with
    | "name" => .leaf (.string v.name)
    | "description" => .leaf (textOrNull v.description)
    | _ => .leaf .null

/-! ### Selections -/

mutual

/-- The part with the parts of fragments in place of their names. -/
def Part.spread (below : String → List Part) : Part → List Part
  | .fragment name => below name
  | .member name arguments parts => [.member name arguments (spreadParts below parts)]

/-- The parts with the parts of fragments in place of their names. -/
def spreadParts (below : String → List Part) : List Part → List Part
  | [] => []
  | first :: rest => first.spread below ++ spreadParts below rest

end

/-- The parts of the fragment of a name, which may refer to other fragments so many times. No
fragment of a valid request refers to itself, so as many times as there are fragments suffice. -/
def fragmentParts (fragments : List Fragment) : Nat → String → List Part
  | 0, _ => []
  | times + 1, name =>
    match fragments.find? (·.name == name) with
    | some f => spreadParts (fragmentParts fragments times) f.parts
    | none => []

/-- What a request selects, its fragments put in. -/
def Request.selection (r : Request) : List Part :=
  spreadParts (fragmentParts r.fragments r.fragments.length) r.parts

/-! ### Answers -/

mutual

/-- The answer of a value for one selected part. A member that is a value itself, or a list of
values, answers for what is selected of it. -/
def Part.answer (types : List Schema.TypeDefinition) : Part → Shown → List (String × Json)
  | .fragment _, _ => []
  | .member name arguments parts, s =>
    match s.member types name arguments with
    | .leaf j => [(name, j)]
    | .one t => [(name, .object (answerParts types parts t))]
    | .many ts => [(name, .array (ts.map fun t => .object (answerParts types parts t)))]

/-- The answer of a value for the selected parts, in their order. -/
def answerParts (types : List Schema.TypeDefinition) : List Part → Shown → List (String × Json)
  | [], _ => []
  | first :: rest, s => first.answer types s ++ answerParts types rest s

end

/-- The answer to a request of an endpoint whose schema has these types, in this order. -/
def Request.answer (r : Request) (types : List Schema.TypeDefinition) : Json :=
  .object [("data", .object (answerParts types r.selection .root))]

end Introspection

end SchemaQueries
