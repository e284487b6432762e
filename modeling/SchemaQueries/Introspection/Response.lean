import SchemaQueries.Json.Reading
import SchemaQueries.Schema.Basic

/-!
# The answer to the introspection request

A schema document from the answer of an endpoint. The document holds the object, input object, enum
and scalar types of the answer in their order, but neither the types of introspection itself nor
the built-in scalars.

## Main definitions

* `Introspection.builtInScalars` — the scalars that every schema has.
* `Introspection.asTypeRef`, `Introspection.asField`, … — the parts of a type.
* `Introspection.readType` — a type of the answer.
* `Introspection.ReadError` — why an answer holds no schema.
* `Introspection.read` — the schema document of an answer.
-/

set_option autoImplicit false
set_option relaxedAutoImplicit false

namespace SchemaQueries.Introspection

open Json (Cause Entry Failure Form Reader Title)
open Json (asList asNothing asOption asRecord asString asTagged)

/-- The scalars that every schema has. -/
def builtInScalars : List String :=
  ["Int", "String", "Float", "Boolean", "ID"]

/-! ### Type references -/

/-- The kinds of a type reference: two wrappers, and the kinds of the types with a name. -/
inductive RefKind where
  | nonNull | list
  | named (title : String)
  deriving DecidableEq, Repr

/-- What messages call the content of a type reference. -/
def RefKind.title : RefKind → Title
  | nonNull => .variant "TypeRef" "NonNull"
  | list => .variant "TypeRef" "List"
  | named title => .variant "TypeRef" title

/-- The kinds of type references by the names that an answer gives them. -/
def refKinds : List (String × RefKind) :=
  [("NON_NULL", .nonNull), ("SCALAR", .named "Scalar"), ("INPUT_OBJECT", .named "InputObject"),
    ("LIST", .list), ("OBJECT", .named "Object"), ("ENUM", .named "Enum"),
    ("INTERFACE", .named "Interface"), ("UNION", .named "Union")]

/-- The entry of a record for its name. -/
def nameEntry : Entry Json Cause String :=
  .required "name" asString

/-- The entry of a record for its description. -/
def descriptionEntry : Entry Json Cause (Option String) :=
  .optional "description" (asOption asString)

/-- The members of a wrapper. -/
def wrapperForm (read : Json → Except Cause TypeRef) : Form Json Cause [TypeRef] :=
  (.required "ofType" read, ())

/-- The members of a reference to a type with a name. -/
def namedForm : Form Json Cause [String] :=
  (nameEntry, ())

/-- The type reference of a value that nests at most so many arrays and objects. -/
def asTypeRefWithin : Nat → Json → Except Cause TypeRef
  | 0, _ => .error (.fault .nestingTooDeep)
  | bound + 1, j => do
    let (kind, content) ← asTagged "TypeRef" "kind" refKinds j
    match kind with
    | .nonNull => do
      let (inner, _) ← asRecord kind.title (wrapperForm (asTypeRefWithin bound)) content
      return .nonNull inner
    | .list => do
      let (item, _) ← asRecord kind.title (wrapperForm (asTypeRefWithin bound)) content
      return .list item
    | .named _ => do
      let (name, _) ← asRecord kind.title namedForm content
      return .named name

/-- The type reference of a value. -/
def asTypeRef (j : Json) : Except Cause TypeRef :=
  asTypeRefWithin (j.depth + 1) j

/-! ### Members of types -/

/-- The members of an argument or an input field. -/
def inputValueForm : Form Json Cause [String, Option String, TypeRef] :=
  (nameEntry, descriptionEntry, .required "type" asTypeRef, ())

/-- An argument or an input field. -/
def asInputValue (j : Json) : Except Cause Schema.InputValue := do
  let (name, description, type, _) ← asRecord (.record "InputValue") inputValueForm j
  return { description, name, type, default := none, directives := [] }

/-- The members of a field. -/
def fieldForm : Form Json Cause [String, Option String, List Schema.InputValue, TypeRef] :=
  (nameEntry, descriptionEntry, .withDefault "args" (asList asInputValue) [],
    .required "type" asTypeRef, ())

/-- A field. -/
def asField (j : Json) : Except Cause Schema.Field := do
  let (name, description, arguments, type, _) ← asRecord (.record "Field") fieldForm j
  return { description, name, arguments, type, directives := [] }

/-- The members of what has a name and a description only. -/
def describedForm : Form Json Cause [String, Option String] :=
  (nameEntry, descriptionEntry, ())

/-- A value of an enum type. -/
def asEnumValue (j : Json) : Except Cause Schema.EnumValue := do
  let (name, description, _) ← asRecord (.record "EnumValue") describedForm j
  return { description, name, directives := [] }

/-! ### Types -/

/-- The kinds of types. -/
inductive TypeKind where
  | object | interface | enum | inputObject | scalar | union
  deriving DecidableEq, Repr

/-- The kinds of types by the names that an answer gives them. -/
def typeKinds : List (String × TypeKind) :=
  [("OBJECT", .object), ("INTERFACE", .interface), ("ENUM", .enum), ("INPUT_OBJECT", .inputObject),
    ("SCALAR", .scalar), ("UNION", .union)]

/-- The type with a name and a description. -/
def definition (name : String) (description : Option String) (body : Schema.TypeBody) :
    Schema.TypeDefinition :=
  { description, name, directives := [], body }

/-- The members of a type with a list of parts. -/
def typeForm {α : Type} (member : String) (read : Json → Except Cause α) :
    Form Json Cause [String, Option String, List α] :=
  (nameEntry, descriptionEntry, .required member (asList read), ())

/-- A type with a list of parts. -/
def asTypeWith {α : Type} (title member : String) (read : Json → Except Cause α)
    (body : List α → Schema.TypeBody) (content : Json) : Except Cause Schema.TypeDefinition := do
  let (name, description, parts, _) ←
    asRecord (.variant "FullType" title) (typeForm member read) content
  return definition name description (body parts)

/-- The type of a kind, `none` for the kinds that are not carried over. -/
def asTypeOf (content : Json) : TypeKind → Except Cause (Option Schema.TypeDefinition)
  | .object => (asTypeWith "Object" "fields" asField (.object []) content).map some
  | .enum => (asTypeWith "Enum" "enumValues" asEnumValue .enum content).map some
  | .inputObject => (asTypeWith "InputObject" "inputFields" asInputValue .input content).map some
  | .scalar => do
    let (name, description, _) ← asRecord (.variant "FullType" "Scalar") describedForm content
    return some (definition name description .scalar)
  | .interface | .union => do
    asNothing content
    return none

/-- A type of the answer. -/
def readType : Reader (Option Schema.TypeDefinition) := fun room d => do
  let (kind, content) ← Json.readTagged "FullType" "kind" typeKinds room d
  (asTypeOf content kind).mapError .here

/-- Whether a type is one of the built-in scalars. -/
def isBuiltIn (t : Schema.TypeDefinition) : Bool :=
  match t.body with
  | .scalar => builtInScalars.contains t.name
  | _ => false

/-- Whether a type belongs to introspection itself. -/
def isMeta (t : Schema.TypeDefinition) : Bool :=
  ['_', '_'].isPrefixOf t.name.toList

/-! ### Answers -/

/-- The types that an answer lists. Those that are not carried over leave a gap. -/
abbrev Listing := List (Option Schema.TypeDefinition)

/-- The members of a schema. -/
def schemaForm (room : Nat) : Form Json.Draft Failure [Listing] :=
  (.required "types" (Json.readList readType room), ())

/-- The types of a schema. -/
def readSchema : Reader Listing := fun room d => do
  let (types, _) ← Json.readRecord (.record "Schema") .lenient schemaForm room d
  return types

/-- The members of the data of an answer. -/
def dataForm (room : Nat) : Form Json.Draft Failure [Listing] :=
  (.required "__schema" (readSchema room), ())

/-- The data of an answer. It holds nothing but the schema. -/
def readData : Reader Listing := fun room d => do
  let (types, _) ← Json.readRecord (.record "SchemaData") .strict dataForm room d
  return types

/-- The members of an error. -/
def errorForm (room : Nat) : Form Json.Draft Failure [String] :=
  (.required "message" (Json.readString room), ())

/-- The message of an error that an answer reports. -/
def readErrorMessage : Reader String := fun room d => do
  let (message, _) ← Json.readRecord (.record "ResponseError") .lenient errorForm room d
  return message

/-- An answer: the types of the schema, if it has data, and the messages of its errors. -/
structure Response where
  types : Option Listing
  errors : List String
  deriving Repr

/-- The members of an answer. -/
def responseForm (room : Nat) : Form Json.Draft Failure [Option Listing, List String] :=
  (.optional "data" (Json.readOption readData room),
    .withDefault "errors" (Json.readList readErrorMessage room) [], ())

/-- An answer. -/
def readResponse : Reader Response := fun room d => do
  let (types, errors, _) ←
    Json.readRecord (.record "IntrospectionQueryResponse") .lenient responseForm room d
  return { types, errors }

/-- Why an answer holds no schema. -/
inductive ReadError where
  | undecodable (failure : Failure)
  /-- The answer has no data, but the messages of errors. -/
  | refused (messages : List String)
  deriving DecidableEq, Repr

/-- The wording of a failure. -/
def ReadError.message : ReadError → String
  | undecodable failure =>
    "unable to decode introspection response at " ++ failure.path.text ++ ": "
      ++ failure.cause.message
  | refused messages => "endpoint returned errors: " ++ "; ".intercalate messages

/-- The document of the types of an answer. -/
def documentOf (types : Listing) : Schema.Document :=
  ⟨((types.filterMap id).filter fun t => !isMeta t && !isBuiltIn t).map .type⟩

/-- The schema document of an answer. -/
def read (body : List Char) : Except ReadError Schema.Document :=
  match Json.read readResponse body with
  | .error failure => .error (.undecodable failure)
  | .ok { types := none, errors } => .error (.refused errors)
  | .ok { types := some types, .. } => .ok (documentOf types)

end SchemaQueries.Introspection
