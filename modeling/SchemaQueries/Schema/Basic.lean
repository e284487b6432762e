import SchemaQueries.TypeRef
import SchemaQueries.Value

/-!
# Schema documents

A schema document is a list of definitions in the order in which they were written. Where in a
text a definition stood is not part of it.

## Main definitions

* `Schema.Definition`, `Schema.Document` — a schema document.
* `Schema.TypeBody` — what a definition or an extension says about a type of one of the six kinds.
* `Schema.ObjectType`, `Schema.InputType` — the object and input object types as the derivation of
  queries sees them.
* `Schema.Document.objects`, `Schema.Document.inputs` — those types of a document, in order.
-/

set_option autoImplicit false
set_option relaxedAutoImplicit false

namespace SchemaQueries.Schema

/-- A directive on a definition, with its arguments as they were written. -/
structure Directive where
  name : String
  arguments : List (String × Value)
  deriving Repr

/-- An argument, or a field of an input object type. -/
structure InputValue where
  description : Option String
  name : String
  type : TypeRef
  default : Option Value
  directives : List Directive
  deriving Repr

/-- A field of an object or interface type. -/
structure Field where
  description : Option String
  name : String
  arguments : List InputValue
  type : TypeRef
  directives : List Directive
  deriving Repr

/-- A value of an enum type. -/
structure EnumValue where
  description : Option String
  name : String
  directives : List Directive
  deriving Repr

/-- What is said about a type, by kind. -/
inductive TypeBody where
  | scalar
  | object (interfaces : List String) (fields : List Field)
  | interface (interfaces : List String) (fields : List Field)
  | union (members : List String)
  | enum (values : List EnumValue)
  | input (fields : List InputValue)
  deriving Repr

/-- The definition of a type. -/
structure TypeDefinition where
  description : Option String
  name : String
  directives : List Directive
  body : TypeBody
  deriving Repr

/-- The extension of a type. -/
structure TypeExtension where
  name : String
  directives : List Directive
  body : TypeBody
  deriving Repr

/-- A place where a directive may stand. -/
inductive Location where
  | query | mutation | subscription | field | fragmentDefinition | fragmentSpread
  | inlineFragment | schema | scalar | object | fieldDefinition | argumentDefinition | interface
  | union | enum | enumValue | inputObject | inputFieldDefinition | variableDefinition
  deriving DecidableEq, Repr

/-- All places where a directive may stand. -/
def Location.all : List Location :=
  [.query, .mutation, .subscription, .field, .fragmentDefinition, .fragmentSpread,
    .inlineFragment, .schema, .scalar, .object, .fieldDefinition, .argumentDefinition, .interface,
    .union, .enum, .enumValue, .inputObject, .inputFieldDefinition, .variableDefinition]

/-- The name of a place in GraphQL. -/
def Location.name : Location → String
  | query => "QUERY"
  | mutation => "MUTATION"
  | subscription => "SUBSCRIPTION"
  | field => "FIELD"
  | fragmentDefinition => "FRAGMENT_DEFINITION"
  | fragmentSpread => "FRAGMENT_SPREAD"
  | inlineFragment => "INLINE_FRAGMENT"
  | schema => "SCHEMA"
  | scalar => "SCALAR"
  | object => "OBJECT"
  | fieldDefinition => "FIELD_DEFINITION"
  | argumentDefinition => "ARGUMENT_DEFINITION"
  | interface => "INTERFACE"
  | union => "UNION"
  | enum => "ENUM"
  | enumValue => "ENUM_VALUE"
  | inputObject => "INPUT_OBJECT"
  | inputFieldDefinition => "INPUT_FIELD_DEFINITION"
  | variableDefinition => "VARIABLE_DEFINITION"

/-- The place with a name. -/
def Location.ofName? (name : String) : Option Location :=
  Location.all.find? (·.name == name)

/-- The definition of a directive. -/
structure DirectiveDefinition where
  description : Option String
  name : String
  arguments : List InputValue
  repeatable : Bool
  locations : List Location
  deriving Repr

/-- The names of the root operation types. -/
structure Roots where
  query : Option String
  mutation : Option String
  subscription : Option String
  deriving DecidableEq, Repr

/-- A definition of a schema document. -/
inductive Definition where
  | schema (directives : List Directive) (roots : Roots)
  | type (definition : TypeDefinition)
  | extension (ext : TypeExtension)
  | directive (definition : DirectiveDefinition)
  deriving Repr

/-- A schema document: its definitions in order. -/
structure Document where
  definitions : List Definition
  deriving Repr

/-- An object type: its name and its fields. -/
structure ObjectType where
  name : String
  fields : List Field
  deriving Repr

/-- An input object type: its name and its fields. -/
structure InputType where
  name : String
  fields : List InputValue
  deriving Repr

/-- The object type that a definition defines. An extension defines none. -/
def Definition.object? : Definition → Option ObjectType
  | .type { name, body := .object _ fields, .. } => some ⟨name, fields⟩
  | _ => none

/-- The input object type that a definition defines. An extension defines none. -/
def Definition.input? : Definition → Option InputType
  | .type { name, body := .input fields, .. } => some ⟨name, fields⟩
  | _ => none

/-- The object types of a document, in order. -/
def Document.objects (d : Document) : List ObjectType :=
  d.definitions.filterMap Definition.object?

/-- The input object types of a document, in order. -/
def Document.inputs (d : Document) : List InputType :=
  d.definitions.filterMap Definition.input?

/-- The first of the object types that has a name. -/
def ObjectType.named? (objects : List ObjectType) (name : String) : Option ObjectType :=
  objects.find? (·.name == name)

/-- The object type of a name: the first one defined. -/
def Document.object? (d : Document) (name : String) : Option ObjectType :=
  ObjectType.named? d.objects name

/-- The input object type of a name: the first one defined. -/
def Document.input? (d : Document) (name : String) : Option InputType :=
  d.inputs.find? (·.name == name)

end SchemaQueries.Schema
