import Mathlib.Data.List.Basic
import SchemaQueries.Schema.Basic

/-!
# What introspection tells of a schema

The answer to the introspection request tells names, descriptions and type references, but neither
directives nor default values nor the interfaces of a type. Only object, input object, enum and
scalar types are carried over from it.

## Main definitions

* `Schema.TypeDefinition.bare` — what an answer tells about a type.
* `Schema.TypeDefinition.isCarried` — the types that are carried over from an answer.
* `Schema.TypeBody.refs` — the type references that are looked through.
-/

set_option autoImplicit false
set_option relaxedAutoImplicit false

namespace SchemaQueries.Schema

/-- What an answer tells about an argument or an input field. -/
def InputValue.bare (v : InputValue) : InputValue :=
  { v with default := none, directives := [] }

/-- What an answer tells about a field. -/
def Field.bare (f : Field) : Field :=
  { f with arguments := f.arguments.map InputValue.bare, directives := [] }

/-- What an answer tells about an enum value. -/
def EnumValue.bare (v : EnumValue) : EnumValue :=
  { v with directives := [] }

/-- The type references of a field and of its arguments. -/
def Field.refs (f : Field) : List TypeRef :=
  f.type :: f.arguments.map (·.type)

/-- What an answer tells about what is said about a type. -/
def TypeBody.bare : TypeBody → TypeBody
  | .object _ fields => .object [] (fields.map Field.bare)
  | .enum values => .enum (values.map EnumValue.bare)
  | .input fields => .input (fields.map InputValue.bare)
  | body => body

/-- What an answer tells about a type. -/
def TypeDefinition.bare (t : TypeDefinition) : TypeDefinition :=
  { t with directives := [], body := t.body.bare }

/-- The type references of an object or input object type, in its fields and their arguments. -/
def TypeBody.refs : TypeBody → List TypeRef
  | .object _ fields => fields.flatMap Field.refs
  | .input fields => fields.map (·.type)
  | _ => []

/-- Whether a type is of one of the kinds that are carried over from an answer. -/
def TypeBody.isTold : TypeBody → Bool
  | .interface .. | .union _ => false
  | _ => true

/-- Whether a type is carried over from an answer: neither a type of introspection itself, nor a
built-in scalar, nor of another kind. -/
def TypeDefinition.isCarried (t : TypeDefinition) : Bool :=
  !(['_', '_'].isPrefixOf t.name.toList) &&
    match t.body with
    | .object .. | .enum _ | .input _ => true
    | .scalar => !(["Int", "String", "Float", "Boolean", "ID"].contains t.name)
    | .interface .. | .union _ => false

/-! ### Values that hold nothing else -/

/-- If a list holds nothing but what is told of it, each of its items does. -/
theorem forall_eq_of_map_eq {α : Type} {f : α → α} {xs : List α} (h : xs.map f = xs) :
    ∀ x ∈ xs, f x = x :=
  List.map_inj_left.mp (h.trans (List.map_id xs).symm)

/-- The arguments of a field that holds nothing but what is told of it. -/
theorem Field.bare_arguments {f : Field} (h : f.bare = f) : ∀ v ∈ f.arguments, v.bare = v :=
  forall_eq_of_map_eq (congrArg Field.arguments h)

/-- A field that holds nothing but what is told of it has no directives. -/
theorem Field.bare_directives {f : Field} (h : f.bare = f) : f.directives = [] := by
  rw [← h, bare]

/-- The fields of an object type that holds nothing but what is told of it. -/
theorem TypeBody.bare_fields {interfaces : List String} {fields : List Field}
    (h : (TypeBody.object interfaces fields).bare = .object interfaces fields) :
    interfaces = [] ∧ ∀ f ∈ fields, f.bare = f := by
  rw [bare, TypeBody.object.injEq] at h
  exact ⟨h.1.symm, forall_eq_of_map_eq h.2⟩

/-- The values of an enum type that holds nothing but what is told of it. -/
theorem TypeBody.bare_values {values : List EnumValue}
    (h : (TypeBody.enum values).bare = .enum values) : ∀ v ∈ values, v.bare = v :=
  forall_eq_of_map_eq (TypeBody.enum.inj h)

/-- The fields of an input object type that holds nothing but what is told of it. -/
theorem TypeBody.bare_inputFields {fields : List InputValue}
    (h : (TypeBody.input fields).bare = .input fields) : ∀ v ∈ fields, v.bare = v :=
  forall_eq_of_map_eq (TypeBody.input.inj h)

end SchemaQueries.Schema
