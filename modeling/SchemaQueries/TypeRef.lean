/-!
# Type references

The type of a field, of an argument or of a variable: a named type inside any number of list and
non-null wrappers.

## Main definitions

* `TypeRef` — a type reference.
* `TypeRef.baseName` — the name inside the wrappers.
* `TypeRef.text` — a type reference in GraphQL.
-/

set_option autoImplicit false
set_option relaxedAutoImplicit false

namespace SchemaQueries

/-- A reference to a named type, possibly inside wrappers. -/
inductive TypeRef where
  | named (name : String)
  | list (item : TypeRef)
  | nonNull (inner : TypeRef)
  deriving DecidableEq, Repr

namespace TypeRef

/-- The name inside the list and non-null wrappers. -/
def baseName : TypeRef → String
  | named name => name
  | list item => item.baseName
  | nonNull inner => inner.baseName

/-- The type reference in GraphQL: `[T]` for a list, `T!` for a non-null type. -/
def text : TypeRef → List Char
  | named name => name.toList
  | list item => '[' :: item.text ++ [']']
  | nonNull inner => inner.text ++ ['!']

end TypeRef

end SchemaQueries
