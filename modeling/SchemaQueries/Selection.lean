import SchemaQueries.Query.Basic
import SchemaQueries.Schema.Basic

/-!
# Selections

What a derived query selects: every field of the entity, and below a field of object type the
fields of that type, up to a bound on the number of object types passed through. The bound keeps
the selection finite where the types of a schema refer to each other in a circle.

## Main definitions

* `Selection.maxDepth` — the bound.
* `Selection.within` — the selection of fields with a number of object types still to pass.
* `Selection.expand` — the selection of fields that stand at a depth.
-/

set_option autoImplicit false
set_option relaxedAutoImplicit false

namespace SchemaQueries.Selection

/-- The greatest number of object types that a selection passes through. -/
def maxDepth : Nat := 3

/-- Selects the fields. A field of object type is followed into that type while `hops` lasts; any
other field, and every field when no hop is left, is selected bare. `object?` is the object type of
a name. -/
def within (object? : String → Option Schema.ObjectType) :
    Nat → List Schema.Field → List Query.Field
  | 0, fields => fields.map fun f => .plain f.name []
  | hops + 1, fields => fields.map fun f =>
    match object? f.type.baseName with
    | some object => .plain f.name (within object? hops object.fields)
    | none => .plain f.name []

/-- Selects the fields of a type that is reached at `depth`. -/
def expand (d : Schema.Document) (fields : List Schema.Field) (depth : Nat) : List Query.Field :=
  within (Schema.ObjectType.named? d.objects) (maxDepth - depth) fields

end SchemaQueries.Selection
