import SchemaQueries.Naming
import SchemaQueries.Schema.Basic

/-!
# Entities

An entity is an object type of a schema that gets queries of its own: every object type but the
root operation types and the meta types of the indexer. Each entity is paired with the input
object type that filters lists of it.

## Main definitions

* `isEntityName` — the name is that of an entity.
* `Entity` — an entity with its filter.
* `Schema.Document.entities` — the entities of a document, or the first one without a filter.
-/

set_option autoImplicit false
set_option relaxedAutoImplicit false

namespace SchemaQueries

/-- The names of the root operation types and of the meta types, which get no queries. -/
def excludedTypeNames : List String :=
  ["Query", "Mutation", "Subscription", "_Block_", "_Meta_"]

/-- Whether an object type of this name is an entity. -/
def isEntityName (name : String) : Bool :=
  !excludedTypeNames.contains name

/-- An entity with the input object type that filters lists of it. -/
structure Entity where
  object : Schema.ObjectType
  filter : Schema.InputType
  deriving Repr

/-- The name of an entity. -/
def Entity.name (e : Entity) : String :=
  e.object.name

/-- Why no queries can be derived from a schema. -/
inductive DerivationError where
  /-- The entity has no input object type that filters it. -/
  | missingFilter (entity : String)
  deriving DecidableEq, Repr

/-- The wording of a failure. -/
def DerivationError.message : DerivationError → String
  | missingFilter entity =>
    "could not find filter type for " ++ entity
      ++ "; is this schema produced by the expected indexer pipeline?"

namespace Schema

/-- The entity of an object type in a document. -/
def Document.entity (d : Document) (object : ObjectType) : Except DerivationError Entity :=
  match d.input? (Naming.filterTypeName object.name) with
  | some filter => .ok ⟨object, filter⟩
  | none => .error (.missingFilter object.name)

/-- The entities of a document in the order of their definitions. Fails with the first one that
has no filter. -/
def Document.entities (d : Document) : Except DerivationError (List Entity) :=
  (d.objects.filter fun object => isEntityName object.name).mapM d.entity

end Schema

end SchemaQueries
