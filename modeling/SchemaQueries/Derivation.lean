import SchemaQueries.Entity
import SchemaQueries.Selection

/-!
# Derived queries

The two queries of every entity: one by identifier, and one for a list with paging, order and
filter. Both select the same fields.

## Main definitions

* `Query.Variable.make` — a variable with the default that its type admits.
* `Entity.getOne`, `Entity.getMany` — the queries of an entity.
* `derive` — the queries of a schema.
-/

set_option autoImplicit false
set_option relaxedAutoImplicit false

namespace SchemaQueries

namespace Query

/-- The default that a variable asks for. -/
inductive Default where
  | int (value : Int)
  | string (value : String)
  deriving DecidableEq, Repr

/-- The default as a value, if the named type is the one that the default belongs to. Variables of
any other type, enum types included, have no default. -/
def Default.forType (typeName : String) : Default → Option Value
  | .int n => if typeName = "Int" then some (.int n) else none
  | .string s => if typeName = "String" then some (.string s) else none

/-- A variable of a named type. -/
def Variable.make (name typeName : String) (nonNull : Bool) (default : Option Default) :
    Variable where
  name := name
  type := if nonNull then .nonNull (.named typeName) else .named typeName
  default := default.bind (Default.forType typeName)

end Query

namespace Entity

/-- The query of one entity by its identifier. -/
def getOne (d : Schema.Document) (e : Entity) : Query.Operation where
  name := "GetOne" ++ e.name
  parameters := [.make "id" "ID" true none]
  selection := [.mk (Naming.queryFieldName e.name) [Query.boundArgument "id"]
    (Selection.expand d e.object.fields 0)]

/-- The variables of the list query of an entity. -/
def listVariables (e : Entity) : List Query.Variable :=
  [.make "first" "Int" true (some (.int 0)),
    .make "skip" "Int" false (some (.int 0)),
    .make "orderBy" (e.name ++ "_orderBy") false none,
    .make "orderDirection" "OrderDirection" false (some (.string "asc")),
    .make "where" e.filter.name false none]

/-- The query of a list of entities. Its name always ends in `s`, also where the plural of the root
field does not. -/
def getMany (d : Schema.Document) (e : Entity) : Query.Operation where
  name := "GetMany" ++ e.name ++ "s"
  parameters := e.listVariables
  selection := [.mk (Naming.pluralize (Naming.queryFieldName e.name))
    (["first", "skip", "orderBy", "orderDirection", "where"].map Query.boundArgument)
    (Selection.expand d e.object.fields 0)]

/-- The queries of an entity. -/
def operations (d : Schema.Document) (e : Entity) : List Query.Operation :=
  [e.getOne d, e.getMany d]

end Entity

/-- The queries of every entity of a schema, in the order of the entities. No query is derived
when an entity has no filter. -/
def derive (d : Schema.Document) : Except DerivationError Query.Document :=
  d.entities.map fun entities => ⟨entities.flatMap (Entity.operations d)⟩

end SchemaQueries
