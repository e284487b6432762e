import SchemaQueries.TypeRef
import SchemaQueries.Value

/-!
# Query documents

The part of the executable documents that the derived queries use: named queries with variables,
and fields with arguments and nested selections.

## Main definitions

* `Query.Field` — a selected field.
* `Query.Variable` — the definition of a variable.
* `Query.Operation`, `Query.Document` — a query, and a list of queries.
-/

set_option autoImplicit false
set_option relaxedAutoImplicit false

namespace SchemaQueries.Query

/-- A selected field with its arguments and the fields selected below it. -/
inductive Field where
  | mk (name : String) (arguments : List (String × Value)) (selection : List Field)
  deriving Repr

namespace Field

/-- The name of a selected field. -/
def name : Field → String
  | mk name _ _ => name

/-- The arguments of a selected field. -/
def arguments : Field → List (String × Value)
  | mk _ arguments _ => arguments

/-- The fields selected below a field. -/
def selection : Field → List Field
  | mk _ _ selection => selection

/-- A field without arguments. -/
def plain (name : String) (selection : List Field) : Field :=
  mk name [] selection

end Field

/-- The definition of a variable. -/
structure Variable where
  name : String
  type : TypeRef
  default : Option Value
  deriving Repr

/-- A named query. -/
structure Operation where
  name : String
  parameters : List Variable
  selection : List Field
  deriving Repr

/-- A document of queries in order. -/
structure Document where
  operations : List Operation
  deriving Repr

/-- An argument that is bound to the variable of its own name. -/
def boundArgument (name : String) : String × Value :=
  (name, .variable name)

end SchemaQueries.Query
