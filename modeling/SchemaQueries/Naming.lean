import SchemaQueries.Text.Case

/-!
# Names derived from type names

A type is queried through a root field whose name is derived from the name of the type.

## Main definitions

* `Naming.queryFieldName` — the root field of a type.
* `Naming.pluralize` — the root field of a list of that type.
* `Naming.filterTypeName` — the input object type that filters a type.
-/

set_option autoImplicit false
set_option relaxedAutoImplicit false

namespace SchemaQueries.Naming

/-- The root field of a type: the leading characters that upper-casing leaves as they are are
lower-cased, up to the first other character. A name of such characters only, an acronym, is
kept. -/
def queryFieldName (typeName : String) : String :=
  let start := typeName.toList.takeWhile Text.isUpperFixed
  match typeName.toList.dropWhile Text.isUpperFixed with
  | [] => typeName
  | rest => String.ofList (Text.lower start ++ rest)

/-- The plural of a field name: with `es` after an `x`, else with `s`. -/
def pluralize (fieldName : String) : String :=
  if fieldName.toList.getLast? = some 'x' then fieldName ++ "es" else fieldName ++ "s"

/-- The name of the input object type that filters the type of a name. -/
def filterTypeName (entityName : String) : String :=
  entityName ++ "_filter"

end SchemaQueries.Naming
