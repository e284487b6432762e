import SchemaQueries.Query.Basic

/-!
# Printing queries

The text of a query document: the queries with a blank line between them, each field on a line of
its own.

## Main definitions

* `Query.Document.text` — the text of a document.
* `Query.Field.text` — a field with all that is selected below it.
-/

set_option autoImplicit false
set_option relaxedAutoImplicit false

namespace SchemaQueries.Query

mutual

/-- A field on a line of its own, and the fields below it in a block. -/
def Field.text (l : Layout) : Field → List Char
  | .mk name arguments [] => l.margin ++ name.toList ++ Value.argumentsText l arguments ++ ['\n']
  | .mk name arguments (first :: rest) =>
    l.margin ++ name.toList ++ Value.argumentsText l arguments ++ [' ', '\x7b', '\n']
      ++ selectionText l.deeper (first :: rest) ++ l.margin ++ ['\x7d', '\n']

/-- Fields, each on a line of its own. -/
def selectionText (l : Layout) : List Field → List Char
  | [] => []
  | first :: rest => first.text l ++ selectionText l rest

end

/-- The definition of a variable. -/
def Variable.text (l : Layout) (v : Variable) : List Char :=
  '$' :: v.name.toList ++ [':', ' '] ++ v.type.text
    ++ (match v.default with
      | none => []
      | some value => [' ', '=', ' '] ++ value.text l)

/-- The definitions of variables in parentheses, nothing if there is none. -/
def parametersText (l : Layout) (parameters : List Variable) : List Char :=
  if parameters.isEmpty then []
  else '(' :: Text.joinWith [',', ' '] (parameters.map (Variable.text l)) ++ [')']

/-- A query with its name, its variables and a block of fields. -/
def Operation.text (l : Layout) (o : Operation) : List Char :=
  "query ".toList ++ o.name.toList ++ parametersText l o.parameters
    ++ l.block fun inner => selectionText inner o.selection

/-- The text of a document, `indent` spaces per level. -/
def Document.text (indent : Nat) (d : Document) : List Char :=
  Text.joinWith ['\n'] (d.operations.map (Operation.text (.outermost indent)))

end SchemaQueries.Query
