import SchemaQueries.Schema.Basic

/-!
# Printing a schema

The text of a schema document: its definitions with a blank line between them, fields and enum
values on lines of their own, each level indented by the same number of spaces.

A description stands on lines of its own before a type, a directive or a field, and on the same
line before an argument, an input field or an enum value.

## Main definitions

* `Schema.Document.text` — the text of a document.
* `Schema.Definition.text` — the text of one definition.
-/

set_option autoImplicit false
set_option relaxedAutoImplicit false

namespace SchemaQueries.Schema

/-- A description on lines of its own. -/
def descriptionLines (l : Layout) : Option String → List Char
  | none => []
  | some s => l.margin ++ l.quoted s ++ ['\n']

/-- A description that is followed on its line by what it describes. -/
def descriptionBefore (l : Layout) : Option String → List Char
  | none => []
  | some s => l.quoted s ++ [' ']

/-- Directives, each with a space before it. -/
def directivesText (l : Layout) (directives : List Directive) : List Char :=
  directives.flatMap fun d => ' ' :: '@' :: d.name.toList ++ Value.argumentsText l d.arguments

/-- An argument or input field. -/
def InputValue.text (l : Layout) (v : InputValue) : List Char :=
  descriptionBefore l v.description ++ v.name.toList ++ [':', ' '] ++ v.type.text
    ++ (match v.default with
      | none => []
      | some value => [' ', '=', ' '] ++ value.text l)
    ++ directivesText l v.directives

/-- Arguments in parentheses, nothing if there is none. -/
def argumentDefinitionsText (l : Layout) (arguments : List InputValue) : List Char :=
  if arguments.isEmpty then []
  else '(' :: Text.joinWith [',', ' '] (arguments.map (InputValue.text l)) ++ [')']

/-- A field on a line of its own, after its description. -/
def Field.text (l : Layout) (f : Field) : List Char :=
  descriptionLines l f.description ++ l.margin ++ f.name.toList
    ++ argumentDefinitionsText l f.arguments ++ [':', ' '] ++ f.type.text
    ++ directivesText l f.directives ++ ['\n']

/-- An enum value on a line of its own. -/
def EnumValue.text (l : Layout) (v : EnumValue) : List Char :=
  l.margin ++ descriptionBefore l v.description ++ v.name.toList
    ++ directivesText l v.directives ++ ['\n']

/-- An input field on a line of its own. -/
def InputValue.lineText (l : Layout) (v : InputValue) : List Char :=
  l.margin ++ v.text l ++ ['\n']

/-- Members in a block, or the end of the line if there is none. -/
def blockOrEnd {α : Type} (l : Layout) (print : Layout → α → List Char) (members : List α) :
    List Char :=
  if members.isEmpty then ['\n'] else l.block fun inner => members.flatMap (print inner)

/-- The word that names the kind of a type. -/
def TypeBody.keyword : TypeBody → String
  | .scalar => "scalar"
  | .object .. => "type"
  | .interface .. => "interface"
  | .union _ => "union"
  | .enum _ => "enum"
  | .input _ => "input"

/-- The interfaces that a type implements. -/
def interfacesText (interfaces : List String) : List Char :=
  if interfaces.isEmpty then []
  else " implements ".toList ++ Text.joinWith [' ', '&', ' '] (interfaces.map (·.toList))

/-- What stands between the name of a type and its directives. -/
def TypeBody.beforeDirectives : TypeBody → List Char
  | .object interfaces _ | .interface interfaces _ => interfacesText interfaces
  | _ => []

/-- What stands after the directives of a type, to the end of the line or of the block. -/
def TypeBody.afterDirectives (l : Layout) : TypeBody → List Char
  | .scalar => ['\n']
  | .object _ fields | .interface _ fields => blockOrEnd l Field.text fields
  | .union members =>
    (if members.isEmpty then []
      else [' ', '=', ' '] ++ Text.joinWith [' ', '|', ' '] (members.map (·.toList))) ++ ['\n']
  | .enum values => blockOrEnd l EnumValue.text values
  | .input fields => blockOrEnd l InputValue.lineText fields

/-- A type from the word that names its kind on. -/
def TypeBody.text (l : Layout) (body : TypeBody) (name : String) (directives : List Directive) :
    List Char :=
  body.keyword.toList ++ ' ' :: name.toList ++ body.beforeDirectives
    ++ directivesText l directives ++ body.afterDirectives l

/-- One root operation type on a line of its own. -/
def rootText (l : Layout) (operation : String) : Option String → List Char
  | none => []
  | some name => l.margin ++ operation.toList ++ [':', ' '] ++ name.toList ++ ['\n']

/-- The root operation types, each on a line of its own. -/
def Roots.text (l : Layout) (r : Roots) : List Char :=
  rootText l "query" r.query ++ rootText l "mutation" r.mutation
    ++ rootText l "subscription" r.subscription

/-- A definition, with the line feed at its end. -/
def Definition.text (l : Layout) : Definition → List Char
  | .schema directives roots =>
    "schema".toList ++ directivesText l directives ++ l.block roots.text
  | .type d => descriptionLines l d.description ++ d.body.text l d.name d.directives
  | .extension e => "extend ".toList ++ e.body.text l e.name e.directives
  | .directive d =>
    descriptionLines l d.description ++ "directive @".toList ++ d.name.toList
      ++ argumentDefinitionsText l d.arguments
      ++ (if d.repeatable then " repeatable".toList else [])
      ++ (if d.locations.isEmpty then []
        else " on ".toList ++ Text.joinWith [' ', '|', ' '] (d.locations.map (·.name.toList)))
      ++ ['\n']

/-- The text of a document, `indent` spaces per level. -/
def Document.text (indent : Nat) (d : Document) : List Char :=
  Text.joinWith ['\n'] (d.definitions.map (Definition.text (.outermost indent)))

end SchemaQueries.Schema
