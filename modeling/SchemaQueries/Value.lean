import SchemaQueries.Binary64.Decimal
import SchemaQueries.Text.Layout

/-!
# Values

The literal values of GraphQL: default values and the arguments of directives and fields.

## Main definitions

* `Value` — a value.
* `Value.objectOf` — an object value from its members as they were written.
* `Value.text` — a value in GraphQL.

## Implementation notes

An object value is a set of members: it is kept with its keys in ascending order and no key twice,
so that equal objects are equal terms.
-/

set_option autoImplicit false
set_option relaxedAutoImplicit false

namespace SchemaQueries

/-- A literal value. -/
inductive Value where
  | variable (name : String)
  | int (value : Int)
  | float (value : Binary64)
  | string (value : String)
  | boolean (value : Bool)
  | null
  | enum (name : String)
  | list (items : List Value)
  | object (members : List (String × Value))
  deriving Repr

namespace Value

/-- Puts a member into a list of members with ascending keys, in place of the one with its key. -/
def insertMember (key : String) (value : Value) : List (String × Value) → List (String × Value)
  | [] => [(key, value)]
  | (k, v) :: rest =>
    if key < k then (key, value) :: (k, v) :: rest
    else if key = k then (key, value) :: rest
    else (k, v) :: insertMember key value rest

/-- The object with these members, the last one of a key that is given twice. -/
def objectOf (members : List (String × Value)) : Value :=
  .object (members.foldl (fun sorted m => insertMember m.1 m.2 sorted) [])

/-- Numbers are written without exponent, and whole numbers without point. -/
def floatLayout : DecimalLayout := ⟨none, false, true⟩

/-- An integer in decimal digits. -/
def intText (n : Int) : List Char :=
  (if n < 0 then ['-'] else []) ++ Nat.toDigits 10 n.natAbs

mutual

/-- The value in GraphQL. Its texts are laid out for the place where it is printed. -/
def text (l : Layout) : Value → List Char
  | .variable name => '$' :: name.toList
  | .int n => intText n
  | .float x => x.text floatLayout
  | .string s => l.quoted s
  | .boolean b => if b then "true".toList else "false".toList
  | .null => "null".toList
  | .enum name => name.toList
  | .list items => '[' :: itemsText l items ++ [']']
  | .object members => '\x7b' :: membersText l members ++ ['\x7d']

/-- The items of a list value, separated by commas. -/
def itemsText (l : Layout) : List Value → List Char
  | [] => []
  | [last] => text l last
  | first :: next :: rest => text l first ++ [',', ' '] ++ itemsText l (next :: rest)

/-- The members of an object value, separated by commas. -/
def membersText (l : Layout) : List (String × Value) → List Char
  | [] => []
  | [(key, last)] => key.toList ++ [':', ' '] ++ text l last
  | (key, first) :: next :: rest =>
    key.toList ++ [':', ' '] ++ text l first ++ [',', ' '] ++ membersText l (next :: rest)

end

/-- The values of arguments in parentheses, nothing if there is none. -/
def argumentsText (l : Layout) (arguments : List (String × Value)) : List Char :=
  if arguments.isEmpty then []
  else '(' :: membersText l arguments ++ [')']

end Value

end SchemaQueries
