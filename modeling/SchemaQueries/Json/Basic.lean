import SchemaQueries.Binary64.Decimal
import SchemaQueries.Text.Shown

/-!
# JSON values

## Main definitions

* `Json` — a JSON value. An object keeps its members in order, repeated keys included.
* `Json.Number` — a number as it is kept: an integer of 64 bits, or else a binary64 number.
* `Json.depth` — how far its arrays and objects are nested.
* `Json.Kind` — what a message calls a value that stands in the wrong place.
-/

set_option autoImplicit false
set_option relaxedAutoImplicit false

namespace SchemaQueries

/-- A number: a natural number or a negative integer that fits into 64 bits, or else a binary64
number. Minus zero is a binary64 number. -/
inductive Json.Number where
  | natural (n : Nat)
  /-- The number `-n`. -/
  | negative (n : Nat)
  | float (x : Binary64)
  deriving DecidableEq, Repr

/-- A JSON value. -/
inductive Json where
  | null
  | bool (b : Bool)
  | number (n : Json.Number)
  | string (s : String)
  | array (items : List Json)
  | object (members : List (String × Json))
  deriving Repr

namespace Json

/-- What a message calls a value. -/
inductive Kind where
  | null
  | bool (b : Bool)
  | number (n : Number)
  | string (s : String)
  | array
  | object
  deriving DecidableEq, Repr

/-- What a message calls a value. -/
def kind : Json → Kind
  | .null => .null
  | .bool b => .bool b
  | .number n => .number n
  | .string s => .string s
  | .array _ => .array
  | .object _ => .object

mutual

/-- How many arrays and objects stand inside one another. -/
def depth : Json → Nat
  | .array items => depthOfItems items + 1
  | .object members => depthOfMembers members + 1
  | _ => 0

/-- The greatest depth of the items. -/
def depthOfItems : List Json → Nat
  | [] => 0
  | first :: rest => max (depth first) (depthOfItems rest)

/-- The greatest depth of the values of the members. -/
def depthOfMembers : List (String × Json) → Nat
  | [] => 0
  | (_, first) :: rest => max (depth first) (depthOfMembers rest)

end

/-- Numbers are shown without exponent if the power of ten of the leading digit is between -5 and
15, and whole numbers with a point and a zero. -/
def numberLayout : DecimalLayout := ⟨some (-5, 15), true, false⟩

/-- How a message shows a number. -/
def Number.shown : Number → String
  | natural n => "integer `" ++ toString n ++ "`"
  | negative n => "integer `-" ++ toString n ++ "`"
  | float x => "floating point `" ++ String.ofList (x.text numberLayout) ++ "`"

/-- How a message shows a value. -/
def Kind.shown : Kind → String
  | null => "null"
  | bool b => "boolean `" ++ (if b then "true" else "false") ++ "`"
  | number n => n.shown
  | string s => "string " ++ Text.shown s
  | array => "sequence"
  | object => "map"

end Json

end SchemaQueries
