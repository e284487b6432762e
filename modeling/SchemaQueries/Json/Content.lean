import SchemaQueries.Json.Form

/-!
# What a JSON value means

Values of the kinds that records are made of, from a JSON value that is there as a whole. Such a
value has lost its place in the text, so a failure says only what is wrong.

## Main definitions

* `Json.asString`, `Json.asOption`, `Json.asList` — simple values.
* `Json.asRecord` — a record, from an object or an array.
* `Json.asTagged` — a variant and its content.
-/

set_option autoImplicit false
set_option relaxedAutoImplicit false

namespace SchemaQueries.Json

/-- A string. -/
def asString : Json → Except Cause String
  | .string s => .ok s
  | j => .error (.invalidType j.kind .string)

/-- A value, or nothing where `null` stands. -/
def asOption {α : Type} (read : Json → Except Cause α) : Json → Except Cause (Option α)
  | .null => .ok none
  | j => (read j).map some

/-- The values of the items of an array. -/
def asList {α : Type} (read : Json → Except Cause α) : Json → Except Cause (List α)
  | .array items => items.mapM read
  | j => .error (.invalidType j.kind .list)

/-! ### Records -/

/-- Fills a member of an object into a form. A member that the record does not have is passed
over. -/
def fillMember {types : List Type} (form : Form Json Cause types) (slots : Slots types)
    (member : String × Json) : Except Cause (Slots types) :=
  match form.place slots member.1 with
  | .unknown => .ok slots
  | .taken => .error (.duplicateField member.1)
  | .free fill => fill member.2

/-- The values of a record from the members of an object. -/
def ofMembers {types : List Type} (form : Form Json Cause types)
    (members : List (String × Json)) : Except Cause (Values types) := do
  form.finish (← members.foldlM (fillMember form) (Slots.empty types))

/-- The values of a record from the items of an array. -/
def ofElements {types : List Type} (title : Title) (form : Form Json Cause types)
    (items : List Json) : Except Cause (Values types) := do
  let tooShort (i : Nat) : Cause := .invalidLength i (.elements title types.length)
  let (values, surplus) ← form.ofItems (fun _ cause => cause) none tooShort 0 items
  if surplus.isEmpty then return values
  else throw (.invalidLength items.length (.noMoreThan types.length))

/-- A record. -/
def asRecord {types : List Type} (title : Title) (form : Form Json Cause types) :
    Json → Except Cause (Values types)
  | .object members => ofMembers form members
  | .array items => ofElements title form items
  | j => .error (.invalidType j.kind (.record title))

/-! ### Variants -/

/-- A variant by its name, or by its place among the variants. -/
def asVariant {α : Type} (variants : List (String × α)) : Json → Except Cause α
  | .string name =>
    match variants.lookup name with
    | some a => .ok a
    | none => .error (.unknownVariant name (variants.map (·.1)))
  | .number (.natural i) =>
    match variants[i]? with
    | some (_, a) => .ok a
    | none =>
      .error (.invalidValue (.number (.natural i)) (.variantIndex variants.length))
  | j => .error (.invalidType j.kind .variant)

/-- The variant that the members of an object tell, and the other members. -/
def splitTag {α : Type} (tag : String) (variants : List (String × α)) :
    Option α → List (String × Json) → Except Cause (Option α × List (String × Json))
  | found, [] => .ok (found, [])
  | found, (key, v) :: rest =>
    if key = tag then
      match found with
      | some _ => .error (.duplicateField tag)
      | none => do splitTag tag variants (some (← asVariant variants v)) rest
    else do
      let (found, others) ← splitTag tag variants found rest
      return (found, (key, v) :: others)

/-- The variant that an object or an array tells, and what else it holds: the members other than
the tag, or the items behind it. -/
def asTagged {α : Type} (name tag : String) (variants : List (String × α)) :
    Json → Except Cause (α × Json)
  | .object members => do
    match ← splitTag tag variants none members with
    | (some a, others) => return (a, .object others)
    | (none, _) => throw (.missingField tag)
  | .array (first :: rest) => do return (← asVariant variants first, .array rest)
  | .array [] => .error (.missingField tag)
  | j => .error (.invalidType j.kind (.tagged name))

/-- The content of a variant without members. -/
def asNothing : Json → Except Cause Unit
  | .array (first :: rest) => .error (.invalidLength (first :: rest).length (.noMoreThan 0))
  | _ => .ok ()

end SchemaQueries.Json
