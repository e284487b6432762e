import SchemaQueries.Json.Content
import SchemaQueries.Json.Draft

/-!
# Reading a JSON text

What a text means, read from left to right: the first problem is reported, with its place, whether
it is a fault of the text or a value that is not what is asked for.

## Main definitions

* `Json.Reader` — what a value in a text means.
* `Json.readString`, `Json.readWord`, `Json.readOption`, `Json.readList`, `Json.readMap`,
  `Json.readRecord`, `Json.readTagged` — readers.
* `Json.readWhole` — any value, as it stands.
* `Json.read` — what a text means.

## Implementation notes

A variant may be told by any member of its object, so an object with variants is read as a whole
before its content is looked at. Then the places inside it are lost.
-/

set_option autoImplicit false
set_option relaxedAutoImplicit false

namespace SchemaQueries.Json

/-- What a value in a text means. The number says how many arrays and objects the value may nest. -/
abbrev Reader (α : Type) := Nat → Draft → Except Failure α

/-- How many arrays and objects may stand inside one another, in what is not passed over. -/
def maxNesting : Nat := 127

/-- What a text means. Nothing behind the value is looked at. -/
def read {α : Type} (reader : Reader α) (text : List Char) : Except Failure α :=
  reader maxNesting (draft text)

/-! ### Simple values -/

/-- What a message calls the value, or the fault that is met in finding out. -/
def Draft.kind : Draft → Except Fault Kind
  | .null => .ok .null
  | .bool b => .ok (.bool b)
  | .number n => n.map .number
  | .string s => s.map .string
  | .array _ _ => .ok .array
  | .object _ _ => .ok .object
  | .broken read _ => .error read

/-- A fault of the text at this place. -/
def faultHere (f : Fault) : Failure :=
  .here (.fault f)

/-- The failure of a value that is not what is asked for. -/
def mismatch (expected : Expected) (d : Draft) : Failure :=
  match d.kind with
  | .ok kind => .here (.invalidType kind expected)
  | .error f => faultHere f

/-- A string. -/
def readString : Reader String
  | _, .string (.ok s) => .ok s
  | _, d => .error (mismatch .string d)

/-- A natural number of 32 bits. -/
def readWord : Reader Nat
  | _, .number (.ok (.natural n)) =>
    if n < Nat.pow 2 32 then .ok n
    else .error (.here (.invalidValue (.number (.natural n)) .word))
  | _, .number (.ok (.negative n)) => .error (.here (.invalidValue (.number (.negative n)) .word))
  | _, d => .error (mismatch .word d)

/-- A value, or nothing where `null` stands. -/
def readOption {α : Type} (reader : Reader α) : Reader (Option α)
  | _, .null => .ok none
  | room, d => (reader room d).map some

/-- Reads what stands inside an array or object, if one more may be nested. -/
def nested {α : Type} (room : Nat) (inner : Nat → Except Failure α) : Except Failure α :=
  match room with
  | 0 => .error (faultHere .nestingTooDeep)
  | room + 1 => inner room

/-! ### Arrays -/

/-- A fault where an array should go on or end. -/
def failAt (fault : Option Fault) : Except Failure Unit :=
  match fault with
  | some f => .error (faultHere f)
  | none => .ok ()

/-- The values of the items from the `i`-th on. -/
def readItems {α : Type} (item : Draft → Except Failure α) (ending : ArrayEnd) :
    Nat → List Draft → Except Failure (List α)
  | _, [] => do
    failAt ending.fault?
    return []
  | i, first :: rest => do
    let a ← (item first).mapError (.within (.index i))
    return a :: (← readItems item ending (i + 1) rest)

/-- The values of the items of an array. -/
def readList {α : Type} (reader : Reader α) : Reader (List α)
  | room, .array items ending => nested room fun room => readItems (reader room) ending 0 items
  | _, d => .error (mismatch .list d)

/-! ### Objects -/

/-- How a reader takes a member: first the key, then the value. -/
abbrev Intake (σ : Type) := σ → String → Except Failure (Draft → Except Failure σ)

/-- A key. -/
def readKey : Except Fault String → Except Failure String
  | .ok key => .ok key
  | .error f => .error ⟨[.unreadable], .fault f⟩

/-- What stands behind the last member. -/
def readEnd {σ : Type} (intake : Intake σ) (s : σ) : ObjectEnd → Except Failure σ
  | .noColon key fault => do
    let _ ← intake s (← readKey key)
    throw (faultHere fault)
  | ending =>
    match ending.fault? with
    | some f => .error ⟨[.unreadable], .fault f⟩
    | none => .ok s

/-- The members of an object, one after the other. -/
def readMembers {σ : Type} (intake : Intake σ) (ending : ObjectEnd) :
    σ → List (Except Fault String × Draft) → Except Failure σ
  | s, [] => readEnd intake s ending
  | s, (key, d) :: rest => do
    let key ← readKey key
    let take ← intake s key
    readMembers intake ending (← (take d).mapError (.within (.key key))) rest

/-- Takes every member. A later member replaces an earlier one of its key. -/
def mapIntake {α : Type} (value : Draft → Except Failure α) : Intake (List (String × α)) :=
  fun s key => .ok fun d => do return (key, ← value d) :: s.filter (·.1 != key)

/-- An object with any keys. -/
def readMap {α : Type} (reader : Reader α) : Reader (List (String × α))
  | room, .object members ending =>
    nested room fun room => readMembers (mapIntake (reader room)) ending [] members
  | _, d => .error (mismatch .map d)

/-! ### Records -/

/-- Whether a record takes an object with members that it does not have. -/
inductive Strictness where
  | lenient | strict
  deriving DecidableEq, Repr

/-- Takes the members of a record and passes over the others, if they may be there. -/
def recordIntake {types : List Type} (strictness : Strictness) (form : Form Draft Failure types) :
    Intake (Slots types) := fun slots key =>
  match form.place slots key, strictness with
  | .unknown, .strict => .error ⟨[.key key], .unknownField key form.names⟩
  | .unknown, .lenient => .ok fun d => do
    failAt d.skipFault?
    return slots
  | .taken, _ => .error (.here (.duplicateField key))
  | .free fill, _ => .ok fill

/-- A member is taken where the form has a free place for it, and passed over where the form does not
know it and may leave it. -/
theorem recordIntake_eq_ok_iff {types : List Type} {strictness : Strictness}
    {form : Form Draft Failure types} {slots : Slots types} {key : String}
    {take : Draft → Except Failure (Slots types)} :
    recordIntake strictness form slots key = .ok take ↔ form.place slots key = .free take ∨
      (form.place slots key = .unknown ∧ strictness = .lenient ∧
        take = fun d => do failAt d.skipFault?; return slots) := by
  unfold recordIntake
  cases form.place slots key <;> cases strictness <;> simp [eq_comm]

/-- The values of a record from the items of an array. -/
def readElements {types : List Type} (title : Title) (form : Form Draft Failure types)
    (ending : ArrayEnd) (items : List Draft) : Except Failure (Values types) := do
  let tooShort (i : Nat) : Failure := .here (.invalidLength i (.elements title types.length))
  let (values, surplus) ←
    form.ofItems (fun i => .within (.index i)) (ending.fault?.map faultHere) tooShort 0 items
  failAt (if surplus.isEmpty then ending.closeFault? else some .trailingCharacters)
  return values

/-- A record. -/
def readRecord {types : List Type} (title : Title) (strictness : Strictness)
    (form : Nat → Form Draft Failure types) : Reader (Values types)
  | room, .object members ending => nested room fun room => do
    let slots ← readMembers (recordIntake strictness (form room)) ending (Slots.empty types) members
    ((form room).finish slots).mapError .here
  | room, .array items ending =>
    nested room fun room => readElements title (form room) ending items
  | _, d => .error (mismatch (.record title) d)

/-! ### Whole values -/

mutual

/-- Any value, as it stands. -/
def readWhole : Reader Json
  | _, .null => .ok .null
  | _, .bool b => .ok (.bool b)
  | _, .number n => (n.map .number).mapError faultHere
  | _, .string s => (s.map .string).mapError faultHere
  | _, .broken read _ => .error (faultHere read)
  | room, .array items ending => nested room fun room => do
    return .array (← readWholeItems ending room 0 items)
  | room, .object members ending => nested room fun room => do
    return .object (← readWholeMembers ending room members)

/-- The items of an array from the `i`-th on, as they stand. -/
def readWholeItems (ending : ArrayEnd) : Nat → Nat → List Draft → Except Failure (List Json)
  | _, _, [] => do
    failAt ending.fault?
    return []
  | room, i, first :: rest => do
    let j ← (readWhole room first).mapError (.within (.index i))
    return j :: (← readWholeItems ending room (i + 1) rest)

/-- The members of an object, as they stand. -/
def readWholeMembers (ending : ObjectEnd) :
    Nat → List (Except Fault String × Draft) → Except Failure (List (String × Json))
  | _, [] => readEnd (fun _ _ => .ok fun _ => .ok []) [] ending
  | room, (key, first) :: rest => do
    let key ← readKey key
    let j ← (readWhole room first).mapError (.within (.key key))
    return (key, j) :: (← readWholeMembers ending room rest)

end

/-! ### Variants -/

/-- A variant by its name. -/
def readVariant {α : Type} (variants : List (String × α)) : Draft → Except Failure α
  | .string (.ok name) =>
    match variants.lookup name with
    | some a => .ok a
    | none => .error (.here (.unknownVariant name (variants.map (·.1))))
  | d => .error (mismatch .variant d)

/-- Takes the member that tells the variant, once, and keeps all others as they stand. -/
def tagIntake {α : Type} (tag : String) (variants : List (String × α)) (room : Nat) :
    Intake (Option α × List (String × Json)) := fun (found, others) key =>
  if key = tag then
    match found with
    | some _ => .error (.here (.duplicateField tag))
    | none => .ok fun d => do return (some (← readVariant variants d), others)
  else .ok fun d => do return (found, others ++ [(key, ← readWhole room d)])

/-- The variant that an object or an array tells, and what else it holds: the members other than
the tag, or the items behind it. -/
def readTagged {α : Type} (name tag : String) (variants : List (String × α)) : Reader (α × Json)
  | room, .object members ending => nested room fun room => do
    match ← readMembers (tagIntake tag variants room) ending (none, []) members with
    | (some a, others) => return (a, .object others)
    | (none, _) => throw (.here (.missingField tag))
  | room, .array items ending => nested room fun room =>
    match items with
    | [] => do
      failAt ending.fault?
      throw (.here (.missingField tag))
    | first :: rest => do
      let a ← (readVariant variants first).mapError (.within (.index 0))
      return (a, .array (← readWholeItems ending room 1 rest))
  | _, d => .error (mismatch (.tagged name) d)

end SchemaQueries.Json
