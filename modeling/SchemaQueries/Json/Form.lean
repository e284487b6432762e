import SchemaQueries.Json.Failure

/-!
# Forms for records

A record is written as an object, whose members come in any order, or as an array of the members
in the order of the record. What is known about its members is a form: one entry for each member,
in order. Reading an object fills the entries one by one, in the order of the text.

## Main definitions

* `Json.Entry`, `Json.Form` — the members of a record.
* `Json.Values`, `Json.Slots` — the values of a filled form, and those of one that is being filled.
* `Json.Form.place` — where a member of an object belongs.
* `Json.Form.finish` — the values when an object has no more members.
* `Json.Form.ofItems` — the values from the items of an array.

## Main results

* `Json.Form.place_eq_free_iff` — the entry that a member is filled into.

## Implementation notes

`V` is the type of the values that are read and `E` that of the failures of reading.
-/

set_option autoImplicit false
set_option relaxedAutoImplicit false

namespace SchemaQueries.Json

/-- A member of a record. -/
structure Entry (V E α : Type) where
  name : String
  /-- What a value of the member means. -/
  read : V → Except E α
  /-- The value of the member where an object lacks it. -/
  absent : Option α
  /-- The value of the member where an array ends before it. -/
  cutOff : Option α

namespace Entry

variable {V E α : Type}

/-- A member that must be there. -/
def required (name : String) (read : V → Except E α) : Entry V E α :=
  ⟨name, read, none, none⟩

/-- A member that an object may lack. -/
def optional (name : String) (read : V → Except E (Option α)) : Entry V E (Option α) :=
  ⟨name, read, some none, none⟩

/-- A member with a value for records that do not have it. -/
def withDefault (name : String) (read : V → Except E α) (default : α) : Entry V E α :=
  ⟨name, read, some default, some default⟩

end Entry

/-- The members of a record, whose values are of the given types. -/
@[reducible] def Form (V E : Type) : List Type → Type
  | [] => Unit
  | α :: types => Entry V E α × Form V E types

/-- The values of all members. -/
@[reducible] def Values : List Type → Type
  | [] => Unit
  | α :: types => α × Values types

/-- The values of the members that have been met. -/
@[reducible] def Slots : List Type → Type
  | [] => Unit
  | α :: types => Option α × Slots types

/-- No member has been met. -/
def Slots.empty : (types : List Type) → Slots types
  | [] => ()
  | _ :: types => (none, Slots.empty types)

/-- Where a member of an object belongs. -/
inductive Place (V E : Type) (types : List Type) where
  /-- The record has no such member. -/
  | unknown
  /-- The member has been met before. -/
  | taken
  /-- The member has not been met, and this is how it is filled in. -/
  | free (fill : V → Except E (Slots types))

namespace Form

variable {V E : Type}

/-- The names of the members. -/
def names : {types : List Type} → Form V E types → List String
  | [], _ => []
  | _ :: _, (entry, rest) => entry.name :: names rest

/-- Where a member belongs in a form that is being filled. -/
def place : {types : List Type} → Form V E types → Slots types → String → Place V E types
  | [], _, _, _ => .unknown
  | _ :: _, (entry, rest), (found, slots), name =>
    if entry.name = name then
      match found with
      | some _ => .taken
      | none => .free fun v => (entry.read v).map fun a => (some a, slots)
    else
      match place rest slots name with
      | .unknown => .unknown
      | .taken => .taken
      | .free fill => .free fun v => (fill v).map fun slots => (found, slots)

/-- A member is filled into the first entry if that has its name and has not been met, and into one of
the other entries if the first one has another name. -/
theorem place_eq_free_iff {α : Type} {types : List Type} {entry : Entry V E α} {rest : Form V E types}
    {found : Option α} {slots : Slots types} {name : String}
    {fill : V → Except E (Slots (α :: types))} :
    @place V E (α :: types) (entry, rest) (found, slots) name = .free fill ↔
      (entry.name = name ∧ found = none ∧
        fill = fun v => (entry.read v).map fun a => (some a, slots)) ∨
      (entry.name ≠ name ∧ ∃ fillRest, rest.place slots name = .free fillRest ∧
        fill = fun v => (fillRest v).map fun slots => (found, slots)) := by
  by_cases hname : entry.name = name
  · cases found <;> simp [place, hname, eq_comm]
  · cases hplace : rest.place slots name <;> simp [place, hname, hplace, eq_comm (a := fill)]

/-- The values of a form that nothing more is filled into. -/
def finish : {types : List Type} → Form V E types → Slots types → Except Cause (Values types)
  | [], _, _ => .ok ()
  | _ :: _, (entry, rest), (found, slots) =>
    match found.or entry.absent with
    | none => .error (.missingField entry.name)
    | some a => (finish rest slots).map fun values => (a, values)

/-- The values of a form from the items of an array, and the items left over. `locate` puts a
failure at an item, `ending` is the failure that stands behind the last item, and `tooShort` is
that of an array with so many items. -/
def ofItems (locate : Nat → E → E) (ending : Option E) (tooShort : Nat → E) :
    {types : List Type} → Form V E types → Nat → List V → Except E (Values types × List V)
  | [], _, _, items => .ok ((), items)
  | _ :: _, (entry, rest), i, v :: items => do
    let a ← (entry.read v).mapError (locate i)
    let (values, surplus) ← ofItems locate ending tooShort rest (i + 1) items
    return ((a, values), surplus)
  | _ :: _, (entry, rest), i, [] =>
    match ending, entry.cutOff with
    | some e, _ => .error e
    | none, none => .error (tooShort i)
    | none, some a => do
      let (values, surplus) ← ofItems locate ending tooShort rest (i + 1) []
      return ((a, values), surplus)

end Form

end SchemaQueries.Json
