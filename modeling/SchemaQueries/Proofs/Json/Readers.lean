import SchemaQueries.Json.Reading
import SchemaQueries.Proofs.Json.Drafts
import SchemaQueries.Proofs.Steps

/-!
# Reading a value that is there as a whole

What the readers make of the draft of a value, as opposed to that of a text with a fault.

## Main results

* `Json.readWhole_ofJson` — a value that nests few enough arrays and objects is read as it is.
* `Json.readTagged_ofMembers` — the variant that an object tells, and its other members.
* `Json.givesIf_readList` — a list is read exactly if each of its items is.
* `Json.givesIf_readRecord_single` — a record with a single member is read exactly if that is.
-/

set_option autoImplicit false
set_option relaxedAutoImplicit false

namespace SchemaQueries.Json

open Steps (GivesIf)

/-! ### Whole values -/

mutual

/-- A value that nests few enough arrays and objects is read as it is. -/
theorem readWhole_ofJson {room : Nat} : (j : Json) → j.depth ≤ room →
    readWhole room (Draft.ofJson j) = .ok j
  | .null, _ => rfl
  | .bool _, _ => rfl
  | .number _, _ => rfl
  | .string _, _ => rfl
  | .array items, h => by
    rw [depth] at h
    obtain ⟨room, rfl⟩ := Nat.exists_eq_succ_of_ne_zero (Nat.ne_zero_of_lt h)
    rw [Draft.ofJson, readWhole, nested, readWholeItems_ofItems 0 items (Nat.le_of_succ_le_succ h)]
    rfl
  | .object members, h => by
    rw [depth] at h
    obtain ⟨room, rfl⟩ := Nat.exists_eq_succ_of_ne_zero (Nat.ne_zero_of_lt h)
    rw [Draft.ofJson, readWhole, nested,
      readWholeMembers_ofMembers members (Nat.le_of_succ_le_succ h)]
    rfl

/-- Items that nest few enough arrays and objects are read as they are. -/
theorem readWholeItems_ofItems {room : Nat} (i : Nat) : (items : List Json) →
    depthOfItems items ≤ room →
    readWholeItems .closed room i (Draft.ofItems items) = .ok items
  | [], _ => rfl
  | first :: rest, h => by
    rw [depthOfItems, Nat.max_le] at h
    rw [Draft.ofItems, readWholeItems, readWhole_ofJson first h.1,
      readWholeItems_ofItems (i + 1) rest h.2]
    rfl

/-- Members that nest few enough arrays and objects are read as they are. -/
theorem readWholeMembers_ofMembers {room : Nat} : (members : List (String × Json)) →
    depthOfMembers members ≤ room →
    readWholeMembers .closed room (Draft.ofMembers members) = .ok members
  | [], _ => rfl
  | (key, first) :: rest, h => by
    rw [depthOfMembers, Nat.max_le] at h
    rw [Draft.ofMembers, readWholeMembers, readWhole_ofJson first h.1,
      readWholeMembers_ofMembers rest h.2]
    rfl

end

/-! ### Members -/

/-- A member whose key and value are taken is behind the reader. -/
theorem readMembers_cons {σ : Type} {intake : Intake σ} {take : Draft → Except Failure σ}
    {s s' : σ} {key : String} {d : Draft} {ending : ObjectEnd}
    {rest : List (Except Fault String × Draft)} (hkey : intake s key = .ok take)
    (hvalue : take d = .ok s') :
    readMembers intake ending s ((.ok key, d) :: rest) = readMembers intake ending s' rest := by
  rw [readMembers, readKey, Steps.ok_bind, hkey, Steps.ok_bind, hvalue]
  rfl

/-! ### Variants -/

/-- Members other than the tag are kept as they are. -/
theorem readMembers_tagIntake {α : Type} {tag : String} (variants : List (String × α)) {room : Nat}
    (found : Option α) (others members : List (String × Json))
    (htag : ∀ m ∈ members, m.1 ≠ tag) (hdepth : depthOfMembers members ≤ room) :
    readMembers (tagIntake tag variants room) .closed (found, others) (Draft.ofMembers members) =
      .ok (found, others ++ members) := by
  induction members generalizing others with
  | nil => simp [Draft.ofMembers, readMembers, readEnd, ObjectEnd.fault?]
  | cons m members ih =>
    obtain ⟨key, j⟩ := m
    rw [depthOfMembers, Nat.max_le] at hdepth
    obtain ⟨hkey, hrest⟩ := List.forall_mem_cons.mp htag
    have ih := ih (others ++ [(key, j)]) hrest hdepth.2
    rw [List.append_assoc] at ih
    rw [Draft.ofMembers]
    refine Eq.trans (readMembers_cons (if_neg hkey) ?_) ih
    rw [readWhole_ofJson j hdepth.1]
    rfl

/-- The variant that an object tells by its first member, and its other members. -/
theorem readTagged_ofMembers {α : Type} {name tag : String} {variants : List (String × α)}
    {room : Nat} {kind : String} {a : α} {members : List (String × Json)}
    (hkind : variants.lookup kind = some a) (htag : ∀ m ∈ members, m.1 ≠ tag)
    (hdepth : depthOfMembers members ≤ room) :
    readTagged name tag variants (room + 1)
        (Draft.ofJson (.object ((tag, .string kind) :: members))) =
      .ok (a, .object members) := by
  have hfirst : readMembers (tagIntake tag variants room) .closed (none, [])
      (Draft.ofMembers ((tag, .string kind) :: members)) = .ok (some a, members) := by
    refine Eq.trans (readMembers_cons (if_pos rfl) ?_)
      (readMembers_tagIntake variants (some a) [] members htag hdepth)
    simp [Draft.ofJson, readVariant, hkind]
  rw [Draft.ofJson, readTagged, nested, hfirst]
  rfl

/-! ### Lists -/

section List

variable {α β : Type} {c : α → Prop} {r : α → β} {xs : List α} {answer : α → Json}

/-- Items are read exactly if each of them is. -/
theorem givesIf_readItems {item : Draft → Except Failure β} {i : Nat}
    (h : ∀ x ∈ xs, GivesIf (c x) (item (Draft.ofJson (answer x))) (r x)) :
    GivesIf (∀ x ∈ xs, c x) (readItems item .closed i (Draft.ofItems (xs.map answer)))
      (xs.map r) := by
  induction xs generalizing i with
  | nil => exact (GivesIf.of_ok rfl).congr (by simp)
  | cons x xs ih =>
    obtain ⟨hx, hxs⟩ := List.forall_mem_cons.mp h
    have hcons : GivesIf True (pure (r x :: xs.map r) : Except Failure (List β))
      (r x :: xs.map r) := .of_ok rfl
    rw [List.map_cons, Draft.ofItems, readItems]
    refine ((hx.mapError _).bind ((ih hxs).bind hcons)).congr ?_
    rw [List.forall_mem_cons, and_true]

/-- A list is read exactly if each of its items is. -/
theorem givesIf_readList {reader : Reader β} {room : Nat}
    (h : ∀ x ∈ xs, GivesIf (c x) (reader room (Draft.ofJson (answer x))) (r x)) :
    GivesIf (∀ x ∈ xs, c x)
      (readList reader (room + 1) (Draft.ofJson (.array (xs.map answer)))) (xs.map r) := by
  rw [Draft.ofJson, readList, nested]
  exact givesIf_readItems h

end List

/-! ### Records -/

/-- A record with a single member is read exactly if the value of that is, where the record does
without its other members. -/
theorem givesIf_readRecord_single {types : List Type} {title : Title} {strictness : Strictness}
    {room : Nat} {form : Nat → Form Draft Failure types} {key : String} {j : Json}
    {fill : Draft → Except Failure (Slots types)} {p : Prop} {slots : Slots types}
    {values : Values types} (hplace : (form room).place (Slots.empty types) key = .free fill)
    (hfill : GivesIf p (fill (Draft.ofJson j)) slots)
    (hfinish : (form room).finish slots = .ok values) :
    GivesIf p (readRecord title strictness form (room + 1)
      (Draft.ofJson (.object [(key, j)]))) values := by
  have hintake : recordIntake strictness (form room) (Slots.empty types) key = .ok fill :=
    recordIntake_eq_ok_iff.mpr (.inl hplace)
  have hend : GivesIf True (readMembers (recordIntake strictness (form room)) .closed slots [])
      slots := .of_ok rfl
  have hvalues : GivesIf True (((form room).finish slots).mapError Failure.here) values :=
    .of_ok (by rw [hfinish]; rfl)
  rw [Draft.ofJson, Draft.ofMembers, readRecord, nested, readMembers, readKey, Steps.ok_bind,
    hintake, Steps.ok_bind]
  refine (((hfill.mapError _).bind hend).bind hvalues).congr ?_
  rw [and_true, and_true]

end SchemaQueries.Json
