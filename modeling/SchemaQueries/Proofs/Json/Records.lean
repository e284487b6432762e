import SchemaQueries.Json.Content
import SchemaQueries.Proofs.Steps

/-!
# Records and variants of whole values

How the members of an object fill a record, one after the other, and which variant they tell.

## Main results

* `Json.givesIf_asRecord` — a record is read exactly if the values of its members are.
* `Json.givesIf_fill_unknown`, `Json.givesIf_fill_taken` — one member more.
* `Json.asTagged_object` — the variant that an object tells, and its other members.
-/

set_option autoImplicit false
set_option relaxedAutoImplicit false

namespace SchemaQueries.Json

open Steps (GivesIf)

/-! ### Records -/

variable {types : List Type} {form : Form Json Cause types} {slots slots' : Slots types}

/-- Members fill a record as they fill its entries, where nothing of it is missing afterwards. -/
theorem givesIf_asRecord {title : Title} {members : List (String × Json)} {p : Prop}
    {values : Values types}
    (hfill : GivesIf p (members.foldlM (fillMember form) (Slots.empty types)) slots)
    (hfinish : form.finish slots = .ok values) :
    GivesIf p (asRecord title form (.object members)) values :=
  (hfill.bind (.of_ok hfinish)).congr (and_iff_left trivial)

/-- The member is one that the record has, and it is filled in exactly if `p` holds. -/
def TakenIf {types : List Type} (form : Form Json Cause types) (slots : Slots types)
    (key : String) (j : Json) (p : Prop) (next : Slots types) : Prop :=
  ∃ fill, form.place slots key = .free fill ∧ GivesIf p (fill j) next

/-- A member fills the first entry of a record if it has its name. -/
theorem TakenIf.head {α : Type} {entry : Entry Json Cause α} {key : String} {j : Json} {p : Prop}
    {a : α} (hkey : entry.name = key) (h : GivesIf p (entry.read j) a) :
    @TakenIf (α :: types) (entry, form) (none, slots) key j p (some a, slots) :=
  ⟨_, if_pos hkey, h.map fun a => (some a, slots)⟩

/-- A member fills a later entry of a record if it does not have the name of the first one. -/
theorem TakenIf.tail {α : Type} {entry : Entry Json Cause α} {found : Option α} {key : String}
    {j : Json} {p : Prop} (hkey : entry.name ≠ key) (h : TakenIf form slots key j p slots') :
    @TakenIf (α :: types) (entry, form) (found, slots) key j p (found, slots') := by
  obtain ⟨fill, hplace, hfill⟩ := h
  refine ⟨fun v => (fill v).map fun slots => (found, slots), ?_,
    hfill.map fun slots => (found, slots)⟩
  refine (if_neg hkey).trans ?_
  rw [hplace]

/-- No member fills nothing. -/
theorem givesIf_fill_nil :
    GivesIf True (([] : List (String × Json)).foldlM (fillMember form) slots) slots :=
  .of_ok rfl

/-- A member that the record does not have is passed over. -/
theorem givesIf_fill_unknown {key : String} {j : Json} {rest : List (String × Json)} {p : Prop}
    (hplace : form.place slots key = .unknown)
    (hrest : GivesIf p (rest.foldlM (fillMember form) slots) slots') :
    GivesIf p (((key, j) :: rest).foldlM (fillMember form) slots) slots' := by
  have hmember : fillMember form slots (key, j) = .ok slots := by rw [fillMember, hplace]
  rw [List.foldlM_cons, hmember]
  exact hrest

/-- A member that the record has fills its entry. -/
theorem givesIf_fill_taken {key : String} {j : Json} {rest : List (String × Json)} {p q : Prop}
    {next : Slots types} (htaken : TakenIf form slots key j p next)
    (hrest : GivesIf q (rest.foldlM (fillMember form) next) slots') :
    GivesIf (p ∧ q) (((key, j) :: rest).foldlM (fillMember form) slots) slots' := by
  obtain ⟨fill, hplace, hfill⟩ := htaken
  have hmember : fillMember form slots (key, j) = fill j := by rw [fillMember, hplace]
  rw [List.foldlM_cons, hmember]
  exact hfill.bind hrest

/-! ### Variants -/

/-- Members other than the tag are kept as they are. -/
theorem splitTag_of_ne {α : Type} {tag : String} (variants : List (String × α))
    (found : Option α) (members : List (String × Json)) (htag : ∀ m ∈ members, m.1 ≠ tag) :
    splitTag tag variants found members = .ok (found, members) := by
  induction members with
  | nil => rfl
  | cons m members ih =>
    obtain ⟨key, j⟩ := m
    obtain ⟨hkey, hrest⟩ := List.forall_mem_cons.mp htag
    simp only [splitTag, if_neg hkey, ih hrest]
    rfl

/-- The variant that an object tells by its first member, and its other members. -/
theorem asTagged_object {α : Type} {name tag kind : String} {variants : List (String × α)} {a : α}
    {members : List (String × Json)} (hkind : variants.lookup kind = some a)
    (htag : ∀ m ∈ members, m.1 ≠ tag) :
    asTagged name tag variants (.object ((tag, .string kind) :: members)) =
      .ok (a, .object members) := by
  have hvariant : asVariant variants (.string kind) = .ok a := by rw [asVariant, hkind]
  simp only [asTagged, splitTag, if_true, hvariant, Steps.ok_bind,
    splitTag_of_ne variants (some a) members htag]
  rfl

end SchemaQueries.Json
