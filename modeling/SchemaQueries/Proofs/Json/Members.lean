import SchemaQueries.Proofs.Json.Counterparts
import SchemaQueries.Proofs.Json.Readers

/-!
# Reading the members of an object

A record that is read from an object has read every member that it knows, wherever the member stands
and whatever stands beside it. So what an object has under a name decides what is read for it.

## Main definitions

* `Json.Has` — what an object has under a name.
* `Json.Form.Reads` — the values of a form are those of the members.

## Main results

* `Json.reads_of_asRecord`, `Json.reads_of_readRecord` — the values of a record that is read from an
  object.
* `Json.eq_of_asTagged`, `Json.eq_of_readTagged` — the variant that an object tells.

## Implementation notes

An object may have several members of one name. A record is not read from it then, unless it does not
know the name.
-/

set_option autoImplicit false
set_option relaxedAutoImplicit false

namespace SchemaQueries.Json

variable {V E α : Type}

/-- The value is an object that has the second value under the name. -/
def Has (j : Json) (name : String) (v : Json) : Prop :=
  ∃ members, j = .object members ∧ (name, v) ∈ members

/-! ### Forms -/

namespace Form

/-- Each of the values is the one of every member of its name. -/
def Reads : {types : List Type} → Form V E types → List (String × V) → Values types → Prop
  | [], _, _, _ => True
  | _ :: _, (entry, rest), members, (a, values) =>
    (∀ v, (entry.name, v) ∈ members → entry.read v = .ok a) ∧ Reads rest members values

/-- A form with a single member has no name twice. -/
theorem nodup_names_single (form : Form V E [α]) : form.names.Nodup :=
  List.pairwise_singleton _ _

/-- The values that the members of an object fill in are those of the members. -/
theorem Filled.reads : {types : List Type} → {form : Form V E types} → {members : List (String × V)} →
    {values : Values types} → form.Filled members values → form.Reads members values
  | [], _, _, _, _ => trivial
  | _ :: _, (entry, rest), members, (a, values), hfilled => by
    obtain ⟨htakes, hrest⟩ := hfilled
    refine ⟨fun v hv => ?_, hrest.reads⟩
    rw [← mem_valuesOf] at hv
    rcases htakes with ⟨hnone, -⟩ | ⟨w, hsingle, hw⟩
    · rw [hnone] at hv
      cases hv
    · rw [hsingle] at hv
      rw [List.mem_singleton.mp hv]
      exact hw

end Form

/-! ### Whole values -/

/-- The values of a record that is read from an object are those of the members. -/
theorem reads_of_asRecord {types : List Type} {title : Title} {form : Form Json Cause types}
    {members : List (String × Json)} {values : Values types} (hnames : form.names.Nodup)
    (h : asRecord title form (.object members) = .ok values) : form.Reads members values :=
  ((asRecord_object_eq_ok_iff hnames).mp h).reads

/-- The variant of an object is the one of its tag, and its content are the other members. -/
theorem eq_of_asTagged {name tag : String} {variants : List (String × α)}
    {members : List (String × Json)} {kind : String} {content : Json} {a : α}
    (h : asTagged name tag variants (.object members) = .ok (a, content))
    (htag : (tag, .string kind) ∈ members) :
    variants.lookup kind = some a ∧ content = .object (members.filter (·.1 ≠ tag)) := by
  obtain ⟨hcontent, v, hv, ha⟩ := asTagged_object_eq_ok_iff.mp h
  rw [← mem_valuesOf, hv, List.mem_singleton] at htag
  rw [← htag] at ha
  exact ⟨asVariant_string_eq_ok_iff.mp ha, hcontent⟩

/-! ### Drafts -/

/-- The draft of a value has no fault, and it says the value. -/
theorem Draft.tree_ofJson (j : Json) :
    (Draft.ofJson j).skipFault? = none ∧ (Draft.ofJson j).tree = j.tree := by
  obtain ⟨hfault, htree, -⟩ := readWhole_eq_ok_iff.mp (readWhole_ofJson j (Nat.le_refl _))
  exact ⟨hfault, htree.symm⟩

/-- The members of the draft of an object. -/
theorem Draft.ofMembers_eq_keyed (members : List (String × Json)) :
    Draft.ofMembers members = keyed (members.map fun m => (m.1, Draft.ofJson m.2)) := by
  induction members with
  | nil => rfl
  | cons m members ih =>
    obtain ⟨key, j⟩ := m
    rw [Draft.ofMembers, ih]
    rfl

/-- Members with keys that can be read are told by their drafts. -/
theorem keyed_injective {ms ms' : List (String × Draft)} (h : keyed ms = keyed ms') : ms = ms' := by
  refine List.map_injective_iff.mpr (fun m m' hm => ?_) h
  obtain ⟨hkey, hd⟩ := Prod.mk.inj hm
  exact Prod.ext (Except.ok.inj hkey) hd

/-- The values of a record that is read from an object are those of the members. -/
theorem reads_of_readRecord {types : List Type} {title : Title} {strictness : Strictness}
    {form : Nat → Form Draft Failure types} {room : Nat} {members : List (String × Json)}
    {values : Values types} (hnames : ∀ room, (form room).names.Nodup)
    (h : readRecord title strictness form room (Draft.ofJson (.object members)) = .ok values) :
    ∃ room, (form room).Reads (members.map fun m => (m.1, Draft.ofJson m.2)) values := by
  have hfault := (Draft.tree_ofJson (.object members)).1
  rw [Draft.ofJson] at h hfault
  obtain ⟨r, -, ms, hms, -, hfilled⟩ := (readRecord_object_eq_ok_iff hnames hfault).mp h
  rw [Draft.ofMembers_eq_keyed] at hms
  rw [keyed_injective hms]
  exact ⟨r, hfilled.reads⟩

/-- The variant of an object is the one of its tag, and its content are the other members. -/
theorem eq_of_readTagged {name tag : String} {variants : List (String × α)} {room : Nat}
    {members : List (String × Json)} {kind : String} {content : Json} {a : α}
    (h : readTagged name tag variants room (Draft.ofJson (.object members)) = .ok (a, content))
    (htag : (tag, .string kind) ∈ members) :
    variants.lookup kind = some a ∧ content = .object (members.filter (·.1 ≠ tag)) := by
  obtain ⟨-, j, htree, -, -, hj⟩ := readTagged_eq_ok_iff.mp h
  obtain rfl : j = .object members := eq_of_tree_eq (htree.trans (Draft.tree_ofJson _).2)
  exact eq_of_asTagged hj htag

end SchemaQueries.Json
