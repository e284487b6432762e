import Mathlib.Data.List.Forall2
import Mathlib.Data.List.Induction
import SchemaQueries.Proofs.Json.Thorough

/-!
# What decides on a record

A record is read from an object exactly if what stands under each of its names is right: one value that
is read, or none where the record does without. The order of the members does not matter, nor what
stands under other names.

## Main definitions

* `Json.valuesOf` — the values that an object has under a name.
* `Json.Form.Filled`, `Json.Form.Listed` — the values of a form are those of the members of an object, or
  of the items of an array.

## Main results

* `Json.asRecord_object_eq_ok_iff`, `Json.asRecord_array_eq_ok_iff` — when a record is read from a value.
* `Json.readRecord_object_eq_ok_iff`, `Json.readRecord_array_eq_ok_iff` — when a record is read from a
  draft.
-/

set_option autoImplicit false
set_option relaxedAutoImplicit false

namespace SchemaQueries.Json

open Steps (bind_eq_ok_iff map_eq_ok_iff mapError_eq_ok_iff)

variable {V E α : Type}

section Values

variable {K : Type} [DecidableEq K]

/-- The values that an object has under a name. -/
def valuesOf (name : K) (members : List (K × V)) : List V :=
  members.filterMap fun m => if m.1 = name then some m.2 else none

/-- The value of a first member with this name. -/
theorem valuesOf_cons_self (name : K) (v : V) (members : List (K × V)) :
    valuesOf name ((name, v) :: members) = v :: valuesOf name members := by
  simp [valuesOf]

/-- A first member with another name. -/
theorem valuesOf_cons_of_ne {name other : K} (h : other ≠ name) (v : V) (members : List (K × V)) :
    valuesOf name ((other, v) :: members) = valuesOf name members := by
  simp [valuesOf, h]

/-- A member with another name has nothing under this one. -/
theorem valuesOf_concat_of_ne {name other : K} (h : other ≠ name) (members : List (K × V)) (v : V) :
    valuesOf name (members ++ [(other, v)]) = valuesOf name members := by
  simp [valuesOf, h]

/-- A value under a name is that of a member. -/
theorem mem_valuesOf {name : K} {members : List (K × V)} {v : V} :
    v ∈ valuesOf name members ↔ (name, v) ∈ members := by
  simp only [valuesOf, List.mem_filterMap, Option.ite_none_right_eq_some, Option.some.injEq]
  constructor
  · rintro ⟨⟨_, _⟩, hmem, rfl, rfl⟩
    exact hmem
  · exact fun hmem => ⟨_, hmem, rfl, rfl⟩

/-- Members with other names have nothing under this one. -/
theorem valuesOf_eq_nil_iff {name : K} {members : List (K × V)} :
    valuesOf name members = [] ↔ ∀ m ∈ members, m.1 ≠ name := by
  simp [valuesOf]

end Values

/-! ### Forms that are filled -/

namespace Entry

/-- The values under the name of the entry are none, or one that has been read. -/
def Meets (entry : Entry V E α) (vs : List V) (found : Option α) : Prop :=
  (vs = [] ∧ found = none) ∨ ∃ v a, vs = [v] ∧ entry.read v = .ok a ∧ found = some a

/-- The values under the name of the entry are none, where there need not be any, or one that is read. -/
def Takes (entry : Entry V E α) (vs : List V) (a : α) : Prop :=
  (vs = [] ∧ entry.absent = some a) ∨ ∃ v, vs = [v] ∧ entry.read v = .ok a

/-- What an entry takes is what it has met, or what it does with where it has met nothing. -/
theorem takes_iff {entry : Entry V E α} {vs : List V} {a : α} :
    entry.Takes vs a ↔ ∃ found, entry.Meets vs found ∧ found.or entry.absent = some a := by
  constructor
  · rintro (⟨hvs, ha⟩ | ⟨v, hvs, hv⟩)
    · exact ⟨none, .inl ⟨hvs, rfl⟩, ha⟩
    · exact ⟨some a, .inr ⟨v, a, hvs, hv, rfl⟩, rfl⟩
  · rintro ⟨_, ⟨hvs, rfl⟩ | ⟨v, b, hvs, hv, rfl⟩, ha⟩
    · exact .inl ⟨hvs, ha⟩
    · obtain rfl := Option.some.inj ha
      exact .inr ⟨v, hvs, hv⟩

end Entry

namespace Form

variable {types : List Type} {members : List (String × V)} {name : String} {v : V}

/-- The slots are those of the members so far. -/
def Collected : {types : List Type} → Form V E types → List (String × V) → Slots types → Prop
  | [], _, _, _ => True
  | _ :: _, (entry, rest), members, (found, slots) =>
    entry.Meets (valuesOf entry.name members) found ∧ Collected rest members slots

/-- The values are those of the members of an object. -/
def Filled : {types : List Type} → Form V E types → List (String × V) → Values types → Prop
  | [], _, _, _ => True
  | _ :: _, (entry, rest), members, (a, values) =>
    entry.Takes (valuesOf entry.name members) a ∧ Filled rest members values

/-- The values are those of the items of an array, which has nothing else. -/
def Listed : {types : List Type} → Form V E types → List V → Values types → Prop
  | [], _, items, _ => items = []
  | _ :: _, (entry, rest), [], (a, values) => entry.cutOff = some a ∧ Listed rest [] values
  | _ :: _, (entry, rest), v :: items, (a, values) => entry.read v = .ok a ∧ Listed rest items values

/-- The member changes the slots in this way, or it is one that the form does not know. -/
def Puts (form : Form V E types) (slots : Slots types) (name : String) (v : V)
    (slots' : Slots types) : Prop :=
  (form.place slots name = .unknown ∧ slots' = slots) ∨
    ∃ fill, form.place slots name = .free fill ∧ fill v = .ok slots'

/-- A member with the name of the first entry fills it, once. -/
theorem puts_of_eq {entry : Entry V E α} {rest : Form V E types} {found found' : Option α}
    {slots slots' : Slots types} (h : entry.name = name) :
    @Puts V E (α :: types) (entry, rest) (found, slots) name v (found', slots') ↔
      found = none ∧ (∃ a, entry.read v = .ok a ∧ found' = some a) ∧ slots' = slots := by
  unfold Puts place
  rw [if_pos h]
  cases found with
  | some a => simp
  | none =>
    simp only [reduceCtorEq, false_and, Place.free.injEq, exists_eq_left', false_or, true_and,
      map_eq_ok_iff, Prod.mk.injEq]
    constructor
    · rintro ⟨a, ha, rfl, rfl⟩
      exact ⟨⟨a, ha, rfl⟩, rfl⟩
    · rintro ⟨⟨a, ha, rfl⟩, rfl⟩
      exact ⟨a, ha, rfl, rfl⟩

/-- A member with another name goes to a later entry. -/
theorem puts_of_ne {entry : Entry V E α} {rest : Form V E types} {found found' : Option α}
    {slots slots' : Slots types} (h : entry.name ≠ name) :
    @Puts V E (α :: types) (entry, rest) (found, slots) name v (found', slots') ↔
      found' = found ∧ rest.Puts slots name v slots' := by
  unfold Puts
  simp only [place, if_neg h]
  cases rest.place slots name with
  | unknown => simp
  | taken => simp
  | free fill =>
    simp only [reduceCtorEq, false_and, Place.free.injEq, exists_eq_left', false_or,
      map_eq_ok_iff, Prod.mk.injEq]
    constructor
    · rintro ⟨next, hnext, rfl, rfl⟩
      exact ⟨rfl, hnext⟩
    · rintro ⟨rfl, hnext⟩
      exact ⟨slots', hnext, rfl, rfl⟩

/-- A form has a place for the names of its entries, and for no others. -/
theorem place_eq_unknown_iff : {types : List Type} → (form : Form V E types) →
    {slots : Slots types} → (form.place slots name = .unknown ↔ name ∉ form.names)
  | [], _, _ => by simp [place, names]
  | _ :: _, (entry, rest), (found, slots) => by
    have hrest : rest.place slots name = .unknown ↔ name ∉ rest.names := place_eq_unknown_iff rest
    unfold place
    rw [names, List.mem_cons, not_or, ← hrest]
    split
    · next hname => cases found <;> simp [hname]
    · next hname =>
      cases rest.place slots name <;> simp [Ne.symm hname]

/-- Before any member, all slots are empty. -/
theorem collected_nil_iff : {types : List Type} → {form : Form V E types} → {slots : Slots types} →
    (form.Collected [] slots ↔ slots = Slots.empty types)
  | [], _, _ => ⟨fun _ => rfl, fun _ => trivial⟩
  | _ :: _, (entry, rest), (found, slots) => by
    rw [Collected, collected_nil_iff, Slots.empty, Prod.mk.injEq]
    simp [Entry.Meets, valuesOf]

/-- A member that the form does not know makes no difference. -/
theorem collected_concat_of_notMem : {types : List Type} → {form : Form V E types} →
    {slots : Slots types} → name ∉ form.names →
    (form.Collected (members ++ [(name, v)]) slots ↔ form.Collected members slots)
  | [], _, _, _ => Iff.rfl
  | _ :: _, (entry, rest), (found, slots), h => by
    rw [Collected, Collected, valuesOf_concat_of_ne (List.ne_of_not_mem_cons h),
      collected_concat_of_notMem (List.not_mem_of_not_mem_cons h)]

/-- The slots after one more member.

**Proof sketch.** By the entries. The name of the member is that of one entry at most. That entry has met
nothing before, since it meets one value at most. -/
theorem collected_concat_iff : {types : List Type} → {form : Form V E types} →
    {slots' : Slots types} → form.names.Nodup →
    (form.Collected (members ++ [(name, v)]) slots' ↔
      ∃ slots, form.Collected members slots ∧ form.Puts slots name v slots')
  | [], _, _, _ => ⟨fun _ => ⟨(), trivial, .inl ⟨rfl, rfl⟩⟩, fun _ => trivial⟩
  | _ :: _, (entry, rest), (found', slots'), hnames => by
    obtain ⟨hfresh, hnames⟩ := List.nodup_cons.mp hnames
    by_cases hname : entry.name = name
    · have hvalues : valuesOf entry.name (members ++ [(name, v)]) =
          valuesOf entry.name members ++ [v] := by simp [valuesOf, hname]
      rw [Collected, hvalues, collected_concat_of_notMem (hname ▸ hfresh)]
      constructor
      · rintro ⟨⟨hnil, -⟩ | ⟨w, a, hsingle, ha, rfl⟩, hrest⟩
        · exact absurd hnil (by simp)
        · obtain ⟨hnone, hw⟩ := List.append_eq_singleton_iff.mp hsingle |>.resolve_right (by simp)
          obtain rfl : v = w := List.singleton_inj.mp hw
          exact ⟨(none, slots'), ⟨.inl ⟨hnone, rfl⟩, hrest⟩,
            (puts_of_eq hname).mpr ⟨rfl, ⟨a, ha, rfl⟩, rfl⟩⟩
      · rintro ⟨⟨found, slots⟩, ⟨hmeets, hrest⟩, hputs⟩
        obtain ⟨rfl, ⟨a, ha, rfl⟩, rfl⟩ := (puts_of_eq hname).mp hputs
        rcases hmeets with ⟨hnone, -⟩ | ⟨_, _, -, -, h⟩
        · exact ⟨.inr ⟨v, a, by rw [hnone, List.nil_append], ha, rfl⟩, hrest⟩
        · cases h
    · rw [Collected, valuesOf_concat_of_ne (Ne.symm hname), collected_concat_iff hnames]
      constructor
      · rintro ⟨hmeets, slots, hrest, hputs⟩
        exact ⟨(found', slots), ⟨hmeets, hrest⟩, (puts_of_ne hname).mpr ⟨rfl, hputs⟩⟩
      · rintro ⟨⟨found, slots⟩, ⟨hmeets, hrest⟩, hputs⟩
        obtain ⟨rfl, hlater⟩ := (puts_of_ne hname).mp hputs
        exact ⟨hmeets, slots, hrest, hlater⟩

/-- The values are those of the slots when there are no more members. -/
theorem filled_iff : {types : List Type} → {form : Form V E types} → {values : Values types} →
    (form.Filled members values ↔
      ∃ slots, form.Collected members slots ∧ form.finish slots = .ok values)
  | [], _, _ => ⟨fun _ => ⟨(), trivial, rfl⟩, fun _ => trivial⟩
  | _ :: _, (entry, rest), (a, values) => by
    rw [Filled, Entry.takes_iff, filled_iff]
    constructor
    · rintro ⟨⟨found, hmeets, hfound⟩, slots, hrest, hfinish⟩
      refine ⟨(found, slots), ⟨hmeets, hrest⟩, ?_⟩
      rw [finish, hfound]
      exact map_eq_ok_iff.mpr ⟨values, hfinish, rfl⟩
    · rintro ⟨⟨found, slots⟩, ⟨hmeets, hrest⟩, hfinish⟩
      unfold finish at hfinish
      split at hfinish
      · cases hfinish
      · next b hfound =>
        obtain ⟨values', hvalues, h⟩ := map_eq_ok_iff.mp hfinish
        cases h
        exact ⟨⟨found, hmeets, hfound⟩, slots, hrest, hvalues⟩

/-- The values from the items of an array without a fault, and none left over.

**Proof sketch.** Recursion on the form and the items together. An item that is there is read as the
entry reads it, and an item that is missing gives what the entry stands in for it, if anything. No item
is left over in either case. -/
theorem ofItems_eq_ok_iff {locate : Nat → E → E} {tooShort : Nat → E} : {types : List Type} →
    {form : Form V E types} → {i : Nat} → {items : List V} → {values : Values types} →
    (form.ofItems locate none tooShort i items = .ok (values, []) ↔ form.Listed items values)
  | [], _, _, items, _ => by simp [ofItems, Listed]
  | _ :: _, (entry, rest), i, [], (a, values) => by
    cases hcutOff : entry.cutOff with
    | none => simp [ofItems, Listed, hcutOff]
    | some b =>
      simp only [ofItems, Listed, hcutOff, bind_eq_ok_iff, Prod.exists]
      constructor
      · rintro ⟨values', surplus, hrest, h⟩
        cases h
        exact ⟨rfl, ofItems_eq_ok_iff.mp hrest⟩
      · rintro ⟨hb, hrest⟩
        obtain rfl := Option.some.inj hb
        exact ⟨values, [], ofItems_eq_ok_iff.mpr hrest, rfl⟩
  | _ :: _, (entry, rest), i, v :: items, (a, values) => by
    rw [ofItems, Listed]
    simp only [bind_eq_ok_iff, mapError_eq_ok_iff, Prod.exists]
    constructor
    · rintro ⟨b, hb, values', surplus, hrest, h⟩
      cases h
      exact ⟨hb, ofItems_eq_ok_iff.mp hrest⟩
    · rintro ⟨ha, hrest⟩
      exact ⟨a, ha, values, [], ofItems_eq_ok_iff.mpr hrest, rfl⟩

/-- Members that are put in one after the other are collected, where each of them is put in under the
same condition on its name.

**Proof sketch.** Induction on the members from the back. The members in front have been collected, and
putting in the last one makes a collection of all of them (`collected_concat_iff`). -/
theorem foldlM_eq_ok_iff {form : Form V E types} (hnames : form.names.Nodup) (P : String → Prop)
    {step : Slots types → String × V → Except E (Slots types)} {members : List (String × V)}
    (hstep : ∀ m ∈ members, ∀ slots slots',
      step slots m = .ok slots' ↔ P m.1 ∧ form.Puts slots m.1 m.2 slots') {slots : Slots types} :
    members.foldlM step (Slots.empty types) = .ok slots ↔
      (∀ m ∈ members, P m.1) ∧ form.Collected members slots := by
  induction members using List.reverseRecOn generalizing slots with
  | nil =>
    rw [collected_nil_iff]
    simp [pure, Except.pure, eq_comm]
  | append_singleton members m ih =>
    obtain ⟨hstep, hlast⟩ := List.forall_mem_append.mp hstep
    rw [List.forall_mem_singleton] at hlast
    rw [List.foldlM_append, bind_eq_ok_iff, List.forall_mem_append, List.forall_mem_singleton,
      collected_concat_iff hnames]
    simp only [ih hstep, List.foldlM_cons, List.foldlM_nil, bind_pure, hlast]
    constructor
    · rintro ⟨before, ⟨hall, hbefore⟩, hm, hputs⟩
      exact ⟨⟨hall, hm⟩, before, hbefore, hputs⟩
    · rintro ⟨⟨hall, hm⟩, before, hbefore, hputs⟩
      exact ⟨before, ⟨hall, hbefore⟩, hm, hputs⟩

end Form

/-! ### Records of whole values -/

variable {types : List Type} {title : Title}

/-- A record is read from an object exactly if its members fill the form. -/
theorem asRecord_object_eq_ok_iff {form : Form Json Cause types} (hnames : form.names.Nodup)
    {members : List (String × Json)} {values : Values types} :
    asRecord title form (.object members) = .ok values ↔ form.Filled members values := by
  have hfold {slots : Slots types} :
      members.foldlM (fillMember form) (Slots.empty types) = .ok slots ↔ form.Collected members slots := by
    have hstep : ∀ m ∈ members, ∀ slots slots', fillMember form slots m = .ok slots' ↔
        True ∧ form.Puts slots m.1 m.2 slots' := fun m _ slots slots' => by
      rw [true_and, fillMember, Form.Puts]
      cases form.place slots m.1 <;> simp [eq_comm]
    rw [Form.foldlM_eq_ok_iff hnames (fun _ => True) hstep]
    exact and_iff_right fun _ _ => trivial
  rw [asRecord, ofMembers, bind_eq_ok_iff, Form.filled_iff]
  simp only [hfold]

/-- A record is read from an array exactly if its items are those of the form. -/
theorem asRecord_array_eq_ok_iff {form : Form Json Cause types} {items : List Json}
    {values : Values types} :
    asRecord title form (.array items) = .ok values ↔ form.Listed items values := by
  rw [asRecord, ofElements, bind_eq_ok_iff, ← Form.ofItems_eq_ok_iff]
  constructor
  · rintro ⟨⟨values', surplus⟩, hitems, h⟩
    cases surplus with
    | nil =>
      cases h
      exact hitems
    | cons => cases h
  · exact fun hitems => ⟨(values, []), hitems, rfl⟩

/-! ### Records of drafts -/

/-- Takes a member: first the key and then the value. -/
def takeMember {σ : Type} (intake : Intake σ) (s : σ) (member : String × Draft) : Except Failure σ := do
  (← intake s member.1) member.2

/-- Members with keys that can be read. -/
def keyed (members : List (String × Draft)) : List (Except Fault String × Draft) :=
  members.map fun m => (.ok m.1, m.2)

/-- An object is read exactly if it is closed, all of its keys can be read, and its members are taken one
after the other.

**Proof sketch.** Induction on the members. At the end it matters whether the object is closed. A key
that cannot be read ends the reading, and with any other one the member is taken and the rest is read,
which is what the fold does. -/
theorem readMembers_eq_ok_iff {σ : Type} {intake : Intake σ} {s s' : σ} {ending : ObjectEnd}
    {members : List (Except Fault String × Draft)} :
    readMembers intake ending s members = .ok s' ↔ ending.skipFault? = none ∧
      ∃ ms, members = keyed ms ∧ ms.foldlM (takeMember intake) s = .ok s' := by
  induction members generalizing s with
  | nil =>
    rw [readMembers, readEnd_eq_ok_iff]
    refine and_congr_right fun _ => ⟨?_, ?_⟩
    · rintro rfl
      exact ⟨[], rfl, rfl⟩
    · rintro ⟨ms, hms, hfold⟩
      obtain rfl : ms = [] := List.map_eq_nil_iff.mp hms.symm
      exact (Except.ok.inj hfold).symm
  | cons member members ih =>
    obtain ⟨key, d⟩ := member
    cases key with
    | error f =>
      rw [readMembers, readKey]
      refine iff_of_false (by intro h; cases h) ?_
      rintro ⟨-, ms, hms, -⟩
      cases ms with
      | nil => cases hms
      | cons m ms => cases hms
    | ok key =>
      rw [readMembers, readKey, Steps.ok_bind]
      simp only [bind_eq_ok_iff, mapError_eq_ok_iff, ih]
      constructor
      · rintro ⟨take, htake, next, hnext, hending, ms, rfl, hms⟩
        refine ⟨hending, (key, d) :: ms, rfl, ?_⟩
        rw [List.foldlM_cons, bind_eq_ok_iff]
        exact ⟨next, bind_eq_ok_iff.mpr ⟨take, htake, hnext⟩, hms⟩
      · rintro ⟨hending, ms, hms, hfold⟩
        cases ms with
        | nil => cases hms
        | cons m ms =>
          cases hms
          rw [List.foldlM_cons, bind_eq_ok_iff] at hfold
          obtain ⟨next, hnext, hfold⟩ := hfold
          obtain ⟨take, htake, hnext⟩ := bind_eq_ok_iff.mp hnext
          exact ⟨take, htake, next, hnext, hending, ms, rfl, hfold⟩

/-- A member without a fault is taken exactly if it is put in. A strict record knows its name. -/
theorem takeMember_recordIntake_eq_ok_iff {strictness : Strictness} {form : Form Draft Failure types}
    {slots slots' : Slots types} {m : String × Draft} (hfault : m.2.skipFault? = none) :
    takeMember (recordIntake strictness form) slots m = .ok slots' ↔
      (strictness = .strict → m.1 ∈ form.names) ∧ form.Puts slots m.1 m.2 slots' := by
  have hunknown : form.place slots m.1 = .unknown ↔ m.1 ∉ form.names := form.place_eq_unknown_iff
  unfold takeMember recordIntake Form.Puts
  cases hplace : form.place slots m.1 with
  | unknown =>
    have hname := hunknown.mp hplace
    cases strictness with
    | strict => simp [hname, bind, Except.bind]
    | lenient => simp [hfault, failAt, bind, Except.bind, pure, Except.pure, eq_comm]
  | taken => cases strictness <;> simp [bind, Except.bind]
  | free fill =>
    have hname : m.1 ∈ form.names := by
      by_contra hname
      rw [hunknown.mpr hname] at hplace
      cases hplace
    cases strictness <;> simp [hname, bind, Except.bind]

/-- A record is read from an object without a fault exactly if there is room for it, all of its keys can
be read, and its members fill the form. A strict record knows all of their names.

**Proof sketch.** No member has a fault, so taking one means to put its value into the slots, or to pass
over it if its name is unknown and the record is lenient. Hence the fold collects all members
(`Form.foldlM_eq_ok_iff`), and a form is filled exactly if it is finished from a collection. -/
theorem readRecord_object_eq_ok_iff {strictness : Strictness} {form : Nat → Form Draft Failure types}
    (hnames : ∀ room, (form room).names.Nodup) {room : Nat}
    {members : List (Except Fault String × Draft)} {ending : ObjectEnd} {values : Values types}
    (hfault : (Draft.object members ending).skipFault? = none) :
    readRecord title strictness form room (.object members ending) = .ok values ↔
      ∃ r, room = r + 1 ∧ ∃ ms, members = keyed ms ∧
        (∀ m ∈ ms, strictness = .strict → m.1 ∈ (form r).names) ∧ (form r).Filled ms values := by
  rw [Draft.skipFault?, Option.or_eq_none_iff] at hfault
  obtain ⟨hmembers, hending⟩ := hfault
  rw [readRecord, nested_eq_ok_iff]
  refine exists_congr fun r => and_congr_right fun _ => ?_
  simp only [bind_eq_ok_iff, mapError_eq_ok_iff, readMembers_eq_ok_iff, hending, true_and]
  have hfold {ms : List (String × Draft)} (hms : members = keyed ms) {slots : Slots types} :
      ms.foldlM (takeMember (recordIntake strictness (form r))) (Slots.empty types) = .ok slots ↔
        (∀ m ∈ ms, strictness = .strict → m.1 ∈ (form r).names) ∧ (form r).Collected ms slots := by
    refine Form.foldlM_eq_ok_iff (hnames r) (fun name => strictness = .strict → name ∈ (form r).names)
      fun m hm slots slots' => ?_
    have hfault : m.2.skipFault? = none :=
      membersSkipFault?_eq_none_iff.mp hmembers (.ok m.1, m.2) (hms ▸ List.mem_map.mpr ⟨m, hm, rfl⟩)
    exact takeMember_recordIntake_eq_ok_iff hfault
  constructor
  · rintro ⟨slots, ⟨ms, hms, hslots⟩, hfinish⟩
    obtain ⟨hstrict, hcollected⟩ := (hfold hms).mp hslots
    exact ⟨ms, hms, hstrict, Form.filled_iff.mpr ⟨slots, hcollected, hfinish⟩⟩
  · rintro ⟨ms, hms, hstrict, hfilled⟩
    obtain ⟨slots, hcollected, hfinish⟩ := Form.filled_iff.mp hfilled
    exact ⟨slots, ⟨ms, hms, (hfold hms).mpr ⟨hstrict, hcollected⟩⟩, hfinish⟩

/-- A record is read from an array without a fault exactly if there is room for it, and its items are
those of the form. -/
theorem readRecord_array_eq_ok_iff {strictness : Strictness} {form : Nat → Form Draft Failure types}
    {room : Nat} {items : List Draft} {ending : ArrayEnd} {values : Values types}
    (hfault : (Draft.array items ending).skipFault? = none) :
    readRecord title strictness form room (.array items ending) = .ok values ↔
      ∃ r, room = r + 1 ∧ (form r).Listed items values := by
  rw [Draft.skipFault?, Option.or_eq_none_iff] at hfault
  obtain rfl := ArrayEnd.eq_closed hfault.2
  rw [readRecord, nested_eq_ok_iff]
  refine exists_congr fun r => and_congr_right fun _ => ?_
  rw [readElements, bind_eq_ok_iff, ← Form.ofItems_eq_ok_iff]
  constructor
  · rintro ⟨⟨values', surplus⟩, hitems, h⟩
    cases surplus with
    | nil =>
      cases h
      exact hitems
    | cons => cases h
  · exact fun hitems => ⟨(values, []), hitems, rfl⟩

end SchemaQueries.Json
