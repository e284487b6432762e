import SchemaQueries.Proofs.Json.Origins

/-!
# Readers that pass over nothing

Whatever a reader makes of a value, it does not go through before the value ends: it has met every fault
up to there.

## Main definitions

* `Json.Thorough` — a reader that goes through only where the value has no fault.
* `Json.Form.Thorough` — so do the readers of all members.

## Main results

* `Json.thorough_readList`, `Json.thorough_readMap`, `Json.thorough_readRecord` — the readers are thorough if
  the readers of the parts are.
* `Json.readItems_eq_ok_iff` — a list is read exactly if its items are, and it is closed.
-/

set_option autoImplicit false
set_option relaxedAutoImplicit false

namespace SchemaQueries.Json

open Steps (bind_eq_ok_iff map_eq_ok_iff mapError_eq_ok_iff)

variable {α : Type} {room : Nat} {d : Draft}

/-- The reader goes through only where the value has no fault. -/
def Thorough (reader : Reader α) : Prop :=
  ∀ room d a, reader room d = .ok a → d.skipFault? = none

/-! ### Simple values -/

/-- A string without a fault can be passed over. -/
theorem thorough_readString : Thorough readString := by
  intro room d a h
  cases d with
  | string => rfl
  | null | bool | number | array | object | broken => cases h

/-- So can a number. -/
theorem thorough_readWord : Thorough readWord := by
  intro room d a h
  cases d with
  | number => rfl
  | null | bool | string | array | object | broken => cases h

/-- So can nothing, and a value. -/
theorem thorough_readOption {reader : Reader α} (h : Thorough reader) :
    Thorough (readOption reader) := by
  intro room d a hread
  cases d with
  | null => rfl
  | bool | number | string | array | object | broken =>
    obtain ⟨b, hb, -⟩ := map_eq_ok_iff.mp hread
    exact h room _ b hb

/-! ### Arrays -/

/-- An array without a fault is closed. -/
theorem ArrayEnd.eq_closed {ending : ArrayEnd} (h : ending.skipFault? = none) : ending = .closed := by
  cases ending with
  | closed => rfl
  | cut | endOfText | junk | commaClosed | commaEndOfText => cases h

/-- A reader goes on behind the last item exactly if the array is closed there. -/
theorem failAt_fault?_eq_ok_iff {ending : ArrayEnd} {u : Unit} :
    failAt ending.fault? = .ok u ↔ ending.skipFault? = none := by
  cases ending <;> simp [failAt, ArrayEnd.fault?, ArrayEnd.skipFault?]

/-- So it is for a reader who expects no further item. -/
theorem ArrayEnd.skipFault?_of_closeFault? {ending : ArrayEnd} (h : ending.closeFault? = none) :
    ending.skipFault? = none := by
  cases ending with
  | closed => rfl
  | cut | endOfText | junk | commaClosed | commaEndOfText => cases h

/-- What goes through has met no fault. -/
theorem eq_none_of_failAt {fault : Option Fault} {u : Unit} (h : failAt fault = .ok u) :
    fault = none := by
  cases fault with
  | none => rfl
  | some f => cases h

/-- Items have no fault exactly if none of them has. -/
theorem itemsSkipFault?_eq_none_iff {items : List Draft} :
    itemsSkipFault? items = none ↔ ∀ d ∈ items, d.skipFault? = none := by
  induction items with
  | nil => simp [itemsSkipFault?]
  | cons d items ih => rw [itemsSkipFault?, Option.or_eq_none_iff, ih, List.forall_mem_cons]

/-- Items are read exactly if each of them is, and the array is closed behind them. -/
theorem readItems_eq_ok_iff {item : Draft → Except Failure α} {ending : ArrayEnd} {i : Nat}
    {items : List Draft} {xs : List α} : readItems item ending i items = .ok xs ↔
      ending.skipFault? = none ∧ List.Forall₂ (fun d a => item d = .ok a) items xs := by
  induction items generalizing i xs with
  | nil =>
    rw [readItems, bind_eq_ok_iff, List.forall₂_nil_left_iff]
    simp only [failAt_fault?_eq_ok_iff]
    simp [pure, Except.pure, eq_comm]
  | cons first rest ih =>
    rw [readItems, List.forall₂_cons_left_iff]
    simp only [bind_eq_ok_iff, mapError_eq_ok_iff, ih]
    constructor
    · rintro ⟨a, ha, others, ⟨hending, hothers⟩, h⟩
      cases h
      exact ⟨hending, a, others, ha, hothers, rfl⟩
    · rintro ⟨hending, a, others, ha, hothers, rfl⟩
      exact ⟨a, ha, others, ⟨hending, hothers⟩, rfl⟩

/-- A list that is read has no fault. -/
theorem thorough_readList {reader : Reader α} (h : Thorough reader) : Thorough (readList reader) := by
  intro room d xs hread
  cases d with
  | array items ending =>
    obtain ⟨room, hread⟩ := exists_of_nested hread
    obtain ⟨hending, hitems⟩ := readItems_eq_ok_iff.mp hread
    rw [Draft.skipFault?, Option.or_eq_none_iff, itemsSkipFault?_eq_none_iff]
    have hfaults := hitems.imp fun d a ha => And.intro (h room d a ha) ha
    exact ⟨((List.forall₂_and_left items xs).mp hfaults).1, hending⟩
  | null | bool | number | string | object | broken => cases hread

/-! ### Objects -/

/-- Behind the last member, an object that is read is closed. -/
theorem ObjectEnd.skipFault?_of_readEnd {σ : Type} {intake : Intake σ} {s s' : σ}
    {ending : ObjectEnd} (h : readEnd intake s ending = .ok s') : ending.skipFault? = none := by
  cases ending with
  | closed => rfl
  | noColon =>
    obtain ⟨_, -, h⟩ := bind_eq_ok_iff.mp h
    obtain ⟨_, -, h⟩ := bind_eq_ok_iff.mp h
    cases h
  | cut | endOfText | junk | noKey | commaClosed | commaEndOfText | brokenKey => cases h

/-- A reader goes on behind the last member exactly if the object is closed there. -/
theorem readEnd_eq_ok_iff {σ : Type} {intake : Intake σ} {s s' : σ} {ending : ObjectEnd} :
    readEnd intake s ending = .ok s' ↔ ending.skipFault? = none ∧ s' = s := by
  constructor
  · intro h
    exact ⟨ObjectEnd.skipFault?_of_readEnd h, eq_of_readEnd h⟩
  · rintro ⟨h, rfl⟩
    cases ending with
    | closed => rfl
    | cut | endOfText | junk | noKey | commaClosed | commaEndOfText | brokenKey | noColon => cases h

/-- Members have no fault exactly if none of them has. -/
theorem membersSkipFault?_eq_none_iff {members : List (Except Fault String × Draft)} :
    membersSkipFault? members = none ↔ ∀ m ∈ members, m.2.skipFault? = none := by
  induction members with
  | nil => simp [membersSkipFault?]
  | cons m members ih =>
    obtain ⟨key, d⟩ := m
    rw [membersSkipFault?, Option.or_eq_none_iff, ih, List.forall_mem_cons]

/-- Members that are taken have no fault. -/
theorem skipFault?_of_readMembers {σ : Type} {intake : Intake σ} {ending : ObjectEnd}
    (hintake : ∀ s key take d s', intake s key = .ok take → take d = .ok s' → d.skipFault? = none)
    {members : List (Except Fault String × Draft)} {s s' : σ}
    (h : readMembers intake ending s members = .ok s') :
    (Draft.object members ending).skipFault? = none := by
  rw [Draft.skipFault?, Option.or_eq_none_iff]
  induction members generalizing s with
  | nil => exact ⟨rfl, ObjectEnd.skipFault?_of_readEnd h⟩
  | cons member members ih =>
    obtain ⟨key, d⟩ := member
    obtain ⟨key, -, h⟩ := bind_eq_ok_iff.mp h
    obtain ⟨take, htake, h⟩ := bind_eq_ok_iff.mp h
    obtain ⟨t, ht, h⟩ := bind_eq_ok_iff.mp h
    obtain ⟨hmembers, hending⟩ := ih h
    have hd := hintake s key take d t htake (mapError_eq_ok_iff.mp ht)
    exact ⟨by rw [membersSkipFault?, hd, hmembers]; rfl, hending⟩

/-- A map that is read has no fault. -/
theorem thorough_readMap {reader : Reader α} (h : Thorough reader) : Thorough (readMap reader) := by
  intro room d xs hread
  cases d with
  | object members ending =>
    obtain ⟨room, hread⟩ := exists_of_nested hread
    refine skipFault?_of_readMembers (fun s key take d s' hintake htake => ?_) hread
    cases hintake
    obtain ⟨a, ha, -⟩ := bind_eq_ok_iff.mp htake
    exact h room d a ha
  | null | bool | number | string | array | broken => cases hread

/-! ### Records -/

namespace Form

/-- Each entry reads only values without a fault. -/
def Thorough : {types : List Type} → Form Draft Failure types → Prop
  | [], _ => True
  | _ :: _, (entry, rest) => (∀ d a, entry.read d = .ok a → d.skipFault? = none) ∧ Thorough rest

/-- A form with one entry. -/
theorem thorough_single {form : Form Draft Failure [α]}
    (h : ∀ d a, form.1.read d = .ok a → d.skipFault? = none) : form.Thorough :=
  ⟨h, trivial⟩

/-- A value that is filled in has no fault. -/
theorem Thorough.of_place : {types : List Type} → {form : Form Draft Failure types} →
    {slots slots' : Slots types} → {name : String} → {fill : Draft → Except Failure (Slots types)} →
    form.Thorough → form.place slots name = .free fill → fill d = .ok slots' → d.skipFault? = none
  | [], _, _, _, _, _, _, hplace, _ => by rw [place] at hplace; cases hplace
  | _ :: _, (entry, rest), (found, slots), slots', name, fill, h, hplace, hfill => by
    rcases place_eq_free_iff.mp hplace with ⟨-, -, rfl⟩ | ⟨-, fillRest, hrest, rfl⟩
    · obtain ⟨a, ha, -⟩ := map_eq_ok_iff.mp hfill
      exact h.1 d a ha
    · obtain ⟨slotsRest, hslots, -⟩ := map_eq_ok_iff.mp hfill
      exact h.2.of_place hrest hslots

/-- Items that are taken have no fault. -/
theorem Thorough.of_ofItems {locate : Nat → Failure → Failure} {ending : Option Failure}
    {tooShort : Nat → Failure} : {types : List Type} → {form : Form Draft Failure types} → {i : Nat} →
    {items : List Draft} → {values : Values types} → form.Thorough →
    form.ofItems locate ending tooShort i items = .ok (values, []) → itemsSkipFault? items = none
  | [], _, _, _, _, _, h => by
    cases h
    rfl
  | _ :: _, (entry, rest), i, v :: items, values, hform, h => by
    obtain ⟨a, ha, h⟩ := bind_eq_ok_iff.mp h
    obtain ⟨⟨valuesRest, surplus⟩, hrest, h⟩ := bind_eq_ok_iff.mp h
    cases h
    have hfirst := hform.1 v a (mapError_eq_ok_iff.mp ha)
    rw [itemsSkipFault?, hfirst, hform.2.of_ofItems hrest]
    rfl
  | _ :: _, (entry, rest), i, [], values, hform, h => rfl

end Form

/-- A record that is read has no fault.

**Proof sketch.** Every member that is taken has been read by an entry of the form, which is thorough,
or has been passed over, for which it must have no fault. The same goes for the items, and the array or
object has to be closed. -/
theorem thorough_readRecord {types : List Type} {title : Title} {strictness : Strictness}
    {form : Nat → Form Draft Failure types} (h : ∀ room, (form room).Thorough) :
    Thorough (readRecord title strictness form) := by
  intro room d values hread
  cases d with
  | object members ending =>
    obtain ⟨room, hread⟩ := exists_of_nested hread
    obtain ⟨slots, hslots, -⟩ := bind_eq_ok_iff.mp hread
    refine skipFault?_of_readMembers (fun slots key take d slots' hintake htake => ?_) hslots
    rcases recordIntake_eq_ok_iff.mp hintake with hplace | ⟨-, -, rfl⟩
    · exact (h room).of_place hplace htake
    · obtain ⟨_, hskip, -⟩ := bind_eq_ok_iff.mp htake
      exact eq_none_of_failAt hskip
  | array items ending =>
    obtain ⟨room, hread⟩ := exists_of_nested hread
    obtain ⟨⟨values', surplus⟩, hitems, hread⟩ := bind_eq_ok_iff.mp hread
    obtain ⟨_, hend, -⟩ := bind_eq_ok_iff.mp hread
    have hfault := eq_none_of_failAt hend
    cases surplus with
    | cons => cases hfault
    | nil =>
      rw [Draft.skipFault?, (h room).of_ofItems hitems, ArrayEnd.skipFault?_of_closeFault? hfault]
      rfl
  | null | bool | number | string | broken => cases hread

/-! ### Variants -/

/-- A tag that is read has no fault. -/
theorem skipFault?_of_readVariant {variants : List (String × α)} {a : α}
    (h : readVariant variants d = .ok a) : d.skipFault? = none := by
  cases d with
  | string => rfl
  | null | bool | number | array | object | broken => cases h

end SchemaQueries.Json
