import SchemaQueries.Json.Reading
import SchemaQueries.Proofs.Steps

/-!
# Where the values of a record come from

Each value of a record that is read, from an object or from an array, whole or draft, has been read
by the entry of its member, or is the one that the entry has for records without that member.

## Main definitions

* `Json.Entry.Gives`, `Json.Form.Gives` — the values that an entry and a form can lead to.

## Main results

* `Json.gives_of_asRecord`, `Json.gives_of_readRecord` — the values of a record that is read.
* `Json.forall_of_asList`, `Json.forall_of_readList` — the items of a list that is read.
-/

set_option autoImplicit false
set_option relaxedAutoImplicit false

namespace SchemaQueries.Json

open Steps (bind_eq_ok_iff foldlM_invariant map_eq_ok_iff mapError_eq_ok_iff)

variable {V E α : Type}

/-- The value has been read by the entry, or is one for records without the member. -/
def Entry.Gives (entry : Entry V E α) (a : α) : Prop :=
  (∃ v, entry.read v = .ok a) ∨ entry.absent = some a ∨ entry.cutOff = some a

namespace Form

/-- Each of the values is one that its entry can lead to. -/
def Gives : {types : List Type} → Form V E types → Values types → Prop
  | [], _, _ => True
  | _ :: _, (entry, rest), (a, values) => entry.Gives a ∧ Gives rest values

/-- Each of the values that have been met is one that its entry can lead to. -/
def Holds : {types : List Type} → Form V E types → Slots types → Prop
  | [], _, _ => True
  | _ :: _, (entry, rest), (found, slots) => (∀ a ∈ found, entry.Gives a) ∧ Holds rest slots

/-- Where no member has been met, nothing is to be shown. -/
theorem holds_empty : {types : List Type} → (form : Form V E types) → form.Holds (Slots.empty types)
  | [], _ => trivial
  | _ :: _, (_, rest) => ⟨fun _ ha => absurd ha (by simp), holds_empty rest⟩

/-- Filling a member in keeps the values ones that the entries can lead to. -/
theorem holds_of_place : {types : List Type} → (form : Form V E types) →
    {slots slots' : Slots types} → {name : String} → {fill : V → Except E (Slots types)} → {v : V} →
    form.place slots name = .free fill → fill v = .ok slots' → form.Holds slots → form.Holds slots'
  | [], _, _, _, _, _, _, hplace, _, _ => by rw [place] at hplace; cases hplace
  | _ :: _, (entry, rest), (found, slots), slots', name, fill, v, hplace, hfill, hholds => by
    rcases place_eq_free_iff.mp hplace with ⟨-, -, rfl⟩ | ⟨-, fillRest, hrest, rfl⟩
    · obtain ⟨a, ha, rfl⟩ := map_eq_ok_iff.mp hfill
      refine ⟨fun b hb => ?_, hholds.2⟩
      obtain rfl : a = b := by simpa using hb
      exact .inl ⟨v, ha⟩
    · obtain ⟨slotsRest, hslots, rfl⟩ := map_eq_ok_iff.mp hfill
      exact ⟨hholds.1, holds_of_place rest hrest hslots hholds.2⟩

/-- The values of a form that nothing more is filled into are ones that the entries can lead to. -/
theorem gives_of_finish : {types : List Type} → (form : Form V E types) → {slots : Slots types} →
    {values : Values types} → form.finish slots = .ok values → form.Holds slots → form.Gives values
  | [], _, _, _, _, _ => trivial
  | _ :: _, (entry, rest), (found, slots), values, hfinish, hholds => by
    unfold finish at hfinish
    split at hfinish
    · cases hfinish
    · next a hfound =>
      obtain ⟨valuesRest, hrest, rfl⟩ := map_eq_ok_iff.mp hfinish
      refine ⟨?_, gives_of_finish rest hrest hholds.2⟩
      rcases Option.or_eq_some_iff.mp hfound with hfound | ⟨-, habsent⟩
      · exact hholds.1 a hfound
      · exact .inr (.inl habsent)

/-- The values that come from the items of an array are ones that the entries can lead to. -/
theorem gives_of_ofItems {locate : Nat → E → E} {ending : Option E} {tooShort : Nat → E} :
    {types : List Type} → (form : Form V E types) → {i : Nat} → {items surplus : List V} →
    {values : Values types} →
    form.ofItems locate ending tooShort i items = .ok (values, surplus) → form.Gives values
  | [], _, _, _, _, _, _ => trivial
  | _ :: _, (entry, rest), i, v :: items, surplus, values, h => by
    obtain ⟨a, ha, h⟩ := bind_eq_ok_iff.mp h
    obtain ⟨⟨valuesRest, surplusRest⟩, hrest, h⟩ := bind_eq_ok_iff.mp h
    cases h
    exact ⟨.inl ⟨v, mapError_eq_ok_iff.mp ha⟩, gives_of_ofItems rest hrest⟩
  | _ :: _, (entry, rest), i, [], surplus, values, h => by
    unfold ofItems at h
    split at h
    · cases h
    · cases h
    · next a hcutOff =>
      obtain ⟨⟨valuesRest, surplusRest⟩, hrest, h⟩ := bind_eq_ok_iff.mp h
      cases h
      exact ⟨.inr (.inr hcutOff), gives_of_ofItems rest hrest⟩

end Form

/-! ### Records -/

/-- The values of a record that is read from a whole value are ones that its entries can lead
to.

**Proof sketch.** The slots hold only what their entries can lead to: this is so at the start, and every
member that is put in keeps it so. Finishing the form passes these values on. The values from an array
are read by the entries one by one. -/
theorem gives_of_asRecord {types : List Type} {title : Title} {form : Form Json Cause types}
    {j : Json} {values : Values types} (h : asRecord title form j = .ok values) :
    form.Gives values := by
  cases j with
  | object members =>
    obtain ⟨slots, hslots, hfinish⟩ := bind_eq_ok_iff.mp h
    refine form.gives_of_finish hfinish ?_
    refine foldlM_invariant (fun slots member slots' hholds hmember => ?_) form.holds_empty hslots
    unfold fillMember at hmember
    split at hmember
    · cases hmember
      exact hholds
    · cases hmember
    · next fill hplace => exact form.holds_of_place hplace hmember hholds
  | array items =>
    obtain ⟨⟨values', surplus⟩, hitems, h⟩ := bind_eq_ok_iff.mp h
    have hvalues := form.gives_of_ofItems hitems
    dsimp only at h
    split at h
    · cases h
      exact hvalues
    · cases h
  | null | bool | number | string => cases h

/-- Behind the last member nothing is taken. -/
theorem eq_of_readEnd {σ : Type} {intake : Intake σ} {s s' : σ} {ending : ObjectEnd}
    (h : readEnd intake s ending = .ok s') : s' = s := by
  unfold readEnd at h
  split at h
  · obtain ⟨_, -, h⟩ := bind_eq_ok_iff.mp h
    obtain ⟨_, -, h⟩ := bind_eq_ok_iff.mp h
    cases h
  · split at h
    · cases h
    · exact (Except.ok.inj h).symm

/-- What is kept by taking a member is kept by taking all members of an object. -/
theorem readMembers_invariant {σ : Type} {intake : Intake σ} {P : σ → Prop}
    (hstep : ∀ s key take d s', P s → intake s key = .ok take → take d = .ok s' → P s')
    {ending : ObjectEnd} {members : List (Except Fault String × Draft)} {s s' : σ} (hs : P s)
    (h : readMembers intake ending s members = .ok s') : P s' := by
  induction members generalizing s with
  | nil => exact eq_of_readEnd h ▸ hs
  | cons member members ih =>
    obtain ⟨key, d⟩ := member
    obtain ⟨key, -, h⟩ := bind_eq_ok_iff.mp h
    obtain ⟨take, htake, h⟩ := bind_eq_ok_iff.mp h
    obtain ⟨t, ht, h⟩ := bind_eq_ok_iff.mp h
    exact ih (hstep s key take d t hs htake (mapError_eq_ok_iff.mp ht)) h

/-- What stands inside an array or object is read with one level less. -/
theorem nested_eq_ok_iff {β : Type} {room : Nat} {inner : Nat → Except Failure β} {b : β} :
    nested room inner = .ok b ↔ ∃ r, room = r + 1 ∧ inner r = .ok b := by
  cases room with
  | zero => exact ⟨nofun, fun ⟨_, h, _⟩ => (nomatch h)⟩
  | succ room => simp [nested]

/-- What is read inside an array or object has been read with one level less. -/
theorem exists_of_nested {β : Type} {room : Nat} {inner : Nat → Except Failure β} {b : β}
    (h : nested room inner = .ok b) : ∃ room, inner room = .ok b := by
  cases room with
  | zero => cases h
  | succ room => exact ⟨room, h⟩

/-- The values of a record that is read from a draft are ones that its entries can lead to.

**Proof sketch.** As for values, with the invariant of the slots carried through the members of the
draft. A member that is passed over leaves the slots as they are. -/
theorem gives_of_readRecord {types : List Type} {title : Title} {strictness : Strictness}
    {form : Nat → Form Draft Failure types} {room : Nat} {d : Draft} {values : Values types}
    (h : readRecord title strictness form room d = .ok values) :
    ∃ room, (form room).Gives values := by
  cases d with
  | object members ending =>
    obtain ⟨room, h⟩ := exists_of_nested h
    obtain ⟨slots, hslots, hfinish⟩ := bind_eq_ok_iff.mp h
    refine ⟨room, (form room).gives_of_finish (mapError_eq_ok_iff.mp hfinish) ?_⟩
    refine readMembers_invariant (fun slots key take d slots' hholds hintake htake => ?_)
      (form room).holds_empty hslots
    rcases recordIntake_eq_ok_iff.mp hintake with hplace | ⟨-, -, rfl⟩
    · exact (form room).holds_of_place hplace htake hholds
    · obtain ⟨_, -, htake⟩ := bind_eq_ok_iff.mp htake
      cases htake
      exact hholds
  | array items ending =>
    obtain ⟨room, h⟩ := exists_of_nested h
    obtain ⟨⟨values', surplus⟩, hitems, h⟩ := bind_eq_ok_iff.mp h
    obtain ⟨_, -, h⟩ := bind_eq_ok_iff.mp h
    cases h
    exact ⟨room, (form room).gives_of_ofItems hitems⟩
  | null | bool | number | string | broken => cases h

/-! ### Simple values -/

/-- A value that is read where there might be none has been read as such. -/
theorem eq_ok_of_readOption {reader : Reader α} {room : Nat} {d : Draft} {a : α}
    (h : readOption reader room d = .ok (some a)) : reader room d = .ok a := by
  cases d with
  | null => cases h
  | bool | number | string | array | object | broken =>
    obtain ⟨b, hb, heq⟩ := map_eq_ok_iff.mp h
    obtain rfl := Option.some.inj heq
    exact hb

/-! ### Lists -/

/-- The items of a list that is read from a whole value have been read. -/
theorem forall_of_asList {read : Json → Except Cause α} {j : Json} {xs : List α}
    (h : asList read j = .ok xs) : ∀ x ∈ xs, ∃ j, read j = .ok x := by
  cases j with
  | array items =>
    intro x hx
    have hitems : items.mapM read = .ok xs := h
    obtain ⟨j, -, hj⟩ := Steps.exists_of_mem_of_mapM_eq_ok hitems hx
    exact ⟨j, hj⟩
  | null | bool | number | string | object => cases h

/-- Items that are read have been read one by one. -/
theorem forall_of_readItems {item : Draft → Except Failure α} {ending : ArrayEnd} {i : Nat}
    {drafts : List Draft} {xs : List α} (h : readItems item ending i drafts = .ok xs) :
    ∀ x ∈ xs, ∃ d, item d = .ok x := by
  induction drafts generalizing i xs with
  | nil =>
    obtain ⟨_, -, h⟩ := bind_eq_ok_iff.mp h
    cases h
    exact fun x hx => absurd hx List.not_mem_nil
  | cons d drafts ih =>
    obtain ⟨a, ha, h⟩ := bind_eq_ok_iff.mp h
    obtain ⟨rest, hrest, h⟩ := bind_eq_ok_iff.mp h
    cases h
    exact List.forall_mem_cons.mpr ⟨⟨d, mapError_eq_ok_iff.mp ha⟩, ih hrest⟩

/-- The items of a list that is read from a draft have been read. -/
theorem forall_of_readList {reader : Reader α} {room : Nat} {d : Draft} {xs : List α}
    (h : readList reader room d = .ok xs) : ∀ x ∈ xs, ∃ room d, reader room d = .ok x := by
  cases d with
  | array items ending =>
    obtain ⟨room, h⟩ := exists_of_nested h
    exact fun x hx => ⟨room, forall_of_readItems h x hx⟩
  | null | bool | number | string | object | broken => cases h

end SchemaQueries.Json
