import SchemaQueries.Proofs.Json.Filling
import SchemaQueries.Proofs.Json.Trees

/-!
# Records of counterparts

If each value that a record is made of has a counterpart that is read in the same way, then so is the
record. Where a value stands among the members of its object makes no difference, nor do members that
the record does not know. A variant adds the value that tells it, which may stand anywhere as well.

## Main definitions

* `Json.Carried`, `Json.Placed` — the values under the names of a record have counterparts, or those of the
  items of an array.
* `Json.Counterpart`, `Json.Draft.Counterpart` — the same for whole values and for drafts.
* `Json.Form.Follows` — a form reads counterparts as another form reads the values.
* `Json.Tree.tag?`, `Json.Tree.variant?` — the value that tells the variant of a tree, and the variant.

## Main results

* `Json.asRecord_of_follows`, `Json.readRecord_of_follows` — records are read in the same way.
* `Json.asTagged_of_counterpart` — and so are variants.
* `Json.readTagged_eq_ok_iff` — a variant is read from a draft as it is from the value that the draft says.
-/

set_option autoImplicit false
set_option relaxedAutoImplicit false

namespace SchemaQueries.Json

open Steps (bind_eq_ok_iff map_eq_ok_iff mapError_eq_ok_iff)

variable {V E α ι : Type} {R : ι → V → V → Prop} {rows : List (String × ι)} {types : List Type}
  {title : Title}

/-! ### Counterparts -/

/-- Under each of the names that has one value at most, the second object has the counterpart of that
value, or nothing if there is none. -/
def Carried (R : ι → V → V → Prop) (rows : List (String × ι)) (ms ms' : List (String × V)) : Prop :=
  ∀ name i, (name, i) ∈ rows → (valuesOf name ms).length ≤ 1 →
    List.Forall₂ (R i) (valuesOf name ms) (valuesOf name ms')

/-- Each item has its counterpart in the same place of the second array, which has nothing else. -/
def Placed (R : ι → V → V → Prop) : List (String × ι) → List V → List V → Prop
  | _, [], items' => items' = []
  | [], _ :: _, items' => items' ≠ []
  | (_, i) :: rows, v :: items, items' =>
    ∃ v' rest, items' = v' :: rest ∧ R i v v' ∧ Placed R rows items rest

/-- The second value has the counterparts of what a record reads from the first one. -/
def Counterpart (R : ι → Json → Json → Prop) (rows : List (String × ι)) : Json → Json → Prop
  | .object ms, j' => ∃ ms', j' = .object ms' ∧ Carried R rows ms ms'
  | .array items, j' => ∃ items', j' = .array items' ∧ Placed R rows items items'
  | j, j' => j' = j

/-- The second entry is for the same member as the first one, and reads the counterpart of a value as the
first one reads the value. -/
structure Entry.Follows (R : V → V → Prop) (entry entry' : Entry V E α) : Prop where
  name_eq : entry'.name = entry.name
  absent_eq : entry'.absent = entry.absent
  cutOff_eq : entry'.cutOff = entry.cutOff
  read_eq_ok : ∀ {v v' a}, R v v' → entry.read v = .ok a → entry'.read v' = .ok a

/-- Each entry of the second form follows that of the first one. -/
def Form.Follows (R : ι → V → V → Prop) : {types : List Type} → List (String × ι) → Form V E types →
    Form V E types → Prop
  | [], rows, _, _ => rows = []
  | _ :: _, [], _, _ => False
  | _ :: _, (name, i) :: rows, (entry, rest), (entry', rest') =>
    entry.name = name ∧ Entry.Follows (R i) entry entry' ∧ Follows R rows rest rest'

namespace Form.Follows

/-- The names of both forms are the ones that are listed. -/
theorem names_eq : {types : List Type} → {rows : List (String × ι)} → {form form' : Form V E types} →
    Form.Follows R rows form form' →
    form.names = rows.map Prod.fst ∧ form'.names = rows.map Prod.fst
  | [], _, _, _, h => by
    obtain rfl : _ = [] := h
    exact ⟨rfl, rfl⟩
  | _ :: _, (name, i) :: rows, (entry, rest), (entry', rest'), h => by
    obtain ⟨hname, hentry, hrest⟩ := h
    obtain ⟨hnames, hnames'⟩ := names_eq hrest
    exact ⟨by rw [names, hname, hnames]; rfl, by rw [names, hentry.name_eq, hname, hnames']; rfl⟩

/-- Members with counterparts fill the form in the same way. -/
theorem filled : {types : List Type} → {rows : List (String × ι)} → {form form' : Form V E types} →
    {ms ms' : List (String × V)} → {values : Values types} → Form.Follows R rows form form' →
    Carried R rows ms ms' → form.Filled ms values → form'.Filled ms' values
  | [], _, _, _, _, _, _, _, _, _ => trivial
  | _ :: _, (name, i) :: rows, (entry, rest), (entry', rest'), ms, ms', (a, values), h, hms, hfilled => by
    obtain ⟨hname, hentry, hrest⟩ := h
    obtain ⟨htakes, hfilled⟩ := hfilled
    refine ⟨?_, filled hrest (fun name i hi => hms name i (List.mem_cons_of_mem _ hi)) hfilled⟩
    have hvalues := hms name i List.mem_cons_self
    rw [hentry.name_eq, hname]
    rw [hname] at htakes
    rcases htakes with ⟨hnone, habsent⟩ | ⟨v, hsingle, hv⟩
    · rw [hnone] at hvalues
      exact .inl ⟨List.forall₂_nil_left_iff.mp (hvalues (Nat.zero_le _)), hentry.absent_eq.trans habsent⟩
    · rw [hsingle] at hvalues
      obtain ⟨v', rest, hv', hnone, heq⟩ := List.forall₂_cons_left_iff.mp (hvalues (Nat.le_refl _))
      rw [List.forall₂_nil_left_iff.mp hnone] at heq
      exact .inr ⟨v', heq, hentry.read_eq_ok hv' hv⟩

/-- Items with counterparts are those of the form in the same way.

**Proof sketch.** Recursion on the form. At an item that is there both forms read counterparts to the
same value. Once the items have come to an end, only what a missing item stands for matters, and there
the forms agree. -/
theorem listed : {types : List Type} → {rows : List (String × ι)} → {form form' : Form V E types} →
    {items items' : List V} → {values : Values types} → Form.Follows R rows form form' →
    Placed R rows items items' → form.Listed items values → form'.Listed items' values
  | [], rows, _, _, items, items', _, h, hitems, hlisted => by
    obtain rfl : rows = [] := h
    obtain rfl : items = [] := hlisted
    exact hitems
  | _ :: _, (name, i) :: rows, (entry, rest), (entry', rest'), [], items', (a, values), h, hitems,
      hlisted => by
    obtain ⟨-, hentry, hrest⟩ := h
    obtain ⟨hcutOff, hlisted⟩ := hlisted
    obtain rfl : items' = [] := hitems
    have hnone : Placed R rows [] [] := by
      unfold Placed
      rfl
    exact ⟨hentry.cutOff_eq.trans hcutOff, listed hrest hnone hlisted⟩
  | _ :: _, (name, i) :: rows, (entry, rest), (entry', rest'), v :: items, items', (a, values), h, hitems,
      hlisted => by
    obtain ⟨-, hentry, hrest⟩ := h
    obtain ⟨hv, hlisted⟩ := hlisted
    obtain ⟨v', rest, rfl, hv', hplaced⟩ := hitems
    exact ⟨hentry.read_eq_ok hv' hv, listed hrest hplaced hlisted⟩

end Form.Follows

/-! ### Records -/

/-- A record is read in the same way from a counterpart. -/
theorem asRecord_of_follows {R : ι → Json → Json → Prop} {form form' : Form Json Cause types}
    {j j' : Json} {values : Values types} (hform : Form.Follows R rows form form')
    (hnames : (rows.map Prod.fst).Nodup) (hj : Counterpart R rows j j')
    (h : asRecord title form j = .ok values) : asRecord title form' j' = .ok values := by
  obtain ⟨hform₁, hform₂⟩ := hform.names_eq
  cases j with
  | object ms =>
    obtain ⟨ms', rfl, hms⟩ := hj
    rw [asRecord_object_eq_ok_iff (hform₁ ▸ hnames)] at h
    rw [asRecord_object_eq_ok_iff (hform₂ ▸ hnames)]
    exact hform.filled hms h
  | array items =>
    obtain ⟨items', rfl, hitems⟩ := hj
    rw [asRecord_array_eq_ok_iff] at h ⊢
    exact hform.listed hitems h
  | null | bool | number | string => cases h

/-! ### Variants of whole values -/

/-- Any other member is left as it stands. -/
theorem splitTag_cons_of_ne_iff {tag key : String} {variants : List (String × α)} {found found' : Option α}
    {j : Json} {js others : List (String × Json)} (hkey : key ≠ tag) :
    splitTag tag variants found ((key, j) :: js) = .ok (found', others) ↔
      ∃ rest, splitTag tag variants found js = .ok (found', rest) ∧ others = (key, j) :: rest := by
  rw [splitTag.eq_def]
  simp only [if_neg hkey]
  rw [bind_eq_ok_iff]
  constructor
  · rintro ⟨⟨found₁, rest⟩, hrest, h⟩
    cases h
    exact ⟨rest, hrest, rfl⟩
  · rintro ⟨rest, hrest, rfl⟩
    exact ⟨_, hrest, rfl⟩

/-- The variant of an object is the one that its single tag tells, and the other members are left.

**Proof sketch.** Induction on the members. A first tag tells the variant, and then none may follow, so
it is the single one among the values of the tag. Any other member stays where it is and leaves these
values as they are. -/
theorem splitTag_eq_ok_iff {tag : String} {variants : List (String × α)} {found found' : Option α}
    {ms others : List (String × Json)} :
    splitTag tag variants found ms = .ok (found', others) ↔ others = ms.filter (·.1 ≠ tag) ∧
      (match found with
        | some _ => valuesOf tag ms = [] ∧ found' = found
        | none => (Entry.required tag (asVariant variants)).Meets (valuesOf tag ms) found') := by
  induction ms generalizing found others with
  | nil => cases found <;> simp [splitTag, valuesOf, Entry.Meets, and_comm, eq_comm]
  | cons m ms ih =>
    obtain ⟨key, v⟩ := m
    by_cases hkey : key = tag
    · subst hkey
      have hvalues := valuesOf_cons_self key v ms
      cases found with
      | some a => simp [splitTag, hvalues]
      | none =>
        rw [splitTag, if_pos rfl]
        simp only [bind_eq_ok_iff, ih, hvalues, Entry.Meets, Entry.required]
        constructor
        · rintro ⟨a, ha, hothers, hnone, rfl⟩
          exact ⟨by simpa using hothers, .inr ⟨v, a, by rw [hnone], ha, rfl⟩⟩
        · rintro ⟨hothers, ⟨hnil, -⟩ | ⟨w, a, hsingle, ha, rfl⟩⟩
          · cases hnil
          · obtain ⟨rfl, hnone⟩ := List.cons.inj hsingle
            exact ⟨a, ha, by simpa using hothers, hnone, rfl⟩
    · have hvalues := valuesOf_cons_of_ne hkey v ms
      simp only [splitTag_cons_of_ne_iff hkey, ih, hvalues]
      constructor
      · rintro ⟨_, ⟨rfl, hfound⟩, rfl⟩
        exact ⟨by simp [hkey], hfound⟩
      · rintro ⟨rfl, hfound⟩
        exact ⟨_, ⟨rfl, hfound⟩, by simp [hkey]⟩

/-- An object tells its variant exactly if it has a single tag, and the tag tells it. -/
theorem asTagged_object_eq_ok_iff {name tag : String} {variants : List (String × α)}
    {ms : List (String × Json)} {a : α} {content : Json} :
    asTagged name tag variants (.object ms) = .ok (a, content) ↔
      content = .object (ms.filter (·.1 ≠ tag)) ∧
        ∃ v, valuesOf tag ms = [v] ∧ asVariant variants v = .ok a := by
  rw [asTagged, bind_eq_ok_iff]
  simp only [Prod.exists, splitTag_eq_ok_iff, Entry.Meets, Entry.required]
  constructor
  · rintro ⟨found, others, ⟨rfl, ⟨-, rfl⟩ | ⟨v, b, hv, hb, rfl⟩⟩, h⟩
    · cases h
    · cases h
      exact ⟨rfl, v, hv, hb⟩
  · rintro ⟨rfl, v, hv, ha⟩
    exact ⟨some a, _, ⟨rfl, .inr ⟨v, a, hv, ha, rfl⟩⟩, rfl⟩

/-- An array tells its variant by its first item. -/
theorem asTagged_array_eq_ok_iff {name tag : String} {variants : List (String × α)} {items : List Json}
    {a : α} {content : Json} :
    asTagged name tag variants (.array items) = .ok (a, content) ↔
      ∃ v rest, items = v :: rest ∧ asVariant variants v = .ok a ∧ content = .array rest := by
  cases items with
  | nil => simp [asTagged]
  | cons v rest =>
    rw [asTagged, bind_eq_ok_iff]
    constructor
    · rintro ⟨b, hb, h⟩
      cases h
      exact ⟨v, rest, rfl, hb, rfl⟩
    · rintro ⟨_, _, h, hb, rfl⟩
      cases h
      exact ⟨a, hb, rfl⟩

/-- The value that tells the variant of a tree: the one under the tag, or the first item. -/
def Tree.tag? (tag : String) : Tree → Option Tree
  | .object members => (members.find? fun m => m.1 = some tag).map Prod.snd
  | .array (first :: _) => some first
  | _ => none

/-- The variant that a tree tells, by its name or by its place among the variants. -/
def Tree.variant? (tag : String) (variants : List (String × α)) (x : Tree) : Option α :=
  match x.tag? tag with
  | some (.string (some s)) => variants.lookup s
  | some (.number (some (.natural i))) => variants[i]?.map Prod.snd
  | _ => none

/-- The value that tells the variant of an object is the first one under the tag. -/
theorem tag?_object (tag : String) (ms : List (String × Json)) :
    (Json.object ms).tree.tag? tag = (valuesOf tag ms).head?.map tree := by
  induction ms with
  | nil => rfl
  | cons m ms ih =>
    obtain ⟨key, j⟩ := m
    by_cases hkey : key = tag
    · obtain rfl := hkey
      simp [tree, treesOfMembers, Tree.tag?, valuesOf_cons_self]
    · rw [valuesOf_cons_of_ne hkey, ← ih]
      simp [tree, treesOfMembers, Tree.tag?, hkey]

/-- The tree of a value tells the variant that the value does.

**Proof sketch.** The tag of an object is the one value that it has under this name, and that of an
array is its first item. A value that is read as a variant is a string that the variants list, and the
tree of such a value says the same string. -/
theorem variant?_of_asTagged {name tag : String} {variants : List (String × α)} {j content : Json}
    {a : α} (h : asTagged name tag variants j = .ok (a, content)) :
    j.tree.variant? tag variants = some a := by
  have hvariant {v : Json} (htag : j.tree.tag? tag = some v.tree) (hv : asVariant variants v = .ok a) :
      j.tree.variant? tag variants = some a := by
    unfold Tree.variant?
    rw [htag]
    unfold asVariant at hv
    split at hv
    · split at hv <;> simp_all [tree]
    · split at hv <;> simp_all [tree]
    · cases hv
  cases j with
  | object ms =>
    obtain ⟨-, v, hv, ha⟩ := asTagged_object_eq_ok_iff.mp h
    exact hvariant (by rw [tag?_object, hv]; rfl) ha
  | array items =>
    obtain ⟨v, rest, rfl, ha, -⟩ := asTagged_array_eq_ok_iff.mp h
    exact hvariant rfl ha
  | null | bool | number | string => cases h

/-- What stands under a name other than the tag is left with the other members. -/
theorem valuesOf_filter {tag name : String} (h : name ≠ tag) (ms : List (String × V)) :
    valuesOf name (ms.filter (·.1 ≠ tag)) = valuesOf name ms := by
  induction ms with
  | nil => rfl
  | cons m ms ih =>
    by_cases hm : m.1 = tag
    · simp_all [valuesOf, Ne.symm h]
    · simp_all [valuesOf, List.filterMap_cons]

/-- A counterpart tells the same variant, by the counterpart of the value that tells it, and what it holds
besides is the counterpart of what the value holds besides.

**Proof sketch.** Of an object the values under the tag correspond one to one, so there is again exactly
one of them, and it tells the same variant. Leaving it out does not touch the values under other names.
Of an array the first items correspond, and so do the items behind them. -/
theorem asTagged_of_counterpart {R : ι → Json → Json → Prop} {name tag : String} {i : ι}
    {variants : List (String × α)} {j j' content : Json} {a : α}
    (htag : ∀ {v v' : Json}, R i v v' → asVariant variants v = .ok a → asVariant variants v' = .ok a)
    (hnames : tag ∉ rows.map Prod.fst) (hj : Counterpart R ((tag, i) :: rows) j j')
    (h : asTagged name tag variants j = .ok (a, content)) :
    (∃ v v', R i v v' ∧ j.tree.tag? tag = some v.tree ∧ j'.tree.tag? tag = some v'.tree) ∧
      ∃ content', asTagged name tag variants j' = .ok (a, content') ∧
        Counterpart R rows content content' := by
  cases j with
  | object ms =>
    obtain ⟨ms', rfl, hms⟩ := hj
    obtain ⟨rfl, v, hv, ha⟩ := asTagged_object_eq_ok_iff.mp h
    have hvalues := hms tag i List.mem_cons_self
    rw [hv] at hvalues
    obtain ⟨v', rest, hv', hnone, heq⟩ := List.forall₂_cons_left_iff.mp (hvalues (Nat.le_refl _))
    rw [List.forall₂_nil_left_iff.mp hnone] at heq
    refine ⟨⟨v, v', hv', by rw [tag?_object, hv]; rfl, by rw [tag?_object, heq]; rfl⟩,
      _, asTagged_object_eq_ok_iff.mpr ⟨rfl, v', heq, htag hv' ha⟩, _, rfl, fun key k hk => ?_⟩
    have hne : key ≠ tag := fun heq => hnames (List.mem_map.mpr ⟨(key, k), hk, heq⟩)
    rw [valuesOf_filter hne, valuesOf_filter hne]
    exact hms key k (List.mem_cons_of_mem _ hk)
  | array items =>
    obtain ⟨items', rfl, hitems⟩ := hj
    obtain ⟨v, rest, rfl, ha, rfl⟩ := asTagged_array_eq_ok_iff.mp h
    obtain ⟨v', rest', rfl, hv', hrest⟩ := hitems
    exact ⟨⟨v, v', hv', rfl, rfl⟩, _,
      asTagged_array_eq_ok_iff.mpr ⟨v', rest', rfl, htag hv' ha, rfl⟩, _, rfl, hrest⟩
  | null | bool | number | string => cases h

/-! ### Drafts -/

/-- The second draft has the counterparts of what a record reads from the first one. A strict record
finds no other names in it. -/
def Draft.Counterpart (R : ι → Draft → Draft → Prop) (rows : List (String × ι)) (strictness : Strictness)
    (d d' : Draft) : Prop :=
  match d with
  | .object members _ => ∀ ms, members = keyed ms → ∃ ms' ending, d' = .object (keyed ms') ending ∧
      Carried R rows ms ms' ∧ (strictness = .strict → ∀ m ∈ ms', ∃ v, (m.1, v) ∈ ms)
  | .array items _ => ∃ items' ending, d' = .array items' ending ∧ Placed R rows items items'
  | _ => True

/-- A record is read in the same way from a counterpart without a fault.

**Proof sketch.** A record is read from an object exactly if its members fill the form, and from an
array exactly if its items do (`readRecord_object_eq_ok_iff`, `readRecord_array_eq_ok_iff`). Both carry
over to counterparts (`Form.Follows.filled`, `Form.Follows.listed`). -/
theorem readRecord_of_follows {R : ι → Draft → Draft → Prop} {strictness : Strictness}
    {form : Nat → Form Draft Failure types} {room : Nat} {d d' : Draft} {values : Values types}
    (hform : ∀ r, room = r + 1 → Form.Follows R rows (form r) (form r))
    (hnames : ∀ r, (form r).names.Nodup) (hd : Draft.Counterpart R rows strictness d d')
    (hfault : d.skipFault? = none) (hfault' : d'.skipFault? = none)
    (h : readRecord title strictness form room d = .ok values) :
    readRecord title strictness form room d' = .ok values := by
  cases d with
  | object members ending =>
    obtain ⟨r, hr, ms, rfl, hstrict, hfilled⟩ := (readRecord_object_eq_ok_iff hnames hfault).mp h
    obtain ⟨ms', ending', rfl, hms, hsame⟩ := hd ms rfl
    refine (readRecord_object_eq_ok_iff hnames hfault').mpr
      ⟨r, hr, ms', rfl, fun m hm hs => ?_, (hform r hr).filled hms hfilled⟩
    obtain ⟨v, hv⟩ := hsame hs m hm
    exact hstrict (m.1, v) hv hs
  | array items ending =>
    obtain ⟨r, hr, hlisted⟩ := (readRecord_array_eq_ok_iff hfault).mp h
    obtain ⟨items', ending', rfl, hitems⟩ := hd
    exact (readRecord_array_eq_ok_iff hfault').mpr ⟨r, hr, (hform r hr).listed hitems hlisted⟩
  | null | bool | number | string | broken => cases h

/-! ### Variants of drafts -/

/-- A variant is read from a string with its name. -/
theorem readVariant_eq_ok_iff {variants : List (String × α)} {d : Draft} {a : α} :
    readVariant variants d = .ok a ↔ ∃ s, d.tree = .string (some s) ∧ variants.lookup s = some a := by
  cases d with
  | string s =>
    cases s with
    | error f => simp [readVariant, Draft.tree, Except.toOption]
    | ok s =>
      rw [readVariant, Draft.tree]
      cases hlookup : variants.lookup s <;> simp [Except.toOption, hlookup]
  | null | bool | number | array | object | broken => simp [readVariant, Draft.tree]

/-- A variant is told by a string with its name. -/
theorem asVariant_string_eq_ok_iff {variants : List (String × α)} {s : String} {a : α} :
    asVariant variants (.string s) = .ok a ↔ variants.lookup s = some a := by
  rw [asVariant]
  cases variants.lookup s <;> simp

/-- The members of an object with variants are those of a value that nests few enough arrays and objects,
and tells its variant by strings. The value is split into the variant and the other members. -/
def SplitsAs (tag : String) (variants : List (String × α)) (room : Nat) (found : Option α)
    (ms : List (String × Draft)) (found' : Option α) (others : List (String × Json)) : Prop :=
  (∀ m ∈ ms, m.2.skipFault? = none) ∧ ∃ js,
    treesOfMembers js = ms.map (fun m => (some m.1, m.2.tree)) ∧ depthOfMembers js ≤ room ∧
    (∀ v, (tag, v) ∈ js → ∃ s, v = .string s) ∧ splitTag tag variants found js = .ok (found', others)

section Splits

variable {tag key : String} {variants : List (String × α)} {room : Nat} {d : Draft}
  {ms : List (String × Draft)} {found found' : Option α} {others : List (String × Json)}

/-- There is no member left. -/
theorem splitsAs_nil_iff :
    SplitsAs tag variants room found [] found' others ↔ found' = found ∧ others = [] := by
  constructor
  · rintro ⟨-, js, hjs, -, -, hsplit⟩
    cases js with
    | nil =>
      cases hsplit
      exact ⟨rfl, rfl⟩
    | cons => cases hjs
  · rintro ⟨rfl, rfl⟩
    exact ⟨List.forall_mem_nil _, [], rfl, Nat.zero_le _, by simp, rfl⟩

/-- What the members say starts with the value of the first one. -/
theorem exists_cons_of_treesOfMembers {js : List (String × Json)}
    (h : treesOfMembers js = ((key, d) :: ms).map fun m => (some m.1, m.2.tree)) :
    ∃ j rest, js = (key, j) :: rest ∧ j.tree = d.tree ∧
      treesOfMembers rest = ms.map fun m => (some m.1, m.2.tree) := by
  cases js with
  | nil => cases h
  | cons m js =>
    obtain ⟨key', j⟩ := m
    obtain ⟨hmember, hrest⟩ := List.cons.inj h
    obtain ⟨hname, htree⟩ := Prod.mk.inj hmember
    obtain rfl := Option.some.inj hname
    exact ⟨j, js, rfl, htree, hrest⟩

/-- The first tag is read as a variant.

**Proof sketch.** The value of a tag is a string, so as a draft and as a value it tells the same
variant. Being a string it has no fault and nests nothing, so both sides ask the same of the other
members. -/
theorem splitsAs_cons_tag_iff :
    SplitsAs tag variants room none ((tag, d) :: ms) found' others ↔
      ∃ a, readVariant variants d = .ok a ∧ SplitsAs tag variants room (some a) ms found' others := by
  constructor
  · rintro ⟨hfaults, js, hjs, hdepth, htags, hsplit⟩
    obtain ⟨j, rest, rfl, htree, hrest⟩ := exists_cons_of_treesOfMembers hjs
    obtain ⟨s, rfl⟩ := htags j List.mem_cons_self
    rw [splitTag, if_pos rfl] at hsplit
    obtain ⟨a, ha, hsplit⟩ := bind_eq_ok_iff.mp hsplit
    refine ⟨a, readVariant_eq_ok_iff.mpr ⟨s, htree.symm, asVariant_string_eq_ok_iff.mp ha⟩,
      (List.forall_mem_cons.mp hfaults).2, rest, hrest, (Nat.max_le.mp hdepth).2, ?_, hsplit⟩
    exact fun v hv => htags v (List.mem_cons_of_mem _ hv)
  · rintro ⟨a, ha, hfaults, js, hjs, hdepth, htags, hsplit⟩
    obtain ⟨s, hs, hlookup⟩ := readVariant_eq_ok_iff.mp ha
    refine ⟨List.forall_mem_cons.mpr ⟨skipFault?_of_readVariant ha, hfaults⟩, (tag, .string s) :: js, ?_,
      Nat.max_le.mpr ⟨Nat.zero_le _, hdepth⟩, fun v hv => ?_, ?_⟩
    · rw [treesOfMembers, hjs, List.map_cons, hs]
      rfl
    · rcases List.mem_cons.mp hv with hv | hv
      · exact ⟨s, congrArg Prod.snd hv⟩
      · exact htags v hv
    · rw [splitTag, if_pos rfl]
      exact bind_eq_ok_iff.mpr ⟨a, asVariant_string_eq_ok_iff.mpr hlookup, hsplit⟩

/-- A second tag is refused. -/
theorem not_splitsAs_cons_tag {a : α} :
    ¬ SplitsAs tag variants room (some a) ((tag, d) :: ms) found' others := by
  rintro ⟨-, js, hjs, -, -, hsplit⟩
  obtain ⟨j, rest, rfl, -, -⟩ := exists_cons_of_treesOfMembers hjs
  rw [splitTag, if_pos rfl] at hsplit
  cases hsplit

/-- Any other member is read as it stands.

**Proof sketch.** Such a member is among those that are left. Reading its draft as it stands means that
there is no fault in it and that it says a value that is not nested too deep (`readWhole_eq_ok_iff`),
which is what is asked of it. -/
theorem splitsAs_cons_of_ne_iff (hkey : key ≠ tag) :
    SplitsAs tag variants room found ((key, d) :: ms) found' others ↔
      ∃ j rest, readWhole room d = .ok j ∧ SplitsAs tag variants room found ms found' rest ∧
        others = (key, j) :: rest := by
  constructor
  · rintro ⟨hfaults, js, hjs, hdepth, htags, h⟩
    obtain ⟨j, rest, rfl, htree, hrest⟩ := exists_cons_of_treesOfMembers hjs
    obtain ⟨others', hothers, rfl⟩ := (splitTag_cons_of_ne_iff hkey).mp h
    obtain ⟨hfault, hfaults⟩ := List.forall_mem_cons.mp hfaults
    obtain ⟨hdepth, hdepths⟩ := Nat.max_le.mp hdepth
    exact ⟨j, others', readWhole_eq_ok_iff.mpr ⟨hfault, htree, hdepth⟩, ⟨hfaults, rest, hrest, hdepths,
      fun v hv => htags v (List.mem_cons_of_mem _ hv), hothers⟩, rfl⟩
  · rintro ⟨j, rest, hj, ⟨hfaults, js, hjs, hdepths, htags, h⟩, rfl⟩
    obtain ⟨hfault, htree, hdepth⟩ := readWhole_eq_ok_iff.mp hj
    refine ⟨List.forall_mem_cons.mpr ⟨hfault, hfaults⟩, (key, j) :: js, ?_,
      Nat.max_le.mpr ⟨hdepth, hdepths⟩, fun v hv => ?_, (splitTag_cons_of_ne_iff hkey).mpr ⟨rest, h, rfl⟩⟩
    · rw [treesOfMembers, hjs, List.map_cons, htree]
    · rcases List.mem_cons.mp hv with hv | hv
      · exact absurd (congrArg Prod.fst hv).symm hkey
      · exact htags v hv

/-- The first tag is taken as the variant that it tells. -/
theorem takeMember_tag_none {before : List (String × Json)} :
    takeMember (tagIntake tag variants room) (none, before) (tag, d) =
      (readVariant variants d >>= fun a => pure (some a, before)) := by
  simp only [takeMember, tagIntake, if_true]
  rfl

/-- No tag is taken after it. -/
theorem takeMember_tag_some {a : α} {before : List (String × Json)} :
    takeMember (tagIntake tag variants room) (some a, before) (tag, d) =
      .error (.here (.duplicateField tag)) := by
  simp only [takeMember, tagIntake, if_true]
  rfl

/-- A member with another name is kept behind those before it. -/
theorem takeMember_of_ne_tag {before : List (String × Json)} (hkey : key ≠ tag) :
    takeMember (tagIntake tag variants room) (found, before) (key, d) =
      (readWhole room d >>= fun j => pure (found, before ++ [(key, j)])) := by
  simp only [takeMember, tagIntake, if_neg hkey]
  rfl

/-- The members of an object with variants are taken exactly if they are those of a value that is split in
the same way.

**Proof sketch.** Induction on the members. A tag is read as a variant, and every other member as it
stands. -/
theorem foldlM_tagIntake_eq_ok_iff {before after : List (String × Json)} :
    ms.foldlM (takeMember (tagIntake tag variants room)) (found, before) = .ok (found', after) ↔
      ∃ others, SplitsAs tag variants room found ms found' others ∧ after = before ++ others := by
  induction ms generalizing found before with
  | nil =>
    simp only [splitsAs_nil_iff, List.foldlM_nil]
    constructor
    · intro h
      cases h
      exact ⟨[], ⟨rfl, rfl⟩, (List.append_nil _).symm⟩
    · rintro ⟨_, ⟨rfl, rfl⟩, rfl⟩
      rw [List.append_nil]
      rfl
  | cons m ms ih =>
    obtain ⟨key, d⟩ := m
    rw [List.foldlM_cons, bind_eq_ok_iff]
    by_cases hkey : key = tag
    · subst hkey
      cases found with
      | some a => simp [takeMember_tag_some, not_splitsAs_cons_tag]
      | none =>
        simp only [takeMember_tag_none, bind_eq_ok_iff, splitsAs_cons_tag_iff]
        constructor
        · rintro ⟨_, ⟨a, ha, h⟩, hrest⟩
          cases h
          obtain ⟨others, hothers, rfl⟩ := ih.mp hrest
          exact ⟨others, ⟨a, ha, hothers⟩, rfl⟩
        · rintro ⟨others, ⟨a, ha, hothers⟩, rfl⟩
          exact ⟨_, ⟨a, ha, rfl⟩, ih.mpr ⟨others, hothers, rfl⟩⟩
    · simp only [takeMember_of_ne_tag hkey, bind_eq_ok_iff, splitsAs_cons_of_ne_iff hkey]
      constructor
      · rintro ⟨_, ⟨j, hj, h⟩, hrest⟩
        cases h
        obtain ⟨others, hothers, rfl⟩ := ih.mp hrest
        exact ⟨(key, j) :: others, ⟨j, others, hj, hothers, rfl⟩, by simp⟩
      · rintro ⟨_, ⟨j, others, hj, hothers, rfl⟩, rfl⟩
        exact ⟨_, ⟨j, hj, rfl⟩, ih.mpr ⟨others, hothers, by simp⟩⟩

end Splits

/-- An object tells its variant by a string. -/
theorem splitTag_string_iff {name tag : String} {variants : List (String × α)} {a : α}
    {js others : List (String × Json)} :
    (∀ v, (tag, v) ∈ js → ∃ s, v = .string s) ∧
        splitTag tag variants none js = .ok (some a, others) ↔
      (∃ s, (Json.object js).tree.tag? tag = some (.string (some s))) ∧
        asTagged name tag variants (.object js) = .ok (a, .object others) := by
  have hstring {v : Json} (hv : valuesOf tag js = [v]) : (∀ w, (tag, w) ∈ js → ∃ s, w = .string s) ↔
      ∃ s, (Json.object js).tree.tag? tag = some (.string (some s)) := by
    simp only [← mem_valuesOf, tag?_object, hv, List.mem_singleton, forall_eq, List.head?_cons,
      Option.map_some, Option.some.injEq]
    cases v <;> simp [tree]
  rw [splitTag_eq_ok_iff, asTagged_object_eq_ok_iff]
  simp only [Entry.Meets, Entry.required, reduceCtorEq, and_false, false_or, Json.object.injEq]
  constructor
  · rintro ⟨htags, hothers, v, b, hv, hb, h⟩
    obtain rfl := Option.some.inj h
    exact ⟨(hstring hv).mp htags, hothers, v, hv, hb⟩
  · rintro ⟨htag, hothers, v, hv, ha⟩
    exact ⟨(hstring hv).mpr htag, hothers, v, a, hv, ha, rfl⟩

/-- What members with keys that can be read say. -/
theorem treeOfMembers_keyed (ms : List (String × Draft)) :
    treeOfMembers (keyed ms) = ms.map fun m => (some m.1, m.2.tree) := by
  rw [treeOfMembers_eq_map, keyed, List.map_map]
  rfl

/-- Members with names are members with keys that can be read. -/
theorem exists_keyed {members : List (Except Fault String × Draft)}
    (h : ∀ m ∈ treeOfMembers members, ∃ name, m.1 = some name) : ∃ ms, members = keyed ms := by
  induction members with
  | nil => exact ⟨[], rfl⟩
  | cons m members ih =>
    obtain ⟨key, d⟩ := m
    obtain ⟨⟨name, hname⟩, hmembers⟩ := List.forall_mem_cons.mp h
    obtain ⟨ms, rfl⟩ := ih hmembers
    cases key with
    | error f => cases hname
    | ok key => exact ⟨(key, d) :: ms, rfl⟩

section Tagged

variable {name tag : String} {variants : List (String × α)} {room : Nat} {a : α} {content : Json}

/-- A variant is read from an object exactly if the object says members that nest few enough arrays and
objects, and that tell the variant by a string.

**Proof sketch.** The members are split as those of the value (`Json.foldlM_tagIntake_eq_ok_iff`). -/
theorem readTagged_object_eq_ok_iff {members : List (Except Fault String × Draft)} {ending : ObjectEnd} :
    readTagged name tag variants room (.object members ending) = .ok (a, content) ↔
      (Draft.object members ending).skipFault? = none ∧ ∃ js : List (String × Json),
        treesOfMembers js = treeOfMembers members ∧ (Json.object js).depth ≤ room ∧
        (∃ s, (Json.object js).tree.tag? tag = some (.string (some s))) ∧
        asTagged name tag variants (.object js) = .ok (a, content) := by
  rw [readTagged, nested_eq_ok_iff, Draft.skipFault?, Option.or_eq_none_iff]
  simp only [bind_eq_ok_iff, readMembers_eq_ok_iff]
  constructor
  · rintro ⟨r, rfl, ⟨found, others⟩, ⟨hending, ms, rfl, hfold⟩, h⟩
    obtain ⟨_, ⟨hfaults, js, hjs, hdepth, hsplit⟩, rfl⟩ := foldlM_tagIntake_eq_ok_iff.mp hfold
    cases found with
    | none => cases h
    | some b =>
      cases h
      have hfaults : membersSkipFault? (keyed ms) = none :=
        membersSkipFault?_eq_none_iff.mpr (List.forall_mem_map.mpr hfaults)
      exact ⟨⟨hfaults, hending⟩, js, hjs.trans (treeOfMembers_keyed ms).symm, Nat.succ_le_succ hdepth,
        splitTag_string_iff.mp hsplit⟩
  · rintro ⟨⟨hfaults, hending⟩, js, hjs, hdepth, hj⟩
    obtain ⟨r, rfl⟩ := Nat.exists_eq_add_of_le' (Nat.le_of_add_left_le hdepth)
    obtain ⟨ms, rfl⟩ : ∃ ms, members = keyed ms := by
      refine exists_keyed ?_
      rw [← hjs, treesOfMembers_eq_map]
      exact List.forall_mem_map.mpr fun m _ => ⟨m.1, rfl⟩
    obtain ⟨rfl, -⟩ := asTagged_object_eq_ok_iff.mp hj.2
    have hfaults := List.forall_mem_map.mp (membersSkipFault?_eq_none_iff.mp hfaults)
    have hsplit : SplitsAs tag variants r none ms (some a) (js.filter (·.1 ≠ tag)) :=
      ⟨hfaults, js, hjs.trans (treeOfMembers_keyed ms), Nat.le_of_succ_le_succ hdepth,
        splitTag_string_iff.mpr hj⟩
    exact ⟨r, rfl, (some a, _), ⟨hending, ms, rfl,
      foldlM_tagIntake_eq_ok_iff.mpr ⟨_, hsplit, (List.nil_append _).symm⟩⟩, rfl⟩

/-- A variant is read from the first item of an array, and the other items as they stand.

**Proof sketch.** Without an item nothing tells the variant. With one, the steps of the reader are those
on the right: room for the array, the variant from the first item, and the other items as they stand. -/
theorem readTagged_items_eq_ok_iff {items : List Draft} {ending : ArrayEnd} :
    readTagged name tag variants room (.array items ending) = .ok (a, content) ↔
      ∃ r first rest js, room = r + 1 ∧ items = first :: rest ∧ readVariant variants first = .ok a ∧
        readWholeItems ending r 1 rest = .ok js ∧ content = .array js := by
  rw [readTagged, nested_eq_ok_iff]
  cases items with
  | nil =>
    constructor
    · rintro ⟨r, -, h⟩
      obtain ⟨_, -, h⟩ := bind_eq_ok_iff.mp h
      cases h
    · rintro ⟨_, _, _, _, -, h, -⟩
      cases h
  | cons first rest =>
    simp only [bind_eq_ok_iff, mapError_eq_ok_iff]
    constructor
    · rintro ⟨r, hroom, b, hb, js, hjs, h⟩
      cases h
      exact ⟨r, first, rest, js, hroom, rfl, hb, hjs, rfl⟩
    · rintro ⟨r, _, _, js, hroom, h, ha, hjs, rfl⟩
      cases h
      exact ⟨r, hroom, a, ha, js, hjs, rfl⟩

/-- A variant is read from an array exactly if the array says items that nest few enough arrays and
objects, the first of which is a string that tells the variant.

**Proof sketch.** From left to right, the first item is a string that tells the variant, and the others
are read as they stand, so they say values without a fault (`readWholeItems_eq_ok_iff`). From right to
left, the string among the values is what the first item says, and the same lemma reads the others. -/
theorem readTagged_array_eq_ok_iff {items : List Draft} {ending : ArrayEnd} :
    readTagged name tag variants room (.array items ending) = .ok (a, content) ↔
      (Draft.array items ending).skipFault? = none ∧ ∃ js : List Json,
        treesOfItems js = treeOfItems items ∧ (Json.array js).depth ≤ room ∧
        (∃ s, (Json.array js).tree.tag? tag = some (.string (some s))) ∧
        asTagged name tag variants (.array js) = .ok (a, content) := by
  rw [readTagged_items_eq_ok_iff, Draft.skipFault?, Option.or_eq_none_iff]
  constructor
  · rintro ⟨r, first, rest, js, rfl, rfl, hfirst, hrest, rfl⟩
    obtain ⟨s, hs, hlookup⟩ := readVariant_eq_ok_iff.mp hfirst
    obtain ⟨⟨hfaults, hending⟩, htrees, hdepth⟩ := readWholeItems_eq_ok_iff.mp hrest
    refine ⟨⟨?_, hending⟩, .string s :: js, ?_, ?_, ⟨s, rfl⟩, asTagged_array_eq_ok_iff.mpr
      ⟨.string s, js, rfl, asVariant_string_eq_ok_iff.mpr hlookup, rfl⟩⟩
    · rw [itemsSkipFault?, skipFault?_of_readVariant hfirst, hfaults]
      rfl
    · rw [treesOfItems, htrees, treeOfItems, hs]
      rfl
    · exact Nat.succ_le_succ (Nat.max_le.mpr ⟨Nat.zero_le _, hdepth⟩)
  · rintro ⟨⟨hfaults, hending⟩, js, htrees, hdepth, ⟨s, hs⟩, hj⟩
    obtain ⟨r, rfl⟩ := Nat.exists_eq_add_of_le' (Nat.le_of_add_left_le hdepth)
    obtain ⟨v, js, rfl, ha, rfl⟩ := asTagged_array_eq_ok_iff.mp hj
    have hs : v.tree = .string (some s) := Option.some.inj hs
    cases items with
    | nil => cases htrees
    | cons first rest =>
      obtain ⟨hfirst, hrest⟩ := List.cons.inj htrees
      rw [itemsSkipFault?, Option.or_eq_none_iff] at hfaults
      have hdepths := (Nat.max_le.mp (Nat.le_of_succ_le_succ hdepth)).2
      cases v with
      | string s' =>
        have hfirst : readVariant variants first = .ok a := readVariant_eq_ok_iff.mpr
          ⟨s', hfirst.symm, asVariant_string_eq_ok_iff.mp ha⟩
        have hrest : readWholeItems ending r 1 rest = .ok js := readWholeItems_eq_ok_iff.mpr
          ⟨⟨hfaults.2, hending⟩, hrest, hdepths⟩
        exact ⟨r, first, rest, js, rfl, rfl, hfirst, hrest, rfl⟩
      | null | bool | number | array | object => cases hs

/-- A variant is read from a draft exactly if the draft says a value that nests few enough arrays and
objects, and that tells the variant by a string.

**Proof sketch.** The draft of an object can only say an object, and that of an array only an array, so
both cases have been shown. Nothing else is tagged. -/
theorem readTagged_eq_ok_iff {d : Draft} :
    readTagged name tag variants room d = .ok (a, content) ↔ d.skipFault? = none ∧ ∃ j : Json,
      j.tree = d.tree ∧ j.depth ≤ room ∧ (∃ s, j.tree.tag? tag = some (.string (some s))) ∧
      asTagged name tag variants j = .ok (a, content) := by
  cases d with
  | object members ending =>
    rw [readTagged_object_eq_ok_iff]
    constructor
    · rintro ⟨hfault, js, hjs, h⟩
      exact ⟨hfault, .object js, congrArg Tree.object hjs, h⟩
    · rintro ⟨hfault, j, htree, h⟩
      cases j with
      | object js => exact ⟨hfault, js, Tree.object.inj htree, h⟩
      | null | bool | number | string | array => cases htree
  | array items ending =>
    rw [readTagged_array_eq_ok_iff]
    constructor
    · rintro ⟨hfault, js, hjs, h⟩
      exact ⟨hfault, .array js, congrArg Tree.array hjs, h⟩
    · rintro ⟨hfault, j, htree, h⟩
      cases j with
      | array js => exact ⟨hfault, js, Tree.array.inj htree, h⟩
      | null | bool | number | string | object => cases htree
  | null | bool | number | string | broken =>
    refine iff_of_false (by intro h; cases h) ?_
    rintro ⟨-, j, htree, -, -, hj⟩
    cases j with
    | array | object => cases htree
    | null | bool | number | string => cases hj

end Tagged

/-- A variant that is read has no fault. -/
theorem thorough_readTagged {name tag : String} {variants : List (String × α)} :
    Thorough (readTagged name tag variants) :=
  fun _ _ _ h => (readTagged_eq_ok_iff.mp h).1

end SchemaQueries.Json
