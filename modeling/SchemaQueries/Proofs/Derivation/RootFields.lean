import SchemaQueries.Proofs.Query.Legible

/-!
# Which root fields entities share

The derived queries of two entities ask for the same root field when the names of the entities lead
to the same name of a field. This happens to names that differ in the case of letters only, and in
list queries also to names of fields of which one ends in `x` and the other one in `xe`.

## Main definitions

* `Query.Operation.rootFields` — the fields that a query asks the root for.

## Main results

* `Naming.queryFieldName_queryFieldName` — the name of a root field is kept.
* `Naming.toLower_eq_of_queryFieldName_eq` — types of one root field have one name, ignoring case.
* `root_field_names` — what the names of root fields keep of the names of types, and which list
  queries have the same root field.

## Implementation notes

The laws are those of `Naming.LowersStart`, and they hold of every text. The function that computes
root fields agrees with this relation on ASCII names: elsewhere a letter can become two letters when
it is made small.
-/

set_option autoImplicit false
set_option relaxedAutoImplicit false

namespace SchemaQueries

namespace Naming

/-! ### Texts with a start in small letters -/

section LowersStart

variable {name lowered : List Char}

/-- A letter that has been made small stays as it is. -/
theorem toLower_toLower (c : Char) : c.toLower.toLower = c.toLower := by
  delta Char.toLower
  split
  · next h =>
    have hfrom : 65 ≤ c.val.toNat := h.1
    have hto : c.val.toNat + 32 ≤ 122 := Nat.add_le_add_right h.2 32
    have hsum : (c.val + ('a'.val - 'A'.val)).toNat = c.val.toNat + 32 :=
      (UInt32.toNat_add _ _).trans (Nat.mod_eq_of_lt (Nat.lt_of_le_of_lt hto (by decide)))
    have hbeyond : ¬ (c.val + ('a'.val - 'A'.val)).toNat ≤ 90 := by
      rw [hsum]
      omega
    exact dif_neg fun hupper => hbeyond hupper.2
  · rfl

/-- Ignoring case, nothing changes. -/
theorem LowersStart.map_toLower_eq (h : LowersStart name lowered) :
    lowered.map Char.toLower = name.map Char.toLower := by
  cases h with
  | acronym => rfl
  | @word start c rest hstart hc =>
    rw [List.map_append, List.map_append, List.map_map]
    exact congrArg (· ++ _) (List.map_congr_left fun x _ => toLower_toLower x)

/-- A text whose letters are small stays as it is, whatever follows from a small letter on.

**Proof sketch.** The first small letter may stand in this text, but none of the letters in front of
it is changed. -/
theorem LowersStart.of_toLower_eq {start : List Char} (hstart : ∀ x ∈ start, x.toLower = x)
    {c : Char} (hc : c.isLower = true) (rest : List Char) :
    LowersStart (start ++ c :: rest) (start ++ c :: rest) := by
  have hsame (part : List Char) (hpart : part ⊆ start) : part.map Char.toLower = part :=
    (List.map_congr_left fun x hx => hstart x (hpart hx)).trans (List.map_id part)
  obtain ⟨twice, htwice⟩ := exists_lowersStart start
  cases htwice with
  | acronym hnone =>
    have hword : LowersStart (start ++ c :: rest) (start.map Char.toLower ++ c :: rest) :=
      .word hnone hc
    rwa [hsame start (List.Subset.refl start)] at hword
  | @word before d between hbefore hd =>
    have hword : LowersStart (before ++ d :: (between ++ c :: rest))
        (before.map Char.toLower ++ d :: (between ++ c :: rest)) := .word hbefore hd
    rw [hsame before (List.subset_append_left _ _)] at hword
    simpa using hword

/-- A text with a start in small letters stays as it is when its start is made small again. -/
theorem LowersStart.stays (h : LowersStart name lowered) : LowersStart lowered lowered := by
  cases h with
  | acronym hname => exact .acronym hname
  | @word start c rest hstart hc =>
    refine .of_toLower_eq (List.forall_mem_map.mpr fun x _ => ?_) hc rest
    exact toLower_toLower x

end LowersStart

/-! ### Root fields of types with names -/

section Names

variable {a b : String}

/-- The root field of a type has a name of the same length. -/
theorem length_queryFieldName (ha : Sdl.isName a.toList = true) :
    (queryFieldName a).length = a.length := by
  rw [← String.length_toList, ← String.length_toList]
  exact (lowersStart_queryFieldName ha).length_eq

/-- A type that has the name of a root field has this root field. -/
theorem queryFieldName_queryFieldName (ha : Sdl.isName a.toList = true) :
    queryFieldName (queryFieldName a) = queryFieldName a := by
  have hfield : Sdl.isName (queryFieldName a).toList = true := isName_queryFieldName ha
  exact (queryFieldName_eq_iff_of_isName hfield).mpr (lowersStart_queryFieldName ha).stays

/-- Ignoring case, a root field has the name of its type. -/
theorem toLower_queryFieldName (ha : Sdl.isName a.toList = true) :
    (queryFieldName a).toLower = a.toLower := by
  apply String.toList_inj.mp
  have htoLower (s : String) : s.toLower.toList = s.toList.map Char.toLower := String.toList_map
  rw [htoLower, htoLower]
  exact (lowersStart_queryFieldName ha).map_toLower_eq

/-- Types with the same root field have names that are equal ignoring case. -/
theorem toLower_eq_of_queryFieldName_eq (ha : Sdl.isName a.toList = true)
    (hb : Sdl.isName b.toList = true) (h : queryFieldName a = queryFieldName b) :
    a.toLower = b.toLower := by
  rw [← toLower_queryFieldName ha, ← toLower_queryFieldName hb, h]

end Names

end Naming

/-! ### Root fields of queries -/

/-- The names of the fields that a query asks the root for. -/
def Query.Operation.rootFields (o : Query.Operation) : List String :=
  o.selection.map Query.Field.name

/-- A list query asks for the plural of the root field of its entity. -/
@[simp] theorem Entity.rootFields_getMany (d : Schema.Document) (e : Entity) :
    (e.getMany d).rootFields = [Naming.pluralize (Naming.queryFieldName e.name)] := rfl

/-- **What root fields tell about names.** Take any two types with names of GraphQL.

* The root field of a type has the length of its name.
* It is this name if there is no small letter in it. Else it is this name from the first small
  letter on, with the letters in front of it made small.
* A type that has the name of a root field has this root field.
* Types with the same root field have names that are equal ignoring case.
* The plurals of two root fields are the same exactly if the fields are the same, or one of them ends
  in `x` and the other one is that name with an `e` behind it.
* So the list queries of two entities ask for the same root field in these cases only.

**Proof sketch.** The root field comes from the name by making its start small, which nothing else
does (`Naming.queryFieldName_eq_iff`), so the laws of this relation are those of root fields. A plural
is an `s` behind a name or behind a name in `xe`, so that two plurals are the same only if what
stands in front of the `s` is (`Naming.pluralize_eq_iff`). -/
theorem root_field_names {a b : String} (ha : Sdl.isName a.toList = true)
    (hb : Sdl.isName b.toList = true) :
    (Naming.queryFieldName a).length = a.length ∧
    (∀ s : String, Naming.queryFieldName a = s ↔ Naming.LowersStart a.toList s.toList) ∧
    Naming.queryFieldName (Naming.queryFieldName a) = Naming.queryFieldName a ∧
    (Naming.queryFieldName a = Naming.queryFieldName b → a.toLower = b.toLower) ∧
    (Naming.pluralize (Naming.queryFieldName a) = Naming.pluralize (Naming.queryFieldName b) ↔
      Naming.SharePlural (Naming.queryFieldName a) (Naming.queryFieldName b)) ∧
    ∀ (d : Schema.Document) (e f : Entity), e.name = a → f.name = b →
      ((e.getMany d).rootFields = (f.getMany d).rootFields ↔
        Naming.SharePlural (Naming.queryFieldName a) (Naming.queryFieldName b)) := by
  refine ⟨Naming.length_queryFieldName ha, fun s => Naming.queryFieldName_eq_iff_of_isName ha,
    Naming.queryFieldName_queryFieldName ha, Naming.toLower_eq_of_queryFieldName_eq ha hb,
    Naming.pluralize_eq_iff, ?_⟩
  rintro d e f rfl rfl
  rw [Entity.rootFields_getMany, Entity.rootFields_getMany, List.singleton_inj]
  exact Naming.pluralize_eq_iff

/-- The list queries of `Tax` and `TAXe` both ask for `taxes`, although the two have different root
fields. -/
theorem root_field_names_taxes :
    Sdl.isName "Tax".toList = true ∧ Sdl.isName "TAXe".toList = true ∧
      Naming.queryFieldName "Tax" = "tax" ∧ Naming.queryFieldName "TAXe" = "taxe" ∧
      Naming.pluralize (Naming.queryFieldName "Tax") =
        Naming.pluralize (Naming.queryFieldName "TAXe") ∧
      ∀ (d : Schema.Document) (fields : List Schema.Field) (inputs : List Schema.InputValue),
        (Entity.getMany d ⟨⟨"Tax", fields⟩, ⟨"Tax_filter", inputs⟩⟩).rootFields =
          (Entity.getMany d ⟨⟨"TAXe", fields⟩, ⟨"TAXe_filter", inputs⟩⟩).rootFields := by
  have hnames : Sdl.isName "Tax".toList = true ∧ Sdl.isName "TAXe".toList = true := by decide
  have htax : Naming.queryFieldName "Tax" = "tax" := by decide
  have htaxe : Naming.queryFieldName "TAXe" = "taxe" := by decide
  have hshare : Naming.SharePlural (Naming.queryFieldName "Tax") (Naming.queryFieldName "TAXe") := by
    rw [htax, htaxe]
    exact .longer "ta"
  obtain ⟨-, -, -, -, hplural, hlist⟩ := root_field_names hnames.1 hnames.2
  exact ⟨hnames.1, hnames.2, htax, htaxe, hplural.mpr hshare,
    fun d fields inputs => (hlist d ⟨⟨"Tax", fields⟩, ⟨"Tax_filter", inputs⟩⟩
      ⟨⟨"TAXe", fields⟩, ⟨"TAXe_filter", inputs⟩⟩ rfl rfl).mpr hshare⟩

end SchemaQueries
