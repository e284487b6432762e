import Mathlib.Data.List.TakeWhile
import SchemaQueries.Naming

/-!
# The names of root fields

How the name of a root field comes from the name of a type, and how plurals come from names. Both
are described without the functions that compute them, and shown to be what these compute.

## Main definitions

* `Naming.LowersStart` — a text with the letters before its first small letter made small.
* `Naming.SharePlural` — two names that have the same plural.

## Main results

* `Naming.queryFieldName_eq_iff` — the root field of a type with an ASCII name.
* `Naming.pluralize_eq_iff` — two names have the same plural only if they are the same or differ by
  an `e` behind an `x`.
-/

set_option autoImplicit false
set_option relaxedAutoImplicit false

namespace SchemaQueries.Naming

/-! ### Root fields -/

/-- The second text is the first one with all letters before its first small letter made small. A
text without small letters, an acronym, goes with itself only. -/
inductive LowersStart : List Char → List Char → Prop
  /-- Where there is no small letter, nothing changes. -/
  | acronym {name : List Char} (hname : ∀ x ∈ name, x.isLower = false) : LowersStart name name
  /-- From the first small letter on, nothing changes. -/
  | word {start : List Char} {c : Char} {rest : List Char} (hstart : ∀ x ∈ start, x.isLower = false)
    (hc : c.isLower = true) : LowersStart (start ++ c :: rest) (start.map Char.toLower ++ c :: rest)

/-- The start of every text can be made small. -/
theorem exists_lowersStart (name : List Char) : ∃ lowered, LowersStart name lowered := by
  cases hfirst : name.find? Char.isLower with
  | none =>
    have hname : ∀ x ∈ name, x.isLower = false := by simpa using hfirst
    exact ⟨name, .acronym hname⟩
  | some c =>
    obtain ⟨hc, start, rest, rfl, hstart⟩ := List.find?_eq_some_iff_append.mp hfirst
    exact ⟨_, .word (by simpa using hstart) hc⟩

/-- No character comes or goes. -/
theorem LowersStart.length_eq {name lowered : List Char} (h : LowersStart name lowered) :
    lowered.length = name.length := by
  cases h with
  | acronym => rfl
  | word => simp

/-- The root field of a type with an ASCII name is its name with a start in small letters.

**Proof sketch.** Upper-casing changes an ASCII character only if it is a small letter. So the part that
is lower-cased is what stands in front of the first small letter, and lower-casing it goes letter by
letter. Without a small letter no rest is left, and the name stays as it is. -/
theorem toList_queryFieldName {typeName : String} (hascii : ∀ c ∈ typeName.toList, c.toNat < 0x80)
    {lowered : List Char} (h : LowersStart typeName.toList lowered) :
    (queryFieldName typeName).toList = lowered := by
  -- Upper-casing keeps whatever stands before the first small letter, digits and underscores too.
  have hpass : ∀ x ∈ typeName.toList, x.isLower = false → Text.isUpperFixed x = true := by
    intro x hx hsmall
    rw [Text.isUpperFixed_of_ascii (hascii x hx), hsmall]
    rfl
  unfold queryFieldName
  generalize hname : typeName.toList = name at h hascii hpass
  cases h with
  | acronym hsmall =>
    have hrest : lowered.dropWhile Text.isUpperFixed = [] :=
      List.dropWhile_eq_nil_iff.mpr fun x hx => hpass x hx (hsmall x hx)
    rw [hrest]
    exact hname
  | @word start c rest hstart hc =>
    have hstartPass : ∀ x ∈ start, Text.isUpperFixed x = true :=
      fun x hx => hpass x (by simp [hx]) (hstart x hx)
    have hstop : Text.isUpperFixed c = false := by
      rw [Text.isUpperFixed_of_ascii (hascii c (by simp)), hc]
      rfl
    have hlower : Text.lower start = start.map Char.toLower :=
      Text.lower_of_ascii fun x hx => hascii x (by simp [hx])
    simp [List.takeWhile_append_of_pos hstartPass, List.dropWhile_append_of_pos hstartPass, hstop,
      hlower]

/-- The root field of a type with an ASCII name is the only text that comes from the name by making
its start small. -/
theorem queryFieldName_eq_iff {typeName fieldName : String}
    (hascii : ∀ c ∈ typeName.toList, c.toNat < 0x80) :
    queryFieldName typeName = fieldName ↔ LowersStart typeName.toList fieldName.toList := by
  constructor
  · rintro rfl
    obtain ⟨lowered, hlowered⟩ := exists_lowersStart typeName.toList
    rwa [toList_queryFieldName hascii hlowered]
  · intro h
    exact String.toList_inj.mp (toList_queryFieldName hascii h)

/-! ### Plurals -/

/-- The names are the same, or one ends in `x` and the other one has an `e` behind it. -/
inductive SharePlural : String → String → Prop
  | same (s : String) : SharePlural s s
  | longer (s : String) : SharePlural (s ++ "x") (s ++ "xe")
  | shorter (s : String) : SharePlural (s ++ "xe") (s ++ "x")

/-- The plural of a name in `x` has an `e` in front of its `s`. -/
theorem pluralize_append_x (u : String) : pluralize (u ++ "x") = u ++ "xe" ++ "s" := by
  have hplural : pluralize (u ++ "x") = u ++ "x" ++ "es" := if_pos (by simp)
  rw [hplural, String.append_assoc, String.append_assoc]
  rfl

/-- The plural of any other name has nothing but an `s`. -/
theorem pluralize_of_ne {s : String} (h : ∀ u, s ≠ u ++ "x") : pluralize s = s ++ "s" := by
  refine if_neg fun hlast => ?_
  obtain ⟨start, hstart⟩ := List.getLast?_eq_some_iff.mp hlast
  exact h (String.ofList start) (String.toList_inj.mp (by simp [hstart]))

/-- A name in `x` has the plural of that name with an `e` behind it. -/
theorem pluralize_append_xe (u : String) : pluralize (u ++ "xe") = pluralize (u ++ "x") := by
  have hne : ∀ v, u ++ "xe" ≠ v ++ "x" := by
    intro v h
    have hlast := congrArg (fun s => s.toList.getLast?) h
    simp at hlast
  rw [pluralize_append_x, pluralize_of_ne hne]

/-- A name ends in `x`, or it has nothing but an `s` behind it in its plural. -/
theorem endsInX_or_pluralize_eq (s : String) : (∃ u, s = u ++ "x") ∨ pluralize s = s ++ "s" := by
  by_cases h : ∃ u, s = u ++ "x"
  · exact .inl h
  · exact .inr (pluralize_of_ne (by simpa using h))

/-- **Which names have the same plural.** The names are the same, or one of them ends in `x` and the
other one is that name with an `e` behind it.

**Proof sketch.** Either a name ends in `x` and gets `es`, or it gets `s`. Two names with the same
ending are the same. Where the endings differ, taking the common `s` away leaves one name as the other
one with an `e` behind it. -/
theorem pluralize_eq_iff {s t : String} : pluralize s = pluralize t ↔ SharePlural s t := by
  constructor
  · intro h
    rcases endsInX_or_pluralize_eq s with ⟨u, rfl⟩ | hs <;>
      rcases endsInX_or_pluralize_eq t with ⟨v, rfl⟩ | ht
    · rw [pluralize_append_x, pluralize_append_x, String.append_left_inj,
        String.append_left_inj] at h
      rw [h]
      exact .same _
    · rw [pluralize_append_x, ht, String.append_left_inj] at h
      rw [← h]
      exact .longer u
    · rw [pluralize_append_x, hs, String.append_left_inj] at h
      rw [h]
      exact .shorter v
    · rw [hs, ht, String.append_left_inj] at h
      rw [h]
      exact .same t
  · intro h
    cases h with
    | same => rfl
    | longer u => exact (pluralize_append_xe u).symm
    | shorter u => exact pluralize_append_xe u

end SchemaQueries.Naming
