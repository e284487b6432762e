import SchemaQueries.Json.Quoted
import SchemaQueries.Proofs.Json.Spelling

/-!
# A spelling without white space

One way to write a value without numbers. So what is proved about the spellings of such a value
is never empty.

## Main definitions

* `Json.compactText` — a value without white space.
* `Json.isNumberless` — no number stands anywhere in a value.

## Main results

* `Json.spelledString_quoted` — a string between quotes, as it is written, spells that string.
* `Json.isTextOf_compactText` — the compact text of a value without numbers spells that value.
-/

set_option autoImplicit false
set_option relaxedAutoImplicit false

namespace SchemaQueries.Json

mutual

/-- Whether no number stands anywhere in a value. -/
def isNumberless : Json → Bool
  | .number _ => false
  | .array items => areItemsNumberless items
  | .object members => areMembersNumberless members
  | _ => true

/-- Whether no number stands anywhere in these items. -/
def areItemsNumberless : List Json → Bool
  | [] => true
  | first :: rest => first.isNumberless && areItemsNumberless rest

/-- Whether no number stands anywhere in the values of these members. -/
def areMembersNumberless : List (String × Json) → Bool
  | [] => true
  | (_, first) :: rest => first.isNumberless && areMembersNumberless rest

end

mutual

/-- A value without white space, numbers left out. -/
def compactText : Json → List Char
  | .null => "null".toList
  | .bool b => if b then "true".toList else "false".toList
  | .number _ => []
  | .string s => quotedText s.toList
  | .array items => '[' :: compactItems true items
  | .object members => '\x7b' :: compactMembers true members

/-- Items without white space, each after the first one behind a comma, and the closing bracket. -/
def compactItems : Bool → List Json → List Char
  | _, [] => [']']
  | first, j :: js => (if first then [] else [',']) ++ compactText j ++ compactItems false js

/-- Members without white space, each after the first one behind a comma, and the closing brace. -/
def compactMembers : Bool → List (String × Json) → List Char
  | _, [] => ['\x7d']
  | first, (key, j) :: ms =>
    (if first then [] else [',']) ++ quotedText key.toList ++ ':' :: compactText j
      ++ compactMembers false ms

end

/-! ### Strings -/

/-- The hexadecimal digits of a control character tell it. -/
theorem unit?_of_control {n : Nat} (h : n < 0x20) :
    unit? '0' '0' (Nat.digitChar (n / 16)) (Nat.digitChar (n % 16)) = some n := by
  have hall : ∀ n < 0x20,
      unit? '0' '0' (Nat.digitChar (n / 16)) (Nat.digitChar (n % 16)) = some n := by decide
  exact hall n h

/-- A character as it is written is a spelling of it. -/
theorem SpelledString.quotedChar {c : Char} {s cs rest : List Char}
    (h : SpelledString s cs rest) : SpelledString (c :: s) (Json.quotedChar c ++ cs) rest := by
  unfold Json.quotedChar
  split
  · next hc =>
    refine .letter ?_ h
    have hc : c = '"' ∨ c = '\\' := by simpa using hc
    rcases hc with rfl | rfl <;> decide
  -- the five control characters that have a letter
  iterate 5
    split
    · next hc => exact hc ▸ .letter (by decide) h
  split
  · next hc => exact .unit (unit?_of_control hc) h
  · next hquote _ _ _ _ _ hlow =>
    simp only [Bool.or_eq_true, decide_eq_true_eq, not_or] at hquote
    exact .plain hquote.1 hquote.2 (Nat.le_of_not_lt hlow) h

/-- Characters as they are written, and a closing quote, are a spelling of them. -/
theorem spelledString_quoted (s rest : List Char) :
    SpelledString s (s.flatMap quotedChar ++ '"' :: rest) rest := by
  induction s with
  | nil => exact .close
  | cons c s ih =>
    rw [List.flatMap_cons, List.append_assoc]
    exact ih.quotedChar

/-! ### Values -/

/-- No white space is white space, too. -/
theorem Spaced.refl (t : List Char) : Spaced t t :=
  ⟨[], by simp, rfl⟩

mutual

/-- The compact text of a value without numbers spells that value. -/
theorem spelled_compactText (rest : List Char) : (j : Json) → j.isNumberless = true →
    Spelled j (compactText j ++ rest) rest
  | .null, _ => .null (.refl _)
  | .bool true, _ => .true (.refl _)
  | .bool false, _ => .false (.refl _)
  | .string s, _ => by
    refine .string (.refl _) ?_
    simpa [List.append_assoc] using spelledString_quoted s.toList rest
  | .array items, h => .array (.refl _) (spelledItems_compactItems rest true items h)
  | .object members, h => .object (.refl _) (spelledMembers_compactMembers rest true members h)

/-- The compact text of items without numbers spells them. -/
theorem spelledItems_compactItems (rest : List Char) (first : Bool) : (js : List Json) →
    areItemsNumberless js = true → SpelledItems first js (compactItems first js ++ rest) rest
  | [], _ => .close (.refl _)
  | j :: js, h => by
    rw [areItemsNumberless, Bool.and_eq_true] at h
    have hj := spelled_compactText (compactItems false js ++ rest) j h.1
    have hjs := spelledItems_compactItems rest false js h.2
    rw [compactItems, List.append_assoc, List.append_assoc]
    refine .item ?_ hj hjs
    cases first with
    | true => rfl
    | false => exact .refl _

/-- The compact text of members without numbers spells them. -/
theorem spelledMembers_compactMembers (rest : List Char) (first : Bool) :
    (ms : List (String × Json)) → areMembersNumberless ms = true →
    SpelledMembers first ms (compactMembers first ms ++ rest) rest
  | [], _ => .close (.refl _)
  | (key, j) :: ms, h => by
    rw [areMembersNumberless, Bool.and_eq_true] at h
    have hj := spelled_compactText (compactMembers false ms ++ rest) j h.1
    have hms := spelledMembers_compactMembers rest false ms h.2
    have hkey := spelledString_quoted key.toList
      (':' :: (compactText j ++ (compactMembers false ms ++ rest)))
    refine .member ?_ (.refl _) hkey (.refl _) hj hms
    cases first with
    | true => simp [compactMembers, quotedText]
    | false => simp [compactMembers, quotedText, Spaced.refl]

end

/-- The compact text of a value without numbers spells that value. -/
theorem isTextOf_compactText {j : Json} (h : j.isNumberless = true) :
    j.IsTextOf (compactText j) := by
  have hj := spelled_compactText [] j h
  rw [List.append_nil] at hj
  exact ⟨[], hj, by simp⟩

end SchemaQueries.Json
