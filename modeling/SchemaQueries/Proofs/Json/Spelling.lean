import Mathlib.Data.List.Basic
import SchemaQueries.Json.Scalar
import SchemaQueries.Json.Draft

/-!
# How a JSON value may be written

A value can be written in many ways: with white space between its parts, with escapes in place of
the characters of a string, and with exponents in numbers. The relations of this file say which
texts are spellings of a value. They do not depend on how texts are read.

## Main definitions

* `Json.Spelled` — a text starts with a spelling of a value.
* `Json.SpelledString`, `Json.SpelledNumber` — the same for the characters of a string and for a
  number.
* `Json.IsTextOf` — a text is a spelling of a value, and nothing else.

## Main results

* `Json.Spelled.length_lt` — a spelling uses up characters.

## Implementation notes

The relations have the text at hand and the text behind the spelling as arguments, so that a
spelling of a value is put together from spellings of its parts without splitting lists.
-/

set_option autoImplicit false
set_option relaxedAutoImplicit false

namespace SchemaQueries.Json

/-- The text `cs` is white space and then the text `t`. -/
def Spaced (cs t : List Char) : Prop :=
  ∃ blanks : List Char, (∀ c ∈ blanks, isBlank c = true) ∧ cs = blanks ++ t

/-! ### Strings -/

/-- The escapes of a backslash and a letter, with the characters that they stand for. -/
def letterEscapes : List (Char × Char) :=
  [('"', '"'), ('\\', '\\'), ('/', '/'), ('b', '\x08'), ('f', '\x0c'), ('n', '\n'), ('r', '\r'),
    ('t', '\t')]

/-- The first half of the surrogate pair of a character beyond U+FFFF. -/
def highSurrogate (c : Char) : Nat :=
  0xD800 + (c.toNat - 0x10000) / 0x400

/-- The second half of the surrogate pair of a character beyond U+FFFF. -/
def lowSurrogate (c : Char) : Nat :=
  0xDC00 + (c.toNat - 0x10000) % 0x400

/-- The text behind an opening quote starts with a spelling of these characters and the closing
quote. -/
inductive SpelledString : List Char → List Char → List Char → Prop
  | close {rest : List Char} : SpelledString [] ('"' :: rest) rest
  /-- A character that stands for itself. -/
  | plain {c : Char} {s cs rest : List Char} : c ≠ '"' → c ≠ '\\' → 0x20 ≤ c.toNat →
      SpelledString s cs rest → SpelledString (c :: s) (c :: cs) rest
  /-- A backslash and a letter. -/
  | letter {letter c : Char} {s cs rest : List Char} : (letter, c) ∈ letterEscapes →
      SpelledString s cs rest → SpelledString (c :: s) ('\\' :: letter :: cs) rest
  /-- A character up to U+FFFF by its code point. -/
  | unit {x₁ x₂ x₃ x₄ c : Char} {s cs rest : List Char} : unit? x₁ x₂ x₃ x₄ = some c.toNat →
      SpelledString s cs rest →
      SpelledString (c :: s) ('\\' :: 'u' :: x₁ :: x₂ :: x₃ :: x₄ :: cs) rest
  /-- A character beyond U+FFFF by its surrogate pair. -/
  | pair {x₁ x₂ x₃ x₄ y₁ y₂ y₃ y₄ c : Char} {s cs rest : List Char} : 0x10000 ≤ c.toNat →
      unit? x₁ x₂ x₃ x₄ = some (highSurrogate c) → unit? y₁ y₂ y₃ y₄ = some (lowSurrogate c) →
      SpelledString s cs rest →
      SpelledString (c :: s)
        ('\\' :: 'u' :: x₁ :: x₂ :: x₃ :: x₄ :: '\\' :: 'u' :: y₁ :: y₂ :: y₃ :: y₄ :: cs) rest

/-! ### Numbers -/

/-- One or more digits. -/
def IsDigits (cs : List Char) : Prop :=
  cs ≠ [] ∧ ∀ c ∈ cs, c.isDigit = true

/-- Where a number ends: the text ends, or goes on with what may follow a value. -/
def EndsNumber (rest : List Char) : Prop :=
  ∀ c ∈ rest.head?, isBlank c = true ∨ c = ',' ∨ c = ']' ∨ c = '\x7d'

/-- The digits behind the point of a number, as they are written with it. -/
def fractionText : Option (List Char) → List Char
  | none => []
  | some digits => '.' :: digits

/-- Ways to write an exponent: with a small or a capital letter, and with or without a plus
sign. -/
inductive SpelledExponent : Option (Bool × List Char) → List Char → Prop
  | none : SpelledExponent none []
  | unsigned {letter : Char} {digits : List Char} : letter = 'e' ∨ letter = 'E' → IsDigits digits →
      SpelledExponent (some (false, digits)) (letter :: digits)
  | plus {letter : Char} {digits : List Char} : letter = 'e' ∨ letter = 'E' → IsDigits digits →
      SpelledExponent (some (false, digits)) (letter :: '+' :: digits)
  | minus {letter : Char} {digits : List Char} : letter = 'e' ∨ letter = 'E' → IsDigits digits →
      SpelledExponent (some (true, digits)) (letter :: '-' :: digits)

/-- The text starts with a number of these parts. -/
structure SpelledNumber (t : NumberText) (cs rest : List Char) : Prop where
  whole_isDigits : IsDigits t.whole
  /-- Only the number zero starts with a zero. -/
  whole_head : t.whole.head? = some '0' → t.whole.length = 1
  fraction_isDigits : ∀ digits ∈ t.fraction, IsDigits digits
  exists_eq : ∃ exponent, SpelledExponent t.exponent exponent ∧
    cs = (if t.negative then ['-'] else []) ++ t.whole ++ fractionText t.fraction ++ exponent ++ rest
  ends : EndsNumber rest

/-! ### Values -/

mutual

/-- The text starts with a spelling of the value, possibly behind white space. -/
inductive Spelled : Json → List Char → List Char → Prop
  | null {cs rest : List Char} : Spaced cs ("null".toList ++ rest) → Spelled .null cs rest
  | true {cs rest : List Char} : Spaced cs ("true".toList ++ rest) → Spelled (.bool true) cs rest
  | false {cs rest : List Char} : Spaced cs ("false".toList ++ rest) →
      Spelled (.bool false) cs rest
  | number {t : NumberText} {n : Number} {cs u rest : List Char} : t.value = .ok n → Spaced cs u →
      SpelledNumber t u rest → Spelled (.number n) cs rest
  | string {s : String} {cs u rest : List Char} : Spaced cs ('"' :: u) →
      SpelledString s.toList u rest → Spelled (.string s) cs rest
  | array {items : List Json} {cs u rest : List Char} : Spaced cs ('[' :: u) →
      SpelledItems Bool.true items u rest → Spelled (.array items) cs rest
  | object {members : List (String × Json)} {cs u rest : List Char} : Spaced cs ('\x7b' :: u) →
      SpelledMembers Bool.true members u rest → Spelled (.object members) cs rest

/-- The text goes on with a spelling of the items and the closing bracket. A comma stands before
each item unless it is the first one. -/
inductive SpelledItems : Bool → List Json → List Char → List Char → Prop
  | close {first : Bool} {cs rest : List Char} : Spaced cs (']' :: rest) →
      SpelledItems first [] cs rest
  | item {first : Bool} {j : Json} {js : List Json} {cs u v rest : List Char} :
      (if first then cs = u else Spaced cs (',' :: u)) → Spelled j u v →
      SpelledItems Bool.false js v rest → SpelledItems first (j :: js) cs rest

/-- The text goes on with a spelling of the members and the closing brace. A comma stands before
each member unless it is the first one. -/
inductive SpelledMembers : Bool → List (String × Json) → List Char → List Char → Prop
  | close {first : Bool} {cs rest : List Char} : Spaced cs ('\x7d' :: rest) →
      SpelledMembers first [] cs rest
  | member {first : Bool} {key : String} {j : Json} {ms : List (String × Json)}
      {cs u v w x y rest : List Char} :
      (if first then cs = u else Spaced cs (',' :: u)) → Spaced u ('"' :: v) →
      SpelledString key.toList v w → Spaced w (':' :: x) → Spelled j x y →
      SpelledMembers Bool.false ms y rest → SpelledMembers first ((key, j) :: ms) cs rest

end

/-- The text is a spelling of the value with white space around it. -/
def IsTextOf (j : Json) (text : List Char) : Prop :=
  ∃ rest, Spelled j text rest ∧ ∀ c ∈ rest, isBlank c = true

/-! ### Lengths -/

/-- White space may be left out, which makes a text no longer. -/
theorem Spaced.length_le {cs t : List Char} (h : Spaced cs t) : t.length ≤ cs.length := by
  obtain ⟨blanks, -, rfl⟩ := h
  simp

/-- What may stand before an item or a member is no spelling of it. -/
theorem length_le_of_separated {first : Bool} {cs u : List Char}
    (h : if first then cs = u else Spaced cs (',' :: u)) : u.length ≤ cs.length := by
  cases first with
  | true => exact Nat.le_of_eq (congrArg List.length h.symm)
  | false =>
    have hlt : (',' :: u).length ≤ cs.length := Spaced.length_le h
    exact Nat.le_of_succ_le hlt

/-- A spelling of the characters of a string uses up characters. -/
theorem SpelledString.length_lt {s cs rest : List Char} (h : SpelledString s cs rest) :
    rest.length < cs.length := by
  induction h with
  | close => simp
  | plain _ _ _ _ ih => simp only [List.length_cons]; omega
  | letter _ _ ih => simp only [List.length_cons]; omega
  | unit _ _ ih => simp only [List.length_cons]; omega
  | pair _ _ _ _ ih => simp only [List.length_cons]; omega

/-- A spelling of a number uses up characters. -/
theorem SpelledNumber.length_lt {t : NumberText} {cs rest : List Char}
    (h : SpelledNumber t cs rest) : rest.length < cs.length := by
  obtain ⟨exponent, -, rfl⟩ := h.exists_eq
  have hpos : 0 < t.whole.length := List.length_pos_of_ne_nil h.whole_isDigits.1
  simp only [List.length_append]
  omega

mutual

/-- A spelling of a value uses up characters.

**Proof sketch.** Recursion on the spelling, together with the items and the members. The white space in
front takes nothing away, and the word, the number or the first character of what comes next takes at
least one character. -/
theorem Spelled.length_lt {j : Json} {cs rest : List Char} :
    Spelled j cs rest → rest.length < cs.length
  | .null h | .true h | .false h => by
    have := h.length_le
    simp only [List.length_append, String.length_toList] at this
    have hpos : 0 < "null".length ∧ 0 < "true".length ∧ 0 < "false".length := by decide
    omega
  | .number _ h hn => Nat.lt_of_lt_of_le hn.length_lt h.length_le
  | .string h hs => by
    have := h.length_le
    have := hs.length_lt
    simp only [List.length_cons] at *
    omega
  | .array h hi => by
    have := h.length_le
    have := hi.length_lt
    simp only [List.length_cons] at *
    omega
  | .object h hm => by
    have := h.length_le
    have := hm.length_lt
    simp only [List.length_cons] at *
    omega

/-- A spelling of the items of an array uses up characters. -/
theorem SpelledItems.length_lt {first : Bool} {js : List Json} {cs rest : List Char} :
    SpelledItems first js cs rest → rest.length < cs.length
  | .close h => h.length_le
  | .item h hj hi => by
    have := length_le_of_separated h
    have := hj.length_lt
    have := hi.length_lt
    omega

/-- A spelling of the members of an object uses up characters. -/
theorem SpelledMembers.length_lt {first : Bool} {ms : List (String × Json)}
    {cs rest : List Char} : SpelledMembers first ms cs rest → rest.length < cs.length
  | .close h => h.length_le
  | .member h hk hs hc hj hm => by
    have := length_le_of_separated h
    have := hk.length_le
    have := hs.length_lt
    have := hc.length_le
    have := hj.length_lt
    have := hm.length_lt
    simp only [List.length_cons] at *
    omega

end

end SchemaQueries.Json
