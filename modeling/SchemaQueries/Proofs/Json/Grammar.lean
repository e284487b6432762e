import SchemaQueries.Proofs.Json.Drafts

/-!
# JSON texts

Which texts are JSON values is told by a grammar, whatever the values mean: a number may be out of any
range, and a string may hold half a surrogate pair. The grammar does not depend on how texts are read.

## Main definitions

* `Json.IsValue` — the text is a JSON value.
* `Json.IsDocument` — the text is a JSON value with white space around it, and nothing else.

## Main results

* `Json.exists_isQuoted_of_scan` — what is read as a string has the form of one.
* `Json.exists_spelledNumber_of_scan`, `Json.scanNumber_of_append` — so it is with numbers, and a number is
  read up to its end.
-/

set_option autoImplicit false
set_option relaxedAutoImplicit false

namespace SchemaQueries.Json

variable {cs rest : List Char}

/-! ### The grammar -/

/-- The text is white space. -/
def Blank (cs : List Char) : Prop :=
  ∀ c ∈ cs, isBlank c = true

instance : DecidablePred Blank := fun _ =>
  decidable_of_iff _ List.all_eq_true

/-- The text is that of the characters of a string, with the closing quote. -/
inductive IsQuoted : List Char → Prop
  | close : IsQuoted ['"']
  /-- A character that stands for itself. -/
  | plain {c : Char} {cs : List Char} : c ≠ '"' → c ≠ '\\' → 0x20 ≤ c.toNat → IsQuoted cs →
      IsQuoted (c :: cs)
  /-- A backslash and a letter. -/
  | letter {letter c : Char} {cs : List Char} : (letter, c) ∈ letterEscapes → IsQuoted cs →
      IsQuoted ('\\' :: letter :: cs)
  /-- Any unit of UTF-16. -/
  | unit {x₁ x₂ x₃ x₄ : Char} {n : Nat} {cs : List Char} : unit? x₁ x₂ x₃ x₄ = some n → IsQuoted cs →
      IsQuoted ('\\' :: 'u' :: x₁ :: x₂ :: x₃ :: x₄ :: cs)

/-- What stands in front of an item or a member: a comma, unless it is the first one. -/
def Separator (first : Bool) (cs : List Char) : Prop :=
  if first then cs = [] else ∃ blanks, Blank blanks ∧ cs = blanks ++ [',']

mutual

/-- The text is a JSON value. -/
inductive IsValue : List Char → Prop
  | word {w : String} : w ∈ ["null", "true", "false"] → IsValue w.toList
  | number {t : NumberText} {cs : List Char} : SpelledNumber t cs [] → IsValue cs
  | string {cs : List Char} : IsQuoted cs → IsValue ('"' :: cs)
  | array {cs : List Char} : IsItems Bool.true cs → IsValue ('[' :: cs)
  | object {cs : List Char} : IsMembers Bool.true cs → IsValue ('\x7b' :: cs)

/-- The text is that of the items of an array from here on, with the closing bracket. -/
inductive IsItems : Bool → List Char → Prop
  | close {first : Bool} {blanks : List Char} : Blank blanks → IsItems first (blanks ++ [']'])
  | item {first : Bool} {before blanks value rest : List Char} : Separator first before →
      Blank blanks → IsValue value → IsItems Bool.false rest →
      IsItems first (before ++ (blanks ++ (value ++ rest)))

/-- The text is that of the members of an object from here on, with the closing brace. -/
inductive IsMembers : Bool → List Char → Prop
  | close {first : Bool} {blanks : List Char} : Blank blanks → IsMembers first (blanks ++ ['\x7d'])
  | member {first : Bool} {before blanks key blanks' blanks'' value rest : List Char} :
      Separator first before → Blank blanks → IsQuoted key → Blank blanks' → Blank blanks'' →
      IsValue value → IsMembers Bool.false rest →
      IsMembers first (before ++ (blanks ++ '"' :: (key ++ (blanks' ++ ':' :: (blanks'' ++
        (value ++ rest))))))

end

/-- The text is a JSON value with white space around it, and nothing else. -/
def IsDocument (text : List Char) : Prop :=
  ∃ before value after, Blank before ∧ IsValue value ∧ Blank after ∧ text = before ++ value ++ after

/-! ### Strings -/

/-- A backslash and a letter that stand for a character are an escape. -/
theorem mem_letterEscapes {letter c : Char} (h : shortEscape? letter = some c) :
    (letter, c) ∈ letterEscapes := by
  unfold shortEscape? at h
  split_ifs at h with hself hb hf hn hr ht
  · obtain rfl := Option.some.inj h
    simp only [Bool.or_eq_true, decide_eq_true_eq] at hself
    rcases hself with (rfl | rfl) | rfl <;> decide
  all_goals
    subst letter
    obtain rfl := Option.some.inj h
    decide

/-- What is read as a string has the form of one.

**Proof sketch.** Induction along the scan. Each step that goes on has taken one piece of a string: a
plain character, a letter behind a backslash, or a unit. The scan is complete at a quote only. -/
theorem exists_isQuoted_of_scan {p : StringProgress} {value : Except Fault String}
    (h : scanStringFrom p cs = .complete value rest) : ∃ key, IsQuoted key ∧ cs = key ++ rest := by
  fun_induction scanStringFrom p cs with
  | case1 | case2 | case4 | case5 | case7 | case9 => cases h
  | case3 p x₁ x₂ x₃ x₄ cs n hunit ih =>
    obtain ⟨key, hkey, rfl⟩ := ih h
    exact ⟨_, .unit hunit hkey, rfl⟩
  | case6 p letter cs _ _ c hshort ih =>
    obtain ⟨key, hkey, rfl⟩ := ih h
    exact ⟨_, .letter (mem_letterEscapes hshort) hkey, rfl⟩
  | case8 p cs =>
    cases h
    exact ⟨['"'], .close, rfl⟩
  | case10 p c cs hend _ _ hescape hquote hcontrol ih =>
    obtain ⟨key, hkey, rfl⟩ := ih h
    have hback : c ≠ '\\' := by
      intro hc
      cases hcs : key ++ rest with
      | nil => exact hend hc hcs
      | cons d ds => exact hescape d ds hc hcs
    exact ⟨_, .plain hquote hback (by omega) hkey, rfl⟩

/-! ### Numbers -/

/-- What is read as a sign stands there. -/
theorem eq_of_signAt (cs : List Char) :
    cs = (if (signAt cs).1 then ['-'] else []) ++ (signAt cs).2 := by
  unfold signAt
  split <;> rfl

/-- What is read as a fraction stands there. -/
theorem eq_of_fractionAt (cs : List Char) :
    cs = fractionText (fractionAt cs).1 ++ (fractionAt cs).2 ∧
      ∀ digits ∈ (fractionAt cs).1, ∀ c ∈ digits, c.isDigit = true := by
  unfold fractionAt
  split
  · refine ⟨?_, ?_⟩
    · simp [fractionText, List.takeWhile_append_dropWhile]
    · rintro digits ⟨⟩ c hc
      exact List.mem_takeWhile_imp hc
  · refine ⟨rfl, ?_⟩
    intro digits hdigits
    cases hdigits

/-- The sign behind the letter of an exponent, and the text behind it. -/
def exponentSignAt : List Char → Bool × List Char
  | '+' :: rest => (false, rest)
  | '-' :: rest => (true, rest)
  | rest => (false, rest)

/-- An exponent is read part by part: its letter, its sign and its digits. -/
theorem exponentAt_letter {letter : Char} (hletter : letter = 'e' ∨ letter = 'E') (cs : List Char) :
    exponentAt (letter :: cs) =
      (some ((exponentSignAt cs).1, (exponentSignAt cs).2.takeWhile Char.isDigit),
        (exponentSignAt cs).2.dropWhile Char.isDigit) := by
  rcases hletter with rfl | rfl <;> rfl

/-- Behind the letter of an exponent stand its sign and its digits. -/
theorem exists_spelledExponent {letter : Char} {digits : List Char}
    (hletter : letter = 'e' ∨ letter = 'E') (hdigits : IsDigits digits)
    (h : (exponentSignAt cs).2 = digits ++ rest) :
    ∃ exponent, SpelledExponent (some ((exponentSignAt cs).1, digits)) exponent ∧
      letter :: cs = exponent ++ rest := by
  unfold exponentSignAt at *
  split at h
  · exact ⟨_, .plus hletter hdigits, congrArg (letter :: '+' :: ·) h⟩
  · exact ⟨_, .minus hletter hdigits, congrArg (letter :: '-' :: ·) h⟩
  · exact ⟨_, .unsigned hletter hdigits, congrArg (letter :: ·) h⟩

/-- What is read as an exponent stands there, unless it has no digits. -/
theorem exists_of_exponentAt (h : (exponentAt cs).1.map (·.2) ≠ some []) :
    ∃ exponent, SpelledExponent (exponentAt cs).1 exponent ∧ cs = exponent ++ (exponentAt cs).2 := by
  by_cases hletter : ∃ letter u, (letter = 'e' ∨ letter = 'E') ∧ cs = letter :: u
  · obtain ⟨letter, u, hletter, rfl⟩ := hletter
    rw [exponentAt_letter hletter] at h ⊢
    apply exists_spelledExponent hletter
    · exact ⟨fun hnil => h (congrArg some hnil), fun _ => List.mem_takeWhile_imp⟩
    · exact List.takeWhile_append_dropWhile.symm
  · have hnone : exponentAt cs = (none, cs) := by
      unfold exponentAt
      split
      · exact absurd ⟨_, _, .inl rfl, rfl⟩ hletter
      · exact absurd ⟨_, _, .inr rfl, rfl⟩ hletter
      · rfl
    rw [hnone]
    exact ⟨[], .none, rfl⟩

/-- What is read as a number has the form of one.

**Proof sketch.** A scan that is complete has passed four checks: there is a whole part, it has no zero
in front, and neither the fraction nor the exponent is without digits. Sign, digits, fraction and
exponent put together are the text that has been scanned. -/
theorem exists_spelledNumber_of_scan {value : Except Fault Number}
    (h : scanNumber cs = .complete value rest) :
    ∃ t number, value = t.value ∧ SpelledNumber t number [] ∧ cs = number ++ rest := by
  rw [scanNumber_eq] at h
  dsimp only at h
  split_ifs at h with hwhole hzero hfraction hexponent
  obtain ⟨rfl, rfl⟩ := Scanned.complete.inj h
  obtain ⟨heq, hdigits⟩ := eq_of_fractionAt ((signAt cs).2.dropWhile Char.isDigit)
  obtain ⟨exponent, hspelled, heq'⟩ := exists_of_exponentAt hexponent
  refine ⟨_, _, rfl, ⟨?_, ?_, ?_, ⟨exponent, hspelled, rfl⟩, ?_⟩, ?_⟩
  · exact ⟨fun hnil => hwhole (List.isEmpty_iff.mpr hnil), fun _ => List.mem_takeWhile_imp⟩
  · intro hhead
    by_contra hlength
    exact hzero (by simp [hhead, hlength])
  · intro digits hmem
    refine ⟨?_, hdigits digits hmem⟩
    rintro rfl
    exact hfraction hmem
  · intro c hc
    cases hc
  · conv_lhs =>
      rw [eq_of_signAt cs, ← List.takeWhile_append_dropWhile (p := Char.isDigit) (l := (signAt cs).2),
        heq, heq']
    simp only [List.append_assoc, List.nil_append]

/-- A number is read up to its end. -/
theorem scanNumber_of_append {t : NumberText} {number : List Char} (h : SpelledNumber t number [])
    (hrest : EndsNumber rest) : scanNumber (number ++ rest) = .complete t.value rest := by
  obtain ⟨exponent, hexponent, heq⟩ := h.exists_eq
  apply scanNumber_of_spelled
  refine ⟨h.whole_isDigits, h.whole_head, h.fraction_isDigits, ⟨exponent, hexponent, ?_⟩, hrest⟩
  rw [heq, List.append_nil]

end SchemaQueries.Json
