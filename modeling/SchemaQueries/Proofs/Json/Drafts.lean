import Mathlib.Data.List.DropRight
import SchemaQueries.Proofs.Json.Spelling
import SchemaQueries.Text.Parts

/-!
# The draft of a spelling

A spelling of a value is read as the draft that holds the value as a whole, whichever spelling it
is.

## Main definitions

* `Json.Draft.ofJson` — the draft that holds a value as a whole.

## Main results

* `Json.scanString_of_spelled`, `Json.scanNumber_of_spelled` — strings and numbers.
* `Json.draft_of_isTextOf` — the draft of a text that spells a value.
-/

set_option autoImplicit false
set_option relaxedAutoImplicit false

namespace SchemaQueries.Json

mutual

/-- The draft that holds a value as a whole. -/
def Draft.ofJson : Json → Draft
  | .null => .null
  | .bool b => .bool b
  | .number n => .number (.ok n)
  | .string s => .string (.ok s)
  | .array items => .array (Draft.ofItems items) .closed
  | .object members => .object (Draft.ofMembers members) .closed

/-- The drafts that hold the items of an array as a whole. -/
def Draft.ofItems : List Json → List Draft
  | [] => []
  | first :: rest => Draft.ofJson first :: Draft.ofItems rest

/-- The drafts that hold the members of an object as a whole. -/
def Draft.ofMembers : List (String × Json) → List (Except Fault String × Draft)
  | [] => []
  | (key, first) :: rest => (.ok key, Draft.ofJson first) :: Draft.ofMembers rest

end

/-! ### White space -/

/-- What is left behind white space is what stands there, if that does not start with white space
itself. -/
theorem skipBlanks_of_spaced {cs t : List Char} {c : Char} (h : Spaced cs (c :: t))
    (hc : isBlank c = false) : skipBlanks cs = c :: t := by
  obtain ⟨blanks, hblanks, rfl⟩ := h
  rw [skipBlanks, List.dropWhile_append_of_pos hblanks, List.dropWhile_cons, hc]
  rfl

/-- Skipping white space twice is skipping it once. -/
theorem skipBlanks_skipBlanks (cs : List Char) : skipBlanks (skipBlanks cs) = skipBlanks cs :=
  List.dropWhile_idempotent isBlank cs

/-! ### Strings -/

/-- The code point of a character is not that of half a surrogate pair. -/
theorem toNat_not_surrogate (c : Char) : c.toNat < 0xD800 ∨ 0xDFFF < c.toNat :=
  c.valid.imp id And.left

/-- The code point of a character is below U+110000. -/
theorem toNat_lt (c : Char) : c.toNat < 0x110000 := by
  rcases c.valid with h | h
  · exact Nat.lt_trans h (by decide)
  · exact h.2

/-- A character that waits for nothing is read as itself. -/
theorem push_of_settled (seen : List Char) (c : Char) :
    StringProgress.push ⟨seen, none, none⟩ c = ⟨c :: seen, none, none⟩ := rfl

/-- The code point of a character up to U+FFFF is read as that character. -/
theorem pushUnit_toNat (seen : List Char) (c : Char) :
    StringProgress.pushUnit ⟨seen, none, none⟩ c.toNat = ⟨c :: seen, none, none⟩ := by
  have h := toNat_not_surrogate c
  have hsecond : (0xDC00 ≤ c.toNat && c.toNat ≤ 0xDFFF) = false := by
    simp only [Bool.and_eq_false_iff, decide_eq_false_iff_not]
    omega
  have hfirst : (0xD800 ≤ c.toNat && c.toNat ≤ 0xDBFF) = false := by
    simp only [Bool.and_eq_false_iff, decide_eq_false_iff_not]
    omega
  simp [StringProgress.pushUnit, hsecond, hfirst]

/-- The first half of a surrogate pair waits for the second one. -/
theorem pushUnit_first (seen : List Char) {n : Nat} (hlow : 0xD800 ≤ n) (hhigh : n ≤ 0xDBFF) :
    StringProgress.pushUnit ⟨seen, none, none⟩ n = ⟨seen, some n, none⟩ := by
  have hnot : ¬ 0xDC00 ≤ n := by omega
  simp [StringProgress.pushUnit, hlow, hhigh, hnot]

/-- The second half of a surrogate pair completes the character. -/
theorem pushUnit_second (seen : List Char) (first : Nat) {n : Nat} (hlow : 0xDC00 ≤ n)
    (hhigh : n ≤ 0xDFFF) :
    StringProgress.pushUnit ⟨seen, some first, none⟩ n =
      ⟨Char.ofNat (0x10000 + (first - 0xD800) * 0x400 + (n - 0xDC00)) :: seen, none, none⟩ := by
  simp [StringProgress.pushUnit, hlow, hhigh]

/-- The halves of the surrogate pair of a character beyond U+FFFF, and the character that they make
up. -/
theorem surrogates_of_le {c : Char} (hc : 0x10000 ≤ c.toNat) :
    (0xD800 ≤ highSurrogate c ∧ highSurrogate c ≤ 0xDBFF) ∧
      (0xDC00 ≤ lowSurrogate c ∧ lowSurrogate c ≤ 0xDFFF) ∧
      0x10000 + (highSurrogate c - 0xD800) * 0x400 + (lowSurrogate c - 0xDC00) = c.toNat := by
  have hlt := toNat_lt c
  unfold highSurrogate lowSurrogate
  omega

/-- The surrogate pair of a character beyond U+FFFF is read as that character. -/
theorem pushUnit_surrogates (seen : List Char) {c : Char} (hc : 0x10000 ≤ c.toNat) :
    (StringProgress.pushUnit ⟨seen, none, none⟩ (highSurrogate c)).pushUnit (lowSurrogate c) =
      ⟨c :: seen, none, none⟩ := by
  obtain ⟨⟨hhigh, hhigh'⟩, ⟨hlow, hlow'⟩, hvalue⟩ := surrogates_of_le hc
  rw [pushUnit_first seen hhigh hhigh', pushUnit_second seen _ hlow hlow', hvalue, Char.ofNat_toNat]

/-- A letter escape is read as the character that it stands for. -/
theorem shortEscape?_of_mem {letter c : Char} (h : (letter, c) ∈ letterEscapes) :
    shortEscape? letter = some c ∧ letter ≠ 'u' := by
  simp only [letterEscapes, List.mem_cons, Prod.mk.injEq, List.not_mem_nil, or_false] at h
  rcases h with ⟨rfl, rfl⟩ | ⟨rfl, rfl⟩ | ⟨rfl, rfl⟩ | ⟨rfl, rfl⟩ | ⟨rfl, rfl⟩ | ⟨rfl, rfl⟩ |
    ⟨rfl, rfl⟩ | ⟨rfl, rfl⟩ <;> decide

/-- A spelling of characters is read as these characters, behind those that have been read.

**Proof sketch.** Induction on the spelling. Nothing is pending between characters, so a character, a
letter behind a backslash and a single unit each add one character to what has been read. The two units
of a pair add one together (`pushUnit_surrogates`). -/
theorem scanStringFrom_of_spelled {s cs rest : List Char} (h : SpelledString s cs rest)
    (seen : List Char) :
    scanStringFrom ⟨seen, none, none⟩ cs =
      .complete (.ok (String.ofList (seen.reverse ++ s))) rest := by
  induction h generalizing seen with
  | close => simp [scanStringFrom, StringProgress.result, StringProgress.settle]
  | @plain c s cs rest hquote hback hlow _ ih =>
    rw [scanStringFrom]
    · rw [if_neg hquote, if_neg (by omega), push_of_settled, ih]
      simp
    all_goals simp [hback]
  | @letter letter c s cs rest hmem _ ih =>
    obtain ⟨hshort, hu⟩ := shortEscape?_of_mem hmem
    rw [scanStringFrom]
    · simp only [hshort]
      rw [push_of_settled, ih]
      simp
    all_goals simp [hu]
  | @unit _ _ _ _ c s cs rest hunit _ ih =>
    simp only [scanStringFrom, hunit]
    rw [pushUnit_toNat, ih]
    simp
  | @pair _ _ _ _ _ _ _ _ c s cs rest hbeyond hhigh hlow _ ih =>
    simp only [scanStringFrom, hhigh, hlow]
    rw [pushUnit_surrogates seen hbeyond, ih]
    simp

/-- A spelling of a string is read as that string. -/
theorem scanString_of_spelled {s : String} {cs rest : List Char}
    (h : SpelledString s.toList cs rest) : scanString cs = .complete (.ok s) rest := by
  rw [scanString, StringProgress.start, scanStringFrom_of_spelled h]
  simp

/-! ### Numbers -/

/-- A number does not end before a digit, a point or the letter of an exponent. -/
theorem EndsNumber.head_ne {rest : List Char} (h : EndsNumber rest) :
    ∀ c ∈ rest.head?, c.isDigit = false ∧ c ≠ '.' ∧ c ≠ 'e' ∧ c ≠ 'E' := by
  intro c hc
  have hblank : isBlank c = true → c = ' ' ∨ c = '\n' ∨ c = '\t' ∨ c = '\r' := by
    simp [isBlank, or_assoc]
  rcases h c hc with hb | rfl | rfl | rfl
  · rcases hblank hb with rfl | rfl | rfl | rfl <;> decide
  all_goals decide

/-- What stands behind the whole part of a number, or behind its fraction, does not start with a
digit. -/
theorem SpelledExponent.head_not_digit {e : Option (Bool × List Char)} {exponent rest : List Char}
    (h : SpelledExponent e exponent) (hrest : EndsNumber rest) :
    ∀ c ∈ (exponent ++ rest).head?, c.isDigit = false ∧ c ≠ '.' := by
  intro c hc
  cases h with
  | none => exact ⟨(hrest.head_ne c hc).1, (hrest.head_ne c hc).2.1⟩
  | unsigned hl | plus hl | minus hl =>
    obtain rfl : _ = c := by simpa using hc
    rcases hl with rfl | rfl <;> decide

/-- The exponent at the start of a text, and the text behind it, as a reader of numbers finds
them. -/
def exponentAt (rest : List Char) : Option (Bool × List Char) × List Char :=
  let exponentOf (rest : List Char) : Option (Bool × List Char) × List Char :=
    let (below, rest) := match rest with
      | '+' :: rest => (false, rest)
      | '-' :: rest => (true, rest)
      | rest => (false, rest)
    (some (below, rest.takeWhile Char.isDigit), rest.dropWhile Char.isDigit)
  match rest with
  | 'e' :: rest => exponentOf rest
  | 'E' :: rest => exponentOf rest
  | rest => (none, rest)

/-- A spelling of an exponent is read as that exponent.

**Proof sketch.** By cases on the spelling. Where no exponent is spelled, what follows the number starts
with neither letter. Else the digits end where the number does, and none of them is taken for a sign. -/
theorem exponentAt_of_spelled {e : Option (Bool × List Char)} {exponent rest : List Char}
    (h : SpelledExponent e exponent) (hrest : EndsNumber rest) :
    exponentAt (exponent ++ rest) = (e, rest) := by
  have hend : ∀ c ∈ rest.head?, c.isDigit = false := fun c hc => (hrest.head_ne c hc).1
  cases h with
  | none =>
    cases rest with
    | nil => rfl
    | cons c rest =>
      obtain ⟨-, -, he, hE⟩ := hrest.head_ne c (by simp)
      simp only [List.nil_append]
      unfold exponentAt
      split
      · next heq => exact absurd (List.cons.inj heq).1 he
      · next heq => exact absurd (List.cons.inj heq).1 hE
      · rfl
  | @unsigned letter digits hl hd =>
    obtain ⟨d, ds, rfl⟩ := List.exists_cons_of_ne_nil hd.1
    have hdigit : d.isDigit = true := hd.2 d (by simp)
    have hplus : d ≠ '+' := by rintro rfl; exact absurd hdigit (by decide)
    have hminus : d ≠ '-' := by rintro rfl; exact absurd hdigit (by decide)
    have htake := Text.takeWhile_append_of_head? hd.2 hend
    have hdrop := Text.dropWhile_append_of_head? hd.2 hend
    rcases hl with rfl | rfl <;> simp_all [exponentAt]
  | @plus letter digits hl hd =>
    rcases hl with rfl | rfl <;>
      simp [exponentAt, Text.takeWhile_append_of_head? hd.2 hend, Text.dropWhile_append_of_head? hd.2 hend]
  | @minus letter digits hl hd =>
    rcases hl with rfl | rfl <;>
      simp [exponentAt, Text.takeWhile_append_of_head? hd.2 hend, Text.dropWhile_append_of_head? hd.2 hend]

/-- The fraction at the start of a text, and the text behind it, as a reader of numbers finds
them. -/
def fractionAt : List Char → Option (List Char) × List Char
  | '.' :: rest => (some (rest.takeWhile Char.isDigit), rest.dropWhile Char.isDigit)
  | rest => (none, rest)

/-- A fraction is read as that fraction. -/
theorem fractionAt_of_spelled {f : Option (List Char)} {t : List Char}
    (hf : ∀ digits ∈ f, IsDigits digits) (ht : ∀ c ∈ t.head?, c.isDigit = false ∧ c ≠ '.') :
    fractionAt (fractionText f ++ t) = (f, t) := by
  cases f with
  | none =>
    cases t with
    | nil => rfl
    | cons c t =>
      have hc : c ≠ '.' := (ht c (by simp)).2
      simp only [fractionText, List.nil_append]
      unfold fractionAt
      split
      · next heq => exact absurd (List.cons.inj heq).1 hc
      · rfl
  | some digits =>
    have hd := hf digits rfl
    have ht : ∀ c ∈ t.head?, c.isDigit = false := fun c hc => (ht c hc).1
    simp [fractionText, fractionAt, Text.takeWhile_append_of_head? hd.2 ht,
      Text.dropWhile_append_of_head? hd.2 ht]

/-- The sign at the start of a text, and the text behind it, as a reader of numbers finds them. -/
def signAt : List Char → Bool × List Char
  | '-' :: rest => (true, rest)
  | rest => (false, rest)

/-- The sign of a number is read as that sign. -/
theorem signAt_of_isDigits (negative : Bool) {whole : List Char} (tail : List Char)
    (hw : IsDigits whole) :
    signAt ((if negative then ['-'] else []) ++ (whole ++ tail)) = (negative, whole ++ tail) := by
  cases negative with
  | true => rfl
  | false =>
    obtain ⟨d, ds, rfl⟩ := List.exists_cons_of_ne_nil hw.1
    have hminus : d ≠ '-' := by rintro rfl; exact absurd (hw.2 '-' (by simp)) (by decide)
    simp [signAt, hminus]

/-- A number is read part by part: its sign, its whole part, its fraction and its exponent. -/
theorem scanNumber_eq (cs : List Char) :
    scanNumber cs =
      let whole := (signAt cs).2.takeWhile Char.isDigit
      let f := fractionAt ((signAt cs).2.dropWhile Char.isDigit)
      let e := exponentAt f.2
      if whole.isEmpty then
        .broken (if ((signAt cs).2.dropWhile Char.isDigit).isEmpty then .endInValue
          else .invalidNumber) .invalidNumber
      else if whole.head? = some '0' && whole.length ≠ 1 then .broken .invalidNumber .invalidNumber
      else if f.1 = some [] then
        .broken (if f.2.isEmpty then .endInValue else .invalidNumber) .invalidNumber
      else if e.1.map (·.2) = some [] then
        .broken (if e.2.isEmpty then .endInValue else .invalidNumber) .invalidNumber
      else .complete (NumberText.value ⟨(signAt cs).1, whole, f.1, e.1⟩) e.2 := rfl

/-- A spelling of a number is read as that number.

**Proof sketch.** A number is read part by part: sign, whole part, fraction and exponent. Each part ends
where the next one starts, because this is no digit. A spelling has digits where they must be and no
zero in front, so none of the four checks refuses it. -/
theorem scanNumber_of_spelled {t : NumberText} {cs rest : List Char}
    (h : SpelledNumber t cs rest) : scanNumber cs = .complete t.value rest := by
  obtain ⟨exponent, hexp, rfl⟩ := h.exists_eq
  obtain ⟨negative, whole, fraction, e⟩ := t
  have hw : IsDigits whole := h.whole_isDigits
  have hend := hexp.head_not_digit h.ends
  have hsign := signAt_of_isDigits negative (fractionText fraction ++ (exponent ++ rest)) hw
  have hfraction := fractionAt_of_spelled h.fraction_isDigits hend
  have hexponent := exponentAt_of_spelled hexp h.ends
  have htail : ∀ c ∈ (fractionText fraction ++ (exponent ++ rest)).head?, c.isDigit = false := by
    intro c hc
    cases fraction with
    | none => exact (hend c hc).1
    | some digits =>
      obtain rfl : '.' = c := by simpa [fractionText] using hc
      decide
  have hzero : ¬ (whole.head? = some '0' ∧ whole.length ≠ 1) := fun hz => hz.2 (h.whole_head hz.1)
  have hf : fraction ≠ some [] := fun hnil => (h.fraction_isDigits [] hnil).1 rfl
  have he : e.map (·.2) ≠ some [] := by
    cases hexp with
    | none => simp
    | unsigned _ hd | plus _ hd | minus _ hd => simpa using hd.1
  rw [scanNumber_eq]
  simp only [List.append_assoc, hsign, Text.takeWhile_append_of_head? hw.2 htail,
    Text.dropWhile_append_of_head? hw.2 htail, hfraction, hexponent]
  rw [if_neg (by simpa using hw.1), if_neg (by simpa using hzero), if_neg hf, if_neg he]

/-! ### Values -/

/-- A number starts with a minus sign or a digit. -/
theorem SpelledNumber.exists_head {t : NumberText} {cs rest : List Char}
    (h : SpelledNumber t cs rest) : ∃ c u, cs = c :: u ∧ (c = '-' ∨ c.isDigit = true) := by
  obtain ⟨exponent, -, rfl⟩ := h.exists_eq
  obtain ⟨d, ds, hd⟩ := List.exists_cons_of_ne_nil h.whole_isDigits.1
  cases t.negative with
  | true => exact ⟨'-', _, rfl, .inl rfl⟩
  | false => exact ⟨d, _, by simp [hd]; rfl, .inr (h.whole_isDigits.2 d (by simp [hd]))⟩

/-- A minus sign or a digit is neither white space nor one of the characters that other values
start with. -/
theorem numberStart_ne {c : Char} (h : c = '-' ∨ c.isDigit = true) :
    isBlank c = false ∧ c ≠ '"' ∧ c ≠ '[' ∧ c ≠ '\x7b' ∧ c ≠ ']' := by
  rcases h with rfl | h
  · decide
  · refine ⟨?_, ?_, ?_, ?_, ?_⟩
    · simp only [isBlank, Bool.or_eq_false_iff, beq_eq_false_iff_ne]
      refine ⟨⟨⟨?_, ?_⟩, ?_⟩, ?_⟩ <;> rintro rfl <;> exact absurd h (by decide)
    all_goals rintro rfl; exact absurd h (by decide)

/-- A spelling of a value starts, behind white space, with a character that does not close an
array. -/
theorem Spelled.exists_head {j : Json} {cs rest : List Char} (h : Spelled j cs rest) :
    ∃ c u, skipBlanks cs = c :: u ∧ c ≠ ']' := by
  cases h with
  | null hs | true hs | false hs =>
    exact ⟨_, _, skipBlanks_of_spaced hs (by decide), by decide⟩
  | number _ hs hn =>
    obtain ⟨c, u, rfl, hc⟩ := hn.exists_head
    exact ⟨c, u, skipBlanks_of_spaced hs (numberStart_ne hc).1, (numberStart_ne hc).2.2.2.2⟩
  | string hs _ | array hs _ | object hs _ =>
    exact ⟨_, _, skipBlanks_of_spaced hs (by decide), by decide⟩

/-- White space in front of a value makes no difference to its draft. -/
theorem draftFrom_skipBlanks (bound : Nat) (cs : List Char) :
    draftFrom bound (skipBlanks cs) = draftFrom bound cs := by
  cases bound with
  | zero => rw [draftFrom, draftFrom]
  | succ bound => rw [draftFrom, draftFrom, skipBlanks_skipBlanks]

/-- A word that stands there is read as its value. -/
theorem draftIdent_append (word : List Char) (value : Draft) (rest : List Char) :
    draftIdent word value (word ++ rest) = (value, some rest) := by
  have h : ident word (word ++ rest) = .ok rest := by
    induction word with
    | nil => cases rest <;> rfl
    | cons c word ih => simpa [ident] using ih
  simp [draftIdent, h]

mutual

/-- A spelling of a value is read as the draft that holds the value as a whole.

**Proof sketch.** Induction on the spelling. The bound goes down by one with every bracket and with
every item or member, each of which uses up characters. -/
theorem draftFrom_of_spelled {j : Json} {cs rest : List Char} {bound : Nat} :
    Spelled j cs rest → 2 * cs.length < bound →
      draftFrom bound cs = (Draft.ofJson j, some rest)
  | .null h, hb => by
    obtain ⟨bound, rfl⟩ := Nat.exists_eq_add_of_lt hb
    rw [draftFrom, skipBlanks_of_spaced h (by decide)]
    exact draftIdent_append "ull".toList .null rest
  | .true h, hb => by
    obtain ⟨bound, rfl⟩ := Nat.exists_eq_add_of_lt hb
    rw [draftFrom, skipBlanks_of_spaced h (by decide)]
    exact draftIdent_append "rue".toList (.bool Bool.true) rest
  | .false h, hb => by
    obtain ⟨bound, rfl⟩ := Nat.exists_eq_add_of_lt hb
    rw [draftFrom, skipBlanks_of_spaced h (by decide)]
    exact draftIdent_append "alse".toList (.bool Bool.false) rest
  | .number hv h hn, hb => by
    obtain ⟨bound, rfl⟩ := Nat.exists_eq_add_of_lt hb
    obtain ⟨c, u, rfl, hc⟩ := hn.exists_head
    obtain ⟨hblank, hquote, hbracket, hbrace, -⟩ := numberStart_ne hc
    have hstart : (c = '-' || c.isDigit) = Bool.true := by simpa using hc
    rw [draftFrom, skipBlanks_of_spaced h hblank]
    simp only [if_neg hquote, if_neg hbracket, if_neg hbrace, if_pos hstart,
      scanNumber_of_spelled hn, hv]
    rfl
  | .string h hs, hb => by
    obtain ⟨bound, rfl⟩ := Nat.exists_eq_add_of_lt hb
    rw [draftFrom, skipBlanks_of_spaced h (by decide)]
    simp only [if_true, scanString_of_spelled hs]
    rfl
  | .array h hi, hb => by
    obtain ⟨bound, rfl⟩ := Nat.exists_eq_add_of_lt hb
    have hlen := h.length_le
    rw [List.length_cons] at hlen
    rw [draftFrom, skipBlanks_of_spaced h (by decide)]
    have hitems : draftItems (2 * cs.length + bound) true _ = _ :=
      draftItems_of_spelled hi (by omega)
    simp [hitems, Draft.ofJson]
  | .object h hm, hb => by
    obtain ⟨bound, rfl⟩ := Nat.exists_eq_add_of_lt hb
    have hlen := h.length_le
    rw [List.length_cons] at hlen
    rw [draftFrom, skipBlanks_of_spaced h (by decide)]
    have hmembers : draftMembers (2 * cs.length + bound) true _ = _ :=
      draftMembers_of_spelled hm (by omega)
    simp [hmembers, Draft.ofJson]

/-- A spelling of the items of an array is read as the drafts that hold them as a whole.

**Proof sketch.** Recursion on the spelling. The text of an item and what follows it are shorter than
what is there, so the bound is large enough for both. In front of an item but the first one stands a
comma. -/
theorem draftItems_of_spelled {first : Bool} {js : List Json} {cs rest : List Char} {bound : Nat} :
    SpelledItems first js cs rest → 2 * cs.length + 1 < bound →
      draftItems bound first cs = (Draft.ofItems js, .closed, some rest)
  | .close h, hb => by
    obtain ⟨bound, rfl⟩ := Nat.exists_eq_add_of_lt hb
    rw [draftItems, skipBlanks_of_spaced h (by decide)]
    rfl
  | @SpelledItems.item _ j _ _ u v _ h hj hi, hb => by
    obtain ⟨bound, rfl⟩ := Nat.exists_eq_add_of_lt hb
    have hsep := length_le_of_separated h
    have hlt := hj.length_lt
    have hvalue : draftFrom (2 * cs.length + 1 + bound) u = _ :=
      draftFrom_of_spelled hj (by omega)
    have hitems : draftItems (2 * cs.length + 1 + bound) false v = _ :=
      draftItems_of_spelled hi (by omega)
    obtain ⟨c, t, hct, hc⟩ := hj.exists_head
    have hhead : draftFrom (2 * cs.length + 1 + bound) (c :: t) = (Draft.ofJson j, some v) := by
      rw [← hct, draftFrom_skipBlanks, hvalue]
    cases first with
    | true =>
      obtain rfl : cs = u := h
      rw [draftItems, hct]
      simp [hc, hhead, hitems, Draft.ofItems]
    | false =>
      have h : Spaced cs (',' :: u) := h
      rw [draftItems, skipBlanks_of_spaced h (by decide)]
      simp [hct, hc, hhead, hitems, Draft.ofItems]

/-- A spelling of the members of an object is read as the drafts that hold them as a whole.

**Proof sketch.** As for items, with a key and a colon in front of each value. The key is read up to its
closing quote (`scanString_of_spelled`), and the lengths of all parts add up to less than the bound. -/
theorem draftMembers_of_spelled {first : Bool} {ms : List (String × Json)} {cs rest : List Char}
    {bound : Nat} :
    SpelledMembers first ms cs rest → 2 * cs.length + 1 < bound →
      draftMembers bound first cs = (Draft.ofMembers ms, .closed, some rest)
  | .close h, hb => by
    obtain ⟨bound, rfl⟩ := Nat.exists_eq_add_of_lt hb
    rw [draftMembers, skipBlanks_of_spaced h (by decide)]
    rfl
  | @SpelledMembers.member _ _ j _ _ u _ _ x y _ h hk hs hc hj hm, hb => by
    obtain ⟨bound, rfl⟩ := Nat.exists_eq_add_of_lt hb
    have hsep := length_le_of_separated h
    have hklen := hk.length_le
    have hslt := hs.length_lt
    have hclen := hc.length_le
    have hjlt := hj.length_lt
    simp only [List.length_cons] at hklen hclen
    have hvalue : draftFrom (2 * cs.length + 1 + bound) x = _ :=
      draftFrom_of_spelled hj (by omega)
    have hmembers : draftMembers (2 * cs.length + 1 + bound) false y = _ :=
      draftMembers_of_spelled hm (by omega)
    have hquote := skipBlanks_of_spaced hk (by decide)
    have hcolon := skipBlanks_of_spaced hc (by decide)
    have hkey := scanString_of_spelled hs
    cases first with
    | true =>
      obtain rfl : cs = u := h
      rw [draftMembers, hquote]
      simp [hkey, hcolon, hvalue, hmembers, Draft.ofMembers]
    | false =>
      have h : Spaced cs (',' :: u) := h
      rw [draftMembers, skipBlanks_of_spaced h (by decide)]
      simp [hquote, hkey, hcolon, hvalue, hmembers, Draft.ofMembers]

end

/-- The draft of a text that spells a value holds the value as a whole. -/
theorem draft_of_isTextOf {j : Json} {text : List Char} (h : IsTextOf j text) :
    draft text = Draft.ofJson j := by
  obtain ⟨rest, hj, -⟩ := h
  rw [draft, draftFrom_of_spelled hj (by omega)]

end SchemaQueries.Json
