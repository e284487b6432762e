import Mathlib.Data.Bool.AllAny
import Mathlib.Data.List.TakeWhile
import SchemaQueries.Sdl.Token
import SchemaQueries.Text.Parts

/-!
# What a token is

A text starts with one token at most, and the first character tells of which kind it is. The kinds
are laid out one by one, each with the text that is left behind the token.

## Main definitions

* `Sdl.StartsWith` — a text starts with a token.
* `Sdl.IsNumeral` — the characters of a number.
* `Sdl.EndsName` — what does not merge with a name before it.

## Main results

* `Sdl.token_eq_iff` — the token that is read is the one that the text starts with.
* `Sdl.StartsWith.skip_eq`, `Sdl.StartsWith.length_lt` — a token is not passed over, and it takes at
  least one character.
-/

set_option autoImplicit false
set_option relaxedAutoImplicit false

namespace SchemaQueries.Sdl

/-- What does not merge with a name before it. -/
def EndsName (rest : List Char) : Prop :=
  ∀ c ∈ rest.head?, isNameRest c = false

/-- A minus sign or a digit with what follows it up to the first character that ends a number. -/
structure IsNumeral (c : Char) (word rest : List Char) : Prop where
  start : c = '-' ∨ c.isDigit = true
  inside : ∀ x ∈ word, endsNumber x = false
  behind : ∀ x ∈ rest.head?, endsNumber x = true

/-- A number has a point or an exponent. -/
def HasFraction (lexeme : List Char) : Prop :=
  (lexeme.any fun x => x == '.' || x == 'e' || x == 'E') = true

/-- The text starts with the characters of a token, and behind them the last text is left. -/
inductive StartsWith : List Char → Token → List Char → List Char → Prop
  | spread (rest : List Char) : StartsWith ('.' :: '.' :: '.' :: rest) .spread ['.', '.', '.'] rest
  /-- A block of lines stands between triple quotes. -/
  | block {cs body value rest : List Char} (hbody : blockBody false cs = some (body, rest))
    (hvalue : blockValue body = some value) :
    StartsWith ('"' :: '"' :: '"' :: cs) (.string (String.ofList value))
      (['"', '"', '"'] ++ body ++ ['"', '"', '"']) rest
  | tornBlock {cs body rest : List Char} (hbody : blockBody false cs = some (body, rest))
    (hvalue : blockValue body = none) :
    StartsWith ('"' :: '"' :: '"' :: cs) .tornString (['"', '"', '"'] ++ body ++ ['"', '"', '"']) rest
  /-- A text on one line stands between quotes that are not the first two of a triple quote. -/
  | quoted {cs body value rest : List Char} (hcs : ∀ tail, cs ≠ '"' :: '"' :: tail)
    (hbody : stringBody false cs = some (body, rest)) (hvalue : unescape? body = some value) :
    StartsWith ('"' :: cs) (.string (String.ofList value)) ('"' :: body ++ ['"']) rest
  | mark {c : Char} (hc : c ∈ marks) (rest : List Char) : StartsWith (c :: rest) (.mark c) [c] rest
  | name {c : Char} {word rest : List Char} (hc : isNameStart c = true)
    (hword : ∀ x ∈ word, isNameRest x = true) (hrest : EndsName rest) :
    StartsWith (c :: (word ++ rest)) (.name (String.ofList (c :: word))) (c :: word) rest
  | float {c : Char} {word rest : List Char} {x : Binary64} (hnumeral : IsNumeral c word rest)
    (hfraction : HasFraction (c :: word)) (hx : float? (c :: word) = some x) :
    StartsWith (c :: (word ++ rest)) (.float x) (c :: word) rest
  | int {c : Char} {word rest : List Char} {n : Int} (hnumeral : IsNumeral c word rest)
    (hwhole : ¬ HasFraction (c :: word)) (hn : integer? (c :: word) = some n) :
    StartsWith (c :: (word ++ rest)) (.int n) (c :: word) rest

/-! ### First characters -/

/-- The characters that something between tokens starts with. -/
def gaps : List Char :=
  [' ', ',', '\t', '\r', '\ufeff', '\n', '#']

/-- No other character is passed over between tokens. -/
theorem skip_cons_of_not_mem {c : Char} (h : c ∉ gaps) (cs : List Char) (p : Position) :
    skip p (c :: cs) = (p, c :: cs) := by
  simp only [gaps, List.mem_cons, List.not_mem_nil, or_false, not_or] at h
  simp [skip, skipFrom, h]

/-- A punctuation character starts nothing else. -/
theorem mark_ne {c : Char} (h : c ∈ marks) : c ≠ '.' ∧ c ≠ '"' ∧ c ∉ gaps := by
  have hall : ∀ c ∈ marks, c ≠ '.' ∧ c ≠ '"' ∧ c ∉ gaps := List.all_iff_forall_prop.mp (by decide)
  exact hall c h

/-- A character that a name can start with starts nothing else. -/
theorem nameStart_ne {c : Char} (h : isNameStart c = true) :
    c ≠ '.' ∧ c ≠ '"' ∧ c ∉ gaps ∧ c ∉ marks := by
  have hall : ∀ c ∈ '.' :: '"' :: (gaps ++ marks), ¬ isNameStart c = true :=
    List.all_iff_forall_prop.mp (by decide)
  have hother : c ∉ '.' :: '"' :: (gaps ++ marks) := fun hmem => hall c hmem h
  simpa only [List.mem_cons, List.mem_append, not_or] using hother

/-- No name starts with a digit. -/
theorem isNameStart_of_isDigit {c : Char} (h : c.isDigit = true) : isNameStart c = false := by
  have hdigit : 48 ≤ c.val.toNat ∧ c.val.toNat ≤ 57 := by
    simpa [Char.isDigit, UInt32.le_iff_toNat_le] using h
  -- the letters come behind the digits
  have hupper : ¬ c.val ≥ 'A'.val := fun hc =>
    absurd (Nat.le_trans (UInt32.le_iff_toNat_le.mp hc) hdigit.2) (by decide)
  have hlower : ¬ c.val ≥ 'a'.val := fun hc =>
    absurd (Nat.le_trans (UInt32.le_iff_toNat_le.mp hc) hdigit.2) (by decide)
  have halpha : c.isAlpha = false :=
    Bool.or_eq_false_iff.mpr ⟨decide_eq_false fun hc => hupper hc.1,
      Bool.and_eq_false_iff.mpr (.inl (decide_eq_false hlower))⟩
  refine Bool.or_eq_false_iff.mpr ⟨beq_eq_false_iff_ne.mpr ?_, halpha⟩
  rintro rfl
  exact absurd hdigit.2 (by decide)

/-- A minus sign or a digit starts nothing but a number. -/
theorem numberStart_ne {c : Char} (h : c = '-' ∨ c.isDigit = true) :
    c ≠ '.' ∧ c ≠ '"' ∧ c ∉ gaps ∧ c ∉ marks ∧ isNameStart c = false := by
  rcases h with rfl | h
  · decide
  · have hall : ∀ c ∈ '.' :: '"' :: (gaps ++ marks), ¬ c.isDigit = true :=
      List.all_iff_forall_prop.mp (by decide)
    have hother : c ∉ '.' :: '"' :: (gaps ++ marks) := fun hmem => hall c hmem h
    simp only [List.mem_cons, List.mem_append, not_or] at hother
    exact ⟨hother.1, hother.2.1, hother.2.2.1, hother.2.2.2, isNameStart_of_isDigit h⟩

/-! ### Texts between quotes -/

/-- The text behind a string is shorter than the text before its closing quote. -/
theorem length_lt_of_stringBody {cs body after : List Char} {escaped : Bool}
    (h : stringBody escaped cs = some (body, after)) : after.length < cs.length := by
  induction cs generalizing escaped body with
  | nil => cases h
  | cons c rest ih =>
    unfold stringBody at h
    split_ifs at h
    · cases h
      exact Nat.lt_succ_self _
    · obtain ⟨⟨body, _⟩, hrest, heq⟩ := Option.map_eq_some_iff.mp h
      cases heq
      exact Nat.lt_succ_of_lt (ih hrest)

/-- The text behind a block string is shorter than the text before its closing quotes. -/
theorem length_lt_of_blockBody {cs body after : List Char} {escaped : Bool}
    (h : blockBody escaped cs = some (body, after)) : after.length < cs.length := by
  fun_induction blockBody escaped cs generalizing body with
  | case1 => cases h
  | case2 rest ih =>
    obtain ⟨⟨body, _⟩, hrest, heq⟩ := Option.map_eq_some_iff.mp h
    cases heq
    have hlt := ih hrest
    simp only [List.length_cons]
    omega
  | case3 escaped rest _ =>
    cases h
    simp only [List.length_cons]
    omega
  | case4 escaped c rest _ ih =>
    obtain ⟨⟨body, _⟩, hrest, heq⟩ := Option.map_eq_some_iff.mp h
    cases heq
    exact Nat.lt_succ_of_lt (ih hrest)

/-! ### What is read is a token -/

/-- The longest name at the start of a text. -/
theorem StartsWith.longest_name {c : Char} {cs : List Char} (hc : isNameStart c = true) :
    StartsWith (c :: cs) (.name (String.ofList (c :: cs.takeWhile isNameRest)))
      (c :: cs.takeWhile isNameRest) (cs.dropWhile isNameRest) := by
  have hname : StartsWith (c :: (cs.takeWhile isNameRest ++ cs.dropWhile isNameRest)) _ _ _ :=
    .name hc (fun _ => List.mem_takeWhile_imp) Text.head?_dropWhile
  rwa [List.takeWhile_append_dropWhile] at hname

/-- The longest number at the start of a text. -/
theorem isNumeral_longest {c : Char} (cs : List Char) (hc : c = '-' ∨ c.isDigit = true) :
    IsNumeral c (cs.takeWhile (!endsNumber ·)) (cs.dropWhile (!endsNumber ·)) where
  start := hc
  inside x hx := by simpa using List.mem_takeWhile_imp hx
  behind x hx := by simpa using Text.head?_dropWhile x hx

variable {cs lexeme rest : List Char} {t : Token}

/-- What is read is a token that the text starts with.

**Proof sketch.** The branches of the reader are the forms of tokens, as far as it does not give up. -/
theorem startsWith_of_token (h : token cs = (t, lexeme, rest)) (hvalid : t ≠ .malformed) :
    StartsWith cs t lexeme rest := by
  have hread {left : List Char × List Char} : (Token.malformed, left) ≠ (t, lexeme, rest) := fun heq =>
    hvalid (congrArg Prod.fst heq).symm
  unfold token at h
  simp only at h
  split at h
  · cases h
    exact .spread _
  -- a block of lines, whose value may be missing
  · split at h
    · exact absurd h hread
    · next hbody =>
      split at h
      · next hvalue =>
        cases h
        exact .block hbody hvalue
      · next hvalue =>
        cases h
        exact .tornBlock hbody hvalue
  -- a text on one line
  · next hcs =>
    split at h
    · exact absurd h hread
    · next hbody =>
      split at h
      · next hvalue =>
        cases h
        exact .quoted hcs hbody hvalue
      · exact absurd h hread
  -- everything else is told by its first character
  · next c tail _ _ _ =>
    have htail := List.takeWhile_append_dropWhile (p := (!endsNumber ·)) (l := tail)
    split_ifs at h with hmark hstart hnumber hfraction
    · cases h
      exact .mark (List.contains_iff_mem.mp hmark) _
    · cases h
      exact .longest_name hstart
    · split at h
      · next hx =>
        cases h
        have hfloat := StartsWith.float (isNumeral_longest tail (by simpa using hnumber)) hfraction hx
        rwa [htail] at hfloat
      · exact absurd h hread
    · split at h
      · next hn =>
        cases h
        have hint := StartsWith.int (isNumeral_longest tail (by simpa using hnumber)) hfraction hn
        rwa [htail] at hint
      · exact absurd h hread
    · exact absurd h hread
  · exact absurd h hread

/-! ### A token is read -/

/-- The characters of a number are read as a number, with or without a fraction. -/
theorem IsNumeral.token_cons {c : Char} {word : List Char} (h : IsNumeral c word rest) :
    token (c :: (word ++ rest)) =
      if (c :: word).any fun x => x == '.' || x == 'e' || x == 'E' then
        match float? (c :: word) with
        | some x => (.float x, c :: word, rest)
        | none => (.malformed, [], c :: (word ++ rest))
      else
        match integer? (c :: word) with
        | some n => (.int n, c :: word, rest)
        | none => (.malformed, [], c :: (word ++ rest)) := by
  obtain ⟨hdot, hquote, -, hmark, hname⟩ := numberStart_ne h.start
  have hword : ∀ x ∈ word, (!endsNumber x) = true := fun x hx => by rw [h.inside x hx]; rfl
  have hrest : ∀ x ∈ rest.head?, (!endsNumber x) = false := fun x hx => by rw [h.behind x hx]; rfl
  rewrite [token.eq_4 c _ (fun _ h _ => hdot h) (fun _ h _ => hquote h) hquote,
    if_neg (List.contains_iff_mem.not.mpr hmark), if_neg (by rw [hname]; decide),
    if_pos (by simpa using h.start), Text.takeWhile_append_of_head? hword hrest,
    Text.dropWhile_append_of_head? hword hrest]
  rfl

namespace StartsWith

/-- A token that the text starts with is read.

**Proof sketch.** By the kind of the token. A mark, a letter and the start of a number are told apart by
their first character, and they are none of the characters that are asked for before them. -/
theorem token_eq (h : StartsWith cs t lexeme rest) : token cs = (t, lexeme, rest) := by
  cases h with
  | spread => rfl
  | block hbody hvalue => simp only [token, hbody, hvalue]
  | tornBlock hbody hvalue => simp only [token, hbody, hvalue]
  | quoted hcs hbody hvalue =>
    rw [token.eq_3 _ hcs]
    simp only [hbody, hvalue]
  | @mark c hc rest =>
    obtain ⟨hdot, hquote, -⟩ := mark_ne hc
    rw [token.eq_4 c rest (fun _ h _ => hdot h) (fun _ h _ => hquote h) hquote,
      if_pos (List.contains_iff_mem.mpr hc)]
  | @name c word rest hc hword hrest =>
    obtain ⟨hdot, hquote, -, hmark⟩ := nameStart_ne hc
    rw [token.eq_4 c _ (fun _ h _ => hdot h) (fun _ h _ => hquote h) hquote,
      if_neg (List.contains_iff_mem.not.mpr hmark), if_pos hc,
      Text.takeWhile_append_of_head? hword hrest, Text.dropWhile_append_of_head? hword hrest]
  | @float c word rest x hnumeral hfraction hx =>
    rw [HasFraction] at hfraction
    rw [hnumeral.token_cons, if_pos hfraction, hx]
  | @int c word rest n hnumeral hwhole hn =>
    rw [HasFraction] at hwhole
    rw [hnumeral.token_cons, if_neg hwhole, hn]

/-- A token that the text starts with is not the mark for no token. -/
theorem ne_malformed (h : StartsWith cs t lexeme rest) : t ≠ .malformed := by
  cases h <;> exact Token.noConfusion

/-- A text that starts with a token is not passed over. -/
theorem skip_eq (h : StartsWith cs t lexeme rest) (p : Position) : skip p cs = (p, cs) := by
  cases h with
  | spread | block | tornBlock | quoted => exact skip_cons_of_not_mem (by decide) _ p
  | mark hc => exact skip_cons_of_not_mem (mark_ne hc).2.2 _ p
  | name hc => exact skip_cons_of_not_mem (nameStart_ne hc).2.2.1 _ p
  | float hnumeral | int hnumeral => exact skip_cons_of_not_mem (numberStart_ne hnumeral.start).2.2.1 _ p

/-- A token takes at least one character. -/
theorem length_lt (h : StartsWith cs t lexeme rest) : rest.length < cs.length := by
  cases h with
  | spread | mark | name | float | int => simp <;> omega
  | block hbody | tornBlock hbody =>
    have hlt := length_lt_of_blockBody hbody
    simp only [List.length_cons]
    omega
  | quoted _ hbody => exact Nat.lt_succ_of_lt (length_lt_of_stringBody hbody)

end StartsWith

/-- **The token that is read is the one that the text starts with**, unless the reader gives up. -/
theorem token_eq_iff (hvalid : t ≠ .malformed) :
    token cs = (t, lexeme, rest) ↔ StartsWith cs t lexeme rest :=
  ⟨fun h => startsWith_of_token h hvalid, StartsWith.token_eq⟩

end SchemaQueries.Sdl
