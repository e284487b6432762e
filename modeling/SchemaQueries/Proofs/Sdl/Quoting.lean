import SchemaQueries.Proofs.Sdl.Lexing

/-!
# Which strings quoted texts are read as

A printed text stands between quotes, on one line or as a block of lines, and is read as a string.
That string need not be the text itself: the code point of a character is printed in decimal and
read as hexadecimal digits, and a block of lines loses its blank lines at the start and at the end.

## Main definitions

* `Sdl.IsReadBack` — a text that is read as a string after it has been quoted.
* `Sdl.IsOneLine` — a text that is read back as it is.
* `Text.readBackChar`, `Layout.readBack` — what a quoted character and a quoted text are read as.
* `Sdl.IsLineBreak` — the line breaks that files are written with.

## Main results

* `Sdl.emits_quotedLine` — a text on one line is read as a string, whatever its characters are.
* `Sdl.emits_block` — so is a block of lines that stands for a text.
* `Sdl.emits_quoted` — so is every text without line feeds and every text of ASCII characters,
  however it is quoted.
* `Sdl.readBack_of_isOneLine` — a text that holds neither a line feed nor a character that is
  printed by its code point is read back as it is.

## Implementation notes

A block of lines of other characters may fail to be read, because the indentation of a block is
counted in bytes. That is why the lines of a block are taken to be ASCII.
-/

set_option autoImplicit false
set_option relaxedAutoImplicit false

namespace SchemaQueries

namespace Sdl

/-! ### Characters between quotes -/

/-- A character that a text on one line can hold, and that is not escaped by its code point. -/
def IsOneLineChar (c : Char) : Prop :=
  c = '\t' ∨ c = '\r' ∨ 0x20 ≤ c.toNat ∧ c.toNat ≤ 0xFFFF

/-- The text is on one line, and none of its characters is escaped by its code point. -/
def IsOneLine (s : String) : Prop :=
  ∀ c ∈ s.toList, IsOneLineChar c

instance : DecidablePred IsOneLineChar := fun c =>
  inferInstanceAs (Decidable (c = '\t' ∨ c = '\r' ∨ 0x20 ≤ c.toNat ∧ c.toNat ≤ 0xFFFF))

instance : DecidablePred IsOneLine := fun s =>
  List.decidableBAll _ s.toList

/-- A character of a text on one line is no line feed. -/
theorem IsOneLineChar.ne_lineFeed {c : Char} (h : IsOneLineChar c) : c ≠ '\n' := by
  rintro rfl
  rcases h with h | h | h <;> exact absurd h (by decide)

/-- A character of a text on one line can stand between quotes. -/
theorem IsOneLineChar.isQuotable {c : Char} (h : IsOneLineChar c) : Text.isQuotable c = true := by
  rcases h with rfl | rfl | hcode
  · decide
  · decide
  · simp [Text.isQuotable, hcode]

/-- How a character is written between quotes: with a letter or itself behind a backslash, as it
is, or by at least four digits.

**Proof sketch.** By cases on the five characters that have a letter or stand for themselves behind a
backslash. Any other character is written as it is if it can be quoted, and else by its number, filled
up to four digits. -/
theorem quotedChar_cases (c : Char) :
    (∃ x, Text.quotedChar c = ['\\', x] ∧ ((c, x) = ('\r', 'r') ∨ (c, x) = ('\n', 'n') ∨
      (c, x) = ('\t', 't') ∨ (c, x) = ('"', '"') ∨ (c, x) = ('\\', '\\'))) ∨
    (c ≠ '\n' ∧ c ≠ '"' ∧ c ≠ '\\' ∧ Text.quotedChar c = [c]) ∨
    (Text.isQuotable c = false ∧ ∃ digits, Text.quotedChar c = '\\' :: 'u' :: digits ∧
      4 ≤ digits.length ∧ ∀ x ∈ digits, x.isDigit = true) := by
  by_cases hreturn : c = '\r'
  · exact .inl ⟨'r', by rw [hreturn]; rfl, by simp [hreturn]⟩
  by_cases hline : c = '\n'
  · exact .inl ⟨'n', by rw [hline]; rfl, by simp [hline]⟩
  by_cases htab : c = '\t'
  · exact .inl ⟨'t', by rw [htab]; rfl, by simp [htab]⟩
  by_cases hquote : c = '"'
  · exact .inl ⟨'"', by rw [hquote]; rfl, by simp [hquote]⟩
  by_cases hback : c = '\\'
  · exact .inl ⟨'\\', by rw [hback]; rfl, by simp [hback]⟩
  cases hquotable : Text.isQuotable c with
  | true =>
    refine .inr (.inl ⟨hline, hquote, hback, ?_⟩)
    simp [Text.quotedChar, htab, hreturn, hquote, hback, hline, hquotable]
  | false =>
    refine .inr (.inr ⟨rfl, List.replicate (4 - (Nat.toDigits 10 c.toNat).length) '0' ++
      Nat.toDigits 10 c.toNat, ?_, ?_, ?_⟩)
    · simp [Text.quotedChar, htab, hreturn, hquote, hback, hline, hquotable]
    · rw [List.length_append, List.length_replicate]
      omega
    · intro x hx
      rcases List.mem_append.mp hx with hx | hx
      · obtain rfl := List.eq_of_mem_replicate hx
        decide
      · exact Nat.isDigit_of_mem_toDigits (by decide) (by decide) hx

/-- A digit is none of the characters that mean something between quotes. -/
theorem isDigit_ne {c : Char} (h : c.isDigit = true) :
    c ≠ '\n' ∧ c ≠ '"' ∧ c ≠ '\\' ∧ c ≠ '+' := by
  refine ⟨?_, ?_, ?_, ?_⟩ <;> rintro rfl <;> exact absurd h (by decide)

/-! ### Where a string ends -/

/-- Characters that mean nothing between quotes are passed over. -/
theorem stringBody_plain {cs : List Char} (h : ∀ c ∈ cs, c ≠ '\n' ∧ c ≠ '"' ∧ c ≠ '\\')
    (rest : List Char) :
    stringBody false (cs ++ rest) =
      (stringBody false rest).map fun (body, after) => (cs ++ body, after) := by
  induction cs with
  | nil => simp
  | cons c cs ih =>
    obtain ⟨⟨hline, hquote, hback⟩, hcs⟩ := List.forall_mem_cons.mp h
    simp [stringBody, hline, hquote, hback, ih hcs, Option.map_map, Function.comp_def]

/-- A character as it is written in a string is passed over as a part of that string. -/
theorem stringBody_quotedChar (c : Char) (rest : List Char) :
    stringBody false (Text.quotedChar c ++ rest) =
      (stringBody false rest).map fun (body, after) => (Text.quotedChar c ++ body, after) := by
  rcases quotedChar_cases c with ⟨x, hx, hcases⟩ | ⟨hline, hquote, hback, hc⟩ |
    ⟨-, digits, hdigits, -, hall⟩
  · rw [hx]
    rcases hcases with hx | hx | hx | hx | hx <;> obtain ⟨-, rfl⟩ := Prod.mk.inj hx <;>
      simp [stringBody, Option.map_map, Function.comp_def]
  · rw [hc]
    exact stringBody_plain (List.forall_mem_singleton.mpr ⟨hline, hquote, hback⟩) rest
  · have hplain : ∀ x ∈ digits, x ≠ '\n' ∧ x ≠ '"' ∧ x ≠ '\\' := fun x hx => by
      obtain ⟨hline, hquote, hback, -⟩ := isDigit_ne (hall x hx)
      exact ⟨hline, hquote, hback⟩
    rw [hdigits]
    simp [stringBody, stringBody_plain hplain rest, Option.map_map, Function.comp_def]

/-- What stands between quotes ends at the closing quote. -/
theorem stringBody_quoted (cs rest : List Char) :
    stringBody false (cs.flatMap Text.quotedChar ++ '"' :: rest) =
      some (cs.flatMap Text.quotedChar, rest) := by
  induction cs with
  | nil => simp [stringBody]
  | cons c cs ih =>
    rw [List.flatMap_cons, List.append_assoc, stringBody_quotedChar, ih]
    rfl

/-! ### What a string stands for -/

/-- Digits stand for themselves. -/
theorem unescape?_digits {cs : List Char} (h : ∀ c ∈ cs, c.isDigit = true) (rest : List Char) :
    unescape? (cs ++ rest) = (unescape? rest).map (cs ++ ·) := by
  induction cs with
  | nil => simp
  | cons c cs ih =>
    obtain ⟨hc, hcs⟩ := List.forall_mem_cons.mp h
    have hback := (isDigit_ne hc).2.2.1
    rw [List.cons_append, unescape?, ih hcs]
    · simp [Option.map_map, Function.comp_def]
    · exact fun _ _ _ _ _ heq => absurd heq hback
    · exact fun _ _ heq => absurd heq hback
    · exact fun heq => absurd heq hback

/-- A digit has a hexadecimal value below ten. -/
theorem hexDigit?_of_isDigit {c : Char} (h : c.isDigit = true) :
    ∃ n ≤ 9, Text.hexDigit? c = some n := by
  refine ⟨c.toNat - '0'.toNat, ?_, by rw [Text.hexDigit?, if_pos h]⟩
  have hle : c.toNat ≤ '9'.toNat := by
    simp only [Char.isDigit, Bool.and_eq_true, decide_eq_true_eq] at h
    exact UInt32.le_iff_toNat_le.mp h.2
  have hnine : '9'.toNat = '0'.toNat + 9 := rfl
  omega

/-- Four digits stand for a character. -/
theorem escapedChar?_of_isDigit {a b c d : Char} (ha : a.isDigit = true) (hb : b.isDigit = true)
    (hc : c.isDigit = true) (hd : d.isDigit = true) : ∃ x, escapedChar? [a, b, c, d] = some x := by
  obtain ⟨na, hna, ha'⟩ := hexDigit?_of_isDigit ha
  obtain ⟨nb, hnb, hb'⟩ := hexDigit?_of_isDigit hb
  obtain ⟨nc, hnc, hc'⟩ := hexDigit?_of_isDigit hc
  obtain ⟨nd, hnd, hd'⟩ := hexDigit?_of_isDigit hd
  have hplus : a ≠ '+' := (isDigit_ne ha).2.2.2
  have hvalue : hexValue? [a, b, c, d] =
      some (16 * (16 * (16 * (16 * 0 + na) + nb) + nc) + nd) := by
    simp [hexValue?, ha', hb', hc', hd']
  have hvalid : (16 * (16 * (16 * (16 * 0 + na) + nb) + nc) + nd).isValidChar := .inl (by omega)
  refine ⟨Char.ofNat (16 * (16 * (16 * (16 * 0 + na) + nb) + nc) + nd), ?_⟩
  rw [escapedChar?]
  · rw [hvalue, Option.bind_some, if_pos hvalid]
  · exact fun rest heq => absurd (List.cons.inj heq).1 hplus

/-- A character as it is written in a string stands for some text by itself.

**Proof sketch.** By the way in which the character is written (`quotedChar_cases`). Of a number, only
the first four digits belong to the escape, and those behind them stand for themselves. -/
theorem exists_unescape?_quotedChar (c : Char) :
    ∃ text, ∀ rest, unescape? (Text.quotedChar c ++ rest) = (unescape? rest).map (text ++ ·) := by
  rcases quotedChar_cases c with ⟨x, hx, hcases⟩ | ⟨-, -, hback, hc⟩ |
    ⟨-, digits, hdigits, hlen, hall⟩
  · refine ⟨[c], fun rest => ?_⟩
    rw [hx]
    rcases hcases with hx | hx | hx | hx | hx <;> obtain ⟨rfl, rfl⟩ := Prod.mk.inj hx <;>
      simp [unescape?]
  · refine ⟨[c], fun rest => ?_⟩
    rw [hc, List.singleton_append, unescape?]
    · rfl
    · exact fun _ _ _ _ _ heq => absurd heq hback
    · exact fun _ _ heq => absurd heq hback
    · exact fun heq => absurd heq hback
  · match digits, hlen with
    | a :: b :: x :: d :: more, _ =>
      simp only [List.forall_mem_cons] at hall
      obtain ⟨ha, hb, hx, hd, hmore⟩ := hall
      obtain ⟨y, hy⟩ := escapedChar?_of_isDigit ha hb hx hd
      refine ⟨y :: more, fun rest => ?_⟩
      rw [hdigits]
      simp only [List.cons_append]
      rw [unescape?, hy, Option.bind_some, unescape?_digits hmore]
      simp [Option.map_map, Function.comp_def]

end Sdl

/-- What a character is read as after it has been quoted. -/
def Text.readBackChar (c : Char) : List Char :=
  (Sdl.unescape? (Text.quotedChar c)).getD []

namespace Sdl

/-- A character as it is written in a string is read as that. -/
theorem unescape?_quotedChar (c : Char) (rest : List Char) :
    unescape? (Text.quotedChar c ++ rest) = (unescape? rest).map (Text.readBackChar c ++ ·) := by
  obtain ⟨text, htext⟩ := exists_unescape?_quotedChar c
  have hself : unescape? (Text.quotedChar c) = some text := by
    rw [← List.append_nil (Text.quotedChar c), htext, unescape?]
    simp
  rw [htext, Text.readBackChar, hself, Option.getD_some]

/-- What stands between quotes is read character by character. -/
theorem unescape?_quoted (cs : List Char) :
    unescape? (cs.flatMap Text.quotedChar) = some (cs.flatMap Text.readBackChar) := by
  induction cs with
  | nil => rfl
  | cons c cs ih =>
    rw [List.flatMap_cons, unescape?_quotedChar, ih]
    rfl

/-- A character that can stand between quotes is read back as it is. -/
theorem readBackChar_of_isQuotable {c : Char} (h : Text.isQuotable c = true) :
    Text.readBackChar c = [c] := by
  rcases quotedChar_cases c with ⟨x, hx, hcases⟩ | ⟨-, -, hback, hc⟩ | ⟨hnot, -⟩
  · rw [Text.readBackChar, hx]
    rcases hcases with hx | hx | hx | hx | hx <;> obtain ⟨rfl, rfl⟩ := Prod.mk.inj hx <;> rfl
  · rw [Text.readBackChar, hc, unescape?]
    · rfl
    · exact fun _ _ _ _ _ heq => absurd heq hback
    · exact fun _ _ heq => absurd heq hback
    · exact fun heq => absurd heq hback
  · rw [h] at hnot
    exact absurd hnot (by decide)

/-! ### Texts on one line -/

/-- A quoted character does not start with a quote. -/
theorem exists_head_quotedChar (c : Char) : ∃ x tail, Text.quotedChar c = x :: tail ∧ x ≠ '"' := by
  rcases quotedChar_cases c with ⟨x, hx, -⟩ | ⟨-, hquote, -, hc⟩ | ⟨-, digits, hdigits, -⟩
  · exact ⟨_, _, hx, by decide⟩
  · exact ⟨_, _, hc, hquote⟩
  · exact ⟨_, _, hdigits, by decide⟩

/-- A text quoted on one line does not start with three quotes. -/
theorem quoted_ne_quotes (cs : List Char) {rest : List Char} (hends : EndsString rest)
    (tail : List Char) : cs.flatMap Text.quotedChar ++ '"' :: rest ≠ '"' :: '"' :: tail := by
  intro heq
  cases cs with
  | nil =>
    obtain rfl := (List.cons.inj heq).2
    exact hends '"' (by simp) rfl
  | cons c cs =>
    obtain ⟨x, more, hx, hquote⟩ := exists_head_quotedChar c
    rw [List.flatMap_cons, hx] at heq
    exact hquote (List.cons.inj heq).1

/-- A text quoted on one line is read as a string. -/
theorem emits_quotedLine (cs : List Char) (opened : Nat) (hopened : opened ≤ maxOpen) :
    EmitsBefore EndsString opened (Text.quotedLine cs)
      [.string (String.ofList (cs.flatMap Text.readBackChar))] opened := by
  intro rest us hends hrest
  have ht := StartsWith.quoted (quoted_ne_quotes cs hends) (stringBody_quoted cs rest)
    (unescape?_quoted cs)
  have htext : Text.quotedLine cs ++ rest =
      '"' :: (cs.flatMap Text.quotedChar ++ '"' :: rest) := by
    simp [Text.quotedLine]
  rw [htext]
  exact Lexes.of_startsWith ht hopened hrest

/-- A text quoted on one line has no line feed. -/
theorem lineFeed_not_mem_quotedLine (cs : List Char) : '\n' ∉ Text.quotedLine cs := by
  have hbody : '\n' ∉ cs.flatMap Text.quotedChar := by
    rw [List.mem_flatMap]
    rintro ⟨c, -, hline⟩
    rcases quotedChar_cases c with ⟨x, hx, hcases⟩ | ⟨hne, -, -, hself⟩ |
      ⟨-, digits, hdigits, -, hall⟩
    · rw [hx] at hline
      rcases hcases with hx | hx | hx | hx | hx <;> obtain ⟨-, rfl⟩ := Prod.mk.inj hx <;>
        exact absurd hline (by decide)
    · rw [hself, List.mem_singleton] at hline
      exact hne hline.symm
    · rw [hdigits] at hline
      have hmem : '\n' ∈ digits := by simpa using hline
      exact absurd (hall '\n' hmem) (by decide)
  simpa [Text.quotedLine] using hbody

/-! ### Where a block of lines ends -/

/-- The text is a part of a block of lines: it is passed over in search of the closing quotes. -/
def PassesBlock (cs : List Char) : Prop :=
  ∀ rest, blockBody false (cs ++ rest) =
    (blockBody false rest).map fun (body, after) => (cs ++ body, after)

namespace PassesBlock

/-- Nothing is passed over. -/
theorem nil : PassesBlock [] := fun rest => by simp

/-- Parts of a block are passed over one after the other. -/
theorem append {cs ds : List Char} (h : PassesBlock cs) (h' : PassesBlock ds) :
    PassesBlock (cs ++ ds) := fun rest => by
  rw [List.append_assoc, h, h']
  simp [Option.map_map, Function.comp_def]

/-- Any number of parts of a block are passed over. -/
theorem flatMap {α : Type} {f : α → List Char} {xs : List α} (h : ∀ x ∈ xs, PassesBlock (f x)) :
    PassesBlock (xs.flatMap f) := by
  induction xs with
  | nil => exact nil
  | cons x xs ih =>
    obtain ⟨hx, hxs⟩ := List.forall_mem_cons.mp h
    exact hx.append (ih hxs)

end PassesBlock

/-- A character other than a quote is passed over. It matters for what follows only if it is a
backslash. -/
theorem blockBody_cons {c : Char} (hc : c ≠ '"') (escaped : Bool) (rest : List Char) :
    blockBody escaped (c :: rest) =
      (blockBody (c == '\\') rest).map fun (body, after) => (c :: body, after) := by
  rw [blockBody]
  exact fun _ heq => absurd heq hc

/-- Characters other than quotes and backslashes are passed over. -/
theorem passesBlock_plain {cs : List Char} (h : ∀ c ∈ cs, c ≠ '"' ∧ c ≠ '\\') :
    PassesBlock cs := by
  induction cs with
  | nil => exact .nil
  | cons c cs ih =>
    obtain ⟨⟨hquote, hback⟩, hcs⟩ := List.forall_mem_cons.mp h
    intro rest
    rw [List.cons_append, blockBody_cons hquote, beq_false_of_ne hback, ih hcs rest]
    simp [Option.map_map, Function.comp_def]

/-- A line is escaped character by character, unless it starts with three quotes. -/
theorem escapeTripleQuotes_cons (c : Char) (cs : List Char) :
    (∃ more, c = '"' ∧ cs = '"' :: '"' :: more) ∨
      Text.escapeTripleQuotes (c :: cs) = c :: Text.escapeTripleQuotes cs := by
  by_cases h : ∃ more, c = '"' ∧ cs = '"' :: '"' :: more
  · exact .inl h
  · right
    rw [Text.escapeTripleQuotes]
    exact fun more hc hcs => h ⟨more, hc, hcs⟩

/-- Behind a quote, an escaped line that ends with another character than a quote does not go on
with two quotes, unless the line itself does. -/
theorem escapeTripleQuotes_ne {cs rest tail : List Char} {e : Char} (he : e ≠ '"')
    (hcs : ∀ more, cs ≠ '"' :: '"' :: more) :
    Text.escapeTripleQuotes cs ++ e :: rest ≠ '"' :: '"' :: tail := by
  intro heq
  cases cs with
  | nil => exact he (List.cons.inj heq).1
  | cons c cs =>
    rcases escapeTripleQuotes_cons c cs with ⟨more, rfl, rfl⟩ | hc
    · exact hcs _ rfl
    · rw [hc] at heq
      obtain ⟨rfl, htail⟩ := List.cons.inj heq
      cases cs with
      | nil => exact he (List.cons.inj htail).1
      | cons d cs =>
        rcases escapeTripleQuotes_cons d cs with ⟨more, rfl, rfl⟩ | hd
        · exact hcs _ rfl
        · rw [hd] at htail
          obtain ⟨rfl, -⟩ := List.cons.inj htail
          exact hcs _ rfl

/-- A line of a block is passed over together with a character behind it that is not a quote: every
three quotes in it have a backslash before them.

**Proof sketch.** Induction along the escaping. Three quotes behind a backslash are passed over at
once, and no three quotes arise from what is not escaped. -/
theorem blockBody_escapeTripleQuotes (cs : List Char) {e : Char} (he : e ≠ '"') (escaped : Bool)
    (rest : List Char) :
    blockBody escaped (Text.escapeTripleQuotes cs ++ e :: rest) =
      (blockBody (e == '\\') rest).map fun (body, after) =>
        (Text.escapeTripleQuotes cs ++ e :: body, after) := by
  fun_induction Text.escapeTripleQuotes cs generalizing escaped with
  | case1 cs ih =>
    rw [List.cons_append, blockBody_cons (by decide), List.cons_append, List.cons_append,
      List.cons_append, blockBody, if_pos (by decide), ih]
    simp [Option.map_map, Function.comp_def]
  | case2 c cs hnot ih =>
    have hquotes (more : List Char) :
        c = '"' → Text.escapeTripleQuotes cs ++ e :: rest ≠ '"' :: '"' :: more := by
      rintro rfl
      exact escapeTripleQuotes_ne he fun more heq => hnot more rfl heq
    rw [List.cons_append, blockBody, ih]
    · simp [Option.map_map, Function.comp_def]
    · exact hquotes
  | case3 => exact blockBody_cons he escaped rest

/-- Nothing but backslashes is put into an escaped line. -/
theorem forall_mem_escapeTripleQuotes {p : Char → Prop} {cs : List Char} (hback : p '\\')
    (h : ∀ c ∈ cs, p c) : ∀ c ∈ Text.escapeTripleQuotes cs, p c := by
  fun_induction Text.escapeTripleQuotes cs with
  | case1 cs ih =>
    obtain ⟨hquote, hcs⟩ : p '"' ∧ ∀ c ∈ cs, p c := by simpa using h
    simpa [hback, hquote] using ih hcs
  | case2 c cs _ ih =>
    obtain ⟨hc, hcs⟩ := List.forall_mem_cons.mp h
    exact List.forall_mem_cons.mpr ⟨hc, ih hcs⟩
  | case3 => exact h

/-! ### What a block of lines stands for -/

/-- The lines of a text have its characters, apart from the line feeds. -/
theorem forall_mem_linesAfter {p : Char → Prop} {seen cs : List Char} (hseen : ∀ c ∈ seen, p c)
    (h : ∀ c ∈ cs, c ≠ '\n' → p c) : ∀ line ∈ Text.linesAfter seen cs, ∀ c ∈ line, p c := by
  fun_induction Text.linesAfter seen cs with
  | case1 => exact fun _ hline => absurd hline List.not_mem_nil
  | case2 seen => simpa using hseen
  | case3 seen rest ih =>
    refine List.forall_mem_cons.mpr ⟨fun c hc => hseen c ?_, ih (by simp) fun c hc => ?_⟩
    · unfold Text.lineOfReversed at hc
      split at hc
      · exact List.mem_cons_of_mem _ (List.mem_reverse.mp hc)
      · exact List.mem_reverse.mp hc
    · exact h c (List.mem_cons_of_mem _ hc)
  | case4 seen c rest hline ih =>
    obtain ⟨hc, hrest⟩ := List.forall_mem_cons.mp h
    exact ih (List.forall_mem_cons.mpr ⟨hc fun heq => hline heq, hseen⟩) hrest

/-- A character of ASCII. -/
def IsAsciiChar (c : Char) : Prop :=
  c.toNat < 128

/-- The text is one of ASCII characters. -/
def IsAscii (s : String) : Prop :=
  ∀ c ∈ s.toList, IsAsciiChar c

instance : DecidablePred IsAsciiChar := fun c =>
  inferInstanceAs (Decidable (c.toNat < 128))

instance : DecidablePred IsAscii := fun s =>
  List.decidableBAll _ s.toList

/-- An ASCII character is a single byte. -/
theorem IsAsciiChar.utf8Size {c : Char} (h : IsAsciiChar c) : c.utf8Size = 1 := by
  rw [Char.utf8Size_eq_one_iff]
  exact UInt32.le_iff_toNat_le.mpr (Nat.le_of_lt_succ h)

/-- An ASCII text has one byte for each character. -/
theorem byteLength_of_ascii {cs : List Char} (h : ∀ c ∈ cs, IsAsciiChar c) :
    Text.byteLength cs = cs.length := by
  induction cs with
  | nil => rfl
  | cons c cs ih =>
    obtain ⟨hc, hcs⟩ := List.forall_mem_cons.mp h
    rw [Text.byteLength, hc.utf8Size, ih hcs, List.length_cons, Nat.add_comm]

/-- Bytes at the start of an ASCII text are characters of it. -/
theorem dropBytes?_of_ascii {cs : List Char} (h : ∀ c ∈ cs, IsAsciiChar c) {n : Nat}
    (hn : n ≤ cs.length) : dropBytes? n cs = some (cs.drop n) := by
  induction cs generalizing n with
  | nil =>
    obtain rfl := Nat.le_zero.mp hn
    rw [dropBytes?, List.drop_zero]
  | cons c cs ih =>
    obtain ⟨hc, hcs⟩ := List.forall_mem_cons.mp h
    cases n with
    | zero => rw [dropBytes?, List.drop_zero]
    | succ n =>
      rw [dropBytes?, hc.utf8Size, if_pos (by omega), Nat.add_sub_cancel, List.drop_succ_cons]
      exact ih hcs (Nat.le_of_succ_le_succ hn)

/-- The indentation can be cut off from an ASCII line. -/
theorem exists_unindent?_of_ascii {line : List Char} (h : ∀ c ∈ line, IsAsciiChar c)
    (indent : Nat) : ∃ cut, unindent? indent line = some cut := by
  rw [unindent?, byteLength_of_ascii h]
  split_ifs with hle
  · exact ⟨_, dropBytes?_of_ascii h hle⟩
  · exact ⟨line, rfl⟩

/-- What can be done with each item can be done with all of them. -/
theorem exists_mapM_eq_some {α β : Type} {f : α → Option β} {xs : List α}
    (h : ∀ x ∈ xs, ∃ y, f x = some y) : ∃ ys, xs.mapM f = some ys := by
  induction xs with
  | nil => exact ⟨[], rfl⟩
  | cons x xs ih =>
    obtain ⟨⟨y, hy⟩, hxs⟩ := List.forall_mem_cons.mp h
    obtain ⟨ys, hys⟩ := ih hxs
    exact ⟨y :: ys, by simp [hy, hys]⟩

/-- The lines that are kept are lines of the block. -/
theorem mem_of_mem_trimBlankLines {lines : List (List Char)} {line : List Char}
    (h : line ∈ trimBlankLines lines) : line ∈ lines := by
  have hreverse := (List.dropWhile_suffix Text.isBlank).mem (List.mem_reverse.mp h)
  exact (List.dropWhile_suffix Text.isBlank).mem (List.mem_reverse.mp hreverse)

/-- A block of lines of ASCII characters stands for a text. -/
theorem exists_blockValue_of_ascii {body : List Char} (h : ∀ c ∈ body, IsAsciiChar c) :
    ∃ value, blockValue body = some value := by
  have hlines : ∀ line ∈ Text.lines body, ∀ c ∈ line, IsAsciiChar c :=
    forall_mem_linesAfter (by simp) fun c hc _ => h c hc
  have hkept : ∀ line ∈ trimBlankLines (Text.lines body),
      ∃ cut, unindent? (commonIndent (Text.lines body)) line = some cut := fun line hline =>
    exists_unindent?_of_ascii (hlines line (mem_of_mem_trimBlankLines hline)) _
  unfold blockValue
  simp only
  split_ifs with hblank
  · cases hlist : trimBlankLines (Text.lines body) with
    | nil => exact ⟨_, rfl⟩
    | cons first rest =>
      rw [hlist] at hkept
      obtain ⟨cut, hcut⟩ := exists_mapM_eq_some (List.forall_mem_cons.mp hkept).2
      exact ⟨_, by simp [hcut]; rfl⟩
  · obtain ⟨cut, hcut⟩ := exists_mapM_eq_some hkept
    exact ⟨_, by simp [hcut]; rfl⟩

/-! ### Texts in a block of lines -/

/-- One of the line breaks that files are written with. -/
def IsLineBreak (lineBreak : List Char) : Prop :=
  lineBreak = ['\n'] ∨ lineBreak = ['\r', '\n']

/-- A line break starts with a character that is no quote. -/
theorem IsLineBreak.exists_cons {lineBreak : List Char} (h : IsLineBreak lineBreak) :
    ∃ e more, lineBreak = e :: more ∧ e ≠ '"' ∧ e ≠ '\\' ∧ ∀ c ∈ more, c ≠ '"' ∧ c ≠ '\\' := by
  rcases h with rfl | rfl
  · exact ⟨_, _, rfl, by decide, by decide, by simp⟩
  · exact ⟨_, _, rfl, by decide, by decide, by simp⟩

end Sdl

/-- What stands between the triple quotes of a text in a block of lines. -/
def Layout.blockInner (l : Layout) (s : String) : List Char :=
  '\n' :: (Text.lines s.toList).flatMap l.deeper.blockLine ++ l.margin

/-- What a text is read as after it has been quoted and the line feeds have been replaced. -/
def Layout.readBack (lineBreak : List Char) (l : Layout) (s : String) : String :=
  if s.toList.contains '\n' && s.toList.all Text.isQuotable then
    String.ofList ((Sdl.blockValue (Text.withLineBreak lineBreak (l.blockInner s))).getD [])
  else String.ofList (s.toList.flatMap Text.readBackChar)

namespace Sdl

variable {lineBreak : List Char}

/-- The margin of a line is passed over. -/
theorem passesBlock_margin (l : Layout) : PassesBlock l.margin := by
  refine passesBlock_plain fun c hc => ?_
  obtain rfl := List.eq_of_mem_replicate hc
  decide

/-- A line break is passed over. -/
theorem passesBlock_lineBreak (hlb : IsLineBreak lineBreak) : PassesBlock lineBreak := by
  obtain ⟨e, more, rfl, hquote, hback, hmore⟩ := hlb.exists_cons
  exact passesBlock_plain (List.forall_mem_cons.mpr ⟨⟨hquote, hback⟩, hmore⟩)

/-- A line with its line break is passed over. -/
theorem passesBlock_line (hlb : IsLineBreak lineBreak) (cs : List Char) :
    PassesBlock (Text.escapeTripleQuotes cs ++ lineBreak) := by
  obtain ⟨e, more, rfl, hquote, hback, hmore⟩ := hlb.exists_cons
  have hplain := passesBlock_plain hmore
  intro rest
  rw [List.append_assoc, List.cons_append, blockBody_escapeTripleQuotes cs hquote,
    beq_false_of_ne hback, hplain rest]
  simp [Option.map_map, Function.comp_def]

/-- The text of a line break. -/
theorem withLineBreak_lineFeed_singleton : Text.withLineBreak lineBreak ['\n'] = lineBreak := by
  simp [Text.withLineBreak]

/-- A margin has no line feed. -/
theorem lineFeed_not_mem_margin (l : Layout) : '\n' ∉ l.margin := fun h =>
  absurd (List.eq_of_mem_replicate h) (by decide)

/-- A line of a block is printed with its line break. -/
theorem withLineBreak_blockLine (l : Layout) {line : List Char} (h : '\n' ∉ line) :
    Text.withLineBreak lineBreak (l.blockLine line) =
      if Text.isBlank line then lineBreak
      else l.margin ++ (Text.escapeTripleQuotes line ++ lineBreak) := by
  have hescaped : '\n' ∉ Text.escapeTripleQuotes line := fun hmem =>
    forall_mem_escapeTripleQuotes (p := (· ≠ '\n')) (by decide)
      (fun c hc heq => h (heq ▸ hc)) _ hmem rfl
  rw [Layout.blockLine, Text.withLineBreak_append, withLineBreak_lineFeed_singleton]
  split_ifs
  · rfl
  · rw [Text.withLineBreak_append, Text.withLineBreak_of_not_mem (lineFeed_not_mem_margin l),
      Text.withLineBreak_of_not_mem hescaped, List.append_assoc]

/-- The lines of a text hold no line feed. -/
theorem lineFeed_not_mem_of_mem_lines {cs line : List Char} (h : line ∈ Text.lines cs) :
    '\n' ∉ line := fun hmem =>
  forall_mem_linesAfter (p := (· ≠ '\n')) (fun _ hc => absurd hc List.not_mem_nil)
    (fun _ _ hne => hne) line h _ hmem rfl

/-- What stands between triple quotes is made of line breaks and of lines. -/
theorem withLineBreak_blockInner (l : Layout) (s : String) :
    Text.withLineBreak lineBreak (l.blockInner s) = lineBreak ++
      ((Text.lines s.toList).flatMap fun line =>
        Text.withLineBreak lineBreak (l.deeper.blockLine line)) ++ l.margin := by
  have hinner : l.blockInner s =
      ['\n'] ++ (Text.lines s.toList).flatMap l.deeper.blockLine ++ l.margin := rfl
  rw [hinner, Text.withLineBreak_append, Text.withLineBreak_append,
    withLineBreak_lineFeed_singleton, Text.withLineBreak_of_not_mem (lineFeed_not_mem_margin l)]
  congr 2
  exact List.flatMap_assoc

/-- What stands between triple quotes is passed over. -/
theorem passesBlock_blockInner (hlb : IsLineBreak lineBreak) (l : Layout) (s : String) :
    PassesBlock (Text.withLineBreak lineBreak (l.blockInner s)) := by
  rw [withLineBreak_blockInner]
  refine ((passesBlock_lineBreak hlb).append (.flatMap fun line hline => ?_)).append
    (passesBlock_margin l)
  rw [withLineBreak_blockLine _ (lineFeed_not_mem_of_mem_lines hline)]
  split_ifs
  · exact passesBlock_lineBreak hlb
  · exact (passesBlock_margin _).append (passesBlock_line hlb line)

/-- What stands between the triple quotes of an ASCII text is ASCII. -/
theorem isAsciiChar_of_mem_blockInner (hlb : IsLineBreak lineBreak) (l : Layout) {s : String}
    (h : IsAscii s) : ∀ c ∈ Text.withLineBreak lineBreak (l.blockInner s), IsAsciiChar c := by
  have hbreak : ∀ c ∈ lineBreak, IsAsciiChar c := by
    rcases hlb with rfl | rfl <;> exact List.all_iff_forall_prop.mp (by decide)
  have hmargin (l : Layout) : ∀ c ∈ l.margin, IsAsciiChar c := fun c hc => by
    obtain rfl := List.eq_of_mem_replicate hc
    decide
  have hlines : ∀ line ∈ Text.lines s.toList, ∀ c ∈ line, IsAsciiChar c :=
    forall_mem_linesAfter (by simp) fun c hc _ => h c hc
  rw [withLineBreak_blockInner]
  refine List.forall_mem_append.mpr ⟨List.forall_mem_append.mpr ⟨hbreak, ?_⟩, hmargin l⟩
  intro c hc
  obtain ⟨line, hline, hc⟩ := List.mem_flatMap.mp hc
  rw [withLineBreak_blockLine _ (lineFeed_not_mem_of_mem_lines hline)] at hc
  have hescaped := forall_mem_escapeTripleQuotes (p := IsAsciiChar) (by decide) (hlines line hline)
  split_ifs at hc
  · exact hbreak c hc
  · exact List.forall_mem_append.mpr
      ⟨hmargin _, List.forall_mem_append.mpr ⟨hescaped, hbreak⟩⟩ c hc

/-- A block of lines that stands for a text is read as a string. -/
theorem emits_block {body value : List Char} (hpasses : PassesBlock body)
    (hvalue : blockValue body = some value) (opened : Nat) (hopened : opened ≤ maxOpen) :
    Emits opened (['"', '"', '"'] ++ body ++ ['"', '"', '"']) [.string (String.ofList value)]
      opened := by
  intro rest us _ hrest
  have hbody : blockBody false (body ++ '"' :: '"' :: '"' :: rest) = some (body, rest) := by
    rw [hpasses, blockBody, if_neg (by decide)]
    simp
  have htext : ['"', '"', '"'] ++ body ++ ['"', '"', '"'] ++ rest =
      '"' :: '"' :: '"' :: (body ++ '"' :: '"' :: '"' :: rest) := by simp
  rw [htext]
  exact Lexes.of_startsWith (.block hbody hvalue) hopened hrest

/-! ### Quoted texts -/

/-- A text that is read as a string after it has been quoted: one without line feeds, or one of
ASCII characters. -/
def IsReadBack (s : String) : Prop :=
  '\n' ∉ s.toList ∨ IsAscii s

/-- A quoted text is read as a string, with either line break.

**Proof sketch.** A text of several lines whose characters can be quoted is printed as a block string.
It is ASCII, so the block is read, as what is left without its indentation. Any other text is printed in
one line, and each line feed in it is escaped, so the line break makes no difference. -/
theorem emits_quoted (hlb : IsLineBreak lineBreak) (l : Layout) {s : String} (h : IsReadBack s)
    (opened : Nat) (hopened : opened ≤ maxOpen) :
    EmitsBefore EndsString opened (Text.withLineBreak lineBreak (l.quoted s))
      [.string (l.readBack lineBreak s)] opened := by
  by_cases hblock : (s.toList.contains '\n' && s.toList.all Text.isQuotable) = true
  · have hascii : IsAscii s := h.resolve_left fun hnot => hnot (by simp_all)
    obtain ⟨value, hvalue⟩ :=
      exists_blockValue_of_ascii (isAsciiChar_of_mem_blockInner hlb l hascii)
    have htext : Text.withLineBreak lineBreak (l.quoted s) = ['"', '"', '"'] ++
        Text.withLineBreak lineBreak (l.blockInner s) ++ ['"', '"', '"'] := by
      have hquotes : Text.withLineBreak lineBreak ['"', '"', '"'] = ['"', '"', '"'] := rfl
      have hquoted : l.quoted s = ['"', '"', '"'] ++ l.blockInner s ++ ['"', '"', '"'] := by
        rw [Layout.quoted, if_pos hblock, Layout.blockInner]
        simp
      rw [hquoted, Text.withLineBreak_append, Text.withLineBreak_append, hquotes]
    rw [htext, Layout.readBack, if_pos hblock, hvalue, Option.getD_some]
    exact EmitsBefore.imp (emits_block (passesBlock_blockInner hlb l s) hvalue opened hopened)
      fun _ _ => trivial
  · rw [Layout.quoted, if_neg hblock, Layout.readBack, if_neg hblock,
      Text.withLineBreak_of_not_mem (lineFeed_not_mem_quotedLine _)]
    exact emits_quotedLine s.toList opened hopened

/-- A text on one line has no line feed. -/
theorem IsOneLine.lineFeed_not_mem {s : String} (h : IsOneLine s) : '\n' ∉ s.toList :=
  fun hmem => (h '\n' hmem).ne_lineFeed rfl

/-- A text on one line is read back as it is. -/
theorem readBack_of_isOneLine (l : Layout) {s : String} (h : IsOneLine s) :
    l.readBack lineBreak s = s := by
  have hsame (cs : List Char) (hcs : ∀ c ∈ cs, IsOneLineChar c) :
      cs.flatMap Text.readBackChar = cs := by
    induction cs with
    | nil => rfl
    | cons c cs ih =>
      obtain ⟨hc, hcs⟩ := List.forall_mem_cons.mp hcs
      rw [List.flatMap_cons, ih hcs, readBackChar_of_isQuotable hc.isQuotable,
        List.singleton_append]
  rw [Layout.readBack, if_neg, hsame _ h, String.ofList_toList]
  simp [h.lineFeed_not_mem]

end Sdl

end SchemaQueries
