import SchemaQueries.Proofs.Sdl.Legible
import SchemaQueries.Proofs.Sdl.Quoting

/-!
# The tokens of printed names, types and values

Whatever is printed of a schema is put together from pieces with gaps, marks and brackets between
them. Every piece is read as its tokens, with either line break, before everything that does not
merge with a token.

## Main definitions

* `Sdl.EndsToken`, `Sdl.StartsApart` — what does not merge with a token before it.
* `Sdl.Prints` — a printed piece is read as these tokens.

## Main results

* `Sdl.prints_name`, `Sdl.prints_quoted`, `Sdl.prints_int` — names, texts and integers.
* `Sdl.prints_between`, `Sdl.prints_parentheses`, `Sdl.prints_separated` — lists of pieces.
* `Sdl.prints_typeRef`, `Sdl.prints_value` — type references and values.
-/

set_option autoImplicit false
set_option relaxedAutoImplicit false

namespace SchemaQueries

namespace Sdl

/-! ### What does not merge with a token -/

/-- What does not merge with any token before it. -/
def EndsToken (rest : List Char) : Prop :=
  ∀ c ∈ rest.head?, endsNumber c = true

/-- What does not merge with any token before it, whatever follows. -/
def StartsApart (cs : List Char) : Prop :=
  ∃ c ∈ cs.head?, endsNumber c = true

/-- A character that ends a number is one of the blanks, line ends and punctuation characters. -/
theorem endsNumber_cases {c : Char} (h : endsNumber c = true) :
    c ∈ [' ', '\n', '\r', '\t', ',', '#'] ++ marks := by
  simpa [endsNumber, or_assoc] using h

/-- A punctuation character ends a number. -/
theorem endsNumber_of_mem_marks {c : Char} (h : c ∈ marks) : endsNumber c = true := by
  simp [endsNumber, h]

namespace EndsToken

variable {cs ds : List Char}

/-- Nothing merges with no token. -/
theorem nil : EndsToken [] := by
  simp [EndsToken]

/-- What does not merge with a token does not merge with a name. -/
theorem endsName (h : EndsToken cs) : EndsName cs := fun c hc =>
  have hall : ∀ c ∈ [' ', '\n', '\r', '\t', ',', '#'] ++ marks, isNameRest c = false :=
    List.all_iff_forall_prop.mp (by decide)
  hall c (endsNumber_cases (h c hc))

/-- What does not merge with a token does not merge with a text between quotes. -/
theorem endsString (h : EndsToken cs) : EndsString cs := fun c hc =>
  have hall : ∀ c ∈ [' ', '\n', '\r', '\t', ',', '#'] ++ marks, c ≠ '"' :=
    List.all_iff_forall_prop.mp (by decide)
  hall c (endsNumber_cases (h c hc))

/-- Two pieces that do not merge with a token before them. -/
theorem append (h : EndsToken cs) (h' : EndsToken ds) : EndsToken (cs ++ ds) := by
  cases cs with
  | nil => exact h'
  | cons c cs => exact h

/-- With other line breaks, too, a piece does not merge with a token. -/
theorem withLineBreak {lineBreak : List Char} (hlb : IsLineBreak lineBreak) (h : EndsToken cs) :
    EndsToken (Text.withLineBreak lineBreak cs) := by
  cases cs with
  | nil => exact nil
  | cons c cs =>
    by_cases hline : c = '\n'
    · subst hline
      rcases hlb with rfl | rfl <;> simp [Text.withLineBreak, EndsToken] <;> decide
    · simpa [Text.withLineBreak, EndsToken, hline] using h

end EndsToken

namespace StartsApart

variable {cs ds : List Char}

/-- A character that ends a number stands apart. -/
theorem cons {c : Char} (hc : endsNumber c = true) (cs : List Char) : StartsApart (c :: cs) :=
  ⟨c, rfl, hc⟩

/-- What stands apart does not merge with a token before it. -/
theorem endsToken (h : StartsApart cs) : EndsToken cs := by
  obtain ⟨c, hc, hends⟩ := h
  intro d hd
  obtain rfl := Option.mem_unique hc hd
  exact hends

/-- What stands apart does so whatever follows it. -/
theorem append (h : StartsApart cs) (ds : List Char) : StartsApart (cs ++ ds) := by
  obtain ⟨c, hc, hends⟩ := h
  exact ⟨c, by simp_all, hends⟩

/-- What stands apart does so behind something that does not merge with a token either. -/
theorem append_left (h : EndsToken cs) (h' : StartsApart ds) : StartsApart (cs ++ ds) := by
  cases cs with
  | nil => exact h'
  | cons c cs => exact ⟨c, rfl, h c rfl⟩

/-- What stands apart does so with other line breaks, too. -/
theorem withLineBreak {lineBreak : List Char} (hlb : IsLineBreak lineBreak) (h : StartsApart cs) :
    StartsApart (Text.withLineBreak lineBreak cs) := by
  cases cs with
  | nil =>
    obtain ⟨c, hc, -⟩ := h
    exact absurd hc (by simp)
  | cons c cs =>
    have hsame := h.endsToken.withLineBreak hlb
    cases hcs : Text.withLineBreak lineBreak (c :: cs) with
    | nil =>
      by_cases hline : c = '\n'
      · rcases hlb with rfl | rfl <;> simp [Text.withLineBreak, hline] at hcs
      · simp [Text.withLineBreak, hline] at hcs
    | cons d ds =>
      rw [hcs] at hsame
      exact ⟨d, rfl, hsame d rfl⟩

end StartsApart

/-! ### Sequences of printed pieces -/

/-- The text, with its line breaks, is read as these tokens before everything of which `follows`
holds. -/
def Prints (lineBreak : List Char) (follows : List Char → Prop) (opened : Nat) (cs : List Char)
    (ts : List Token) (opened' : Nat) : Prop :=
  EmitsBefore follows opened (Text.withLineBreak lineBreak cs) ts opened'

variable {lineBreak : List Char}

namespace Prints

variable {follows follows' : List Char → Prop} {opened opened' opened'' : Nat}
  {cs ds : List Char} {ts us : List Token}

/-- The empty piece. -/
theorem nil : Prints lineBreak follows opened [] [] opened :=
  EmitsBefore.nil

/-- A piece may be put before less than it can stand before. -/
theorem imp (h : Prints lineBreak follows opened cs ts opened')
    (hfollows : ∀ rest, follows' rest → follows rest) :
    Prints lineBreak follows' opened cs ts opened' :=
  EmitsBefore.imp h hfollows

/-- A piece without line feeds is printed as it is. -/
theorem of_emits (h : EmitsBefore follows opened cs ts opened') (hline : '\n' ∉ cs) :
    Prints lineBreak follows opened cs ts opened' := by
  rwa [Prints, Text.withLineBreak_of_not_mem hline]

/-- Two pieces of which the second one does not merge with the first one. -/
theorem append (h : Prints lineBreak follows opened cs ts opened')
    (h' : Prints lineBreak follows' opened' ds us opened'')
    (hfollows : ∀ rest, follows' rest → follows (Text.withLineBreak lineBreak ds ++ rest)) :
    Prints lineBreak follows' opened (cs ++ ds) (ts ++ us) opened'' := by
  rw [Prints, Text.withLineBreak_append]
  exact EmitsBefore.append h h' hfollows

/-- Two pieces of which the first one can stand before everything. -/
theorem append_of_anything (h : Prints lineBreak Anything opened cs ts opened')
    (h' : Prints lineBreak follows' opened' ds us opened'') :
    Prints lineBreak follows' opened (cs ++ ds) (ts ++ us) opened'' :=
  h.append h' fun _ _ => trivial

/-- Two pieces of which the second one stands apart. -/
theorem append_apart (hlb : IsLineBreak lineBreak)
    (h : Prints lineBreak EndsToken opened cs ts opened')
    (h' : Prints lineBreak follows' opened' ds us opened'') (hds : StartsApart ds) :
    Prints lineBreak follows' opened (cs ++ ds) (ts ++ us) opened'' :=
  h.append h' fun rest _ => ((hds.withLineBreak hlb).append rest).endsToken

/-- Two pieces of which the second one may be empty. -/
theorem append_optional (hlb : IsLineBreak lineBreak)
    (h : Prints lineBreak EndsToken opened cs ts opened')
    (h' : Prints lineBreak EndsToken opened' ds us opened'') (hds : EndsToken ds) :
    Prints lineBreak EndsToken opened (cs ++ ds) (ts ++ us) opened'' :=
  h.append h' fun _ hrest => (hds.withLineBreak hlb).append hrest

end Prints

/-! ### Pieces -/

/-- White space and commas are printed as no token. -/
theorem prints_gap (hlb : IsLineBreak lineBreak) (gap : List Char) (h : IsGap gap) (opened : Nat) :
    Prints lineBreak Anything opened gap [] opened := by
  refine emits_gap (fun c hc => ?_) opened
  obtain ⟨d, hd, hcd⟩ := List.mem_flatMap.mp hc
  by_cases hline : d = '\n'
  · rw [if_pos hline] at hcd
    rcases hlb with rfl | rfl
    · obtain rfl := List.mem_singleton.mp hcd
      simp
    · simp only [List.mem_cons, List.not_mem_nil, or_false] at hcd
      rcases hcd with rfl | rfl <;> simp
  · rw [if_neg hline, List.mem_singleton] at hcd
    exact hcd ▸ h d hd

/-- The margin of a line is printed as no token. -/
theorem prints_margin (hlb : IsLineBreak lineBreak) (l : Layout) (opened : Nat) :
    Prints lineBreak Anything opened l.margin [] opened :=
  prints_gap hlb l.margin (fun _ hc => .inl (List.eq_of_mem_replicate hc)) opened

/-- A punctuation character with a gap behind it is printed as that character. -/
theorem prints_mark (hlb : IsLineBreak lineBreak) {c : Char} (hc : c ∈ marks) (gap : List Char)
    (hgap : IsGap gap) {opened : Nat} (hopened : openAfter opened (.mark c) ≤ maxOpen) :
    Prints lineBreak Anything opened (c :: gap) [.mark c] (openAfter opened (.mark c)) := by
  have hline : '\n' ∉ [c] := by
    rw [List.mem_singleton]
    rintro rfl
    exact absurd hc (by decide)
  have hmark : Prints lineBreak Anything opened [c] [.mark c] (openAfter opened (.mark c)) :=
    .of_emits (emits_mark hc hopened) hline
  exact hmark.append_of_anything (prints_gap hlb gap hgap _)

/-- A name has no line feed. -/
theorem lineFeed_not_mem_of_isName {cs : List Char} (h : isName cs = true) : '\n' ∉ cs := by
  cases cs with
  | nil => exact List.not_mem_nil
  | cons c rest =>
    obtain ⟨hc, hrest⟩ : isNameStart c = true ∧ ∀ x ∈ rest, isNameRest x = true := by
      simpa [isName] using h
    intro hmem
    rcases List.mem_cons.mp hmem with rfl | hmem
    · exact absurd hc (by decide)
    · exact absurd (hrest '\n' hmem) (by decide)

/-- A name is printed as that name. -/
theorem prints_name {s : String} (h : isName s.toList = true) {opened : Nat}
    (hopened : opened ≤ maxOpen) :
    Prints lineBreak EndsToken opened s.toList [.name s] opened :=
  .of_emits ((emits_name h opened hopened).imp fun _ => EndsToken.endsName)
    (lineFeed_not_mem_of_isName h)

/-- A text is printed as the string that it is read back as. -/
theorem prints_quoted (hlb : IsLineBreak lineBreak) (l : Layout) {s : String} (h : IsReadBack s)
    {opened : Nat} (hopened : opened ≤ maxOpen) :
    Prints lineBreak EndsToken opened (l.quoted s) [.string (l.readBack lineBreak s)] opened :=
  (emits_quoted hlb l h opened hopened).imp fun _ => EndsToken.endsString

/-- What is printed between brackets. -/
theorem prints_between (hlb : IsLineBreak lineBreak) {o c : Char} (ho : o ∈ marks)
    (hc : c ∈ marks) {opened : Nat} (hopening : openAfter opened (.mark o) = opened + 1)
    (hclose : openAfter (opened + 1) (.mark c) = opened) (hopened : opened + 1 ≤ maxOpen)
    {cs : List Char} {ts : List Token}
    (h : Prints lineBreak EndsToken (opened + 1) cs ts (opened + 1)) :
    Prints lineBreak Anything opened (o :: cs ++ [c]) (.mark o :: (ts ++ [.mark c])) opened := by
  have hfirst := prints_mark hlb ho [] (by decide) (by rwa [hopening])
  have hlast := prints_mark hlb hc [] (by decide) (by rw [hclose]; omega)
  rw [hopening] at hfirst
  rw [hclose] at hlast
  exact hfirst.append_of_anything
    (h.append_apart hlb hlast (.cons (endsNumber_of_mem_marks hc) []))

/-! ### Lists of pieces -/

section List

variable {α : Type} {follows : List Char → Prop} {opened : Nat} {f : α → List Char}
  {g : α → List Token} {xs : List α}

/-- Pieces that can stand before everything are printed one after the other. -/
theorem prints_flatMap (h : ∀ x ∈ xs, Prints lineBreak Anything opened (f x) (g x) opened) :
    Prints lineBreak Anything opened (xs.flatMap f) (xs.flatMap g) opened := by
  induction xs with
  | nil => exact .nil
  | cons x xs ih =>
    obtain ⟨hx, hxs⟩ := List.forall_mem_cons.mp h
    rw [List.flatMap_cons, List.flatMap_cons]
    exact hx.append_of_anything (ih hxs)

/-- Pieces that stand apart do not merge with what is before all of them. -/
theorem endsToken_flatMap (h : ∀ x ∈ xs, StartsApart (f x)) : EndsToken (xs.flatMap f) := by
  cases xs with
  | nil => exact .nil
  | cons x xs => exact ((h x (by simp)).append _).endsToken

/-- Pieces that stand apart are printed one after the other. -/
theorem prints_flatMap_apart (hlb : IsLineBreak lineBreak)
    (h : ∀ x ∈ xs, Prints lineBreak EndsToken opened (f x) (g x) opened)
    (hapart : ∀ x ∈ xs, StartsApart (f x)) :
    Prints lineBreak EndsToken opened (xs.flatMap f) (xs.flatMap g) opened := by
  induction xs with
  | nil => exact .nil
  | cons x xs ih =>
    obtain ⟨hx, hxs⟩ := List.forall_mem_cons.mp h
    obtain ⟨-, hapart⟩ := List.forall_mem_cons.mp hapart
    rw [List.flatMap_cons, List.flatMap_cons]
    exact hx.append_optional hlb (ih hxs hapart) (endsToken_flatMap hapart)

/-- Pieces are printed one after the other with a gap between them.

**Proof sketch.** Induction on the pieces. Behind a piece comes the gap, which is one that may follow
it, and the gap by itself prints no tokens. -/
theorem prints_joinWith (hlb : IsLineBreak lineBreak) {gap : List Char} (hgap : IsGap gap)
    (hfollows : ∀ rest, follows (Text.withLineBreak lineBreak gap ++ rest))
    (h : ∀ x ∈ xs, Prints lineBreak follows opened (f x) (g x) opened) :
    Prints lineBreak follows opened (Text.joinWith gap (xs.map f)) (xs.flatMap g) opened := by
  induction xs with
  | nil => exact .nil
  | cons x xs ih =>
    obtain ⟨hx, hxs⟩ := List.forall_mem_cons.mp h
    have ih := ih hxs
    cases xs with
    | nil =>
      rw [List.flatMap_cons, List.flatMap_nil, List.append_nil]
      exact hx
    | cons y ys =>
      rw [List.flatMap_cons, List.map_cons, List.map_cons, Text.joinWith, ← List.map_cons,
        List.append_assoc]
      have hrest := (prints_gap hlb gap hgap opened).append_of_anything ih
      refine hx.append hrest fun rest _ => ?_
      rw [Text.withLineBreak_append, List.append_assoc]
      exact hfollows _

/-- Pieces are printed one after the other with commas between them. -/
theorem prints_commas (hlb : IsLineBreak lineBreak)
    (h : ∀ x ∈ xs, Prints lineBreak EndsToken opened (f x) (g x) opened) :
    Prints lineBreak EndsToken opened (Text.joinWith [',', ' '] (xs.map f)) (xs.flatMap g)
      opened :=
  prints_joinWith hlb (by decide)
    (fun rest => ((StartsApart.cons (by decide) [' ']).withLineBreak hlb).append rest |>.endsToken) h

/-- Pieces between parentheses, nothing if there is none. -/
theorem prints_parentheses (hlb : IsLineBreak lineBreak) (hopened : xs ≠ [] → opened + 1 ≤ maxOpen)
    (h : ∀ x ∈ xs, Prints lineBreak EndsToken (opened + 1) (f x) (g x) (opened + 1)) :
    Prints lineBreak Anything opened
      (if xs.isEmpty then [] else '(' :: Text.joinWith [',', ' '] (xs.map f) ++ [')'])
      (Schema.groupTokens '(' ')' g xs) opened := by
  cases xs with
  | nil => exact .nil
  | cons x xs =>
    exact prints_between hlb (by decide) (by decide) rfl rfl (hopened (List.cons_ne_nil _ _))
      (prints_commas hlb h)

/-- Parentheses do not merge with a token before them. -/
theorem endsToken_parentheses (f : α → List Char) (xs : List α) :
    EndsToken (if xs.isEmpty then [] else '(' :: Text.joinWith [',', ' '] (xs.map f) ++ [')']) := by
  cases xs with
  | nil => exact .nil
  | cons x xs => exact (StartsApart.cons (by decide) _).endsToken

/-- Names are printed with a punctuation character between them.

**Proof sketch.** Induction on the names. A name ends at the space in front of the separator, which is a
token of its own and leaves the number of open brackets as it is. -/
theorem prints_separated (hlb : IsLineBreak lineBreak) {separator : Char}
    (hs : separator ∈ marks) (hkeeps : openAfter opened (.mark separator) = opened)
    (hopened : opened ≤ maxOpen) {names : List String}
    (h : ∀ s ∈ names, isName s.toList = true) :
    Prints lineBreak EndsToken opened
      (Text.joinWith [' ', separator, ' '] (names.map (·.toList)))
      (Schema.separatedTokens separator names) opened := by
  induction names with
  | nil => exact .nil
  | cons s names ih =>
    obtain ⟨hfirst, hrest⟩ := List.forall_mem_cons.mp h
    have ih := ih hrest
    cases names with
    | nil => exact prints_name hfirst hopened
    | cons t names =>
      have hmark := prints_mark hlb hs [' '] (by decide) (by rwa [hkeeps])
      rw [hkeeps] at hmark
      have hgap := (prints_gap hlb [' '] (by decide) opened).append_of_anything hmark
      have htext : Text.joinWith [' ', separator, ' '] ((s :: t :: names).map (·.toList)) =
          s.toList ++ ([' '] ++ [separator, ' '] ++
            Text.joinWith [' ', separator, ' '] ((t :: names).map (·.toList))) := by
        simp [Text.joinWith]
      rw [htext]
      exact (prints_name hfirst hopened).append_apart hlb (hgap.append_of_anything ih)
        (.cons (by decide) _)

end List

/-! ### Type references -/

/-- A type reference that can be written down is printed as its tokens. -/
theorem prints_typeRef (hlb : IsLineBreak lineBreak) {r : TypeRef} (h : r.IsWritable)
    {opened : Nat} (hopened : opened + r.lists ≤ maxOpen) :
    Prints lineBreak EndsToken opened r.text r.tokens opened := by
  induction r generalizing opened with
  | named name => exact prints_name h hopened
  | list item ih =>
    rw [TypeRef.lists] at hopened
    have hitem := ih h (show opened + 1 + item.lists ≤ maxOpen by omega)
    exact (prints_between hlb (o := '[') (c := ']') (by decide) (by decide) rfl rfl
      (by omega) hitem).imp fun _ _ => trivial
  | nonNull inner ih =>
    rw [TypeRef.lists] at hopened
    have hmark := prints_mark hlb (c := '!') (by decide) [] (by decide)
      (show opened ≤ maxOpen by omega)
    have hboth := (ih h.1 hopened).append_apart hlb hmark (.cons (by decide) [])
    exact hboth.imp fun _ _ => trivial

/-! ### Values -/

/-- The digits of a positive number do not start with a zero. -/
theorem head?_toDigits {n : Nat} (h : 0 < n) : (Nat.toDigits 10 n).head? ≠ some '0' := by
  induction n using Nat.strongRecOn with
  | ind n ih =>
    by_cases hlt : n < 10
    · have hdigit : ∀ n < 10, 0 < n → n.digitChar ≠ '0' := by decide
      rw [Nat.toDigits_of_lt_base hlt, List.head?_cons]
      exact fun heq => hdigit n hlt h (Option.some.inj heq)
    · have hne : Nat.toDigits 10 (n / 10) ≠ [] :=
        List.ne_nil_of_length_pos Nat.length_toDigits_pos
      rw [Nat.toDigits_of_base_le (by decide) (Nat.le_of_not_lt hlt),
        List.head?_append_of_ne_nil _ hne]
      exact ih (n / 10) (by omega) (by omega)

/-- The digits of a number form a whole number. -/
theorem isWhole_toDigits (n : Nat) : isWhole (Nat.toDigits 10 n) = true := by
  have hdigits : isDigits (Nat.toDigits 10 n) = true := by
    have hne : Nat.toDigits 10 n ≠ [] := List.ne_nil_of_length_pos Nat.length_toDigits_pos
    simpa [isDigits, hne] using fun c hc =>
      Nat.isDigit_of_mem_toDigits (by decide) (by decide) hc
  rw [isWhole, hdigits, Bool.true_and, Bool.or_eq_true]
  rcases Nat.eq_zero_or_pos n with rfl | hn
  · exact .inr rfl
  · exact .inl (by simpa using head?_toDigits hn)

/-- A whole number has no sign. -/
theorem unsigned_toDigits (n : Nat) : unsigned (Nat.toDigits 10 n) = (false, Nat.toDigits 10 n) := by
  unfold unsigned
  split
  · next rest heq =>
    have hminus : ('-' : Char).isDigit = true :=
      Nat.isDigit_of_mem_toDigits (b := 10) (n := n) (by decide) (by decide) (by rw [heq]; simp)
    exact absurd hminus (by decide)
  · rfl

/-- An integer of 64 bits is read back from its digits.

**Proof sketch.** The digits of the absolute value are read back as it, with or without a sign in front.
The bound for negative numbers is one higher, as is the least integer of 64 bits. -/
theorem integer?_intText {n : Int} (hlow : -9223372036854775808 ≤ n)
    (hhigh : n < 9223372036854775808) : integer? (Value.intText n) = some n := by
  by_cases hn : n < 0
  · have htext : Value.intText n = '-' :: Nat.toDigits 10 n.natAbs := by
      rw [Value.intText, if_pos hn]
      rfl
    have hle : n.natAbs ≤ Nat.pow 2 63 := by
      have hpow : Nat.pow 2 63 = 9223372036854775808 := rfl
      omega
    rw [htext, integer?]
    simp only [unsigned, isWhole_toDigits, Text.ofDigits_toDigits, if_pos, if_pos hle]
    congr 1
    omega
  · have htext : Value.intText n = Nat.toDigits 10 n.natAbs := by
      rw [Value.intText, if_neg hn]
      rfl
    have hlt : n.natAbs < Nat.pow 2 63 := by
      have hpow : Nat.pow 2 63 = 9223372036854775808 := rfl
      omega
    rw [htext, integer?, unsigned_toDigits]
    simp only [isWhole_toDigits, Text.ofDigits_toDigits, if_pos, Bool.false_eq_true, if_false,
      if_pos hlt]
    congr 1
    omega

/-- The text of an integer starts with a minus sign or a digit, and digits follow. -/
theorem exists_intText_eq_cons (n : Int) : ∃ c digits, Value.intText n = c :: digits ∧
    (c = '-' ∨ c.isDigit = true) ∧ ∀ x ∈ digits, x.isDigit = true := by
  have hdigit : ∀ x ∈ Nat.toDigits 10 n.natAbs, x.isDigit = true := fun x hx =>
    Nat.isDigit_of_mem_toDigits (by decide) (by decide) hx
  by_cases hn : n < 0
  · exact ⟨'-', Nat.toDigits 10 n.natAbs, by simp [Value.intText, hn], .inl rfl, hdigit⟩
  · cases hdigits : Nat.toDigits 10 n.natAbs with
    | nil => exact absurd hdigits (List.ne_nil_of_length_pos Nat.length_toDigits_pos)
    | cons c digits =>
      rw [hdigits] at hdigit
      obtain ⟨hc, hrest⟩ := List.forall_mem_cons.mp hdigit
      exact ⟨c, digits, by simp [Value.intText, hn, hdigits], .inr hc, hrest⟩

/-- A character that ends a number is no digit, and neither are the characters of a number with a
point or an exponent. -/
theorem isDigit_cases {c : Char} (h : c.isDigit = true) :
    endsNumber c = false ∧ (c == '.' || c == 'e' || c == 'E') = false := by
  constructor
  · rw [← Bool.not_eq_true]
    have hall : ∀ c ∈ [' ', '\n', '\r', '\t', ',', '#'] ++ marks, ¬ c.isDigit = true :=
      List.all_iff_forall_prop.mp (by decide)
    exact fun hends => hall c (endsNumber_cases hends) h
  · rw [← Bool.not_eq_true]
    simp only [Bool.or_eq_true, beq_iff_eq]
    rintro ((rfl | rfl) | rfl) <;> exact absurd h (by decide)

/-- An integer of 64 bits is printed as that integer.

**Proof sketch.** The text starts with a sign or a digit and goes on with digits, so it holds neither a
line feed nor a fraction. Hence it is scanned as one number up to what follows, and its value is the
integer (`integer?_intText`). -/
theorem prints_int {n : Int} (hlow : -9223372036854775808 ≤ n) (hhigh : n < 9223372036854775808)
    {opened : Nat} (hopened : opened ≤ maxOpen) :
    Prints lineBreak EndsToken opened (Value.intText n) [.int n] opened := by
  obtain ⟨c, digits, htext, hc, hdigits⟩ := exists_intText_eq_cons n
  have hinteger := integer?_intText hlow hhigh
  have hline : '\n' ∉ c :: digits := by
    rintro (_ | ⟨_, hmem⟩)
    · exact absurd hc (by decide)
    · exact absurd (hdigits '\n' hmem) (by decide)
  have hwhole : ¬ HasFraction (c :: digits) := by
    rw [HasFraction, List.any_eq_true]
    rintro ⟨x, _ | ⟨_, hx⟩, hpoint⟩
    · rcases hc with rfl | hc
      · exact absurd hpoint (by decide)
      · exact absurd ((isDigit_cases hc).2.symm.trans hpoint) (by decide)
    · exact absurd ((isDigit_cases (hdigits x hx)).2.symm.trans hpoint) (by decide)
  rw [htext] at hinteger ⊢
  refine .of_emits (fun rest us hends hrest => ?_) hline
  have hnumeral : IsNumeral c digits rest := ⟨hc, fun x hx => (isDigit_cases (hdigits x hx)).1, hends⟩
  exact Lexes.of_startsWith (.int hnumeral hwhole hinteger) hopened hrest

end Sdl

namespace Value

/-- The items of a list value are printed with commas between them. -/
theorem itemsText_eq_joinWith (l : Layout) (items : List Value) :
    itemsText l items = Text.joinWith [',', ' '] (items.map (text l)) := by
  induction items with
  | nil => rfl
  | cons first rest ih =>
    cases rest with
    | nil => rfl
    | cons next rest => rw [itemsText, ih]; rfl

/-- A member of an object value, and an argument. -/
def memberText (l : Layout) (member : String × Value) : List Char :=
  member.1.toList ++ ([':', ' '] ++ member.2.text l)

/-- The members of an object value are printed with commas between them. -/
theorem membersText_eq_joinWith (l : Layout) (members : List (String × Value)) :
    membersText l members = Text.joinWith [',', ' '] (members.map (memberText l)) := by
  induction members with
  | nil => rfl
  | cons first rest ih =>
    cases rest with
    | nil => simp [membersText, memberText, Text.joinWith]
    | cons next rest =>
      rw [membersText, ih]
      simp [memberText, Text.joinWith]

/-- Arguments are printed between parentheses. -/
theorem argumentsText_eq (l : Layout) (arguments : List (String × Value)) :
    argumentsText l arguments = if arguments.isEmpty then [] else
      '(' :: Text.joinWith [',', ' '] (arguments.map (memberText l)) ++ [')'] := by
  rw [argumentsText, membersText_eq_joinWith]

end Value

namespace Sdl

variable {lineBreak : List Char}

/-- A member of an object value is printed as its tokens. -/
theorem prints_member (hlb : IsLineBreak lineBreak) (l : Layout) {member : String × Value}
    {opened : Nat} (hopened : opened ≤ maxOpen) (hkey : isName member.1.toList = true)
    {v : Value} (hvalue : Prints lineBreak EndsToken opened (member.2.text l) v.tokens opened) :
    Prints lineBreak EndsToken opened (Value.memberText l member)
      (Value.memberTokens (member.1, v)) opened := by
  have hmark := prints_mark hlb (c := ':') (by decide) [' '] (by decide) hopened
  exact (prints_name hkey hopened).append_apart hlb (hmark.append_of_anything hvalue)
    (.cons (by decide) _)

/-- A value that can be written down is printed as the tokens of what it is read back as.

**Proof sketch.** Induction on the value: a list and an object are printed between brackets, with
one more of them open. -/
theorem prints_value (hlb : IsLineBreak lineBreak) (l : Layout) {takesVariables : Bool}
    {opened : Nat} {v : Value} (h : v.IsLegible IsReadBack takesVariables opened) :
    Prints lineBreak EndsToken opened (v.text l) (v.mapTexts (l.readBack lineBreak)).tokens
      opened := by
  induction h with
  | var hopened _ hname =>
    exact (prints_mark hlb (c := '$') (by decide) [] (by decide) hopened).append_of_anything
      (prints_name hname hopened)
  | int hopened hlow hhigh => exact prints_int hlow hhigh hopened
  | string hopened hs => exact prints_quoted hlb l hs hopened
  | @boolean _ b hopened => cases b <;> exact prints_name (by decide) hopened
  | null hopened => exact prints_name (by decide) hopened
  | enum hopened hname _ => exact prints_name hname hopened
  | list hopened _ ih =>
    rw [Value.text, Value.itemsText_eq_joinWith, Value.mapTexts, Value.tokens,
      Value.mapItems_eq_map, Value.itemsTokens_eq_flatMap, List.flatMap_map]
    exact (prints_between hlb (by decide) (by decide) rfl rfl hopened
      (prints_commas hlb ih)).imp fun _ _ => trivial
  | object hopened hkeys _ _ ih =>
    rw [Value.text, Value.membersText_eq_joinWith, Value.mapTexts, Value.tokens,
      Value.mapMembers_eq_map, Value.membersTokens_eq_flatMap, List.flatMap_map]
    exact (prints_between hlb (by decide) (by decide) rfl rfl hopened
      (prints_commas hlb fun m hm => prints_member hlb l hopened (hkeys m hm) (ih m hm))).imp
        fun _ _ => trivial

end Sdl

end SchemaQueries
