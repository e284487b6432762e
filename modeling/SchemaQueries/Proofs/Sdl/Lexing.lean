import SchemaQueries.Proofs.Sdl.Tokens
import SchemaQueries.Text.Layout

/-!
# Which tokens a printed text is read as

A text is put together from pieces: names, marks, quoted texts and what stands between tokens. Each
piece is read as its own tokens whatever follows it, as long as that does not merge with its end.

## Main definitions

* `Sdl.Lexes` — a text is read as these tokens, wherever it stands.
* `Sdl.EmitsBefore` — a piece is read as these tokens, and what follows it by itself.
* `Sdl.EndsString` — what does not merge with a quoted text before it.

## Main results

* `Sdl.EmitsBefore.append` — pieces that do not merge are read one after the other.
* `Sdl.emits_gap`, `Sdl.emits_name`, `Sdl.emits_mark` — the simplest pieces.
* `Sdl.lexes_tokensFrom` — the tokens of a text do not depend on where it stands.

## Implementation notes

Places in the text play no role here. Open brackets do, because at most `maxOpen` of them may be
open at a time.
-/

set_option autoImplicit false
set_option relaxedAutoImplicit false

namespace SchemaQueries.Sdl

/-- The text is read as these tokens behind so many open brackets, wherever it stands. -/
def Lexes (opened : Nat) (cs : List Char) (ts : List Token) : Prop :=
  ∀ p fuel, cs.length < fuel → (tokensFrom opened p cs fuel).1.map (·.2) = ts

/-- The text is read as these tokens before everything of which `follows` holds, and what follows
it is read by itself. Before the text `opened` brackets are open, and behind it `opened'`. -/
def EmitsBefore (follows : List Char → Prop) (opened : Nat) (cs : List Char) (ts : List Token)
    (opened' : Nat) : Prop :=
  ∀ rest us, follows rest → Lexes opened' rest us → Lexes opened (cs ++ rest) (ts ++ us)

/-- Everything may follow. -/
def Anything (_ : List Char) : Prop :=
  True

/-- The text is read as these tokens, whatever follows it. -/
abbrev Emits (opened : Nat) (cs : List Char) (ts : List Token) (opened' : Nat) : Prop :=
  EmitsBefore Anything opened cs ts opened'

/-- What does not merge with a text between quotes before it. -/
def EndsString (rest : List Char) : Prop :=
  ∀ c ∈ rest.head?, c ≠ '"'

/-! ### Sequences of pieces -/

/-- Nothing is read as no token. -/
theorem lexes_nil (opened : Nat) : Lexes opened [] [] := by
  intro p fuel hfuel
  obtain ⟨fuel, rfl⟩ := Nat.exists_eq_succ_of_ne_zero (Nat.ne_zero_of_lt hfuel)
  rfl

namespace EmitsBefore

variable {follows follows' : List Char → Prop} {opened opened' opened'' : Nat}
  {cs ds : List Char} {ts us : List Token}

/-- A piece at the end of a text. -/
theorem lexes (h : EmitsBefore follows opened cs ts opened') (hnil : follows []) :
    Lexes opened cs ts := by
  have hcs := h [] [] hnil (lexes_nil opened')
  rwa [List.append_nil, List.append_nil] at hcs

/-- A piece may be put before less than it can stand before. -/
theorem imp (h : EmitsBefore follows opened cs ts opened')
    (hfollows : ∀ rest, follows' rest → follows rest) :
    EmitsBefore follows' opened cs ts opened' :=
  fun rest us hrest => h rest us (hfollows rest hrest)

/-- The empty piece. -/
theorem nil : EmitsBefore follows opened [] [] opened :=
  fun _ _ _ h => h

/-- Two pieces of which the second one does not merge with the first one. -/
theorem append (h : EmitsBefore follows opened cs ts opened')
    (h' : EmitsBefore follows' opened' ds us opened'')
    (hfollows : ∀ rest, follows' rest → follows (ds ++ rest)) :
    EmitsBefore follows' opened (cs ++ ds) (ts ++ us) opened'' := by
  intro rest vs hrest hvs
  rw [List.append_assoc, List.append_assoc]
  exact h (ds ++ rest) (us ++ vs) (hfollows rest hrest) (h' rest vs hrest hvs)

end EmitsBefore

/-- Two pieces of which the first one can stand before everything. -/
theorem Emits.append {follows : List Char → Prop} {opened opened' opened'' : Nat}
    {cs ds : List Char} {ts us : List Token} (h : Emits opened cs ts opened')
    (h' : EmitsBefore follows opened' ds us opened'') :
    EmitsBefore follows opened (cs ++ ds) (ts ++ us) opened'' :=
  EmitsBefore.append h h' fun _ _ => trivial

/-! ### Between tokens -/

/-- What is passed over before a text makes no difference to its tokens. -/
theorem Lexes.of_skip {opened : Nat} {cs rest : List Char} {ts : List Token}
    (hskip : ∀ p, ∃ q, skip p cs = skip q rest) (hlen : rest.length ≤ cs.length)
    (h : Lexes opened rest ts) : Lexes opened cs ts := by
  intro p fuel hfuel
  obtain ⟨fuel, rfl⟩ := Nat.exists_eq_succ_of_ne_zero (Nat.ne_zero_of_lt hfuel)
  obtain ⟨q, hq⟩ := hskip p
  have hstep : tokensFrom opened p cs (fuel + 1) = tokensFrom opened q rest (fuel + 1) := by
    rw [tokensFrom, tokensFrom, hq]
  rw [hstep]
  exact h q (fuel + 1) (Nat.lt_of_le_of_lt hlen hfuel)

/-- White space and commas, line ends included. -/
def IsGap (cs : List Char) : Prop :=
  ∀ c ∈ cs, c = ' ' ∨ c = ',' ∨ c = '\t' ∨ c = '\r' ∨ c = '\n'

-- The instance is named, because statements about all characters have a slow one of their own.
instance : DecidablePred IsGap := fun cs =>
  List.decidableBAll _ cs

/-- White space and commas are passed over. -/
theorem exists_skip_append {gap : List Char} (h : IsGap gap) (rest : List Char) (p : Position) :
    ∃ q, skip p (gap ++ rest) = skip q rest := by
  induction gap generalizing p with
  | nil => exact ⟨p, rfl⟩
  | cons c gap ih =>
    obtain ⟨hc, hgap⟩ := List.forall_mem_cons.mp h
    have ih := ih hgap
    rcases hc with rfl | rfl | rfl | rfl | rfl
    · exact ih ⟨p.line, p.column + 1⟩
    · exact ih ⟨p.line, p.column + 1⟩
    · exact ih ⟨p.line, p.column + 8⟩
    · exact ih p
    · exact ih ⟨p.line + 1, 1⟩

/-- White space and commas are read as no token. -/
theorem emits_gap {gap : List Char} (h : IsGap gap) (opened : Nat) : Emits opened gap [] opened :=
  fun rest _ _ hrest =>
    hrest.of_skip (exists_skip_append h rest) (by rw [List.length_append]; omega)

/-- What a comment can hold: it ends with its line. -/
def IsComment (cs : List Char) : Prop :=
  ∀ c ∈ cs, c ≠ '\n' ∧ c ≠ '\r'

instance : DecidablePred IsComment := fun cs =>
  List.decidableBAll _ cs

/-- What stands in a comment is passed over up to the end of its line. -/
theorem exists_skipFrom_comment {comment : List Char} (h : IsComment comment) {e : Char}
    (he : e = '\n' ∨ e = '\r') (rest : List Char) (p : Position) :
    ∃ q, skipFrom true p (comment ++ e :: rest) = skip q rest := by
  induction comment with
  | nil => exact ⟨⟨p.line + 1, 1⟩, by rcases he with rfl | rfl <;> rfl⟩
  | cons c comment ih =>
    obtain ⟨hc, hcomment⟩ := List.forall_mem_cons.mp h
    obtain ⟨q, hq⟩ := ih hcomment
    refine ⟨q, ?_⟩
    have hline : ¬ (decide (c = '\n') || decide (c = '\r')) = true := by simpa using hc
    rw [List.cons_append, skipFrom, if_pos rfl, if_neg hline, hq]

/-- A comment is read as no token. -/
theorem emits_comment {comment : List Char} (h : IsComment comment) {e : Char}
    (he : e = '\n' ∨ e = '\r') (opened : Nat) :
    Emits opened ('#' :: (comment ++ [e])) [] opened := by
  intro rest us _ hrest
  refine hrest.of_skip (fun p => ?_) (by simp; omega)
  obtain ⟨q, hq⟩ := exists_skipFrom_comment h he rest p
  refine ⟨q, Eq.trans ?_ hq⟩
  simp [skip, skipFrom]

/-! ### Tokens -/

/-- A token that stands at the start of a text. -/
theorem Lexes.of_startsWith {opened : Nat} {cs lexeme after : List Char} {t : Token} {ts : List Token}
    (ht : StartsWith cs t lexeme after) (hopened : openAfter opened t ≤ maxOpen)
    (h : Lexes (openAfter opened t) after ts) : Lexes opened cs (t :: ts) := by
  intro p fuel hfuel
  have hlt := ht.length_lt
  obtain ⟨c, rest, rfl⟩ := List.exists_cons_of_length_pos (Nat.zero_lt_of_lt hlt)
  obtain ⟨fuel, rfl⟩ := Nat.exists_eq_succ_of_ne_zero (Nat.ne_zero_of_lt hfuel)
  have hafter := h (p.after lexeme) fuel (by omega)
  have hstep : ¬ (decide (t = .malformed) || decide (maxOpen < openAfter opened t)) = true := by
    simpa using ⟨ht.ne_malformed, hopened⟩
  rw [tokensFrom, ht.skip_eq]
  simp only [ht.token_eq]
  rw [if_neg hstep, List.map_cons, hafter]

/-- A punctuation character is read as that. -/
theorem emits_mark {c : Char} (hc : c ∈ marks) {opened : Nat}
    (hopened : openAfter opened (.mark c) ≤ maxOpen) :
    Emits opened [c] [.mark c] (openAfter opened (.mark c)) :=
  fun rest _ _ hrest => Lexes.of_startsWith (.mark hc rest) hopened hrest

/-- A name is read as that name. -/
theorem emits_name {s : String} (h : isName s.toList = true) (opened : Nat)
    (hopened : opened ≤ maxOpen) : EmitsBefore EndsName opened s.toList [.name s] opened := by
  intro rest us hends hrest
  cases hs : s.toList with
  | nil => rw [hs] at h; exact absurd h (by decide)
  | cons c word =>
    rw [hs] at h
    obtain ⟨hc, hword⟩ : isNameStart c = true ∧ ∀ x ∈ word, isNameRest x = true := by
      simpa [isName] using h
    have ht := StartsWith.name hc hword hends
    rw [← hs, String.ofList_toList, hs] at ht
    exact Lexes.of_startsWith ht hopened hrest

/-! ### Places in the text -/

/-- What is passed over does not depend on the place. -/
theorem skipFrom_snd (inComment : Bool) (p q : Position) (cs : List Char) :
    (skipFrom inComment p cs).2 = (skipFrom inComment q cs).2 := by
  induction cs generalizing inComment p q with
  | nil => rfl
  | cons c rest ih =>
    unfold skipFrom
    split_ifs <;> first | rfl | exact ih ..

/-- What is left after passing over something is no longer than before. -/
theorem length_skipFrom_le (inComment : Bool) (p : Position) (cs : List Char) :
    (skipFrom inComment p cs).2.length ≤ cs.length := by
  induction cs generalizing inComment p with
  | nil => exact Nat.le_refl _
  | cons c rest ih =>
    unfold skipFrom
    split_ifs <;> first | exact Nat.le_refl _ | exact Nat.le_succ_of_le (ih ..)

/-- The tokens of a text do not depend on the place where it stands.

**Proof sketch.** Induction on the fuel. What is passed over and which token comes next is the same
wherever the text stands, and every token takes at least one character, so the fuel is enough for the
rest. -/
theorem lexes_tokensFrom (opened : Nat) (p : Position) {cs : List Char} {fuel : Nat}
    (hfuel : cs.length < fuel) : Lexes opened cs ((tokensFrom opened p cs fuel).1.map (·.2)) := by
  intro q fuel' hfuel'
  induction fuel generalizing opened p q cs fuel' with
  | zero => exact absurd hfuel (Nat.not_lt_zero _)
  | succ fuel ih =>
    obtain ⟨fuel', rfl⟩ := Nat.exists_eq_succ_of_ne_zero (Nat.ne_zero_of_lt hfuel')
    have hrest := skipFrom_snd false q p cs
    have hle : (skip p cs).2.length ≤ cs.length := length_skipFrom_le false p cs
    rw [tokensFrom, tokensFrom]
    obtain ⟨q', hq⟩ : ∃ q', skip q cs = (q', (skip p cs).2) := ⟨_, Prod.ext rfl hrest⟩
    rw [hq]
    rcases hp : skip p cs with ⟨p', _ | ⟨c, rest⟩⟩
    · rfl
    · replace hle : (c :: rest).length ≤ cs.length := by rwa [hp] at hle
      rcases ht : token (c :: rest) with ⟨t, lexeme, after⟩
      simp only [ht]
      by_cases hstop : (decide (t = .malformed) || decide (maxOpen < openAfter opened t)) = true
      · rw [if_pos hstop, if_pos hstop]
        rfl
      · have hvalid : t ≠ .malformed := fun heq => hstop (by simp [heq])
        have hlt := (startsWith_of_token ht hvalid).length_lt
        have hfuel : after.length < fuel := by omega
        have hlater := ih (openAfter opened t) (p'.after lexeme) hfuel (q'.after lexeme) fuel'
          (by omega)
        rw [if_neg hstop, if_neg hstop, List.map_cons, List.map_cons, hlater]

end SchemaQueries.Sdl
