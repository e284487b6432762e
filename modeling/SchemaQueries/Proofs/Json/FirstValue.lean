import SchemaQueries.Proofs.Json.Trees

/-!
# The value at the start of a text

A text that is read without a fault starts with a JSON value, and a value is read up to its end whatever
stands behind it. So reading does not tell a document from a text that goes on with something else.

## Main results

* `Json.exists_isValue_of_draftFrom` — what is read without a fault is a value.
* `Json.draftFrom_of_writes`, `Json.draftFrom_of_isValue` — a value is read up to its end, as the tree that
  it says.
* `Json.exists_isValue_of_draft` — where the value at the start of a text ends, and when the text is a
  document.
-/

set_option autoImplicit false
set_option relaxedAutoImplicit false

namespace SchemaQueries.Json

variable {cs rest : List Char}

/-! ### White space -/

/-- A text is the white space at its start and what stands behind it. -/
theorem exists_blank_append (cs : List Char) : ∃ blanks, Blank blanks ∧ cs = blanks ++ skipBlanks cs :=
  ⟨cs.takeWhile isBlank, fun _ => List.mem_takeWhile_imp, List.takeWhile_append_dropWhile.symm⟩

/-- White space at the start of a text is skipped. -/
theorem skipBlanks_append {blanks : List Char} (h : Blank blanks) (cs : List Char) :
    skipBlanks (blanks ++ cs) = skipBlanks cs :=
  List.dropWhile_append_of_pos h

/-- Nothing is skipped where no white space stands. -/
theorem skipBlanks_cons {c : Char} (h : isBlank c = false) (cs : List Char) :
    skipBlanks (c :: cs) = c :: cs := by
  rw [skipBlanks, List.dropWhile_cons, h]
  rfl

/-- White space in front of a value makes no difference to its draft. -/
theorem draftFrom_append {blanks : List Char} (h : Blank blanks) (bound : Nat) (cs : List Char) :
    draftFrom bound (blanks ++ cs) = draftFrom bound cs := by
  rw [← draftFrom_skipBlanks, skipBlanks_append h, draftFrom_skipBlanks]

/-! ### What is read is a value -/

/-- The characters of a word that have been read stand there. -/
theorem eq_of_ident {word : List Char} (h : ident word cs = .ok rest) : cs = word ++ rest := by
  induction word generalizing cs with
  | nil => cases cs <;> exact Except.ok.inj h
  | cons c word ih =>
    cases cs with
    | nil => cases h
    | cons c' cs =>
      rw [ident] at h
      split at h
      · next heq => rw [heq, ih h, List.cons_append]
      · cases h

/-- A word that is read stands there. -/
theorem eq_of_draftIdent {word : List Char} {value d : Draft} {r : Option (List Char)}
    (h : draftIdent word value cs = (d, r)) (hd : d.skipFault? = none) :
    ∃ rest, r = some rest ∧ cs = word ++ rest := by
  unfold draftIdent at h
  split at h
  · next rest hrest =>
    cases h
    exact ⟨rest, rfl, eq_of_ident hrest⟩
  · cases h
    cases hd

/-- An item and what stands behind it in an array. -/
def itemsFrom (bound : Nat) (cs : List Char) : List Draft × ArrayEnd × Option (List Char) :=
  match draftFrom bound cs with
  | (value, none) => ([value], .cut, none)
  | (value, some rest) =>
    let (items, ending, rest) := draftItems bound false rest
    (value :: items, ending, rest)

/-- The items of an array are read one by one. -/
theorem draftItems_succ (bound : Nat) (first : Bool) (cs : List Char) :
    draftItems (bound + 1) first cs =
      match skipBlanks cs with
      | [] => ([], .endOfText, none)
      | c :: rest =>
        if c = ']' then ([], .closed, some rest)
        else if first then itemsFrom bound (c :: rest)
        else if c = ',' then
          match skipBlanks rest with
          | [] => ([], .commaEndOfText, none)
          | ']' :: _ => ([], .commaClosed, none)
          | cs => itemsFrom bound cs
        else ([], .junk, none) := by
  rw [draftItems]
  rfl

/-- White space in front of an item makes no difference. -/
theorem itemsFrom_skipBlanks (bound : Nat) (cs : List Char) :
    itemsFrom bound (skipBlanks cs) = itemsFrom bound cs := by
  rw [itemsFrom, itemsFrom, draftFrom_skipBlanks]

/-- An item is read, and then the others. -/
theorem itemsFrom_inv {bound : Nat} {items : List Draft} {ending : ArrayEnd}
    {r : Option (List Char)} (h : itemsFrom bound cs = (items, ending, r))
    (hending : ending.skipFault? = none) : ∃ d v items', draftFrom bound cs = (d, some v) ∧
      draftItems bound false v = (items', ending, r) ∧ items = d :: items' := by
  unfold itemsFrom at h
  split at h
  · cases h
    cases hending
  · next d v hvalue =>
    obtain ⟨items', ending', r', hitems⟩ : ∃ items' ending' r',
      draftItems bound false v = (items', ending', r') := ⟨_, _, _, rfl⟩
    rw [hitems] at h
    cases h
    exact ⟨d, v, items', hvalue, hitems, rfl⟩

/-- The items of an array are read to the closing bracket, or there is one more item.

**Proof sketch.** By cases on what stands behind the white space. A bracket closes the array. Else the
first item starts here and any other one behind a comma, and reading it leaves the rest of the items
(`itemsFrom_inv`). In every other case the array has an ending with a fault. -/
theorem draftItems_inv {bound : Nat} {first : Bool} {items : List Draft} {ending : ArrayEnd}
    {r : Option (List Char)} (h : draftItems (bound + 1) first cs = (items, ending, r))
    (hending : ending.skipFault? = none) :
    (∃ blanks rest, Blank blanks ∧ cs = blanks ++ ']' :: rest ∧ items = [] ∧ r = some rest) ∨
      ∃ before u d v items', Separator first before ∧ cs = before ++ u ∧
        draftFrom bound u = (d, some v) ∧ draftItems bound false v = (items', ending, r) ∧
        items = d :: items' := by
  obtain ⟨blanks, hblanks, hcs⟩ := exists_blank_append cs
  rw [draftItems_succ] at h
  cases hskip : skipBlanks cs with
  | nil =>
    rw [hskip] at h
    cases h
    cases hending
  | cons c u =>
    rw [hskip] at h hcs
    dsimp only at h
    split_ifs at h with hclose hfirst hcomma
    · cases h
      exact .inl ⟨blanks, u, hblanks, hclose ▸ hcs, rfl, rfl⟩
    · rw [← hskip, itemsFrom_skipBlanks] at h
      obtain ⟨d, v, items', hvalue, hrest⟩ := itemsFrom_inv h hending
      exact .inr ⟨[], cs, d, v, items', by rw [Separator, if_pos hfirst], rfl, hvalue, hrest⟩
    · have hnext : itemsFrom bound u = (items, ending, r) := by
        rw [← itemsFrom_skipBlanks]
        split at h
        · cases h
          cases hending
        · cases h
          cases hending
        · exact h
      obtain ⟨d, v, items', hvalue, hrest⟩ := itemsFrom_inv hnext hending
      refine .inr ⟨blanks ++ [','], u, d, v, items', ?_, ?_, hvalue, hrest⟩
      · rw [Separator, if_neg hfirst]
        exact ⟨blanks, hblanks, rfl⟩
      · rw [hcs, hcomma, List.append_assoc]
        rfl
    · cases h
      cases hending

/-- A member whose opening quote has been read, and what stands behind it in an object. -/
def membersFrom (bound : Nat) (cs : List Char) :
    List (Except Fault String × Draft) × ObjectEnd × Option (List Char) :=
  match scanString cs with
  | .broken read skipped => ([], .brokenKey read skipped, none)
  | .complete key rest =>
    match skipBlanks rest with
    | [] => ([], .noColon key .endInObject, none)
    | ':' :: rest =>
      match draftFrom bound rest with
      | (value, none) => ([(key, value)], .cut, none)
      | (value, some rest) =>
        let (members, ending, rest) := draftMembers bound false rest
        ((key, value) :: members, ending, rest)
    | _ :: _ => ([], .noColon key .colonExpected, none)

/-- The members of an object are read one by one. -/
theorem draftMembers_succ (bound : Nat) (first : Bool) (cs : List Char) :
    draftMembers (bound + 1) first cs =
      match skipBlanks cs with
      | [] => ([], .endOfText, none)
      | c :: rest =>
        if c = '\x7d' then ([], .closed, some rest)
        else if first then (if c = '"' then membersFrom bound rest else ([], .noKey, none))
        else if c = ',' then
          match skipBlanks rest with
          | [] => ([], .commaEndOfText, none)
          | '"' :: rest => membersFrom bound rest
          | '\x7d' :: _ => ([], .commaClosed, none)
          | _ :: _ => ([], .noKey, none)
        else ([], .junk, none) := by
  rw [draftMembers]
  rfl

/-- A key, a colon and a value are read, and then the other members.

**Proof sketch.** Key, colon and value are read in turn, and where one of them is missing the object
ends with a fault. What is read as the key has the form of a string (`exists_isQuoted_of_scan`). -/
theorem membersFrom_inv {bound : Nat} {members : List (Except Fault String × Draft)}
    {ending : ObjectEnd} {r : Option (List Char)} (h : membersFrom bound cs = (members, ending, r))
    (hending : ending.skipFault? = none) :
    ∃ key k blanks u d v members', IsQuoted key ∧ Blank blanks ∧ cs = key ++ (blanks ++ ':' :: u) ∧
      draftFrom bound u = (d, some v) ∧ draftMembers bound false v = (members', ending, r) ∧
      members = (k, d) :: members' := by
  unfold membersFrom at h
  split at h
  · cases h
    cases hending
  · next k rest hscan =>
    obtain ⟨key, hkey, rfl⟩ := exists_isQuoted_of_scan hscan
    obtain ⟨blanks, hblanks, hrest⟩ := exists_blank_append rest
    split at h
    · cases h
      cases hending
    · next u hcolon =>
      split at h
      · cases h
        cases hending
      · next d v hvalue =>
        obtain ⟨members', ending', r', hmembers⟩ : ∃ members' ending' r',
          draftMembers bound false v = (members', ending', r') := ⟨_, _, _, rfl⟩
        rw [hmembers] at h
        cases h
        rw [hcolon] at hrest
        exact ⟨key, k, blanks, u, d, v, members', hkey, hblanks, by rw [hrest], hvalue, hmembers, rfl⟩
    · cases h
      cases hending

/-- The members of an object are read to the closing brace, or there is one more member.

**Proof sketch.** As for items, except that a quote must stand where a member starts. From there on the
member is read by `membersFrom_inv`. -/
theorem draftMembers_inv {bound : Nat} {first : Bool} {members : List (Except Fault String × Draft)}
    {ending : ObjectEnd} {r : Option (List Char)}
    (h : draftMembers (bound + 1) first cs = (members, ending, r))
    (hending : ending.skipFault? = none) :
    (∃ blanks rest, Blank blanks ∧ cs = blanks ++ '\x7d' :: rest ∧ members = [] ∧ r = some rest) ∨
      ∃ before blanks key k blanks' u d v members', Separator first before ∧ Blank blanks ∧
        IsQuoted key ∧ Blank blanks' ∧
        cs = before ++ (blanks ++ '"' :: (key ++ (blanks' ++ ':' :: u))) ∧
        draftFrom bound u = (d, some v) ∧ draftMembers bound false v = (members', ending, r) ∧
        members = (k, d) :: members' := by
  obtain ⟨blanks, hblanks, hcs⟩ := exists_blank_append cs
  rw [draftMembers_succ] at h
  cases hskip : skipBlanks cs with
  | nil =>
    rw [hskip] at h
    cases h
    cases hending
  | cons c t =>
    rw [hskip] at h hcs
    dsimp only at h
    split_ifs at h with hclose hfirst hquote hcomma
    · cases h
      exact .inl ⟨blanks, t, hblanks, hclose ▸ hcs, rfl, rfl⟩
    · obtain ⟨key, k, blanks', u, d, v, members', hkey, hblanks', rfl, hrest⟩ :=
        membersFrom_inv h hending
      refine .inr ⟨[], blanks, key, k, blanks', u, d, v, members', ?_, hblanks, hkey, hblanks', ?_,
        hrest⟩
      · rw [Separator, if_pos hfirst]
      · rw [hcs, hquote, List.nil_append]
    · cases h
      cases hending
    · obtain ⟨between, hbetween, ht⟩ := exists_blank_append t
      split at h
      · cases h
        cases hending
      · next t' hquote =>
        obtain ⟨key, k, blanks', u, d, v, members', hkey, hblanks', rfl, hrest⟩ :=
          membersFrom_inv h hending
        refine .inr ⟨blanks ++ [','], between, key, k, blanks', u, d, v, members', ?_, hbetween, hkey,
          hblanks', ?_, hrest⟩
        · rw [Separator, if_neg hfirst]
          exact ⟨blanks, hblanks, rfl⟩
        · rw [hcs, hcomma, ht, hquote, List.append_assoc]
          rfl
      · cases h
        cases hending
      · cases h
        cases hending
    · cases h
      cases hending

mutual

/-- What is read without a fault is a value, behind white space.

**Proof sketch.** Induction on the bound, by the forms of values (`Json.draftItems_inv`,
`Json.draftMembers_inv`). -/
theorem exists_isValue_of_draftFrom : (bound : Nat) → {cs : List Char} → {d : Draft} →
    {r : Option (List Char)} → draftFrom bound cs = (d, r) → d.skipFault? = none →
    ∃ blanks value rest, Blank blanks ∧ IsValue value ∧ cs = blanks ++ (value ++ rest) ∧ r = some rest
  | 0, cs, d, r, h, hd => by
    rw [draftFrom] at h
    cases h
    cases hd
  | bound + 1, cs, d, r, h, hd => by
    obtain ⟨blanks, hblanks, hcs⟩ := exists_blank_append cs
    suffices hvalue : ∃ value rest, IsValue value ∧ skipBlanks cs = value ++ rest ∧ r = some rest by
      obtain ⟨value, rest, hvalue, heq, hr⟩ := hvalue
      exact ⟨blanks, value, rest, hblanks, hvalue, heq ▸ hcs, hr⟩
    rw [draftFrom] at h
    cases hskip : skipBlanks cs with
    | nil =>
      rw [hskip] at h
      cases h
      cases hd
    | cons c u =>
      rw [hskip] at h
      dsimp only at h
      split_ifs at h with hquote hbracket hbrace hnumber hnull htrue hfalse
      · split at h
        · next value rest hscan =>
          cases h
          obtain ⟨key, hkey, rfl⟩ := exists_isQuoted_of_scan hscan
          exact ⟨_, rest, .string hkey, by rw [hquote, List.cons_append], rfl⟩
        · cases h
          cases hd
      · obtain ⟨items, ending, r', hitems⟩ : ∃ items ending r',
          draftItems bound Bool.true u = (items, ending, r') := ⟨_, _, _, rfl⟩
        rw [hitems] at h
        cases h
        rw [Draft.skipFault?, Option.or_eq_none_iff] at hd
        obtain ⟨part, rest, hpart, rfl, rfl⟩ := exists_isItems_of_draftItems bound hitems hd.1 hd.2
        exact ⟨_, rest, .array hpart, by rw [hbracket, List.cons_append], rfl⟩
      · obtain ⟨members, ending, r', hmembers⟩ : ∃ members ending r',
          draftMembers bound Bool.true u = (members, ending, r') := ⟨_, _, _, rfl⟩
        rw [hmembers] at h
        cases h
        rw [Draft.skipFault?, Option.or_eq_none_iff] at hd
        obtain ⟨part, rest, hpart, rfl, rfl⟩ :=
          exists_isMembers_of_draftMembers bound hmembers hd.1 hd.2
        exact ⟨_, rest, .object hpart, by rw [hbrace, List.cons_append], rfl⟩
      · split at h
        · next value rest hscan =>
          cases h
          obtain ⟨t, number, -, hnumber, hnumberText⟩ := exists_spelledNumber_of_scan hscan
          exact ⟨number, rest, .number hnumber, hnumberText, rfl⟩
        · cases h
          cases hd
      · obtain ⟨rest, rfl, rfl⟩ := eq_of_draftIdent h hd
        exact ⟨_, rest, .word (w := "null") (by decide), by rw [hnull]; rfl, rfl⟩
      · obtain ⟨rest, rfl, rfl⟩ := eq_of_draftIdent h hd
        exact ⟨_, rest, .word (w := "true") (by decide), by rw [htrue]; rfl, rfl⟩
      · obtain ⟨rest, rfl, rfl⟩ := eq_of_draftIdent h hd
        exact ⟨_, rest, .word (w := "false") (by decide), by rw [hfalse]; rfl, rfl⟩
      · cases h
        cases hd

/-- Items that are read without a fault are items. -/
theorem exists_isItems_of_draftItems : (bound : Nat) → {first : Bool} → {cs : List Char} →
    {items : List Draft} → {ending : ArrayEnd} → {r : Option (List Char)} →
    draftItems bound first cs = (items, ending, r) → itemsSkipFault? items = none →
    ending.skipFault? = none → ∃ part rest, IsItems first part ∧ cs = part ++ rest ∧ r = some rest
  | 0, first, cs, items, ending, r, h, _, hending => by
    rw [draftItems] at h
    cases h
    cases hending
  | bound + 1, first, cs, items, ending, r, h, hitems, hending => by
    rcases draftItems_inv h hending with ⟨blanks, rest, hblanks, rfl, -, rfl⟩ |
      ⟨before, u, d, v, items', hbefore, rfl, hvalue, hrest, rfl⟩
    · exact ⟨_, rest, .close hblanks, by rw [List.append_assoc]; rfl, rfl⟩
    · rw [itemsSkipFault?, Option.or_eq_none_iff] at hitems
      obtain ⟨blanks, value, _, hblanks, hisValue, rfl, heq⟩ :=
        exists_isValue_of_draftFrom bound hvalue hitems.1
      obtain rfl := Option.some.inj heq
      obtain ⟨part, rest, hpart, rfl, rfl⟩ :=
        exists_isItems_of_draftItems bound hrest hitems.2 hending
      exact ⟨_, rest, .item hbefore hblanks hisValue hpart, by simp only [List.append_assoc], rfl⟩

/-- Members that are read without a fault are members.

**Proof sketch.** Induction on the bound, together with the items and the values. Either the object is
closed, or there is one more member (`draftMembers_inv`), of which the value has the form of a value and
the rest that of members. -/
theorem exists_isMembers_of_draftMembers : (bound : Nat) → {first : Bool} → {cs : List Char} →
    {members : List (Except Fault String × Draft)} → {ending : ObjectEnd} →
    {r : Option (List Char)} → draftMembers bound first cs = (members, ending, r) →
    membersSkipFault? members = none → ending.skipFault? = none →
    ∃ part rest, IsMembers first part ∧ cs = part ++ rest ∧ r = some rest
  | 0, first, cs, members, ending, r, h, _, hending => by
    rw [draftMembers] at h
    cases h
    cases hending
  | bound + 1, first, cs, members, ending, r, h, hmembers, hending => by
    rcases draftMembers_inv h hending with ⟨blanks, rest, hblanks, rfl, -, rfl⟩ |
      ⟨before, blanks, key, k, blanks', u, d, v, members', hbefore, hblanks, hkey, hblanks', rfl,
        hvalue, hrest, rfl⟩
    · exact ⟨_, rest, .close hblanks, by rw [List.append_assoc]; rfl, rfl⟩
    · rw [membersSkipFault?, Option.or_eq_none_iff] at hmembers
      obtain ⟨blanks'', value, _, hblanks'', hisValue, rfl, heq⟩ :=
        exists_isValue_of_draftFrom bound hvalue hmembers.1
      obtain rfl := Option.some.inj heq
      obtain ⟨part, rest, hpart, rfl, rfl⟩ :=
        exists_isMembers_of_draftMembers bound hrest hmembers.2 hending
      exact ⟨_, rest, .member hbefore hblanks hkey hblanks' hblanks'' hisValue hpart,
        by simp only [List.append_assoc, List.cons_append], rfl⟩

end

/-! ### A value is read up to its end -/

/-- A number ends in front of a comma or a closing bracket or brace, and of white space before it. -/
theorem endsNumber_of_blank {blanks : List Char} {c : Char} (h : Blank blanks)
    (hc : c = ',' ∨ c = ']' ∨ c = '\x7d') (rest : List Char) :
    EndsNumber (blanks ++ c :: rest) := by
  intro d hd
  cases blanks with
  | nil =>
    obtain rfl : c = d := by simpa using hd
    exact .inr hc
  | cons b blanks =>
    obtain rfl : b = d := by simpa using hd
    exact .inl (h b List.mem_cons_self)

/-- Where an array goes on behind an item, a number ends. -/
theorem IsItems.endsNumber {part : List Char} (h : IsItems false part) (rest : List Char) :
    EndsNumber (part ++ rest) := by
  cases h with
  | close hblanks =>
    rw [List.append_assoc]
    exact endsNumber_of_blank hblanks (.inr (.inl rfl)) rest
  | item hbefore =>
    rw [Separator, if_neg Bool.false_ne_true] at hbefore
    obtain ⟨blanks, hblanks, rfl⟩ := hbefore
    simp only [List.append_assoc, List.cons_append]
    exact endsNumber_of_blank hblanks (.inl rfl) _

/-- Where an object goes on behind a member, a number ends. -/
theorem IsMembers.endsNumber {part : List Char} (h : IsMembers false part) (rest : List Char) :
    EndsNumber (part ++ rest) := by
  cases h with
  | close hblanks =>
    rw [List.append_assoc]
    exact endsNumber_of_blank hblanks (.inr (.inr rfl)) rest
  | member hbefore =>
    rw [Separator, if_neg Bool.false_ne_true] at hbefore
    obtain ⟨blanks, hblanks, rfl⟩ := hbefore
    simp only [List.append_assoc, List.cons_append]
    exact endsNumber_of_blank hblanks (.inl rfl) _

/-- A value starts with a character that is no white space and does not close an array. -/
theorem IsValue.exists_head {value : List Char} (h : IsValue value) :
    ∃ c u, value = c :: u ∧ isBlank c = false ∧ c ≠ ']' := by
  cases h with
  | word hw =>
    simp only [List.mem_cons, List.not_mem_nil, or_false] at hw
    rcases hw with rfl | rfl | rfl <;> exact ⟨_, _, rfl, by decide, by decide⟩
  | number hnumber =>
    obtain ⟨c, u, rfl, hc⟩ := hnumber.exists_head
    exact ⟨c, u, rfl, (numberStart_ne hc).1, (numberStart_ne hc).2.2.2.2⟩
  | string | array | object => exact ⟨_, _, rfl, by decide, by decide⟩

/-- The draft is that of a number. -/
def Draft.IsNumber : Draft → Prop
  | .number _ => True
  | _ => False

/-- The draft of a number says a number, and no other draft does. -/
theorem Draft.isNumber_iff {d : Draft} : d.IsNumber ↔ ∃ n, d.tree = .number n := by
  cases d <;> simp [IsNumber, tree]

/-- The text starts as a number does. -/
def StartsNumber (cs : List Char) : Prop :=
  ∃ c u, cs = c :: u ∧ (c = '-' ∨ c.isDigit = true)

/-- What is read without a fault where a number starts is a number.

**Proof sketch.** A sign or a digit starts neither a word nor a string, array or object. So a number is
read there, or something with a fault. -/
theorem isNumber_of_startsNumber {bound : Nat} {blanks : List Char} {d : Draft}
    {r : Option (List Char)} (h : draftFrom bound (blanks ++ cs) = (d, r))
    (hd : d.skipFault? = none) (hblanks : Blank blanks) (hcs : StartsNumber cs) : d.IsNumber := by
  rw [draftFrom_append hblanks] at h
  obtain ⟨c, u, rfl, hc⟩ := hcs
  obtain ⟨hblank, hquote, hbracket, hbrace, -⟩ := numberStart_ne hc
  have hstart : (c = '-' || c.isDigit) = true := by simpa using hc
  cases bound with
  | zero =>
    rw [draftFrom] at h
    cases h
    cases hd
  | succ bound =>
    rw [draftFrom, skipBlanks_cons hblank] at h
    simp only [if_neg hquote, if_neg hbracket, if_neg hbrace, if_pos hstart] at h
    split at h
    · cases h
      trivial
    · cases h
      cases hd

/-- One more item is read. -/
theorem draftItems_item {bound : Nat} {first : Bool} {before blanks u v : List Char} {c : Char}
    {d : Draft} {items : List Draft} {ending : ArrayEnd} {r : Option (List Char)}
    (hbefore : Separator first before) (hblanks : Blank blanks) (hblank : isBlank c = false)
    (hclose : c ≠ ']') (hvalue : draftFrom bound (c :: u) = (d, some v))
    (hitems : draftItems bound false v = (items, ending, r)) :
    draftItems (bound + 1) first (before ++ (blanks ++ c :: u)) = (d :: items, ending, r) := by
  have hskip : skipBlanks (blanks ++ c :: u) = c :: u := by
    rw [skipBlanks_append hblanks, skipBlanks_cons hblank]
  cases first with
  | true =>
    obtain rfl : before = [] := hbefore
    rw [List.nil_append, draftItems, hskip]
    simp [hclose, hvalue, hitems]
  | false =>
    obtain ⟨between, hbetween, rfl⟩ : ∃ between, Blank between ∧ before = between ++ [','] := hbefore
    rw [List.append_assoc, List.cons_append, List.nil_append, draftItems,
      skipBlanks_append hbetween, skipBlanks_cons (by decide)]
    simp [hskip, hclose, hvalue, hitems]

/-- One more member is read.

**Proof sketch.** White space is passed over up to the quote and up to the colon. In front of the first
member nothing else is read, and in front of any other one a comma. -/
theorem draftMembers_member {bound : Nat} {first : Bool} {before blanks t blanks' u v : List Char}
    {key : Except Fault String} {d : Draft} {members : List (Except Fault String × Draft)}
    {ending : ObjectEnd} {r : Option (List Char)} (hbefore : Separator first before)
    (hblanks : Blank blanks) (hkey : scanString t = .complete key (blanks' ++ ':' :: u))
    (hblanks' : Blank blanks') (hvalue : draftFrom bound u = (d, some v))
    (hmembers : draftMembers bound false v = (members, ending, r)) :
    draftMembers (bound + 1) first (before ++ (blanks ++ '"' :: t)) =
      ((key, d) :: members, ending, r) := by
  have hquote : skipBlanks (blanks ++ '"' :: t) = '"' :: t := by
    rw [skipBlanks_append hblanks, skipBlanks_cons (by decide)]
  have hcolon : skipBlanks (blanks' ++ ':' :: u) = ':' :: u := by
    rw [skipBlanks_append hblanks', skipBlanks_cons (by decide)]
  cases first with
  | true =>
    obtain rfl : before = [] := hbefore
    rw [List.nil_append, draftMembers, hquote]
    simp [hkey, hcolon, hvalue, hmembers]
  | false =>
    obtain ⟨between, hbetween, rfl⟩ : ∃ between, Blank between ∧ before = between ++ [','] := hbefore
    rw [List.append_assoc, List.cons_append, List.nil_append, draftMembers,
      skipBlanks_append hbetween, skipBlanks_cons (by decide)]
    simp [hquote, hkey, hcolon, hvalue, hmembers]

/-- A word is read up to its end. -/
theorem draftFrom_word (c : Char) (word : List Char) (value : Draft) (rest : List Char) {bound : Nat}
    (hb : 2 * ((c :: word) ++ rest).length < bound)
    (h : ∀ bound, draftFrom (bound + 1) ((c :: word) ++ rest) = draftIdent word value (word ++ rest)) :
    draftFrom bound ((c :: word) ++ rest) = (value, some rest) := by
  obtain ⟨bound, rfl⟩ := Nat.exists_eq_add_of_lt hb
  rw [h, draftIdent_append]

mutual

/-- The text of a tree is read up to its end, whatever stands behind it, but for a number, which may go
on.

**Proof sketch.** Induction on the tree, as in `Json.draftFrom_of_spelled`. -/
theorem draftFrom_of_writes {x : Tree} {value : List Char} :
    x.Writes value → ∃ d, d.tree = x ∧ d.skipFault? = none ∧
      ∀ rest bound, (StartsNumber value → EndsNumber rest) →
        2 * (value ++ rest).length < bound → draftFrom bound (value ++ rest) = (d, some rest)
  | .null => ⟨.null, rfl, rfl, fun rest bound _ hb =>
      draftFrom_word 'n' "ull".toList .null rest hb fun _ => rfl⟩
  | .bool (b := b) => by
    refine ⟨.bool b, rfl, rfl, fun rest bound _ hb => ?_⟩
    cases b with
    | true => exact draftFrom_word 't' "rue".toList _ rest hb fun _ => rfl
    | false => exact draftFrom_word 'f' "alse".toList _ rest hb fun _ => rfl
  | .number (t := t) hnumber => by
    refine ⟨.number t.value, rfl, rfl, fun rest bound hrest hb => ?_⟩
    obtain ⟨bound, rfl⟩ := Nat.exists_eq_add_of_lt hb
    have hscan := scanNumber_of_append hnumber (hrest hnumber.exists_head)
    obtain ⟨c, u, rfl, hc⟩ := hnumber.exists_head
    obtain ⟨hblank, hquote, hbracket, hbrace, -⟩ := numberStart_ne hc
    have hstart : (c = '-' || c.isDigit) = Bool.true := by simpa using hc
    rw [List.cons_append] at hscan ⊢
    rw [draftFrom, skipBlanks_cons hblank]
    simp only [if_neg hquote, if_neg hbracket, if_neg hbrace, if_pos hstart, hscan]
  | .string hkey => by
    obtain ⟨s, hs, rfl⟩ := scanString_of_spells hkey
    refine ⟨.string s, rfl, rfl, fun rest bound _ hb => ?_⟩
    obtain ⟨bound, rfl⟩ := Nat.exists_eq_add_of_lt hb
    rw [List.cons_append, draftFrom, skipBlanks_cons (by decide)]
    simp only [if_true, hs]
  | .array hitems => by
    obtain ⟨items, rfl, hfault, hdraft⟩ := draftItems_of_writes hitems
    refine ⟨.array items .closed, rfl, ?_, fun rest bound _ hb => ?_⟩
    · rw [Draft.skipFault?, hfault]
      rfl
    rw [List.cons_append, List.length_cons] at hb
    cases bound with
    | zero => cases hb
    | succ bound =>
      have hread := hdraft rest bound (by omega)
      rw [List.cons_append, draftFrom, skipBlanks_cons (by decide)]
      simp [hread]
  | .object hmembers => by
    obtain ⟨members, rfl, hfault, hdraft⟩ := draftMembers_of_writes hmembers
    refine ⟨.object members .closed, rfl, ?_, fun rest bound _ hb => ?_⟩
    · rw [Draft.skipFault?, hfault]
      rfl
    rw [List.cons_append, List.length_cons] at hb
    cases bound with
    | zero => cases hb
    | succ bound =>
      have hread := hdraft rest bound (by omega)
      rw [List.cons_append, draftFrom, skipBlanks_cons (by decide)]
      simp [hread]

/-- The text of items is read up to the closing bracket, whatever stands behind it.

**Proof sketch.** Recursion on the form of the text, together with the values and the members. Each item
takes up some of the text, so the bound is large enough for it and for the rest, and behind an item
stands what ends a number. -/
theorem draftItems_of_writes {first : Bool} {xs : List Tree} {part : List Char} :
    Tree.WritesItems first xs part → ∃ items, treeOfItems items = xs ∧ itemsSkipFault? items = none ∧
      ∀ rest bound, 2 * (part ++ rest).length + 1 < bound →
        draftItems bound first (part ++ rest) = (items, .closed, some rest)
  | .close hblanks => by
    refine ⟨[], rfl, rfl, fun rest bound hb => ?_⟩
    obtain ⟨bound, rfl⟩ := Nat.exists_eq_add_of_lt hb
    rw [draftItems, List.append_assoc, skipBlanks_append hblanks]
    rfl
  | .item hbefore hblanks hvalue hitems => by
    obtain ⟨d, rfl, hfault, hdraft⟩ := draftFrom_of_writes hvalue
    obtain ⟨items, rfl, hfaults, hdraftItems⟩ := draftItems_of_writes hitems
    obtain ⟨c, u, rfl, hblank, hclose⟩ := hvalue.isValue.exists_head
    refine ⟨d :: items, rfl, ?_, fun rest bound hb => ?_⟩
    · rw [itemsSkipFault?, hfault, hfaults]
      rfl
    simp only [List.append_assoc, List.cons_append, List.length_append, List.length_cons] at hb
    cases bound with
    | zero => cases hb
    | succ bound =>
      simp only [List.append_assoc]
      apply draftItems_item hbefore hblanks hblank hclose
      · apply hdraft _ bound fun _ => hitems.isItems.endsNumber rest
        simp only [List.cons_append, List.length_append, List.length_cons]
        omega
      · apply hdraftItems rest bound
        rw [List.length_append]
        omega

/-- The text of members is read up to the closing brace, whatever stands behind it.

**Proof sketch.** As for items: the key is read up to its closing quote (`scanString_of_spells`), then
the value behind the colon, then the other members. -/
theorem draftMembers_of_writes {first : Bool} {xs : List (Option String × Tree)} {part : List Char} :
    Tree.WritesMembers first xs part → ∃ members, treeOfMembers members = xs ∧
      membersSkipFault? members = none ∧
      ∀ rest bound, 2 * (part ++ rest).length + 1 < bound →
        draftMembers bound first (part ++ rest) = (members, .closed, some rest)
  | .close hblanks => by
    refine ⟨[], rfl, rfl, fun rest bound hb => ?_⟩
    obtain ⟨bound, rfl⟩ := Nat.exists_eq_add_of_lt hb
    rw [draftMembers, List.append_assoc, skipBlanks_append hblanks]
    rfl
  | .member hbefore hblanks hkey hblanks' hblanks'' hvalue hmembers => by
    obtain ⟨k, hk, rfl⟩ := scanString_of_spells hkey
    obtain ⟨d, rfl, hfault, hdraft⟩ := draftFrom_of_writes hvalue
    obtain ⟨members, rfl, hfaults, hdraftMembers⟩ := draftMembers_of_writes hmembers
    refine ⟨(k, d) :: members, rfl, ?_, fun rest bound hb => ?_⟩
    · rw [membersSkipFault?, hfault, hfaults]
      rfl
    simp only [List.append_assoc, List.cons_append, List.length_append, List.length_cons] at hb
    cases bound with
    | zero => cases hb
    | succ bound =>
      simp only [List.append_assoc, List.cons_append]
      apply draftMembers_member hbefore hblanks (hk _) hblanks'
      · rw [draftFrom_append hblanks'']
        apply hdraft _ bound fun _ => hmembers.isMembers.endsNumber rest
        simp only [List.length_append]
        omega
      · apply hdraftMembers rest bound
        rw [List.length_append]
        omega

end

/-- A value is read up to its end, whatever stands behind it, but for a number, which may go on. -/
theorem draftFrom_of_isValue {value : List Char} (h : IsValue value) :
    ∃ d, ∀ rest bound, (StartsNumber value → EndsNumber rest) →
      2 * (value ++ rest).length < bound → draftFrom bound (value ++ rest) = (d, some rest) := by
  obtain ⟨x, hx⟩ := h.exists_writes
  obtain ⟨d, -, -, hdraft⟩ := draftFrom_of_writes hx
  exact ⟨d, hdraft⟩

/-! ### Documents -/

/-- Behind the value of a document only white space is left. -/
theorem exists_draftFrom_of_isDocument {text : List Char} (h : IsDocument text) :
    ∃ d after, draftFrom (2 * text.length + 2) text = (d, some after) ∧ Blank after := by
  obtain ⟨before, value, after, hbefore, hvalue, hafter, rfl⟩ := h
  obtain ⟨d, hdraft⟩ := draftFrom_of_isValue hvalue
  have hends : EndsNumber after := by
    intro c hc
    exact .inl (hafter c (List.mem_of_mem_head? hc))
  refine ⟨d, after, ?_, hafter⟩
  rw [List.append_assoc, draftFrom_append hbefore]
  apply hdraft after _ fun _ => hends
  simp only [List.length_append]
  omega

/-- A text in which anything else is left behind the value is no document. -/
theorem not_isDocument {text : List Char} (rest : List Char)
    (h : (draftFrom (2 * text.length + 2) text).2 = some rest) (hrest : ¬ Blank rest) :
    ¬ IsDocument text := by
  intro hdocument
  obtain ⟨d, after, hread, hafter⟩ := exists_draftFrom_of_isDocument hdocument
  rw [hread] at h
  obtain rfl := Option.some.inj h
  exact hrest hafter

/-- A text that is read without a fault starts with a value. Nothing behind that value matters, so the
text is a document exactly if only white space stands there.

**Proof sketch.** What is read without a fault is a value (`Json.exists_isValue_of_draftFrom`), and a value
is read up to its end whatever stands behind it (`Json.draftFrom_of_isValue`). If the text is a document,
its value is read as well, so it is the same value. -/
theorem exists_isValue_of_draft {text : List Char} (hfault : (draft text).skipFault? = none)
    (hnumber : ¬ (draft text).IsNumber) : ∃ before value rest, Blank before ∧ IsValue value ∧
      text = before ++ (value ++ rest) ∧ (∀ more, draft (before ++ (value ++ more)) = draft text) ∧
      (IsDocument text ↔ Blank rest) := by
  obtain ⟨r, hread⟩ : ∃ r, draftFrom (2 * text.length + 2) text = (draft text, r) := ⟨_, rfl⟩
  obtain ⟨before, value, rest, hbefore, hvalue, htext, rfl⟩ :=
    exists_isValue_of_draftFrom _ hread hfault
  have hstart : ¬ StartsNumber (value ++ rest) := by
    intro hstart
    rw [htext] at hread hfault hnumber
    exact hnumber (isNumber_of_startsNumber hread hfault hbefore hstart)
  have hends (more : List Char) (h : StartsNumber value) : EndsNumber more := by
    obtain ⟨c, u, rfl, hc⟩ := h
    exact absurd ⟨c, u ++ rest, rfl, hc⟩ hstart
  obtain ⟨d, hdraft⟩ := draftFrom_of_isValue hvalue
  have hmore (more : List Char) : draft (before ++ (value ++ more)) = d := by
    rw [draft, draftFrom_append hbefore, hdraft more _ (hends more)]
    simp only [List.length_append]
    omega
  have hd : draft text = d := htext ▸ hmore rest
  refine ⟨before, value, rest, hbefore, hvalue, htext, fun more => (hmore more).trans hd.symm, ?_, ?_⟩
  · intro hdocument
    obtain ⟨d', after, hread', hafter⟩ := exists_draftFrom_of_isDocument hdocument
    rw [hread] at hread'
    obtain rfl := Option.some.inj (Prod.mk.inj hread').2
    exact hafter
  · intro hrest
    exact ⟨before, value, rest, hbefore, hvalue, hrest, by rw [htext, List.append_assoc]⟩

/-! ### What a text starts with -/

/-- A text is read as what it starts with, unless that is a number, which may go on. -/
theorem draft_of_starts {x : Tree} {text : List Char} (h : x.Starts text)
    (hx : ∀ n, x ≠ .number n) : (draft text).tree = x ∧ (draft text).skipFault? = none := by
  obtain ⟨before, value, rest, hbefore, hvalue, rfl⟩ := h
  obtain ⟨d, htree, hfault, hdraft⟩ := draftFrom_of_writes hvalue
  have hstart : ¬ StartsNumber value := by
    rintro ⟨c, u, hhead, hc⟩
    cases hvalue with
    | number => exact hx _ rfl
    | @bool b => cases b <;> cases hhead <;> revert hc <;> decide
    | null | string | array | object =>
      cases hhead
      revert hc
      decide
  have hread : draft (before ++ (value ++ rest)) = d := by
    rw [draft, draftFrom_append hbefore, hdraft rest _ fun hnumber => absurd hnumber hstart]
    simp only [List.length_append]
    omega
  rw [hread]
  exact ⟨htree, hfault⟩

/-- What is read without a fault where a text starts with a number is a number. -/
theorem isNumber_of_starts {n : Option Number} {text : List Char} (h : (Tree.number n).Starts text)
    (hfault : (draft text).skipFault? = none) : (draft text).IsNumber := by
  obtain ⟨before, value, rest, hbefore, hvalue, rfl⟩ := h
  cases hvalue with
  | number hnumber =>
    obtain ⟨c, u, rfl, hc⟩ := hnumber.exists_head
    exact isNumber_of_startsNumber rfl hfault hbefore ⟨c, u ++ rest, rfl, hc⟩

/-- A text that is read without a fault, as something other than a number, starts with what it is read
as. -/
theorem starts_of_draft {x : Tree} {text : List Char} (hx : (draft text).tree = x)
    (hfault : (draft text).skipFault? = none) (hnumber : ∀ n, x ≠ .number n) : x.Starts text := by
  have hnumber : ¬ (draft text).IsNumber := fun h => by
    obtain ⟨n, hn⟩ := Draft.isNumber_iff.mp h
    exact hnumber n (hx.symm.trans hn)
  obtain ⟨before, value, rest, hbefore, hvalue, htext, -⟩ := exists_isValue_of_draft hfault hnumber
  obtain ⟨y, hy⟩ := hvalue.exists_writes
  have hstarts : y.Starts text := ⟨before, value, rest, hbefore, hy, htext⟩
  have hne (n : Option Number) : y ≠ .number n := by
    rintro rfl
    exact hnumber (isNumber_of_starts hstarts hfault)
  rw [← hx, (draft_of_starts hstarts hne).1]
  exact hstarts

end SchemaQueries.Json
