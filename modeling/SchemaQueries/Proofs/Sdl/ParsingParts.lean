import SchemaQueries.Proofs.Sdl.Legible
import SchemaQueries.Proofs.Steps

/-!
# Parsing the tokens of the parts of a definition

The tokens of a part that can be written down, a type reference, a value, a directive or a member of
a type, and what the grammar makes of them: that part itself, whatever follows it.

## Main definitions

* `Sdl.EndsMember` — what may follow the tokens of a member of a type.

## Main results

* `Sdl.many_flatMap`, `Sdl.optionalGroup_groupTokens` — parts that are repeated.
* `Sdl.typeRef_tokens`, `Sdl.value_tokens`, `Sdl.directives_tokens` — type references, values and
  directives.
* `Sdl.field_tokens`, `Sdl.inputValue_tokens`, `Sdl.enumValue_tokens` — the members of types.
-/

set_option autoImplicit false
set_option relaxedAutoImplicit false

namespace SchemaQueries.Sdl

open Steps (bind_of_ok)

/-! ### What follows -/

/-- What may follow a member of a type: it does not go on with a non-null mark, a default value, a
directive or the arguments of one. -/
structure EndsMember (rest : List Token) : Prop where
  bang : nextIsMark '!' rest = false
  equals : nextIsMark '=' rest = false
  at_ : nextIsMark '@' rest = false
  paren : nextIsMark '(' rest = false

/-- The tokens of something with a description and a name start with no mark. -/
theorem nextIsMark_described (c : Char) (description : Option String) (s : String)
    (rest : List Token) :
    nextIsMark c (Schema.descriptionTokens description ++ .name s :: rest) = false := by
  cases description <;> rfl

/-- A member of a type may follow another one. -/
theorem endsMember_described (description : Option String) (s : String) (rest : List Token) :
    EndsMember (Schema.descriptionTokens description ++ .name s :: rest) :=
  ⟨nextIsMark_described _ _ _ _, nextIsMark_described _ _ _ _, nextIsMark_described _ _ _ _,
    nextIsMark_described _ _ _ _⟩

/-- The punctuation character is read. -/
theorem mark_self (c : Char) (rest : List Token) : mark c (.mark c :: rest) = .ok ((), rest) := by
  rw [mark, if_pos rfl]

/-! ### Repetitions -/

section Repetition

variable {α β : Type} {more : List Token → Bool} {item : List Token → Except Refusal (Taken α)}
  {tokens : β → List Token} {f : β → α} {ends : List Token → Prop} {xs : List β}
  {rest : List Token} {bound : Nat}

/-- Behind an item may stand whatever starts with another item, or what may stand behind the last
one. -/
theorem ends_flatMap (hstart : ∀ x ∈ xs, ∀ rest, ends (tokens x ++ rest)) (hends : ends rest) :
    ends (xs.flatMap tokens ++ rest) := by
  cases xs with
  | nil => exact hends
  | cons x xs =>
    rw [List.flatMap_cons, List.append_assoc]
    exact hstart x (by simp) _

/-- Items are read one after the other, each as its image, up to something that is no item. -/
theorem many_flatMap_map
    (hitem : ∀ x ∈ xs, ∀ rest, ends rest → item (tokens x ++ rest) = .ok (f x, rest))
    (hstart : ∀ x ∈ xs, ∀ rest, more (tokens x ++ rest) = true ∧ ends (tokens x ++ rest))
    (hmore : more rest = false) (hends : ends rest) (hbound : xs.length ≤ bound) :
    many more item bound (xs.flatMap tokens ++ rest) = .ok (xs.map f, rest) := by
  induction xs generalizing bound with
  | nil =>
    cases bound with
    | zero => rfl
    | succ bound => rw [List.flatMap_nil, List.nil_append, many, hmore]; rfl
  | cons x xs ih =>
    obtain ⟨bound, rfl⟩ := Nat.exists_eq_succ_of_ne_zero (Nat.ne_zero_of_lt hbound)
    obtain ⟨hx, hxs⟩ := List.forall_mem_cons.mp hitem
    obtain ⟨hxstart, hxsstart⟩ := List.forall_mem_cons.mp hstart
    have ih := ih hxs hxsstart (Nat.le_of_succ_le_succ hbound)
    have hnext : ends (xs.flatMap tokens ++ rest) :=
      ends_flatMap (fun y hy rest => (hxsstart y hy rest).2) hends
    rw [List.flatMap_cons, List.append_assoc, many, (hxstart _).1, if_pos rfl]
    exact (bind_of_ok (hx _ hnext)).trans ((bind_of_ok ih).trans rfl)

/-- An optional group of items is read as their images.

**Proof sketch.** Without items nothing opens a group. With items, the first one is read behind the
opening mark, and the others as long as no closing mark stands there. -/
theorem optionalGroup_groupTokens_map {opening close : Char}
    (hitem : ∀ x ∈ xs, ∀ rest, ends rest → item (tokens x ++ rest) = .ok (f x, rest))
    (hstart : ∀ x ∈ xs, ∀ rest, nextIsMark close (tokens x ++ rest) = false ∧ ends (tokens x ++ rest))
    (hclose : ∀ rest, ends (.mark close :: rest)) (hopening : nextIsMark opening rest = false)
    (hbound : xs.length ≤ bound) :
    optionalGroup opening close item bound (Schema.groupTokens opening close tokens xs ++ rest) =
      .ok (xs.map f, rest) := by
  cases xs with
  | nil =>
    rw [Schema.groupTokens, List.nil_append, optionalGroup, hopening]
    rfl
  | cons x xs =>
    obtain ⟨hx, hxs⟩ := List.forall_mem_cons.mp hitem
    obtain ⟨hxstart, hxsstart⟩ := List.forall_mem_cons.mp hstart
    have hmany : many (!nextIsMark close ·) item bound
        (xs.flatMap tokens ++ .mark close :: rest) = .ok (xs.map f, .mark close :: rest) :=
      many_flatMap_map hxs (fun y hy rest => by simpa using hxsstart y hy rest)
        (by simp [nextIsMark]) (hclose rest) (Nat.le_of_succ_le hbound)
    have hnext : ends (xs.flatMap tokens ++ .mark close :: rest) :=
      ends_flatMap (fun y hy rest => (hxsstart y hy rest).2) (hclose rest)
    have hgroup : Schema.groupTokens opening close tokens (x :: xs) ++ rest =
        .mark opening :: (tokens x ++ (xs.flatMap tokens ++ .mark close :: rest)) := by
      simp [Schema.groupTokens]
    rw [hgroup, optionalGroup, if_pos (by simp [nextIsMark])]
    exact (bind_of_ok (hx _ hnext)).trans
      ((bind_of_ok hmany).trans ((bind_of_ok (mark_self _ _)).trans rfl))

end Repetition

section Items

variable {α : Type} {more : List Token → Bool} {item : List Token → Except Refusal (Taken α)}
  {tokens : α → List Token} {ends : List Token → Prop} {xs : List α} {rest : List Token}
  {bound : Nat}

/-- Items are read one after the other, up to something that is no item. -/
theorem many_flatMap (hitem : ∀ x ∈ xs, ∀ rest, ends rest → item (tokens x ++ rest) = .ok (x, rest))
    (hstart : ∀ x ∈ xs, ∀ rest, more (tokens x ++ rest) = true ∧ ends (tokens x ++ rest))
    (hmore : more rest = false) (hends : ends rest) (hbound : xs.length ≤ bound) :
    many more item bound (xs.flatMap tokens ++ rest) = .ok (xs, rest) := by
  have hmany := many_flatMap_map (f := id) hitem hstart hmore hends hbound
  rwa [List.map_id] at hmany

/-- Items that are read before everything are read one after the other, up to something that is no
item. -/
theorem many_flatMap_of_anything (hitem : ∀ x ∈ xs, ∀ rest, item (tokens x ++ rest) = .ok (x, rest))
    (hstart : ∀ x ∈ xs, ∀ rest, more (tokens x ++ rest) = true) (hmore : more rest = false)
    (hbound : xs.length ≤ bound) : many more item bound (xs.flatMap tokens ++ rest) = .ok (xs, rest) :=
  have hitem : ∀ x ∈ xs, ∀ rest, True → item (tokens x ++ rest) = .ok (x, rest) :=
    fun x hx rest _ => hitem x hx rest
  many_flatMap hitem (fun x hx rest => ⟨hstart x hx rest, trivial⟩) hmore trivial hbound

/-- An optional group of items is read as these items. -/
theorem optionalGroup_groupTokens {opening close : Char}
    (hitem : ∀ x ∈ xs, ∀ rest, ends rest → item (tokens x ++ rest) = .ok (x, rest))
    (hstart : ∀ x ∈ xs, ∀ rest, nextIsMark close (tokens x ++ rest) = false ∧ ends (tokens x ++ rest))
    (hclose : ∀ rest, ends (.mark close :: rest)) (hopening : nextIsMark opening rest = false)
    (hbound : xs.length ≤ bound) :
    optionalGroup opening close item bound (Schema.groupTokens opening close tokens xs ++ rest) =
      .ok (xs, rest) := by
  have hgroup := optionalGroup_groupTokens_map (f := id) hitem hstart hclose hopening hbound
  rwa [List.map_id] at hgroup

end Items

/-- A group does not start with another mark than its own. -/
theorem nextIsMark_groupTokens {α : Type} {c opening : Char} (hc : c ≠ opening) (close : Char)
    (tokens : α → List Token) (xs : List α) {rest : List Token} (hrest : nextIsMark c rest = false) :
    nextIsMark c (Schema.groupTokens opening close tokens xs ++ rest) = false := by
  cases xs with
  | nil => exact hrest
  | cons x xs => exact decide_eq_false hc

/-! ### Numbers of tokens -/

/-- The tokens of a piece are some of those of all pieces. -/
theorem length_le_length_flatMap {α : Type} {tokens : α → List Token} {xs : List α} {x : α}
    (hx : x ∈ xs) : (tokens x).length ≤ (xs.flatMap tokens).length := by
  obtain ⟨before, after, rfl⟩ := List.append_of_mem hx
  simp only [List.flatMap_append, List.flatMap_cons, List.length_append]
  omega

/-- The tokens of a member of a group are some of those of the group. -/
theorem length_le_groupTokens {α : Type} (opening close : Char) {tokens : α → List Token}
    {xs : List α} {x : α} (hx : x ∈ xs) :
    (tokens x).length ≤ (Schema.groupTokens opening close tokens xs).length := by
  have hle : (tokens x).length ≤ (xs.flatMap tokens).length := length_le_length_flatMap hx
  cases xs with
  | nil => exact absurd hx List.not_mem_nil
  | cons y ys =>
    simp only [Schema.groupTokens, List.length_cons, List.length_append] at hle ⊢
    omega

/-- Pieces of at least one token are no more than their tokens. -/
theorem length_le_flatMap {α : Type} {tokens : α → List Token} {xs : List α}
    (h : ∀ x ∈ xs, tokens x ≠ []) : xs.length ≤ (xs.flatMap tokens).length := by
  induction xs with
  | nil => exact Nat.zero_le _
  | cons x xs ih =>
    obtain ⟨hx, hxs⟩ := List.forall_mem_cons.mp h
    have hpos := List.length_pos_of_ne_nil hx
    have ih := ih hxs
    rw [List.flatMap_cons, List.length_append, List.length_cons]
    omega

/-- The members of a group of at least one token are no more than the tokens of the group. -/
theorem length_le_groupTokens_of_ne_nil {α : Type} (opening close : Char)
    {tokens : α → List Token} {xs : List α} (h : ∀ x ∈ xs, tokens x ≠ []) :
    xs.length ≤ (Schema.groupTokens opening close tokens xs).length := by
  have hle := length_le_flatMap h
  cases xs with
  | nil => exact Nat.zero_le _
  | cons y ys =>
    simp only [Schema.groupTokens, List.length_cons, List.length_append] at hle ⊢
    omega

/-! ### Type references -/

/-- A name is read as a type reference, with the non-null mark behind it. -/
theorem typeRef_name (bound : Nat) (s : String) (rest : List Token) :
    typeRef (bound + 1) (.name s :: rest) =
      if nextIsMark '!' rest then .ok (.nonNull (.named s), rest.drop 1)
      else .ok (.named s, rest) := by
  rw [typeRef]
  rfl

/-- A list is read as a type reference, with the non-null mark behind it. -/
theorem typeRef_list {bound : Nat} {ts rest : List Token} {item : TypeRef}
    (h : typeRef bound ts = .ok (item, .mark ']' :: rest)) :
    typeRef (bound + 1) (.mark '[' :: ts) =
      if nextIsMark '!' rest then .ok (.nonNull (.list item), rest.drop 1)
      else .ok (.list item, rest) := by
  have hmark : mark ']' (.mark ']' :: rest) = .ok ((), rest) := by rw [mark, if_pos rfl]
  rw [typeRef]
  exact (bind_of_ok h).trans ((bind_of_ok hmark).trans rfl)

/-- The tokens of a type reference are read as that, if no non-null mark follows, or if one
follows that may stand there.

**Proof sketch.** Induction on the type reference. A non-null mark is read together with what
stands before it, which is why both cases go into the induction. -/
theorem typeRef_tokens {r : TypeRef} (h : r.IsWritable) {bound : Nat}
    (hbound : r.tokens.length < bound) (rest : List Token) :
    (nextIsMark '!' rest = false → typeRef bound (r.tokens ++ rest) = .ok (r, rest)) ∧
    ((∀ u, r ≠ .nonNull u) →
      typeRef bound (r.tokens ++ .mark '!' :: rest) = .ok (.nonNull r, rest)) := by
  induction r generalizing bound rest with
  | named s =>
    obtain ⟨bound, rfl⟩ := Nat.exists_eq_succ_of_ne_zero (Nat.ne_zero_of_lt hbound)
    refine ⟨fun hrest => ?_, fun _ => ?_⟩
    · exact (typeRef_name bound s rest).trans (if_neg (by rw [hrest]; decide))
    · exact (typeRef_name bound s (.mark '!' :: rest)).trans (if_pos rfl)
  | list item ih =>
    obtain ⟨bound, rfl⟩ := Nat.exists_eq_succ_of_ne_zero (Nat.ne_zero_of_lt hbound)
    have hitem (tail : List Token) :
        typeRef bound (item.tokens ++ .mark ']' :: tail) = .ok (item, .mark ']' :: tail) :=
      (ih h (by simp [TypeRef.tokens] at hbound; omega) _).1 rfl
    have htokens (tail : List Token) : (TypeRef.list item).tokens ++ tail =
        .mark '[' :: (item.tokens ++ .mark ']' :: tail) := by simp [TypeRef.tokens]
    refine ⟨fun hrest => ?_, fun _ => ?_⟩
    · rw [htokens, typeRef_list (hitem rest), if_neg (by rw [hrest]; decide)]
    · rw [htokens, typeRef_list (hitem _)]
      exact if_pos rfl
  | nonNull inner ih =>
    refine ⟨fun _ => ?_, fun hnot => absurd rfl (hnot inner)⟩
    have htokens : (TypeRef.nonNull inner).tokens ++ rest = inner.tokens ++ .mark '!' :: rest := by
      simp [TypeRef.tokens]
    rw [htokens]
    exact (ih h.1 (by simp [TypeRef.tokens] at hbound; omega) rest).2 h.2

/-! ### Values -/

/-- The tokens of a value do not start with a bracket that ends something. -/
theorem nextIsMark_value {c : Char} (hc : c ∈ [']', '\x7d', ')']) (v : Value)
    (rest : List Token) : nextIsMark c (v.tokens ++ rest) = false := by
  simp only [List.mem_cons, List.not_mem_nil, or_false] at hc
  rcases hc with rfl | rfl | rfl <;> cases v <;> rfl

/-- A value has tokens. -/
theorem value_tokens_ne_nil (v : Value) : v.tokens ≠ [] := by
  cases v <;> simp [Value.tokens]

section Items

variable {takesVariables : Bool}

/-- The tokens of items are read as these items, if those of each item are.

**Proof sketch.** Induction on the items. A value does not start with a closing bracket, and it has at
least one token, so the bound is large enough for it and for the others. -/
theorem listItems_tokens {items : List Value}
    (h : ∀ v ∈ items, ∀ rest bound, v.tokens.length ≤ bound + 1 →
      value takesVariables (bound + 1) (v.tokens ++ rest) = .ok (v, rest))
    {bound : Nat} (hbound : (items.flatMap Value.tokens).length < bound) (rest : List Token) :
    listItems takesVariables bound (items.flatMap Value.tokens ++ .mark ']' :: rest) =
      .ok (items, rest) := by
  induction items generalizing bound with
  | nil =>
    obtain ⟨bound, rfl⟩ := Nat.exists_eq_succ_of_ne_zero (Nat.ne_zero_of_lt hbound)
    rfl
  | cons v items ih =>
    obtain ⟨hv, hitems⟩ := List.forall_mem_cons.mp h
    have hpos := List.length_pos_of_ne_nil (value_tokens_ne_nil v)
    rw [List.flatMap_cons, List.length_append] at hbound
    obtain ⟨bound, rfl⟩ := Nat.exists_eq_add_of_le' (show 2 ≤ bound by omega)
    have hlater := ih hitems (show _ < bound + 1 by omega)
    have hfirst := hv (items.flatMap Value.tokens ++ .mark ']' :: rest) bound (by omega)
    rw [List.flatMap_cons, List.append_assoc, listItems,
      if_neg (by rw [nextIsMark_value (by decide)]; decide)]
    exact (bind_of_ok hfirst).trans ((bind_of_ok hlater).trans rfl)

/-- The tokens of members are read as these members, if those of each value are.

**Proof sketch.** Induction on the members, as for the items of a list. A member starts with its key and
a colon, so it is taken for a member and not for the end of the object. -/
theorem objectMembers_tokens {members : List (String × Value)}
    (h : ∀ m ∈ members, ∀ rest bound, m.2.tokens.length ≤ bound + 1 →
      value takesVariables (bound + 1) (m.2.tokens ++ rest) = .ok (m.2, rest))
    {bound : Nat} (hbound : (members.flatMap Value.memberTokens).length < bound)
    (rest : List Token) :
    objectMembers takesVariables bound
        (members.flatMap Value.memberTokens ++ .mark '\x7d' :: rest) = .ok (members, rest) := by
  induction members generalizing bound with
  | nil =>
    obtain ⟨bound, rfl⟩ := Nat.exists_eq_succ_of_ne_zero (Nat.ne_zero_of_lt hbound)
    rfl
  | cons m members ih =>
    obtain ⟨hm, hmembers⟩ := List.forall_mem_cons.mp h
    have hlen : (Value.memberTokens m).length = m.2.tokens.length + 2 := rfl
    rw [List.flatMap_cons, List.length_append, hlen] at hbound
    obtain ⟨bound, rfl⟩ := Nat.exists_eq_add_of_le' (show 2 ≤ bound by omega)
    have hlater := ih hmembers (show _ < bound + 1 by omega)
    have hfirst := hm (members.flatMap Value.memberTokens ++ .mark '\x7d' :: rest) bound (by omega)
    have htokens : Value.memberTokens m ++
        (members.flatMap Value.memberTokens ++ .mark '\x7d' :: rest) =
        .name m.1 :: .mark ':' :: (m.2.tokens ++
          (members.flatMap Value.memberTokens ++ .mark '\x7d' :: rest)) := rfl
    rw [List.flatMap_cons, List.append_assoc, htokens, objectMembers,
      if_neg (show ¬ nextIsMark '\x7d' (.name m.1 :: _) = true from Bool.false_ne_true)]
    refine (bind_of_ok rfl).trans ((bind_of_ok (mark_self _ _)).trans ?_)
    exact (bind_of_ok hfirst).trans ((bind_of_ok hlater).trans rfl)

end Items

/-- A member with a greater key than all others goes to the end. -/
theorem insertMember_of_forall_lt {members : List (String × Value)} {key : String} (v : Value)
    (h : ∀ m ∈ members, m.1 < key) :
    Value.insertMember key v members = members ++ [(key, v)] := by
  induction members with
  | nil => rfl
  | cons m members ih =>
    obtain ⟨hm, hmembers⟩ := List.forall_mem_cons.mp h
    have hne : key ≠ m.1 := fun heq => String.lt_irrefl key (by rwa [← heq] at hm)
    rw [Value.insertMember, if_neg (String.lt_asymm hm), if_neg hne, ih hmembers]
    rfl

/-- Members with ascending keys are those of the object with them. -/
theorem objectOf_of_pairwise {members : List (String × Value)}
    (h : members.Pairwise fun m m' => m.1 < m'.1) : Value.objectOf members = .object members := by
  have hfold (seen : List (String × Value)) (hseen : (seen ++ members).Pairwise
      fun m m' => m.1 < m'.1) :
      members.foldl (fun sorted m => Value.insertMember m.1 m.2 sorted) seen = seen ++ members := by
    clear h
    induction members generalizing seen with
    | nil => exact (List.append_nil seen).symm
    | cons m members ih =>
      have hlast : ∀ x ∈ seen, x.1 < m.1 := fun x hx =>
        (List.pairwise_append.mp hseen).2.2 x hx m (by simp)
      rw [List.foldl_cons, insertMember_of_forall_lt _ hlast, ih]
      · simp
      · simpa using hseen
  rw [Value.objectOf, hfold [] h, List.nil_append]

/-- The tokens of a value that can be written down are read as that value.

**Proof sketch.** Induction on the value. The bound is at least the number of tokens, so that it is
not reached inside lists and objects either. -/
theorem value_tokens {holds : String → Prop} {takesVariables : Bool} {opened : Nat} {v : Value}
    (h : v.IsLegible holds takesVariables opened) {bound : Nat} (rest : List Token)
    (hbound : v.tokens.length ≤ bound) :
    value takesVariables bound (v.tokens ++ rest) = .ok (v, rest) := by
  obtain ⟨bound, rfl⟩ := Nat.exists_eq_succ_of_ne_zero
    (Nat.ne_zero_of_lt (Nat.lt_of_lt_of_le (List.length_pos_of_ne_nil (value_tokens_ne_nil v)) hbound))
  induction h generalizing bound rest with
  | var _ htakes _ =>
    subst htakes
    rfl
  | int | string | null => rfl
  | @boolean _ b => cases b <;> rfl
  | enum _ _ hword =>
    obtain ⟨htrue, hfalse, hnull⟩ := hword
    simp only [Value.tokens, List.cons_append, List.nil_append, value]
    rw [if_neg htrue, if_neg hfalse, if_neg hnull]
  | @list _ items _ _ ih =>
    have hlen : (Value.list items).tokens.length = (items.flatMap Value.tokens).length + 2 := by
      simp [Value.tokens, Value.itemsTokens_eq_flatMap]
    have hitems := listItems_tokens ih (show _ < bound by omega) rest
    have htokens : (Value.list items).tokens ++ rest =
        .mark '[' :: (items.flatMap Value.tokens ++ .mark ']' :: rest) := by
      simp [Value.tokens, Value.itemsTokens_eq_flatMap]
    rw [htokens, value]
    exact (bind_of_ok hitems).trans rfl
  | @object _ members _ _ _ hsorted ih =>
    have hlen : (Value.object members).tokens.length =
        (members.flatMap Value.memberTokens).length + 2 := by
      simp [Value.tokens, Value.membersTokens_eq_flatMap]
    have hmembers := objectMembers_tokens ih (show _ < bound by omega) rest
    have htokens : (Value.object members).tokens ++ rest =
        .mark '\x7b' :: (members.flatMap Value.memberTokens ++ .mark '\x7d' :: rest) := by
      simp [Value.tokens, Value.membersTokens_eq_flatMap]
    rw [htokens, value]
    exact (bind_of_ok hmembers).trans
      (congrArg (fun v => Except.ok (v, rest)) (objectOf_of_pairwise hsorted))

/-! ### Directives -/

/-- The tokens of an argument of a directive are read as that. -/
theorem argument_tokens {holds : String → Prop} {opened : Nat} {a : String × Value}
    (h : a.2.IsLegible holds true opened) {bound : Nat}
    (hbound : (Value.memberTokens a).length < bound) (rest : List Token) :
    argument bound (Value.memberTokens a ++ rest) = .ok (a, rest) := by
  have hlen : (Value.memberTokens a).length = a.2.tokens.length + 2 := rfl
  have hvalue := value_tokens h rest (show _ ≤ bound by omega)
  have htokens : Value.memberTokens a ++ rest =
      .name a.1 :: .mark ':' :: (a.2.tokens ++ rest) := rfl
  rw [htokens]
  refine (bind_of_ok rfl).trans ((bind_of_ok (mark_self _ _)).trans ?_)
  exact (bind_of_ok hvalue).trans rfl

/-- The tokens of arguments in parentheses are read as these arguments. -/
theorem arguments_tokens {holds : String → Prop} {opened : Nat} {arguments : List (String × Value)}
    (h : ∀ a ∈ arguments, a.2.IsLegible holds true opened) {bound : Nat}
    (hbound : (Schema.groupTokens '(' ')' Value.memberTokens arguments).length < bound)
    {rest : List Token} (hrest : nextIsMark '(' rest = false) :
    optionalGroup '(' ')' (argument bound) bound
        (Schema.groupTokens '(' ')' Value.memberTokens arguments ++ rest) =
      .ok (arguments, rest) := by
  have hitem : ∀ a ∈ arguments, ∀ rest, True →
      argument bound (Value.memberTokens a ++ rest) = .ok (a, rest) := fun a ha rest _ => by
    have hle : (Value.memberTokens a).length ≤ _ := length_le_groupTokens '(' ')' ha
    exact argument_tokens (h a ha) (by omega) rest
  have hne : ∀ a ∈ arguments, Value.memberTokens a ≠ [] := fun _ _ => List.cons_ne_nil _ _
  have hle := length_le_groupTokens_of_ne_nil '(' ')' hne
  exact optionalGroup_groupTokens hitem (fun a _ rest => ⟨rfl, trivial⟩) (fun _ => trivial) hrest
    (by omega)

/-- The tokens of a directive are read as that. -/
theorem directive_tokens {holds : String → Prop} {opened : Nat} {d : Schema.Directive}
    (h : d.IsLegible holds opened) {bound : Nat} (hbound : d.tokens.length < bound)
    {rest : List Token} (hrest : nextIsMark '(' rest = false) :
    directive bound (d.tokens ++ rest) = .ok (d, rest) := by
  have hlen : d.tokens.length =
      (Schema.groupTokens '(' ')' Value.memberTokens d.arguments).length + 2 := rfl
  have harguments := arguments_tokens h.values (show _ < bound by omega) hrest
  have htokens : d.tokens ++ rest = .mark '@' :: .name d.name ::
      (Schema.groupTokens '(' ')' Value.memberTokens d.arguments ++ rest) := rfl
  rw [htokens]
  refine (bind_of_ok (mark_self _ _)).trans ((bind_of_ok rfl).trans ?_)
  exact (bind_of_ok harguments).trans rfl

/-- The tokens of directives are read as these directives. -/
theorem directives_tokens {holds : String → Prop} {opened : Nat}
    {attached : List Schema.Directive} (h : ∀ d ∈ attached, d.IsLegible holds opened) {bound : Nat}
    (hbound : (attached.flatMap Schema.Directive.tokens).length < bound) {rest : List Token}
    (hat : nextIsMark '@' rest = false) (hparen : nextIsMark '(' rest = false) :
    directives bound (attached.flatMap Schema.Directive.tokens ++ rest) = .ok (attached, rest) := by
  have hitem : ∀ d ∈ attached, ∀ rest, nextIsMark '(' rest = false →
      directive bound (d.tokens ++ rest) = .ok (d, rest) := fun d hd rest hrest => by
    have hle : d.tokens.length ≤ _ := length_le_length_flatMap hd
    exact directive_tokens (h d hd) (Nat.lt_of_le_of_lt hle hbound) hrest
  have hle := length_le_flatMap fun d (_ : d ∈ attached) => show d.tokens ≠ [] from
    List.cons_ne_nil _ _
  exact many_flatMap hitem (fun d _ rest => ⟨rfl, rfl⟩) hat hparen (by omega)

/-- Directives do not start with another mark than their own. -/
theorem nextIsMark_directives {c : Char} (hc : c ≠ '@') (attached : List Schema.Directive)
    {rest : List Token} (hrest : nextIsMark c rest = false) :
    nextIsMark c (attached.flatMap Schema.Directive.tokens ++ rest) = false := by
  cases attached with
  | nil => exact hrest
  | cons d attached => exact decide_eq_false hc

/-! ### Members of types -/

/-- A description is read before what it describes. -/
theorem description_tokens (text : Option String) (s : String) (rest : List Token) :
    description (Schema.descriptionTokens text ++ .name s :: rest) = .ok (text, .name s :: rest) := by
  cases text <;> rfl

/-- A default value, if the next token is an equals sign. -/
def defaultValue (bound : Nat) (ts : List Token) : Except Refusal (Taken (Option Value)) :=
  if nextIsMark '=' ts then do
    let (v, ts) ← value false bound (ts.drop 1)
    .ok (some v, ts)
  else .ok (none, ts)

/-- An argument or an input field, with the reading of the default value as a step of its own. -/
theorem inputValue_eq (bound : Nat) (ts : List Token) :
    inputValue bound ts = (do
      let (text, ts) ← description ts
      let (s, ts) ← name ts
      let ((), ts) ← mark ':' ts
      let (type, ts) ← typeRef bound ts
      let (default, ts) ← defaultValue bound ts
      let (attached, ts) ← directives bound ts
      return (⟨text, s, type, default, attached⟩, ts)) := by
  refine bind_congr fun (text, ts) => bind_congr fun (s, ts) => bind_congr fun ((), ts) =>
    bind_congr fun (type, ts) => ?_
  unfold defaultValue
  by_cases h : nextIsMark '=' ts = true
  · simp only [if_pos h]
    cases value false bound (ts.drop 1) <;> rfl
  · simp only [if_neg h]

/-- The tokens of a default value are read as that. -/
theorem defaultValue_tokens {holds : String → Prop} {opened : Nat} {default : Option Value}
    (h : ∀ v ∈ default, v.IsLegible holds false opened) {bound : Nat}
    (hbound : (Schema.defaultTokens default).length < bound) {rest : List Token}
    (hrest : nextIsMark '=' rest = false) :
    defaultValue bound (Schema.defaultTokens default ++ rest) = .ok (default, rest) := by
  cases default with
  | none => exact if_neg (ne_true_of_eq_false hrest)
  | some v =>
    have hlen : (Schema.defaultTokens (some v)).length = v.tokens.length + 1 := rfl
    have hvalue := value_tokens (h v rfl) rest (show _ ≤ bound by omega)
    exact (if_pos rfl).trans (bind_of_ok hvalue)

/-- A default value does not start with another mark than its own. -/
theorem nextIsMark_default {c : Char} (hc : c ≠ '=') (default : Option Value) {rest : List Token}
    (hrest : nextIsMark c rest = false) :
    nextIsMark c (Schema.defaultTokens default ++ rest) = false := by
  cases default with
  | none => exact hrest
  | some v => exact decide_eq_false hc

/-- The tokens of an argument or an input field are read as that.

**Proof sketch.** Description, name, type, default value and directives are read one after the other.
What stands behind each of them is not a mark that it could go on with, because none of the later parts
starts with it. -/
theorem inputValue_tokens {holds : String → Prop} {opened : Nat} {v : Schema.InputValue}
    (h : v.IsLegible holds opened) {bound : Nat} (hbound : v.tokens.length < bound)
    {rest : List Token} (hrest : EndsMember rest) :
    inputValue bound (v.tokens ++ rest) = .ok (v, rest) := by
  have hlen : v.tokens.length = (Schema.descriptionTokens v.description).length + 2 +
      v.type.tokens.length + (Schema.defaultTokens v.default).length +
      (v.directives.flatMap Schema.Directive.tokens).length := by
    simp only [Schema.InputValue.tokens, List.length_append, List.length_cons]
    omega
  have htokens : v.tokens ++ rest = Schema.descriptionTokens v.description ++ .name v.name ::
      .mark ':' :: (v.type.tokens ++ (Schema.defaultTokens v.default ++
        (v.directives.flatMap Schema.Directive.tokens ++ rest))) := by
    simp [Schema.InputValue.tokens]
  have hbang : nextIsMark '!' (Schema.defaultTokens v.default ++
      (v.directives.flatMap Schema.Directive.tokens ++ rest)) = false :=
    nextIsMark_default (by decide) _ (nextIsMark_directives (by decide) _ hrest.bang)
  have htype := (typeRef_tokens h.type (show _ < bound by omega) _).1 hbang
  have hdefault := defaultValue_tokens h.default (show _ < bound by omega)
    (nextIsMark_directives (by decide) v.directives hrest.equals)
  have hdirectives := directives_tokens h.directives (show _ < bound by omega) hrest.at_ hrest.paren
  rw [htokens, inputValue_eq]
  refine (bind_of_ok (description_tokens _ _ _)).trans ?_
  refine (bind_of_ok rfl).trans ((bind_of_ok (mark_self _ _)).trans ((bind_of_ok htype).trans ?_))
  exact (bind_of_ok hdefault).trans ((bind_of_ok hdirectives).trans rfl)

/-- A group of members of a type is read as these members, whose tokens start with a description
and a name. -/
theorem optionalGroup_members {α : Type} {o c : Char} {tokens : α → List Token}
    {item : List Token → Except Refusal (Taken α)} {xs : List α} {bound : Nat}
    (hbound : (Schema.groupTokens o c tokens xs).length < bound)
    (hitem : ∀ x ∈ xs, (tokens x).length < bound → ∀ rest, EndsMember rest →
      item (tokens x ++ rest) = .ok (x, rest))
    (hstart : ∀ x ∈ xs, ∃ text s tail, tokens x = Schema.descriptionTokens text ++ .name s :: tail)
    (hclose : ∀ rest, EndsMember (.mark c :: rest)) {rest : List Token}
    (hrest : nextIsMark o rest = false) :
    optionalGroup o c item bound (Schema.groupTokens o c tokens xs ++ rest) = .ok (xs, rest) := by
  refine optionalGroup_groupTokens (fun x hx rest hends => ?_) (fun x hx rest => ?_) hclose hrest ?_
  · exact hitem x hx (Nat.lt_of_le_of_lt (length_le_groupTokens o c hx) hbound) rest hends
  · obtain ⟨text, s, tail, htokens⟩ := hstart x hx
    rw [htokens, List.append_assoc]
    exact ⟨nextIsMark_described _ _ _ _, endsMember_described _ _ _⟩
  · have hle := length_le_groupTokens_of_ne_nil o c fun x hx => by
      obtain ⟨text, s, tail, htokens⟩ := hstart x hx
      show tokens x ≠ []
      simp [htokens]
    omega

/-- The tokens of arguments in parentheses are read as these arguments. -/
theorem argumentDefinitions_tokens {holds : String → Prop} {opened : Nat}
    {arguments : List Schema.InputValue} (h : ∀ v ∈ arguments, v.IsLegible holds opened)
    {bound : Nat}
    (hbound : (Schema.groupTokens '(' ')' Schema.InputValue.tokens arguments).length < bound)
    {rest : List Token} (hrest : nextIsMark '(' rest = false) :
    argumentDefinitions bound
        (Schema.groupTokens '(' ')' Schema.InputValue.tokens arguments ++ rest) =
      .ok (arguments, rest) :=
  optionalGroup_members hbound
    (fun v hv hlen _ hends => inputValue_tokens (h v hv) hlen hends)
    (fun _ _ => ⟨_, _, _, rfl⟩) (fun _ => ⟨rfl, rfl, rfl, rfl⟩) hrest

/-- The tokens of a field are read as that.

**Proof sketch.** Description, name, arguments, type and directives are read one after the other, each
with the bound that the tokens of the field are within. A colon ends the arguments. -/
theorem field_tokens {holds : String → Prop} {f : Schema.Field} (h : f.IsLegible holds)
    {bound : Nat} (hbound : f.tokens.length < bound) {rest : List Token} (hrest : EndsMember rest) :
    field bound (f.tokens ++ rest) = .ok (f, rest) := by
  have hlen : f.tokens.length = (Schema.descriptionTokens f.description).length + 1 +
      (Schema.groupTokens '(' ')' Schema.InputValue.tokens f.arguments).length + 1 +
      f.type.tokens.length + (f.directives.flatMap Schema.Directive.tokens).length := by
    simp only [Schema.Field.tokens, List.length_append, List.length_cons]
    omega
  have htokens : f.tokens ++ rest = Schema.descriptionTokens f.description ++ .name f.name ::
      (Schema.groupTokens '(' ')' Schema.InputValue.tokens f.arguments ++
        .mark ':' :: (f.type.tokens ++
          (f.directives.flatMap Schema.Directive.tokens ++ rest))) := by
    simp [Schema.Field.tokens]
  have harguments := argumentDefinitions_tokens h.arguments (show _ < bound by omega)
    (show nextIsMark '(' (.mark ':' :: (f.type.tokens ++
      (f.directives.flatMap Schema.Directive.tokens ++ rest))) = false from rfl)
  have htype := (typeRef_tokens h.type (show _ < bound by omega) _).1
    (nextIsMark_directives (by decide) f.directives hrest.bang)
  have hdirectives := directives_tokens h.directives (show _ < bound by omega) hrest.at_ hrest.paren
  rw [htokens]
  refine (bind_of_ok (description_tokens _ _ _)).trans ?_
  refine (bind_of_ok rfl).trans ((bind_of_ok harguments).trans ?_)
  refine (bind_of_ok (mark_self _ _)).trans ((bind_of_ok htype).trans ?_)
  exact (bind_of_ok hdirectives).trans rfl

/-- The tokens of an enum value are read as that. -/
theorem enumValue_tokens {holds : String → Prop} {v : Schema.EnumValue} (h : v.IsLegible holds)
    {bound : Nat} (hbound : v.tokens.length < bound) {rest : List Token} (hrest : EndsMember rest) :
    enumValue bound (v.tokens ++ rest) = .ok (v, rest) := by
  have hlen : v.tokens.length = (Schema.descriptionTokens v.description).length + 1 +
      (v.directives.flatMap Schema.Directive.tokens).length := by
    simp only [Schema.EnumValue.tokens, List.length_append, List.length_cons]
    omega
  have htokens : v.tokens ++ rest = Schema.descriptionTokens v.description ++ .name v.name ::
      (v.directives.flatMap Schema.Directive.tokens ++ rest) := by
    simp [Schema.EnumValue.tokens]
  have hdirectives := directives_tokens h.directives (show _ < bound by omega) hrest.at_ hrest.paren
  rw [htokens]
  refine (bind_of_ok (description_tokens _ _ _)).trans ((bind_of_ok rfl).trans ?_)
  exact (bind_of_ok hdirectives).trans rfl

end SchemaQueries.Sdl
