import SchemaQueries.Proofs.Sdl.ParsingParts

/-!
# Parsing the tokens of a schema

The tokens of a definition that can be written down are parsed as that definition, whatever other
definition follows it, and those of one or more definitions as the document of them.

## Main definitions

* `Sdl.EndsDefinition` — what may follow the tokens of a definition.

## Main results

* `Sdl.typeBody_tokens`, `Sdl.directiveDefinition_tokens`, … — the kinds of definitions.
* `Sdl.document_tokens` — the tokens of definitions are parsed as the document of these definitions.
-/

set_option autoImplicit false
set_option relaxedAutoImplicit false

namespace SchemaQueries.Sdl

open Steps (bind_of_ok)

/-! ### Types -/

/-- What may follow a definition: no mark, and not the word that interfaces stand behind. -/
structure EndsDefinition (rest : List Token) : Prop where
  nextIsMark : ∀ c, nextIsMark c rest = false
  ne_implements : ∀ tail, rest ≠ .name "implements" :: tail

/-- Names are read up to something that is not their separator. -/
theorem separatedNames_tokens {c : Char} {names : List String} (hne : names ≠ []) {bound : Nat}
    (hbound : (Schema.separatedTokens c names).length < bound) {rest : List Token}
    (hrest : nextIsMark c rest = false) :
    separatedNames c bound (Schema.separatedTokens c names ++ rest) = .ok (names, rest) := by
  obtain ⟨first, later, rfl⟩ := List.exists_cons_of_ne_nil hne
  have hmany : many (nextIsMark c) (fun ts => name (ts.drop 1)) bound
      (later.flatMap (fun s => [.mark c, .name s]) ++ rest) = .ok (later, rest) := by
    refine many_flatMap_of_anything (fun _ _ _ => rfl) (fun _ _ _ => decide_eq_true rfl) hrest ?_
    have hle := length_le_flatMap fun s (_ : s ∈ later) =>
      List.cons_ne_nil (Token.mark c) [.name s]
    simp only [Schema.separatedTokens, List.length_cons] at hbound
    omega
  exact (bind_of_ok rfl).trans ((bind_of_ok hmany).trans rfl)

/-- No interfaces are read where another word stands. -/
theorem interfaces_of_ne (bound : Nat) {ts : List Token}
    (h : ∀ tail, ts ≠ .name "implements" :: tail) : interfaces bound ts = .ok ([], ts) := by
  unfold Sdl.interfaces
  split
  · exact absurd rfl (h _)
  · rfl

/-- The tokens of interfaces are read as these interfaces. -/
theorem interfaces_tokens {implemented : List String} {bound : Nat}
    (hbound : (Schema.interfacesTokens implemented).length < bound) {rest : List Token}
    (hamp : nextIsMark '&' rest = false) (hrest : ∀ tail, rest ≠ .name "implements" :: tail) :
    interfaces bound (Schema.interfacesTokens implemented ++ rest) = .ok (implemented, rest) := by
  cases implemented with
  | nil => exact interfaces_of_ne bound hrest
  | cons first later =>
    simp only [Schema.interfacesTokens, List.length_cons] at hbound
    exact separatedNames_tokens (List.cons_ne_nil _ _) (show _ < bound by omega) hamp

/-- The tokens of the members of a union type are read as these members. -/
theorem unionMembers_tokens {members : List String} {bound : Nat}
    (hbound : (Schema.unionTokens members).length < bound) {rest : List Token}
    (hrest : EndsDefinition rest) :
    unionMembers bound (Schema.unionTokens members ++ rest) = .ok (members, rest) := by
  cases members with
  | nil => exact if_neg (ne_true_of_eq_false (hrest.nextIsMark '='))
  | cons first later =>
    simp only [Schema.unionTokens, List.length_cons] at hbound
    exact (if_pos rfl).trans
      (separatedNames_tokens (List.cons_ne_nil _ _) (show _ < bound by omega) (hrest.nextIsMark '|'))

/-- The kind of a type, as the grammar has it. -/
def kindOf : Schema.TypeBody → TypeKind
  | .scalar => .scalar
  | .object .. => .object
  | .interface .. => .interface
  | .union _ => .union
  | .enum _ => .enum
  | .input _ => .input

/-- The word for the kind of a type is read as that kind. -/
theorem ofWord?_keyword (body : Schema.TypeBody) :
    TypeKind.ofWord? body.keyword = some (kindOf body) := by
  cases body <;> rfl

/-- What stands behind the directives of a type does not start with another mark than a brace or an
equals sign. -/
theorem nextIsMark_afterTokens {c : Char} (hc : c ≠ '\x7b' ∧ c ≠ '=') (body : Schema.TypeBody)
    {rest : List Token} (hrest : EndsDefinition rest) :
    nextIsMark c (body.afterTokens ++ rest) = false := by
  have hgroup {α : Type} (tokens : α → List Token) (xs : List α) :
      nextIsMark c (Schema.groupTokens '\x7b' '\x7d' tokens xs ++ rest) = false :=
    nextIsMark_groupTokens hc.1 '\x7d' tokens xs (hrest.nextIsMark c)
  cases body with
  | scalar => exact hrest.nextIsMark c
  | object implemented fields | interface implemented fields => exact hgroup _ fields
  | union members =>
    cases members with
    | nil => exact hrest.nextIsMark c
    | cons first later => exact decide_eq_false hc.2
  | enum values => exact hgroup _ values
  | input fields => exact hgroup _ fields

/-- What stands behind the interfaces of a type does not start with the word for them.

**Proof sketch.** Directives start with a mark. Without them the body stands there, which starts with a
mark too, and without a body what follows the definition. -/
theorem ne_implements_directives (attached : List Schema.Directive) (body : Schema.TypeBody)
    {rest : List Token} (hrest : EndsDefinition rest) (tail : List Token) :
    attached.flatMap Schema.Directive.tokens ++ (body.afterTokens ++ rest) ≠
      .name "implements" :: tail := by
  have hgroup {α : Type} (tokens : α → List Token) (xs : List α) :
      Schema.groupTokens '\x7b' '\x7d' tokens xs ++ rest ≠ .name "implements" :: tail := by
    cases xs with
    | nil => exact hrest.ne_implements tail
    | cons x xs => exact fun heq => Token.noConfusion (List.cons.inj heq).1
  cases attached with
  | cons d attached => exact fun heq => Token.noConfusion (List.cons.inj heq).1
  | nil =>
    cases body with
    | scalar => exact hrest.ne_implements tail
    | object implemented fields | interface implemented fields => exact hgroup _ fields
    | union members =>
      cases members with
      | nil => exact hrest.ne_implements tail
      | cons first later => exact fun heq => Token.noConfusion (List.cons.inj heq).1
    | enum values => exact hgroup _ values
    | input fields => exact hgroup _ fields

/-- The tokens of a type behind the word for its kind are read as that type.

**Proof sketch.** By cases on the kind of the type. Name, interfaces, directives and what is between the
braces or behind the equals sign are read one after the other: each part has a lemma of its own, and
none of them starts as the one before it could go on. All parts are shorter than the bound. -/
theorem typeBody_tokens {holds : String → Prop} {opened : Nat} {body : Schema.TypeBody}
    (h : body.IsLegible holds) {attached : List Schema.Directive}
    (hattached : ∀ d ∈ attached, d.IsLegible holds opened) (s : String) {bound : Nat}
    (hbound : (body.tokens s attached).length < bound) {rest : List Token}
    (hrest : EndsDefinition rest) :
    typeBody bound (kindOf body) (body.tokens s attached ++ rest) = .ok ((s, attached, body), rest) := by
  have hlen : (body.tokens s attached).length = body.beforeTokens.length +
      (attached.flatMap Schema.Directive.tokens).length + body.afterTokens.length + 1 := by
    simp only [Schema.TypeBody.tokens, List.length_append, List.length_cons]
    omega
  have htokens : body.tokens s attached ++ rest = .name s :: (body.beforeTokens ++
      (attached.flatMap Schema.Directive.tokens ++ (body.afterTokens ++ rest))) := by
    simp [Schema.TypeBody.tokens]
  have hdirectives := directives_tokens hattached (show _ < bound by omega)
    (nextIsMark_afterTokens (by decide) body hrest) (nextIsMark_afterTokens (by decide) body hrest)
  have hamp := nextIsMark_directives (by decide) attached
    (nextIsMark_afterTokens (show '&' ≠ '\x7b' ∧ '&' ≠ '=' by decide) body hrest)
  have himplements := ne_implements_directives attached body hrest
  have hafter : body.afterTokens.length < bound := by omega
  have hfields {fields : List Schema.Field} (hfields : ∀ f ∈ fields, f.IsLegible holds)
      (hlt : (Schema.groupTokens '\x7b' '\x7d' Schema.Field.tokens fields).length < bound) :
      optionalGroup '\x7b' '\x7d' (field bound) bound
        (Schema.groupTokens '\x7b' '\x7d' Schema.Field.tokens fields ++ rest) = .ok (fields, rest) :=
    optionalGroup_members hlt (fun f hf hlen _ hends => field_tokens (hfields f hf) hlen hends)
      (fun _ _ => ⟨_, _, _, rfl⟩) (fun _ => ⟨rfl, rfl, rfl, rfl⟩) (hrest.nextIsMark '\x7b')
  rw [htokens]
  cases body with
  | scalar => exact (bind_of_ok rfl).trans ((bind_of_ok hdirectives).trans rfl)
  | object implemented fields | interface implemented fields =>
    have hbefore : (Schema.interfacesTokens implemented).length < bound := by
      simp only [Schema.TypeBody.beforeTokens] at hlen
      omega
    have hinterfaces := interfaces_tokens hbefore hamp himplements
    refine (bind_of_ok rfl).trans ((bind_of_ok hinterfaces).trans ?_)
    exact (bind_of_ok hdirectives).trans ((bind_of_ok (hfields h.2 hafter)).trans rfl)
  | union members =>
    refine (bind_of_ok rfl).trans ((bind_of_ok hdirectives).trans ?_)
    exact (bind_of_ok (unionMembers_tokens hafter hrest)).trans rfl
  | enum values =>
    have hgroup : optionalGroup '\x7b' '\x7d' (enumValue bound) bound
        (Schema.groupTokens '\x7b' '\x7d' Schema.EnumValue.tokens values ++ rest) =
        .ok (values, rest) :=
      optionalGroup_members hafter
        (fun v hv hlen _ hends => enumValue_tokens (h v hv) hlen hends)
        (fun _ _ => ⟨_, _, _, rfl⟩) (fun _ => ⟨rfl, rfl, rfl, rfl⟩) (hrest.nextIsMark '\x7b')
    exact (bind_of_ok rfl).trans ((bind_of_ok hdirectives).trans ((bind_of_ok hgroup).trans rfl))
  | input fields =>
    have hgroup : optionalGroup '\x7b' '\x7d' (inputValue bound) bound
        (Schema.groupTokens '\x7b' '\x7d' Schema.InputValue.tokens fields ++ rest) =
        .ok (fields, rest) :=
      optionalGroup_members hafter
        (fun v hv hlen _ hends => inputValue_tokens (h v hv) hlen hends)
        (fun _ _ => ⟨_, _, _, rfl⟩) (fun _ => ⟨rfl, rfl, rfl, rfl⟩) (hrest.nextIsMark '\x7b')
    exact (bind_of_ok rfl).trans ((bind_of_ok hdirectives).trans ((bind_of_ok hgroup).trans rfl))

/-- The tokens of an extension behind the word for it are read as that extension. -/
theorem typeExtension_tokens {holds : String → Prop} {e : Schema.TypeExtension}
    (h : e.IsLegible holds) {bound : Nat}
    (hbound : (e.body.tokens e.name e.directives).length < bound) {rest : List Token}
    (hrest : EndsDefinition rest) :
    typeExtension bound (.name e.body.keyword :: (e.body.tokens e.name e.directives ++ rest)) =
      .ok (.extension e, rest) := by
  have hbody := typeBody_tokens h.body h.directives e.name hbound hrest
  have hnothing : ¬ saysNothing e.directives e.body = true := ne_true_of_eq_false h.saysSomething
  refine (bind_of_ok rfl).trans ?_
  simp only [ofWord?_keyword]
  exact (bind_of_ok hbody).trans (if_neg hnothing)

/-! ### Other definitions -/

/-- The root operations with the names of their types. -/
def entries (r : Schema.Roots) : List (String × String) :=
  r.query.toList.map ("query", ·) ++ (r.mutation.toList.map ("mutation", ·) ++
    r.subscription.toList.map ("subscription", ·))

/-- The tokens of a root operation with the name of its type. -/
def entryTokens (e : String × String) : List Token :=
  [.name e.1, .mark ':', .name e.2]

/-- The tokens of the root operation types are those of the root operations. -/
theorem tokens_roots (r : Schema.Roots) : r.tokens = (entries r).flatMap entryTokens := by
  obtain ⟨_ | query, _ | mutation, _ | subscription⟩ := r <;> rfl

/-- The root operation types are put together again from the root operations. -/
theorem foldlM_addRoot?_entries (r : Schema.Roots) :
    (entries r).foldlM addRoot? ⟨none, none, none⟩ = some r := by
  obtain ⟨_ | query, _ | mutation, _ | subscription⟩ := r <;> rfl

/-- The tokens of the definition of the root operation types are read as that.

**Proof sketch.** The word, the directives and the brace are read, then one entry for each root
operation type that is given, then the closing brace. Adding these entries to none gives the roots
(`foldlM_addRoot?_entries`). -/
theorem schemaDefinition_tokens {holds : String → Prop} {attached : List Schema.Directive}
    (h : ∀ d ∈ attached, d.IsLegible holds 0) (roots : Schema.Roots) {bound : Nat}
    (hbound : (Schema.Definition.schema attached roots).tokens.length < bound)
    (rest : List Token) :
    schemaDefinition bound ((Schema.Definition.schema attached roots).tokens ++ rest) =
      .ok (.schema attached roots, rest) := by
  have hlen : (Schema.Definition.schema attached roots).tokens.length =
      (attached.flatMap Schema.Directive.tokens).length + roots.tokens.length + 3 := by
    simp only [Schema.Definition.tokens, List.length_append, List.length_cons, List.length_nil]
    omega
  have htokens : (Schema.Definition.schema attached roots).tokens ++ rest = .name "schema" ::
      (attached.flatMap Schema.Directive.tokens ++ .mark '\x7b' ::
        ((entries roots).flatMap entryTokens ++ .mark '\x7d' :: rest)) := by
    simp [Schema.Definition.tokens, tokens_roots]
  have hdirectives : directives bound (attached.flatMap Schema.Directive.tokens ++ .mark '\x7b' ::
      ((entries roots).flatMap entryTokens ++ .mark '\x7d' :: rest)) =
      .ok (attached, .mark '\x7b' :: ((entries roots).flatMap entryTokens ++ .mark '\x7d' :: rest)) :=
    directives_tokens h (by omega) rfl rfl
  have hentries : many (!nextIsMark '\x7d' ·) rootEntry bound
      ((entries roots).flatMap entryTokens ++ .mark '\x7d' :: rest) =
      .ok (entries roots, .mark '\x7d' :: rest) := by
    refine many_flatMap_of_anything (fun _ _ _ => rfl) (fun _ _ _ => rfl) rfl ?_
    have hne : ∀ e ∈ entries roots, entryTokens e ≠ [] := fun _ _ => List.cons_ne_nil _ _
    have hle := length_le_flatMap hne
    rw [tokens_roots] at hlen
    omega
  rw [htokens]
  refine (bind_of_ok rfl).trans ((bind_of_ok hdirectives).trans ?_)
  refine (bind_of_ok (mark_self _ _)).trans ((bind_of_ok hentries).trans ?_)
  refine (bind_of_ok (mark_self _ _)).trans ?_
  simp only [foldlM_addRoot?_entries]
  rfl

/-- The name of a place is read as that place. -/
theorem location_name (place : Schema.Location) (rest : List Token) :
    location (.name place.name :: rest) = .ok (place, rest) := by
  cases place <;> rfl

/-- The tokens of one or more places are read as these places.

**Proof sketch.** The first place is read, and then one more behind each bar. The names of the places
are those that are known (`location_name`), and what follows starts with no bar. -/
theorem locations_tokens {places : List Schema.Location} (hne : places ≠ []) {bound : Nat}
    (hbound : (Schema.separatedTokens '|' (places.map Schema.Location.name)).length < bound)
    {rest : List Token} (hrest : nextIsMark '|' rest = false) :
    locations bound (Schema.separatedTokens '|' (places.map Schema.Location.name) ++ rest) =
      .ok (places, rest) := by
  obtain ⟨first, later, rfl⟩ := List.exists_cons_of_ne_nil hne
  have htokens : Schema.separatedTokens '|' ((first :: later).map Schema.Location.name) ++ rest =
      .name first.name ::
        (later.flatMap (fun place => [.mark '|', .name place.name]) ++ rest) := by
    simp [Schema.separatedTokens, List.flatMap_map]
  have hmany : many (nextIsMark '|') (fun ts => location (ts.drop 1)) bound
      (later.flatMap (fun place => [.mark '|', .name place.name]) ++ rest) = .ok (later, rest) := by
    refine many_flatMap_of_anything (fun place _ rest => location_name place rest)
      (fun _ _ _ => rfl) hrest ?_
    have hne : ∀ place ∈ later, [Token.mark '|', .name place.name] ≠ [] := fun _ _ =>
      List.cons_ne_nil _ _
    have hle := length_le_flatMap hne
    simp only [Schema.separatedTokens, List.map_cons, List.length_cons, List.flatMap_map] at hbound
    omega
  rw [htokens]
  exact (if_pos rfl).trans
    ((bind_of_ok (location_name first _)).trans ((bind_of_ok hmany).trans rfl))

/-- The tokens of the definition of a directive behind the word for it are read as that.

**Proof sketch.** Name, arguments, the word for a repeatable directive if it is there, and the places
are read one after the other. Neither word starts as arguments do. -/
theorem directiveDefinition_tokens {holds : String → Prop} {d : Schema.DirectiveDefinition}
    (h : d.IsLegible holds) (hplaces : d.locations ≠ []) {bound : Nat}
    (hbound : d.tokens.length < bound) {rest : List Token} (hrest : EndsDefinition rest) :
    directiveDefinition bound d.description (d.tokens ++ rest) = .ok (.directive d, rest) := by
  obtain ⟨text, s, arguments, repeatable, places⟩ := d
  have hlen : (Schema.groupTokens '(' ')' Schema.InputValue.tokens arguments).length +
      (Schema.separatedTokens '|' (places.map Schema.Location.name)).length < bound := by
    simp only [Schema.DirectiveDefinition.tokens, List.length_append, List.length_cons] at hbound
    omega
  have hlocations := locations_tokens hplaces (Nat.lt_of_le_of_lt (Nat.le_add_left _ _) hlen)
    (hrest.nextIsMark '|')
  have harguments {ts : List Token} (hts : nextIsMark '(' ts = false) :=
    argumentDefinitions_tokens h.arguments (Nat.lt_of_le_of_lt (Nat.le_add_right _ _) hlen) hts
  cases repeatable with
  | false =>
    have htokens : (Schema.DirectiveDefinition.tokens ⟨text, s, arguments, false, places⟩) ++ rest =
        .mark '@' :: .name s ::
          (Schema.groupTokens '(' ')' Schema.InputValue.tokens arguments ++ .name "on" ::
            (Schema.separatedTokens '|' (places.map Schema.Location.name) ++ rest)) := by
      simp [Schema.DirectiveDefinition.tokens]
    rw [htokens]
    refine (bind_of_ok (mark_self _ _)).trans ((bind_of_ok rfl).trans ?_)
    refine (bind_of_ok (harguments rfl)).trans ((bind_of_ok rfl).trans ?_)
    exact (bind_of_ok hlocations).trans rfl
  | true =>
    have htokens : (Schema.DirectiveDefinition.tokens ⟨text, s, arguments, true, places⟩) ++ rest =
        .mark '@' :: .name s ::
          (Schema.groupTokens '(' ')' Schema.InputValue.tokens arguments ++ .name "repeatable" ::
            .name "on" ::
              (Schema.separatedTokens '|' (places.map Schema.Location.name) ++ rest)) := by
      simp [Schema.DirectiveDefinition.tokens]
    rw [htokens]
    refine (bind_of_ok (mark_self _ _)).trans ((bind_of_ok rfl).trans ?_)
    refine (bind_of_ok (harguments rfl)).trans ((bind_of_ok rfl).trans ?_)
    exact (bind_of_ok hlocations).trans rfl

/-! ### Documents -/

/-- The word for the kind of a type starts no other definition. -/
theorem keyword_ne (body : Schema.TypeBody) :
    body.keyword ≠ "schema" ∧ body.keyword ≠ "extend" ∧ body.keyword ≠ "directive" ∧
      body.keyword ≠ "implements" := by
  cases body <;> simp [Schema.TypeBody.keyword]

/-- The tokens of a type behind its description are read as that type. -/
theorem describedDefinition_type {holds : String → Prop} {t : Schema.TypeDefinition}
    (h : t.IsLegible holds) {bound : Nat}
    (hbound : (t.body.tokens t.name t.directives).length < bound) {rest : List Token}
    (hrest : EndsDefinition rest) :
    describedDefinition bound t.description
        (.name t.body.keyword :: (t.body.tokens t.name t.directives ++ rest)) =
      .ok (.type t, rest) := by
  have hbody := typeBody_tokens h.body h.directives t.name hbound hrest
  rw [describedDefinition, if_neg (keyword_ne t.body).2.2.1, ofWord?_keyword]
  exact (bind_of_ok hbody).trans rfl

/-- What stands behind a description is read with it. -/
theorem definition_described (bound : Nat) (text : Option String) {s : String}
    (hs : s ≠ "schema" ∧ s ≠ "extend") (rest : List Token) :
    definition bound (Schema.descriptionTokens text ++ .name s :: rest) =
      describedDefinition bound text (.name s :: rest) := by
  cases text with
  | some text => rfl
  | none =>
    rw [Schema.descriptionTokens, List.nil_append]
    unfold definition
    split
    · next heq => exact absurd (Token.name.inj (List.cons.inj heq).1) hs.1
    · next heq => exact absurd (Token.name.inj (List.cons.inj heq).1) hs.2
    · next heq => exact absurd (List.cons.inj heq).1 (by simp)
    · next heq => exact absurd (List.cons.inj heq).1 (by simp)
    · rfl

/-- The tokens of a definition that can be written down are read as that definition.

**Proof sketch.** By cases on the kind of the definition. A description may stand in front of a type or
a directive, and the word behind it says which of the two it is. None of the words for types starts
another definition (`keyword_ne`). -/
theorem definition_tokens {holds : String → Prop} {d : Schema.Definition} (h : d.IsLegible holds)
    (hplaces : d.NamesPlaces) {bound : Nat} (hbound : d.tokens.length < bound) {rest : List Token}
    (hrest : EndsDefinition rest) : definition bound (d.tokens ++ rest) = .ok (d, rest) := by
  cases d with
  | schema attached roots => exact schemaDefinition_tokens h.1 roots hbound rest
  | type t =>
    have hlen : (t.body.tokens t.name t.directives).length < bound := by
      simp only [Schema.Definition.tokens, List.length_append, List.length_cons] at hbound
      omega
    have htokens : (Schema.Definition.type t).tokens ++ rest =
        Schema.descriptionTokens t.description ++ .name t.body.keyword ::
          (t.body.tokens t.name t.directives ++ rest) := by
      simp [Schema.Definition.tokens]
    obtain ⟨hschema, hextend, -⟩ := keyword_ne t.body
    rw [htokens, definition_described bound _ ⟨hschema, hextend⟩]
    exact describedDefinition_type h hlen hrest
  | extension e =>
    have hlen : (e.body.tokens e.name e.directives).length < bound := by
      simp only [Schema.Definition.tokens, List.length_cons] at hbound
      omega
    exact typeExtension_tokens h hlen hrest
  | directive d =>
    have hlen : d.tokens.length < bound := by
      simp only [Schema.Definition.tokens, List.length_append, List.length_cons] at hbound
      omega
    have htokens : (Schema.Definition.directive d).tokens ++ rest =
        Schema.descriptionTokens d.description ++ .name "directive" :: (d.tokens ++ rest) := by
      simp [Schema.Definition.tokens]
    rw [htokens, definition_described bound _ ⟨by decide, by decide⟩]
    exact directiveDefinition_tokens h hplaces hlen hrest

/-- The tokens of a definition start with a description or a word. -/
theorem exists_tokens_eq_cons (d : Schema.Definition) :
    ∃ t ts, d.tokens = t :: ts ∧ (∀ c, t ≠ .mark c) ∧ t ≠ .name "implements" := by
  cases d with
  | schema attached roots => exact ⟨_, _, rfl, by simp, by simp⟩
  | type t =>
    have hkeyword := (keyword_ne t.body).2.2.2
    simp only [Schema.Definition.tokens]
    cases t.description <;> exact ⟨_, _, rfl, by simp, by simp [hkeyword]⟩
  | extension e => exact ⟨_, _, rfl, by simp, by simp⟩
  | directive d =>
    simp only [Schema.Definition.tokens]
    cases d.description <;> exact ⟨_, _, rfl, by simp, by simp⟩

/-- A definition may follow another one. -/
theorem endsDefinition_tokens (d : Schema.Definition) (rest : List Token) :
    EndsDefinition (d.tokens ++ rest) := by
  obtain ⟨t, ts, htokens, hmark, himplements⟩ := exists_tokens_eq_cons d
  rw [htokens]
  refine ⟨fun c => ?_, fun tail heq => himplements (List.cons.inj heq).1⟩
  cases t with
  | mark d => exact absurd rfl (hmark d)
  | _ => rfl

/-- The tokens of one or more definitions that can be written down are read as the document of
these definitions.

**Proof sketch.** The first definition is read and then as many as follow. Each has at least one token,
so they are no more than the bound, and the start of each ends the one before it
(`endsDefinition_tokens`). -/
theorem document_tokens {holds : String → Prop} {d : Schema.Document} (hne : d.definitions ≠ [])
    (h : ∀ x ∈ d.definitions, x.IsLegible holds) (hplaces : ∀ x ∈ d.definitions, x.NamesPlaces) :
    document (d.definitions.flatMap Schema.Definition.tokens) = .ok d := by
  obtain ⟨definitions⟩ := d
  obtain ⟨first, later, rfl⟩ := List.exists_cons_of_ne_nil hne
  obtain ⟨hfirst, hlater⟩ := List.forall_mem_cons.mp h
  obtain ⟨hfirstPlaces, hlaterPlaces⟩ := List.forall_mem_cons.mp hplaces
  have hends : EndsDefinition [] := ⟨fun _ => rfl, fun _ => by simp⟩
  have hnext : EndsDefinition (later.flatMap Schema.Definition.tokens) := by
    cases later with
    | nil => exact hends
    | cons x later => exact endsDefinition_tokens x _
  rw [List.flatMap_cons, document]
  have hlen : (first.tokens ++ later.flatMap Schema.Definition.tokens).length =
      first.tokens.length + (later.flatMap Schema.Definition.tokens).length :=
    List.length_append
  have hmany (bound : Nat) (hbound : (later.flatMap Schema.Definition.tokens).length < bound) :
      many (!·.isEmpty) (definition bound) bound (later.flatMap Schema.Definition.tokens) =
        .ok (later, []) := by
    have hnonempty : ∀ x ∈ later, x.tokens ≠ [] := fun x _ => by
      obtain ⟨t, ts, htokens, -⟩ := exists_tokens_eq_cons x
      simp [htokens]
    have hle := length_le_flatMap hnonempty
    rw [← List.append_nil (later.flatMap Schema.Definition.tokens)]
    refine many_flatMap (fun x hx rest hrest => ?_) (fun x hx rest => ?_) rfl hends (by omega)
    · have hle : x.tokens.length ≤ _ := length_le_length_flatMap hx
      exact definition_tokens (hlater x hx) (hlaterPlaces x hx) (Nat.lt_of_le_of_lt hle hbound) hrest
    · exact ⟨by simp [hnonempty x hx], endsDefinition_tokens x rest⟩
  refine (bind_of_ok (definition_tokens hfirst hfirstPlaces (by omega) hnext)).trans ?_
  exact (bind_of_ok (hmany _ (by omega))).trans rfl

end SchemaQueries.Sdl
