import SchemaQueries.Proofs.Query.Grammar
import SchemaQueries.Proofs.Query.Printing

/-!
# Printed queries are read back

The text of derived queries is a sequence of queries, and reading it gives back the document that
was printed, however far its lines are indented. So different documents have different texts.

## Main definitions

* `Executable.EndsField` — what may follow the tokens of a field.

## Main results

* `Executable.selection_tokens`, `Executable.definition_tokens` — the tokens of a field and of a
  query are read as that.
* `derived_text_reads_back` — derived queries are read back from their text.
-/

set_option autoImplicit false
set_option relaxedAutoImplicit false

namespace SchemaQueries

namespace Executable

open Sdl (Token nextIsMark)
open Steps (bind_of_ok)

/-! ### Fields -/

/-- What may follow a field: it does not go on with a colon, with arguments, with a directive or with
a selection set. -/
structure EndsField (rest : List Token) : Prop where
  colon : nextIsMark ':' rest = false
  paren : nextIsMark '(' rest = false
  at_ : nextIsMark '@' rest = false
  brace : nextIsMark '\x7b' rest = false

/-- A field may follow another one. -/
theorem endsField_tokens (f : Query.Field) (rest : List Token) : EndsField (f.tokens ++ rest) := by
  cases f
  exact ⟨rfl, rfl, rfl, rfl⟩

/-- A field has tokens. -/
theorem tokens_ne_nil (f : Query.Field) : f.tokens ≠ [] := by
  cases f
  exact List.cons_ne_nil _ _

/-- Where no directive stands none is read. -/
theorem directives_none (bound : Nat) {ts : List Token} (h : nextIsMark '@' ts = false) :
    Sdl.directives bound ts = .ok ([], ts) := by
  cases bound with
  | zero => rfl
  | succ bound => exact if_neg (ne_true_of_eq_false h)

/-- A name without colon behind it is that of a field without alias. -/
theorem fieldName_name (s : String) {rest : List Token} (h : nextIsMark ':' rest = false) :
    fieldName (.name s :: rest) = .ok ((none, s), rest) :=
  (bind_of_ok rfl).trans (if_neg (ne_true_of_eq_false h))

/-- The tokens of selected fields between braces are read as these fields, if those of each field
are. -/
theorem selectionGroup_tokens {bound : Nat} {below : List Query.Field}
    (h : ∀ f ∈ below, f.tokens.length < bound → ∀ rest, EndsField rest →
      selection bound (f.tokens ++ rest) = .ok (f.executable, rest))
    (hbound : (Schema.groupTokens '\x7b' '\x7d' Query.Field.tokens below).length < bound)
    {rest : List Token} (hrest : nextIsMark '\x7b' rest = false) :
    Sdl.optionalGroup '\x7b' '\x7d' (selection bound) bound
        (Schema.groupTokens '\x7b' '\x7d' Query.Field.tokens below ++ rest) =
      .ok (below.map Query.Field.executable, rest) := by
  have hitem : ∀ f ∈ below, ∀ rest, EndsField rest →
      selection bound (f.tokens ++ rest) = .ok (f.executable, rest) := fun f hf rest hends => by
    have hle : f.tokens.length ≤ _ := Sdl.length_le_groupTokens '\x7b' '\x7d' hf
    exact h f hf (by omega) rest hends
  have hstart : ∀ f ∈ below, ∀ rest, nextIsMark '\x7d' (f.tokens ++ rest) = false ∧
      EndsField (f.tokens ++ rest) := fun f _ rest =>
    ⟨by cases f; rfl, endsField_tokens f rest⟩
  have hle := Sdl.length_le_groupTokens_of_ne_nil '\x7b' '\x7d' fun f (_ : f ∈ below) =>
    tokens_ne_nil f
  exact Sdl.optionalGroup_groupTokens_map hitem hstart (fun _ => ⟨rfl, rfl, rfl, rfl⟩) hrest
    (by omega)

/-- The tokens of a field are read as that.

**Proof sketch.** Induction on what makes the field legible. The tokens of each field below it are
fewer than its own, so that a bound on these is enough for them too. -/
theorem selection_tokens {deepest level : Nat} {f : Query.Field} (h : f.IsLegible deepest level)
    {bound : Nat} (hbound : f.tokens.length < bound) {rest : List Token} (hrest : EndsField rest) :
    selection bound (f.tokens ++ rest) = .ok (f.executable, rest) := by
  induction h generalizing bound rest with
  | @mk level name arguments below _ _ _ hvalues _ ih =>
    obtain ⟨bound, rfl⟩ := Nat.exists_eq_succ_of_ne_zero (Nat.ne_zero_of_lt hbound)
    rw [Query.Field.tokens_mk, List.length_cons, List.length_append] at hbound
    have hparen := Sdl.nextIsMark_groupTokens (show '(' ≠ '\x7b' by decide) '\x7d'
      Query.Field.tokens below hrest.paren
    have hat := Sdl.nextIsMark_groupTokens (show '@' ≠ '\x7b' by decide) '\x7d'
      Query.Field.tokens below hrest.at_
    have hcolon := Sdl.nextIsMark_groupTokens (show ':' ≠ '(' by decide) ')' Value.memberTokens
      arguments (Sdl.nextIsMark_groupTokens (show ':' ≠ '\x7b' by decide) '\x7d'
        Query.Field.tokens below hrest.colon)
    have harguments := Sdl.arguments_tokens
      (fun a ha => (hvalues a ha).isLegible (fun _ => True) (Nat.zero_le _))
      (show _ < bound by omega) hparen
    have hbelow := selectionGroup_tokens (fun f hf hlen _ hends => ih f hf hlen hends)
      (show _ < bound by omega) hrest.brace
    rw [Query.Field.tokens_mk, List.cons_append, List.append_assoc, Query.Field.executable,
      Query.selectionExecutable_eq_map]
    refine (bind_of_ok (fieldName_name name hcolon)).trans ((bind_of_ok harguments).trans ?_)
    exact (bind_of_ok (directives_none bound hat)).trans ((bind_of_ok hbelow).trans rfl)

/-! ### Queries -/

/-- The tokens of the definition of a variable are read as that. -/
theorem variableDefinition_tokens {v : Query.Variable} (h : v.IsLegible) {bound : Nat}
    (hbound : v.tokens.length < bound) {rest : List Token} (hrest : Sdl.EndsMember rest) :
    variableDefinition bound (v.tokens ++ rest) = .ok (v.executable, rest) := by
  have hlen : v.tokens.length =
      v.type.tokens.length + (Schema.defaultTokens v.default).length + 3 := by
    simp only [Query.Variable.tokens, List.length_cons, List.length_append]
  have htokens : v.tokens ++ rest = .mark '$' :: .name v.name :: .mark ':' ::
      (v.type.tokens ++ (Schema.defaultTokens v.default ++ rest)) := by
    simp [Query.Variable.tokens]
  have htype := (Sdl.typeRef_tokens h.type (show _ < bound by omega) _).1
    (Sdl.nextIsMark_default (by decide) v.default hrest.bang)
  have hdefault := Sdl.defaultValue_tokens
    (fun x hx => (h.default x hx).isLegible (fun _ => True) (Nat.zero_le _))
    (show _ < bound by omega) hrest.equals
  rw [htokens]
  refine (bind_of_ok (Sdl.mark_self _ _)).trans ((bind_of_ok rfl).trans ?_)
  refine (bind_of_ok (Sdl.mark_self _ _)).trans ((bind_of_ok htype).trans ?_)
  exact (bind_of_ok hdefault).trans ((bind_of_ok (directives_none bound hrest.at_)).trans rfl)

/-- The tokens of the definitions of variables in parentheses are read as these. -/
theorem variableDefinitions_tokens {parameters : List Query.Variable}
    (h : ∀ v ∈ parameters, v.IsLegible) {bound : Nat}
    (hbound : (Schema.groupTokens '(' ')' Query.Variable.tokens parameters).length < bound)
    {rest : List Token} (hrest : nextIsMark '(' rest = false) :
    Sdl.optionalGroup '(' ')' (variableDefinition bound) bound
        (Schema.groupTokens '(' ')' Query.Variable.tokens parameters ++ rest) =
      .ok (parameters.map Query.Variable.executable, rest) := by
  have hitem : ∀ v ∈ parameters, ∀ rest, Sdl.EndsMember rest →
      variableDefinition bound (v.tokens ++ rest) = .ok (v.executable, rest) :=
    fun v hv rest hends => by
      have hle : v.tokens.length ≤ _ := Sdl.length_le_groupTokens '(' ')' hv
      exact variableDefinition_tokens (h v hv) (by omega) hends
  have hne : ∀ v ∈ parameters, v.tokens ≠ [] := fun _ _ => List.cons_ne_nil _ _
  have hle := Sdl.length_le_groupTokens_of_ne_nil '(' ')' hne
  exact Sdl.optionalGroup_groupTokens_map hitem (fun _ _ _ => ⟨rfl, rfl, rfl, rfl, rfl⟩)
    (fun _ => ⟨rfl, rfl, rfl, rfl⟩) hrest (by omega)

/-- Behind an opening brace a selection set is read like a group that may be absent. -/
theorem selectionSet_brace (item : List Token → Except Sdl.Refusal (Sdl.Taken Selection))
    (bound : Nat) (rest : List Token) :
    selectionSet item bound (.mark '\x7b' :: rest) =
      Sdl.optionalGroup '\x7b' '\x7d' item bound (.mark '\x7b' :: rest) :=
  (bind_of_ok (Sdl.mark_self _ _)).trans (if_pos rfl).symm

/-- The tokens of a query are read as that, if no selection set follows.

**Proof sketch.** Word, name, variables and selection set are read one after the other. The selection
set starts with a brace, so it is taken neither for variables nor for a directive, and every part is
shorter than the bound. -/
theorem definition_tokens {deepest : Nat} {o : Query.Operation} (h : o.IsLegible deepest)
    {bound : Nat} (hbound : o.tokens.length < bound) {rest : List Token}
    (hrest : nextIsMark '\x7b' rest = false) :
    definition bound (o.tokens ++ rest) = .ok (o.executable, rest) := by
  have hlen : o.tokens.length = (Schema.groupTokens '(' ')' Query.Variable.tokens o.parameters).length
      + (Schema.groupTokens '\x7b' '\x7d' Query.Field.tokens o.selection).length + 2 := by
    simp only [Query.Operation.tokens, List.length_cons, List.length_append]
  have hbelow := selectionGroup_tokens
    (fun f hf hlen _ hends => selection_tokens (h.selection f hf) hlen hends)
    (show _ < bound by omega) hrest
  obtain ⟨first, later, hselection⟩ := List.exists_cons_of_ne_nil h.selects
  have hset : selectionSet (selection bound) bound
      (Schema.groupTokens '\x7b' '\x7d' Query.Field.tokens o.selection ++ rest) =
      .ok (o.selection.map Query.Field.executable, rest) := by
    rw [hselection] at hbelow ⊢
    exact (selectionSet_brace _ _ _).trans hbelow
  have hmark {c : Char} (hc : c ≠ '\x7b') : nextIsMark c
      (Schema.groupTokens '\x7b' '\x7d' Query.Field.tokens o.selection ++ rest) = false := by
    rw [hselection]
    exact decide_eq_false hc
  have hparameters := variableDefinitions_tokens h.parameters (show _ < bound by omega)
    (hmark (show '(' ≠ '\x7b' by decide))
  have htokens : o.tokens ++ rest = .name "query" :: .name o.name ::
      (Schema.groupTokens '(' ')' Query.Variable.tokens o.parameters ++
        (Schema.groupTokens '\x7b' '\x7d' Query.Field.tokens o.selection ++ rest)) := by
    simp [Query.Operation.tokens]
  rw [htokens, Query.Operation.executable, Query.selectionExecutable_eq_map]
  refine (bind_of_ok hparameters).trans ?_
  exact (bind_of_ok (directives_none bound (hmark (by decide)))).trans ((bind_of_ok hset).trans rfl)

/-- The tokens of queries are read as these queries. -/
theorem sequence_tokens {deepest : Nat} {q : Query.Document}
    (h : ∀ o ∈ q.operations, o.IsLegible deepest) :
    sequence (q.operations.flatMap Query.Operation.tokens) = .ok q.executable := by
  have hne : ∀ o ∈ q.operations, o.tokens ≠ [] := fun _ _ => List.cons_ne_nil _ _
  have hle := Sdl.length_le_flatMap hne
  have hmany (bound : Nat)
      (hbound : (q.operations.flatMap Query.Operation.tokens).length < bound) :
      Sdl.many (!·.isEmpty) (definition bound) bound
        (q.operations.flatMap Query.Operation.tokens) =
      .ok (q.operations.map Query.Operation.executable, []) := by
    have hitem : ∀ o ∈ q.operations, ∀ rest, nextIsMark '\x7b' rest = false →
        definition bound (o.tokens ++ rest) = .ok (o.executable, rest) := fun o ho rest hrest => by
      have hle : o.tokens.length ≤ _ := Sdl.length_le_length_flatMap ho
      exact definition_tokens (h o ho) (by omega) hrest
    rw [← List.append_nil (q.operations.flatMap Query.Operation.tokens)]
    exact Sdl.many_flatMap_map hitem (fun _ _ _ => ⟨rfl, rfl⟩) rfl rfl (by omega)
  exact (bind_of_ok (hmany _ (by omega))).trans rfl

end Executable

/-! ### Texts -/

/-- The tokens of a text are those that it is printed as. -/
theorem Sdl.tokens_eq_of_prints {lineBreak cs : List Char} {ts : List Sdl.Token} {opened : Nat}
    (h : Sdl.Prints lineBreak Sdl.Anything 0 cs ts opened) :
    (Sdl.tokens (Text.withLineBreak lineBreak cs)).1.map (·.2) = ts :=
  h.lexes trivial _ _ (Nat.lt_succ_self _)

/-- The text of queries that can be written down is read as these queries. -/
theorem Executable.readSequence_text {deepest : Nat} (hdeepest : deepest + 1 ≤ Sdl.maxOpen)
    {q : Query.Document} (h : ∀ o ∈ q.operations, o.IsLegible deepest) (indent : Nat) :
    Executable.readSequence (q.text indent) = .ok q.executable := by
  have htokens := Sdl.tokens_eq_of_prints (Sdl.prints_queries (.inl rfl) indent hdeepest h)
  rw [Text.withLineBreak_lineFeed] at htokens
  rw [Executable.readSequence, htokens]
  exact Executable.sequence_tokens h

/-- **Printing loses nothing.** Where the object types of a schema and their fields have names of
GraphQL, the text of the derived queries is a sequence of queries that is read back as the document
that was printed and no other, whatever the indentation is; with at least one query, it is the text
of an executable document. So the same text, whatever it is indented by, comes from equal documents
only.

**Proof sketch.** A derived document is legible (`derive_isLegible`), so its text is read as what the
document stands for (`Executable.readSequence_text`), and this determines the document. Equal texts are
read as the same. -/
theorem derived_text_reads_back {d : Schema.Document} (hd : d.HasNames) {q : Query.Document}
    (hq : derive d = .ok q) (indent : Nat) :
    (∀ q' : Query.Document,
      Executable.readSequence (q.text indent) = .ok q'.executable ↔ q' = q) ∧
    (q.operations ≠ [] → Executable.read (q.text indent) = .ok q.executable) ∧
    ∀ (d' : Schema.Document) (q' : Query.Document) (indent' : Nat), d'.HasNames →
      derive d' = .ok q' → q'.text indent' = q.text indent → q' = q := by
  have hread {d : Schema.Document} (hd : d.HasNames) {q : Query.Document} (hq : derive d = .ok q)
      (indent : Nat) : Executable.readSequence (q.text indent) = .ok q.executable :=
    Executable.readSequence_text (by decide) (derive_isLegible hd hq) indent
  refine ⟨fun q' => ?_, fun hne => ?_, fun d' q' indent' hd' hq' htext => ?_⟩
  · rw [hread hd hq indent]
    exact ⟨fun h => (Query.Document.executable_injective (Except.ok.inj h)).symm,
      fun h => by rw [h]⟩
  · have hdefinitions : ¬ q.executable.definitions.isEmpty = true := by
      simpa [Query.Document.executable] using hne
    exact (Steps.bind_of_ok (hread hd hq indent)).trans (if_neg hdefinitions)
  · have hread' := hread hd' hq' indent'
    rw [htext, hread hd hq indent] at hread'
    exact (Query.Document.executable_injective (Except.ok.inj hread')).symm

/-- The queries of a type that leads to itself are read back from their text without any
indentation. -/
theorem derived_text_reads_back_linkChain :
    linkChain.HasNames ∧ ∃ q, derive linkChain = .ok q ∧
      (∀ q' : Query.Document,
        Executable.readSequence (q.text 0) = .ok q'.executable ↔ q' = q) ∧
      Executable.read (q.text 0) = .ok q.executable ∧
      ∀ (d' : Schema.Document) (q' : Query.Document) (indent' : Nat), d'.HasNames →
        derive d' = .ok q' → q'.text indent' = q.text 0 → q' = q := by
  obtain ⟨q, hq, hne⟩ := exists_derive_linkChain
  obtain ⟨hsequence, hdocument, hsame⟩ := derived_text_reads_back hasNames_linkChain hq 0
  exact ⟨hasNames_linkChain, q, hq, hsequence, hdocument hne, hsame⟩

end SchemaQueries
