import SchemaQueries.Proofs.Query.Lines
import SchemaQueries.Proofs.Query.Printing

/-!
# The indentation of printed queries

Every line of printed queries is indented by as many levels as braces are open before it, and these
are never more than the levels of the fields. Derived queries have five of them, whatever the schema
is, which bounds the indentation counter of the printer.

## Main definitions

* `Query.Document.IsIndented` — the text of a document is indented by its open braces.

## Main results

* `Query.indented_field`, `Query.indented_document` — the text of a field and of a document is
  indented by its open braces.
* `derived_text_indented` — the indentation of derived queries.
-/

set_option autoImplicit false
set_option relaxedAutoImplicit false

namespace SchemaQueries

/-! ### What stands within a line -/

namespace Text

/-- The characters of names stand within a line, and none of them is a space. -/
theorem isInline_of_isNameRest {cs : List Char} (h : ∀ c ∈ cs, Sdl.isNameRest c = true) :
    IsInline cs := by
  intro c hc
  have hrest := h c hc
  refine ⟨?_, ?_, ?_⟩ <;> rintro rfl <;> exact absurd hrest (by decide)

/-- A name can stand within a line. -/
theorem isInline_of_isName {s : String} (h : Sdl.isName s.toList = true) : IsInline s.toList :=
  isInline_of_isNameRest (Sdl.isNameRest_of_mem h)

/-- A name can start a line. -/
theorem startsLine_of_isName {s : String} (h : Sdl.isName s.toList = true) :
    StartsLine s.toList where
  isInline := isInline_of_isName h
  head_ne := by
    cases hs : s.toList with
    | nil =>
      rw [hs] at h
      exact absurd h (by decide)
    | cons c rest =>
      refine ⟨c, rfl, ?_⟩
      rintro rfl
      have hspace := Sdl.isNameRest_of_mem h ' ' (by rw [hs]; exact List.mem_cons_self)
      exact absurd hspace (by decide)

/-- Texts within a line with a separator between them. -/
theorem isInline_joinWith {separator : List Char} (hseparator : IsInline separator)
    {texts : List (List Char)} (h : ∀ x ∈ texts, IsInline x) :
    IsInline (joinWith separator texts) := by
  induction texts with
  | nil => exact List.forall_mem_nil _
  | cons x texts ih =>
    obtain ⟨hx, htexts⟩ := List.forall_mem_cons.mp h
    cases texts with
    | nil => exact hx
    | cons y ys => exact (hx.append hseparator).append (ih htexts)

/-- Texts between parentheses, nothing if there is none. -/
theorem isInline_parentheses {α : Type} {f : α → List Char} {xs : List α}
    (h : ∀ x ∈ xs, IsInline (f x)) :
    IsInline (if xs.isEmpty then [] else '(' :: joinWith [',', ' '] (xs.map f) ++ [')']) := by
  have hjoined : IsInline (joinWith [',', ' '] (xs.map f)) :=
    isInline_joinWith (by simp [IsInline]) (List.forall_mem_map.mpr h)
  split_ifs
  · exact List.forall_mem_nil _
  · have hopening : IsInline ['('] := by simp [IsInline]
    exact hopening.append (hjoined.append (by simp [IsInline]))

end Text

open Text (IsInline StartsLine Indented isInline_of_isName isInline_parentheses)

/-- A simple value stands within a line. -/
theorem Value.IsSimple.isInline {takesVariables : Bool} {v : Value} (h : v.IsSimple takesVariables)
    (l : Layout) : IsInline (v.text l) := by
  cases v with
  | «variable» name =>
    have hdollar : IsInline ['$'] := by simp [IsInline]
    exact hdollar.append (isInline_of_isName h.2)
  | int n =>
    obtain ⟨c, digits, htext, hc, hdigits⟩ := Sdl.exists_intText_eq_cons n
    have hdigit {x : Char} (hx : x.isDigit = true) : x ≠ '\n' ∧ x ≠ '\x7b' ∧ x ≠ '\x7d' := by
      refine ⟨?_, ?_, ?_⟩ <;> rintro rfl <;> exact absurd hx (by decide)
    rw [Value.text, htext]
    refine List.forall_mem_cons.mpr ⟨?_, fun x hx => hdigit (hdigits x hx)⟩
    rcases hc with rfl | hc
    · decide
    · exact hdigit hc
  | _ => exact h.elim

/-- A type that can be written down stands within a line. -/
theorem TypeRef.IsWritable.isInline {r : TypeRef} (h : r.IsWritable) : IsInline r.text := by
  induction r with
  | named name => exact isInline_of_isName h
  | list item ih =>
    have hopening : IsInline ['['] := by simp [IsInline]
    exact hopening.append ((ih h).append (by simp [IsInline]))
  | nonNull inner ih => exact (ih h.1).append (by simp [IsInline])

namespace Query

/-- The arguments of a field stand within a line. -/
theorem isInline_arguments {arguments : List (String × Value)}
    (hkeys : ∀ a ∈ arguments, Sdl.isName a.1.toList = true)
    (hvalues : ∀ a ∈ arguments, a.2.IsSimple true) (l : Layout) :
    IsInline (Value.argumentsText l arguments) := by
  rw [Value.argumentsText_eq]
  exact isInline_parentheses fun a ha => (isInline_of_isName (hkeys a ha)).append
    (IsInline.append (by simp [IsInline]) ((hvalues a ha).isInline l))

/-- The definition of a variable stands within a line. -/
theorem Variable.IsLegible.isInline {v : Variable} (h : v.IsLegible) (l : Layout) :
    IsInline (v.text l) := by
  have hdefault : IsInline (Schema.defaultText l v.default) := by
    cases hv : v.default with
    | none => exact List.forall_mem_nil _
    | some x =>
      exact IsInline.append (by simp [IsInline])
        (IsInline.append (by simp [IsInline]) ((h.default x hv).isInline l))
  rw [Variable.text_eq]
  exact IsInline.append (by simp [IsInline]) ((isInline_of_isName h.isName).append
    (IsInline.append (by simp [IsInline]) (h.type.isInline.append hdefault)))

/-! ### Indented texts -/

/-- A margin as deep as the limit has the spaces of all its levels. -/
theorem margin_replicate {limit indent k : Nat} (hfits : limit * indent < UInt32.size) (hk : k ≤ limit) :
    Layout.margin ⟨indent, k⟩ = List.replicate (indent * k) ' ' := by
  have hle : indent * k ≤ limit * indent := by
    rw [Nat.mul_comm]
    exact Nat.mul_le_mul_right indent hk
  exact Layout.margin_eq (Nat.lt_of_le_of_lt hle hfits)

/-- Behind the start of a line members in a block are indented, and so is the end of the line if
there is none.

**Proof sketch.** Without members the content ends its line. With members, the line opens a brace, the
members are indented by one level more, and the closing brace stands in a line of its own, indented as
the first line is. -/
theorem indented_blockOrEnd {α : Type} {limit indent k : Nat} (hfits : limit * indent < UInt32.size)
    (hk : k ≤ limit) {content : List Char} (hcontent : StartsLine content)
    {print : Layout → α → List Char} {members : List α}
    (h : ∀ x ∈ members, Indented limit indent (k + 1) (print ⟨indent, k + 1⟩ x) (k + 1)) :
    Indented limit indent k (List.replicate (indent * k) ' ' ++
      (content ++ Schema.blockOrEnd ⟨indent, k⟩ print members)) k := by
  cases members with
  | nil =>
    have hline : Indented limit indent k (_ ++ ['\n']) k := .singleton hk hk (.plain hcontent)
    rwa [List.append_assoc] at hline
  | cons x rest =>
    have hdeeper : k + 1 ≤ limit := (h x List.mem_cons_self).le_limit
    have hspace : IsInline [' '] := by simp [IsInline]
    have hopening : Indented limit indent k (_ ++ ['\n']) (k + 1) :=
      .singleton hk hdeeper (.opening (hcontent.append hspace))
    have hclosing : Indented limit indent (k + 1) (_ ++ ['\n']) k :=
      .singleton hdeeper hk .closing
    have hblock := hopening.append ((Indented.flatMap hdeeper h).append hclosing)
    have htext : Schema.blockOrEnd ⟨indent, k⟩ print (x :: rest) = [' ', '\x7b', '\n'] ++
        (x :: rest).flatMap (print ⟨indent, k + 1⟩) ++ List.replicate (indent * k) ' ' ++
        ['\x7d', '\n'] := by
      rw [← margin_replicate hfits hk]
      rfl
    rw [htext]
    simpa using hblock

/-- The text of a field is indented by its open braces, from its level on.

**Proof sketch.** Induction on what makes the field legible: what is selected below it stands one
level deeper, behind one more brace. -/
theorem indented_field {deepest level indent : Nat} {f : Field} (h : f.IsLegible deepest level)
    (hfits : deepest * indent < UInt32.size) :
    Indented deepest indent level (f.text ⟨indent, level⟩) level := by
  induction h with
  | @mk level name arguments selection hlevel hname hkeys hvalues _ ih =>
    have hcontent := (Text.startsLine_of_isName hname).append
      (isInline_arguments hkeys hvalues ⟨indent, level⟩)
    have hfield := indented_blockOrEnd hfits hlevel hcontent ih
    rw [Field.text_mk, margin_replicate hfits hlevel]
    rwa [List.append_assoc] at hfield

/-- The text of a query is indented by its open braces, and no brace is open behind it. -/
theorem indented_operation {deepest indent : Nat} {o : Operation} (h : o.IsLegible deepest)
    (hfits : deepest * indent < UInt32.size) :
    Indented deepest indent 0 (o.text (.outermost indent)) 0 := by
  have hparameters : IsInline (parametersText (.outermost indent) o.parameters) :=
    isInline_parentheses fun v hv => (h.parameters v hv).isInline _
  have hword : StartsLine "query".toList := Text.startsLine_of_isName (by decide)
  have hspace : IsInline [' '] := by simp [IsInline]
  have hcontent := ((hword.append hspace).append (isInline_of_isName h.isName)).append hparameters
  have hquery := indented_blockOrEnd hfits (Nat.zero_le deepest) hcontent fun f hf =>
    indented_field (h.selection f hf) hfits
  rw [Nat.mul_zero, List.replicate_zero, List.nil_append] at hquery
  simp only [List.append_assoc] at hquery
  rw [Operation.text_eq _ h.selects]
  exact hquery

/-- The text of a document is indented by its open braces, and no brace is open behind it. -/
theorem indented_document {deepest indent : Nat} {q : Document}
    (h : ∀ o ∈ q.operations, o.IsLegible deepest) (hfits : deepest * indent < UInt32.size) :
    Indented deepest indent 0 (q.text indent) 0 :=
  Indented.joinWith (Nat.zero_le deepest) fun o ho => indented_operation (h o ho) hfits

end Query

/-! ### Derived queries -/

/-- The text of the document is indented by its open braces, `indent` spaces for each. -/
structure Query.Document.IsIndented (q : Query.Document) (indent : Nat) : Prop where
  /-- A line that is not empty starts with the spaces of the braces that are open before it, the one
  left out that the line itself closes. These are never more than five. -/
  lines : ∀ (before after : List (List Char)) (line : List Char),
    (q.text indent).splitOn '\n' = before ++ line :: after → line ≠ [] →
    ∃ k ≤ 5, before.flatten.count '\x7b' =
        before.flatten.count '\x7d' + (k + line.count '\x7d') ∧
      line.count '\x7d' ≤ 1 ∧ (line.takeWhile (· == ' ')).length = indent * k
  /-- At every place no more braces have been closed than opened, and at most five are open. There
  the indentation counter of the printer holds the spaces of the open braces. -/
  counter : ∀ before, before <+: q.text indent →
    ∃ k ≤ 5, before.count '\x7b' = before.count '\x7d' + k ∧
      Text.indentCounter? indent 0 before = some (indent * k)
  /-- The first queries are where the text starts, and no brace is open behind the last of them. -/
  closed : ∀ first, first <+: q.operations →
    Query.Document.text indent ⟨first⟩ <+: q.text indent ∧
    (Query.Document.text indent ⟨first⟩).count '\x7b' =
      (Query.Document.text indent ⟨first⟩).count '\x7d'

/-- **The indentation of derived queries.** Where the object types of a schema and their fields have
names of GraphQL, every line of the derived queries is indented by the braces that are open before
it, at most five of them, no brace is closed that is not open, and none is open behind a query. So
where five times the spaces for a brace fit into 32 bits, the indentation counter of the printer
neither overflows nor gets below zero.

**Proof sketch.** A selection passes through three object types at most, so that its fields stand at
five levels. The text of a field is put together from lines along the field, and what holds of a
text of such lines follows from what holds of each line. -/
theorem derived_text_indented {d : Schema.Document} (hd : d.HasNames) {q : Query.Document}
    (hq : derive d = .ok q) {indent : Nat} (hindent : 5 * indent < UInt32.size) :
    q.IsIndented indent := by
  have hlegible : ∀ o ∈ q.operations, o.IsLegible 5 := derive_isLegible hd hq
  have hindented := Query.indented_document hlegible hindent
  constructor
  case lines =>
    intro before after line hlines hne
    obtain ⟨k, hk, hcount, hone, hmargin⟩ := hindented.exists_margin hlines hne
    exact ⟨k, hk, by omega, hone, hmargin⟩
  case counter =>
    rintro before ⟨after, htext⟩
    have hnests := hindented.nests
    rw [← htext] at hnests
    obtain ⟨k, hk, hbefore⟩ := hnests.exists_of_append
    have hcount := hbefore.count_eq
    exact ⟨k, hk, by omega, hbefore.indentCounter?_eq hindent⟩
  case closed =>
    intro first hfirst
    have hlegible : ∀ o ∈ first, o.IsLegible 5 := fun o ho => hlegible o (hfirst.subset ho)
    have hcount := (Query.indented_document (q := ⟨first⟩) hlegible hindent).nests.count_eq
    exact ⟨Text.joinWith_prefix _ (hfirst.map _), by omega⟩

/-- The queries of a type that leads to itself are indented by their open braces, also with as many
spaces as the counter of the printer admits. -/
theorem derived_text_indented_linkChain :
    linkChain.HasNames ∧ 5 * 858993459 < UInt32.size ∧
      ∃ q, derive linkChain = .ok q ∧ q.IsIndented 858993459 := by
  obtain ⟨q, hq, -⟩ := exists_derive_linkChain
  have hfits : 5 * 858993459 < UInt32.size := by decide
  exact ⟨hasNames_linkChain, hfits, q, hq, derived_text_indented hasNames_linkChain hq hfits⟩

end SchemaQueries
