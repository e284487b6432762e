import SchemaQueries.Proofs.Derivation.Outline
import SchemaQueries.Proofs.Sdl.RoundTrip

/-!
# Deriving queries from a written schema

A schema that is read from a text is written to a file and read from there again. The texts in it need
not be the same then, but the queries that are derived from it are.

## Main results

* `Schema.Document.sameOutline_mapTexts` — queries do not depend on the texts in a schema.
* `Sdl.derive_of_read_fileText` — the schema is read back from its file, and leads to the same
  queries.

## Implementation notes

A directive that is defined without naming a place where it may stand is read, but what is written of
it is refused. So every directive has to name a place.
-/

set_option autoImplicit false
set_option relaxedAutoImplicit false

namespace SchemaQueries

namespace Schema

variable {f g : String → String}

/-- Other texts leave the outlines of fields. -/
theorem map_outline_mapTexts (fields : List Field) :
    (fields.map (Field.mapTexts g)).map Field.outline = fields.map Field.outline :=
  List.map_map

/-- The object type with other texts in it. -/
theorem Definition.object?_mapTexts (d : Definition) :
    (d.mapTexts f g).object? =
      d.object?.map fun o => ⟨o.name, o.fields.map (Field.mapTexts g)⟩ := by
  cases d with
  | type t =>
    obtain ⟨description, name, directives, body⟩ := t
    cases body <;> rfl
  | _ => rfl

/-- The input object type with other texts in it. -/
theorem Definition.input?_mapTexts (d : Definition) :
    (d.mapTexts f g).input? =
      d.input?.map fun i => ⟨i.name, i.fields.map (InputValue.mapTexts g)⟩ := by
  cases d with
  | type t =>
    obtain ⟨description, name, directives, body⟩ := t
    cases body <;> rfl
  | _ => rfl

/-- Queries do not depend on the texts in a schema. -/
theorem Document.sameOutline_mapTexts (d : Document) : (d.mapTexts f g).SameOutline d where
  objects := by
    have houtline (o : ObjectType) :
        ObjectType.outline ⟨o.name, o.fields.map (Field.mapTexts g)⟩ = o.outline :=
      congrArg (Prod.mk o.name) (map_outline_mapTexts o.fields)
    simp only [objects, mapTexts, List.filterMap_map, List.map_filterMap, Function.comp_def,
      Definition.object?_mapTexts, Option.map_map, houtline]
  inputs := by
    simp only [inputs, mapTexts, List.filterMap_map, List.map_filterMap, Function.comp_def,
      Definition.input?_mapTexts, Option.map_map]

end Schema

namespace Sdl

/-- **A written schema leads to the same queries.** Take a text that is read as a schema, holds no
floating-point number and no string with a character beyond ASCII, and let every directive that it
defines name a place where it may stand. Let the indentation be below 2 ^ 30, so that four levels of it
can be counted in 32 bits: a schema is printed at two levels at most, the one of its members and the one
of the lines of their descriptions, and the margins of these levels have all their spaces. Then the file
that the schema is written to is read as a schema, with either line break, and the queries that are
derived from that one are those of the first one, or the derivation fails for the same entity.

**Proof sketch.** Whatever is read can be written down (`isLegible_of_read`), because the tokens of a
text are names, integers of 64 bits and no more open brackets than are admitted. So the file is read
back with other texts at most (`read_fileText_mapTexts`), and on these the queries do not depend
(`Schema.Document.sameOutline_mapTexts`). -/
theorem derive_of_read_fileText {cs : List Char} {d : Schema.Document} (hread : read cs = .ok d)
    (hfloat : ∀ x, .float x ∉ (tokens cs).1.map (·.2))
    (hascii : ∀ s, .string s ∈ (tokens cs).1.map (·.2) → ∀ c ∈ s.toList, c.toNat < 128)
    (hplaces : ∀ x, .directive x ∈ d.definitions → x.locations ≠ [])
    {lineBreak : List Char} (hlb : lineBreak = ['\n'] ∨ lineBreak = ['\r', '\n']) {indent : Nat}
    (hindent : 4 * indent < UInt32.size) :
    (∀ level ≤ 2, Layout.margin ⟨indent, level⟩ = List.replicate (indent * level) ' ') ∧
      ∃ d', read (Output.fileText lineBreak (d.text indent)) = .ok d' ∧ derive d' = derive d := by
  obtain ⟨hne, hlegible⟩ := isLegible_of_read hread hfloat fun s hs => Or.inr (hascii s hs)
  have hnamed : ∀ x ∈ d.definitions, x.NamesPlaces := by
    intro x hx
    cases x with
    | directive x => exact hplaces x hx
    | _ => trivial
  refine ⟨fun level hlevel => Layout.margin_eq ?_, _, read_fileText_mapTexts hlb indent hne hlegible
    hnamed, derive_congr d.sameOutline_mapTexts⟩
  calc indent * level ≤ indent * 2 := Nat.mul_le_mul_left indent hlevel
    _ ≤ 4 * indent := by omega
    _ < UInt32.size := hindent

/-- A schema with a description, a default value, a directive and an extension. -/
def annotatedText : List Char :=
  ("directive @key(by: String = \"id\") on OBJECT\ntype Post \x7b \"Its number.\" id: [ID!] \x7d\n" ++
    "extend type Post @key\ninput Post_filter \x7b id: ID \x7d").toList

/-- The schema of `annotatedText`. -/
def annotated : Schema.Document :=
  ⟨[.directive ⟨none, "key", [⟨none, "by", .named "String", some (.string "id"), []⟩], false,
      [.object]⟩,
    .type ⟨none, "Post", [],
      .object [] [⟨some "Its number.", "id", [], .list (.nonNull (.named "ID")), []⟩]⟩,
    .extension ⟨"Post", [⟨"key", []⟩], .object [] []⟩,
    .type ⟨none, "Post_filter", [], .input [⟨none, "id", .named "ID", none, []⟩]⟩]⟩

/-- The tokens of `annotatedText` are those of its schema. -/
theorem tokens_annotatedText : (tokens annotatedText).1.map (·.2) =
    annotated.definitions.flatMap Schema.Definition.tokens := by
  decide +kernel

/-- The schema of `annotatedText` leads to the same queries after it has been written with carriage
returns.

**Proof sketch.** The tokens of the text are those of the document, so what is supposed of them is
decided token by token. -/
theorem derive_of_read_fileText_annotated :
    read annotatedText = .ok annotated ∧
    (∀ x, .float x ∉ (tokens annotatedText).1.map (·.2)) ∧
    (∀ s, .string s ∈ (tokens annotatedText).1.map (·.2) → ∀ c ∈ s.toList, c.toNat < 128) ∧
    (∀ x, .directive x ∈ annotated.definitions → x.locations ≠ []) ∧
    4 * 2 < UInt32.size ∧
    (∀ level ≤ 2, Layout.margin ⟨2, level⟩ = List.replicate (2 * level) ' ') ∧
    ∃ d', read (Output.fileText ['\r', '\n'] (annotated.text 2)) = .ok d' ∧
      derive d' = derive annotated := by
  have hdocument : document (annotated.definitions.flatMap Schema.Definition.tokens) =
      .ok annotated := rfl
  have hread : read annotatedText = .ok annotated := by
    rwa [read_eq_ok, tokens_annotatedText]
  have hfloat : ∀ x, .float x ∉ (tokens annotatedText).1.map (·.2) := by
    have hall : ∀ t ∈ annotated.definitions.flatMap Schema.Definition.tokens,
        (match t with | .float _ => false | _ => true) = true := by decide
    rw [tokens_annotatedText]
    exact fun x hx => absurd (hall _ hx) (by simp)
  have hascii : ∀ s, .string s ∈ (tokens annotatedText).1.map (·.2) →
      ∀ c ∈ s.toList, c.toNat < 128 := by
    have hall : ∀ t ∈ annotated.definitions.flatMap Schema.Definition.tokens,
        (match t with | .string s => decide (IsAscii s) | _ => true) = true := by decide
    rw [tokens_annotatedText]
    intro s hs
    have hs : IsAscii s := of_decide_eq_true (hall _ hs)
    exact hs
  have hplaces : ∀ x, .directive x ∈ annotated.definitions → x.locations ≠ [] := by
    intro x hx
    simp only [annotated, List.mem_cons, List.not_mem_nil, or_false, reduceCtorEq,
      Schema.Definition.directive.injEq] at hx
    subst hx
    simp
  have hindent : 4 * 2 < UInt32.size := by decide
  exact ⟨hread, hfloat, hascii, hplaces, hindent,
    derive_of_read_fileText hread hfloat hascii hplaces (.inr rfl) hindent⟩

/-- A schema with a directive that names no place where it may stand. -/
def unplacedText : List Char :=
  ("type Post \x7b id: ID \x7d\ninput Post_filter \x7b id: ID \x7d\n" ++ "directive @key on").toList

/-- The schema of `unplacedText`. -/
def unplaced : Schema.Document :=
  ⟨[.type ⟨none, "Post", [], .object [] [⟨none, "id", [], .named "ID", []⟩]⟩,
    .type ⟨none, "Post_filter", [], .input [⟨none, "id", .named "ID", none, []⟩]⟩,
    .directive ⟨none, "key", [], false, []⟩]⟩

/-- A schema with a directive that names no place where it may stand is read, but not from the file
that it is written to. -/
theorem exists_reloading_refused :
    read unplacedText = .ok unplaced ∧
    (∀ x, .float x ∉ (tokens unplacedText).1.map (·.2)) ∧
    (∀ s, .string s ∉ (tokens unplacedText).1.map (·.2)) ∧
    ∀ d', read (Output.fileText ['\n'] (unplaced.text 2)) ≠ .ok d' := by
  have hplain : ∀ t ∈ (tokens unplacedText).1.map (·.2),
      (match t with | .float _ | .string _ => false | _ => true) = true := by decide +kernel
  refine ⟨rfl, fun x hx => absurd (hplain _ hx) (by simp), fun s hs => absurd (hplain _ hs) (by simp),
    ?_⟩
  exact Introspection.fileText_refused (by decide +kernel)

end Sdl

end SchemaQueries
