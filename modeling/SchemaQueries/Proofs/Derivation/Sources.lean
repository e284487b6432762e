import SchemaQueries.Proofs.Introspection.Listed
import SchemaQueries.Proofs.Sdl.Accepted

/-!
# Queries from either source

A schema is read from a text in the schema language or from the answer of an endpoint. The two readers
keep different parts of it, but the parts that queries depend on are kept by both.

## Main results

* `derive_eq_of_lists` — a text and an answer that agree in their object and input object types lead to
  the same queries.
-/

set_option autoImplicit false
set_option relaxedAutoImplicit false

namespace SchemaQueries

open Schema (Fielded TypeDefinition)

/-- **Either source leads to the same queries.** Take a text in the schema language that is read, and
an answer that is read. Let the answer list the object types and the input object types of the text in
their order, with the same fields and type references, wherever it lists types of other kinds and of
introspection itself. Then both lead to the same queries, or the derivation fails for the same entity.

**Proof sketch.** What the answer lists is what is read of it (`Introspection.fielded_of_read`), so the
two documents have the same types with fields. Queries do not depend on anything else
(`derive_congr`): neither on other definitions nor on descriptions, arguments, directives and default
values. -/
theorem derive_eq_of_lists {j : Json} {body : List Char} {types : List (Option Fielded)}
    (hbody : j.IsTextOf body) (hlists : Introspection.Lists j types) :
    ∀ {cs : List Char} {d d' : Schema.Document}, Sdl.read cs = .ok d →
      Introspection.read body = .ok d' →
      (types.filterMap id).filter Introspection.isOwn = d.fielded → derive d = derive d' := by
  intro cs d d' _ hread hsame
  refine derive_congr (Schema.Document.sameOutline_of_fielded_eq ?_)
  rw [Introspection.fielded_of_read hbody hlists hread, hsame]

/-- A text with an interface, a description and a default value. -/
def libraryText : List Char :=
  ("interface Item \x7b id: ID! \x7d\ntype Book implements Item \x7b \"Its number.\" id: ID! \x7d\n" ++
    "input Book_filter \x7b id: ID = \"1\" \x7d").toList

/-- The schema of `libraryText`. -/
def library : Schema.Document :=
  ⟨[.type ⟨none, "Item", [], .interface [] [⟨none, "id", [], .nonNull (.named "ID"), []⟩]⟩,
    .type ⟨none, "Book", [],
      .object ["Item"] [⟨some "Its number.", "id", [], .nonNull (.named "ID"), []⟩]⟩,
    .type ⟨none, "Book_filter", [], .input [⟨none, "id", .named "ID", some (.string "1"), []⟩]⟩]⟩

/-- The tokens of `libraryText` are those of its schema. -/
theorem tokens_libraryText : (Sdl.tokens libraryText).1.map (·.2) =
    library.definitions.flatMap Schema.Definition.tokens := by
  decide +kernel

/-- The types that an endpoint with the schema of `libraryText` lists. -/
def libraryTypes : List TypeDefinition :=
  [⟨none, "__Type", [], .object [] [⟨none, "name", [], .named "String", []⟩]⟩,
    ⟨none, "ID", [], .scalar⟩,
    ⟨none, "Book", [], .object ["Item"] [⟨none, "id", [], .nonNull (.named "ID"), []⟩]⟩,
    ⟨none, "Item", [], .interface [] [⟨none, "id", [], .nonNull (.named "ID"), []⟩]⟩,
    ⟨some "Which books.", "Book_filter", [], .input [⟨none, "id", .named "ID", none, []⟩]⟩]

/-- The text and the answer of an endpoint lead to the same queries. -/
theorem derive_eq_of_lists_library :
    (Introspection.request.answer libraryTypes).IsTextOf
      (Json.compactText (Introspection.request.answer libraryTypes)) ∧
    Introspection.Lists (Introspection.request.answer libraryTypes)
      (libraryTypes.map TypeDefinition.fielded?) ∧
    Sdl.read libraryText = .ok library ∧
    ((libraryTypes.map TypeDefinition.fielded?).filterMap id).filter Introspection.isOwn =
      library.fielded ∧
    ∃ d', Introspection.read (Json.compactText (Introspection.request.answer libraryTypes)) =
      .ok d' ∧ derive library = derive d' := by
  have hbody := Json.isTextOf_compactText
    (show (Introspection.request.answer libraryTypes).isNumberless = true by decide)
  have hlists := Introspection.lists_answer (show ∀ t ∈ libraryTypes, ∀ r ∈ t.body.refs,
    r.wrappers ≤ Introspection.wrapperLevels by decide)
  have hdocument : Sdl.document (library.definitions.flatMap Schema.Definition.tokens) =
      .ok library := rfl
  have hsdl : Sdl.read libraryText = .ok library := by
    rwa [Sdl.read_eq_ok, tokens_libraryText]
  have hsame : ((libraryTypes.map TypeDefinition.fielded?).filterMap id).filter
      Introspection.isOwn = library.fielded := by decide
  have hread := (Introspection.read_answer libraryTypes hbody).1 (by decide)
  exact ⟨hbody, hlists, hsdl, hsame, _, hread, derive_eq_of_lists hbody hlists hsdl hread hsame⟩

end SchemaQueries
