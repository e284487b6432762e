import SchemaQueries.Proofs.Sdl.ParsingParts
import SchemaQueries.Query.Basic

/-!
# The grammar of executable documents

Reading the language of queries from its tokens, which are those of the schema language: operations
of each kind, with or without name, fragments, aliases, spreads and directives. The derived queries
use a part of it.

## Main definitions

* `Executable.Selection`, `Executable.Definition`, `Executable.Document` — executable documents.
* `Executable.selection`, `Executable.definition` — the readers of the parts of a document.
* `Executable.readSequence`, `Executable.read` — the definitions that a text consists of, and the
  document of a text, which has at least one.
* `Query.Document.executable` — a document of queries as an executable document.

## Main results

* `Query.Document.executable_injective` — nothing is lost on the way.

## Implementation notes

As in the grammar of schemas every reader takes the tokens at hand and returns what it read with the
tokens behind it, and those that repeat or nest take a bound on the number of repetitions. The
readers of what stands around a selection set take the reader of a selection, so that selections
nest by recursion on the bound alone.
-/

set_option autoImplicit false
set_option relaxedAutoImplicit false

namespace SchemaQueries

namespace Executable

open Sdl (Token Taken Refusal refuse)

/-! ### Executable documents -/

/-- What is selected. -/
inductive Selection where
  /-- A field, labelled with its alias if it has one. -/
  | field (label : Option String) (name : String) (arguments : List (String × Value))
    (directives : List Schema.Directive) (selection : List Selection)
  /-- The fields of a fragment that is defined elsewhere. -/
  | spread (fragment : String) (directives : List Schema.Directive)
  /-- The fields of a fragment in place, possibly under a condition on the type. -/
  | inline (condition : Option String) (directives : List Schema.Directive)
    (selection : List Selection)

/-- The definition of a variable. -/
structure Variable where
  name : String
  type : TypeRef
  default : Option Value
  directives : List Schema.Directive

/-- The kinds of operations. -/
inductive OperationKind where
  | query | mutation | subscription

/-- An operation or a fragment. -/
inductive Definition where
  | operation (kind : OperationKind) (name : Option String) (parameters : List Variable)
    (directives : List Schema.Directive) (selection : List Selection)
  /-- A query without name that is written as its selection only. -/
  | short (selection : List Selection)
  | fragment (name : String) (condition : String) (directives : List Schema.Directive)
    (selection : List Selection)

/-- Definitions in order. -/
structure Document where
  definitions : List Definition

/-! ### Selections -/

section Selections

variable (selection : List Token → Except Refusal (Taken Selection)) (bound : Nat)

/-- A selection set: one or more selections between braces. -/
def selectionSet (ts : List Token) : Except Refusal (Taken (List Selection)) := do
  let ((), ts) ← Sdl.mark '\x7b' ts
  Sdl.manyUpTo '\x7d' selection bound ts

/-- The name of a field, and the alias before it if there is one. -/
def fieldName (ts : List Token) : Except Refusal (Taken (Option String × String)) := do
  let (first, ts) ← Sdl.name ts
  if Sdl.nextIsMark ':' ts then do
    let (second, ts) ← Sdl.name (ts.drop 1)
    return ((some first, second), ts)
  else return ((none, first), ts)

/-- A field. -/
def field (ts : List Token) : Except Refusal (Taken Selection) := do
  let ((label, name), ts) ← fieldName ts
  let (arguments, ts) ← Sdl.optionalGroup '(' ')' (Sdl.argument bound) bound ts
  let (attached, ts) ← Sdl.directives bound ts
  let (below, ts) ← Sdl.optionalGroup '\x7b' '\x7d' selection bound ts
  return (.field label name arguments attached below, ts)

/-- A fragment in place behind the condition on the type. -/
def inlineFragment (condition : Option String) (ts : List Token) :
    Except Refusal (Taken Selection) := do
  let (attached, ts) ← Sdl.directives bound ts
  let (below, ts) ← selectionSet selection bound ts
  return (.inline condition attached below, ts)

/-- What stands behind three points: the name of a fragment or a fragment in place. No fragment has
the word for conditions as its name. -/
def afterPoints : List Token → Except Refusal (Taken Selection)
  | .name "on" :: rest => do
    let (condition, ts) ← Sdl.name rest
    inlineFragment selection bound (some condition) ts
  | .name s :: rest => do
    let (attached, ts) ← Sdl.directives bound rest
    return (.spread s attached, ts)
  | ts => inlineFragment selection bound none ts

end Selections

/-- A selection. -/
def selection : Nat → List Token → Except Refusal (Taken Selection)
  | 0, ts => refuse ts
  | bound + 1, .spread :: rest => afterPoints (selection bound) bound rest
  | bound + 1, ts => field (selection bound) bound ts

/-! ### Definitions -/

/-- The definition of a variable. -/
def variableDefinition (bound : Nat) (ts : List Token) : Except Refusal (Taken Variable) := do
  let ((), ts) ← Sdl.mark '$' ts
  let (s, ts) ← Sdl.name ts
  let ((), ts) ← Sdl.mark ':' ts
  let (type, ts) ← Sdl.typeRef bound ts
  let (default, ts) ← Sdl.defaultValue bound ts
  let (attached, ts) ← Sdl.directives bound ts
  return (⟨s, type, default, attached⟩, ts)

/-- A name, if the next token is one. -/
def optionalName : List Token → Taken (Option String)
  | .name s :: rest => (some s, rest)
  | ts => (none, ts)

/-- An operation behind the word for its kind. -/
def operation (bound : Nat) (kind : OperationKind) (ts : List Token) :
    Except Refusal (Taken Definition) := do
  let (s, ts) := optionalName ts
  let (parameters, ts) ← Sdl.optionalGroup '(' ')' (variableDefinition bound) bound ts
  let (attached, ts) ← Sdl.directives bound ts
  let (below, ts) ← selectionSet (selection bound) bound ts
  return (.operation kind s parameters attached below, ts)

/-- A fragment behind the word for it. -/
def fragment (bound : Nat) : List Token → Except Refusal (Taken Definition)
  | .name "on" :: rest => refuse (.name "on" :: rest)
  | .name s :: .name "on" :: rest => do
    let (condition, ts) ← Sdl.name rest
    let (attached, ts) ← Sdl.directives bound ts
    let (below, ts) ← selectionSet (selection bound) bound ts
    return (.fragment s condition attached below, ts)
  | ts => refuse ts

/-- A definition. -/
def definition (bound : Nat) : List Token → Except Refusal (Taken Definition)
  | .name "query" :: rest => operation bound .query rest
  | .name "mutation" :: rest => operation bound .mutation rest
  | .name "subscription" :: rest => operation bound .subscription rest
  | .name "fragment" :: rest => fragment bound rest
  | ts => do
    let (below, ts) ← selectionSet (selection bound) bound ts
    return (.short below, ts)

/-- Definitions up to the last token. -/
def sequence (ts : List Token) : Except Refusal Document := do
  let bound := 2 * ts.length + 2
  let (definitions, rest) ← Sdl.many (!·.isEmpty) (definition bound) bound ts
  if rest.isEmpty then return ⟨definitions⟩ else .error (.unexpected rest.length)

/-- The definitions that a text consists of. -/
def readSequence (cs : List Char) : Except Refusal Document :=
  sequence ((Sdl.tokens cs).1.map (·.2))

/-- The document of a text, which has at least one definition. -/
def read (cs : List Char) : Except Refusal Document := do
  let d ← readSequence cs
  if d.definitions.isEmpty then .error (.unexpected 0) else return d

end Executable

/-! ### Queries as executable documents -/

namespace Query

mutual

/-- A selected field. It has neither alias nor directives. -/
def Field.executable : Field → Executable.Selection
  | .mk name arguments selection => .field none name arguments [] (selectionExecutable selection)

/-- Selected fields. -/
def selectionExecutable : List Field → List Executable.Selection
  | [] => []
  | first :: rest => first.executable :: selectionExecutable rest

end

/-- The definition of a variable. -/
def Variable.executable (v : Variable) : Executable.Variable :=
  ⟨v.name, v.type, v.default, []⟩

/-- A query with its name. -/
def Operation.executable (o : Operation) : Executable.Definition :=
  .operation .query (some o.name) (o.parameters.map Variable.executable) []
    (selectionExecutable o.selection)

/-- The queries in their order. -/
def Document.executable (d : Document) : Executable.Document :=
  ⟨d.operations.map Operation.executable⟩

/-- Fields are taken over one by one. -/
theorem selectionExecutable_eq_map (selection : List Field) :
    selectionExecutable selection = selection.map Field.executable := by
  induction selection with
  | nil => rfl
  | cons first rest ih => rw [selectionExecutable, ih, List.map_cons]

mutual

/-- Nothing is lost of a field. -/
theorem Field.executable_injective : ∀ {f g : Field}, f.executable = g.executable → f = g
  | .mk _ _ selection, .mk _ _ selection', h => by
    simp only [Field.executable, Executable.Selection.field.injEq, true_and] at h
    obtain ⟨rfl, rfl, hselection⟩ := h
    rw [selectionExecutable_injective hselection]

/-- Nothing is lost of fields. -/
theorem selectionExecutable_injective : ∀ {selection selection' : List Field},
    selectionExecutable selection = selectionExecutable selection' → selection = selection'
  | [], [], _ => rfl
  | [], _ :: _, h => by simp [selectionExecutable] at h
  | _ :: _, [], h => by simp [selectionExecutable] at h
  | first :: rest, first' :: rest', h => by
    obtain ⟨hfirst, hrest⟩ := List.cons.inj h
    rw [Field.executable_injective hfirst, selectionExecutable_injective hrest]

end

/-- Nothing is lost of the definition of a variable. -/
theorem Variable.executable_injective : Function.Injective Variable.executable := by
  rintro ⟨name, type, default⟩ ⟨name', type', default'⟩ h
  simpa [Variable.executable] using h

/-- Nothing is lost of a query. -/
theorem Operation.executable_injective : Function.Injective Operation.executable := by
  rintro ⟨name, parameters, selection⟩ ⟨name', parameters', selection'⟩ h
  simp only [Operation.executable, Executable.Definition.operation.injEq, Option.some.injEq,
    true_and] at h
  obtain ⟨rfl, hparameters, hselection⟩ := h
  rw [Variable.executable_injective.list_map hparameters, selectionExecutable_injective hselection]

/-- Nothing is lost of a document of queries. -/
theorem Document.executable_injective : Function.Injective Document.executable := by
  rintro ⟨operations⟩ ⟨operations'⟩ h
  have hoperations := Operation.executable_injective.list_map (Executable.Document.mk.inj h)
  exact congrArg Document.mk hoperations

end Query

end SchemaQueries
