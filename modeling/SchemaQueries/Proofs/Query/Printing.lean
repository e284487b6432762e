import SchemaQueries.Proofs.Query.Legible
import SchemaQueries.Proofs.Sdl.Printing
import SchemaQueries.Query.Printer

/-!
# The tokens of printed queries

A document of queries that can be written down is printed and read as its tokens, with either line
break: a field without selection as a name with arguments only, any other one with braces.

## Main definitions

* `Query.Field.tokens`, `Query.Operation.tokens` — the tokens that something is written as.

## Main results

* `Sdl.prints_selectedField` — a printed field is read as its tokens, at every level.
* `Sdl.prints_queries` — a printed document is read as the tokens of its queries.
-/

set_option autoImplicit false
set_option relaxedAutoImplicit false

namespace SchemaQueries

namespace Query

/-! ### Tokens -/

mutual

/-- The tokens of a selected field. -/
def Field.tokens : Field → List Sdl.Token
  | .mk name arguments selection =>
    .name name :: (Schema.groupTokens '(' ')' Value.memberTokens arguments ++ blockTokens selection)

/-- The tokens of selected fields between braces, nothing if there is none. -/
def blockTokens : List Field → List Sdl.Token
  | [] => []
  | first :: rest => .mark '\x7b' :: (first.tokens ++ selectionTokens rest ++ [.mark '\x7d'])

/-- The tokens of selected fields. -/
def selectionTokens : List Field → List Sdl.Token
  | [] => []
  | first :: rest => first.tokens ++ selectionTokens rest

end

/-- Fields are written one after the other. -/
theorem selectionTokens_eq_flatMap (selection : List Field) :
    selectionTokens selection = selection.flatMap Field.tokens := by
  induction selection with
  | nil => rfl
  | cons first rest ih => rw [selectionTokens, ih, List.flatMap_cons]

/-- The tokens of a selected field, part by part. -/
theorem Field.tokens_mk (name : String) (arguments : List (String × Value))
    (selection : List Field) :
    (Field.mk name arguments selection).tokens = .name name ::
      (Schema.groupTokens '(' ')' Value.memberTokens arguments ++
        Schema.groupTokens '\x7b' '\x7d' Field.tokens selection) := by
  rw [Field.tokens]
  cases selection with
  | nil => rfl
  | cons first rest =>
    rw [blockTokens, selectionTokens_eq_flatMap, Schema.groupTokens, List.flatMap_cons]

/-- The tokens of the definition of a variable. -/
def Variable.tokens (v : Variable) : List Sdl.Token :=
  .mark '$' :: .name v.name :: .mark ':' :: (v.type.tokens ++ Schema.defaultTokens v.default)

/-- The tokens of a query. -/
def Operation.tokens (o : Operation) : List Sdl.Token :=
  .name "query" :: .name o.name :: (Schema.groupTokens '(' ')' Variable.tokens o.parameters ++
    Schema.groupTokens '\x7b' '\x7d' Field.tokens o.selection)

/-! ### The parts of a text -/

/-- Fields are printed one after the other. -/
theorem selectionText_eq_flatMap (l : Layout) (selection : List Field) :
    selectionText l selection = selection.flatMap (Field.text l) := by
  induction selection with
  | nil => rfl
  | cons first rest ih => rw [selectionText, ih, List.flatMap_cons]

/-- A field, part by part. -/
theorem Field.text_mk (l : Layout) (name : String) (arguments : List (String × Value))
    (selection : List Field) :
    (Field.mk name arguments selection).text l = l.margin ++ (name.toList ++
      (Value.argumentsText l arguments ++ Schema.blockOrEnd l Field.text selection)) := by
  cases selection with
  | nil => simp [Field.text, Schema.blockOrEnd]
  | cons first rest =>
    simp [Field.text, Schema.blockOrEnd, Layout.block, selectionText_eq_flatMap]

/-- The definition of a variable, part by part. -/
theorem Variable.text_eq (l : Layout) (v : Variable) :
    v.text l = ['$'] ++ (v.name.toList ++ ([':', ' '] ++ (v.type.text ++
      Schema.defaultText l v.default))) := by
  cases hdefault : v.default <;> simp [Variable.text, Schema.defaultText, hdefault]

/-- A query that selects something, part by part. -/
theorem Operation.text_eq (l : Layout) {o : Operation} (h : o.selection ≠ []) :
    o.text l = "query".toList ++ ([' '] ++ (o.name.toList ++ (parametersText l o.parameters ++
      Schema.blockOrEnd l Field.text o.selection))) := by
  have hne : ¬ o.selection.isEmpty = true := by simpa using h
  have htext : o.text l = "query".toList ++ [' '] ++ o.name.toList ++ parametersText l o.parameters
      ++ l.block fun inner => selectionText inner o.selection := rfl
  simp only [htext, Schema.blockOrEnd, if_neg hne, selectionText_eq_flatMap, List.append_assoc]

end Query

/-! ### Printing -/

namespace Sdl

variable {lineBreak : List Char}

/-- The arguments of a field are printed as their tokens. -/
theorem prints_simpleArguments (hlb : IsLineBreak lineBreak) (l : Layout) {opened : Nat}
    (hopened : opened + 1 ≤ maxOpen) {arguments : List (String × Value)}
    (hkeys : ∀ a ∈ arguments, isName a.1.toList = true)
    (hvalues : ∀ a ∈ arguments, a.2.IsSimple true) :
    Prints lineBreak Anything opened (Value.argumentsText l arguments)
      (Schema.groupTokens '(' ')' Value.memberTokens arguments) opened := by
  have hmember {a : String × Value} (ha : a ∈ arguments) :
      Value.mapMember (l.readBack lineBreak) a = id a :=
    Prod.ext rfl ((hvalues a ha).mapTexts_eq _)
  have hsame : arguments.map (Value.mapMember (l.readBack lineBreak)) = arguments :=
    (List.map_congr_left fun a ha => hmember ha).trans (List.map_id arguments)
  have harguments := prints_arguments hlb l hkeys fun a ha =>
    (hvalues a ha).isLegible IsReadBack hopened
  rwa [hsame] at harguments

/-- A field is printed as its tokens, with as many braces open as its level says.

**Proof sketch.** Induction on what makes the field legible: what is selected below it stands one
level deeper, behind one more brace. -/
theorem prints_selectedField (hlb : IsLineBreak lineBreak) {deepest : Nat}
    (hdeepest : deepest + 1 ≤ maxOpen) {level : Nat} {f : Query.Field}
    (h : f.IsLegible deepest level) (l : Layout) :
    Prints lineBreak Anything level (f.text l) f.tokens level := by
  induction h generalizing l with
  | @mk level name arguments selection hlevel hname hkeys hvalues _ ih =>
    have hopened : level + 1 ≤ maxOpen := by omega
    have hblock := prints_blockOrEnd hlb l hopened fun f hf => ih f hf l.deeper
    have hnamed := (prints_name hname (by omega)).append_apart hlb
      ((prints_simpleArguments hlb l hopened hkeys hvalues).append_of_anything hblock)
      (.append_left (endsToken_arguments l _) (startsApart_blockOrEnd l _ _))
    rw [Query.Field.text_mk, Query.Field.tokens_mk]
    exact (prints_margin hlb l level).append_of_anything hnamed

/-- The definition of a variable is printed as its tokens. -/
theorem prints_variableDefinition (hlb : IsLineBreak lineBreak) (l : Layout) {v : Query.Variable}
    (h : v.IsLegible) : Prints lineBreak EndsToken 1 (v.text l) v.tokens 1 := by
  have hopened : 1 ≤ maxOpen := by decide
  have hdollar := prints_mark hlb (c := '$') (by decide) [] (by decide) hopened
  have hcolon := prints_mark hlb (c := ':') (by decide) [' '] (by decide) hopened
  have hsame : v.default.map (Value.mapTexts (l.readBack lineBreak)) = v.default :=
    (Option.map_congr (g := id) fun x hx => (h.default x hx).mapTexts_eq _).trans
      (congrFun Option.map_id v.default)
  have hdefault := prints_default hlb l fun x hx => (h.default x hx).isLegible IsReadBack hopened
  rw [hsame] at hdefault
  have htype := (prints_typeRef hlb h.type (by rw [h.lists]; exact hopened)).append_optional hlb
    hdefault (endsToken_default l _)
  have hnamed := (prints_name h.isName hopened).append_apart hlb (hcolon.append_of_anything htype)
    (.cons (by decide) _)
  rw [Query.Variable.text_eq]
  exact hdollar.append_of_anything hnamed

/-- A query is printed as its tokens. -/
theorem prints_query (hlb : IsLineBreak lineBreak) (l : Layout) {deepest : Nat}
    (hdeepest : deepest + 1 ≤ maxOpen) {o : Query.Operation} (h : o.IsLegible deepest) :
    Prints lineBreak Anything 0 (o.text l) o.tokens 0 := by
  have hopened : 0 ≤ maxOpen := Nat.zero_le _
  have hword : Prints lineBreak EndsToken 0 "query".toList [.name "query"] 0 :=
    prints_name (by decide) hopened
  have hblock := prints_blockOrEnd hlb l (by decide) fun f hf =>
    prints_selectedField hlb hdeepest (h.selection f hf) l.deeper
  have hparameters : Prints lineBreak Anything 0 (Query.parametersText l o.parameters) _ 0 :=
    prints_parentheses hlb (fun _ => by decide) fun v hv =>
      prints_variableDefinition hlb l (h.parameters v hv)
  have hnamed := (prints_name h.isName hopened).append_apart hlb
    (hparameters.append_of_anything hblock)
    (.append_left (endsToken_parentheses _ _) (startsApart_blockOrEnd l _ _))
  rw [Query.Operation.text_eq l h.selects]
  exact hword.append_apart hlb ((prints_gap hlb [' '] (by decide) 0).append_of_anything hnamed)
    (.cons (by decide) _)

/-- A document of queries is printed as the tokens of its queries. -/
theorem prints_queries (hlb : IsLineBreak lineBreak) (indent : Nat) {deepest : Nat}
    (hdeepest : deepest + 1 ≤ maxOpen) {q : Query.Document}
    (h : ∀ o ∈ q.operations, o.IsLegible deepest) :
    Prints lineBreak Anything 0 (q.text indent) (q.operations.flatMap Query.Operation.tokens) 0 :=
  prints_joinWith hlb (by decide) (fun _ => trivial) fun o ho =>
    prints_query hlb (.outermost indent) hdeepest (h o ho)

end Sdl

end SchemaQueries
