import Mathlib.Data.List.Basic
import SchemaQueries.Schema.Printer
import SchemaQueries.Sdl.Grammar

/-!
# What can be written down as a schema

A schema document is written as tokens, and not every document can be: names have to be names of
GraphQL, integers have to fit into 64 bits, and no more than `maxOpen` brackets may be open at a
time. A document that meets these conditions is legible. The texts in it, its descriptions and its
string values, are subject to a condition of their own, which is left open here.

## Main definitions

* `Value.tokens`, `Schema.Definition.tokens`, … — the tokens that something is written as.
* `Value.IsLegible`, `Schema.Definition.IsLegible`, … — it can be written down, behind so many open
  brackets.
* `Value.mapTexts`, `Schema.Definition.mapTexts`, … — the same with other texts in it.

## Main results

* `Value.IsLegible.mapTexts`, `Schema.Definition.IsLegible.mapTexts`, … — other texts leave legible
  what is legible.
-/

set_option autoImplicit false
set_option relaxedAutoImplicit false

namespace SchemaQueries

/-! ### Type references -/

namespace TypeRef

/-- The tokens of a type reference. -/
def tokens : TypeRef → List Sdl.Token
  | named name => [.name name]
  | list item => .mark '[' :: (item.tokens ++ [.mark ']'])
  | nonNull inner => inner.tokens ++ [.mark '!']

/-- How many list wrappers stand around the name. -/
def lists : TypeRef → Nat
  | named _ => 0
  | list item => item.lists + 1
  | nonNull inner => inner.lists

/-- The name is a name of GraphQL, and nowhere is a non-null type directly inside another one. -/
def IsWritable : TypeRef → Prop
  | named name => Sdl.isName name.toList = true
  | list item => item.IsWritable
  | nonNull inner => inner.IsWritable ∧ ∀ r, inner ≠ nonNull r

end TypeRef

/-! ### Values -/

namespace Value

mutual

/-- The tokens of a value. -/
def tokens : Value → List Sdl.Token
  | .variable name => [.mark '$', .name name]
  | .int n => [.int n]
  | .float x => [.float x]
  | .string s => [.string s]
  | .boolean b => [.name (if b then "true" else "false")]
  | .null => [.name "null"]
  | .enum name => [.name name]
  | .list items => .mark '[' :: (itemsTokens items ++ [.mark ']'])
  | .object members => .mark '\x7b' :: (membersTokens members ++ [.mark '\x7d'])

/-- The tokens of the items of a list value. -/
def itemsTokens : List Value → List Sdl.Token
  | [] => []
  | first :: rest => first.tokens ++ itemsTokens rest

/-- The tokens of the members of an object value. -/
def membersTokens : List (String × Value) → List Sdl.Token
  | [] => []
  | (key, first) :: rest => .name key :: .mark ':' :: (first.tokens ++ membersTokens rest)

end

/-- The tokens of a member of an object value, and of an argument. -/
def memberTokens (member : String × Value) : List Sdl.Token :=
  .name member.1 :: .mark ':' :: member.2.tokens

/-- Items are written one after the other. -/
theorem itemsTokens_eq_flatMap (items : List Value) : itemsTokens items = items.flatMap tokens := by
  induction items with
  | nil => rfl
  | cons first rest ih => rw [itemsTokens, ih, List.flatMap_cons]

/-- Members are written one after the other. -/
theorem membersTokens_eq_flatMap (members : List (String × Value)) :
    membersTokens members = members.flatMap memberTokens := by
  induction members with
  | nil => rfl
  | cons first rest ih => rw [membersTokens, ih, List.flatMap_cons]; rfl

/-- A value can be written down behind so many open brackets, if `holds` says which texts can. -/
inductive IsLegible (holds : String → Prop) (takesVariables : Bool) : Nat → Value → Prop
  | var {opened : Nat} {name : String} (hopened : opened ≤ Sdl.maxOpen)
    (htakes : takesVariables = true) (hname : Sdl.isName name.toList = true) :
    IsLegible holds takesVariables opened (.variable name)
  | int {opened : Nat} {n : Int} (hopened : opened ≤ Sdl.maxOpen)
    (hlow : -9223372036854775808 ≤ n) (hhigh : n < 9223372036854775808) :
    IsLegible holds takesVariables opened (.int n)
  | string {opened : Nat} {s : String} (hopened : opened ≤ Sdl.maxOpen) (hs : holds s) :
    IsLegible holds takesVariables opened (.string s)
  | boolean {opened : Nat} {b : Bool} (hopened : opened ≤ Sdl.maxOpen) :
    IsLegible holds takesVariables opened (.boolean b)
  | null {opened : Nat} (hopened : opened ≤ Sdl.maxOpen) :
    IsLegible holds takesVariables opened .null
  | enum {opened : Nat} {name : String} (hopened : opened ≤ Sdl.maxOpen)
    (hname : Sdl.isName name.toList = true)
    (hword : name ≠ "true" ∧ name ≠ "false" ∧ name ≠ "null") :
    IsLegible holds takesVariables opened (.enum name)
  | list {opened : Nat} {items : List Value} (hopened : opened + 1 ≤ Sdl.maxOpen)
    (hitems : ∀ v ∈ items, IsLegible holds takesVariables (opened + 1) v) :
    IsLegible holds takesVariables opened (.list items)
  | object {opened : Nat} {members : List (String × Value)} (hopened : opened + 1 ≤ Sdl.maxOpen)
    (hkeys : ∀ m ∈ members, Sdl.isName m.1.toList = true)
    (hvalues : ∀ m ∈ members, IsLegible holds takesVariables (opened + 1) m.2)
    (hsorted : members.Pairwise fun m m' => m.1 < m'.1) :
    IsLegible holds takesVariables opened (.object members)

/-- No more brackets are open before a legible value than may be. -/
theorem IsLegible.opened_le {holds : String → Prop} {takesVariables : Bool} {opened : Nat}
    {v : Value} (h : v.IsLegible holds takesVariables opened) : opened ≤ Sdl.maxOpen := by
  cases h with
  | list hopened | object hopened => exact Nat.le_of_succ_le hopened
  | _ => assumption

mutual

/-- The value with `f` applied to the texts in it. -/
def mapTexts (f : String → String) : Value → Value
  | .string s => .string (f s)
  | .list items => .list (mapItems f items)
  | .object members => .object (mapMembers f members)
  | .variable name => .variable name
  | .int n => .int n
  | .float x => .float x
  | .boolean b => .boolean b
  | .null => .null
  | .enum name => .enum name

/-- The items with `f` applied to the texts in them. -/
def mapItems (f : String → String) : List Value → List Value
  | [] => []
  | first :: rest => first.mapTexts f :: mapItems f rest

/-- The members with `f` applied to the texts in their values. -/
def mapMembers (f : String → String) : List (String × Value) → List (String × Value)
  | [] => []
  | (key, first) :: rest => (key, first.mapTexts f) :: mapMembers f rest

end

/-- The member with `f` applied to the texts in its value. -/
def mapMember (f : String → String) (member : String × Value) : String × Value :=
  (member.1, member.2.mapTexts f)

/-- Texts are replaced item by item. -/
theorem mapItems_eq_map (f : String → String) (items : List Value) :
    mapItems f items = items.map (mapTexts f) := by
  induction items with
  | nil => rfl
  | cons first rest ih => rw [mapItems, ih, List.map_cons]

/-- Texts are replaced member by member. -/
theorem mapMembers_eq_map (f : String → String) (members : List (String × Value)) :
    mapMembers f members = members.map (mapMember f) := by
  induction members with
  | nil => rfl
  | cons first rest ih => rw [mapMembers, ih, List.map_cons]; rfl

/-- Other texts leave a legible value legible. -/
theorem IsLegible.mapTexts {holds holds' : String → Prop} {takesVariables : Bool} {opened : Nat}
    {v : Value} {f : String → String} (hf : ∀ s, holds s → holds' (f s))
    (h : v.IsLegible holds takesVariables opened) :
    (v.mapTexts f).IsLegible holds' takesVariables opened := by
  induction h with
  | var hopened htakes hname => exact .var hopened htakes hname
  | int hopened hlow hhigh => exact .int hopened hlow hhigh
  | string hopened hs => exact .string hopened (hf _ hs)
  | boolean hopened => exact .boolean hopened
  | null hopened => exact .null hopened
  | enum hopened hname hword => exact .enum hopened hname hword
  | list hopened _ ih =>
    rw [Value.mapTexts, mapItems_eq_map]
    exact .list hopened (List.forall_mem_map.mpr ih)
  | object hopened hkeys _ hsorted ih =>
    rw [Value.mapTexts, mapMembers_eq_map]
    refine .object hopened (List.forall_mem_map.mpr hkeys) (List.forall_mem_map.mpr ih) ?_
    exact List.pairwise_map.mpr hsorted

end Value

/-! ### Parts of definitions -/

namespace Schema

/-- The tokens of a description. -/
def descriptionTokens : Option String → List Sdl.Token
  | none => []
  | some s => [.string s]

/-- The tokens of a group between brackets, none if it is empty. -/
def groupTokens {α : Type} (opening close : Char) (tokens : α → List Sdl.Token) :
    List α → List Sdl.Token
  | [] => []
  | first :: rest => .mark opening :: ((first :: rest).flatMap tokens ++ [.mark close])

/-- The tokens of names with a punctuation character between them. -/
def separatedTokens (separator : Char) : List String → List Sdl.Token
  | [] => []
  | first :: rest => .name first :: rest.flatMap fun s => [.mark separator, .name s]

/-- The tokens of a directive. -/
def Directive.tokens (d : Directive) : List Sdl.Token :=
  .mark '@' :: .name d.name :: groupTokens '(' ')' Value.memberTokens d.arguments

/-- The tokens of a default value. -/
def defaultTokens : Option Value → List Sdl.Token
  | none => []
  | some v => .mark '=' :: v.tokens

/-- The tokens of an argument or an input field. -/
def InputValue.tokens (v : InputValue) : List Sdl.Token :=
  descriptionTokens v.description ++ .name v.name :: .mark ':' ::
    (v.type.tokens ++ (defaultTokens v.default ++ v.directives.flatMap Directive.tokens))

/-- The tokens of a field. -/
def Field.tokens (f : Field) : List Sdl.Token :=
  descriptionTokens f.description ++ .name f.name ::
    (groupTokens '(' ')' InputValue.tokens f.arguments ++ .mark ':' ::
      (f.type.tokens ++ f.directives.flatMap Directive.tokens))

/-- The tokens of an enum value. -/
def EnumValue.tokens (v : EnumValue) : List Sdl.Token :=
  descriptionTokens v.description ++ .name v.name :: v.directives.flatMap Directive.tokens

variable (holds : String → Prop)

/-- A directive can be written down. -/
structure Directive.IsLegible (opened : Nat) (d : Directive) : Prop where
  opened_le : opened ≤ Sdl.maxOpen
  isName : Sdl.isName d.name.toList = true
  keys : ∀ a ∈ d.arguments, Sdl.isName a.1.toList = true
  values : ∀ a ∈ d.arguments, a.2.IsLegible holds true (opened + 1)

/-- An argument or an input field can be written down. -/
structure InputValue.IsLegible (opened : Nat) (v : InputValue) : Prop where
  isName : Sdl.isName v.name.toList = true
  description : ∀ s ∈ v.description, holds s
  type : v.type.IsWritable
  nests : opened + v.type.lists ≤ Sdl.maxOpen
  default : ∀ x ∈ v.default, x.IsLegible holds false opened
  directives : ∀ d ∈ v.directives, d.IsLegible holds opened

/-- A field can be written down. -/
structure Field.IsLegible (f : Field) : Prop where
  isName : Sdl.isName f.name.toList = true
  description : ∀ s ∈ f.description, holds s
  arguments : ∀ v ∈ f.arguments, v.IsLegible holds 2
  type : f.type.IsWritable
  nests : 1 + f.type.lists ≤ Sdl.maxOpen
  directives : ∀ d ∈ f.directives, d.IsLegible holds 1

/-- An enum value can be written down. -/
structure EnumValue.IsLegible (v : EnumValue) : Prop where
  isName : Sdl.isName v.name.toList = true
  description : ∀ s ∈ v.description, holds s
  directives : ∀ d ∈ v.directives, d.IsLegible holds 1

/-- The directive with `f` applied to the texts in it. -/
def Directive.mapTexts (f : String → String) (d : Directive) : Directive :=
  { d with arguments := d.arguments.map (Value.mapMember f) }

/-- The argument or input field with `f` applied to the texts in it. -/
def InputValue.mapTexts (f : String → String) (v : InputValue) : InputValue :=
  { v with
    description := v.description.map f
    default := v.default.map (Value.mapTexts f)
    directives := v.directives.map (Directive.mapTexts f) }

/-- The field with `f` applied to the texts in it. -/
def Field.mapTexts (f : String → String) (x : Field) : Field :=
  { x with
    description := x.description.map f
    arguments := x.arguments.map (InputValue.mapTexts f)
    directives := x.directives.map (Directive.mapTexts f) }

/-- The enum value with `f` applied to the texts in it. -/
def EnumValue.mapTexts (f : String → String) (v : EnumValue) : EnumValue :=
  { v with
    description := v.description.map f
    directives := v.directives.map (Directive.mapTexts f) }

section MapTexts

variable {holds} {holds' : String → Prop} {f : String → String}

/-- A condition on a value that may be absent, after the value has been replaced. -/
theorem forall_mem_option_map {α β : Type} {g : α → β} {p : β → Prop} {x : Option α}
    (h : ∀ a ∈ x, p (g a)) : ∀ b ∈ x.map g, p b := by
  cases x with
  | none => exact fun b hb => absurd hb (by simp)
  | some a =>
    intro b hb
    obtain rfl : g a = b := by simpa using hb
    exact h a rfl

/-- Other texts leave a legible directive legible. -/
theorem Directive.IsLegible.mapTexts (hf : ∀ s, holds s → holds' (f s)) {opened : Nat}
    {d : Directive} (h : d.IsLegible holds opened) : (d.mapTexts f).IsLegible holds' opened where
  opened_le := h.opened_le
  isName := h.isName
  keys := List.forall_mem_map.mpr h.keys
  values := List.forall_mem_map.mpr fun a ha => (h.values a ha).mapTexts hf

/-- Other texts leave a legible argument or input field legible. -/
theorem InputValue.IsLegible.mapTexts (hf : ∀ s, holds s → holds' (f s)) {opened : Nat}
    {v : InputValue} (h : v.IsLegible holds opened) : (v.mapTexts f).IsLegible holds' opened where
  isName := h.isName
  description := forall_mem_option_map fun s hs => hf s (h.description s hs)
  type := h.type
  nests := h.nests
  default := forall_mem_option_map fun x hx => (h.default x hx).mapTexts hf
  directives := List.forall_mem_map.mpr fun d hd => (h.directives d hd).mapTexts hf

/-- Other texts leave a legible field legible. -/
theorem Field.IsLegible.mapTexts (hf : ∀ s, holds s → holds' (f s)) {x : Field}
    (h : x.IsLegible holds) : (x.mapTexts f).IsLegible holds' where
  isName := h.isName
  description := forall_mem_option_map fun s hs => hf s (h.description s hs)
  arguments := List.forall_mem_map.mpr fun v hv => (h.arguments v hv).mapTexts hf
  type := h.type
  nests := h.nests
  directives := List.forall_mem_map.mpr fun d hd => (h.directives d hd).mapTexts hf

/-- Other texts leave a legible enum value legible. -/
theorem EnumValue.IsLegible.mapTexts (hf : ∀ s, holds s → holds' (f s)) {v : EnumValue}
    (h : v.IsLegible holds) : (v.mapTexts f).IsLegible holds' where
  isName := h.isName
  description := forall_mem_option_map fun s hs => hf s (h.description s hs)
  directives := List.forall_mem_map.mpr fun d hd => (h.directives d hd).mapTexts hf

end MapTexts

/-! ### Definitions -/

/-- The tokens of the interfaces that a type implements. -/
def interfacesTokens : List String → List Sdl.Token
  | [] => []
  | first :: rest => .name "implements" :: separatedTokens '&' (first :: rest)

/-- The tokens between the name of a type and its directives. -/
def TypeBody.beforeTokens : TypeBody → List Sdl.Token
  | .object interfaces _ | .interface interfaces _ => interfacesTokens interfaces
  | _ => []

/-- The tokens of the members of a union type. -/
def unionTokens : List String → List Sdl.Token
  | [] => []
  | first :: rest => .mark '=' :: separatedTokens '|' (first :: rest)

/-- The tokens behind the directives of a type. -/
def TypeBody.afterTokens : TypeBody → List Sdl.Token
  | .scalar => []
  | .object _ fields | .interface _ fields => groupTokens '\x7b' '\x7d' Field.tokens fields
  | .union members => unionTokens members
  | .enum values => groupTokens '\x7b' '\x7d' EnumValue.tokens values
  | .input fields => groupTokens '\x7b' '\x7d' InputValue.tokens fields

/-- The tokens of a type behind the word for its kind. -/
def TypeBody.tokens (body : TypeBody) (name : String) (directives : List Directive) :
    List Sdl.Token :=
  .name name :: (body.beforeTokens ++ (directives.flatMap Directive.tokens ++ body.afterTokens))

/-- The tokens of a root operation type. -/
def rootTokens (operation : String) : Option String → List Sdl.Token
  | none => []
  | some name => [.name operation, .mark ':', .name name]

/-- The tokens of the root operation types. -/
def Roots.tokens (r : Roots) : List Sdl.Token :=
  rootTokens "query" r.query ++ (rootTokens "mutation" r.mutation ++
    rootTokens "subscription" r.subscription)

/-- The tokens of the definition of a directive behind the word for it. -/
def DirectiveDefinition.tokens (d : DirectiveDefinition) : List Sdl.Token :=
  .mark '@' :: .name d.name :: (groupTokens '(' ')' InputValue.tokens d.arguments ++
    ((if d.repeatable then [.name "repeatable"] else []) ++
      .name "on" :: separatedTokens '|' (d.locations.map Location.name)))

/-- The tokens of a definition. -/
def Definition.tokens : Definition → List Sdl.Token
  | .schema directives roots =>
    .name "schema" :: (directives.flatMap Directive.tokens ++
      .mark '\x7b' :: (roots.tokens ++ [.mark '\x7d']))
  | .type d => descriptionTokens d.description ++
      .name d.body.keyword :: d.body.tokens d.name d.directives
  | .extension e => .name "extend" :: .name e.body.keyword :: e.body.tokens e.name e.directives
  | .directive d => descriptionTokens d.description ++ .name "directive" :: d.tokens

/-- What is said about a type can be written down. -/
def TypeBody.IsLegible (holds : String → Prop) : TypeBody → Prop
  | .scalar => True
  | .object interfaces fields | .interface interfaces fields =>
    (∀ s ∈ interfaces, Sdl.isName s.toList = true) ∧ ∀ f ∈ fields, f.IsLegible holds
  | .union members => ∀ s ∈ members, Sdl.isName s.toList = true
  | .enum values => ∀ v ∈ values, v.IsLegible holds
  | .input fields => ∀ v ∈ fields, v.IsLegible holds 1

variable (holds : String → Prop)

/-- A type can be written down. -/
structure TypeDefinition.IsLegible (t : TypeDefinition) : Prop where
  isName : Sdl.isName t.name.toList = true
  description : ∀ s ∈ t.description, holds s
  directives : ∀ d ∈ t.directives, d.IsLegible holds 0
  body : t.body.IsLegible holds

/-- An extension can be written down. One that says nothing is no extension. -/
structure TypeExtension.IsLegible (e : TypeExtension) : Prop where
  isName : Sdl.isName e.name.toList = true
  directives : ∀ d ∈ e.directives, d.IsLegible holds 0
  body : e.body.IsLegible holds
  saysSomething : Sdl.saysNothing e.directives e.body = false

/-- The definition of a directive can be written down, apart from the places where the directive may
stand. -/
structure DirectiveDefinition.IsLegible (d : DirectiveDefinition) : Prop where
  isName : Sdl.isName d.name.toList = true
  description : ∀ s ∈ d.description, holds s
  arguments : ∀ v ∈ d.arguments, v.IsLegible holds 1

/-- The names of the root operation types can be written down. -/
structure Roots.IsLegible (r : Roots) : Prop where
  query : ∀ s ∈ r.query, Sdl.isName s.toList = true
  mutation : ∀ s ∈ r.mutation, Sdl.isName s.toList = true
  subscription : ∀ s ∈ r.subscription, Sdl.isName s.toList = true

/-- A definition can be written down, apart from the places where a directive may stand. -/
def Definition.IsLegible : Definition → Prop
  | .schema directives roots => (∀ d ∈ directives, d.IsLegible holds 0) ∧ roots.IsLegible
  | .type d => d.IsLegible holds
  | .extension e => e.IsLegible holds
  | .directive d => d.IsLegible holds

/-- If a directive is defined, some place is named where it may stand. -/
def Definition.NamesPlaces : Definition → Prop
  | .directive d => d.locations ≠ []
  | _ => True

/-- What is said about a type with `f` applied to the texts in it. -/
def TypeBody.mapTexts (f : String → String) : TypeBody → TypeBody
  | .scalar => .scalar
  | .object interfaces fields => .object interfaces (fields.map (Field.mapTexts f))
  | .interface interfaces fields => .interface interfaces (fields.map (Field.mapTexts f))
  | .union members => .union members
  | .enum values => .enum (values.map (EnumValue.mapTexts f))
  | .input fields => .input (fields.map (InputValue.mapTexts f))

/-- The definition with `f` applied to the texts outside of its braces, and `g` to those between
them. -/
def Definition.mapTexts (f g : String → String) : Definition → Definition
  | .schema directives roots => .schema (directives.map (Directive.mapTexts f)) roots
  | .type d => .type { d with
      description := d.description.map f
      directives := d.directives.map (Directive.mapTexts f)
      body := d.body.mapTexts g }
  | .extension e => .extension { e with
      directives := e.directives.map (Directive.mapTexts f)
      body := e.body.mapTexts g }
  | .directive d => .directive { d with
      description := d.description.map f
      arguments := d.arguments.map (InputValue.mapTexts f) }

/-- The document with `f` applied to the texts outside of the braces of its definitions, and `g` to
those between them. -/
def Document.mapTexts (f g : String → String) (d : Document) : Document :=
  ⟨d.definitions.map (Definition.mapTexts f g)⟩

section MapTexts

variable {holds} {holds' : String → Prop} {f g : String → String}

/-- Other texts leave what is legible about a type legible. -/
theorem TypeBody.IsLegible.mapTexts (hg : ∀ s, holds s → holds' (g s)) {body : TypeBody}
    (h : body.IsLegible holds) : (body.mapTexts g).IsLegible holds' := by
  cases body with
  | scalar => trivial
  | object interfaces fields | interface interfaces fields =>
    exact ⟨h.1, List.forall_mem_map.mpr fun f hf => (h.2 f hf).mapTexts hg⟩
  | union members => exact h
  | enum values => exact List.forall_mem_map.mpr fun v hv => (h v hv).mapTexts hg
  | input fields => exact List.forall_mem_map.mpr fun v hv => (h v hv).mapTexts hg

/-- An extension that says something does so with other texts. -/
theorem saysNothing_mapTexts (directives : List Directive) (body : TypeBody) :
    Sdl.saysNothing (directives.map (Directive.mapTexts f)) (body.mapTexts g) =
      Sdl.saysNothing directives body := by
  cases body <;> simp [TypeBody.mapTexts, Sdl.saysNothing]

/-- Other texts leave a legible definition legible.

**Proof sketch.** By cases on the kind of the definition, part by part. Names and roots hold no texts
that are changed, and an extension says something exactly if it did before. -/
theorem Definition.IsLegible.mapTexts (hf : ∀ s, holds s → holds' (f s))
    (hg : ∀ s, holds s → holds' (g s)) {d : Definition} (h : d.IsLegible holds) :
    (d.mapTexts f g).IsLegible holds' := by
  have hdirectives {opened : Nat} {directives : List Directive}
      (h : ∀ d ∈ directives, d.IsLegible holds opened) :
      ∀ d ∈ directives.map (Directive.mapTexts f), d.IsLegible holds' opened :=
    List.forall_mem_map.mpr fun d hd => (h d hd).mapTexts hf
  cases d with
  | schema directives roots => exact ⟨hdirectives h.1, h.2⟩
  | type t =>
    exact {
      isName := h.isName
      description := forall_mem_option_map fun s hs => hf s (h.description s hs)
      directives := hdirectives h.directives
      body := h.body.mapTexts hg }
  | extension e =>
    exact {
      isName := h.isName
      directives := hdirectives h.directives
      body := h.body.mapTexts hg
      saysSomething := (saysNothing_mapTexts _ _).trans h.saysSomething }
  | directive d =>
    exact {
      isName := h.isName
      description := forall_mem_option_map fun s hs => hf s (h.description s hs)
      arguments := List.forall_mem_map.mpr fun v hv => (h.arguments v hv).mapTexts hf }

/-- Other texts leave the places where a directive may stand. -/
theorem Definition.NamesPlaces.mapTexts {d : Definition} (h : d.NamesPlaces) :
    (d.mapTexts f g).NamesPlaces := by
  cases d with
  | directive d => exact h
  | _ => trivial

end MapTexts

end Schema

end SchemaQueries
