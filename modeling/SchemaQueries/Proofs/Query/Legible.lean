import SchemaQueries.Proofs.Derivation.FieldNames
import SchemaQueries.Proofs.Derivation.Operations
import SchemaQueries.Proofs.Derivation.Walks
import SchemaQueries.Proofs.Sdl.Legible

/-!
# Derived queries can be written down

Where the object types of a schema and their fields have names of GraphQL, so does everything in the
queries that are derived from it. A derived query is also flat: no field of it stands deeper than
two levels below the last object type that a selection passes through.

## Main definitions

* `Schema.Document.HasNames` — the object types of a schema and their fields have names.
* `Query.Field.IsLegible`, `Query.Operation.IsLegible` — a query can be written down, with no field
  below a level.

## Main results

* `Naming.isName_queryFieldName`, `Naming.isName_pluralize` — the root field of a type with a name
  has a name.
* `derive_isLegible` — derived queries can be written down.
-/

set_option autoImplicit false
set_option relaxedAutoImplicit false

namespace SchemaQueries

/-! ### Names -/

namespace Sdl

/-- A name starts with a letter or an underscore and goes on with characters of a name. -/
theorem isName_cons_iff {c : Char} {rest : List Char} :
    isName (c :: rest) = true ↔ isNameStart c = true ∧ ∀ x ∈ rest, isNameRest x = true := by
  simp [isName]

/-- A name can go on with each of its characters. -/
theorem isNameRest_of_mem {cs : List Char} (h : isName cs = true) :
    ∀ c ∈ cs, isNameRest c = true := by
  cases cs with
  | nil => exact fun c hc => absurd hc List.not_mem_nil
  | cons c rest =>
    obtain ⟨hc, hrest⟩ := isName_cons_iff.mp h
    exact List.forall_mem_cons.mpr ⟨by simp [isNameRest, hc], hrest⟩

/-- All characters of a name are those with which a name can go on. -/
theorem all_isNameRest {s : String} (h : isName s.toList = true) :
    s.toList.all isNameRest = true :=
  List.all_eq_true.mpr (isNameRest_of_mem h)

/-- A name that goes on is a name. -/
theorem isName_append {cs ds : List Char} (h : isName cs = true)
    (hds : ∀ c ∈ ds, isNameRest c = true) : isName (cs ++ ds) = true := by
  cases cs with
  | nil => exact absurd h (by decide)
  | cons c rest =>
    obtain ⟨hc, hrest⟩ := isName_cons_iff.mp h
    exact isName_cons_iff.mpr ⟨hc, List.forall_mem_append.mpr ⟨hrest, hds⟩⟩

/-- A string that is a name is one with more characters of names behind it. -/
theorem isName_string_append {s t : String} (h : isName s.toList = true)
    (ht : t.toList.all isNameRest = true) : isName (s ++ t).toList = true := by
  rw [String.toList_append]
  exact isName_append h (List.all_eq_true.mp ht)

/-- The characters of names are ASCII characters. -/
theorem toNat_lt_of_isNameRest {c : Char} (h : isNameRest c = true) : c.toNat < 0x80 := by
  have hbound {last : Char} (hc : c.val ≤ last.val) (hlast : last.toNat < 0x80) : c.toNat < 0x80 :=
    Nat.lt_of_le_of_lt (UInt32.le_iff_toNat_le.mp hc) hlast
  rcases (Bool.or_eq_true _ _).mp h with hstart | hdigit
  · rcases (Bool.or_eq_true _ _).mp hstart with hunderscore | halpha
    · obtain rfl : c = '_' := beq_iff_eq.mp hunderscore
      decide
    · rcases (Bool.or_eq_true _ _).mp halpha with hupper | hlower
      · exact hbound (of_decide_eq_true hupper).2 (show ('Z' : Char).toNat < 0x80 by decide)
      · have hlast := ((Bool.and_eq_true _ _).mp hlower).2
        exact hbound (of_decide_eq_true hlast) (show ('z' : Char).toNat < 0x80 by decide)
  · have hlast := ((Bool.and_eq_true _ _).mp hdigit).2
    exact hbound (of_decide_eq_true hlast) (show ('9' : Char).toNat < 0x80 by decide)

/-- A small letter stands in a name wherever its capital does. -/
theorem isName_toLower {c : Char} (h : c.toNat < 0x80) :
    isNameStart c.toLower = isNameStart c ∧ isNameRest c.toLower = isNameRest c := by
  have hall : ∀ n < 0x80, isNameStart (Char.ofNat n).toLower = isNameStart (Char.ofNat n) ∧
      isNameRest (Char.ofNat n).toLower = isNameRest (Char.ofNat n) := by decide +kernel
  rw [← Char.ofNat_toNat c]
  exact hall c.toNat h

/-- A name with some of the capitals at its start in lower case is a name. -/
theorem isName_map_toLower_append {start rest : List Char} (h : isName (start ++ rest) = true) :
    isName (start.map Char.toLower ++ rest) = true := by
  have hlower {c : Char} (hc : isNameRest c = true) := isName_toLower (toNat_lt_of_isNameRest hc)
  cases start with
  | nil => exact h
  | cons c start =>
    have hc := isNameRest_of_mem h c (by simp)
    obtain ⟨hstart, hall⟩ := isName_cons_iff.mp h
    obtain ⟨hmiddle, hrest⟩ := List.forall_mem_append.mp hall
    refine isName_cons_iff.mpr ⟨(hlower hc).1.trans hstart, List.forall_mem_append.mpr ⟨?_, hrest⟩⟩
    exact List.forall_mem_map.mpr fun x hx => (hlower (hmiddle x hx)).2.trans (hmiddle x hx)

end Sdl

namespace Naming

/-- The root field of a type with a name has the one name that comes from the name of the type. -/
theorem queryFieldName_eq_iff_of_isName {typeName fieldName : String}
    (h : Sdl.isName typeName.toList = true) :
    queryFieldName typeName = fieldName ↔ LowersStart typeName.toList fieldName.toList := by
  refine queryFieldName_eq_iff fun c hc => ?_
  exact Sdl.toNat_lt_of_isNameRest (Sdl.isNameRest_of_mem h c hc)

/-- The root field of a type with a name has a name that comes from the name of the type. -/
theorem lowersStart_queryFieldName {typeName : String} (h : Sdl.isName typeName.toList = true) :
    LowersStart typeName.toList (queryFieldName typeName).toList :=
  (queryFieldName_eq_iff_of_isName h).mp rfl

/-- A name with its start in small letters is a name. -/
theorem LowersStart.isName {name lowered : List Char} (h : LowersStart name lowered)
    (hname : Sdl.isName name = true) : Sdl.isName lowered = true := by
  cases h with
  | acronym => exact hname
  | word => exact Sdl.isName_map_toLower_append hname

/-- The root field of a type with a name has a name. -/
theorem isName_queryFieldName {typeName : String} (h : Sdl.isName typeName.toList = true) :
    Sdl.isName (queryFieldName typeName).toList = true :=
  (lowersStart_queryFieldName h).isName h

/-- The plural of a name is a name. -/
theorem isName_pluralize {fieldName : String} (h : Sdl.isName fieldName.toList = true) :
    Sdl.isName (pluralize fieldName).toList = true := by
  unfold pluralize
  split_ifs
  · exact Sdl.isName_string_append h (by decide)
  · exact Sdl.isName_string_append h (by decide)

end Naming

/-! ### What can be written down -/

/-- The object types and their fields have names of GraphQL. -/
def Schema.Document.HasNames (d : Schema.Document) : Prop :=
  ∀ o ∈ d.objects, Sdl.isName o.name.toList = true ∧
    ∀ f ∈ o.fields, Sdl.isName f.name.toList = true

instance (d : Schema.Document) : Decidable d.HasNames :=
  inferInstanceAs (Decidable (∀ o ∈ d.objects, Sdl.isName o.name.toList = true ∧
    ∀ f ∈ o.fields, Sdl.isName f.name.toList = true))

/-- The value is an integer of 64 bits or, where one may stand, a variable with a name. Derived
queries hold no other values. -/
def Value.IsSimple (takesVariables : Bool) : Value → Prop
  | .variable name => takesVariables = true ∧ Sdl.isName name.toList = true
  | .int n => -9223372036854775808 ≤ n ∧ n < 9223372036854775808
  | _ => False

/-- A simple value can be written down, whatever texts can. -/
theorem Value.IsSimple.isLegible {takesVariables : Bool} {v : Value} (h : v.IsSimple takesVariables)
    (holds : String → Prop) {opened : Nat} (hopened : opened ≤ Sdl.maxOpen) :
    v.IsLegible holds takesVariables opened := by
  cases v with
  | «variable» name => exact .var hopened h.1 h.2
  | int n => exact .int hopened h.1 h.2
  | _ => exact h.elim

/-- No text stands in a simple value. -/
theorem Value.IsSimple.mapTexts_eq {takesVariables : Bool} {v : Value}
    (h : v.IsSimple takesVariables) (f : String → String) : v.mapTexts f = v := by
  cases v with
  | string s => exact h.elim
  | list items => exact h.elim
  | object members => exact h.elim
  | _ => rfl

namespace Query

/-- The field can be written down at a level, with no field at a level below `deepest`. -/
inductive Field.IsLegible (deepest : Nat) : Nat → Field → Prop
  | mk {level : Nat} {name : String} {arguments : List (String × Value)} {selection : List Field}
    (hlevel : level ≤ deepest) (hname : Sdl.isName name.toList = true)
    (hkeys : ∀ a ∈ arguments, Sdl.isName a.1.toList = true)
    (hvalues : ∀ a ∈ arguments, a.2.IsSimple true)
    (hselection : ∀ f ∈ selection, IsLegible deepest (level + 1) f) :
    IsLegible deepest level (.mk name arguments selection)

/-- The definition of a variable can be written down. The type has no lists. -/
structure Variable.IsLegible (v : Variable) : Prop where
  isName : Sdl.isName v.name.toList = true
  type : v.type.IsWritable
  lists : v.type.lists = 0
  default : ∀ x ∈ v.default, x.IsSimple false

/-- The query can be written down, with no field at a level below `deepest`. It selects something,
because a block is never empty. -/
structure Operation.IsLegible (deepest : Nat) (o : Operation) : Prop where
  isName : Sdl.isName o.name.toList = true
  parameters : ∀ v ∈ o.parameters, v.IsLegible
  selects : o.selection ≠ []
  selection : ∀ f ∈ o.selection, f.IsLegible deepest 1

/-! ### Derived queries -/

/-- A variable of a named type can be written down. -/
theorem Variable.IsLegible.make {name typeName : String} (hname : Sdl.isName name.toList = true)
    (htype : Sdl.isName typeName.toList = true) (nonNull : Bool) {default : Option Default}
    (hdefault : ∀ x ∈ default.bind (Default.forType typeName), x.IsSimple false) :
    (Variable.make name typeName nonNull default).IsLegible where
  isName := hname
  type := by
    cases nonNull with
    | false => exact htype
    | true => exact ⟨htype, fun r => by simp⟩
  lists := by cases nonNull <;> rfl
  default := hdefault

/-- Arguments that are bound to the variables of their names can be written down. -/
theorem isSimple_boundArgument {name : String} (h : Sdl.isName name.toList = true) :
    Sdl.isName (boundArgument name).1.toList = true ∧ (boundArgument name).2.IsSimple true :=
  ⟨h, rfl, h⟩

/-- A field whose arguments are bound to the variables of their names can be written down. -/
theorem Field.isLegible_bound {deepest level : Nat} {name : String} {selection : List Field}
    (hlevel : level ≤ deepest) (hname : Sdl.isName name.toList = true) (arguments : List String)
    (harguments : ∀ s ∈ arguments, Sdl.isName s.toList = true)
    (hselection : ∀ f ∈ selection, f.IsLegible deepest (level + 1)) :
    (Field.mk name (arguments.map boundArgument) selection).IsLegible deepest level := by
  refine .mk hlevel hname ?_ ?_ hselection
  · exact List.forall_mem_map.mpr fun s hs => (isSimple_boundArgument (harguments s hs)).1
  · exact List.forall_mem_map.mpr fun s hs => (isSimple_boundArgument (harguments s hs)).2

end Query

/-- What is selected can be written down. Each object type on the way takes one level, the bare
fields of the last one take another. -/
theorem Selection.isLegible_within {object? : String → Option Schema.ObjectType} {deepest : Nat}
    (hobjects : ∀ s o, object? s = some o → ∀ f ∈ o.fields, Sdl.isName f.name.toList = true)
    {hops level : Nat} {fields : List Schema.Field}
    (hfields : ∀ f ∈ fields, Sdl.isName f.name.toList = true) (hlevel : level + hops ≤ deepest) :
    ∀ f ∈ within object? hops fields, f.IsLegible deepest level := by
  have hplain {name : String} {selection : List Query.Field} {level : Nat} (hle : level ≤ deepest)
      (hname : Sdl.isName name.toList = true)
      (hselection : ∀ f ∈ selection, f.IsLegible deepest (level + 1)) :
      (Query.Field.plain name selection).IsLegible deepest level :=
    .mk hle hname (by simp) (by simp) hselection
  induction hops generalizing level fields with
  | zero => exact List.forall_mem_map.mpr fun f hf => hplain hlevel (hfields f hf) (by simp)
  | succ hops ih =>
    refine List.forall_mem_map.mpr fun f hf => ?_
    have hle : level ≤ deepest := by omega
    cases hobject : object? f.type.baseName with
    | none => exact hplain hle (hfields f hf) (by simp)
    | some o => exact hplain hle (hfields f hf) (ih (hobjects _ o hobject) (by omega))

section Derived

variable {d : Schema.Document} {e : Entity}

/-- Below a root field everything can be written down. -/
theorem isLegible_expand (hd : d.HasNames) {fields : List Schema.Field}
    (hfields : ∀ f ∈ fields, Sdl.isName f.name.toList = true) :
    ∀ f ∈ Selection.expand d fields 0, f.IsLegible (Selection.maxDepth + 2) 2 := by
  refine Selection.isLegible_within (fun s o ho => ?_) hfields (by decide)
  exact (hd o (Schema.Document.object?_eq_some_iff.mp ho).1.mem).2

/-- The query of an entity by its identifier can be written down. -/
theorem isLegible_getOne (hd : d.HasNames) (hname : Sdl.isName e.name.toList = true)
    (hfields : ∀ f ∈ e.object.fields, Sdl.isName f.name.toList = true) :
    (e.getOne d).IsLegible (Selection.maxDepth + 2) where
  isName := Sdl.isName_string_append (by decide) (Sdl.all_isNameRest hname)
  parameters := List.forall_mem_singleton.mpr
    (Query.Variable.IsLegible.make (by decide) (by decide) true (by simp))
  selects := List.cons_ne_nil _ _
  selection := List.forall_mem_singleton.mpr (Query.Field.isLegible_bound (by decide)
    (Naming.isName_queryFieldName hname) ["id"] (by decide)
    (isLegible_expand hd hfields))

/-- The query of a list of entities can be written down.

**Proof sketch.** Each name that the query is put together from is a name, since the names of the entity
and of its fields are. Of the default values only the number zero is kept: the text for the direction is
not one of a variable of type `String`, and so it is left out. -/
theorem isLegible_getMany (hd : d.HasNames) (hname : Sdl.isName e.name.toList = true)
    (hfilter : e.filter.name = Naming.filterTypeName e.object.name)
    (hfields : ∀ f ∈ e.object.fields, Sdl.isName f.name.toList = true) :
    (e.getMany d).IsLegible (Selection.maxDepth + 2) where
  isName := Sdl.isName_string_append
    (Sdl.isName_string_append (by decide) (Sdl.all_isNameRest hname)) (by decide)
  parameters := by
    have hwhere : Sdl.isName e.filter.name.toList = true := by
      rw [hfilter]
      exact Sdl.isName_string_append hname (by decide)
    have horder : Sdl.isName (e.name ++ "_orderBy").toList = true :=
      Sdl.isName_string_append hname (by decide)
    have hzero : ∀ x ∈ (some (Query.Default.int 0)).bind (Query.Default.forType "Int"),
        x.IsSimple false :=
      fun x hx => Option.some.inj hx ▸ ⟨by decide, by decide⟩
    have hasc : ∀ x ∈ (some (Query.Default.string "asc")).bind
        (Query.Default.forType "OrderDirection"), x.IsSimple false := by
      simp [Query.Default.forType]
    simp only [Entity.getMany, Entity.listVariables, List.forall_mem_cons]
    exact ⟨.make (by decide) (by decide) true hzero,
      .make (by decide) (by decide) false hzero,
      .make (by decide) horder false (by simp),
      .make (by decide) (by decide) false hasc,
      .make (by decide) hwhere false (by simp), by simp⟩
  selects := List.cons_ne_nil _ _
  selection := List.forall_mem_singleton.mpr (Query.Field.isLegible_bound (by decide)
    (Naming.isName_pluralize (Naming.isName_queryFieldName hname))
    ["first", "skip", "orderBy", "orderDirection", "where"] (by decide)
    (isLegible_expand hd hfields))

/-- Derived queries can be written down, with no field deeper than two levels below the last object
type that a selection passes through. -/
theorem derive_isLegible {q : Query.Document} (hd : d.HasNames) (h : derive d = .ok q) :
    ∀ o ∈ q.operations, o.IsLegible (Selection.maxDepth + 2) := by
  obtain ⟨es, hes, rfl⟩ := derive_eq_ok_iff.mp h
  intro o ho
  obtain ⟨e, he, ho⟩ := List.mem_flatMap.mp ho
  obtain ⟨object, hobject, hentity⟩ := Steps.exists_of_mem_of_mapM_eq_ok hes he
  obtain ⟨rfl, hfilter⟩ := Schema.Document.entity_eq_ok_iff.mp hentity
  obtain ⟨hname, hfields⟩ := hd _ (List.mem_filter.mp hobject).1
  have hfiltername := Schema.Document.name_of_input?_eq_some hfilter
  rcases List.mem_pair.mp ho with rfl | rfl
  · exact isLegible_getOne hd hname hfields
  · exact isLegible_getMany hd hname hfiltername hfields

end Derived

/-! ### A type that leads to itself -/

/-- Links, each of which leads to the next one. -/
def linkChain : Schema.Document where
  definitions :=
    [.type ⟨none, "Link", [], .object [] [⟨none, "next", [], .nonNull (.named "Link"), []⟩]⟩,
      .type ⟨none, "Link_filter", [], .input [⟨none, "id", .named "ID", none, []⟩]⟩]

/-- The names of the document are names of GraphQL. -/
theorem hasNames_linkChain : linkChain.HasNames := by
  decide

/-- Queries are derived from the document. -/
theorem exists_derive_linkChain : ∃ q, derive linkChain = .ok q ∧ q.operations ≠ [] :=
  ⟨_, rfl, List.cons_ne_nil _ _⟩

end SchemaQueries
