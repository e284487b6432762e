import SchemaQueries.Proofs.Derivation.Operations
import SchemaQueries.Proofs.Derivation.Walks

/-!
# What the derived queries depend on

The derived queries do not depend on all of a schema. Of an object type they depend on its name and
on the names and base types of its fields; of an input object type they depend on the name alone.
Two schemas that agree in this outline lead to the same queries, or fail for the same entity.

## Main definitions

* `Schema.ObjectType.outline` — the part of an object type that matters.
* `Schema.ObjectType.view` — the part of it that matters to the entities that lead to it.
* `Schema.Fielded` — an object or input object type with the types of its fields.

## Main results

* `Selection.within_congr` — a selection depends on the views of the object types that it looks up.
* `derive_congr` — so do the derived queries.
* `Schema.Document.sameOutline_of_fielded_eq` — object and input object types are all that matters.
-/

set_option autoImplicit false
set_option relaxedAutoImplicit false

namespace SchemaQueries

namespace Schema

/-- The part of a field that a selection depends on. -/
def Field.outline (f : Field) : String × String :=
  (f.name, f.type.baseName)

/-- The part of an object type that a selection depends on: the names of its fields, and the names
inside their types. -/
def ObjectType.view (o : ObjectType) : List (String × String) :=
  o.fields.map Field.outline

/-- The part of an object type that derived queries depend on. -/
def ObjectType.outline (o : ObjectType) : String × List (String × String) :=
  (o.name, o.view)

/-- Object types of the same outline have the same name. -/
theorem ObjectType.name_eq_of_outline {o p : ObjectType} (h : o.outline = p.outline) :
    o.name = p.name :=
  congrArg Prod.fst h

/-- Object types of the same outline have the same view. -/
theorem ObjectType.view_eq_of_outline {o p : ObjectType} (h : o.outline = p.outline) :
    o.view = p.view :=
  congrArg Prod.snd h

/-- What is found under a name has the same outline in object types of the same outlines. -/
theorem ObjectType.map_outline_named? {os ps : List ObjectType}
    (h : os.map ObjectType.outline = ps.map ObjectType.outline) (name : String) :
    (named? os name).map ObjectType.outline = (named? ps name).map ObjectType.outline := by
  have hfind (xs : List ObjectType) : (named? xs name).map ObjectType.outline =
      (xs.map ObjectType.outline).find? (·.1 == name) := by
    rw [List.find?_map]
    rfl
  rw [hfind, hfind, h]

/-- So it has the same view. -/
theorem ObjectType.map_view_named? {os ps : List ObjectType}
    (h : os.map ObjectType.outline = ps.map ObjectType.outline) (name : String) :
    (named? os name).map ObjectType.view = (named? ps name).map ObjectType.view := by
  have hview (x : Option ObjectType) : x.map view = (x.map outline).map Prod.snd := by
    rw [Option.map_map]
    rfl
  rw [hview, hview, map_outline_named? h]

end Schema

/-- Lists of the same outlines have the same images under functions of the outline. -/
theorem map_congr_of_map_eq {α β γ : Type} {outline : α → β} {f g : α → γ} {xs ys : List α}
    (h : xs.map outline = ys.map outline) (hfg : ∀ x ∈ xs, ∀ y, outline x = outline y → f x = g y) :
    xs.map f = ys.map g := by
  induction xs generalizing ys with
  | nil =>
    obtain rfl := List.map_eq_nil_iff.mp h.symm
    rfl
  | cons x xs ih =>
    obtain ⟨y, ys, rfl, hxy, hrest⟩ := List.map_eq_cons_iff.mp h.symm
    obtain ⟨hx, hxs⟩ := List.forall_mem_cons.mp hfg
    rw [List.map_cons, List.map_cons, hx y hxy.symm, ih hrest.symm hxs]

/-! ### Selections -/

variable {d d' : Schema.Document}

/-- What is selected of fields depends on their outlines, and on the views of the object types that are
looked up on the way: under the names inside the types of fields that are reached in fewer hops than
there are to pass. What a name leads to behind the last hop makes no difference.

**Proof sketch.** Induction on the hops. The names inside the types of the fields themselves are reached
without a hop, and those below a field are reached with one hop less from its object type. -/
theorem Selection.within_congr {hops : Nat} {fields fields' : List Schema.Field}
    (h : fields.map Schema.Field.outline = fields'.map Schema.Field.outline)
    (hobject : ∀ passed < hops, ∀ name, d.Reaches fields passed name →
      (d.object? name).map Schema.ObjectType.view = (d'.object? name).map Schema.ObjectType.view) :
    within d.object? hops fields = within d'.object? hops fields' := by
  induction hops generalizing fields fields' with
  | zero =>
    refine map_congr_of_map_eq h fun f _ f' hf => ?_
    rw [show f.name = f'.name from congrArg Prod.fst hf]
  | succ hops ih =>
    refine map_congr_of_map_eq h fun f hmem f' hf => ?_
    have hname : f.name = f'.name := congrArg Prod.fst hf
    have hbase : f.type.baseName = f'.type.baseName := congrArg Prod.snd hf
    have htarget := hobject 0 hops.succ_pos _ (.of_mem hmem 0)
    rw [hname, ← hbase]
    cases ho : d.object? f.type.baseName with
    | none =>
      rw [ho, Option.map_none, eq_comm, Option.map_eq_none_iff] at htarget
      rw [htarget]
    | some o =>
      rw [ho, Option.map_some, eq_comm, Option.map_eq_some_iff] at htarget
      obtain ⟨o', ho', hview⟩ := htarget
      have hbelow : within d.object? hops o.fields = within d'.object? hops o'.fields :=
        ih hview.symm fun passed hpassed name hreach =>
          hobject (passed + 1) (Nat.succ_lt_succ hpassed) name (.step hmem ho hreach)
      rw [ho']
      exact congrArg (Query.Field.plain f'.name) hbelow

/-! ### Queries -/

/-- Two documents agree in the outlines of their object types and in the names of their input object
types. -/
structure Schema.Document.SameOutline (d d' : Schema.Document) : Prop where
  objects : d.objects.map ObjectType.outline = d'.objects.map ObjectType.outline
  inputs : d.inputs.map InputType.name = d'.inputs.map InputType.name

namespace Schema.Document.SameOutline

/-- The filter of a name is found in both documents or in none. -/
theorem map_name_input? (h : d.SameOutline d') (name : String) :
    (d.input? name).map InputType.name = (d'.input? name).map InputType.name := by
  have hfind (x : Document) : (x.input? name).map InputType.name =
      (x.inputs.map InputType.name).find? (· == name) := by
    rw [List.find?_map]
    rfl
  rw [hfind, hfind, h.inputs]

/-- Object types of the same outline have the same operations, or lack the same filter.

**Proof sketch.** The two object types have one name, so both documents are asked for the same filter,
and what they find has one name as well. The selections are the same because those of the fields and of
every type they lead to are (`Selection.within_congr`), and the operations are made of nothing else. -/
theorem map_operations_entity (h : d.SameOutline d') {o o' : ObjectType}
    (ho : o.outline = o'.outline) :
    (d.entity o).map (Entity.operations d) = (d'.entity o').map (Entity.operations d') := by
  have hname := ObjectType.name_eq_of_outline ho
  have hfilter := h.map_name_input? (Naming.filterTypeName o'.name)
  have hselection : Selection.expand d o.fields 0 = Selection.expand d' o'.fields 0 :=
    Selection.within_congr (ObjectType.view_eq_of_outline ho) fun _ _ name _ =>
      ObjectType.map_view_named? h.objects name
  unfold Document.entity
  rw [hname]
  cases hi : d.input? (Naming.filterTypeName o'.name) with
  | none =>
    rw [hi, Option.map_none, eq_comm, Option.map_eq_none_iff] at hfilter
    rw [hfilter]
    rfl
  | some i =>
    rw [hi, Option.map_some, eq_comm, Option.map_eq_some_iff] at hfilter
    obtain ⟨i', hi', hsame⟩ := hfilter
    rw [hi']
    refine congrArg Except.ok ?_
    simp only [Entity.operations, Entity.getOne, Entity.getMany, Entity.listVariables, Entity.name,
      hname, hselection, hsame]

end Schema.Document.SameOutline

/-- Steps that agree on items of the same outline agree on lists of the same outlines. -/
theorem mapM_congr_of_map_eq {α β γ ε : Type} {outline : α → β} {step step' : α → Except ε γ}
    {xs ys : List α} (h : xs.map outline = ys.map outline)
    (hstep : ∀ x y, outline x = outline y → step x = step' y) : xs.mapM step = ys.mapM step' := by
  induction xs generalizing ys with
  | nil =>
    obtain rfl := List.map_eq_nil_iff.mp h.symm
    rfl
  | cons x xs ih =>
    obtain ⟨y, ys, rfl, hxy, hrest⟩ := List.map_eq_cons_iff.mp h.symm
    rw [List.mapM_cons, List.mapM_cons, hstep x y hxy.symm, ih hrest.symm]

/-- Derived queries are those of one entity after the other. -/
theorem derive_eq_map_mapM (d : Schema.Document) :
    derive d = (d.entityTypes.mapM fun o => (d.entity o).map (Entity.operations d)).map
      fun operations => ⟨operations.flatten⟩ := by
  rw [derive, Schema.Document.entities_eq, ← Steps.map_mapM]
  cases d.entityTypes.mapM d.entity with
  | error e => rfl
  | ok entities => simp only [Except.map, List.flatMap_def]

/-- **What the derived queries depend on.** Two documents that agree in the outlines of their object
types and in the names of their input object types lead to the same queries, or fail for the same
entity. -/
theorem derive_congr (h : d.SameOutline d') : derive d = derive d' := by
  have hentities (x : Schema.Document) : x.entityTypes.map Schema.ObjectType.outline =
      (x.objects.map Schema.ObjectType.outline).filter fun o => isEntityName o.1 := by
    rw [List.filter_map]
    refine congrArg (List.map _) (List.filter_congr fun o _ => ?_)
    rw [Function.comp_apply, Bool.eq_iff_iff, decide_eq_true_iff, ← isEntityName_iff]
    rfl
  have htypes : d.entityTypes.map Schema.ObjectType.outline =
      d'.entityTypes.map Schema.ObjectType.outline := by
    rw [hentities, hentities, h.objects]
  rw [derive_eq_map_mapM, derive_eq_map_mapM,
    mapM_congr_of_map_eq htypes fun o o' ho => h.map_operations_entity ho]

/-! ### Types with fields -/

namespace Schema

/-- An object type or an input object type: its name, and the names and types of its fields. -/
inductive Fielded where
  | object (name : String) (fields : List (String × TypeRef))
  | input (name : String) (fields : List (String × TypeRef))
  deriving DecidableEq

namespace Fielded

/-- The name of a type with fields. -/
def name : Fielded → String
  | object name _ | input name _ => name

/-- The outline of an object type. -/
def outline? : Fielded → Option (String × List (String × String))
  | object name fields => some (name, fields.map fun f => (f.1, f.2.baseName))
  | input .. => none

/-- The name of an input object type. -/
def inputName? : Fielded → Option String
  | object .. => none
  | input name _ => some name

end Fielded

/-- A definition of an object type or an input object type as a type with fields. -/
def TypeDefinition.fielded? (t : TypeDefinition) : Option Fielded :=
  match t.body with
  | .object _ fields => some (.object t.name (fields.map fun f => (f.name, f.type)))
  | .input fields => some (.input t.name (fields.map fun v => (v.name, v.type)))
  | _ => none

/-- The type with fields that a definition defines. An extension defines none. -/
def Definition.fielded? : Definition → Option Fielded
  | .type t => t.fielded?
  | _ => none

/-- The object types and the input object types of a document, in order. -/
def Document.fielded (d : Document) : List Fielded :=
  d.definitions.filterMap Definition.fielded?

/-- The outlines of the object types of a document are those of its types with fields. -/
theorem Document.map_outline_objects (d : Document) :
    d.objects.map ObjectType.outline = d.fielded.filterMap Fielded.outline? := by
  rw [objects, fielded, List.map_filterMap, List.filterMap_filterMap]
  refine List.filterMap_congr fun x _ => ?_
  cases x with
  | type t =>
    obtain ⟨description, name, directives, body⟩ := t
    cases body with
    | object interfaces fields =>
      simp [Definition.object?, Definition.fielded?, TypeDefinition.fielded?, Fielded.outline?,
        ObjectType.outline, ObjectType.view, Field.outline]
    | _ => rfl
  | _ => rfl

/-- The names of the input object types of a document are those of its types with fields. -/
theorem Document.map_name_inputs (d : Document) :
    d.inputs.map InputType.name = d.fielded.filterMap Fielded.inputName? := by
  rw [inputs, fielded, List.map_filterMap, List.filterMap_filterMap]
  refine List.filterMap_congr fun x _ => ?_
  cases x with
  | type t =>
    obtain ⟨description, name, directives, body⟩ := t
    cases body <;> rfl
  | _ => rfl

/-- Documents with the same object and input object types agree in their outlines. -/
theorem Document.sameOutline_of_fielded_eq (h : d.fielded = d'.fielded) : d.SameOutline d' where
  objects := by rw [map_outline_objects, map_outline_objects, h]
  inputs := by rw [map_name_inputs, map_name_inputs, h]

end Schema

end SchemaQueries
