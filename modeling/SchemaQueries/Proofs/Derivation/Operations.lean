import SchemaQueries.Derivation
import SchemaQueries.Proofs.Steps

/-!
# Which queries a schema leads to

The derived queries as the definitions of the schema determine them: when there are any, which ones
they are and in which order, and which entity is to blame when there are none.

## Main definitions

* `Schema.ObjectType.IsEntity` — the object type gets queries.
* `Schema.Document.DefinesInput` — some definition is that of an input object type of a name.
* `Query.selectionVariables` — the variables that occur in selected fields.
* `IsQueryOf`, `IsPairOf` — a query that selects the fields of an object type, and the two queries
  of an entity.

## Main results

* `exists_derive_iff` — queries are derived exactly if every entity has its filter.
* `derive_eq_ok_iff` — the derived queries are the pairs of the entities, in their order.
-/

set_option autoImplicit false
set_option relaxedAutoImplicit false

namespace SchemaQueries

/-! ### Entities and filters, read off the definitions -/

namespace Schema

/-- The object type gets queries: its name is none of those of the root operation types and of the
meta types. -/
def ObjectType.IsEntity (o : ObjectType) : Prop :=
  o.name ∉ ["Query", "Mutation", "Subscription", "_Block_", "_Meta_"]

instance (o : ObjectType) : Decidable o.IsEntity :=
  inferInstanceAs (Decidable (_ ∉ _))

/-- Some definition of the document is that of an input object type of this name. Neither other
types of that name nor extensions count. -/
def Document.DefinesInput (d : Document) (name : String) : Prop :=
  ∃ description directives fields,
    .type ⟨description, name, directives, .input fields⟩ ∈ d.definitions

/-- A definition defines an input object type exactly if it is of that form. -/
theorem Definition.input?_eq_some_iff {x : Definition} {i : InputType} :
    x.input? = some i ↔
      ∃ description directives, x = .type ⟨description, i.name, directives, .input i.fields⟩ := by
  constructor
  · intro h
    unfold Definition.input? at h
    split at h
    · cases h
      exact ⟨_, _, rfl⟩
    · cases h
  · rintro ⟨description, directives, rfl⟩
    rfl

/-- The look-up of an input object type finds one exactly if the document defines one, and what it
finds has the name. -/
theorem Document.input?_isSome_iff {d : Document} {name : String} :
    (∃ i, d.input? name = some i) ↔ d.DefinesInput name := by
  unfold Document.input? Document.inputs Document.DefinesInput
  rw [← Option.isSome_iff_exists, List.find?_isSome]
  simp only [List.mem_filterMap, Definition.input?_eq_some_iff, beq_iff_eq]
  constructor
  · rintro ⟨i, ⟨x, hx, description, directives, rfl⟩, rfl⟩
    exact ⟨description, directives, i.fields, hx⟩
  · rintro ⟨description, directives, fields, hx⟩
    exact ⟨⟨name, fields⟩, ⟨_, hx, description, directives, rfl⟩, rfl⟩

/-- An input object type that is found under a name has that name. -/
theorem Document.name_of_input?_eq_some {d : Document} {name : String} {i : InputType}
    (h : d.input? name = some i) : i.name = name := by
  simpa using List.find?_some h

end Schema

/-- The names that have no queries are those of the list. -/
theorem isEntityName_iff {o : Schema.ObjectType} : isEntityName o.name = true ↔ o.IsEntity := by
  simp [isEntityName, excludedTypeNames, Schema.ObjectType.IsEntity]

/-! ### What a query of an object type looks like -/

mutual

/-- The variables that occur in a value, in order. -/
def Value.variables : Value → List String
  | .variable name => [name]
  | .list items => itemVariables items
  | .object members => memberVariables members
  | _ => []

/-- The variables that occur in the items of a list value. -/
def Value.itemVariables : List Value → List String
  | [] => []
  | first :: rest => first.variables ++ Value.itemVariables rest

/-- The variables that occur in the members of an object value. -/
def Value.memberVariables : List (String × Value) → List String
  | [] => []
  | (_, first) :: rest => first.variables ++ Value.memberVariables rest

end

namespace Query

mutual

/-- The variables that occur in a selected field: in its arguments and in what is selected below
it. -/
def Field.variables : Field → List String
  | .mk _ arguments selection => Value.memberVariables arguments ++ selectionVariables selection

/-- The variables that occur in selected fields. -/
def selectionVariables : List Field → List String
  | [] => []
  | first :: rest => first.variables ++ selectionVariables rest

end

end Query

/-- A query of this name selects the fields of the object type `o` below a single root field. Its
variables have different names, and the root field has one argument for each of them, in their
order, which is bound to it. -/
structure IsQueryOf (d : Schema.Document) (o : Schema.ObjectType) (name rootField : String)
    (q : Query.Operation) : Prop where
  name_eq : q.name = name
  variables_nodup : (q.parameters.map (·.name)).Nodup
  selection_eq : q.selection = [.mk rootField (q.parameters.map fun v => (v.name, .variable v.name))
    (Selection.expand d o.fields 0)]

/-- The two queries of the entity `o`: the one by identifier and the one for a list, whose filter
is of the type that belongs to the entity. No variable occurs in what they select below their root
fields. -/
structure IsPairOf (d : Schema.Document) (o : Schema.ObjectType)
    (p : Query.Operation × Query.Operation) : Prop where
  one : IsQueryOf d o ("GetOne" ++ o.name) (Naming.queryFieldName o.name) p.1
  many : IsQueryOf d o ("GetMany" ++ o.name ++ "s")
    (Naming.pluralize (Naming.queryFieldName o.name)) p.2
  filter : ∃ v ∈ p.2.parameters, v.name = "where" ∧ v.type = .named (o.name ++ "_filter")
  closed : Query.selectionVariables (Selection.expand d o.fields 0) = []

/-- The queries of pairs, one pair after the other. -/
def Query.ofPairs (pairs : List (Query.Operation × Query.Operation)) : List Query.Operation :=
  pairs.flatMap fun p => [p.1, p.2]

/-- Where no variable occurs in any of the fields, none occurs in the selection. -/
theorem Query.selectionVariables_eq_nil {selection : List Query.Field}
    (h : ∀ f ∈ selection, f.variables = []) : Query.selectionVariables selection = [] := by
  induction selection with
  | nil => rfl
  | cons f rest ih =>
    rw [List.forall_mem_cons] at h
    rw [Query.selectionVariables, h.1, ih h.2, List.append_nil]

/-- No variable occurs in a selection, however many object types it passes through. -/
theorem Selection.variables_within (object? : String → Option Schema.ObjectType) (hops : Nat)
    (fields : List Schema.Field) :
    Query.selectionVariables (Selection.within object? hops fields) = [] := by
  induction hops generalizing fields with
  | zero =>
    refine Query.selectionVariables_eq_nil fun f hf => ?_
    obtain ⟨g, -, rfl⟩ := List.mem_map.mp hf
    rfl
  | succ hops ih =>
    refine Query.selectionVariables_eq_nil fun f hf => ?_
    obtain ⟨g, -, rfl⟩ := List.mem_map.mp hf
    split
    · exact ih _
    · rfl

/-! ### The queries of an entity -/

/-- A named variable keeps its name. -/
@[simp] theorem Query.Variable.make_name (name typeName : String) (nonNull : Bool)
    (default : Option Query.Default) :
    (Query.Variable.make name typeName nonNull default).name = name := rfl

/-- The queries of an entity whose filter has the name that belongs to it are the pair that the
entity asks for. -/
theorem Entity.isPairOf (d : Schema.Document) (e : Entity)
    (h : e.filter.name = Naming.filterTypeName e.object.name) :
    IsPairOf d e.object (e.getOne d, e.getMany d) where
  one :=
    { name_eq := rfl
      variables_nodup := by simp [Entity.getOne]
      selection_eq := rfl }
  many :=
    { name_eq := rfl
      variables_nodup := by simp [Entity.getMany, Entity.listVariables]
      selection_eq := rfl }
  filter := ⟨.make "where" e.filter.name false none, by simp [Entity.getMany, Entity.listVariables],
    rfl, by simp [Query.Variable.make, h, Naming.filterTypeName]⟩
  closed := Selection.variables_within _ _ _

/-- What the entity of an object type is when it has one: the object type with an input object type
that has the name of its filter. -/
theorem Schema.Document.entity_eq_ok_iff {d : Schema.Document} {o : Schema.ObjectType} {e : Entity} :
    d.entity o = .ok e ↔
      e.object = o ∧ d.input? (Naming.filterTypeName o.name) = some e.filter := by
  unfold Schema.Document.entity
  cases h : d.input? (Naming.filterTypeName o.name) with
  | none => simp
  | some i =>
    obtain ⟨object, filter⟩ := e
    simp [eq_comm]

/-- An object type has an entity exactly if the document defines its filter. -/
theorem Schema.Document.exists_entity_iff {d : Schema.Document} {o : Schema.ObjectType} :
    (∃ e, d.entity o = .ok e) ↔ d.DefinesInput (o.name ++ "_filter") := by
  rw [← Schema.Document.input?_isSome_iff]
  simp only [Schema.Document.entity_eq_ok_iff]
  exact ⟨fun ⟨e, _, he⟩ => ⟨e.filter, he⟩, fun ⟨i, hi⟩ => ⟨⟨o, i⟩, rfl, hi⟩⟩

/-- An object type has no entity exactly if the document does not define its filter, and then it is
the one to blame. -/
theorem Schema.Document.entity_eq_error_iff {d : Schema.Document} {o : Schema.ObjectType}
    {e : DerivationError} :
    d.entity o = .error e ↔ ¬ d.DefinesInput (o.name ++ "_filter") ∧ e = .missingFilter o.name := by
  rw [← Schema.Document.input?_isSome_iff]
  unfold Schema.Document.entity Naming.filterTypeName
  cases h : d.input? (o.name ++ "_filter") with
  | none => simp [eq_comm]
  | some i => simp

/-! ### The queries of a schema -/

namespace Schema

/-- The object types of a document that get queries, in order. -/
def Document.entityTypes (d : Document) : List ObjectType :=
  d.objects.filter (·.IsEntity)

/-- The entities of a document are found by going through the object types that get queries. -/
theorem Document.entities_eq (d : Document) : d.entities = d.entityTypes.mapM d.entity := by
  have h : (fun o : ObjectType => isEntityName o.name) = fun o => decide o.IsEntity := by
    funext o
    rw [Bool.eq_iff_iff, isEntityName_iff, decide_eq_true_iff]
  rw [Document.entities, h, Document.entityTypes]

end Schema

/-- Queries are derived exactly if the entities of the document are found, and they are the
queries of those. -/
theorem derive_eq_ok_iff {d : Schema.Document} {q : Query.Document} :
    derive d = .ok q ↔
      ∃ es, d.entityTypes.mapM d.entity = .ok es ∧ q = ⟨es.flatMap (Entity.operations d)⟩ := by
  rw [derive, Schema.Document.entities_eq]
  cases d.entityTypes.mapM d.entity <;> simp [Except.map, eq_comm]

/-- The derivation fails exactly as the search for the entities does. -/
theorem derive_eq_error_iff {d : Schema.Document} {e : DerivationError} :
    derive d = .error e ↔ d.entityTypes.mapM d.entity = .error e := by
  rw [derive, Schema.Document.entities_eq]
  cases d.entityTypes.mapM d.entity <;> simp [Except.map]

/-- The queries of found entities are one pair for each object type that gets queries. -/
theorem exists_pairs_of_forall₂ {d : Schema.Document} {os : List Schema.ObjectType}
    {es : List Entity} (h : List.Forall₂ (fun o e => d.entity o = .ok e) os es) :
    ∃ pairs, List.Forall₂ (IsPairOf d) os pairs ∧
      es.flatMap (Entity.operations d) = Query.ofPairs pairs := by
  induction h with
  | nil => exact ⟨[], .nil, rfl⟩
  | @cons o e os es he _ ih =>
    obtain ⟨pairs, hpairs, heq⟩ := ih
    obtain ⟨rfl, hf⟩ := Schema.Document.entity_eq_ok_iff.mp he
    have hpair := e.isPairOf d (Schema.Document.name_of_input?_eq_some hf)
    refine ⟨(e.getOne d, e.getMany d) :: pairs, .cons hpair hpairs, ?_⟩
    rw [List.flatMap_cons, heq]
    rfl

/-- Derived queries are one pair for each object type that gets queries, in their order. -/
theorem exists_pairs_of_derive {d : Schema.Document} {q : Query.Document} (h : derive d = .ok q) :
    ∃ pairs, List.Forall₂ (IsPairOf d) d.entityTypes pairs ∧
      q.operations = Query.ofPairs pairs := by
  obtain ⟨es, hes, rfl⟩ := derive_eq_ok_iff.mp h
  exact exists_pairs_of_forall₂ (Steps.mapM_eq_ok_iff.mp hes)

/-- Queries are derived exactly if the document defines the filter of every object type that gets
queries. -/
theorem exists_derive_iff {d : Schema.Document} :
    (∃ q, derive d = .ok q) ↔ ∀ o ∈ d.entityTypes, d.DefinesInput (o.name ++ "_filter") := by
  simp only [derive_eq_ok_iff]
  rw [← forall₂_congr fun o _ => Schema.Document.exists_entity_iff, ← Steps.exists_mapM_eq_ok_iff]
  exact ⟨fun ⟨_, es, hes, _⟩ => ⟨es, hes⟩, fun ⟨es, hes⟩ => ⟨_, es, hes, rfl⟩⟩

/-- Derivation fails exactly with the first object type that gets queries and lacks its filter. -/
theorem derive_eq_error_iff_first {d : Schema.Document} {e : DerivationError} :
    derive d = .error e ↔
      ∃ before o after, d.entityTypes = before ++ o :: after ∧
        (∀ p ∈ before, d.DefinesInput (p.name ++ "_filter")) ∧
        ¬ d.DefinesInput (o.name ++ "_filter") ∧ e = .missingFilter o.name := by
  rw [derive_eq_error_iff, Steps.mapM_eq_error_iff]
  simp only [Schema.Document.exists_entity_iff, Schema.Document.entity_eq_error_iff]

/-- **Which queries a schema leads to.** Queries are derived exactly if every object type that gets
queries has its filter somewhere in the document. Then they are one pair for each of these object
types, in the order of the document, and nothing else. Otherwise the first object type without
filter is named. This holds of every document, whether or not its object types have different
names. -/
theorem derive_pairs_or_missingFilter (d : Schema.Document) :
    ((∃ q, derive d = .ok q) ↔
      ∀ o ∈ d.objects, o.IsEntity → d.DefinesInput (o.name ++ "_filter")) ∧
    (∀ q, derive d = .ok q →
      ∃ pairs, List.Forall₂ (IsPairOf d) (d.objects.filter (·.IsEntity)) pairs ∧
        q.operations = Query.ofPairs pairs) ∧
    (∀ e, derive d = .error e →
      ∃ before o after, d.objects.filter (·.IsEntity) = before ++ o :: after ∧
        (∀ p ∈ before, d.DefinesInput (p.name ++ "_filter")) ∧
        ¬ d.DefinesInput (o.name ++ "_filter") ∧ e = .missingFilter o.name) := by
  refine ⟨?_, fun q h => exists_pairs_of_derive h, fun e h => derive_eq_error_iff_first.mp h⟩
  rw [exists_derive_iff]
  simp only [Schema.Document.entityTypes, List.mem_filter, decide_eq_true_eq, and_imp]

end SchemaQueries
