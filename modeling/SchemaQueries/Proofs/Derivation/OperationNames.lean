import Mathlib.Data.List.Nodup
import SchemaQueries.Proofs.Derivation.Operations

/-!
# The names of derived queries

A query document is valid only if its operations have different names. The derived queries take
their names from the entities, so this depends on whether the schema defines an entity twice.

## Main definitions

* `Query.Document.OnePairEach` — the queries have different names, and there is one pair for each
  entity name, made from its first definition.

## Main results

* `nodup_operationNames_iff` — the names of the queries differ exactly if those of the entities do.
* `onePairEach_iff` — there is one pair for each entity name exactly if no entity is defined twice.
* `exists_derive_not_onePairEach` — a schema that defines an entity twice.

## Implementation notes

Look-ups by name find the first definition, whereas the search for entities goes through all of
them. The two agree on documents that define no entity twice, and only there.
-/

set_option autoImplicit false
set_option relaxedAutoImplicit false

namespace SchemaQueries

/-- The queries have different names, and they are one pair for each entity name of the document,
made from the first definition of the name. -/
structure Query.Document.OnePairEach (q : Query.Document) (d : Schema.Document) : Prop where
  operationNames_nodup : (q.operations.map (·.name)).Nodup
  exists_pairs : ∃ firsts pairs, List.Forall₂ (IsPairOf d) firsts pairs ∧
    q.operations = Query.ofPairs pairs ∧ (firsts.map (·.name)).Nodup ∧
    (∀ o ∈ firsts, d.object? o.name = some o) ∧
    ∀ name, name ∈ firsts.map (·.name) ↔ name ∈ d.entityTypes.map (·.name)

/-! ### Names of operations -/

/-- The names of the two queries of the entity with a name. -/
def operationNames (entityName : String) : List String :=
  ["GetOne" ++ entityName, "GetMany" ++ entityName ++ "s"]

/-- The names of the queries of pairs are those of their entities. -/
theorem names_ofPairs {d : Schema.Document} {os : List Schema.ObjectType}
    {pairs : List (Query.Operation × Query.Operation)} (h : List.Forall₂ (IsPairOf d) os pairs) :
    (Query.ofPairs pairs).map (·.name) = (os.map (·.name)).flatMap operationNames := by
  induction h with
  | nil => rfl
  | @cons o p os pairs hp _ ih =>
    rw [Query.ofPairs] at ih ⊢
    simp [ih, hp.one.name_eq, hp.many.name_eq, operationNames]

/-- No query for one entity has the name of a query for many. -/
theorem getOne_ne_getMany (a b : String) : "GetOne" ++ a ≠ "GetMany" ++ b ++ "s" := by
  intro h
  have htexts := congrArg String.toList h
  simp at htexts

/-- An entity whose queries share a name with those of another one has the name of that one. -/
theorem eq_of_mem_operationNames {a b n : String} (ha : n ∈ operationNames a)
    (hb : n ∈ operationNames b) : a = b := by
  simp only [operationNames, List.mem_cons, List.not_mem_nil, or_false] at ha hb
  rcases ha with rfl | rfl <;> rcases hb with hb | hb
  · simpa using hb
  · exact absurd hb (getOne_ne_getMany a b)
  · exact absurd hb.symm (getOne_ne_getMany b a)
  · simpa [String.append_assoc] using hb

/-- The two queries of an entity have different names. -/
theorem nodup_operationNames (name : String) : (operationNames name).Nodup := by
  simpa [operationNames] using getOne_ne_getMany name name

/-- The queries of entities have different names exactly if the entities do. -/
theorem nodup_flatMap_operationNames_iff {names : List String} :
    (names.flatMap operationNames).Nodup ↔ names.Nodup := by
  rw [List.nodup_flatMap]
  constructor
  · rintro ⟨-, h⟩
    refine h.imp fun {a b} hab => ?_
    rintro rfl
    exact hab (a := "GetOne" ++ a) (by simp [operationNames]) (by simp [operationNames])
  · intro h
    refine ⟨fun name _ => nodup_operationNames name, h.imp fun {a b} hab => ?_⟩
    intro n ha hb
    exact hab (eq_of_mem_operationNames ha hb)

/-- The names of derived queries differ exactly if those of the entities do. -/
theorem nodup_operationNames_iff {d : Schema.Document} {q : Query.Document}
    (h : derive d = .ok q) :
    (q.operations.map (·.name)).Nodup ↔ (d.entityTypes.map (·.name)).Nodup := by
  obtain ⟨pairs, hpairs, hq⟩ := exists_pairs_of_derive h
  rw [hq, names_ofPairs hpairs, nodup_flatMap_operationNames_iff]

/-! ### First definitions -/

/-- If no entity is defined twice, the look-up of the name of one finds it. -/
theorem Schema.Document.object?_of_mem_entityTypes {d : Schema.Document} {o : Schema.ObjectType}
    (hd : (d.entityTypes.map (·.name)).Nodup) (ho : o ∈ d.entityTypes) :
    d.object? o.name = some o := by
  obtain ⟨hmem, hent⟩ := List.mem_filter.mp ho
  have hent : o.IsEntity := by simpa using hent
  rw [Schema.Document.object?, Schema.ObjectType.named?, List.find?_eq_some_iff_append]
  obtain ⟨before, after, hsplit⟩ := List.append_of_mem hmem
  refine ⟨by simp, before, after, hsplit, fun p hp => ?_⟩
  -- an earlier object type of the name would be an entity of that name, too
  rw [Schema.Document.entityTypes, hsplit, List.filter_append, List.filter_cons,
    if_pos (by simpa using hent), List.map_append, List.map_cons, List.nodup_append] at hd
  by_contra hname
  have hname : p.name = o.name := by simpa using hname
  have hpe : p.IsEntity := by
    unfold Schema.ObjectType.IsEntity at hent ⊢
    rwa [hname]
  exact hd.2.2 p.name (List.mem_map_of_mem (List.mem_filter.mpr ⟨hp, by simpa using hpe⟩)) o.name
    (by simp) hname

/-- **When there is one pair for each entity name.** Of derived queries this holds exactly if no
two definitions of object types that get queries share their name. -/
theorem onePairEach_iff {d : Schema.Document} {q : Query.Document} (h : derive d = .ok q) :
    q.OnePairEach d ↔ ((d.objects.filter (·.IsEntity)).map (·.name)).Nodup := by
  constructor
  · intro hq
    exact (nodup_operationNames_iff h).mp hq.operationNames_nodup
  · intro hd
    obtain ⟨pairs, hpairs, hq⟩ := exists_pairs_of_derive h
    exact
      { operationNames_nodup := (nodup_operationNames_iff h).mpr hd
        exists_pairs := ⟨d.entityTypes, pairs, hpairs, hq, hd,
          fun o ho => Schema.Document.object?_of_mem_entityTypes hd ho, fun _ => Iff.rfl⟩ }

/-! ### An entity that is defined twice -/

/-- A document that defines the object type `Post` twice, and its filter. -/
def postTwice : Schema.Document where
  definitions :=
    [.type ⟨none, "Post", [], .object [] [⟨none, "id", [], .named "ID", []⟩]⟩,
      .type ⟨none, "Post", [], .object [] [⟨none, "title", [], .named "String", []⟩]⟩,
      .type ⟨none, "Post_filter", [], .input [⟨none, "id", .named "ID", none, []⟩]⟩]

/-- Queries are derived from `postTwice`, and they have the names of the queries of `Post` twice. -/
theorem exists_derive_postTwice :
    ∃ q, derive postTwice = .ok q ∧ q.operations.map (·.name) =
      ["GetOnePost", "GetManyPosts", "GetOnePost", "GetManyPosts"] := by
  have hnames : (derive postTwice).map (fun q => q.operations.map (·.name)) =
      .ok ["GetOnePost", "GetManyPosts", "GetOnePost", "GetManyPosts"] := by
    decide +kernel
  cases h : derive postTwice with
  | error e => simp [h, Except.map] at hnames
  | ok q => exact ⟨q, rfl, by simpa [h, Except.map] using hnames⟩

/-- The queries of `postTwice` are one pair for each entity name exactly if the names of its
entities differ. -/
theorem onePairEach_postTwice_iff :
    ∃ q, derive postTwice = .ok q ∧
      (q.OnePairEach postTwice ↔
        ((postTwice.objects.filter (·.IsEntity)).map (·.name)).Nodup) := by
  obtain ⟨q, hq, -⟩ := exists_derive_postTwice
  exact ⟨q, hq, onePairEach_iff hq⟩

/-- Queries are derived from `postTwice`, but not one pair for its entity name. -/
theorem exists_derive_not_onePairEach :
    ∃ q, derive postTwice = .ok q ∧ ¬ q.OnePairEach postTwice := by
  obtain ⟨q, hq, hnames⟩ := exists_derive_postTwice
  refine ⟨q, hq, fun hpairs => ?_⟩
  have hnodup := hpairs.operationNames_nodup
  rw [hnames] at hnodup
  exact absurd hnodup (by decide)

end SchemaQueries
