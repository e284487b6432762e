import Mathlib.Data.List.Find
import Mathlib.Data.List.Nodup
import Mathlib.Logic.Relation
import SchemaQueries.Proofs.Derivation.Outline

/-!
# The part of a schema that an entity sees

The queries of an entity are built from its own fields and from the object types that these lead to in
three hops. What else a schema defines makes no difference to them: a definition may be moved, added,
taken away or changed, as long as the entity sees the same fields.

## Main definitions

* `Schema.Document.SameAt` — under a name, two documents have the same fields or no object type.
* `Schema.Document.ReachesFrom` — an entity sees the object type of a name.
* `Schema.Document.Unseen` — a change of a document that an entity does not see.

## Main results

* `Selection.expand_eq_of_sameAt` — a selection depends on what two hops lead to.
* `Schema.Document.Unseen.sameAt` — an unseen change keeps whatever the entity sees.
* `Entity.operations_local` — the queries of an entity depend on what it sees, and no unseen change alters
  them.
-/

set_option autoImplicit false
set_option relaxedAutoImplicit false

namespace SchemaQueries

open Relation (ReflTransGen)

variable {d d' : Schema.Document}

namespace Schema.Document

/-! ### What two documents have under a name -/

/-- Neither document has an object type of the name, or their first ones of that name have the same
view. -/
def SameAt (d d' : Document) (name : String) : Prop :=
  ((∀ o ∈ d.objects, o.name ≠ name) ∧ ∀ o ∈ d'.objects, o.name ≠ name) ∨
    ∃ o o', d.IsFirst o ∧ o.name = name ∧ d'.IsFirst o' ∧ o'.name = name ∧ o.view = o'.view

/-- Documents that are the same under a name are those whose look-ups of it find the same view. -/
theorem sameAt_iff {name : String} :
    d.SameAt d' name ↔ (d.object? name).map ObjectType.view = (d'.object? name).map ObjectType.view := by
  constructor
  · rintro (⟨hnone, hnone'⟩ | ⟨o, o', hfirst, hname, hfirst', hname', hview⟩)
    · rw [object?_eq_none_iff.mpr hnone, object?_eq_none_iff.mpr hnone']
    · rw [object?_eq_some_iff.mpr ⟨hfirst, hname⟩, object?_eq_some_iff.mpr ⟨hfirst', hname'⟩,
        Option.map_some, Option.map_some, hview]
  · intro h
    cases ho : d.object? name with
    | none =>
      rw [ho, Option.map_none, eq_comm, Option.map_eq_none_iff] at h
      exact .inl ⟨object?_eq_none_iff.mp ho, object?_eq_none_iff.mp h⟩
    | some o =>
      rw [ho, Option.map_some, eq_comm, Option.map_eq_some_iff] at h
      obtain ⟨o', ho', hview⟩ := h
      obtain ⟨hfirst, hname⟩ := object?_eq_some_iff.mp ho
      obtain ⟨hfirst', hname'⟩ := object?_eq_some_iff.mp ho'
      exact .inr ⟨o, o', hfirst, hname, hfirst', hname', hview.symm⟩

/-- Where the look-up finds the same, documents are the same. -/
theorem sameAt_of_eq {name : String} (h : d.object? name = d'.object? name) : d.SameAt d' name :=
  sameAt_iff.mpr (congrArg (Option.map ObjectType.view) h)

end Schema.Document

/-- The selection of fields depends on what the documents have under the names that are reached from
them in two hops at most. -/
theorem Selection.expand_eq_of_sameAt {fields fields' : List Schema.Field}
    (hfields : fields.map Schema.Field.outline = fields'.map Schema.Field.outline)
    (h : ∀ name, d.Reaches fields 2 name → d.SameAt d' name) :
    expand d fields 0 = expand d' fields' 0 := by
  refine within_congr hfields fun passed hpassed name hreach => ?_
  have hpassed : passed ≤ 2 := Nat.le_of_lt_succ hpassed
  exact Schema.Document.sameAt_iff.mp (h name (hreach.mono hpassed))

/-! ### Changes of a document -/

namespace Schema.Document

/-- The entity sees the object type of the other name: it is its own, or one that its fields lead to in
at most three hops. -/
def ReachesFrom (d : Document) (entity other : String) : Prop :=
  other = entity ∨ ∃ o, d.IsFirst o ∧ o.name = entity ∧ d.Reaches o.fields 2 other

/-- A change of a document that the entity does not see. -/
inductive Unseen (entity : String) : Document → Document → Prop
  /-- The definitions come in another order, where no two object types have the same name. -/
  | reorder {xs ys : List Definition} : xs.Perm ys →
      ((Document.mk xs).objects.map (·.name)).Nodup → Unseen entity ⟨xs⟩ ⟨ys⟩
  /-- A definition is added, but none of an object type that the entity sees. -/
  | add {before after : List Definition} {x : Definition} :
      (∀ o, x.object? = some o → ¬ ReachesFrom ⟨before ++ after⟩ entity o.name) →
      Unseen entity ⟨before ++ after⟩ ⟨before ++ x :: after⟩
  /-- A definition is taken away, but none of an object type that the entity sees. -/
  | remove {before after : List Definition} {x : Definition} :
      (∀ o, x.object? = some o → ¬ ReachesFrom ⟨before ++ x :: after⟩ entity o.name) →
      Unseen entity ⟨before ++ x :: after⟩ ⟨before ++ after⟩
  /-- A definition is replaced by one that defines an object type of the same outline, or by any other
  one if it does not define an object type. -/
  | alter {before after : List Definition} {x y : Definition} :
      x.object?.map ObjectType.outline = y.object?.map ObjectType.outline →
      Unseen entity ⟨before ++ x :: after⟩ ⟨before ++ y :: after⟩

/-- The order of definitions makes no difference to look-ups where names are distinct. -/
theorem object?_eq_of_perm {xs ys : List Definition} (h : xs.Perm ys)
    (hnames : ((Document.mk xs).objects.map (·.name)).Nodup) (name : String) :
    (Document.mk xs).object? name = (Document.mk ys).object? name := by
  have hobjects : (Document.mk xs).objects.Perm (Document.mk ys).objects := h.filterMap _
  apply List.find?_eq_find?_of_perm hobjects
  rintro o ⟨ho, hname⟩ o' ⟨ho', hname'⟩
  rw [beq_iff_eq] at hname hname'
  exact List.inj_on_of_nodup_map hnames ho ho' (hname.trans hname'.symm)

/-- A definition of an object type of another name makes no difference to look-ups. -/
theorem object?_insert {before after : List Definition} {x : Definition} {name : String}
    (h : ∀ o, x.object? = some o → o.name ≠ name) :
    (Document.mk (before ++ x :: after)).object? name = (Document.mk (before ++ after)).object? name := by
  unfold object? objects ObjectType.named?
  cases hx : x.object? with
  | none => rw [List.filterMap_append, List.filterMap_append, List.filterMap_cons_none hx]
  | some o =>
    have hname : (o.name == name) = false := by simpa using h o hx
    rw [List.filterMap_append, List.filterMap_append, List.filterMap_cons_some hx,
      List.find?_append, List.find?_append, List.find?_cons, hname]

/-- An unseen change keeps whatever the entity sees. -/
theorem Unseen.sameAt {entity other : String} (h : Unseen entity d d')
    (hreach : d.ReachesFrom entity other) : d.SameAt d' other := by
  cases h with
  | reorder hperm hnames => exact sameAt_of_eq (object?_eq_of_perm hperm hnames other)
  | add hnew =>
    refine sameAt_of_eq (object?_insert fun o ho hname => ?_).symm
    exact hnew o ho (hname ▸ hreach)
  | remove hold =>
    refine sameAt_of_eq (object?_insert fun o ho hname => ?_)
    exact hold o ho (hname ▸ hreach)
  | @alter before after x y hsame =>
    refine sameAt_iff.mpr (ObjectType.map_view_named? ?_ other)
    have houtline (z : Definition) : (Document.mk (before ++ z :: after)).objects.map ObjectType.outline =
        (before.filterMap Definition.object?).map ObjectType.outline ++
          ((z.object?.map ObjectType.outline).toList ++
            (after.filterMap Definition.object?).map ObjectType.outline) := by
      unfold objects
      cases hz : z.object? <;> simp [hz]
    rw [houtline, houtline, hsame]

/-- What is selected for the entity of a name: for the first object type of that name. -/
def selectionOf? (d : Document) (entity : String) : Option (List Query.Field) :=
  (d.object? entity).map fun o => Selection.expand d o.fields 0

/-- An unseen change leaves what is selected for the entity as it is. -/
theorem Unseen.selectionOf?_eq {entity : String} (h : Unseen entity d d') :
    d.selectionOf? entity = d'.selectionOf? entity := by
  have hself := sameAt_iff.mp (h.sameAt (.inl rfl))
  unfold selectionOf?
  cases ho : d.object? entity with
  | none =>
    rw [ho, Option.map_none, eq_comm, Option.map_eq_none_iff] at hself
    rw [hself, Option.map_none, Option.map_none]
  | some o =>
    rw [ho, Option.map_some, eq_comm, Option.map_eq_some_iff] at hself
    obtain ⟨o', ho', hview⟩ := hself
    obtain ⟨hfirst, hname⟩ := object?_eq_some_iff.mp ho
    have hselection : Selection.expand d o.fields 0 = Selection.expand d' o'.fields 0 :=
      Selection.expand_eq_of_sameAt hview.symm fun other hother =>
        h.sameAt (.inr ⟨o, hfirst, hname, hother⟩)
    rw [ho', Option.map_some, Option.map_some, hselection]

/-- So do any number of them. -/
theorem selectionOf?_eq_of_unseen {entity : String} (h : ReflTransGen (Unseen entity) d d') :
    d.selectionOf? entity = d'.selectionOf? entity := by
  induction h with
  | refl => rfl
  | tail _ hstep ih => exact ih.trans hstep.selectionOf?_eq

end Schema.Document

/-! ### The queries of an entity -/

namespace Entity

/-- Entities of one name have the same queries if the same is selected for them. -/
theorem operations_eq_of_expand_eq {e e' : Entity} (he : d.entity e.object = .ok e)
    (he' : d'.entity e'.object = .ok e') (hname : e.name = e'.name)
    (hselection : Selection.expand d e.object.fields 0 = Selection.expand d' e'.object.fields 0) :
    e.operations d = e'.operations d' := by
  obtain ⟨-, hfilter⟩ := Schema.Document.entity_eq_ok_iff.mp he
  obtain ⟨-, hfilter'⟩ := Schema.Document.entity_eq_ok_iff.mp he'
  have hobject : e.object.name = e'.object.name := hname
  have hsame : e.filter.name = e'.filter.name := by
    rw [Schema.Document.name_of_input?_eq_some hfilter,
      Schema.Document.name_of_input?_eq_some hfilter', hobject]
  simp only [operations, getOne, getMany, listVariables, hname, hselection, hsame]

/-- **The queries of an entity depend on what it sees.** Take entities of one name in two documents.

If they have the same view, and under each name that is the base type of a field reached from them in at
most two hops the documents have the same view or no object type, then they have the same queries.

If they are the first definitions of that name, and one document is made from the other by changes that
the entity does not see, they have the same queries as well. Such changes are to put definitions with
distinct names in another order, to add or take away a definition unless it is that of an object type
that is reached in three hops, and to replace a definition by one of the same outline.

**Proof sketch.** Where the selection stops, names are no longer looked up, so the last hop does not
count (`Selection.within_congr`). A change that is not seen keeps what is found under each name that is
reached (`Schema.Document.Unseen.sameAt`), and so the selection. -/
theorem operations_local (d d' : Schema.Document) (e e' : Entity)
    (he : d.entity e.object = .ok e) (he' : d'.entity e'.object = .ok e') (hname : e.name = e'.name) :
    (e.object.view = e'.object.view →
      (∀ name, d.Reaches e.object.fields 2 name → d.SameAt d' name) →
        e.operations d = e'.operations d') ∧
    (d.IsFirst e.object → d'.IsFirst e'.object →
      ReflTransGen (Schema.Document.Unseen e.name) d d' → e.operations d = e'.operations d') := by
  constructor
  · intro hview hsame
    exact operations_eq_of_expand_eq he he' hname (Selection.expand_eq_of_sameAt hview hsame)
  · intro hfirst hfirst' hunseen
    have hselection := Schema.Document.selectionOf?_eq_of_unseen hunseen
    unfold Schema.Document.selectionOf? at hselection
    rw [Schema.Document.object?_eq_some_iff.mpr ⟨hfirst, show e.object.name = e.name from rfl⟩,
      Schema.Document.object?_eq_some_iff.mpr ⟨hfirst', hname.symm⟩, Option.map_some,
      Option.map_some] at hselection
    exact operations_eq_of_expand_eq he he' hname (Option.some.inj hselection)

/-- A type of posts, with a field for the author. -/
def postType (interfaces : List String) (author : TypeRef) : Schema.Definition :=
  .type ⟨none, "Post", [], .object interfaces [⟨none, "author", [], author, []⟩]⟩

/-- A type of authors, with a field for the posts. -/
def authorType (posts : TypeRef) : Schema.Definition :=
  .type ⟨none, "Author", [], .object [] [⟨some "All of them.", "posts", [], posts, []⟩]⟩

/-- The filter of posts, with one field. -/
def postFilter (name : String) : Schema.Definition :=
  .type ⟨none, "Post_filter", [], .input [⟨none, name, .named "ID", none, []⟩]⟩

/-- A type that no post and no author refers to. -/
def tagType : Schema.Definition :=
  .type ⟨none, "Tag", [], .object [] [⟨none, "posts", [], .list (.named "Post"), []⟩]⟩

/-- Posts and authors, which refer to each other. -/
def journal : Schema.Document :=
  ⟨[postType [] (.named "Author"), authorType (.list (.named "Post")), postFilter "id"]⟩

/-- The same in another order, with other wrappers, an interface, another filter field and a further
type. -/
def journal' : Schema.Document :=
  ⟨[tagType, postFilter "author", authorType (.nonNull (.list (.nonNull (.named "Post")))),
    postType ["Node"] (.nonNull (.named "Author"))]⟩

/-- The entity of posts in `journal`. -/
def post : Entity :=
  ⟨⟨"Post", [⟨none, "author", [], .named "Author", []⟩]⟩,
    ⟨"Post_filter", [⟨none, "id", .named "ID", none, []⟩]⟩⟩

/-- The entity of posts in `journal'`. -/
def post' : Entity :=
  ⟨⟨"Post", [⟨none, "author", [], .nonNull (.named "Author"), []⟩]⟩,
    ⟨"Post_filter", [⟨none, "author", .named "ID", none, []⟩]⟩⟩

/-- Posts do not see what is done to `journal`.

**Proof sketch.** Five changes, one after the other: the definitions of the posts, of the authors and of
the filter are altered and keep their outlines, a type is added that no field leads to, and the order is
turned around. -/
theorem unseen_journal : ReflTransGen (Schema.Document.Unseen "Post") journal journal' := by
  let posts := postType ["Node"] (.nonNull (.named "Author"))
  let authors := authorType (.nonNull (.list (.nonNull (.named "Post"))))
  have hposts : Schema.Document.Unseen "Post" journal
      ⟨[posts, authorType (.list (.named "Post")), postFilter "id"]⟩ :=
    @Schema.Document.Unseen.alter "Post" [] [_, _] _ _ rfl
  have hauthors : Schema.Document.Unseen "Post"
      ⟨[posts, authorType (.list (.named "Post")), postFilter "id"]⟩
      ⟨[posts, authors, postFilter "id"]⟩ :=
    @Schema.Document.Unseen.alter "Post" [_] [_] _ _ rfl
  have hfilter : Schema.Document.Unseen "Post" ⟨[posts, authors, postFilter "id"]⟩
      ⟨[posts, authors, postFilter "author"]⟩ :=
    @Schema.Document.Unseen.alter "Post" [_, _] [] _ _ rfl
  have htag : Schema.Document.Unseen "Post" ⟨[posts, authors, postFilter "author"]⟩
      ⟨[posts, authors, postFilter "author", tagType]⟩ := by
    refine @Schema.Document.Unseen.add "Post" [_, _, _] [] _ fun o ho hreach => ?_
    cases ho
    have hother : ∀ o ∈ (Schema.Document.mk [posts, authors, postFilter "author"]).objects,
        ∀ f ∈ o.fields, f.type.baseName ≠ "Tag" := by decide
    rcases hreach with htag | ⟨o, hfirst, -, hreach⟩
    · exact absurd htag (by decide)
    · obtain ⟨f, hname, hf | ⟨o', ho', hf⟩⟩ := hreach.exists_mem
      · exact hother o hfirst.mem f hf hname
      · exact hother o' ho' f hf hname
  have horder : Schema.Document.Unseen "Post" ⟨[posts, authors, postFilter "author", tagType]⟩
      journal' := .reorder (List.reverse_perm _).symm (by decide)
  exact (((ReflTransGen.single hposts).tail hauthors).tail hfilter).tail htag |>.tail horder

/-- Posts have the same queries in both documents. -/
theorem operations_local_journal :
    journal.entity post.object = .ok post ∧ journal'.entity post'.object = .ok post' ∧
    post.name = post'.name ∧ post.object.view = post'.object.view ∧
    (∀ name, journal.Reaches post.object.fields 2 name → journal.SameAt journal' name) ∧
    journal.IsFirst post.object ∧ journal'.IsFirst post'.object ∧
    ReflTransGen (Schema.Document.Unseen post.name) journal journal' ∧
    post.operations journal = post'.operations journal' := by
  have hentity : journal.entity post.object = .ok post := rfl
  have hentity' : journal'.entity post'.object = .ok post' := rfl
  have hlocal := operations_local journal journal' post post' hentity hentity' rfl
  have hfirst : journal.IsFirst post.object :=
    (Schema.Document.object?_eq_some_iff.mp (show journal.object? "Post" = some post.object from rfl)).1
  have hfirst' : journal'.IsFirst post'.object :=
    (Schema.Document.object?_eq_some_iff.mp
      (show journal'.object? "Post" = some post'.object from rfl)).1
  have hsame : ∀ name, journal.Reaches post.object.fields 2 name → journal.SameAt journal' name := by
    intro name hreach
    have hbase : ∀ o ∈ journal.objects, ∀ f ∈ o.fields,
        f.type.baseName = "Author" ∨ f.type.baseName = "Post" := by decide
    obtain ⟨f, rfl, hf⟩ := hreach.exists_mem
    obtain ⟨o, ho, hf⟩ : ∃ o ∈ journal.objects, f ∈ o.fields :=
      hf.elim (fun hf => ⟨post.object, hfirst.mem, hf⟩) id
    refine Schema.Document.sameAt_iff.mpr ?_
    rcases hbase o ho f hf with h | h
    · rw [h]
      rfl
    · rw [h]
      rfl
  exact ⟨hentity, hentity', rfl, rfl, hsame, hfirst, hfirst', unseen_journal, hlocal.1 rfl hsame⟩

end Entity

end SchemaQueries
