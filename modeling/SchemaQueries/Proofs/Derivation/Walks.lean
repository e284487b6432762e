import Mathlib.Data.List.Basic
import SchemaQueries.Selection

/-!
# What a selection reaches

A selection is a tree of fields, and the types of a schema are a graph that may have cycles. A walk
goes from field to field: each field is one of the object type that the field before it refers to.
The paths of a selection are the walks, as far as the bound on the number of object types lets them
go.

## Main definitions

* `Schema.Document.IsFirst` — an object type is the first one of its name.
* `Schema.Document.Walk` — a walk along the fields of object types.
* `Schema.Document.Reaches` — a walk of bounded length leads to a field of the type of a name.
* `Query.IsPath` — a path from the root of a selection to one of its fields.

## Main results

* `Selection.isPath_within_iff` — the paths of a selection, node by node.
* `Selection.isPath_expand_iff_walk` — the paths of a selection are the walks of bounded length, and
  where its leaves are.

## Implementation notes

Both walks and paths go to a position, which says for each level which of the fields is taken. Paths
and walks with the same positions are in the same order, and there are as many of them.
-/

set_option autoImplicit false
set_option relaxedAutoImplicit false

namespace SchemaQueries

/-! ### Walks -/

namespace Schema

/-- The object type is the first one of its name in the document. -/
def Document.IsFirst (d : Document) (o : ObjectType) : Prop :=
  ∃ before after, d.objects = before ++ o :: after ∧ ∀ p ∈ before, p.name ≠ o.name

/-- A walk from one of the fields to a position: it starts with that field, and goes on with a field
of the first object type that has the name of its type. -/
inductive Document.Walk (d : Document) : List Field → List Nat → List Field → Prop
  | stop {fields : List Field} {i : Nat} {f : Field} : fields[i]? = some f →
      Walk d fields [i] [f]
  | step {fields fs : List Field} {i : Nat} {position : List Nat} {f : Field} {o : ObjectType} :
      fields[i]? = some f → d.IsFirst o → o.name = f.type.baseName →
      Walk d o.fields position fs → Walk d fields (i :: position) (f :: fs)

/-- The first object type of a name is one of the document. -/
theorem Document.IsFirst.mem {d : Document} {o : ObjectType} (h : d.IsFirst o) : o ∈ d.objects := by
  obtain ⟨before, after, hsplit, -⟩ := h
  simp [hsplit]

/-- The look-up of a name finds the first object type of that name. -/
theorem Document.object?_eq_some_iff {d : Document} {name : String} {o : ObjectType} :
    d.object? name = some o ↔ d.IsFirst o ∧ o.name = name := by
  unfold Document.object? ObjectType.named?
  rw [List.find?_eq_some_iff_append]
  constructor
  · rintro ⟨hname, before, after, hsplit, hbefore⟩
    obtain rfl : o.name = name := by simpa using hname
    refine ⟨⟨before, after, hsplit, fun p hp => ?_⟩, rfl⟩
    simpa using hbefore p hp
  · rintro ⟨⟨before, after, hsplit, hbefore⟩, rfl⟩
    refine ⟨by simp, before, after, hsplit, fun p hp => ?_⟩
    simpa using hbefore p hp

/-- The look-up of a name finds nothing exactly if no object type has that name. -/
theorem Document.object?_eq_none_iff {d : Document} {name : String} :
    d.object? name = none ↔ ∀ o ∈ d.objects, o.name ≠ name := by
  simp [Document.object?, ObjectType.named?]

namespace Document.Walk

variable {d : Document} {fields fs fs' : List Field} {position : List Nat}

/-- A walk visits at least one field. -/
theorem ne_nil (h : d.Walk fields position fs) : fs ≠ [] := by
  cases h with
  | stop => simp
  | step => simp

/-- Every field of a walk is one of the fields that it starts from, or one of an object type. -/
theorem mem_or_exists (h : d.Walk fields position fs) :
    ∀ f ∈ fs, f ∈ fields ∨ ∃ o ∈ d.objects, f ∈ o.fields := by
  induction h with
  | stop hf => exact List.forall_mem_singleton.mpr (.inl (List.mem_of_getElem? hf))
  | step hf hfirst _ _ ih =>
    refine List.forall_mem_cons.mpr ⟨.inl (List.mem_of_getElem? hf), fun g hg => .inr ?_⟩
    rcases ih g hg with hg | hg
    · exact ⟨_, hfirst.mem, hg⟩
    · exact hg

/-- Its position determines a walk. -/
theorem unique (h : d.Walk fields position fs) (h' : d.Walk fields position fs') : fs = fs' := by
  induction h generalizing fs' with
  | stop hf =>
    cases h' with
    | stop hf' =>
      rw [hf, Option.some.injEq] at hf'
      rw [hf']
    | step _ _ _ hwalk' => cases hwalk'
  | step hf hfirst hname hwalk ih =>
    cases h' with
    | stop => cases hwalk
    | step hf' hfirst' hname' hwalk' =>
      rw [hf, Option.some.injEq] at hf'
      subst hf'
      have hobject := object?_eq_some_iff.mpr ⟨hfirst, hname⟩
      have hobject' := object?_eq_some_iff.mpr ⟨hfirst', hname'⟩
      rw [hobject, Option.some.injEq] at hobject'
      subst hobject'
      rw [ih hwalk']

end Document.Walk

/-- A field of the type of this name is reached from the fields in at most so many hops, each of which
leads from a field into its object type. -/
def Document.Reaches (d : Document) (fields : List Field) (hops : Nat) (name : String) : Prop :=
  ∃ position fs f, d.Walk fields position (fs ++ [f]) ∧ fs.length ≤ hops ∧ f.type.baseName = name

namespace Document.Reaches

variable {d : Document} {fields : List Field} {f : Field} {hops : Nat} {name : String}

/-- The types of the fields themselves are reached without a hop. -/
theorem of_mem (hf : f ∈ fields) (hops : Nat) : d.Reaches fields hops f.type.baseName := by
  obtain ⟨i, hi⟩ := List.mem_iff_getElem?.mp hf
  exact ⟨[i], [], f, .stop hi, Nat.zero_le _, rfl⟩

/-- What is reached from the fields of the object type of a field is reached from there with one hop
more. -/
theorem step {o : ObjectType} (hf : f ∈ fields) (ho : d.object? f.type.baseName = some o)
    (h : d.Reaches o.fields hops name) : d.Reaches fields (hops + 1) name := by
  obtain ⟨i, hi⟩ := List.mem_iff_getElem?.mp hf
  obtain ⟨hfirst, hname⟩ := object?_eq_some_iff.mp ho
  obtain ⟨position, fs, g, hwalk, hlength, hg⟩ := h
  exact ⟨i :: position, f :: fs, g, .step hi hfirst hname hwalk, Nat.succ_le_succ hlength, hg⟩

/-- Whatever is reached is the type of one of the fields, or of a field of an object type. -/
theorem exists_mem (h : d.Reaches fields hops name) :
    ∃ f, f.type.baseName = name ∧ (f ∈ fields ∨ ∃ o ∈ d.objects, f ∈ o.fields) := by
  obtain ⟨position, fs, f, hwalk, -, hf⟩ := h
  exact ⟨f, hf, hwalk.mem_or_exists f (by simp)⟩

/-- What is reached is reached with more hops as well. -/
theorem mono {hops' : Nat} (h : d.Reaches fields hops name) (hle : hops ≤ hops') :
    d.Reaches fields hops' name := by
  obtain ⟨position, fs, f, hwalk, hlength, hf⟩ := h
  exact ⟨position, fs, f, hwalk, Nat.le_trans hlength hle, hf⟩

end Document.Reaches

end Schema

/-! ### Paths -/

/-- The path from the root of a selection to a position: the nodes on the way to it, the last one
included. -/
inductive Query.IsPath : List Query.Field → List Nat → List Query.Field → Prop
  | stop {selection : List Query.Field} {i : Nat} {node : Query.Field} :
      selection[i]? = some node → IsPath selection [i] [node]
  | step {selection nodes : List Query.Field} {i : Nat} {position : List Nat}
      {node : Query.Field} : selection[i]? = some node → IsPath node.selection position nodes →
      IsPath selection (i :: position) (node :: nodes)

namespace Selection

variable {d : Schema.Document} {fields fs : List Schema.Field} {f : Schema.Field} {hops : Nat}

/-- What is selected below a field while so many object types are still to pass. -/
def below (d : Schema.Document) : Nat → Schema.Field → List Query.Field
  | 0, _ => []
  | hops + 1, f =>
    match d.object? f.type.baseName with
    | some o => within d.object? hops o.fields
    | none => []

/-- Every field is selected, with what is selected below it. -/
theorem within_eq (d : Schema.Document) (hops : Nat) (fields : List Schema.Field) :
    within d.object? hops fields = fields.map fun f => .plain f.name (below d hops f) := by
  cases hops with
  | zero => rfl
  | succ hops =>
    rw [within]
    apply List.map_congr_left
    intro f _
    rw [below]
    cases d.object? f.type.baseName <;> rfl

/-- The nodes for the fields of a walk. -/
def nodes (d : Schema.Document) : Nat → List Schema.Field → List Query.Field
  | _, [] => []
  | hops, f :: fs => .plain f.name (below d hops f) :: nodes d (hops - 1) fs

/-- The names of the nodes are those of the fields. -/
theorem map_name_nodes (d : Schema.Document) (hops : Nat) (fs : List Schema.Field) :
    (nodes d hops fs).map (·.name) = fs.map (·.name) := by
  induction fs generalizing hops with
  | nil => rfl
  | cons f fs ih =>
    rw [nodes, List.map_cons, List.map_cons, ih]
    rfl

/-- There are as many nodes as fields. -/
theorem length_nodes (d : Schema.Document) (hops : Nat) (fs : List Schema.Field) :
    (nodes d hops fs).length = fs.length := by
  simpa using congrArg List.length (map_name_nodes d hops fs)

/-- The last node is the one for the last field, with as many object types still to pass as the walk
has left over. -/
theorem getLast?_nodes (d : Schema.Document) (hops : Nat) (fs : List Schema.Field) :
    (nodes d hops fs).getLast? =
      fs.getLast?.map fun f => .plain f.name (below d (hops - (fs.length - 1)) f) := by
  induction fs generalizing hops with
  | nil => rfl
  | cons f fs ih =>
    cases fs with
    | nil => simp [nodes]
    | cons g fs =>
      have hlast : (nodes d hops (f :: g :: fs)).getLast? = (nodes d (hops - 1) (g :: fs)).getLast? := by
        simp [nodes]
      have hhops : hops - 1 - ((g :: fs).length - 1) = hops - ((f :: g :: fs).length - 1) := by
        simp only [List.length_cons]
        omega
      rw [hlast, ih, hhops, List.getLast?_cons_cons]

/-- Nothing is selected below a field exactly if no more object type is to be passed, the type of the
field is no object type, or that object type has no fields.

**Proof sketch.** By cases on the bound and on whether the type of the field is an object type. If it
is, the selection has one entry for each of its fields, and the first definition of a name is the only
first one. -/
theorem below_eq_nil_iff :
    below d hops f = [] ↔ hops = 0 ∨ (∀ o ∈ d.objects, o.name ≠ f.type.baseName) ∨
      ∃ o, d.IsFirst o ∧ o.name = f.type.baseName ∧ o.fields = [] := by
  cases hops with
  | zero => simp [below]
  | succ hops =>
    rw [below]
    cases hobject : d.object? f.type.baseName with
    | none =>
      have hnone := Schema.Document.object?_eq_none_iff.mp hobject
      simp only [true_iff]
      exact .inr (.inl hnone)
    | some o =>
      obtain ⟨hfirst, hname⟩ := Schema.Document.object?_eq_some_iff.mp hobject
      dsimp only
      rw [within_eq, List.map_eq_nil_iff]
      constructor
      · intro hfields
        exact .inr (.inr ⟨o, hfirst, hname, hfields⟩)
      · rintro (hzero | hnone | ⟨p, hp, hpname, hpfields⟩)
        · omega
        · exact absurd hname (hnone o hfirst.mem)
        · have hsame : d.object? f.type.baseName = some p :=
            Schema.Document.object?_eq_some_iff.mpr ⟨hp, hpname⟩
          rw [hobject] at hsame
          obtain rfl := Option.some.inj hsame
          exact hpfields

/-- A field that has fields selected below it leads into an object type.

**Proof sketch.** Nothing leads into an empty selection. So the bound is not reached and the type of the
field is an object type; then the selection below the field is the one within this type. -/
theorem exists_of_isPath_below {position : List Nat} {nodes : List Query.Field}
    (h : Query.IsPath (below d hops f) position nodes) :
    ∃ hops' o, hops = hops' + 1 ∧ d.object? f.type.baseName = some o ∧
      Query.IsPath (within d.object? hops' o.fields) position nodes := by
  have hempty : ¬ Query.IsPath [] position nodes := by
    intro h
    cases h with
    | stop hnode => simp at hnode
    | step hnode => simp at hnode
  cases hops with
  | zero => exact absurd h hempty
  | succ hops =>
    rw [below] at h
    cases hobject : d.object? f.type.baseName with
    | none =>
      rw [hobject] at h
      exact absurd h hempty
    | some o =>
      rw [hobject] at h
      exact ⟨hops, o, rfl, rfl, h⟩

/-- **The paths of a selection, node by node.** A path leads to a position exactly if a walk does that
passes through no more object types than are to be passed, and its nodes are those for the fields of
the walk.

**Proof sketch.** From left to right, induction on the path: what is selected below a node is the
selection of the object type of its field, with one object type less to pass. From right to left,
induction on the walk. -/
theorem isPath_within_iff {position : List Nat} {ns : List Query.Field} :
    Query.IsPath (within d.object? hops fields) position ns ↔
      ∃ fs, d.Walk fields position fs ∧ fs.length ≤ hops + 1 ∧ ns = nodes d hops fs := by
  constructor
  · intro h
    generalize hselection : within d.object? hops fields = selection at h
    induction h generalizing hops fields with
    | stop hnode =>
      subst hselection
      rw [within_eq, List.getElem?_map, Option.map_eq_some_iff] at hnode
      obtain ⟨f, hf, rfl⟩ := hnode
      exact ⟨[f], .stop hf, by simp, rfl⟩
    | @step selection ns i position node hnode hrest ih =>
      subst hselection
      rw [within_eq, List.getElem?_map, Option.map_eq_some_iff] at hnode
      obtain ⟨f, hf, rfl⟩ := hnode
      obtain ⟨hops', o, rfl, hobject, -⟩ := exists_of_isPath_below hrest
      have hbelow : within d.object? hops' o.fields = below d (hops' + 1) f := by
        rw [below, hobject]
      obtain ⟨fs, hwalk, hlength, rfl⟩ := ih hbelow
      obtain ⟨hfirst, hname⟩ := Schema.Document.object?_eq_some_iff.mp hobject
      refine ⟨f :: fs, .step hf hfirst hname hwalk, ?_, rfl⟩
      rw [List.length_cons]
      omega
  · rintro ⟨fs, hwalk, hlength, rfl⟩
    induction hwalk generalizing hops with
    | stop hf =>
      apply Query.IsPath.stop
      rw [within_eq, List.getElem?_map, hf]
      rfl
    | @step fields fs i position f o hf hfirst hname hwalk ih =>
      have hpos := List.length_pos_of_ne_nil hwalk.ne_nil
      rw [List.length_cons] at hlength
      obtain ⟨hops, rfl⟩ : ∃ hops', hops = hops' + 1 := ⟨hops - 1, by omega⟩
      have hnode : (within d.object? (hops + 1) fields)[i]? =
          some (.plain f.name (below d (hops + 1) f)) := by
        rw [within_eq, List.getElem?_map, hf]
        rfl
      have hrest : Query.IsPath (below d (hops + 1) f) position (nodes d hops fs) := by
        rw [below, Schema.Document.object?_eq_some_iff.mpr ⟨hfirst, hname⟩]
        exact ih (by omega)
      exact .step hnode hrest

/-- Every node for the fields of a walk is a field without arguments. -/
theorem plain_of_mem_nodes {node : Query.Field} (h : node ∈ nodes d hops fs) :
    ∃ selection, node = .plain node.name selection := by
  induction fs generalizing hops with
  | nil => simp [nodes] at h
  | cons f fs ih =>
    rw [nodes, List.mem_cons] at h
    rcases h with rfl | h
    · exact ⟨below d hops f, rfl⟩
    · exact ih h

/-- What is selected below the last node of a path is told by the last field of the walk that leads to
the same position. -/
theorem selection_of_isPath {position : List Nat} {ns : List Query.Field} {node : Query.Field}
    (hpath : Query.IsPath (within d.object? hops fields) position (ns ++ [node]))
    (hwalk : d.Walk fields position (fs ++ [f])) :
    node.selection = below d (hops - fs.length) f := by
  obtain ⟨fs', hwalk', -, hnodes⟩ := isPath_within_iff.mp hpath
  obtain rfl := hwalk.unique hwalk'
  have hlast := congrArg List.getLast? hnodes
  rw [getLast?_nodes] at hlast
  simp only [List.getLast?_append, List.getLast?_singleton, Option.some_or, Option.map_some,
    Option.some.injEq, List.length_append, List.length_singleton, Nat.add_sub_cancel] at hlast
  rw [hlast]
  rfl

/-- **What a selection reaches.** The paths of the selection of fields that stand at a depth are the
walks from these fields which pass through no more object types than the depth leaves over: there is a
path to a position exactly if there is such a walk to it, and it has the names of the fields. No path
passes through more than three object types, and each of its nodes is a field without arguments. A node
has nothing below it exactly if the type of its field is no object type, if the bound is reached, or if
that object type has no fields.

**Proof sketch.** Everything is read off the nodes of the paths, which are those for the fields of the
walks (`Selection.isPath_within_iff`). What is below the last node is told by the last field
(`Selection.selection_of_isPath`). -/
theorem isPath_expand_iff_walk (d : Schema.Document) (fields : List Schema.Field) (depth : Nat) :
    (∀ position names,
      (∃ ns, Query.IsPath (expand d fields depth) position ns ∧ ns.map (·.name) = names) ↔
        ∃ fs, d.Walk fields position fs ∧ fs.length ≤ (3 - depth) + 1 ∧ fs.map (·.name) = names) ∧
    (∀ position ns, Query.IsPath (expand d fields depth) position ns →
      ns.length ≤ 3 + 1 ∧ ∀ node ∈ ns, ∃ selection, node = .plain node.name selection) ∧
    ∀ position ns node fs f, Query.IsPath (expand d fields depth) position (ns ++ [node]) →
      d.Walk fields position (fs ++ [f]) →
      (node.selection = [] ↔ (∀ o ∈ d.objects, o.name ≠ f.type.baseName) ∨ 3 ≤ depth + fs.length ∨
        ∃ o, d.IsFirst o ∧ o.name = f.type.baseName ∧ o.fields = []) := by
  have hexpand : expand d fields depth = within d.object? (3 - depth) fields := rfl
  rw [hexpand]
  refine ⟨?_, ?_, ?_⟩
  · intro position names
    constructor
    · rintro ⟨ns, hpath, rfl⟩
      obtain ⟨fs, hwalk, hlength, rfl⟩ := isPath_within_iff.mp hpath
      exact ⟨fs, hwalk, hlength, (map_name_nodes d _ fs).symm⟩
    · rintro ⟨fs, hwalk, hlength, rfl⟩
      exact ⟨nodes d (3 - depth) fs, isPath_within_iff.mpr ⟨fs, hwalk, hlength, rfl⟩,
        map_name_nodes d _ fs⟩
  · intro position ns hpath
    obtain ⟨fs, hwalk, hlength, rfl⟩ := isPath_within_iff.mp hpath
    refine ⟨?_, fun node hnode => plain_of_mem_nodes hnode⟩
    rw [length_nodes]
    omega
  · intro position ns node fs f hpath hwalk
    rw [selection_of_isPath hpath hwalk, below_eq_nil_iff]
    have hbound : 3 - depth - fs.length = 0 ↔ 3 ≤ depth + fs.length := by omega
    rw [hbound]
    tauto

end Selection

end SchemaQueries
