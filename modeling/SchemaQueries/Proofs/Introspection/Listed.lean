import SchemaQueries.Proofs.Derivation.Outline
import SchemaQueries.Proofs.Introspection.Loaded
import SchemaQueries.Proofs.Introspection.Loading
import SchemaQueries.Proofs.Json.Members

/-!
# The types that an answer lists

What an answer says about a type is under the names of its members. A document that is read from an
answer has the object types and the input object types that the answer lists, whatever else stands in
the answer and in which order.

## Main definitions

* `Introspection.TellsRef`, `Introspection.TellsField`, `Introspection.TellsType` — what a value tells
  of a type reference, of a field and of a type.
* `Introspection.Lists` — the types that an answer lists.

## Main results

* `Introspection.fielded_of_read` — the types with fields of a document that is read.
* `Introspection.lists_answer` — an endpoint lists its types in the answer to the request.

## Implementation notes

A record may also be written as an array of its members, which no endpoint does. Nothing is said of
such answers here.
-/

set_option autoImplicit false
set_option relaxedAutoImplicit false

namespace SchemaQueries.Introspection

open Json (Cause Draft asList asRecord)
open Schema (Fielded)
open Steps (bind_eq_ok_iff map_eq_ok_iff mapError_eq_ok_iff)

/-! ### What an answer says -/

/-- The value tells of the type reference. -/
inductive TellsRef : Json → TypeRef → Prop
  | named {j : Json} {kind name : String} : j.Has "kind" (.string kind) → kind ≠ "NON_NULL" →
      kind ≠ "LIST" → j.Has "name" (.string name) → TellsRef j (.named name)
  | list {j inner : Json} {r : TypeRef} : j.Has "kind" (.string "LIST") → j.Has "ofType" inner →
      TellsRef inner r → TellsRef j (.list r)
  | nonNull {j inner : Json} {r : TypeRef} : j.Has "kind" (.string "NON_NULL") →
      j.Has "ofType" inner → TellsRef inner r → TellsRef j (.nonNull r)

/-- The value tells of the field or input field. -/
structure TellsField (j : Json) (f : String × TypeRef) : Prop where
  name : j.Has "name" (.string f.1)
  type : ∃ r, j.Has "type" r ∧ TellsRef r f.2

/-- The value tells of the type with fields, or of a type of another kind. -/
inductive TellsType : Json → Option Fielded → Prop
  | object {j : Json} {name : String} {items : List Json} {fields : List (String × TypeRef)} :
      j.Has "kind" (.string "OBJECT") → j.Has "name" (.string name) →
      j.Has "fields" (.array items) → List.Forall₂ TellsField items fields →
      TellsType j (some (.object name fields))
  | input {j : Json} {name : String} {items : List Json} {fields : List (String × TypeRef)} :
      j.Has "kind" (.string "INPUT_OBJECT") → j.Has "name" (.string name) →
      j.Has "inputFields" (.array items) → List.Forall₂ TellsField items fields →
      TellsType j (some (.input name fields))
  | other {j : Json} {kind : String} : j.Has "kind" (.string kind) → kind ≠ "OBJECT" →
      kind ≠ "INPUT_OBJECT" → TellsType j none

/-- The value is an answer that lists types in this order. Those of other kinds leave a gap. -/
def Lists (j : Json) (types : List (Option Fielded)) : Prop :=
  ∃ data schema items, j.Has "data" data ∧ data.Has "__schema" schema ∧
    schema.Has "types" (.array items) ∧ List.Forall₂ TellsType items types

/-- Whether a type with fields is none of introspection itself. -/
def isOwn (x : Fielded) : Bool :=
  !(['_', '_'].isPrefixOf x.name.toList)

/-! ### Type references -/

/-- A string is read as it stands. -/
theorem eq_of_asString {s t : String} (h : Json.asString (.string s) = .ok t) : t = s :=
  (Except.ok.inj h).symm

/-- What an object has under a name is one of its members. -/
theorem mem_of_has {members : List (String × Json)} {name : String} {v : Json}
    (h : (Json.object members).Has name v) : (name, v) ∈ members := by
  obtain ⟨members', heq, hmem⟩ := h
  obtain rfl := Json.object.inj heq
  exact hmem

/-- What an object has under a name other than `kind` belongs to the content of a variant. -/
theorem mem_content {members : List (String × Json)} {name : String} {v : Json}
    (h : (Json.object members).Has name v) (hne : name ≠ "kind") :
    (name, v) ∈ members.filter (·.1 ≠ "kind") :=
  List.mem_filter.mpr ⟨mem_of_has h, decide_eq_true hne⟩

/-- Only wrappers have the kinds of wrappers. -/
theorem exists_named_of_lookup {kind : String} {k : RefKind} (h : refKinds.lookup kind = some k)
    (hnonNull : kind ≠ "NON_NULL") (hlist : kind ≠ "LIST") : ∃ title, k = .named title := by
  obtain ⟨before, after, heq, -⟩ := List.lookup_eq_some_iff.mp h
  have hmem : (kind, k) ∈ refKinds := heq ▸ List.mem_append_right before List.mem_cons_self
  simp only [refKinds, List.mem_cons, Prod.mk.injEq, List.not_mem_nil, or_false] at hmem
  rcases hmem with ⟨hkind, -⟩ | ⟨-, rfl⟩ | ⟨-, rfl⟩ | ⟨hkind, -⟩ | ⟨-, rfl⟩ | ⟨-, rfl⟩ |
    ⟨-, rfl⟩ | ⟨-, rfl⟩
  · exact absurd hkind hnonNull
  · exact ⟨_, rfl⟩
  · exact ⟨_, rfl⟩
  · exact absurd hkind hlist
  all_goals exact ⟨_, rfl⟩

/-- The record of a wrapper has read what the value has inside. -/
theorem read_of_wrapperForm {title : Json.Title} {read : Json → Except Cause TypeRef}
    {members : List (String × Json)} {inner : Json} {values : Json.Values [TypeRef]}
    (hinner : (Json.object members).Has "ofType" inner)
    (h : asRecord title (wrapperForm read) (.object (members.filter (·.1 ≠ "kind"))) = .ok values) :
    read inner = .ok values.1 :=
  (Json.reads_of_asRecord (Json.Form.nodup_names_single _) h).1 inner
    (mem_content hinner (show "ofType" ≠ "kind" by decide))

/-- What is read of a type reference by its kind, where the members of the value are known. -/
def ReadByKind (bound : Nat) (members : List (String × Json)) (r : TypeRef) : RefKind → Prop
  | .nonNull => ∃ values, asRecord RefKind.nonNull.title (wrapperForm (asTypeRefWithin bound))
      (.object (members.filter (·.1 ≠ "kind"))) = .ok values ∧ r = .nonNull values.1
  | .list => ∃ values, asRecord RefKind.list.title (wrapperForm (asTypeRefWithin bound))
      (.object (members.filter (·.1 ≠ "kind"))) = .ok values ∧ r = .list values.1
  | .named title => ∃ values, asRecord (RefKind.named title).title namedForm
      (.object (members.filter (·.1 ≠ "kind"))) = .ok values ∧ r = .named values.1

/-- A type reference is read by the kind that the value tells. -/
theorem exists_readByKind {bound : Nat} {j : Json} {kind : String} {r : TypeRef}
    (hkind : j.Has "kind" (.string kind)) (h : asTypeRefWithin bound j = .ok r) :
    ∃ below members k, j = .object members ∧ refKinds.lookup kind = some k ∧
      ReadByKind below members r k := by
  cases bound with
  | zero => cases h
  | succ below =>
    obtain ⟨members, rfl, hmem⟩ := hkind
    obtain ⟨⟨k, content⟩, htagged, h⟩ := bind_eq_ok_iff.mp h
    obtain ⟨hlookup, rfl⟩ := Json.eq_of_asTagged htagged hmem
    refine ⟨below, members, k, rfl, hlookup, ?_⟩
    cases k with
    | nonNull | list | named =>
      obtain ⟨values, hrecord, h⟩ := bind_eq_ok_iff.mp h
      cases h
      exact ⟨values, hrecord, rfl⟩

/-- A type reference is read as the one that the value tells of.

**Proof sketch.** Induction on what is told. The kind decides which record is read, and that has what
the value has under `name` or `ofType`. -/
theorem eq_of_asTypeRefWithin {j : Json} {r r' : TypeRef} (hj : TellsRef j r) {bound : Nat}
    (h : asTypeRefWithin bound j = .ok r') : r' = r := by
  induction hj generalizing bound r' with
  | @named j kind name hkind hnonNull hlist hname =>
    obtain ⟨below, members, k, rfl, hlookup, hread⟩ := exists_readByKind hkind h
    obtain ⟨title, rfl⟩ := exists_named_of_lookup hlookup hnonNull hlist
    obtain ⟨values, hrecord, rfl⟩ := hread
    obtain ⟨hread, -⟩ := Json.reads_of_asRecord (Json.Form.nodup_names_single _) hrecord
    rw [eq_of_asString (hread _ (mem_content hname (by decide)))]
  | @list j inner r hkind hinner _ ih =>
    obtain ⟨below, members, k, rfl, hlookup, hread⟩ := exists_readByKind hkind h
    obtain rfl : RefKind.list = k := Option.some.inj hlookup
    obtain ⟨values, hrecord, rfl⟩ := hread
    exact congrArg TypeRef.list (ih (read_of_wrapperForm hinner hrecord))
  | @nonNull j inner r hkind hinner _ ih =>
    obtain ⟨below, members, k, rfl, hlookup, hread⟩ := exists_readByKind hkind h
    obtain rfl : RefKind.nonNull = k := Option.some.inj hlookup
    obtain ⟨values, hrecord, rfl⟩ := hread
    exact congrArg TypeRef.nonNull (ih (read_of_wrapperForm hinner hrecord))

/-! ### Fields -/

/-- A field is read as the one that the value tells of. -/
theorem eq_of_asField {j : Json} {f : String × TypeRef} {g : Schema.Field} (hj : TellsField j f)
    (h : asField j = .ok g) : (g.name, g.type) = f := by
  obtain ⟨hname, r, htype, hr⟩ := hj
  obtain ⟨members, rfl, hmem⟩ := hname
  obtain ⟨⟨name, description, arguments, type, _⟩, hrecord, h⟩ := bind_eq_ok_iff.mp h
  cases h
  obtain ⟨hreadName, -, -, hreadType, -⟩ := Json.reads_of_asRecord (by decide) hrecord
  rw [eq_of_asString (hreadName _ hmem), eq_of_asTypeRefWithin hr (hreadType _ (mem_of_has htype))]

/-- An input field is read as the one that the value tells of. -/
theorem eq_of_asInputValue {j : Json} {f : String × TypeRef} {v : Schema.InputValue}
    (hj : TellsField j f) (h : asInputValue j = .ok v) : (v.name, v.type) = f := by
  obtain ⟨hname, r, htype, hr⟩ := hj
  obtain ⟨members, rfl, hmem⟩ := hname
  obtain ⟨⟨name, description, type, _⟩, hrecord, h⟩ := bind_eq_ok_iff.mp h
  cases h
  obtain ⟨hreadName, -, hreadType, -⟩ := Json.reads_of_asRecord (by decide) hrecord
  rw [eq_of_asString (hreadName _ hmem), eq_of_asTypeRefWithin hr (hreadType _ (mem_of_has htype))]

/-- A list is read item by item. -/
theorem map_eq_of_asList {α β : Type} {read : Json → Except Cause α} {told : Json → β → Prop}
    {f : α → β} {items : List Json} {xs : List α} {ys : List β}
    (h : asList read (.array items) = .ok xs) (hitems : List.Forall₂ told items ys)
    (hread : ∀ {j x y}, told j y → read j = .ok x → f x = y) : xs.map f = ys := by
  have hxs := Steps.mapM_eq_ok_iff.mp (show items.mapM read = .ok xs from h)
  induction hitems generalizing xs with
  | nil =>
    obtain rfl := List.forall₂_nil_left_iff.mp hxs
    rfl
  | @cons j y items ys hj hitems ih =>
    obtain ⟨x, rest, hx, hrest, rfl⟩ := List.forall₂_cons_left_iff.mp hxs
    rw [List.map_cons, hread hj hx, ih (Steps.mapM_eq_ok_iff.mpr hrest) hrest]

/-! ### Types -/

/-- A type is read with the name and the parts that the value has. -/
theorem eq_of_asTypeWith {α : Type} {title member name : String} {read : Json → Except Cause α}
    {body : List α → Schema.TypeBody} {t : Schema.TypeDefinition} {v : Json}
    {members : List (String × Json)} (hname : (Json.object members).Has "name" (.string name))
    (hmember : (Json.object members).Has member v)
    (hfresh : member ∉ ["kind", "name", "description"])
    (h : asTypeWith title member read body (.object (members.filter (·.1 ≠ "kind"))) = .ok t) :
    ∃ parts, t.name = name ∧ t.body = body parts ∧ asList read v = .ok parts := by
  obtain ⟨⟨name', description, parts, _⟩, hrecord, h⟩ := bind_eq_ok_iff.mp h
  cases h
  simp only [List.mem_cons, List.not_mem_nil, or_false, not_or] at hfresh
  have hnames : (typeForm member read).names.Nodup := by
    simp [typeForm, nameEntry, descriptionEntry, Json.Entry.required, Json.Entry.optional,
      Json.Form.names, Ne.symm hfresh.2.1, Ne.symm hfresh.2.2]
  obtain ⟨hreadName, -, hreadParts, -⟩ := Json.reads_of_asRecord hnames hrecord
  exact ⟨parts, eq_of_asString (hreadName _ (mem_content hname (show "name" ≠ "kind" by decide))),
    rfl, hreadParts v (mem_content hmember hfresh.1)⟩

/-- Only object and input object types have their kinds. -/
theorem ne_of_lookup_typeKinds {kind : String} {k : TypeKind}
    (h : typeKinds.lookup kind = some k) (hobject : kind ≠ "OBJECT")
    (hinput : kind ≠ "INPUT_OBJECT") : k ≠ .object ∧ k ≠ .inputObject := by
  obtain ⟨before, after, heq, -⟩ := List.lookup_eq_some_iff.mp h
  have hmem : (kind, k) ∈ typeKinds := heq ▸ List.mem_append_right before List.mem_cons_self
  simp only [typeKinds, List.mem_cons, Prod.mk.injEq, List.not_mem_nil, or_false] at hmem
  rcases hmem with ⟨hkind, -⟩ | ⟨-, rfl⟩ | ⟨-, rfl⟩ | ⟨hkind, -⟩ | ⟨-, rfl⟩ | ⟨-, rfl⟩
  · exact absurd hkind hobject
  · decide
  · decide
  · exact absurd hkind hinput
  all_goals decide

/-- A type of another kind has no fields that queries could depend on. -/
theorem fielded?_of_asTypeOf {content : Json} {k : TypeKind} {t : Option Schema.TypeDefinition}
    (hobject : k ≠ .object) (hinput : k ≠ .inputObject) (h : asTypeOf content k = .ok t) :
    t.bind Schema.TypeDefinition.fielded? = none := by
  cases k with
  | object => exact absurd rfl hobject
  | inputObject => exact absurd rfl hinput
  | enum =>
    obtain ⟨u, hu, rfl⟩ := map_eq_ok_iff.mp h
    obtain ⟨_, -, hu⟩ := bind_eq_ok_iff.mp hu
    cases hu
    rfl
  | scalar | interface | union =>
    obtain ⟨_, -, h⟩ := bind_eq_ok_iff.mp h
    cases h
    rfl

/-- A type is read as the one that the value tells of.

**Proof sketch.** The value is tagged with its kind, and this decides how it is read. An object or input
type is read with the name and the fields that the value tells of; of any other kind nothing with fields
comes out. -/
theorem fielded?_of_readType {j : Json} {x : Option Fielded} {room : Nat}
    {t : Option Schema.TypeDefinition} (hj : TellsType j x)
    (h : readType room (Draft.ofJson j) = .ok t) :
    t.bind Schema.TypeDefinition.fielded? = x := by
  obtain ⟨⟨k, content⟩, htagged, h⟩ := bind_eq_ok_iff.mp h
  have h := mapError_eq_ok_iff.mp h
  cases hj with
  | @object name items fields hkind hname hitems hfields =>
    obtain ⟨members, rfl, hmem⟩ := hkind
    obtain ⟨hlookup, rfl⟩ := Json.eq_of_readTagged htagged hmem
    obtain rfl : TypeKind.object = k := Option.some.inj hlookup
    obtain ⟨u, hu, rfl⟩ := map_eq_ok_iff.mp h
    obtain ⟨parts, hname, hbody, hparts⟩ := eq_of_asTypeWith hname hitems (by decide) hu
    have hmap := map_eq_of_asList hparts hfields eq_of_asField
    rw [Option.bind_some, Schema.TypeDefinition.fielded?, hbody, hname, ← hmap]
  | @input name items fields hkind hname hitems hfields =>
    obtain ⟨members, rfl, hmem⟩ := hkind
    obtain ⟨hlookup, rfl⟩ := Json.eq_of_readTagged htagged hmem
    obtain rfl : TypeKind.inputObject = k := Option.some.inj hlookup
    obtain ⟨u, hu, rfl⟩ := map_eq_ok_iff.mp h
    obtain ⟨parts, hname, hbody, hparts⟩ := eq_of_asTypeWith hname hitems (by decide) hu
    have hmap := map_eq_of_asList hparts hfields eq_of_asInputValue
    rw [Option.bind_some, Schema.TypeDefinition.fielded?, hbody, hname, ← hmap]
  | @other kind hkind hobject hinput =>
    obtain ⟨members, rfl, hmem⟩ := hkind
    obtain ⟨hlookup, rfl⟩ := Json.eq_of_readTagged htagged hmem
    obtain ⟨hobject, hinput⟩ := ne_of_lookup_typeKinds hlookup hobject hinput
    exact fielded?_of_asTypeOf hobject hinput h

/-! ### Answers -/

/-- The types of a list are read as those that the values tell of. -/
theorem map_fielded?_of_readItems {items : List Json} {xs : List (Option Fielded)} {room i : Nat}
    {types : Listing} (hitems : List.Forall₂ TellsType items xs)
    (h : Json.readItems (readType room) .closed i (Draft.ofItems items) = .ok types) :
    types.map (·.bind Schema.TypeDefinition.fielded?) = xs := by
  induction hitems generalizing i types with
  | nil =>
    cases h
    rfl
  | @cons j x items xs hj hitems ih =>
    rw [Draft.ofItems, Json.readItems] at h
    obtain ⟨t, ht, h⟩ := bind_eq_ok_iff.mp h
    obtain ⟨rest, hrest, h⟩ := bind_eq_ok_iff.mp h
    cases h
    rw [List.map_cons, fielded?_of_readType hj (mapError_eq_ok_iff.mp ht), ih hrest]

/-- The listing of an answer is read as the one that it tells of.

**Proof sketch.** The reader goes into `data`, `__schema` and `types` in turn. In each record a member
of this name is there, so what is read for the name is read from its value (`Json.reads_of_readRecord`).
The list at the end is read item by item. -/
theorem map_fielded?_of_readResponse {j : Json} {xs : List (Option Fielded)} {room : Nat}
    {types : Listing} {errors : List String} (hj : Lists j xs)
    (h : readResponse room (Draft.ofJson j) = .ok ⟨some types, errors⟩) :
    types.map (·.bind Schema.TypeDefinition.fielded?) = xs := by
  obtain ⟨data, schema, items, ⟨members, rfl, hdata⟩, ⟨dataMembers, rfl, hschema⟩,
    ⟨schemaMembers, rfl, htypes⟩, hitems⟩ := hj
  have hnames (room : Nat) : (responseForm room).names.Nodup :=
    show ["data", "errors"].Nodup by decide
  obtain ⟨⟨types', errors', _⟩, hresponse, h⟩ := bind_eq_ok_iff.mp h
  cases h
  obtain ⟨room, hreadData, -⟩ := Json.reads_of_readRecord hnames hresponse
  have hdata := Json.eq_ok_of_readOption (hreadData _ (List.mem_map_of_mem hdata))
  obtain ⟨⟨types', _⟩, hrecord, h⟩ := bind_eq_ok_iff.mp hdata
  cases h
  obtain ⟨room, hreadSchema, -⟩ :=
    Json.reads_of_readRecord (fun _ => Json.Form.nodup_names_single _) hrecord
  obtain ⟨⟨types', _⟩, hrecord, h⟩ := bind_eq_ok_iff.mp (hreadSchema _ (List.mem_map_of_mem hschema))
  cases h
  obtain ⟨room, hreadTypes, -⟩ :=
    Json.reads_of_readRecord (fun _ => Json.Form.nodup_names_single _) hrecord
  have hlist := hreadTypes _ (List.mem_map_of_mem htypes)
  rw [Draft.ofJson] at hlist
  obtain ⟨room, hread⟩ := Json.exists_of_nested hlist
  exact map_fielded?_of_readItems hitems hread

/-- A type with fields is kept exactly if it is none of introspection itself. -/
theorem fielded?_of_kept (t : Option Schema.TypeDefinition) :
    (t.filter fun t => !isMeta t && !isBuiltIn t).bind Schema.TypeDefinition.fielded? =
      (t.bind Schema.TypeDefinition.fielded?).filter isOwn := by
  match t with
  | none => rfl
  | some ⟨_, name, _, .object _ fields⟩ | some ⟨_, name, _, .input fields⟩ =>
    simp only [Option.filter, isMeta, isBuiltIn, Bool.not_false, Bool.and_true]
    cases hmeta : ['_', '_'].isPrefixOf name.toList <;>
      simp [Schema.TypeDefinition.fielded?, isOwn, Fielded.name, hmeta]
  | some ⟨_, _, _, .scalar⟩ | some ⟨_, _, _, .interface ..⟩ | some ⟨_, _, _, .union _⟩
  | some ⟨_, _, _, .enum _⟩ =>
    simp only [Option.filter]
    split <;> rfl

/-- The types with fields of a document are those of the listing that are none of introspection
itself. -/
theorem fielded_documentOf (types : Listing) :
    (documentOf types).fielded =
      ((types.map (·.bind Schema.TypeDefinition.fielded?)).filterMap id).filter isOwn := by
  simp only [documentOf, Schema.Document.fielded, List.filterMap_map, List.filter_filterMap,
    List.filterMap_filterMap, Function.comp_def, id]
  exact List.filterMap_congr fun t _ => fielded?_of_kept t

/-- The types with fields of a document that is read from an answer are those that the answer lists,
but for those of introspection itself. -/
theorem fielded_of_read {j : Json} {body : List Char} {xs : List (Option Fielded)}
    {d : Schema.Document} (hbody : j.IsTextOf body) (hj : Lists j xs) (h : read body = .ok d) :
    d.fielded = (xs.filterMap id).filter isOwn := by
  obtain ⟨types, errors, hread, rfl⟩ := read_eq_ok_iff.mp h
  rw [Json.read, Json.draft_of_isTextOf hbody] at hread
  rw [fielded_documentOf, map_fielded?_of_readResponse hj hread]

/-! ### Endpoints -/

section Endpoint

variable {types : List Schema.TypeDefinition}

/-- An endpoint tells of type references, as far as it looks through their wrappers.

**Proof sketch.** Induction on the reference. A named type is answered with the kind of its definition,
which is never that of a wrapper. A wrapper takes one of the levels, and the reference inside is
answered with those that are left. -/
theorem tellsRef_refAnswer {levels : Nat} {r : TypeRef} (h : r.wrappers ≤ levels) :
    TellsRef (refAnswer types levels r) r := by
  induction r generalizing levels with
  | named name =>
    have hkind : kindOf types name ≠ "NON_NULL" ∧ kindOf types name ≠ "LIST" := by
      unfold kindOf
      split
      · next t _ => cases t.body <;> simp [Schema.TypeBody.kindName]
      · decide
    cases levels with
    | zero =>
      rw [refAnswer_zero]
      exact .named ⟨_, rfl, .head _⟩ hkind.1 hkind.2 ⟨_, rfl, .tail _ (.head _)⟩
    | succ levels =>
      rw [refAnswer_named]
      exact .named ⟨_, rfl, .head _⟩ hkind.1 hkind.2 ⟨_, rfl, .tail _ (.head _)⟩
  | list item ih =>
    obtain ⟨levels, rfl⟩ := Nat.exists_eq_succ_of_ne_zero (Nat.ne_zero_of_lt h)
    rw [refAnswer_list]
    exact .list ⟨_, rfl, .head _⟩ ⟨_, rfl, .tail _ (.tail _ (.head _))⟩
      (ih (Nat.le_of_succ_le_succ h))
  | nonNull inner ih =>
    obtain ⟨levels, rfl⟩ := Nat.exists_eq_succ_of_ne_zero (Nat.ne_zero_of_lt h)
    rw [refAnswer_nonNull]
    exact .nonNull ⟨_, rfl, .head _⟩ ⟨_, rfl, .tail _ (.tail _ (.head _))⟩
      (ih (Nat.le_of_succ_le_succ h))

/-- An endpoint tells of a field. -/
theorem tellsField_fieldAnswer {f : Schema.Field} (h : f.type.wrappers ≤ wrapperLevels) :
    TellsField (fieldAnswer types f) (f.name, f.type) where
  name := ⟨_, rfl, .head _⟩
  type := ⟨_, ⟨_, rfl, .tail _ (.tail _ (.tail _ (.head _)))⟩, tellsRef_refAnswer h⟩

/-- An endpoint tells of an input field. -/
theorem tellsField_inputAnswer {v : Schema.InputValue} (h : v.type.wrappers ≤ wrapperLevels) :
    TellsField (inputAnswer types v) (v.name, v.type) where
  name := ⟨_, rfl, .head _⟩
  type := ⟨_, ⟨_, rfl, .tail _ (.tail _ (.head _))⟩, tellsRef_refAnswer h⟩

/-- An endpoint tells of a type. -/
theorem tellsType_typeAnswer {t : Schema.TypeDefinition}
    (h : ∀ r ∈ t.body.refs, r.wrappers ≤ wrapperLevels) :
    TellsType (typeAnswer types t) t.fielded? := by
  obtain ⟨description, name, directives, body⟩ := t
  cases body with
  | object interfaces fields =>
    refine .object ⟨_, rfl, .head _⟩ ⟨_, rfl, .tail _ (.head _)⟩
      ⟨_, rfl, .tail _ (.tail _ (.tail _ (.head _)))⟩ ?_
    rw [List.forall₂_map_left_iff, List.forall₂_map_right_iff, List.forall₂_same]
    exact fun f hf => tellsField_fieldAnswer
      (h f.type (List.mem_flatMap.mpr ⟨f, hf, List.mem_cons_self⟩))
  | input fields =>
    refine .input ⟨_, rfl, .head _⟩ ⟨_, rfl, .tail _ (.head _)⟩
      ⟨_, rfl, .tail _ (.tail _ (.tail _ (.tail _ (.head _))))⟩ ?_
    rw [List.forall₂_map_left_iff, List.forall₂_map_right_iff, List.forall₂_same]
    exact fun v hv => tellsField_inputAnswer (h v.type (List.mem_map_of_mem hv))
  | scalar | interface | union | enum =>
    exact .other ⟨_, rfl, .head _⟩
      (by simp [Schema.TypeBody.kindName]) (by simp [Schema.TypeBody.kindName])

/-- An endpoint lists its types in the answer to the request, if the request looks through all
wrappers of their type references. -/
theorem lists_answer (h : ∀ t ∈ types, ∀ r ∈ t.body.refs, r.wrappers ≤ wrapperLevels) :
    Lists (request.answer types) (types.map Schema.TypeDefinition.fielded?) := by
  rw [request_answer]
  refine ⟨_, _, _, ⟨_, rfl, .head _⟩, ⟨_, rfl, .head _⟩, ⟨_, rfl, .head _⟩, ?_⟩
  rw [List.forall₂_map_left_iff, List.forall₂_map_right_iff, List.forall₂_same]
  exact fun t ht => tellsType_typeAnswer (h t ht)

end Endpoint

end SchemaQueries.Introspection
