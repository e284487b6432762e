import SchemaQueries.Introspection.Response
import SchemaQueries.Proofs.Introspection.AnswerShape
import SchemaQueries.Proofs.Introspection.Told
import SchemaQueries.Proofs.Json.Compact
import SchemaQueries.Proofs.Json.Readers
import SchemaQueries.Proofs.Json.Records

/-!
# Loading a schema by introspection

The request for a schema looks through a fixed number of list and non-null wrappers, and the answer
is cut off behind them. A schema whose type references have no more wrappers than that is loaded
as it is, but for what an answer does not tell. Any other schema is refused: no type reference is
ever shortened.

## Main results

* `Introspection.givesIf_asTypeRef` — a type reference is read exactly if it is not cut off.
* `Introspection.read_answer` — a schema is loaded as it is, or not at all.
-/

set_option autoImplicit false
set_option relaxedAutoImplicit false

namespace SchemaQueries.Introspection

open Json (Cause Draft asList asRecord)
open Json (givesIf_asRecord givesIf_fill_nil givesIf_fill_taken givesIf_fill_unknown)
open Steps (GivesIf)

variable (types : List Schema.TypeDefinition)

/-! ### Type references -/

/-- The kind of a type with a name is that of a named type reference. -/
theorem lookup_refKinds_kindOf (name : String) :
    ∃ title, refKinds.lookup (kindOf types name) = some (.named title) := by
  unfold kindOf
  split
  · next t _ => cases t.body <;> exact ⟨_, rfl⟩
  · exact ⟨_, rfl⟩

/-- A reference to a named type is read as that. -/
theorem asTypeRefWithin_named (levels bound : Nat) (name : String) :
    asTypeRefWithin (bound + 1) (refAnswer types levels (.named name)) = .ok (.named name) := by
  obtain ⟨title, htitle⟩ := lookup_refKinds_kindOf types name
  cases levels with
  | zero =>
    rw [refAnswer_zero, asTypeRefWithin, refKind, Json.asTagged_object htitle (by simp)]
    rfl
  | succ levels =>
    rw [refAnswer_named, asTypeRefWithin, Json.asTagged_object htitle (by simp)]
    rfl

/-- The type inside a wrapper is read as it stands. -/
theorem givesIf_wrapperForm {title : Json.Title} {read : Json → Except Cause TypeRef} {p : Prop}
    {j : Json} {r : TypeRef} (h : GivesIf p (read j) r) :
    GivesIf p (asRecord title (wrapperForm read) (.object [("name", .null), ("ofType", j)]))
      (r, ()) := by
  have hfill : GivesIf (p ∧ True) ([("name", .null), ("ofType", j)].foldlM
      (Json.fillMember (wrapperForm read)) (Json.Slots.empty [TypeRef])) (some r, ()) :=
    givesIf_fill_unknown rfl (givesIf_fill_taken (.head rfl h) givesIf_fill_nil)
  exact (givesIf_asRecord hfill rfl).congr (and_iff_left trivial)

/-- A list is read as its items are. -/
theorem givesIf_asTypeRefWithin_list {bound : Nat} {p : Prop} {j : Json} {r : TypeRef}
    (h : GivesIf p (asTypeRefWithin bound j) r) :
    GivesIf p (asTypeRefWithin (bound + 1)
      (.object [("kind", .string "LIST"), ("name", .null), ("ofType", j)])) (.list r) := by
  have hkind : refKinds.lookup "LIST" = some .list := rfl
  rw [asTypeRefWithin, Json.asTagged_object hkind (by simp)]
  exact (givesIf_wrapperForm h).map _

/-- A non-null type is read as the type inside it is. -/
theorem givesIf_asTypeRefWithin_nonNull {bound : Nat} {p : Prop} {j : Json} {r : TypeRef}
    (h : GivesIf p (asTypeRefWithin bound j) r) :
    GivesIf p (asTypeRefWithin (bound + 1)
      (.object [("kind", .string "NON_NULL"), ("name", .null), ("ofType", j)])) (.nonNull r) := by
  have hkind : refKinds.lookup "NON_NULL" = some .nonNull := rfl
  rw [asTypeRefWithin, Json.asTagged_object hkind (by simp)]
  exact (givesIf_wrapperForm h).map _

/-- A wrapper that the answer does not look into is refused. -/
theorem asTypeRefWithin_cutOff (bound : Nat) {r : TypeRef} (h : r.wrappers ≠ 0) :
    ∃ cause, asTypeRefWithin (bound + 1) (refAnswer types 0 r) = .error cause := by
  have hlist : refKinds.lookup "LIST" = some .list := rfl
  have hnonNull : refKinds.lookup "NON_NULL" = some .nonNull := rfl
  cases r with
  | named name => exact absurd rfl h
  | list item =>
    refine ⟨.missingField "ofType", ?_⟩
    rw [refAnswer_zero, asTypeRefWithin, refKind, Json.asTagged_object hlist (by simp)]
    rfl
  | nonNull inner =>
    refine ⟨.missingField "ofType", ?_⟩
    rw [refAnswer_zero, asTypeRefWithin, refKind, Json.asTagged_object hnonNull (by simp)]
    rfl

/-- A type reference is read exactly if the answer looks through all of its wrappers.

**Proof sketch.** Induction on the wrappers that are looked through. Behind the last of them stands
either the name or one more wrapper, which lacks what is inside it. -/
theorem givesIf_asTypeRefWithin (levels : Nat) (r : TypeRef) (bound : Nat)
    (hbound : min levels r.wrappers < bound) :
    GivesIf (r.wrappers ≤ levels) (asTypeRefWithin bound (refAnswer types levels r)) r := by
  induction levels generalizing r bound with
  | zero =>
    obtain ⟨bound, rfl⟩ := Nat.exists_eq_succ_of_ne_zero (Nat.ne_zero_of_lt hbound)
    constructor
    · intro h
      cases r with
      | named name => exact asTypeRefWithin_named types 0 bound name
      | list item => exact absurd h (Nat.not_succ_le_zero _)
      | nonNull inner => exact absurd h (Nat.not_succ_le_zero _)
    · intro h
      exact asTypeRefWithin_cutOff types bound fun hzero => h (Nat.le_of_eq hzero)
  | succ levels ih =>
    obtain ⟨bound, rfl⟩ := Nat.exists_eq_succ_of_ne_zero (Nat.ne_zero_of_lt hbound)
    cases r with
    | named name =>
      exact (GivesIf.of_ok (asTypeRefWithin_named types (levels + 1) bound name)).congr
        (iff_of_true trivial (Nat.zero_le _))
    | list item =>
      have hitem := ih item bound (by simp only [TypeRef.wrappers] at hbound; omega)
      rw [refAnswer_list]
      exact (givesIf_asTypeRefWithin_list hitem).congr Nat.succ_le_succ_iff.symm
    | nonNull inner =>
      have hinner := ih inner bound (by simp only [TypeRef.wrappers] at hbound; omega)
      rw [refAnswer_nonNull]
      exact (givesIf_asTypeRefWithin_nonNull hinner).congr Nat.succ_le_succ_iff.symm

/-- A type reference is read exactly if the answer looks through all of its wrappers. -/
theorem givesIf_asTypeRef (levels : Nat) (r : TypeRef) :
    GivesIf (r.wrappers ≤ levels) (asTypeRef (refAnswer types levels r)) r := by
  refine givesIf_asTypeRefWithin types levels r _ ?_
  rw [depth_refAnswer]
  omega

/-! ### Members of types -/

/-- A list is read exactly if each of its items is. -/
theorem givesIf_asList {α β : Type} {read : Json → Except Cause β} {answer : α → Json}
    {c : α → Prop} {r : α → β} (h : ∀ x, GivesIf (c x) (read (answer x)) (r x)) (xs : List α) :
    GivesIf (∀ x ∈ xs, c x) (asList read (.array (xs.map answer))) (xs.map r) := by
  rw [asList, List.mapM_map]
  exact GivesIf.mapM fun x _ => h x

/-- A description is read as it stands. -/
theorem asOption_textOrNull (s : Option String) :
    Json.asOption Json.asString (textOrNull s) = .ok s := by
  cases s <;> rfl

/-- An argument or an input field is read exactly if its type is. -/
theorem givesIf_asInputValue (v : Schema.InputValue) :
    GivesIf (v.type.wrappers ≤ wrapperLevels) (asInputValue (inputAnswer types v)) v.bare := by
  have hdescription := GivesIf.of_ok (asOption_textOrNull v.description)
  have htype := givesIf_asTypeRef types wrapperLevels v.type
  have hfill : GivesIf (True ∧ True ∧ v.type.wrappers ≤ wrapperLevels ∧ True)
      ([("name", .string v.name), ("description", textOrNull v.description),
        ("type", refAnswer types wrapperLevels v.type)].foldlM (Json.fillMember inputValueForm)
        (Json.Slots.empty _)) (some v.name, some v.description, some v.type, ()) := by
    refine givesIf_fill_taken (.head rfl (.of_ok rfl)) ?_
    refine givesIf_fill_taken (.tail (by decide) (.head rfl hdescription)) ?_
    exact givesIf_fill_taken (.tail (by decide) (.tail (by decide) (.head rfl htype)))
      givesIf_fill_nil
  refine GivesIf.congr ((givesIf_asRecord hfill rfl).bind (.of_ok rfl)) ?_
  simp only [true_and, and_true]

/-- A field is read exactly if its type and those of its arguments are.

**Proof sketch.** The members of the answer are taken one after the other, each into a slot that is
still free. Name and description are always read; the arguments and the type are read exactly if their
references are within the levels. -/
theorem givesIf_asField (f : Schema.Field) :
    GivesIf (∀ r ∈ f.refs, r.wrappers ≤ wrapperLevels) (asField (fieldAnswer types f)) f.bare := by
  have hdescription := GivesIf.of_ok (asOption_textOrNull f.description)
  have htype := givesIf_asTypeRef types wrapperLevels f.type
  have harguments := givesIf_asList (givesIf_asInputValue types) f.arguments
  have hfill : GivesIf (True ∧ True ∧ (∀ v ∈ f.arguments, v.type.wrappers ≤ wrapperLevels) ∧
      f.type.wrappers ≤ wrapperLevels ∧ True)
      ([("name", .string f.name), ("description", textOrNull f.description),
        ("args", .array (f.arguments.map (inputAnswer types))),
        ("type", refAnswer types wrapperLevels f.type)].foldlM (Json.fillMember fieldForm)
        (Json.Slots.empty _))
      (some f.name, some f.description, some (f.arguments.map Schema.InputValue.bare),
        some f.type, ()) := by
    refine givesIf_fill_taken (.head rfl (.of_ok rfl)) ?_
    refine givesIf_fill_taken (.tail (by decide) (.head rfl hdescription)) ?_
    refine givesIf_fill_taken (.tail (by decide) (.tail (by decide) (.head rfl harguments))) ?_
    exact givesIf_fill_taken (.tail (by decide) (.tail (by decide) (.tail (by decide)
      (.head rfl htype)))) givesIf_fill_nil
  refine GivesIf.congr ((givesIf_asRecord hfill rfl).bind (.of_ok rfl)) ?_
  rw [Schema.Field.refs, List.forall_mem_cons, List.forall_mem_map]
  simp only [true_and, and_true]
  exact and_comm

/-- An enum value is read as it stands. -/
theorem asEnumValue_valueAnswer (v : Schema.EnumValue) :
    asEnumValue (valueAnswer v) = .ok v.bare := by
  obtain ⟨description, name, directives⟩ := v
  cases description <;> rfl

/-! ### Types -/

/-- A type with a list of parts is read exactly if its members are. -/
theorem givesIf_asTypeWith {α : Type} {title member name : String} {description : Option String}
    {read : Json → Except Cause α} {body : List α → Schema.TypeBody} {parts : List α}
    {members : List (String × Json)} {p : Prop}
    (hfill : GivesIf p
      (members.foldlM (Json.fillMember (typeForm member read)) (Json.Slots.empty _))
      (some name, some description, some parts, ())) :
    GivesIf p (asTypeWith title member read body (.object members))
      (definition name description (body parts)) := by
  refine GivesIf.congr ((givesIf_asRecord hfill rfl).bind (.of_ok rfl)) ?_
  exact and_iff_left trivial

/-- An object type is read exactly if the types of its fields and of their arguments are. -/
theorem givesIf_asTypeOf_object (description : Option String) (name : String)
    (directives : List Schema.Directive) (interfaces : List String) (fields : List Schema.Field) :
    GivesIf (∀ f ∈ fields, ∀ r ∈ f.refs, r.wrappers ≤ wrapperLevels)
      (asTypeOf (.object (typeMembers types
        ⟨description, name, directives, .object interfaces fields⟩)) .object)
      (some ⟨description, name, [], .object [] (fields.map Schema.Field.bare)⟩) := by
  have hdescription := GivesIf.of_ok (asOption_textOrNull description)
  have hfields := givesIf_asList (givesIf_asField types) fields
  have hfill : GivesIf (True ∧ True ∧ (∀ f ∈ fields, ∀ r ∈ f.refs, r.wrappers ≤ wrapperLevels) ∧
      True)
      ((typeMembers types ⟨description, name, directives, .object interfaces fields⟩).foldlM
        (Json.fillMember (typeForm "fields" asField)) (Json.Slots.empty _))
      (some name, some description, some (fields.map Schema.Field.bare), ()) := by
    refine givesIf_fill_taken (.head rfl (.of_ok rfl)) ?_
    refine givesIf_fill_taken (.tail (by decide) (.head rfl hdescription)) ?_
    refine givesIf_fill_taken (.tail (by decide) (.tail (by decide) (.head rfl hfields))) ?_
    exact givesIf_fill_unknown rfl (givesIf_fill_unknown rfl givesIf_fill_nil)
  refine ((givesIf_asTypeWith hfill).map some).congr ?_
  simp only [true_and, and_true]

/-- An input object type is read exactly if the types of its fields are. -/
theorem givesIf_asTypeOf_input (description : Option String) (name : String)
    (directives : List Schema.Directive) (fields : List Schema.InputValue) :
    GivesIf (∀ v ∈ fields, v.type.wrappers ≤ wrapperLevels)
      (asTypeOf (.object (typeMembers types ⟨description, name, directives, .input fields⟩))
        .inputObject)
      (some ⟨description, name, [], .input (fields.map Schema.InputValue.bare)⟩) := by
  have hdescription := GivesIf.of_ok (asOption_textOrNull description)
  have hfields := givesIf_asList (givesIf_asInputValue types) fields
  have hfill : GivesIf (True ∧ True ∧ (∀ v ∈ fields, v.type.wrappers ≤ wrapperLevels) ∧ True)
      ((typeMembers types ⟨description, name, directives, .input fields⟩).foldlM
        (Json.fillMember (typeForm "inputFields" asInputValue)) (Json.Slots.empty _))
      (some name, some description, some (fields.map Schema.InputValue.bare), ()) := by
    refine givesIf_fill_taken (.head rfl (.of_ok rfl)) ?_
    refine givesIf_fill_taken (.tail (by decide) (.head rfl hdescription)) ?_
    refine givesIf_fill_unknown rfl ?_
    refine givesIf_fill_taken (.tail (by decide) (.tail (by decide) (.head rfl hfields))) ?_
    exact givesIf_fill_unknown rfl givesIf_fill_nil
  refine ((givesIf_asTypeWith hfill).map some).congr ?_
  simp only [true_and, and_true]

/-- An enum type is read as it stands. -/
theorem asTypeOf_enum (description : Option String) (name : String)
    (directives : List Schema.Directive) (values : List Schema.EnumValue) :
    asTypeOf (.object (typeMembers types ⟨description, name, directives, .enum values⟩)) .enum =
      .ok (some ⟨description, name, [], .enum (values.map Schema.EnumValue.bare)⟩) := by
  have hdescription := GivesIf.of_ok (asOption_textOrNull description)
  have hvalues := givesIf_asList (fun v => GivesIf.of_ok (asEnumValue_valueAnswer v)) values
  have hfill : GivesIf (True ∧ True ∧ (∀ v ∈ values, True) ∧ True)
      ((typeMembers types ⟨description, name, directives, .enum values⟩).foldlM
        (Json.fillMember (typeForm "enumValues" asEnumValue)) (Json.Slots.empty _))
      (some name, some description, some (values.map Schema.EnumValue.bare), ()) := by
    refine givesIf_fill_taken (.head rfl (.of_ok rfl)) ?_
    refine givesIf_fill_taken (.tail (by decide) (.head rfl hdescription)) ?_
    refine givesIf_fill_unknown rfl (givesIf_fill_unknown rfl ?_)
    exact givesIf_fill_taken (.tail (by decide) (.tail (by decide) (.head rfl hvalues)))
      givesIf_fill_nil
  exact ((givesIf_asTypeWith hfill).map some).eq_ok (by simp)

/-- A type is read exactly if its type references are. A type of a kind that an answer is not
carried over of leaves a gap.

**Proof sketch.** By cases on the body of the type, which decides its kind. Object and input types
depend on the references of their fields; the other kinds hold no reference that is read. -/
theorem givesIf_asTypeOf (t : Schema.TypeDefinition) {kind : TypeKind}
    (hkind : typeKinds.lookup t.body.kindName = some kind) :
    GivesIf (∀ r ∈ t.body.refs, r.wrappers ≤ wrapperLevels)
      (asTypeOf (.object (typeMembers types t)) kind)
      (if t.body.isTold then some t.bare else none) := by
  obtain ⟨description, name, directives, body⟩ := t
  cases body with
  | object interfaces fields =>
    obtain rfl : TypeKind.object = kind := Option.some.inj hkind
    refine (givesIf_asTypeOf_object types description name directives interfaces fields).congr ?_
    simp only [Schema.TypeBody.refs, List.forall_mem_flatMap]
  | input fields =>
    obtain rfl : TypeKind.inputObject = kind := Option.some.inj hkind
    refine (givesIf_asTypeOf_input types description name directives fields).congr ?_
    rw [Schema.TypeBody.refs, List.forall_mem_map]
  | enum values =>
    obtain rfl : TypeKind.enum = kind := Option.some.inj hkind
    exact (GivesIf.of_ok (asTypeOf_enum types description name directives values)).congr
      (by simp [Schema.TypeBody.refs])
  | scalar =>
    obtain rfl : TypeKind.scalar = kind := Option.some.inj hkind
    refine (GivesIf.of_ok ?_).congr (by simp [Schema.TypeBody.refs])
    cases description <;> rfl
  | interface interfaces fields =>
    obtain rfl : TypeKind.interface = kind := Option.some.inj hkind
    exact (GivesIf.of_ok rfl).congr (by simp [Schema.TypeBody.refs])
  | union members =>
    obtain rfl : TypeKind.union = kind := Option.some.inj hkind
    exact (GivesIf.of_ok rfl).congr (by simp [Schema.TypeBody.refs])

/-- What is read of a type. -/
def told (t : Schema.TypeDefinition) : Option Schema.TypeDefinition :=
  if t.body.isTold then some t.bare else none

/-- A type of the answer is read exactly if its type references are. -/
theorem givesIf_readType {room : Nat} (hroom : 12 ≤ room) (t : Schema.TypeDefinition) :
    GivesIf (∀ r ∈ t.body.refs, r.wrappers ≤ wrapperLevels)
      (readType (room + 1) (Draft.ofJson (typeAnswer types t))) (told t) := by
  obtain ⟨kind, hkind⟩ : ∃ kind, typeKinds.lookup t.body.kindName = some kind := by
    cases t.body <;> exact ⟨_, rfl⟩
  have hdepth := (depthOfMembers_typeMembers_le types t).trans hroom
  rw [readType, typeAnswer, Json.readTagged_ofMembers hkind (by simp [typeMembers]) hdepth]
  exact (givesIf_asTypeOf types t hkind).mapError _

/-- A schema is read exactly if the list of its types is. -/
theorem givesIf_readSchema {room : Nat} {j : Json} {p : Prop} {listing : Listing}
    (h : GivesIf p (Json.readList readType room (Draft.ofJson j)) listing) :
    GivesIf p (readSchema (room + 1) (Draft.ofJson (.object [("types", j)]))) listing := by
  have hrecord : GivesIf p (Json.readRecord (.record "Schema") .lenient schemaForm (room + 1)
      (Draft.ofJson (.object [("types", j)]))) (listing, ()) :=
    Json.givesIf_readRecord_single (if_pos rfl) (h.map fun types => (some types, ())) rfl
  refine GivesIf.congr (hrecord.bind (.of_ok rfl)) ?_
  exact and_iff_left trivial

/-- The data of an answer are read exactly if the schema is. -/
theorem givesIf_readData {room : Nat} {j : Json} {p : Prop} {listing : Listing}
    (h : GivesIf p (readSchema room (Draft.ofJson j)) listing) :
    GivesIf p (readData (room + 1) (Draft.ofJson (.object [("__schema", j)]))) listing := by
  have hrecord : GivesIf p (Json.readRecord (.record "SchemaData") .strict dataForm (room + 1)
      (Draft.ofJson (.object [("__schema", j)]))) (listing, ()) :=
    Json.givesIf_readRecord_single (if_pos rfl) (h.map fun types => (some types, ())) rfl
  refine GivesIf.congr (hrecord.bind (.of_ok rfl)) ?_
  exact and_iff_left trivial

/-- An answer without errors is read exactly if its data are. -/
theorem givesIf_readResponse {room : Nat} {members : List (String × Json)} {p : Prop}
    {listing : Listing}
    (h : GivesIf p (readData room (Draft.ofJson (.object members))) listing) :
    GivesIf p (readResponse (room + 1) (Draft.ofJson (.object [("data", .object members)])))
      { types := some listing, errors := [] } := by
  have hrecord : GivesIf p (Json.readRecord (.record "IntrospectionQueryResponse") .lenient
      responseForm (room + 1) (Draft.ofJson (.object [("data", .object members)])))
      (some listing, [], ()) :=
    Json.givesIf_readRecord_single (if_pos rfl)
      ((h.map some).map fun types => (some types, none, ())) rfl
  refine GivesIf.congr (hrecord.bind (.of_ok rfl)) ?_
  exact and_iff_left trivial

/-- A text that spells the answer to the request is read exactly if the type references of all
object and input object types are. -/
theorem givesIf_read {body : List Char} (h : (request.answer types).IsTextOf body) :
    GivesIf (∀ t ∈ types, ∀ r ∈ t.body.refs, r.wrappers ≤ wrapperLevels)
      (Json.read readResponse body) { types := some (types.map told), errors := [] } := by
  have htypes : GivesIf (∀ t ∈ types, ∀ r ∈ t.body.refs, r.wrappers ≤ wrapperLevels)
      (Json.readList readType 124 (Draft.ofJson (.array (types.map (typeAnswer types)))))
      (types.map told) :=
    Json.givesIf_readList fun t _ => givesIf_readType types (show 12 ≤ 122 by decide) t
  rw [Json.read, Json.draft_of_isTextOf h, request_answer]
  exact givesIf_readResponse (givesIf_readData (givesIf_readSchema htypes))

/-- What is read of a type is kept exactly if the type is carried over. -/
theorem filter_told (t : Schema.TypeDefinition) :
    ((told t).filter fun t => !isMeta t && !isBuiltIn t) =
      if t.isCarried then some t.bare else none := by
  obtain ⟨description, name, directives, body⟩ := t
  cases body with
  | scalar => simp [told, Schema.TypeBody.isTold, Option.filter, isMeta, isBuiltIn,
      Schema.TypeDefinition.isCarried, Schema.TypeDefinition.bare, Schema.TypeBody.bare,
      builtInScalars]
  | _ => simp [told, Schema.TypeBody.isTold, Option.filter, isMeta, isBuiltIn,
      Schema.TypeDefinition.isCarried, Schema.TypeDefinition.bare, Schema.TypeBody.bare]

/-- The document of an answer has the types that are carried over, in the order of the answer, as
the answer tells them. -/
theorem documentOf_map_told :
    documentOf (types.map told) = ⟨(types.filter (·.isCarried)).map fun t => .type t.bare⟩ := by
  have hkept : ((types.map told).filterMap id).filter (fun t => !isMeta t && !isBuiltIn t) =
      (types.filter (·.isCarried)).map (·.bare) := by
    rw [List.filter_filterMap, List.filterMap_map, ← List.filterMap_eq_map, List.filterMap_filter]
    exact congrArg (List.filterMap · types) (funext filter_told)
  rw [documentOf, hkept, List.map_map]
  rfl

/-- **Loading a schema is exact or fails.** Take an endpoint whose schema has the given types, and
any text that spells its answer to the request. If no type reference of an object or input object
type has more than seven list and non-null wrappers, the document read from the text consists of
the object types, the input object types, the enum types and those scalar types that are not
built in, without the types of introspection itself. They stand in the order of the answer, with
all of their members and with every type reference as it is. If some type reference has eight or
more wrappers, the text is refused as a whole.

**Proof sketch.** The text is read as the answer that it spells (`Json.draft_of_isTextOf`), and
the answer lists the types one by one (`request_answer`). By induction on the wrappers, a type
reference is read exactly if it is not cut off (`givesIf_asTypeRefWithin`), and each record is read
exactly if its members are. -/
theorem read_answer {body : List Char} (h : (request.answer types).IsTextOf body) :
    ((∀ t ∈ types, ∀ r ∈ t.body.refs, r.wrappers ≤ 7) →
      read body = .ok ⟨(types.filter (·.isCarried)).map fun t => .type t.bare⟩) ∧
    ((∃ t ∈ types, ∃ r ∈ t.body.refs, 8 ≤ r.wrappers) →
      ∃ failure, read body = .error (.undecodable failure)) := by
  have hread := givesIf_read types h
  constructor
  · intro hwrappers
    rw [read, hread.eq_ok hwrappers]
    exact congrArg Except.ok (documentOf_map_told types)
  · rintro ⟨t, ht, r, hr, hwrappers⟩
    have hnot : ¬ ∀ t ∈ types, ∀ r ∈ t.body.refs, r.wrappers ≤ wrapperLevels := fun hall =>
      Nat.not_succ_le_self 7 (hwrappers.trans (hall t ht r hr))
    obtain ⟨failure, hfailure⟩ := hread.exists_eq_error hnot
    refine ⟨failure, ?_⟩
    rw [read, hfailure]

/-- A schema with a single object type, which has a single field of the type `r`. -/
def notes (r : TypeRef) : List Schema.TypeDefinition :=
  [⟨some "A note", "Note", [], .object [] [⟨none, "tags", [], r, []⟩]⟩]

/-- A type reference with seven wrappers: `[[[Tag!]!]!]!`. -/
def sevenWrappers : TypeRef :=
  .nonNull (.list (.nonNull (.list (.nonNull (.list (.nonNull (.named "Tag")))))))

/-- Seven wrappers are read, eight are refused. -/
theorem read_answer_notes :
    (request.answer (notes sevenWrappers)).IsTextOf
      (Json.compactText (request.answer (notes sevenWrappers))) ∧
    read (Json.compactText (request.answer (notes sevenWrappers))) =
      .ok ⟨(notes sevenWrappers).map .type⟩ ∧
    (request.answer (notes (.list sevenWrappers))).IsTextOf
      (Json.compactText (request.answer (notes (.list sevenWrappers)))) ∧
    ∃ failure, read (Json.compactText (request.answer (notes (.list sevenWrappers)))) =
      .error (.undecodable failure) := by
  have hseven := Json.isTextOf_compactText
    (show (request.answer (notes sevenWrappers)).isNumberless = true by decide)
  have height := Json.isTextOf_compactText
    (show (request.answer (notes (.list sevenWrappers))).isNumberless = true by decide)
  refine ⟨hseven, (read_answer _ hseven).1 (by decide), height, (read_answer _ height).2 ?_⟩
  exact ⟨_, List.mem_singleton_self _, .list sevenWrappers, by decide, by decide⟩

end SchemaQueries.Introspection
