import SchemaQueries.Proofs.Introspection.Answer

/-!
# What the answer to the introspection request looks like

The answer written out: the members that the request selects, of each type, of its fields, input
fields and enum values, and of their type references.

## Main definitions

* `Introspection.refAnswer` — a type reference, cut off behind so many wrappers.
* `Introspection.typeAnswer` — a type with its members.

## Main results

* `Introspection.request_answer` — the answer to the request for a schema.
* `Introspection.depthOfMembers_typeMembers_le` — how far the members of a type nest.
-/

set_option autoImplicit false
set_option relaxedAutoImplicit false

namespace SchemaQueries.Introspection

open Json (depth depthOfItems depthOfMembers)

variable (types : List Schema.TypeDefinition)

/-! ### The parts of the answer -/

/-- A type reference, as far as so many wrappers are looked through. -/
def refAnswer (levels : Nat) (r : TypeRef) : Json :=
  .object (answerParts types (typeParts levels) (.ref r))

/-- An argument or an input field. -/
def inputAnswer (v : Schema.InputValue) : Json :=
  .object [("name", .string v.name), ("description", textOrNull v.description),
    ("type", refAnswer types wrapperLevels v.type)]

/-- A field. -/
def fieldAnswer (f : Schema.Field) : Json :=
  .object [("name", .string f.name), ("description", textOrNull f.description),
    ("args", .array (f.arguments.map (inputAnswer types))),
    ("type", refAnswer types wrapperLevels f.type)]

/-- An enum value. -/
def valueAnswer (v : Schema.EnumValue) : Json :=
  .object [("name", .string v.name), ("description", textOrNull v.description)]

/-- The fields of a type, `null` for the kinds without fields. -/
def fieldsAnswer : Schema.TypeBody → Json
  | .object _ fields | .interface _ fields => .array (fields.map (fieldAnswer types))
  | _ => .null

/-- The input fields of a type, `null` for the kinds without input fields. -/
def inputFieldsAnswer : Schema.TypeBody → Json
  | .input fields => .array (fields.map (inputAnswer types))
  | _ => .null

/-- The values of a type, `null` for the kinds without values. -/
def valuesAnswer : Schema.TypeBody → Json
  | .enum values => .array (values.map valueAnswer)
  | _ => .null

/-- What is answered for a type besides its kind. -/
def typeMembers (t : Schema.TypeDefinition) : List (String × Json) :=
  [("name", .string t.name), ("description", textOrNull t.description),
    ("fields", fieldsAnswer types t.body), ("inputFields", inputFieldsAnswer types t.body),
    ("enumValues", valuesAnswer t.body)]

/-- A type. -/
def typeAnswer (t : Schema.TypeDefinition) : Json :=
  .object (("kind", .string t.body.kindName) :: typeMembers types t)

/-! ### Type references -/

/-- What a type reference answers for its kind. -/
def refKind : TypeRef → String
  | .named name => kindOf types name
  | .list _ => "LIST"
  | .nonNull _ => "NON_NULL"

/-- What a type reference answers for its name. -/
def refName : TypeRef → Json
  | .named name => .string name
  | _ => .null

/-- A type reference that no wrapper is looked through of. -/
theorem refAnswer_zero (r : TypeRef) :
    refAnswer types 0 r = .object [("kind", .string (refKind types r)), ("name", refName r)] := by
  cases r <;> rfl

/-- A reference to a named type wraps nothing. -/
theorem refAnswer_named (levels : Nat) (name : String) :
    refAnswer types (levels + 1) (.named name) =
      .object [("kind", .string (kindOf types name)), ("name", .string name),
        ("ofType", .null)] := rfl

/-- A list wraps the type of its items. -/
theorem refAnswer_list (levels : Nat) (item : TypeRef) :
    refAnswer types (levels + 1) (.list item) =
      .object [("kind", .string "LIST"), ("name", .null), ("ofType", refAnswer types levels item)] :=
  rfl

/-- A non-null type wraps the type that it is of. -/
theorem refAnswer_nonNull (levels : Nat) (inner : TypeRef) :
    refAnswer types (levels + 1) (.nonNull inner) =
      .object [("kind", .string "NON_NULL"), ("name", .null),
        ("ofType", refAnswer types levels inner)] :=
  rfl

/-! ### What is selected -/

/-- What is selected of an argument or an input field, its fragment put in. -/
def inputSelection : List Part :=
  [leaf "name", leaf "description", .member "type" [] (typeParts wrapperLevels)]

/-- What is selected of a field, its fragments put in. -/
def fieldSelection : List Part :=
  [leaf "name", leaf "description", .member "args" [] inputSelection,
    .member "type" [] (typeParts wrapperLevels)]

/-- What is selected of an enum value. -/
def valueSelection : List Part :=
  [leaf "name", leaf "description"]

/-- What is selected of a type, its fragments put in. -/
def typeSelection : List Part :=
  [leaf "kind", leaf "name", leaf "description", .member "fields" withDeprecated fieldSelection,
    .member "inputFields" [] inputSelection, .member "enumValues" withDeprecated valueSelection]

/-- What the request for a schema selects. -/
theorem request_selection :
    request.selection = [.member "__schema" [] [.member "types" [] typeSelection]] := by
  rfl

/-! ### The answer -/

variable {types} in
/-- A member that is a list of values is answered by the answers of these values. -/
theorem answer_of_many {α : Type} {name : String} {arguments : List (String × Value)}
    {parts : List Part} {s : Shown} {shown : α → Shown} {xs : List α} {answer : α → Json}
    (hs : s.member types name arguments = .many (xs.map shown))
    (hx : ∀ x, .object (answerParts types parts (shown x)) = answer x) :
    (Part.member name arguments parts).answer types s = [(name, .array (xs.map answer))] := by
  rw [Part.answer, hs]
  simp only [List.map_map, Function.comp_def, hx]

/-- The answer for an argument or an input field. -/
theorem answer_input (v : Schema.InputValue) :
    .object (answerParts types inputSelection (.input v)) = inputAnswer types v := rfl

/-- The answer for an enum value. -/
theorem answer_value (v : Schema.EnumValue) :
    .object (answerParts types valueSelection (.value v)) = valueAnswer v := rfl

/-- The answer for a field. -/
theorem answer_field (f : Schema.Field) :
    .object (answerParts types fieldSelection (.field f)) = fieldAnswer types f := by
  have hargs : (Part.member "args" [] inputSelection).answer types (.field f) =
      [("args", .array (f.arguments.map (inputAnswer types)))] :=
    answer_of_many rfl (answer_input types)
  rw [fieldSelection, answerParts, answerParts, answerParts, hargs]
  rfl

/-- Deprecated values are asked for too, so none are left out. -/
theorem filter_asksForDeprecated {α : Type} (xs : List α) (deprecated : α → Bool) :
    xs.filter (fun x => asksForDeprecated withDeprecated || deprecated x) = xs :=
  List.filter_eq_self.mpr fun _ _ => rfl

/-- The answer for the fields of a type. -/
theorem answer_fields (t : Schema.TypeDefinition) :
    (Part.member "fields" withDeprecated fieldSelection).answer types (.type t) =
      [("fields", fieldsAnswer types t.body)] := by
  have hmany (fields : List Schema.Field)
      (h : (Shown.type t).member types "fields" withDeprecated =
        .many ((fields.filter fun f => asksForDeprecated withDeprecated ||
          !isDeprecated f.directives).map .field)) :
      (Part.member "fields" withDeprecated fieldSelection).answer types (.type t) =
        [("fields", .array (fields.map (fieldAnswer types)))] := by
    rw [filter_asksForDeprecated] at h
    exact answer_of_many h (answer_field types)
  obtain ⟨description, name, directives, body⟩ := t
  cases body with
  | object interfaces fields => exact hmany fields rfl
  | interface interfaces fields => exact hmany fields rfl
  | _ => rfl

/-- The answer for the input fields of a type. -/
theorem answer_inputFields (t : Schema.TypeDefinition) :
    (Part.member "inputFields" [] inputSelection).answer types (.type t) =
      [("inputFields", inputFieldsAnswer types t.body)] := by
  obtain ⟨description, name, directives, body⟩ := t
  cases body with
  | input fields => exact answer_of_many rfl (answer_input types)
  | _ => rfl

/-- The answer for the values of a type. -/
theorem answer_enumValues (t : Schema.TypeDefinition) :
    (Part.member "enumValues" withDeprecated valueSelection).answer types (.type t) =
      [("enumValues", valuesAnswer t.body)] := by
  obtain ⟨description, name, directives, body⟩ := t
  cases body with
  | enum values =>
    refine answer_of_many ?_ (answer_value types)
    exact congrArg (fun vs => Member.many (vs.map Shown.value)) (filter_asksForDeprecated _ _)
  | _ => rfl

/-- The answer for a type. -/
theorem answer_type (t : Schema.TypeDefinition) :
    .object (answerParts types typeSelection (.type t)) = typeAnswer types t := by
  rw [typeSelection, answerParts, answerParts, answerParts, answerParts, answerParts, answerParts,
    answer_fields, answer_inputFields, answer_enumValues]
  rfl

/-- The answer to the request for a schema lists its types in their order. -/
theorem request_answer :
    request.answer types =
      .object [("data", .object [("__schema", .object [("types",
        .array (types.map (typeAnswer types)))])])] := by
  have htypes : (Part.member "types" [] typeSelection).answer types .schema =
      [("types", .array (types.map (typeAnswer types)))] :=
    answer_of_many rfl (answer_type types)
  have hschema : (Part.member "__schema" [] [.member "types" [] typeSelection]).answer types .root =
      [("__schema", .object ((Part.member "types" [] typeSelection).answer types .schema ++ []))] :=
    rfl
  rw [Request.answer, request_selection, answerParts, hschema, htypes]
  rfl

/-! ### How far an answer nests -/

/-- Items nest as far as each of them does. -/
theorem depthOfItems_map_le {α : Type} {xs : List α} {f : α → Json} {n : Nat}
    (h : ∀ x, depth (f x) ≤ n) : depthOfItems (xs.map f) ≤ n := by
  induction xs with
  | nil => exact Nat.zero_le n
  | cons x xs ih =>
    rw [List.map_cons, depthOfItems, Nat.max_le]
    exact ⟨h x, ih⟩

/-- A description nests nothing. -/
theorem depth_textOrNull (s : Option String) : depth (textOrNull s) = 0 := by
  cases s <;> rfl

/-- The answer for a type reference nests an object for each wrapper that is looked through. -/
theorem depth_refAnswer (levels : Nat) (r : TypeRef) :
    depth (refAnswer types levels r) = min levels r.wrappers + 1 := by
  induction levels generalizing r with
  | zero => cases r <;> simp [refAnswer_zero, depth, depthOfMembers, refName]
  | succ levels ih =>
    cases r with
    | named name => simp [refAnswer_named, depth, depthOfMembers, TypeRef.wrappers]
    | list item =>
      rw [refAnswer_list, depth, depthOfMembers, depthOfMembers, depthOfMembers, ih]
      simp [depth, depthOfMembers, TypeRef.wrappers]
    | nonNull inner =>
      rw [refAnswer_nonNull, depth, depthOfMembers, depthOfMembers, depthOfMembers, ih]
      simp [depth, depthOfMembers, TypeRef.wrappers]

/-- The answer for an enum value nests at most one object. -/
theorem depth_valueAnswer_le (v : Schema.EnumValue) : depth (valueAnswer v) ≤ 1 := by
  simp [valueAnswer, depth, depthOfMembers, depth_textOrNull]

/-- The answer for an argument or an input field nests at most nine objects. -/
theorem depth_inputAnswer_le (v : Schema.InputValue) : depth (inputAnswer types v) ≤ 9 := by
  simp only [inputAnswer, depth, depthOfMembers, depth_textOrNull, depth_refAnswer, wrapperLevels]
  omega

/-- The answer for a field nests at most eleven arrays and objects. -/
theorem depth_fieldAnswer_le (f : Schema.Field) : depth (fieldAnswer types f) ≤ 11 := by
  have hargs : depthOfItems (f.arguments.map (inputAnswer types)) ≤ 9 :=
    depthOfItems_map_le (depth_inputAnswer_le types)
  simp only [fieldAnswer, depth, depthOfMembers, depth_textOrNull, depth_refAnswer, wrapperLevels]
  omega

/-- What is answered for a type nests at most twelve arrays and objects.

**Proof sketch.** By cases on the kind of the type, its fields, its input fields or its values are what
nests deepest. A field nests at most eleven arrays and objects, and an input value nine
(`depth_fieldAnswer_le`, `depth_inputAnswer_le`). -/
theorem depthOfMembers_typeMembers_le (t : Schema.TypeDefinition) :
    depthOfMembers (typeMembers types t) ≤ 12 := by
  have hfields (fields : List Schema.Field) :
      depthOfItems (fields.map (fieldAnswer types)) ≤ 11 :=
    depthOfItems_map_le (depth_fieldAnswer_le types)
  have hinputs (fields : List Schema.InputValue) :
      depthOfItems (fields.map (inputAnswer types)) ≤ 9 :=
    depthOfItems_map_le (depth_inputAnswer_le types)
  have hvalues (values : List Schema.EnumValue) : depthOfItems (values.map valueAnswer) ≤ 1 :=
    depthOfItems_map_le depth_valueAnswer_le
  obtain ⟨description, name, directives, body⟩ := t
  simp only [typeMembers, depthOfMembers, depth_textOrNull, Nat.max_le]
  cases body with
  | object interfaces fields | interface interfaces fields =>
    have hfields := hfields fields
    simp only [fieldsAnswer, inputFieldsAnswer, valuesAnswer, depth]
    omega
  | input fields =>
    have hinputs := hinputs fields
    simp only [fieldsAnswer, inputFieldsAnswer, valuesAnswer, depth]
    omega
  | enum values =>
    have hvalues := hvalues values
    simp only [fieldsAnswer, inputFieldsAnswer, valuesAnswer, depth]
    omega
  | scalar | union members =>
    simp only [fieldsAnswer, inputFieldsAnswer, valuesAnswer, depth]
    omega

end SchemaQueries.Introspection
