import SchemaQueries.Introspection.Response
import SchemaQueries.Proofs.Introspection.Told
import SchemaQueries.Proofs.Json.Origins

/-!
# What a loaded schema holds

A document that is read from an answer, whatever the answer is, holds types only, and these hold
nothing but what introspection tells of: no directives, no default values and no interfaces.

## Main results

* `Introspection.read_eq_ok_iff` — when a document is read from an answer.
* `Introspection.exists_types_of_read` — the types of a document that is read from an answer.
-/

set_option autoImplicit false
set_option relaxedAutoImplicit false

namespace SchemaQueries.Introspection

open Json (Cause Draft asList asRecord)
open Steps (bind_eq_ok_iff map_eq_ok_iff mapError_eq_ok_iff)

/-! ### Members of types -/

/-- An argument or an input field that is read is bare. -/
theorem bare_of_asInputValue {j : Json} {v : Schema.InputValue} (h : asInputValue j = .ok v) :
    v.bare = v := by
  obtain ⟨_, -, h⟩ := bind_eq_ok_iff.mp h
  cases h
  rfl

/-- An enum value that is read is bare. -/
theorem bare_of_asEnumValue {j : Json} {v : Schema.EnumValue} (h : asEnumValue j = .ok v) :
    v.bare = v := by
  obtain ⟨_, -, h⟩ := bind_eq_ok_iff.mp h
  cases h
  rfl

/-- The items of a list are bare if every item that is read is. -/
theorem map_bare_of_asList {α : Type} {read : Json → Except Cause α} {bare : α → α}
    (hread : ∀ j x, read j = .ok x → bare x = x) {j : Json} {xs : List α}
    (h : asList read j = .ok xs) : xs.map bare = xs := by
  have hbare : ∀ x ∈ xs, bare x = id x := by
    intro x hx
    obtain ⟨j, hj⟩ := Json.forall_of_asList h x hx
    exact hread j x hj
  exact (List.map_congr_left hbare).trans (List.map_id xs)

/-- A field that is read is bare. -/
theorem bare_of_asField {j : Json} {f : Schema.Field} (h : asField j = .ok f) : f.bare = f := by
  obtain ⟨⟨name, description, arguments, type, _⟩, hvalues, h⟩ := bind_eq_ok_iff.mp h
  cases h
  obtain ⟨-, -, harguments, -⟩ := Json.gives_of_asRecord hvalues
  have hbare : arguments.map Schema.InputValue.bare = arguments := by
    rcases harguments with ⟨j, hj⟩ | habsent | hcutOff
    · exact map_bare_of_asList (fun j v => bare_of_asInputValue) hj
    · cases habsent
      rfl
    · cases hcutOff
      rfl
  rw [Schema.Field.bare, hbare]

/-! ### Types -/

/-- A type with a list of parts is bare if its parts are. -/
theorem bare_of_asTypeWith {α : Type} {title member : String} {read : Json → Except Cause α}
    {body : List α → Schema.TypeBody} {content : Json} {t : Schema.TypeDefinition}
    (hbody : ∀ j parts, asList read j = .ok parts →
      (body parts).bare = body parts ∧ (body parts).isTold = true)
    (h : asTypeWith title member read body content = .ok t) :
    t.bare = t ∧ t.body.isTold = true := by
  obtain ⟨⟨name, description, parts, _⟩, hvalues, h⟩ := bind_eq_ok_iff.mp h
  cases h
  obtain ⟨-, -, hparts, -⟩ := Json.gives_of_asRecord hvalues
  rcases hparts with ⟨j, hj⟩ | habsent | hcutOff
  · obtain ⟨hbare, htold⟩ := hbody j parts hj
    exact ⟨by rw [Schema.TypeDefinition.bare, definition, hbare], htold⟩
  · cases habsent
  · cases hcutOff

/-- A type that is read is bare.

**Proof sketch.** By cases on the kind. The fields, values or input fields of a type are bare because
each item of the list is read so; a scalar has none, and an interface or a union is not carried over. -/
theorem bare_of_asTypeOf {content : Json} {kind : TypeKind} {t : Schema.TypeDefinition}
    (h : asTypeOf content kind = .ok (some t)) : t.bare = t ∧ t.body.isTold = true := by
  cases kind with
  | object =>
    obtain ⟨u, hu, heq⟩ := map_eq_ok_iff.mp h
    obtain rfl := Option.some.inj heq
    refine bare_of_asTypeWith (fun j fields hfields => ⟨?_, rfl⟩) hu
    rw [Schema.TypeBody.bare, map_bare_of_asList (fun j f => bare_of_asField) hfields]
  | enum =>
    obtain ⟨u, hu, heq⟩ := map_eq_ok_iff.mp h
    obtain rfl := Option.some.inj heq
    refine bare_of_asTypeWith (fun j values hvalues => ⟨?_, rfl⟩) hu
    rw [Schema.TypeBody.bare, map_bare_of_asList (fun j v => bare_of_asEnumValue) hvalues]
  | inputObject =>
    obtain ⟨u, hu, heq⟩ := map_eq_ok_iff.mp h
    obtain rfl := Option.some.inj heq
    refine bare_of_asTypeWith (fun j fields hfields => ⟨?_, rfl⟩) hu
    rw [Schema.TypeBody.bare, map_bare_of_asList (fun j v => bare_of_asInputValue) hfields]
  | scalar =>
    obtain ⟨_, -, h⟩ := bind_eq_ok_iff.mp h
    cases h
    exact ⟨rfl, rfl⟩
  | interface | union =>
    obtain ⟨_, -, h⟩ := bind_eq_ok_iff.mp h
    cases h

/-! ### Answers -/

/-- The types that an answer is read to list are bare. -/
theorem bare_of_readType {room : Nat} {d : Draft} {t : Schema.TypeDefinition}
    (h : readType room d = .ok (some t)) : t.bare = t ∧ t.body.isTold = true := by
  obtain ⟨⟨kind, content⟩, -, h⟩ := bind_eq_ok_iff.mp h
  exact bare_of_asTypeOf (mapError_eq_ok_iff.mp h)

/-- A listing whose types hold nothing but what introspection tells of. -/
def Listing.IsBare (types : Listing) : Prop :=
  ∀ t, some t ∈ types → t.bare = t ∧ t.body.isTold = true

/-- The types of a schema that is read are bare. -/
theorem isBare_of_readSchema {room : Nat} {d : Draft} {types : Listing}
    (h : readSchema room d = .ok types) : types.IsBare := by
  obtain ⟨⟨types', _⟩, hvalues, h⟩ := bind_eq_ok_iff.mp h
  cases h
  obtain ⟨room, htypes, -⟩ := Json.gives_of_readRecord hvalues
  rcases htypes with ⟨d, hd⟩ | habsent | hcutOff
  · intro t ht
    obtain ⟨room, d, hd⟩ := Json.forall_of_readList hd (some t) ht
    exact bare_of_readType hd
  · cases habsent
  · cases hcutOff

/-- The types of data that are read are bare. -/
theorem isBare_of_readData {room : Nat} {d : Draft} {types : Listing}
    (h : readData room d = .ok types) : types.IsBare := by
  obtain ⟨⟨types', _⟩, hvalues, h⟩ := bind_eq_ok_iff.mp h
  cases h
  obtain ⟨room, htypes, -⟩ := Json.gives_of_readRecord hvalues
  rcases htypes with ⟨d, hd⟩ | habsent | hcutOff
  · exact isBare_of_readSchema hd
  · cases habsent
  · cases hcutOff

/-- The types of an answer that is read are bare. -/
theorem isBare_of_readResponse {room : Nat} {d : Draft} {types : Listing} {errors : List String}
    (h : readResponse room d = .ok ⟨some types, errors⟩) : types.IsBare := by
  obtain ⟨⟨data, errors', _⟩, hvalues, h⟩ := bind_eq_ok_iff.mp h
  cases h
  obtain ⟨room, hdata, -⟩ := Json.gives_of_readRecord hvalues
  rcases hdata with ⟨d, hd⟩ | habsent | hcutOff
  · exact isBare_of_readData (Json.eq_ok_of_readOption hd)
  · cases habsent
  · cases hcutOff

/-- An answer is read as a document if it lists types, and it is the document of these. -/
theorem read_eq_ok_iff {body : List Char} {document : Schema.Document} : read body = .ok document ↔
    ∃ types errors, Json.read readResponse body = .ok ⟨some types, errors⟩ ∧
      documentOf types = document := by
  unfold read
  split
  · next hread => simp [hread]
  · next hread => simp [hread]
  · next hread => simp [hread]

/-- A document that is read from an answer holds types only, and these hold nothing but what
introspection tells of. -/
theorem exists_types_of_read {body : List Char} {d : Schema.Document} (h : read body = .ok d) :
    ∃ types : List Schema.TypeDefinition, d = ⟨types.map .type⟩ ∧
      ∀ t ∈ types, t.bare = t ∧ t.body.isTold = true := by
  obtain ⟨types, errors, hread, rfl⟩ := read_eq_ok_iff.mp h
  refine ⟨_, rfl, fun t ht => ?_⟩
  have hmem := (List.mem_filter.mp ht).1
  obtain ⟨u, hu, heq⟩ := List.mem_filterMap.mp hmem
  obtain rfl : u = some t := heq
  exact isBare_of_readResponse hread t hu

end SchemaQueries.Introspection
