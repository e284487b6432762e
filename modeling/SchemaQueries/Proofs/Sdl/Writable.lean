import SchemaQueries.Proofs.Introspection.Told
import SchemaQueries.Proofs.Sdl.Legible
import SchemaQueries.Proofs.Sdl.Quoting

/-!
# Types that are written down as they are

What introspection tells of a type can be written down, if the names in it are names of GraphQL, no
non-null type is directly inside another one and its lists do not open too many brackets. If its
descriptions are on one line, it is also read back as it is.

## Main definitions

* `Schema.TypeDefinition.IsWritable` — names, descriptions and type references are such that they
  can be written down.
* `Schema.TypeBody.NestsAtMost` — no more than so many brackets are open at a time.

## Main results

* `Schema.TypeDefinition.IsWritable.isLegible` — such a type can be written down.
* `Schema.TypeDefinition.IsWritable.mapTexts_eq` — the texts in it are read back as they are.
-/

set_option autoImplicit false
set_option relaxedAutoImplicit false

namespace SchemaQueries.Schema

/-- An argument or an input field can be written down. -/
structure InputValue.IsWritable (v : InputValue) : Prop where
  isName : Sdl.isName v.name.toList = true
  isOneLine : ∀ s ∈ v.description, Sdl.IsOneLine s
  type : v.type.IsWritable

/-- A field can be written down. -/
structure Field.IsWritable (f : Field) : Prop where
  isName : Sdl.isName f.name.toList = true
  isOneLine : ∀ s ∈ f.description, Sdl.IsOneLine s
  arguments : ∀ v ∈ f.arguments, v.IsWritable
  type : f.type.IsWritable

/-- An enum value can be written down. -/
structure EnumValue.IsWritable (v : EnumValue) : Prop where
  isName : Sdl.isName v.name.toList = true
  isOneLine : ∀ s ∈ v.description, Sdl.IsOneLine s

/-- What is said about a type can be written down. -/
def TypeBody.IsWritable : TypeBody → Prop
  | .object _ fields => ∀ f ∈ fields, f.IsWritable
  | .enum values => ∀ v ∈ values, v.IsWritable
  | .input fields => ∀ v ∈ fields, v.IsWritable
  | _ => True

/-- A type can be written down. -/
structure TypeDefinition.IsWritable (t : TypeDefinition) : Prop where
  isName : Sdl.isName t.name.toList = true
  isOneLine : ∀ s ∈ t.description, Sdl.IsOneLine s
  body : t.body.IsWritable

/-- The lists around the types of a field and of its arguments nest at most `n` brackets, together
with the braces around the fields and the parentheses around the arguments. -/
structure Field.NestsAtMost (n : Nat) (f : Field) : Prop where
  arguments : ∀ v ∈ f.arguments, 2 + v.type.lists ≤ n
  type : 1 + f.type.lists ≤ n

/-- What is said about a type nests at most `n` brackets. -/
def TypeBody.NestsAtMost (n : Nat) : TypeBody → Prop
  | .object _ fields => ∀ f ∈ fields, f.NestsAtMost n
  | .input fields => ∀ v ∈ fields, 1 + v.type.lists ≤ n
  | _ => True

/-! ### They can be written down -/

/-- Descriptions on one line are read back. -/
theorem isReadBack_of_isOneLine {description : Option String}
    (h : ∀ s ∈ description, Sdl.IsOneLine s) : ∀ s ∈ description, Sdl.IsReadBack s :=
  fun s hs => .inl (h s hs).lineFeed_not_mem

/-- An argument or an input field of which nothing else is told can be written down. -/
theorem InputValue.IsWritable.isLegible {v : InputValue} (h : v.IsWritable) (hbare : v.bare = v)
    {opened : Nat} (hnests : opened + v.type.lists ≤ Sdl.maxOpen) :
    v.IsLegible Sdl.IsReadBack opened where
  isName := h.isName
  description := isReadBack_of_isOneLine h.isOneLine
  type := h.type
  nests := hnests
  default := by rw [← hbare]; exact fun x hx => absurd hx (by simp [bare])
  directives := by rw [← hbare]; exact fun d hd => absurd hd List.not_mem_nil

/-- A field of which nothing else is told can be written down. -/
theorem Field.IsWritable.isLegible {f : Field} (h : f.IsWritable) (hbare : f.bare = f)
    (hnests : f.NestsAtMost Sdl.maxOpen) : f.IsLegible Sdl.IsReadBack where
  isName := h.isName
  description := isReadBack_of_isOneLine h.isOneLine
  arguments := fun v hv =>
    (h.arguments v hv).isLegible (bare_arguments hbare v hv) (hnests.arguments v hv)
  type := h.type
  nests := hnests.type
  directives := by rw [bare_directives hbare]; exact fun d hd => absurd hd List.not_mem_nil

/-- An enum value of which nothing else is told can be written down. -/
theorem EnumValue.IsWritable.isLegible {v : EnumValue} (h : v.IsWritable) (hbare : v.bare = v) :
    v.IsLegible Sdl.IsReadBack where
  isName := h.isName
  description := isReadBack_of_isOneLine h.isOneLine
  directives := by rw [← hbare]; exact fun d hd => absurd hd List.not_mem_nil

/-- What introspection tells about a type can be written down. -/
theorem TypeBody.IsWritable.isLegible {body : TypeBody} (h : body.IsWritable)
    (hbare : body.bare = body) (htold : body.isTold = true)
    (hnests : body.NestsAtMost Sdl.maxOpen) : body.IsLegible Sdl.IsReadBack := by
  cases body with
  | scalar => trivial
  | object interfaces fields =>
    obtain ⟨rfl, hfields⟩ := bare_fields hbare
    exact ⟨fun s hs => absurd hs List.not_mem_nil,
      fun f hf => (h f hf).isLegible (hfields f hf) (hnests f hf)⟩
  | enum values => exact fun v hv => (h v hv).isLegible (bare_values hbare v hv)
  | input fields =>
    exact fun v hv => (h v hv).isLegible (bare_inputFields hbare v hv) (hnests v hv)
  | interface interfaces fields => exact absurd htold (by simp [isTold])
  | union members => exact absurd htold (by simp [isTold])

/-- A type that introspection tells of can be written down. -/
theorem TypeDefinition.IsWritable.isLegible {t : TypeDefinition} (h : t.IsWritable)
    (hbare : t.bare = t) (htold : t.body.isTold = true) (hnests : t.body.NestsAtMost Sdl.maxOpen) :
    t.IsLegible Sdl.IsReadBack where
  isName := h.isName
  description := isReadBack_of_isOneLine h.isOneLine
  directives := by
    have hdirectives : t.directives = [] := (congrArg TypeDefinition.directives hbare).symm
    rw [hdirectives]
    exact fun d hd => absurd hd List.not_mem_nil
  body := h.body.isLegible (congrArg TypeDefinition.body hbare) htold hnests

/-! ### Their texts are read back as they are -/

section MapTexts

variable {f g : String → String}

/-- Descriptions on one line stay as they are. -/
theorem map_eq_of_isOneLine (hf : ∀ s, Sdl.IsOneLine s → f s = s) {description : Option String}
    (h : ∀ s ∈ description, Sdl.IsOneLine s) : description.map f = description := by
  cases description with
  | none => rfl
  | some s => exact congrArg some (hf s (h s rfl))

/-- If each member stays as it is, so do all of them. -/
theorem map_eq_self {α : Type} {f : α → α} {xs : List α} (h : ∀ x ∈ xs, f x = x) :
    xs.map f = xs :=
  (List.map_congr_left h).trans (List.map_id xs)

/-- An argument or an input field of which nothing else is told stays as it is. -/
theorem InputValue.IsWritable.mapTexts_eq {v : InputValue} (h : v.IsWritable) (hbare : v.bare = v)
    (hf : ∀ s, Sdl.IsOneLine s → f s = s) : v.mapTexts f = v := by
  have hdefault : v.default = none := (congrArg InputValue.default hbare).symm
  have hdirectives : v.directives = [] := (congrArg InputValue.directives hbare).symm
  rw [mapTexts, map_eq_of_isOneLine hf h.isOneLine, hdefault, hdirectives]
  exact hbare

/-- A field of which nothing else is told stays as it is. -/
theorem Field.IsWritable.mapTexts_eq {x : Field} (h : x.IsWritable) (hbare : x.bare = x)
    (hf : ∀ s, Sdl.IsOneLine s → f s = s) : x.mapTexts f = x := by
  have harguments : x.arguments.map (InputValue.mapTexts f) = x.arguments :=
    map_eq_self fun v hv => (h.arguments v hv).mapTexts_eq (bare_arguments hbare v hv) hf
  have hdirectives : x.directives = [] := bare_directives hbare
  rw [mapTexts, map_eq_of_isOneLine hf h.isOneLine, harguments, hdirectives, List.map_nil,
    ← hdirectives]

/-- An enum value of which nothing else is told stays as it is. -/
theorem EnumValue.IsWritable.mapTexts_eq {v : EnumValue} (h : v.IsWritable) (hbare : v.bare = v)
    (hf : ∀ s, Sdl.IsOneLine s → f s = s) : v.mapTexts f = v := by
  have hdirectives : v.directives = [] := (congrArg EnumValue.directives hbare).symm
  rw [mapTexts, map_eq_of_isOneLine hf h.isOneLine, hdirectives]
  exact hbare

/-- What introspection tells about a type stays as it is. -/
theorem TypeBody.IsWritable.mapTexts_eq {body : TypeBody} (h : body.IsWritable)
    (hbare : body.bare = body) (htold : body.isTold = true)
    (hf : ∀ s, Sdl.IsOneLine s → f s = s) : body.mapTexts f = body := by
  cases body with
  | scalar => rfl
  | object interfaces fields =>
    have hfields := (bare_fields hbare).2
    exact congrArg _ (map_eq_self fun x hx => (h x hx).mapTexts_eq (hfields x hx) hf)
  | enum values =>
    exact congrArg _ (map_eq_self fun v hv => (h v hv).mapTexts_eq (bare_values hbare v hv) hf)
  | input fields =>
    exact congrArg _
      (map_eq_self fun v hv => (h v hv).mapTexts_eq (bare_inputFields hbare v hv) hf)
  | interface interfaces fields => exact absurd htold (by simp [isTold])
  | union members => exact absurd htold (by simp [isTold])

/-- A type that introspection tells of stays as it is. -/
theorem TypeDefinition.IsWritable.mapTexts_eq {t : TypeDefinition} (h : t.IsWritable)
    (hbare : t.bare = t) (htold : t.body.isTold = true) (hf : ∀ s, Sdl.IsOneLine s → f s = s)
    (hg : ∀ s, Sdl.IsOneLine s → g s = s) : (Definition.type t).mapTexts f g = .type t := by
  have hdirectives : t.directives = [] := (congrArg TypeDefinition.directives hbare).symm
  have hbody : t.body.bare = t.body := congrArg TypeDefinition.body hbare
  rw [Definition.mapTexts, map_eq_of_isOneLine hf h.isOneLine, h.body.mapTexts_eq hbody htold hg,
    hdirectives, List.map_nil, ← hdirectives]

end MapTexts

end SchemaQueries.Schema
