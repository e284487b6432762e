import Mathlib.Logic.Relation
import SchemaQueries.Proofs.Introspection.Revisions
import SchemaQueries.Proofs.Json.Decoding

/-!
# Revisions are read in the same way

From a revision of an answer the same document is read as from the answer itself, however both are
written down.

## Main definitions

* `Introspection.Stable`, `Introspection.StableReader` — what is read from a value or a draft is read from
  any revision of it.

## Main results

* `Introspection.stable_asTypeRef`, `Introspection.stable_asField`, … — the parts of a type are stable.
* `Introspection.stableReader_readType`, …, `Introspection.stableReader_readResponse` — so are the types
  and the answer.
* `Introspection.read_of_revised` — the text of any revision of an answer gives the same document.
-/

set_option autoImplicit false
set_option relaxedAutoImplicit false

namespace SchemaQueries.Introspection

open Json (Cause Counterpart Draft Entry Failure Form Reader Strictness Title Tree Values)
open Json (asList asOption asRecord asString asTagged asVariant readList readOption readRecord readString)
open Steps (bind_eq_ok_iff map_eq_ok_iff mapError_eq_ok_iff mapM_eq_ok_iff)

variable {α β : Type} {types : List Type} {title : Title}

/-- What is read from each item is read from its counterpart. -/
theorem forall₂_of_stable {V : Type} {R : V → V → Prop} {P : V → α → Prop} {vs vs' : List V} {xs : List α}
    (hvs : List.Forall₂ R vs vs') (h : List.Forall₂ P vs xs)
    (hP : ∀ {v v' x}, R v v' → P v x → P v' x) : List.Forall₂ P vs' xs := by
  induction hvs generalizing xs with
  | nil => exact h
  | cons hv _ ih =>
    obtain ⟨x, rest, hx, hrest, rfl⟩ := List.forall₂_cons_left_iff.mp h
    exact .cons (hP hv hx) (ih hrest)

/-! ### Values -/

/-- What is read from a value with this role is read from any revision of it. -/
def Stable (role : Role) (read : Json → Except Cause α) : Prop :=
  ∀ bound j j' a, Revises bound role j j' → read j = .ok a → read j' = .ok a

section Values

variable {role item : Role} {read : Json → Except Cause α}

/-- What is made of a value that is read does not matter. -/
theorem Stable.bind (h : Stable role read) (next : α → Except Cause β) :
    Stable role fun j => read j >>= next := by
  intro bound j j' b hj hb
  obtain ⟨a, ha, hb⟩ := bind_eq_ok_iff.mp hb
  exact bind_eq_ok_iff.mpr ⟨a, h bound j j' a hj ha, hb⟩

/-- An entry reads revisions in the same way if its reader does. -/
theorem Stable.follows {entry : Entry Json Cause α} (h : Stable role entry.read) (bound : Nat) :
    Entry.Follows (Revises bound role) entry entry :=
  ⟨rfl, rfl, rfl, h bound _ _ _⟩

/-- A string is not revised. -/
theorem stable_asString : Stable role asString := by
  intro bound j j' s hj hs
  rcases hj.eq_or with rfl | ⟨items, rfl⟩ | ⟨ms, rfl⟩
  · exact hs
  · cases hs
  · cases hs

/-- Nor is what tells a variant. -/
theorem stable_asVariant {variants : List (String × α)} : Stable role (asVariant variants) := by
  intro bound j j' a hj ha
  rcases hj.eq_or with rfl | ⟨items, rfl⟩ | ⟨ms, rfl⟩
  · exact ha
  · cases ha
  · cases ha

/-- Nothing is not revised, and a value is read in the same way. -/
theorem stable_asOption (h : Stable role read) : Stable role (asOption read) := by
  intro bound j j' a hj ha
  cases j with
  | null =>
    rcases hj.eq_or with rfl | ⟨items, hnull⟩ | ⟨ms, hnull⟩
    · exact ha
    · cases hnull
    · cases hnull
  | bool | number | string | array | object =>
    obtain ⟨b, hb, rfl⟩ := map_eq_ok_iff.mp ha
    have hb' := h bound _ j' b hj hb
    cases j' with
    | null =>
      obtain ⟨⟨_, hj⟩, -⟩ := hj
      cases hj
    | bool | number | string | array | object => exact map_eq_ok_iff.mpr ⟨b, hb', rfl⟩

/-- A list is read in the same way if its items are. -/
theorem stable_asList (h : Stable item read) : Stable (.list item) (asList read) := by
  intro bound j j' xs hj hxs
  cases j with
  | array items =>
    obtain ⟨items', rfl, hitems⟩ := hj.forall₂
    exact mapM_eq_ok_iff.mpr (forall₂_of_stable hitems (mapM_eq_ok_iff.mp hxs) (h _ _ _ _))
  | null | bool | number | string | object => cases hxs

/-- A record is read in the same way if its members are. -/
theorem stable_asRecord {form : Form Json Cause types} {rows : List (String × Role)}
    (hrows : ∀ x, role.rows x = rows) (hrole : role.IsSingle)
    (hform : ∀ bound, Form.Follows (Revises bound) rows form form) :
    Stable role (asRecord title form) := by
  intro bound j j' values hj hvalues
  have hcounterpart := hj.counterpart hrole
  have hnodup := role.nodup_rows j.tree
  rw [hrows] at hcounterpart hnodup
  exact Json.asRecord_of_follows (hform _) hnodup hcounterpart hvalues

end Values

/-! ### Type references -/

/-- A type reference is read in the same way within any bound that is great enough.

**Proof sketch.** Induction on the bound. The kind is told by the counterpart of the value that told it, so
the same members are known, and what a wrapper refers to nests less than the wrapper. -/
theorem asTypeRefWithin_of_revises {b bound : Nat} {j j' : Json} {t : TypeRef}
    (hj : Revises bound .reference j j') (ht : asTypeRefWithin b j = .ok t) :
    asTypeRefWithin bound j' = .ok t := by
  induction b generalizing bound j j' t with
  | zero => cases ht
  | succ b ih =>
    obtain ⟨c, rfl⟩ := Nat.exists_eq_add_of_le' (Nat.one_le_of_lt hj.2)
    obtain ⟨⟨kind, content⟩, htagged, ht⟩ := bind_eq_ok_iff.mp ht
    have hcounterpart := hj.counterpart trivial
    rw [Role.rows, Json.variant?_of_asTagged htagged, Option.elim_some] at hcounterpart
    obtain ⟨-, content', htagged', hcontent⟩ := Json.asTagged_of_counterpart (stable_asVariant _ _ _ _)
      (by cases kind <;> simp [RefKind.rows]) hcounterpart htagged
    refine bind_eq_ok_iff.mpr ⟨(kind, content'), htagged', ?_⟩
    have hwrapper : Form.Follows (Revises j'.depth) [("ofType", .reference)]
        (wrapperForm (asTypeRefWithin b)) (wrapperForm (asTypeRefWithin c)) :=
      ⟨rfl, ⟨rfl, rfl, rfl, fun hv hread =>
        ih ⟨hv.1, hv.2.trans_le (Nat.le_of_lt_succ hj.2)⟩ hread⟩, rfl⟩
    cases kind with
    | nonNull | list =>
      obtain ⟨values, hvalues, ht⟩ := bind_eq_ok_iff.mp ht
      exact bind_eq_ok_iff.mpr
        ⟨values, Json.asRecord_of_follows hwrapper (by decide) hcontent hvalues, ht⟩
    | named =>
      obtain ⟨values, hvalues, ht⟩ := bind_eq_ok_iff.mp ht
      have hform : Form.Follows (Revises j'.depth) [("name", .text)] namedForm namedForm :=
        ⟨rfl, stable_asString.follows _, rfl⟩
      exact bind_eq_ok_iff.mpr
        ⟨values, Json.asRecord_of_follows hform (by decide) hcontent hvalues, ht⟩

/-- A type reference is read in the same way. -/
theorem stable_asTypeRef : Stable .reference asTypeRef := by
  intro bound j j' t hj ht
  exact asTypeRefWithin_of_revises ⟨hj.1, Nat.lt_succ_self _⟩ ht

/-! ### Members of types -/

/-- An argument or an input field is read in the same way. -/
theorem stable_asInputValue : Stable .argument asInputValue := by
  have hform (bound : Nat) : Form.Follows (Revises bound)
      [("name", .text), ("description", .text), ("type", .reference)] inputValueForm inputValueForm :=
    ⟨rfl, stable_asString.follows bound, rfl, (stable_asOption stable_asString).follows bound,
      rfl, stable_asTypeRef.follows bound, rfl⟩
  have hrecord : Stable .argument (asRecord (.record "InputValue") inputValueForm) :=
    stable_asRecord (fun _ => rfl) trivial hform
  exact hrecord.bind _

/-- So is a field. -/
theorem stable_asField : Stable .field asField := by
  have hform (bound : Nat) : Form.Follows (Revises bound) [("name", .text), ("description", .text),
      ("args", .list .argument), ("type", .reference)] fieldForm fieldForm :=
    ⟨rfl, stable_asString.follows bound, rfl, (stable_asOption stable_asString).follows bound,
      rfl, (stable_asList stable_asInputValue).follows bound, rfl, stable_asTypeRef.follows bound, rfl⟩
  have hrecord : Stable .field (asRecord (.record "Field") fieldForm) :=
    stable_asRecord (fun _ => rfl) trivial hform
  exact hrecord.bind _

/-- A name and a description are read in the same way. -/
theorem follows_describedForm (bound : Nat) : Form.Follows (Revises bound)
    [("name", .text), ("description", .text)] describedForm describedForm :=
  ⟨rfl, stable_asString.follows bound, rfl, (stable_asOption stable_asString).follows bound, rfl⟩

/-- So is a value of an enum type. -/
theorem stable_asEnumValue : Stable .enumValue asEnumValue := by
  have hrecord : Stable .enumValue (asRecord (.record "EnumValue") describedForm) :=
    stable_asRecord (fun _ => rfl) trivial follows_describedForm
  exact hrecord.bind _

/-! ### Types -/

section Types

variable {bound : Nat} {content content' : Json}

/-- A type with a list of parts is read in the same way. -/
theorem asTypeWith_of_counterpart {kind member : String} {item : Role} {read : Json → Except Cause α}
    {body : List α → Schema.TypeBody} {t : Schema.TypeDefinition} (hread : Stable item read)
    (hmember : ["name", "description", member].Nodup)
    (hcontent : Counterpart (Revises bound)
      [("name", .text), ("description", .text), (member, .list item)] content content')
    (ht : asTypeWith kind member read body content = .ok t) :
    asTypeWith kind member read body content' = .ok t := by
  have hform : Form.Follows (Revises bound)
      [("name", .text), ("description", .text), (member, .list item)]
      (typeForm member read) (typeForm member read) :=
    ⟨rfl, stable_asString.follows bound, rfl, (stable_asOption stable_asString).follows bound,
      rfl, (stable_asList hread).follows bound, rfl⟩
  obtain ⟨values, hvalues, ht⟩ := bind_eq_ok_iff.mp ht
  exact bind_eq_ok_iff.mpr ⟨values, Json.asRecord_of_follows hform hmember hcontent hvalues, ht⟩

/-- The type of a kind is read in the same way.

**Proof sketch.** By cases on the kind. A type with parts is read as a record, from counterparts in the
same way (`asTypeWith_of_counterpart`). Of an interface or a union no member is read, so only the form
of the value matters, and a revision keeps it. -/
theorem asTypeOf_of_counterpart {kind : TypeKind} {t : Option Schema.TypeDefinition}
    (hcontent : Counterpart (Revises bound) kind.rows content content')
    (ht : asTypeOf content kind = .ok t) : asTypeOf content' kind = .ok t := by
  cases kind with
  | object =>
    obtain ⟨u, hu, rfl⟩ := map_eq_ok_iff.mp ht
    exact map_eq_ok_iff.mpr ⟨u, asTypeWith_of_counterpart stable_asField (by decide) hcontent hu, rfl⟩
  | enum =>
    obtain ⟨u, hu, rfl⟩ := map_eq_ok_iff.mp ht
    exact map_eq_ok_iff.mpr
      ⟨u, asTypeWith_of_counterpart stable_asEnumValue (by decide) hcontent hu, rfl⟩
  | inputObject =>
    obtain ⟨u, hu, rfl⟩ := map_eq_ok_iff.mp ht
    exact map_eq_ok_iff.mpr
      ⟨u, asTypeWith_of_counterpart stable_asInputValue (by decide) hcontent hu, rfl⟩
  | scalar =>
    obtain ⟨values, hvalues, ht⟩ := bind_eq_ok_iff.mp ht
    exact bind_eq_ok_iff.mpr ⟨values, Json.asRecord_of_follows (follows_describedForm bound)
      (by decide) hcontent hvalues, ht⟩
  | interface | union =>
    -- No member is known, and an array has no items.
    cases content with
    | object ms =>
      obtain ⟨ms', rfl, -⟩ := hcontent
      exact ht
    | array items =>
      obtain ⟨items', rfl, hitems⟩ := hcontent
      cases items with
      | nil =>
        obtain rfl : items' = [] := hitems
        exact ht
      | cons => cases ht
    | null | bool | number | string =>
      obtain rfl : content' = _ := hcontent
      exact ht

end Types

/-! ### Drafts -/

/-- What is read from a draft with this role is read from any revision of it. -/
def StableReader (role : Role) (reader : Reader α) : Prop :=
  ∀ room d d' a, RevisesDraft room role d d' → reader room d = .ok a → reader room d' = .ok a

section Drafts

variable {role item : Role} {reader : Reader α}

/-- What is made of a draft that is read does not matter. -/
theorem StableReader.bind (h : StableReader role reader) (next : α → Except Failure β) :
    StableReader role fun room d => reader room d >>= next := by
  intro room d d' b hd hb
  obtain ⟨a, ha, hb⟩ := bind_eq_ok_iff.mp hb
  exact bind_eq_ok_iff.mpr ⟨a, h room d d' a hd ha, hb⟩

/-- An entry reads revisions in the same way if its reader does. -/
theorem StableReader.follows (h : StableReader role reader) {room : Nat} {entry : Entry Draft Failure α}
    (hentry : entry.read = reader room) : Entry.Follows (RevisesDraft room role) entry entry :=
  ⟨rfl, rfl, rfl, fun hd ha => by
    rw [hentry] at ha ⊢
    exact h room _ _ _ hd ha⟩

/-- A string is not revised. -/
theorem stableReader_readString : StableReader role readString := by
  rintro room d d' s ⟨hd, -, -⟩ hs
  cases d with
  | string value =>
    cases value with
    | error f => cases hs
    | ok s' =>
      cases d' with
      | string value' =>
        cases value' with
        | error f => cases hd
        | ok s'' =>
          cases hd
          exact hs
      | null | bool | number | array | object | broken => cases hd
  | null | bool | number | array | object | broken => cases hs

/-- Nothing is not revised, and a draft is read in the same way. -/
theorem stableReader_readOption (h : StableReader role reader) : StableReader role (readOption reader) := by
  intro room d d' a hd ha
  cases d with
  | null =>
    obtain ⟨hd, -, hfault'⟩ := hd
    cases d' with
    | null => exact ha
    | broken => cases hfault'
    | bool | number | string | array | object => cases hd
  | broken => cases hd.2.1
  | bool | number | string | array | object =>
    obtain ⟨b, hb, rfl⟩ := map_eq_ok_iff.mp ha
    have hb' := h room _ d' b hd hb
    cases d' with
    | null => cases hd.1
    | bool | number | string | array | object | broken => exact map_eq_ok_iff.mpr ⟨b, hb', rfl⟩

/-- A list is read in the same way if its items are. -/
theorem stableReader_readList (h : StableReader item reader) :
    StableReader (.list item) (readList reader) := by
  intro room d d' xs hd hxs
  cases d with
  | array items ending =>
    obtain ⟨items', ending', rfl, hending', hitems⟩ := hd.forall₂
    obtain ⟨r, rfl, hxs⟩ := Json.nested_eq_ok_iff.mp hxs
    obtain ⟨-, hxs⟩ := Json.readItems_eq_ok_iff.mp hxs
    have hxs' : Json.readItems (reader r) ending' 0 items' = .ok xs :=
      Json.readItems_eq_ok_iff.mpr ⟨hending', forall₂_of_stable hitems hxs (h r _ _ _)⟩
    exact hxs'
  | null | bool | number | string | object | broken => cases hxs

/-- A record is read in the same way if its members are. -/
theorem stableReader_readRecord {strictness : Strictness} {form : Nat → Form Draft Failure types}
    {rows : List (String × Role)} (hrows : ∀ x, role.rows x = rows) (hrole : role.IsSingle)
    (hstrict : strictness = .strict → role = .data)
    (hform : ∀ room, Form.Follows (RevisesDraft room) rows (form room) (form room)) :
    StableReader role (readRecord title strictness form) := by
  intro room d d' values hd hvalues
  have hcounterpart := hd.counterpart hrole hstrict
  have hnodup := role.nodup_rows d.tree
  rw [hrows] at hcounterpart hnodup
  refine Json.readRecord_of_follows ?_ (fun r => (hform r).names_eq.1 ▸ hnodup) hcounterpart
    hd.2.1 hd.2.2 hvalues
  rintro r rfl
  exact hform r

end Drafts

/-- A type is read in the same way.

**Proof sketch.** The draft of the revision says a value as well (`Introspection.Revised.readable`), whose
kind is told by a string. Its content has the counterparts of what the type of that kind is made of. -/
theorem stableReader_readType : StableReader .type readType := by
  intro room d d' t hd ht
  obtain ⟨⟨kind, content⟩, htagged, ht⟩ := bind_eq_ok_iff.mp ht
  have ht := mapError_eq_ok_iff.mp ht
  obtain ⟨-, j, htree, hdepth, ⟨s, hs⟩, htagged⟩ := Json.readTagged_eq_ok_iff.mp htagged
  obtain ⟨j', htree', hdepth'⟩ : d'.tree.Readable room := hd.1.readable rfl ⟨j, htree, hdepth⟩
  have hj : Revises (j'.depth + 1) .type j j' :=
    ⟨⟨room, by rw [htree, htree']; exact hd.1⟩, Nat.lt_succ_self _⟩
  have hcounterpart := hj.counterpart trivial
  rw [Role.rows, Json.variant?_of_asTagged htagged, Option.elim_some] at hcounterpart
  obtain ⟨⟨v, v', hv, hkind, hkind'⟩, content', htagged', hcontent⟩ :=
    Json.asTagged_of_counterpart (stable_asVariant _ _ _ _) (by cases kind <;> simp [TypeKind.rows])
      hcounterpart htagged
  have hs' : j'.tree.tag? "kind" = some (.string (some s)) := by
    obtain ⟨⟨_, hv⟩, -⟩ := hv
    obtain hvs : v.tree = .string (some s) := Option.some.inj (hkind.symm.trans hs)
    rw [hvs] at hv
    rw [hkind']
    generalize v'.tree = x' at hv
    cases hv
    rfl
  exact bind_eq_ok_iff.mpr ⟨(kind, content'),
    Json.readTagged_eq_ok_iff.mpr ⟨hd.2.2, j', htree', hdepth', ⟨s, hs'⟩, htagged'⟩,
    mapError_eq_ok_iff.mpr (asTypeOf_of_counterpart hcontent ht)⟩

/-! ### Answers -/

/-- So are the types of a schema. -/
theorem stableReader_readSchema : StableReader .schema readSchema := by
  have hform (room : Nat) : Form.Follows (RevisesDraft room) [("types", .list .type)]
      (schemaForm room) (schemaForm room) :=
    ⟨rfl, (stableReader_readList stableReader_readType).follows rfl, rfl⟩
  have hrecord : StableReader .schema (readRecord (.record "Schema") .lenient schemaForm) :=
    stableReader_readRecord (fun _ => rfl) trivial (by decide) hform
  exact hrecord.bind _

/-- So are the data of an answer. -/
theorem stableReader_readData : StableReader .data readData := by
  have hform (room : Nat) : Form.Follows (RevisesDraft room) [("__schema", .schema)]
      (dataForm room) (dataForm room) :=
    ⟨rfl, stableReader_readSchema.follows rfl, rfl⟩
  have hrecord : StableReader .data (readRecord (.record "SchemaData") .strict dataForm) :=
    stableReader_readRecord (fun _ => rfl) trivial (fun _ => rfl) hform
  exact hrecord.bind _

/-- So is the message of an error. -/
theorem stableReader_readErrorMessage : StableReader .error readErrorMessage := by
  have hform (room : Nat) : Form.Follows (RevisesDraft room) [("message", .text)]
      (errorForm room) (errorForm room) :=
    ⟨rfl, stableReader_readString.follows rfl, rfl⟩
  have hrecord : StableReader .error (readRecord (.record "ResponseError") .lenient errorForm) :=
    stableReader_readRecord (fun _ => rfl) trivial (by decide) hform
  exact hrecord.bind _

/-- So is an answer. -/
theorem stableReader_readResponse : StableReader .answer readResponse := by
  have hform (room : Nat) : Form.Follows (RevisesDraft room)
      [("data", .data), ("errors", .list .error)] (responseForm room) (responseForm room) :=
    ⟨rfl, (stableReader_readOption stableReader_readData).follows rfl, rfl,
      (stableReader_readList stableReader_readErrorMessage).follows rfl, rfl⟩
  have hrecord : StableReader .answer
      (readRecord (.record "IntrospectionQueryResponse") .lenient responseForm) :=
    stableReader_readRecord (fun _ => rfl) trivial (by decide) hform
  exact hrecord.bind _

/-- What is read from an answer is read from whatever revisions lead to.

**Proof sketch.** Induction on the revisions. Every tree between the two is that of a draft without a fault
(`Json.Tree.exists_draft`), which is read in the same way. -/
theorem readResponse_of_reflTransGen {room : Nat} {response : Response} {x x' : Tree}
    (hx : ∀ d : Draft, d.tree = x → d.skipFault? = none → readResponse room d = .ok response)
    (h : Relation.ReflTransGen (Revised room .answer) x x') :
    ∀ d : Draft, d.tree = x' → d.skipFault? = none → readResponse room d = .ok response := by
  induction h with
  | refl => exact hx
  | @tail y z _ hstep ih =>
    intro d' htree' hfault'
    obtain ⟨d, htree, hfault⟩ := y.exists_draft
    have hd : RevisesDraft room .answer d d' := ⟨by rw [htree, htree']; exact hstep, hfault, hfault'⟩
    exact stableReader_readResponse room d d' response hd (ih d htree hfault)

/-- **Revisions are read in the same way.** An answer from which a document is read starts with a tree.
However this tree is written, and in whatever revision, the same document is read from the text: the members
of objects may be in any order and there may be other white space, other escapes in strings, and members
that the decoder does not know, anywhere but in the data. What stands behind the tree does not matter.

**Proof sketch.** A text is read as the tree that it starts with (`Json.draft_of_starts`), and an answer is
read in the same way from each of its revisions (`Introspection.readResponse_of_reflTransGen`). -/
theorem read_of_revised {body : List Char} {document : Schema.Document} (h : read body = .ok document) :
    (∃ x : Tree, x.Starts body) ∧ ∀ x x' : Tree, ∀ body', x.Starts body →
      Relation.ReflTransGen (Revised Json.maxNesting .answer) x x' → x'.Starts body' →
      read body' = .ok document := by
  obtain ⟨hfault, hnumber⟩ := Json.Decodes.draft (.inl ⟨document, h⟩)
  have hstarts : (Json.draft body).tree.Starts body := Json.starts_of_draft rfl hfault fun n hn =>
    hnumber (Draft.isNumber_iff.mpr ⟨n, hn⟩)
  refine ⟨⟨_, hstarts⟩, fun x x' body' hx hrevised hx' => ?_⟩
  obtain ⟨types, errors, hresponse, hdocument⟩ := read_eq_ok_iff.mp h
  have hne (n : Option Json.Number) : x ≠ .number n := by
    rintro rfl
    exact hnumber (Json.isNumber_of_starts hx hfault)
  have htree : (Json.draft body).tree = x := (Json.draft_of_starts hx hne).1
  have hread (d : Draft) (hd : d.tree = x) (hfaultd : d.skipFault? = none) :
      readResponse Json.maxNesting d = .ok ⟨some types, errors⟩ :=
    stableReader_readResponse _ (Json.draft body) d _
      ⟨by rw [htree, hd]; exact Revised.refl x _ _, hfault, hfaultd⟩ hresponse
  have hread' := readResponse_of_reflTransGen hread hrevised
  -- A number may go on behind the text that spells it, but no answer is a number.
  have hne' (n : Option Json.Number) : x' ≠ .number n := by
    rintro rfl
    obtain ⟨d, hd, hfaultd⟩ := (Tree.number n).exists_draft
    have hresponse' := hread' d hd hfaultd
    cases d with
    | number => cases hresponse'
    | null | bool | string | array | object | broken => cases hd
  obtain ⟨htree', hfault'⟩ := Json.draft_of_starts hx' hne'
  exact read_eq_ok_iff.mpr ⟨types, errors, hread' _ htree' hfault', hdocument⟩

/-- An answer with one scalar type. -/
def dateAnswer : List Char :=
  ("\x7b\"data\":\x7b\"__schema\":\x7b\"types\":[\x7b\"kind\":\"SCALAR\",\"name\":\"Date\"\x7d]" ++
    "\x7d\x7d\x7d").toList

/-- The same answer with white space, an escape, the name before the kind, and one member more. -/
def revisedDateAnswer : List Char :=
  ("\n\x7b \"data\": \x7b\"__schema\": \x7b\"types\": [\x7b\"n\\u0061me\": \"Date\", \"fields\": null," ++
    " \"kind\": \"SCALAR\"\x7d]\x7d\x7d\x7d").toList

/-- The tree of an answer with one type of these members. -/
def answerTree (members : List (Option String × Tree)) : Tree :=
  .object [(some "data", .object [(some "__schema",
    .object [(some "types", .array [.object members])])])]

/-- Both answers give the same document.

**Proof sketch.** Both texts start with the trees that they are read as, and the second tree is a
revision of the first one: at the listed type one member is added and the order is changed, and
everything around it stays. -/
theorem read_of_revised_dateAnswer : ∃ document, read dateAnswer = .ok document ∧
    read revisedDateAnswer = .ok document := by
  let kind : Option String × Tree := (some "kind", .string (some "SCALAR"))
  let name : Option String × Tree := (some "name", .string (some "Date"))
  let added : Option String × Tree := (some "fields", .null)
  have hok : (read dateAnswer).isOk := by decide +kernel
  have hx : (answerTree [kind, name]).Starts dateAnswer :=
    Json.starts_of_draft (by decide +kernel) (by decide +kernel) (by simp [answerTree])
  have hx' : (answerTree [name, added, kind]).Starts revisedDateAnswer :=
    Json.starts_of_draft (by decide +kernel) (by decide +kernel) (by simp [answerTree])
  have htype (room : Nat) :
      Revised room .type (.object [kind, name]) (.object [name, added, kind]) := by
    have hadmits : ∀ m ∈ [added], Role.type.Admits (room - 1) (.object [kind, name]) m := by
      intro m hm
      obtain rfl := List.mem_singleton.mp hm
      exact ⟨by decide, ⟨_, rfl, by decide⟩, fun _ => ⟨.null, rfl, Nat.zero_le _⟩⟩
    refine .object (.cons .string (.cons .string .nil)) hadmits ?_
    exact @List.perm_append_comm _ [kind] [name, added]
  have hanswer : Revised Json.maxNesting .answer (answerTree [kind, name])
      (answerTree [name, added, kind]) :=
    .of_members (.cons (.of_members (.cons (.of_members (.cons (.array (.cons (htype _) .nil)) .nil)) .nil))
      .nil)
  cases hread : read dateAnswer with
  | error e =>
    rw [hread] at hok
    cases hok
  | ok document =>
    exact ⟨document, rfl, (read_of_revised hread).2 _ _ _ hx (.single hanswer) hx'⟩

end SchemaQueries.Introspection
