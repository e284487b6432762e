import SchemaQueries.Proofs.Introspection.Rereading
import SchemaQueries.Proofs.Json.FirstFault

/-!
# The first type that is not read

An answer that lists something that is no type is refused. The failure names the way to the first entry
that is to blame, whatever is wrong with it and wherever in it, and whatever the entries behind it are.

## Main definitions

* `Introspection.Frame` — an answer with a gap for the entries that it lists.
* `Introspection.IsListable` — an entry that is read where an answer lists its types.
* `Introspection.placeOfType` — the way to an entry.

## Main results

* `Introspection.text_placeOfType_append` — how this way is written.
* `Introspection.read_points_at_first_bad_type` — the failure of the first entry that is not read is that
  of the answer, at its place.
-/

set_option autoImplicit false
set_option relaxedAutoImplicit false

namespace SchemaQueries.Introspection

open Json (ArrayEnd Draft Failure Path PointsInto Tree)

/-! ### Places -/

/-- The way to the entry of this number. -/
def placeOfType (i : Nat) : Path :=
  [.key "data", .key "__schema", .key "types", .index i]

/-- How the way to an entry, and further on into it, is written. -/
theorem text_placeOfType_append (i : Nat) (steps : Path) :
    Path.text (placeOfType i ++ steps) = "data.__schema.types[" ++ toString i ++ "]" ++
      Path.textOfRest steps := by
  simp only [placeOfType, List.cons_append, List.nil_append, Path.text, Path.textOfRest, List.map_cons,
    Json.Step.isPointed, Json.Step.text, if_true, String.join_cons, Bool.false_eq_true, if_false,
    ← String.append_assoc]
  rfl

/-! ### Entries -/

/-- How many arrays and objects an entry may nest, inside those of the answer. -/
def typeRoom : Nat :=
  Json.maxNesting - 4

/-- The entry is read where an answer lists its types. -/
def IsListable (x : Tree) : Prop :=
  ∃ text t, x.Starts text ∧ readType typeRoom (Json.draft text) = .ok t

/-- Nothing that is read as a type is a number. -/
theorem ne_number_of_readType {room : Nat} {d : Draft} {t : Option Schema.TypeDefinition}
    (h : readType room d = .ok t) (n : Option Json.Number) : d.tree ≠ .number n := by
  intro htree
  cases d with
  | number m => cases h
  | null | bool | string | array | object | broken => cases htree

/-- A draft of a listable entry is read, however the entry is written. -/
theorem exists_readType_of_isListable {x : Tree} {d : Draft} (h : IsListable x) (htree : d.tree = x)
    (hfault : d.skipFault? = none) : ∃ t, readType typeRoom d = .ok t := by
  obtain ⟨text, t, hstarts, ht⟩ := h
  -- What starts with a number is read as one, and no type is a number.
  have hne (n : Option Json.Number) : x ≠ .number n := by
    rintro rfl
    obtain ⟨m, hm⟩ := Draft.isNumber_iff.mp
      (Json.isNumber_of_starts hstarts (thorough_readType _ _ _ ht))
    exact ne_number_of_readType ht m hm
  obtain ⟨htree', hfault'⟩ := Json.draft_of_starts hstarts hne
  exact ⟨t, stableReader_readType typeRoom _ d t
    ⟨by rw [htree, htree']; exact Revised.refl x _ _, hfault', hfault⟩ ht⟩

/-- An entry that has a text is listable if a draft of it is read. -/
theorem isListable_of_readType {x : Tree} {value : List Char} {d : Draft}
    {t : Option Schema.TypeDefinition} (hvalue : x.Writes value) (htree : d.tree = x)
    (hfault : d.skipFault? = none) (h : readType typeRoom d = .ok t) : IsListable x := by
  have hstarts : x.Starts value := ⟨[], value, [], List.forall_mem_nil _, hvalue, by simp⟩
  obtain ⟨htree', hfault'⟩ := Json.draft_of_starts hstarts (htree ▸ ne_number_of_readType h)
  exact ⟨value, t, hstarts, stableReader_readType typeRoom d _ t
    ⟨by rw [htree, htree']; exact Revised.refl x _ _, hfault, hfault'⟩ h⟩

/-! ### Frames -/

/-- An answer with a gap for the entries that it lists. The members in front of it and behind it stand
beside `data`, beside `__schema` and beside `types`. -/
structure Frame where
  answer : Tree.Around
  data : Tree.Around
  schema : Tree.Around

/-- The answer that lists these entries. -/
def Frame.listing (frame : Frame) (entries : List Tree) : Tree :=
  frame.answer.put "data" (frame.data.put "__schema" (frame.schema.put "types" (.array entries)))

/-- An answer is no number. -/
theorem Frame.listing_ne_number (frame : Frame) (entries : List Tree) (n : Option Json.Number) :
    frame.listing entries ≠ .number n := by
  simp [Frame.listing, Tree.Around.put]

/-- The text of an answer has a text of each entry. -/
theorem Frame.exists_writes {frame : Frame} {entries : List Tree} {cs : List Char}
    (h : (frame.listing entries).Writes cs) {x : Tree} (hx : x ∈ entries) : ∃ value, x.Writes value := by
  obtain ⟨cs₁, h₁⟩ := Tree.Around.exists_writes h
  obtain ⟨cs₂, h₂⟩ := Tree.Around.exists_writes h₁
  obtain ⟨cs₃, h₃⟩ := Tree.Around.exists_writes h₂
  cases h₃ with
  | array hitems => exact hitems.exists_writes hx

/-- The drafts of the objects of a frame. -/
structure DraftFrame where
  answer : Draft.Around
  data : Draft.Around
  schema : Draft.Around

namespace DraftFrame

/-- The draft with the list of the types in the gap. -/
def listing (frame : DraftFrame) : Draft → Draft :=
  frame.answer.put "data" ∘ frame.data.put "__schema" ∘ frame.schema.put "types"

/-- What the draft of a frame says around the gap. -/
def tree (frame : DraftFrame) : Frame :=
  ⟨frame.answer.tree, frame.data.tree, frame.schema.tree⟩

/-- There is no fault around the gap. -/
def IsSound (frame : DraftFrame) : Prop :=
  frame.answer.IsSound ∧ frame.data.IsSound ∧ frame.schema.IsSound

/-- A draft lists what the items of its array say. -/
theorem tree_listing {frame : DraftFrame} {items : List Draft} {ending : ArrayEnd} :
    (frame.listing (.array items ending)).tree = frame.tree.listing (items.map Draft.tree) := by
  simp only [listing, Function.comp_apply, Draft.Around.tree_put, Draft.tree, Json.treeOfItems_eq_map]
  rfl

/-- A draft is without a fault if its frame and its items are, and the array ends. -/
theorem skipFault?_listing_eq_none_iff {frame : DraftFrame} {items : List Draft} {ending : ArrayEnd} :
    (frame.listing (.array items ending)).skipFault? = none ↔
      frame.IsSound ∧ (∀ d ∈ items, d.skipFault? = none) ∧ ending.skipFault? = none := by
  simp only [listing, Function.comp_apply, Draft.Around.skipFault?_put_eq_none_iff, Draft.skipFault?,
    Option.or_eq_none_iff, Json.itemsSkipFault?_eq_none_iff, IsSound]
  exact ⟨fun ⟨ha, hd, hs, hitems⟩ => ⟨⟨ha, hd, hs⟩, hitems⟩,
    fun ⟨⟨ha, hd, hs⟩, hitems⟩ => ⟨ha, hd, hs, hitems⟩⟩

end DraftFrame

/-- A draft of an answer with a gap filled has a frame of its own. -/
theorem Frame.exists_listing {frame : Frame} {entries : List Tree} {d : Draft}
    (htree : d.tree = frame.listing entries) :
    ∃ (frame' : DraftFrame) (items : List Draft) (ending : ArrayEnd),
      d = frame'.listing (.array items ending) ∧ frame'.tree = frame ∧ items.map Draft.tree = entries := by
  obtain ⟨answer, d₁, rfl, hanswer, h₁⟩ := Draft.exists_put htree
  obtain ⟨data, d₂, rfl, hdata, h₂⟩ := Draft.exists_put h₁
  obtain ⟨schema, d₃, rfl, hschema, h₃⟩ := Draft.exists_put h₂
  cases d₃ with
  | array items ending =>
    refine ⟨⟨answer, data, schema⟩, items, ending, rfl, ?_, ?_⟩
    · rw [DraftFrame.tree, hanswer, hdata, hschema]
    · rw [← Json.treeOfItems_eq_map]
      exact Tree.array.inj h₃
  | null | bool | number | string | object | broken => cases h₃

/-! ### Reading -/

/-- The way to the list of the types of an answer.

**Proof sketch.** Three records stand around the list, each with one member that leads on: `data`,
`__schema` and `types`. The readers of these records point into them one after the other, and ways into
values can be put together (`PointsInto.comp`). -/
theorem pointsInto_readResponse (frame : DraftFrame) (room : Nat) :
    PointsInto (readResponse (room + 3)) frame.listing
      [.key "data", .key "__schema", .key "types"] (Json.readList readType room) := by
  have hschema : PointsInto (readSchema (room + 1)) (frame.schema.put "types") [.key "types"]
      (Json.readList readType room) := by
    have hrecord : PointsInto (Json.readRecord (.record "Schema") .lenient schemaForm (room + 1))
        (frame.schema.put "types") [.key "types"] (Json.readList readType room) :=
      Json.pointsInto_readRecord _ (show "types" ∈ ["types"] by decide) fun _ => rfl
    exact hrecord.bind_pure fun values => values.1
  have hdata : PointsInto (readData (room + 2)) (frame.data.put "__schema") [.key "__schema"]
      (readSchema (room + 1)) := by
    have hrecord : PointsInto (Json.readRecord (.record "SchemaData") .strict dataForm (room + 2))
        (frame.data.put "__schema") [.key "__schema"] (readSchema (room + 1)) :=
      Json.pointsInto_readRecord _ (show "__schema" ∈ ["__schema"] by decide) fun _ => rfl
    exact hrecord.bind_pure fun values => values.1
  have hinner : PointsInto (Json.readOption readData (room + 2))
      (frame.data.put "__schema" ∘ frame.schema.put "types") [.key "__schema", .key "types"]
      (Json.readList readType room) :=
    (hdata.comp hschema).readOption nofun
  have hanswer : PointsInto (readResponse (room + 3)) (frame.answer.put "data") [.key "data"]
      (Json.readOption readData (room + 2)) := by
    have hrecord : PointsInto
        (Json.readRecord (.record "IntrospectionQueryResponse") .lenient responseForm (room + 3))
        (frame.answer.put "data") [.key "data"] (Json.readOption readData (room + 2)) :=
      Json.pointsInto_readRecord _ (show "data" ∈ ["data", "errors"] by decide) fun _ => rfl
    exact hrecord.bind_pure fun values => (⟨values.1, values.2.1⟩ : Response)
  exact hanswer.comp hinner

/-- An answer of which an item is not read, while it is read without this item and the ones behind it,
fails as the item does. -/
theorem readResponse_listing_eq_error {frame : DraftFrame} {room : Nat} {before after : List Draft}
    {d : Draft} {ending : ArrayEnd} {response : Response} {f : Failure}
    (hread : readResponse (room + 4) (frame.listing (.array before .closed)) = .ok response)
    (hd : readType room d = .error f) :
    readResponse (room + 4) (frame.listing (.array (before ++ d :: after) ending)) =
      .error ⟨placeOfType before.length ++ f.path, f.cause⟩ := by
  obtain ⟨⟨types, htypes⟩, hfail⟩ := pointsInto_readResponse frame (room + 1) _ response hread
  have hitems : Json.readItems (readType room) .closed 0 before = .ok types := htypes
  have hlist : Json.readList readType (room + 1) (.array (before ++ d :: after) ending) =
      .error (f.within (.index before.length)) := by
    rw [← Nat.zero_add before.length]
    exact Json.readItems_append_eq_error hitems hd
  exact hfail _ _ hlist

/-- **The first bad type.** Take the text of an answer with a list of entries under `data`, `__schema` and
`types`, and an entry of the list that is not read as a type. Let the answer be read when the list ends in
front of this entry. Then the answer is refused with the failure of this entry, at its place: the path
goes by `data`, `__schema`, `types` and the number of the entry, and from there as the reader of the
entry says. It does not matter what is wrong with the entry and what stands behind it.

**Proof sketch.** The shorter answer is read from any of its drafts (`stableReader_readResponse`), also
from that of the text with the items cut off in front of the entry. So each reader on the way has come to
the list and through the items in front of the entry (`pointsInto_readResponse`). It fails at the entry,
and puts its step to the failure (`Json.readItems_append_eq_error`, `Json.pointsInto_readRecord`). -/
theorem read_points_at_first_bad_type {frame : Frame} {before after : List Tree} {entry : Tree}
    {body shortened : List Char} {document : Schema.Document}
    (hbody : (frame.listing (before ++ entry :: after)).Starts body)
    (hshortened : (frame.listing before).Starts shortened) (hread : read shortened = .ok document)
    (hentry : ¬ IsListable entry) :
    ∃ failure, read body = .error (.undecodable failure) ∧
      placeOfType before.length <+: failure.path ∧
      (∃ rest, failure.path.text = "data.__schema.types[" ++ toString before.length ++ "]" ++ rest) ∧
      ∃ d f, d.tree = entry ∧ readType typeRoom d = .error f ∧
        failure = ⟨placeOfType before.length ++ f.path, f.cause⟩ := by
  obtain ⟨htree, hfault⟩ := Json.draft_of_starts hbody (frame.listing_ne_number _)
  obtain ⟨htree', hfault'⟩ := Json.draft_of_starts hshortened (frame.listing_ne_number _)
  obtain ⟨frame', items, ending, hdraft, rfl, hitems⟩ := Frame.exists_listing htree
  obtain ⟨ds, rest, rfl, rfl, hrest⟩ := List.map_eq_append_iff.mp hitems
  obtain ⟨d, ds', rfl, rfl, rfl⟩ := List.map_eq_cons_iff.mp hrest
  rw [hdraft, DraftFrame.skipFault?_listing_eq_none_iff, List.forall_mem_append,
    List.forall_mem_cons] at hfault
  obtain ⟨hframe, ⟨hds, hd, -⟩, -⟩ := hfault
  -- The shorter answer is read from the draft of the text, too.
  obtain ⟨types, errors, hresponse, -⟩ := read_eq_ok_iff.mp hread
  have hshort : readResponse Json.maxNesting (frame'.listing (.array ds .closed)) =
      .ok ⟨some types, errors⟩ := by
    refine stableReader_readResponse _ (Json.draft shortened) _ _ ⟨?_, hfault', ?_⟩ hresponse
    · rw [htree', DraftFrame.tree_listing]
      exact Revised.refl _ _ _
    · exact DraftFrame.skipFault?_listing_eq_none_iff.mpr ⟨hframe, hds, rfl⟩
  cases hread' : readType typeRoom d with
  | ok t =>
    obtain ⟨_, text, _, -, htext, -⟩ := hbody
    obtain ⟨value, hvalue⟩ := Frame.exists_writes htext
      (List.mem_append_right _ List.mem_cons_self)
    exact absurd (isListable_of_readType hvalue rfl hd hread') hentry
  | error f =>
    have hfail : Json.read readResponse body =
        .error ⟨placeOfType ds.length ++ f.path, f.cause⟩ := by
      rw [Json.read, hdraft]
      exact readResponse_listing_eq_error hshort hread'
    rw [List.length_map]
    exact ⟨_, by rw [read, hfail], List.prefix_append _ _, ⟨_, text_placeOfType_append _ _⟩, d, f, rfl,
      hread', rfl⟩

/-- An answer with a union type, an enum type that has no name, and something that is no
type at all. -/
def mixedAnswer : List Char :=
  ("\x7b\"data\":\x7b\"__schema\":\x7b\"types\":[\x7b\"kind\":\"UNION\"\x7d,\x7b\"kind\":\"ENUM\"," ++
    "\"name\":null\x7d,null]\x7d\x7d\x7d").toList

/-- The answer with its first type only. -/
def shortenedAnswer : List Char :=
  "\x7b\"data\":\x7b\"__schema\":\x7b\"types\":[\x7b\"kind\":\"UNION\"\x7d]\x7d\x7d\x7d".toList

/-- The text of the enum type. -/
def enumText : List Char :=
  "\x7b\"kind\":\"ENUM\",\"name\":null\x7d".toList

/-- The frame of both answers, with nothing around the gap. -/
def plainFrame : Frame :=
  ⟨⟨[], []⟩, ⟨[], []⟩, ⟨[], []⟩⟩

/-- The union type. -/
def unionEntry : Tree :=
  .object [(some "kind", .string (some "UNION"))]

/-- The enum type. -/
def enumEntry : Tree :=
  .object [(some "kind", .string (some "ENUM")), (some "name", .null)]

/-- The enum type is to blame, and not what stands behind it. -/
theorem read_points_at_first_bad_type_enum :
    (plainFrame.listing ([unionEntry] ++ enumEntry :: [.null])).Starts mixedAnswer ∧
    (plainFrame.listing [unionEntry]).Starts shortenedAnswer ∧ ¬ IsListable enumEntry ∧
    (∃ document, read shortenedAnswer = .ok document) ∧
    ∃ failure, read mixedAnswer = .error (.undecodable failure) ∧ placeOfType 1 <+: failure.path := by
  have hbody : (plainFrame.listing ([unionEntry] ++ enumEntry :: [.null])).Starts mixedAnswer :=
    Json.starts_of_draft (by decide +kernel) (by decide +kernel) (plainFrame.listing_ne_number _)
  have hshortened : (plainFrame.listing [unionEntry]).Starts shortenedAnswer :=
    Json.starts_of_draft (by decide +kernel) (by decide +kernel) (plainFrame.listing_ne_number _)
  have hok : (read shortenedAnswer).isOk := by decide +kernel
  have hentry : ¬ IsListable enumEntry := fun h => by
    have hfails : (readType typeRoom (Json.draft enumText)).isOk = false := by decide +kernel
    have htree : (Json.draft enumText).tree = enumEntry := by decide +kernel
    obtain ⟨t, ht⟩ := exists_readType_of_isListable h htree (by decide +kernel)
    rw [ht] at hfails
    cases hfails
  cases hread : read shortenedAnswer with
  | error e =>
    rw [hread] at hok
    cases hok
  | ok document =>
    obtain ⟨failure, hfailure, hpath, -⟩ :=
      read_points_at_first_bad_type hbody hshortened hread hentry
    exact ⟨hbody, hshortened, hentry, ⟨document, rfl⟩, failure, hfailure, hpath⟩

end SchemaQueries.Introspection
