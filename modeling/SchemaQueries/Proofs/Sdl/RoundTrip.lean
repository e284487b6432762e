import SchemaQueries.Output.Header
import SchemaQueries.Proofs.Introspection.AnswerShape
import SchemaQueries.Proofs.Introspection.Loaded
import SchemaQueries.Proofs.Json.Compact
import SchemaQueries.Proofs.Json.Drafts
import SchemaQueries.Proofs.Sdl.Accepted
import SchemaQueries.Proofs.Sdl.Parsing
import SchemaQueries.Proofs.Sdl.Printing
import SchemaQueries.Proofs.Sdl.Writable

/-!
# Reading a written schema back

A schema that is loaded by introspection is written to a file, with a header in front of it. The
file is read back as the same schema, provided that there is something to write and that no type
reference opens more brackets than a reader takes.

## Main results

* `Sdl.read_fileText_iff` — the header of a file makes no difference.
* `Sdl.read_fileText_mapTexts` — a written document is read back, with other texts in it.
* `Sdl.read_fileText` — a written document of types is read back as it is.
* `Introspection.read_fileText_of_read` — a schema that is loaded is read back from its file.
-/

set_option autoImplicit false
set_option relaxedAutoImplicit false

namespace SchemaQueries

namespace Sdl

variable {lineBreak : List Char}

/-! ### The header of a file -/

/-- The header of a file is a comment, so it is read as no token. -/
theorem emits_headerText (hlb : IsLineBreak lineBreak) (h : BitVec 32) (opened : Nat) :
    Emits opened (Output.headerText lineBreak h) [] opened := by
  have hmark : IsComment " hash:".toList := by decide
  have hdigits : IsComment (Nat.toDigits 10 h.toNat) := by
    intro c hc
    have hdigit := Nat.isDigit_of_mem_toDigits (by decide) (by decide) hc
    constructor <;> rintro rfl <;> exact absurd hdigit (by decide)
  have hcomment : IsComment (" hash:".toList ++ Nat.toDigits 10 h.toNat) :=
    List.forall_mem_append.mpr ⟨hmark, hdigits⟩
  have htext : Output.headerText lineBreak h =
      '#' :: (" hash:".toList ++ Nat.toDigits 10 h.toNat ++ lineBreak) := rfl
  rw [htext]
  rcases hlb with rfl | rfl
  · exact emits_comment hcomment (.inl rfl) opened
  · have hboth := (emits_comment hcomment (.inr rfl) opened).append
      (emits_gap (show IsGap ['\n'] by decide) opened)
    rwa [List.cons_append, List.append_assoc] at hboth

/-- A text is read as a document exactly if its tokens are. -/
theorem read_eq_ok_iff {cs : List Char} {ts : List Token} (h : Lexes 0 cs ts)
    {d : Schema.Document} : read cs = .ok d ↔ document ts = .ok d := by
  have htokens : (tokens cs).1.map (·.2) = ts := h .start (cs.length + 1) (Nat.lt_succ_self _)
  rw [read_eq_ok, htokens]

/-- The header of a file makes no difference to the document that is read from it. -/
theorem read_fileText_iff (hlb : IsLineBreak lineBreak) (content : List Char)
    {d : Schema.Document} :
    read (Output.fileText lineBreak content) = .ok d ↔
      read (Text.withLineBreak lineBreak content) = .ok d := by
  have hcontent := lexes_tokensFrom 0 .start (Nat.lt_succ_self
    (Text.withLineBreak lineBreak content).length)
  have hfile : Lexes 0 (Output.fileText lineBreak content) _ :=
    emits_headerText hlb _ 0 _ _ trivial hcontent
  exact (read_eq_ok_iff hfile).trans (read_eq_ok_iff hcontent).symm

/-! ### Documents -/

/-- A document of one or more definitions that can be written down is read back from its file, with
its texts as they are read back. -/
theorem read_fileText_mapTexts (hlb : IsLineBreak lineBreak) (indent : Nat) {d : Schema.Document}
    (hne : d.definitions ≠ []) (h : ∀ x ∈ d.definitions, x.IsLegible IsReadBack)
    (hplaces : ∀ x ∈ d.definitions, x.NamesPlaces) :
    read (Output.fileText lineBreak (d.text indent)) =
      .ok (d.mapTexts ((Layout.outermost indent).readBack lineBreak)
        ((Layout.outermost indent).deeper.readBack lineBreak)) := by
  have hprints := prints_document hlb indent h hplaces
  have hlegible : ∀ x ∈ (d.mapTexts ((Layout.outermost indent).readBack lineBreak)
      ((Layout.outermost indent).deeper.readBack lineBreak)).definitions,
      x.IsLegible fun _ => True :=
    List.forall_mem_map.mpr fun x hx =>
      (h x hx).mapTexts (fun _ _ => trivial) fun _ _ => trivial
  refine (read_fileText_iff hlb _).mpr ((read_eq_ok_iff (hprints.lexes trivial)).mpr ?_)
  refine document_tokens ?_ hlegible (List.forall_mem_map.mpr fun x hx => (hplaces x hx).mapTexts)
  simpa [Schema.Document.mapTexts] using hne

/-- A document of one or more types that introspection tells of is read back from its file. -/
theorem read_fileText (hlb : IsLineBreak lineBreak) (indent : Nat)
    {types : List Schema.TypeDefinition} (hne : types ≠ []) (h : ∀ t ∈ types, t.IsWritable)
    (hbare : ∀ t ∈ types, t.bare = t) (htold : ∀ t ∈ types, t.body.isTold = true)
    (hnests : ∀ t ∈ types, t.body.NestsAtMost maxOpen) :
    read (Output.fileText lineBreak (Schema.Document.text indent ⟨types.map .type⟩)) =
      .ok ⟨types.map .type⟩ := by
  have hread := read_fileText_mapTexts hlb indent (d := ⟨types.map .type⟩) (by simpa using hne)
    (List.forall_mem_map.mpr fun t ht =>
      (h t ht).isLegible (hbare t ht) (htold t ht) (hnests t ht))
    (List.forall_mem_map.mpr fun t _ => trivial)
  rw [hread, Schema.Document.mapTexts, List.map_map]
  congr 2
  refine List.map_congr_left fun t ht => ?_
  exact (h t ht).mapTexts_eq (hbare t ht) (htold t ht) (fun s => readBack_of_isOneLine _)
    fun s => readBack_of_isOneLine _

end Sdl

/-- A type of a kind with members has at least one. -/
def Schema.TypeBody.HasMembers : Schema.TypeBody → Prop
  | .object _ fields => fields ≠ []
  | .enum values => values ≠ []
  | .input fields => fields ≠ []
  | _ => True

namespace Introspection

/-- **A loaded schema survives being written.** Take a document that is read from an answer, whatever
the answer is. Let it hold at least one type, let all names in it be names of GraphQL, no non-null
type be directly inside another one, and every description be on one line. Let no more than fifty
brackets be open at a time, which admits 49 lists around the type of a field or an input field and
48 around the type of an argument. Then the file that the document is written to is read back as
the document, for every indentation and either line break.

**Proof sketch.** The document holds nothing but what introspection tells of
(`exists_types_of_read`), so that its text is read as the tokens of its types
(`Sdl.prints_document`) and these tokens as its types (`Sdl.document_tokens`). The header of the
file is a comment (`Sdl.emits_headerText`). -/
theorem read_fileText_of_read {body : List Char} {d : Schema.Document} (hread : read body = .ok d)
    (hne : d.definitions ≠ []) (hwritable : ∀ t, .type t ∈ d.definitions → t.IsWritable)
    (hnests : ∀ t, .type t ∈ d.definitions → t.body.NestsAtMost 50)
    {lineBreak : List Char} (hlb : lineBreak = ['\n'] ∨ lineBreak = ['\r', '\n']) (indent : Nat) :
    Sdl.read (Output.fileText lineBreak (d.text indent)) = .ok d := by
  obtain ⟨types, rfl, htypes⟩ := exists_types_of_read hread
  have hmem : ∀ t ∈ types, .type t ∈ types.map Schema.Definition.type := fun _ =>
    List.mem_map_of_mem
  refine Sdl.read_fileText hlb indent ?_ (fun t ht => hwritable t (hmem t ht))
    (fun t ht => (htypes t ht).1) (fun t ht => (htypes t ht).2) (fun t ht => hnests t (hmem t ht))
  rintro rfl
  exact hne rfl

/-! ### At the bound -/

/-- A number in `n` lists. -/
def numbersIn : Nat → TypeRef
  | 0 => .named "Int"
  | n + 1 => .list (numbersIn n)

/-- A description with characters that are escaped between quotes. -/
def seriesDescription : String :=
  "A \"series\"\tof \\numbers"

/-- A type with a single field, which is in `outer` lists and has an argument in `inner` lists. -/
def series (inner outer : Nat) : Schema.TypeDefinition :=
  ⟨some seriesDescription, "Series", [],
    .object [] [⟨none, "numbers", [⟨none, "near", numbersIn inner, none, []⟩],
      numbersIn outer, []⟩]⟩

/-- An answer that lists these types. -/
def answerListing (types : List Json) : Json :=
  .object [("data", .object [("__schema", .object [("types", .array types)])])]

/-- How the type `series` is listed by an endpoint that looks through all of its lists. -/
def seriesAnswer (inner outer : Nat) : Json :=
  .object [("kind", .string "OBJECT"), ("name", .string "Series"),
    ("description", .string seriesDescription),
    ("fields", .array [.object [("name", .string "numbers"),
      ("args", .array [.object [("name", .string "near"),
        ("type", refAnswer [] inner (numbersIn inner))]]),
      ("type", refAnswer [] outer (numbersIn outer))]])]

/-- As many lists stand around the number. -/
theorem lists_numbersIn (n : Nat) : (numbersIn n).lists = n := by
  induction n with
  | zero => rfl
  | succ n ih => rw [numbersIn, TypeRef.lists, ih]

/-- A number in lists can be written down. -/
theorem isWritable_numbersIn (n : Nat) : (numbersIn n).IsWritable := by
  induction n with
  | zero => exact (by decide : Sdl.isName "Int".toList = true)
  | succ n ih => exact ih

/-- The type can be written down, whatever lists it has. -/
theorem isWritable_series (inner outer : Nat) : (series inner outer).IsWritable where
  isName := show Sdl.isName "Series".toList = true by decide
  isOneLine := show ∀ s ∈ some seriesDescription, Sdl.IsOneLine s by decide
  body := by
    have hnear : Sdl.isName "near".toList = true := by decide
    have hnumbers : Sdl.isName "numbers".toList = true := by decide
    have hnone : ∀ s ∈ (none : Option String), Sdl.IsOneLine s := by simp
    refine List.forall_mem_singleton.mpr ⟨hnumbers, hnone, ?_, isWritable_numbersIn outer⟩
    exact List.forall_mem_singleton.mpr ⟨hnear, hnone, isWritable_numbersIn inner⟩

/-- The text of an answer is read as the answer is. -/
theorem read_compactText {j : Json} (hj : j.isNumberless = true) {types : Listing}
    {errors : List String}
    (h : readResponse Json.maxNesting (Json.Draft.ofJson j) = .ok ⟨some types, errors⟩) :
    read (Json.compactText j) = .ok (documentOf types) := by
  rw [read, Json.read, Json.draft_of_isTextOf (Json.isTextOf_compactText hj), h]

/-- The lists open at most so many brackets. -/
theorem nestsAtMost_series {inner outer n : Nat} (hinner : 2 + inner ≤ n) (houter : 1 + outer ≤ n) :
    (series inner outer).body.NestsAtMost n := by
  refine List.forall_mem_singleton.mpr ⟨List.forall_mem_singleton.mpr ?_, ?_⟩
  · rwa [lists_numbersIn]
  · rwa [lists_numbersIn]

set_option maxRecDepth 4000 in
/-- The type is read back with 49 lists around the type of the field and 48 around the type of the
argument. -/
theorem read_fileText_series :
    read (Json.compactText (answerListing [seriesAnswer 48 49])) =
      .ok ⟨[.type (series 48 49)]⟩ ∧
    (series 48 49).IsWritable ∧ (series 48 49).body.NestsAtMost 50 ∧
    Sdl.read (Output.fileText ['\r', '\n'] (Schema.Document.text 2 ⟨[.type (series 48 49)]⟩)) =
      .ok ⟨[.type (series 48 49)]⟩ := by
  have hresponse : readResponse Json.maxNesting
      (Json.Draft.ofJson (answerListing [seriesAnswer 48 49])) =
      .ok ⟨some [some (series 48 49)], []⟩ := rfl
  have hread : read (Json.compactText (answerListing [seriesAnswer 48 49])) =
      .ok ⟨[.type (series 48 49)]⟩ := read_compactText (by decide +kernel) hresponse
  have hwritable : ∀ t, .type t ∈ [Schema.Definition.type (series 48 49)] → t.IsWritable := by
    intro t ht
    obtain rfl := Schema.Definition.type.inj (List.mem_singleton.mp ht)
    exact isWritable_series 48 49
  have hnests : ∀ t, .type t ∈ [Schema.Definition.type (series 48 49)] →
      t.body.NestsAtMost 50 := by
    intro t ht
    obtain rfl := Schema.Definition.type.inj (List.mem_singleton.mp ht)
    exact nestsAtMost_series (by decide) (by decide)
  exact ⟨hread, isWritable_series 48 49, nestsAtMost_series (by decide) (by decide),
    read_fileText_of_read hread (by simp) hwritable hnests (.inr rfl) 2⟩

/-- No document is read from a file if none is read from the content. -/
theorem fileText_refused {content : List Char}
    (h : (Sdl.read (Text.withLineBreak ['\n'] content)).toBool = false) (d : Schema.Document) :
    Sdl.read (Output.fileText ['\n'] content) ≠ .ok d := by
  intro hread
  rw [Sdl.read_fileText_iff (.inl rfl)] at hread
  rw [hread] at h
  exact absurd h (by simp [Except.toBool])

set_option maxRecDepth 4000 in
/-- The document without types is loaded, but not read back, and neither is the one with fifty lists
around the type of the field, nor the one with 49 lists around the type of the argument.

**Proof sketch.** Each listing is read as its document, and the text that is printed of this document is
refused by the reader. Both are computed. -/
theorem exists_fileText_refused :
    (read (Json.compactText (answerListing [])) = .ok ⟨[]⟩ ∧
      ∀ d, Sdl.read (Output.fileText ['\n'] (Schema.Document.text 2 ⟨[]⟩)) ≠ .ok d) ∧
    (read (Json.compactText (answerListing [seriesAnswer 0 50])) = .ok ⟨[.type (series 0 50)]⟩ ∧
      (series 0 50).IsWritable ∧ (series 0 50).body.HasMembers ∧
      ∀ d, Sdl.read (Output.fileText ['\n']
        (Schema.Document.text 2 ⟨[.type (series 0 50)]⟩)) ≠ .ok d) ∧
    (read (Json.compactText (answerListing [seriesAnswer 49 0])) = .ok ⟨[.type (series 49 0)]⟩ ∧
      (series 49 0).IsWritable ∧ (series 49 0).body.HasMembers ∧
      ∀ d, Sdl.read (Output.fileText ['\n']
        (Schema.Document.text 2 ⟨[.type (series 49 0)]⟩)) ≠ .ok d) := by
  have hnone : readResponse Json.maxNesting (Json.Draft.ofJson (answerListing [])) =
      .ok ⟨some [], []⟩ := rfl
  have houter : readResponse Json.maxNesting
      (Json.Draft.ofJson (answerListing [seriesAnswer 0 50])) =
      .ok ⟨some [some (series 0 50)], []⟩ := rfl
  have hinner : readResponse Json.maxNesting
      (Json.Draft.ofJson (answerListing [seriesAnswer 49 0])) =
      .ok ⟨some [some (series 49 0)], []⟩ := rfl
  have hmembers (inner outer : Nat) : (series inner outer).body.HasMembers :=
    List.cons_ne_nil _ _
  refine ⟨⟨?_, ?_⟩, ⟨?_, isWritable_series 0 50, hmembers 0 50, ?_⟩,
    ?_, isWritable_series 49 0, hmembers 49 0, ?_⟩
  · exact read_compactText (by decide +kernel) hnone
  · exact fileText_refused (by decide +kernel)
  · exact read_compactText (by decide +kernel) houter
  · exact fileText_refused (by decide +kernel)
  · exact read_compactText (by decide +kernel) hinner
  · exact fileText_refused (by decide +kernel)

end Introspection

end SchemaQueries
