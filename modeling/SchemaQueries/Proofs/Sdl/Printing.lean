import SchemaQueries.Proofs.Sdl.Pieces

/-!
# The tokens of a printed schema

A schema document that can be written down is printed and read as the tokens of its definitions,
with either line break. The texts in it need not be read as they were, but as what they are read
back as.

## Main results

* `Sdl.prints_directives`, `Sdl.prints_field`, `Sdl.prints_typeBody`, … — the parts of a definition.
* `Sdl.prints_document` — a printed document is read as the tokens of its definitions.
-/

set_option autoImplicit false
set_option relaxedAutoImplicit false

namespace SchemaQueries

/-! ### The parts of a text -/

namespace Schema

/-- The tokens of a group of replaced items. -/
theorem groupTokens_map {α β : Type} (opening close : Char) (tokens : β → List Sdl.Token)
    (f : α → β) (xs : List α) :
    groupTokens opening close tokens (xs.map f) =
      groupTokens opening close (fun x => tokens (f x)) xs := by
  cases xs with
  | nil => rfl
  | cons x xs => simp only [groupTokens, List.map_cons, List.flatMap_cons, List.flatMap_map]

/-- A directive, with a space before it. -/
def Directive.text (l : Layout) (d : Directive) : List Char :=
  [' '] ++ (['@'] ++ (d.name.toList ++ Value.argumentsText l d.arguments))

/-- Directives are printed one after the other. -/
theorem directivesText_eq_flatMap (l : Layout) (directives : List Directive) :
    directivesText l directives = directives.flatMap (Directive.text l) := rfl

/-- A default value. -/
def defaultText (l : Layout) : Option Value → List Char
  | none => []
  | some value => [' '] ++ (['=', ' '] ++ value.text l)

/-- An argument or input field, part by part. -/
theorem InputValue.text_eq (l : Layout) (v : InputValue) :
    v.text l = descriptionBefore l v.description ++ (v.name.toList ++ ([':', ' '] ++ (v.type.text ++
      (defaultText l v.default ++ directivesText l v.directives)))) := by
  cases hdefault : v.default <;> simp [InputValue.text, defaultText, hdefault]

/-- A field, part by part. -/
theorem Field.text_eq (l : Layout) (f : Field) :
    f.text l = descriptionLines l f.description ++ (l.margin ++ (f.name.toList ++
      (argumentDefinitionsText l f.arguments ++ ([':', ' '] ++ (f.type.text ++
        (directivesText l f.directives ++ ['\n'])))))) := by
  simp [Field.text]

/-- An enum value, part by part. -/
theorem EnumValue.text_eq (l : Layout) (v : EnumValue) :
    v.text l = l.margin ++ (descriptionBefore l v.description ++ (v.name.toList ++
      (directivesText l v.directives ++ ['\n']))) := by
  simp [EnumValue.text]

/-- A type from the word for its kind on, part by part. -/
theorem TypeBody.text_eq (l : Layout) (body : TypeBody) (name : String)
    (directives : List Directive) :
    body.text l name directives = body.keyword.toList ++ ([' '] ++ (name.toList ++
      (body.beforeDirectives ++ (directivesText l directives ++ body.afterDirectives l)))) := by
  simp [TypeBody.text]

-- The equations of `Definition.text` are stated here one by one, because those that Lean derives by
-- itself take it very long.

/-- The definition of the root operation types, part by part. -/
theorem Definition.text_schema (l : Layout) (directives : List Directive) (roots : Roots) :
    text l (.schema directives roots) =
      "schema".toList ++ directivesText l directives ++ l.block roots.text := rfl

/-- The definition of a type, part by part. -/
theorem Definition.text_type (l : Layout) (t : TypeDefinition) :
    text l (.type t) = descriptionLines l t.description ++ t.body.text l t.name t.directives := rfl

/-- The extension of a type, part by part. -/
theorem Definition.text_extension (l : Layout) (e : TypeExtension) :
    text l (.extension e) = "extend".toList ++ ([' '] ++ e.body.text l e.name e.directives) := rfl

/-- The word that says that a directive may be repeated, with a space before it. -/
def repeatableText (repeatable : Bool) : List Char :=
  if repeatable then [' '] ++ "repeatable".toList else []

/-- The places where a directive may stand, at the end of a line. -/
def placesText (places : List Location) : List Char :=
  [' '] ++ ("on".toList ++ ([' '] ++ (Text.joinWith [' ', '|', ' ']
    ((places.map Location.name).map (·.toList)) ++ ['\n'])))

/-- The definition of a directive that names some place, part by part. -/
theorem Definition.text_directive (l : Layout) (d : DirectiveDefinition) (h : d.locations ≠ []) :
    text l (.directive d) = descriptionLines l d.description ++ ("directive".toList ++ ([' '] ++
      (['@'] ++ (d.name.toList ++ (argumentDefinitionsText l d.arguments ++
        (repeatableText d.repeatable ++ placesText d.locations)))))) := by
  have hne : ¬ d.locations.isEmpty = true := by simpa using h
  have htext : text l (.directive d) = descriptionLines l d.description ++
      ("directive".toList ++ [' ', '@']) ++ d.name.toList ++ argumentDefinitionsText l d.arguments
      ++ repeatableText d.repeatable
      ++ (if d.locations.isEmpty then []
        else [' '] ++ ("on".toList ++ [' ']) ++ Text.joinWith [' ', '|', ' ']
          (d.locations.map (·.name.toList)))
      ++ ['\n'] := rfl
  rw [htext, if_neg hne, placesText, List.map_map]
  simp only [List.append_assoc, List.cons_append, List.nil_append, Function.comp_def]

/-- Other texts leave the kind of a type. -/
@[simp] theorem TypeBody.keyword_mapTexts (f : String → String) (body : TypeBody) :
    (body.mapTexts f).keyword = body.keyword := by
  cases body <;> rfl

end Schema

namespace Sdl

variable {lineBreak : List Char}

/-! ### Directives -/

/-- The arguments of a directive are printed as their tokens. -/
theorem prints_arguments (hlb : IsLineBreak lineBreak) (l : Layout) {opened : Nat}
    {arguments : List (String × Value)} (hkeys : ∀ a ∈ arguments, isName a.1.toList = true)
    (hvalues : ∀ a ∈ arguments, a.2.IsLegible IsReadBack true (opened + 1)) :
    Prints lineBreak Anything opened (Value.argumentsText l arguments)
      (Schema.groupTokens '(' ')' Value.memberTokens
        (arguments.map (Value.mapMember (l.readBack lineBreak)))) opened := by
  have hopened {a : String × Value} (ha : a ∈ arguments) : opened + 1 ≤ maxOpen :=
    (hvalues a ha).opened_le
  rw [Value.argumentsText_eq, Schema.groupTokens_map]
  refine prints_parentheses hlb (fun hne => ?_) fun a ha =>
    prints_member hlb l (hopened ha) (hkeys a ha) (prints_value hlb l (hvalues a ha))
  exact hopened (List.head_mem hne)

/-- Arguments do not merge with a token before them. -/
theorem endsToken_arguments (l : Layout) (arguments : List (String × Value)) :
    EndsToken (Value.argumentsText l arguments) := by
  rw [Value.argumentsText_eq]
  exact endsToken_parentheses _ _

/-- A directive stands apart. -/
theorem startsApart_directive (l : Layout) (d : Schema.Directive) : StartsApart (d.text l) :=
  .cons (by decide) _

/-- A directive is printed as its tokens. -/
theorem prints_directive (hlb : IsLineBreak lineBreak) (l : Layout) {opened : Nat}
    {d : Schema.Directive} (h : d.IsLegible IsReadBack opened) :
    Prints lineBreak EndsToken opened (d.text l) (d.mapTexts (l.readBack lineBreak)).tokens
      opened := by
  have hmark := prints_mark hlb (c := '@') (by decide) [] (by decide) h.opened_le
  have hname : Prints lineBreak EndsToken opened
      (d.name.toList ++ Value.argumentsText l d.arguments) _ opened :=
    (prints_name h.isName h.opened_le).append_optional hlb
      ((prints_arguments hlb l h.keys h.values).imp fun _ _ => trivial) (endsToken_arguments l _)
  exact (prints_gap hlb [' '] (by decide) opened).append_of_anything (hmark.append_of_anything hname)

/-- Directives are printed as their tokens. -/
theorem prints_directives (hlb : IsLineBreak lineBreak) (l : Layout) {opened : Nat}
    {directives : List Schema.Directive} (h : ∀ d ∈ directives, d.IsLegible IsReadBack opened) :
    Prints lineBreak EndsToken opened (Schema.directivesText l directives)
      ((directives.map (Schema.Directive.mapTexts (l.readBack lineBreak))).flatMap
        Schema.Directive.tokens) opened := by
  rw [Schema.directivesText_eq_flatMap, List.flatMap_map]
  exact prints_flatMap_apart hlb (fun d hd => prints_directive hlb l (h d hd)) fun d _ =>
    startsApart_directive l d

/-- Directives do not merge with a token before them. -/
theorem endsToken_directives (l : Layout) (directives : List Schema.Directive) :
    EndsToken (Schema.directivesText l directives) :=
  endsToken_flatMap fun d _ => startsApart_directive l d

/-- Directives at the end of a line are printed as their tokens. -/
theorem prints_directives_line (hlb : IsLineBreak lineBreak) (l : Layout) {opened : Nat}
    {directives : List Schema.Directive} (h : ∀ d ∈ directives, d.IsLegible IsReadBack opened) :
    Prints lineBreak Anything opened (Schema.directivesText l directives ++ ['\n'])
      ((directives.map (Schema.Directive.mapTexts (l.readBack lineBreak))).flatMap
        Schema.Directive.tokens) opened := by
  have hline := (prints_directives hlb l h).append_apart hlb
    (prints_gap hlb ['\n'] (by decide) opened) (.cons (by decide) [])
  rwa [List.append_nil] at hline

/-- Directives at the end of a line stand apart. -/
theorem startsApart_directives_line (l : Layout) (directives : List Schema.Directive) :
    StartsApart (Schema.directivesText l directives ++ ['\n']) :=
  .append_left (endsToken_directives l directives) (.cons (by decide) [])

/-! ### Members of types -/

/-- A description is printed before what it describes. -/
theorem prints_descriptionBefore (hlb : IsLineBreak lineBreak) (l : Layout)
    {description : Option String} (h : ∀ s ∈ description, IsReadBack s) {opened : Nat}
    (hopened : opened ≤ maxOpen) :
    Prints lineBreak Anything opened (Schema.descriptionBefore l description)
      (Schema.descriptionTokens (description.map (l.readBack lineBreak))) opened := by
  cases description with
  | none => exact .nil
  | some s =>
    exact (prints_quoted hlb l (h s rfl) hopened).append_apart hlb
      (prints_gap hlb [' '] (by decide) opened) (.cons (by decide) [])

/-- A description is printed on lines of its own. -/
theorem prints_descriptionLines (hlb : IsLineBreak lineBreak) (l : Layout)
    {description : Option String} (h : ∀ s ∈ description, IsReadBack s) {opened : Nat}
    (hopened : opened ≤ maxOpen) :
    Prints lineBreak Anything opened (Schema.descriptionLines l description)
      (Schema.descriptionTokens (description.map (l.readBack lineBreak))) opened := by
  cases description with
  | none => exact .nil
  | some s =>
    have hquoted :=
      (prints_margin hlb l opened).append_of_anything (prints_quoted hlb l (h s rfl) hopened)
    exact hquoted.append_apart hlb (prints_gap hlb ['\n'] (by decide) opened) (.cons (by decide) [])

/-- A default value is printed as its tokens. -/
theorem prints_default (hlb : IsLineBreak lineBreak) (l : Layout) {opened : Nat}
    {default : Option Value} (h : ∀ v ∈ default, v.IsLegible IsReadBack false opened) :
    Prints lineBreak EndsToken opened (Schema.defaultText l default)
      (Schema.defaultTokens (default.map (Value.mapTexts (l.readBack lineBreak)))) opened := by
  cases default with
  | none => exact .nil
  | some v =>
    have hmark := prints_mark hlb (c := '=') (by decide) [' '] (by decide) (h v rfl).opened_le
    exact (prints_gap hlb [' '] (by decide) opened).append_of_anything
      (hmark.append_of_anything (prints_value hlb l (h v rfl)))

/-- A default value does not merge with a token before it. -/
theorem endsToken_default (l : Layout) (default : Option Value) :
    EndsToken (Schema.defaultText l default) := by
  cases default with
  | none => exact .nil
  | some v => exact (StartsApart.cons (by decide) _).endsToken

/-- An argument or an input field is printed as its tokens. -/
theorem prints_inputValue (hlb : IsLineBreak lineBreak) (l : Layout) {opened : Nat}
    {v : Schema.InputValue} (h : v.IsLegible IsReadBack opened) :
    Prints lineBreak EndsToken opened (v.text l) (v.mapTexts (l.readBack lineBreak)).tokens
      opened := by
  have hopened : opened ≤ maxOpen := Nat.le_of_add_right_le h.nests
  have hmark := prints_mark hlb (c := ':') (by decide) [' '] (by decide) hopened
  have hend := (prints_default hlb l h.default).append_optional hlb
    (prints_directives hlb l h.directives) (endsToken_directives l _)
  have htype := (prints_typeRef hlb h.type h.nests).append_optional hlb hend
    ((endsToken_default l _).append (endsToken_directives l _))
  have hname := (prints_name h.isName hopened).append_apart hlb (hmark.append_of_anything htype)
    (.cons (by decide) _)
  rw [Schema.InputValue.text_eq]
  exact (prints_descriptionBefore hlb l h.description hopened).append_of_anything hname

/-- Arguments in parentheses are printed as their tokens. -/
theorem prints_argumentDefinitions (hlb : IsLineBreak lineBreak) (l : Layout) {opened : Nat}
    {arguments : List Schema.InputValue}
    (h : ∀ v ∈ arguments, v.IsLegible IsReadBack (opened + 1)) :
    Prints lineBreak Anything opened (Schema.argumentDefinitionsText l arguments)
      (Schema.groupTokens '(' ')' Schema.InputValue.tokens
        (arguments.map (Schema.InputValue.mapTexts (l.readBack lineBreak)))) opened := by
  rw [Schema.groupTokens_map]
  refine prints_parentheses hlb (fun hne => ?_) fun v hv => prints_inputValue hlb l (h v hv)
  exact Nat.le_of_add_right_le (h _ (List.head_mem hne)).nests

/-- Arguments in parentheses do not merge with a token before them. -/
theorem endsToken_argumentDefinitions (l : Layout) (arguments : List Schema.InputValue) :
    EndsToken (Schema.argumentDefinitionsText l arguments) :=
  endsToken_parentheses _ arguments

/-- A field is printed as its tokens. -/
theorem prints_field (hlb : IsLineBreak lineBreak) (l : Layout) {f : Schema.Field}
    (h : f.IsLegible IsReadBack) :
    Prints lineBreak Anything 1 (f.text l) (f.mapTexts (l.readBack lineBreak)).tokens 1 := by
  have hopened : 1 ≤ maxOpen := by decide
  have hmark := prints_mark hlb (c := ':') (by decide) [' '] (by decide) hopened
  have htype := (prints_typeRef hlb h.type h.nests).append_apart hlb
    (prints_directives_line hlb l h.directives) (startsApart_directives_line l _)
  have harguments := (prints_argumentDefinitions hlb l h.arguments).append_of_anything
    (hmark.append_of_anything htype)
  have hname := (prints_name h.isName hopened).append_apart hlb harguments
    (.append_left (endsToken_argumentDefinitions l _) (.cons (by decide) _))
  rw [Schema.Field.text_eq]
  exact (prints_descriptionLines hlb l h.description hopened).append_of_anything
    ((prints_margin hlb l 1).append_of_anything hname)

/-- An enum value is printed as its tokens. -/
theorem prints_enumValue (hlb : IsLineBreak lineBreak) (l : Layout) {v : Schema.EnumValue}
    (h : v.IsLegible IsReadBack) :
    Prints lineBreak Anything 1 (v.text l) (v.mapTexts (l.readBack lineBreak)).tokens 1 := by
  have hopened : 1 ≤ maxOpen := by decide
  have hname := (prints_name h.isName hopened).append_apart hlb
    (prints_directives_line hlb l h.directives) (startsApart_directives_line l _)
  rw [Schema.EnumValue.text_eq]
  exact (prints_margin hlb l 1).append_of_anything
    ((prints_descriptionBefore hlb l h.description hopened).append_of_anything hname)

/-- An input field on a line of its own is printed as its tokens. -/
theorem prints_inputValue_line (hlb : IsLineBreak lineBreak) (l : Layout) {v : Schema.InputValue}
    (h : v.IsLegible IsReadBack 1) :
    Prints lineBreak Anything 1 (v.lineText l) (v.mapTexts (l.readBack lineBreak)).tokens 1 := by
  have hline := (prints_inputValue hlb l h).append_apart hlb
    (prints_gap hlb ['\n'] (by decide) 1) (.cons (by decide) [])
  rw [List.append_nil] at hline
  rw [Schema.InputValue.lineText, List.append_assoc]
  exact (prints_margin hlb l 1).append_of_anything hline

/-! ### Types -/

/-- Lines between braces are printed as their tokens between braces. -/
theorem prints_block (hlb : IsLineBreak lineBreak) (l : Layout) (lines : Layout → List Char)
    {opened : Nat} (hopened : opened + 1 ≤ maxOpen) {ts : List Token}
    (h : Prints lineBreak Anything (opened + 1) (lines l.deeper) ts (opened + 1)) :
    Prints lineBreak Anything opened (l.block lines) (.mark '\x7b' :: (ts ++ [.mark '\x7d']))
      opened := by
  have hopening := (prints_gap hlb [' '] (by decide) opened).append_of_anything
    (prints_mark hlb (c := '\x7b') (by decide) ['\n'] (by decide) hopened)
  have hclosing := (prints_margin hlb l (opened + 1)).append_of_anything
    (prints_mark hlb (c := '\x7d') (by decide) ['\n'] (by decide)
      (show opened + 1 - 1 ≤ maxOpen by omega))
  have hblock := hopening.append_of_anything (h.append_of_anything hclosing)
  simpa [Layout.block, openAfter] using hblock

/-- Members in a block are printed as their tokens between braces. -/
theorem prints_blockOrEnd {α : Type} (hlb : IsLineBreak lineBreak) (l : Layout) {opened : Nat}
    (hopened : opened + 1 ≤ maxOpen) {print : Layout → α → List Char} {tokens : α → List Token}
    {members : List α}
    (h : ∀ x ∈ members,
      Prints lineBreak Anything (opened + 1) (print l.deeper x) (tokens x) (opened + 1)) :
    Prints lineBreak Anything opened (Schema.blockOrEnd l print members)
      (Schema.groupTokens '\x7b' '\x7d' tokens members) opened := by
  cases members with
  | nil => exact prints_gap hlb ['\n'] (by decide) opened
  | cons x rest =>
    exact prints_block hlb l (fun inner => (x :: rest).flatMap (print inner)) hopened
      (prints_flatMap h)

/-- Members in a block stand apart. -/
theorem startsApart_blockOrEnd {α : Type} (l : Layout) (print : Layout → α → List Char)
    (members : List α) : StartsApart (Schema.blockOrEnd l print members) := by
  cases members with
  | nil => exact .cons (by decide) _
  | cons x members => exact .cons (by decide) _

/-- The interfaces of a type are printed as their tokens. -/
theorem prints_interfaces (hlb : IsLineBreak lineBreak) {interfaces : List String}
    (h : ∀ s ∈ interfaces, isName s.toList = true) :
    Prints lineBreak EndsToken 0 (Schema.interfacesText interfaces)
      (Schema.interfacesTokens interfaces) 0 := by
  cases interfaces with
  | nil => exact .nil
  | cons first rest =>
    have hnames : Prints lineBreak EndsToken 0 _ (Schema.separatedTokens '&' (first :: rest)) 0 :=
      prints_separated hlb (by decide) rfl (by decide) h
    have hword : Prints lineBreak EndsToken 0 "implements".toList [.name "implements"] 0 :=
      prints_name (by decide) (by decide)
    have hlater := hword.append_apart hlb
      ((prints_gap hlb [' '] (by decide) 0).append_of_anything hnames) (.cons (by decide) _)
    exact (prints_gap hlb [' '] (by decide) 0).append_of_anything hlater

/-- The interfaces of a type do not merge with its name. -/
theorem endsToken_interfaces (interfaces : List String) :
    EndsToken (Schema.interfacesText interfaces) := by
  cases interfaces with
  | nil => exact .nil
  | cons first rest => exact (StartsApart.cons (by decide) _).endsToken

/-- What stands before the directives of a type is printed as its tokens. -/
theorem prints_beforeDirectives (hlb : IsLineBreak lineBreak) {body : Schema.TypeBody}
    (h : body.IsLegible IsReadBack) :
    Prints lineBreak EndsToken 0 body.beforeDirectives body.beforeTokens 0 := by
  cases body with
  | object interfaces fields | interface interfaces fields => exact prints_interfaces hlb h.1
  | _ => exact .nil

/-- What stands before the directives of a type does not merge with its name. -/
theorem endsToken_beforeDirectives (body : Schema.TypeBody) : EndsToken body.beforeDirectives := by
  cases body with
  | object interfaces fields | interface interfaces fields => exact endsToken_interfaces interfaces
  | _ => exact .nil

/-- What stands behind the directives of a type is printed as its tokens.

**Proof sketch.** By cases on the kind of the type. Fields, values and input fields stand in a block,
one in a line, and the members of a union behind an equals sign with bars between them. A scalar only
ends its line. -/
theorem prints_afterDirectives (hlb : IsLineBreak lineBreak) (l : Layout) {body : Schema.TypeBody}
    (h : body.IsLegible IsReadBack) :
    Prints lineBreak Anything 0 (body.afterDirectives l)
      (body.mapTexts (l.deeper.readBack lineBreak)).afterTokens 0 := by
  cases body with
  | scalar => exact prints_gap hlb ['\n'] (by decide) 0
  | object interfaces fields | interface interfaces fields =>
    rw [Schema.TypeBody.mapTexts, Schema.TypeBody.afterTokens, Schema.groupTokens_map]
    exact prints_blockOrEnd hlb l (by decide) fun f hf => prints_field hlb l.deeper (h.2 f hf)
  | union members =>
    have hline := prints_gap hlb ['\n'] (by decide) 0
    cases members with
    | nil => exact hline
    | cons first rest =>
      have hmark := (prints_gap hlb [' '] (by decide) 0).append_of_anything
        (prints_mark hlb (c := '=') (by decide) [' '] (by decide) (show 0 ≤ maxOpen by decide))
      have hnames : Prints lineBreak EndsToken 0 _ (Schema.separatedTokens '|' (first :: rest)) 0 :=
        prints_separated hlb (by decide) rfl (by decide) h
      have hunion := (hmark.append_of_anything hnames).append_apart hlb hline (.cons (by decide) [])
      rwa [List.append_nil] at hunion
  | enum values =>
    rw [Schema.TypeBody.mapTexts, Schema.TypeBody.afterTokens, Schema.groupTokens_map]
    exact prints_blockOrEnd hlb l (by decide) fun v hv => prints_enumValue hlb l.deeper (h v hv)
  | input fields =>
    rw [Schema.TypeBody.mapTexts, Schema.TypeBody.afterTokens, Schema.groupTokens_map]
    exact prints_blockOrEnd hlb l (by decide) fun v hv => prints_inputValue_line hlb l.deeper (h v hv)

/-- What stands behind the directives of a type stands apart. -/
theorem startsApart_afterDirectives (l : Layout) (body : Schema.TypeBody) :
    StartsApart (body.afterDirectives l) := by
  cases body with
  | scalar => exact .cons (by decide) _
  | object interfaces fields | interface interfaces fields =>
    exact startsApart_blockOrEnd l _ fields
  | union members =>
    cases members with
    | nil => exact .cons (by decide) _
    | cons first rest => exact .cons (by decide) _
  | enum values => exact startsApart_blockOrEnd l _ values
  | input fields => exact startsApart_blockOrEnd l _ fields

/-- The word for the kind of a type is a name. -/
theorem isName_keyword (body : Schema.TypeBody) : isName body.keyword.toList = true := by
  have hall : ∀ word ∈ ["scalar", "type", "interface", "union", "enum", "input"],
      isName word.toList = true := by decide
  refine hall body.keyword ?_
  cases body <;> simp [Schema.TypeBody.keyword]

/-- A type from the word for its kind on is printed as its tokens. -/
theorem prints_typeBody (hlb : IsLineBreak lineBreak) (l : Layout) {body : Schema.TypeBody}
    {name : String} {directives : List Schema.Directive} (hname : isName name.toList = true)
    (hdirectives : ∀ d ∈ directives, d.IsLegible IsReadBack 0) (h : body.IsLegible IsReadBack) :
    Prints lineBreak Anything 0 (body.text l name directives)
      (.name body.keyword :: (body.mapTexts (l.deeper.readBack lineBreak)).tokens name
        (directives.map (Schema.Directive.mapTexts (l.readBack lineBreak)))) 0 := by
  have hopened : 0 ≤ maxOpen := Nat.zero_le _
  have hbefore : (body.mapTexts (l.deeper.readBack lineBreak)).beforeTokens = body.beforeTokens := by
    cases body <;> rfl
  have hafter := (prints_directives hlb l hdirectives).append_apart hlb
    (prints_afterDirectives hlb l h) (startsApart_afterDirectives l body)
  have hend : StartsApart (Schema.directivesText l directives ++ body.afterDirectives l) :=
    .append_left (endsToken_directives l directives) (startsApart_afterDirectives l body)
  have hbody := (prints_beforeDirectives hlb h).append_apart hlb hafter hend
  have hnamed := (prints_name hname hopened).append_apart hlb hbody
    (.append_left (endsToken_beforeDirectives body) hend)
  rw [Schema.TypeBody.text_eq, Schema.TypeBody.tokens, hbefore]
  exact (prints_name (isName_keyword body) hopened).append_apart hlb
    ((prints_gap hlb [' '] (by decide) 0).append_of_anything hnamed) (.cons (by decide) _)

/-! ### Other definitions -/

/-- A root operation type on a line of its own is printed as its tokens. -/
theorem prints_root (hlb : IsLineBreak lineBreak) (l : Layout) {operation : String}
    (hoperation : isName operation.toList = true) {root : Option String}
    (h : ∀ s ∈ root, isName s.toList = true) :
    Prints lineBreak Anything 1 (Schema.rootText l operation root)
      (Schema.rootTokens operation root) 1 := by
  have hopened : 1 ≤ maxOpen := by decide
  cases root with
  | none => exact .nil
  | some s =>
    have hmark := prints_mark hlb (c := ':') (by decide) [' '] (by decide) hopened
    have hline := (prints_name (h s rfl) hopened).append_apart hlb
      (prints_gap hlb ['\n'] (by decide) 1) (.cons (by decide) [])
    have hnamed := (prints_name hoperation hopened).append_apart hlb
      (hmark.append_of_anything hline) (.cons (by decide) _)
    have htext : Schema.rootText l operation (some s) =
        l.margin ++ (operation.toList ++ ([':', ' '] ++ (s.toList ++ ['\n']))) := by
      simp [Schema.rootText]
    rw [htext]
    exact (prints_margin hlb l 1).append_of_anything hnamed

/-- The root operation types are printed as their tokens. -/
theorem prints_roots (hlb : IsLineBreak lineBreak) (l : Layout) {roots : Schema.Roots}
    (h : roots.IsLegible) : Prints lineBreak Anything 1 (roots.text l) roots.tokens 1 := by
  rw [Schema.Roots.text, List.append_assoc]
  exact (prints_root hlb l (by decide) h.query).append_of_anything
    ((prints_root hlb l (by decide) h.mutation).append_of_anything
      (prints_root hlb l (by decide) h.subscription))

/-- The name of a place where a directive may stand is a name. -/
theorem isName_location (place : Schema.Location) : isName place.name.toList = true := by
  cases place <;> decide

/-- The word that says that a directive may be repeated is printed as that word. -/
theorem prints_repeatable (hlb : IsLineBreak lineBreak) (repeatable : Bool) :
    Prints lineBreak EndsToken 0 (Schema.repeatableText repeatable)
      (if repeatable then [.name "repeatable"] else []) 0 := by
  cases repeatable with
  | false => exact .nil
  | true =>
    exact (prints_gap hlb [' '] (by decide) 0).append_of_anything
      (prints_name (by decide) (by decide))

/-- The word that says that a directive may be repeated does not merge with a token before it. -/
theorem endsToken_repeatable (repeatable : Bool) : EndsToken (Schema.repeatableText repeatable) := by
  cases repeatable with
  | false => exact .nil
  | true => exact (StartsApart.cons (by decide) _).endsToken

/-- The places where a directive may stand are printed as their tokens. -/
theorem prints_places (hlb : IsLineBreak lineBreak) (places : List Schema.Location) :
    Prints lineBreak Anything 0 (Schema.placesText places)
      (.name "on" :: Schema.separatedTokens '|' (places.map Schema.Location.name)) 0 := by
  have hopened : 0 ≤ maxOpen := Nat.zero_le _
  have hspace := prints_gap hlb [' '] (by decide) 0
  have hon : Prints lineBreak EndsToken 0 "on".toList [.name "on"] 0 :=
    prints_name (by decide) hopened
  have hnames : Prints lineBreak EndsToken 0 _
      (Schema.separatedTokens '|' (places.map Schema.Location.name)) 0 :=
    prints_separated hlb (by decide) rfl hopened
      (List.forall_mem_map.mpr fun place _ => isName_location place)
  have hline := hnames.append_apart hlb (prints_gap hlb ['\n'] (by decide) 0) (.cons (by decide) [])
  rw [List.append_nil] at hline
  exact hspace.append_of_anything
    (hon.append_apart hlb (hspace.append_of_anything hline) (.cons (by decide) _))

/-- The definition of a directive that names some place is printed as its tokens.

**Proof sketch.** The pieces are put together from the back: places, the word for a repeatable
directive, arguments, name and the word in front. Where two words meet, a space stands between them. -/
theorem prints_directiveDefinition (hlb : IsLineBreak lineBreak) (l : Layout)
    {d : Schema.DirectiveDefinition} (h : d.IsLegible IsReadBack) (hplaces : d.locations ≠ []) :
    Prints lineBreak Anything 0 (Schema.Definition.text l (.directive d))
      ((Schema.Definition.directive d).mapTexts (l.readBack lineBreak)
        (l.deeper.readBack lineBreak)).tokens 0 := by
  have hopened : 0 ≤ maxOpen := Nat.zero_le _
  have hword : Prints lineBreak EndsToken 0 "directive".toList [.name "directive"] 0 :=
    prints_name (by decide) hopened
  have hapart : StartsApart (Schema.placesText d.locations) := .cons (by decide) _
  have hend := (prints_repeatable hlb d.repeatable).append_apart hlb
    (prints_places hlb d.locations) hapart
  have harguments := (prints_argumentDefinitions hlb l h.arguments).append_of_anything hend
  have hname := (prints_name h.isName hopened).append_apart hlb harguments
    (.append_left (endsToken_argumentDefinitions l _)
      (.append_left (endsToken_repeatable d.repeatable) hapart))
  have hmark := (prints_mark hlb (c := '@') (by decide) [] (by decide) hopened).append_of_anything
    hname
  have hnamed := (prints_gap hlb [' '] (by decide) 0).append_of_anything hmark
  rw [Schema.Definition.text_directive l d hplaces]
  exact (prints_descriptionLines hlb l h.description hopened).append_of_anything
    (hword.append_apart hlb hnamed (.cons (by decide) _))

/-- The definition of the root operation types is printed as its tokens. -/
theorem prints_schemaDefinition (hlb : IsLineBreak lineBreak) (l : Layout)
    {directives : List Schema.Directive} {roots : Schema.Roots}
    (hdirectives : ∀ d ∈ directives, d.IsLegible IsReadBack 0) (hroots : roots.IsLegible) :
    Prints lineBreak Anything 0 (Schema.Definition.text l (.schema directives roots))
      ((Schema.Definition.schema directives roots).mapTexts (l.readBack lineBreak)
        (l.deeper.readBack lineBreak)).tokens 0 := by
  have hword : Prints lineBreak EndsToken 0 "schema".toList [.name "schema"] 0 :=
    prints_name (by decide) (Nat.zero_le _)
  have hapart : StartsApart (l.block roots.text) := .cons (by decide) _
  have hblock := prints_block hlb l roots.text (by decide) (prints_roots hlb l.deeper hroots)
  rw [Schema.Definition.text_schema, List.append_assoc]
  exact hword.append_apart hlb ((prints_directives hlb l hdirectives).append_apart hlb hblock hapart)
    (.append_left (endsToken_directives l directives) hapart)

/-- The extension of a type is printed as its tokens. -/
theorem prints_extension (hlb : IsLineBreak lineBreak) (l : Layout) {e : Schema.TypeExtension}
    (h : e.IsLegible IsReadBack) :
    Prints lineBreak Anything 0 (Schema.Definition.text l (.extension e))
      ((Schema.Definition.extension e).mapTexts (l.readBack lineBreak)
        (l.deeper.readBack lineBreak)).tokens 0 := by
  have hword : Prints lineBreak EndsToken 0 "extend".toList [.name "extend"] 0 :=
    prints_name (by decide) (Nat.zero_le _)
  have hbody := (prints_gap hlb [' '] (by decide) 0).append_of_anything
    (prints_typeBody hlb l h.isName h.directives h.body)
  rw [Schema.Definition.text_extension, Schema.Definition.mapTexts, Schema.Definition.tokens,
    Schema.TypeBody.keyword_mapTexts]
  exact hword.append_apart hlb hbody (.cons (by decide) _)

/-- A definition that can be written down is printed as the tokens of what it is read back as. -/
theorem prints_definition (hlb : IsLineBreak lineBreak) (l : Layout) {d : Schema.Definition}
    (h : d.IsLegible IsReadBack) (hplaces : d.NamesPlaces) :
    Prints lineBreak Anything 0 (d.text l)
      (d.mapTexts (l.readBack lineBreak) (l.deeper.readBack lineBreak)).tokens 0 := by
  cases d with
  | schema directives roots => exact prints_schemaDefinition hlb l h.1 h.2
  | type t =>
    have hbody := prints_typeBody hlb l h.isName h.directives h.body
    rw [Schema.Definition.text_type, Schema.Definition.mapTexts, Schema.Definition.tokens,
      Schema.TypeBody.keyword_mapTexts]
    exact (prints_descriptionLines hlb l h.description (Nat.zero_le _)).append_of_anything hbody
  | extension e => exact prints_extension hlb l h
  | directive d => exact prints_directiveDefinition hlb l h hplaces

/-- A document of definitions that can be written down is printed as the tokens of what it is read
back as. -/
theorem prints_document (hlb : IsLineBreak lineBreak) (indent : Nat) {d : Schema.Document}
    (h : ∀ x ∈ d.definitions, x.IsLegible IsReadBack)
    (hplaces : ∀ x ∈ d.definitions, x.NamesPlaces) :
    Prints lineBreak Anything 0 (d.text indent)
      ((d.mapTexts ((Layout.outermost indent).readBack lineBreak)
        ((Layout.outermost indent).deeper.readBack lineBreak)).definitions.flatMap
          Schema.Definition.tokens) 0 := by
  rw [Schema.Document.text, Schema.Document.mapTexts, List.flatMap_map]
  exact prints_joinWith hlb (by decide) (fun _ => trivial) fun x hx =>
    prints_definition hlb (.outermost indent) (h x hx) (hplaces x hx)

end Sdl

end SchemaQueries
