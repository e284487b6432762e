import SchemaQueries.Text.CaseTable

/-!
# Lower-casing a text

Full lower-casing of a text: character by character, except for the capital sigma, whose form
depends on its neighbours.

## Main definitions

* `Text.isUpperFixed` — upper-casing leaves the character as it is.
* `Text.lower` — the lower-cased text.

## Main results

* `Text.isUpperFixed_of_ascii` — among the ASCII characters only the small letters change.
* `Text.lower_of_ascii` — an ASCII text is lower-cased letter by letter.
-/

set_option autoImplicit false
set_option relaxedAutoImplicit false

namespace SchemaQueries.Text

/-- Whether upper-casing leaves the character as it is: capitals, digits and all characters
without case, but not a letter such as `ß`, which upper-cases to two letters. -/
def isUpperFixed (c : Char) : Bool :=
  if c.toNat < 0x80 then !c.isLower else !inRuns upperChanged c

/-- The property `Cased`: the character is a letter with case or looks like one. -/
def isCased (c : Char) : Bool :=
  if c.toNat < 0x80 then c.isAlpha else inRuns casedRuns c

/-- The property `Case_Ignorable`: the character is passed over when the neighbours of a sigma
are looked for. -/
def isCaseIgnorable (c : Char) : Bool :=
  if c.toNat < 0x80 then [0x27, 0x2E, 0x3A, 0x5E, 0x60].contains c.toNat
  else inRuns caseIgnorableRuns c

/-- The lower-case mapping of a character by itself. Only U+0130 maps to two characters. -/
def lowerChar (c : Char) : List Char :=
  if c.toNat < 0x80 then [c.toLower]
  else if c.toNat = 0x130 then ['i', Char.ofNat 0x307]
  else match lowerRuns.find? (·.1.contains c.toNat) with
    | some (_, distance) => [Char.ofNat (c.toNat + distance).toNat]
    | none => [c]

/-- Whether the first character of the text that is not case-ignorable is cased. -/
def startsCased (cs : List Char) : Bool :=
  match cs.dropWhile isCaseIgnorable with
  | c :: _ => isCased c
  | [] => false

/-- Lower-cases a text that stands after `before`, which is given in reverse. A capital sigma is
final when a cased letter stands before it and none after it. -/
def lowerAfter (before : List Char) : List Char → List Char
  | [] => []
  | c :: rest =>
    (if c = 'Σ' then [if startsCased before && !startsCased rest then 'ς' else 'σ']
      else lowerChar c) ++ lowerAfter (c :: before) rest

/-- The lower-cased text. -/
def lower (cs : List Char) : List Char :=
  lowerAfter [] cs

/-! ### ASCII texts -/

/-- Among the ASCII characters exactly the small letters change under upper-casing. -/
theorem isUpperFixed_of_ascii {c : Char} (h : c.toNat < 0x80) : isUpperFixed c = !c.isLower := by
  simp [isUpperFixed, h]

/-- An ASCII text is lower-cased letter by letter, whatever stands before it. -/
theorem lowerAfter_of_ascii {cs : List Char} (h : ∀ c ∈ cs, c.toNat < 0x80) (before : List Char) :
    lowerAfter before cs = cs.map Char.toLower := by
  induction cs generalizing before with
  | nil => rfl
  | cons c rest ih =>
    have hc : c.toNat < 0x80 := h c (by simp)
    have hs : c ≠ 'Σ' := by rintro rfl; exact absurd hc (by decide)
    simp [lowerAfter, hs, lowerChar, hc, ih fun d hd => h d (by simp [hd])]

/-- An ASCII text is lower-cased letter by letter. -/
theorem lower_of_ascii {cs : List Char} (h : ∀ c ∈ cs, c.toNat < 0x80) :
    lower cs = cs.map Char.toLower :=
  lowerAfter_of_ascii h []

end SchemaQueries.Text
