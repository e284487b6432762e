import SchemaQueries.Network.DomainClasses
import SchemaQueries.Network.DomainMapping
import SchemaQueries.Network.Punycode
import SchemaQueries.Text.Composition
import SchemaQueries.Text.Parts

/-!
# Domain names

A domain name may be written in any script, in capital or small letters, and with signs that stand
for others. Here it is brought into the form in which it is looked up: small letters, composed, and
in ASCII characters alone, where a label that has others is replaced by its Punycode.

## Main definitions

* `Network.Domain.mapping?` — what a character of a name stands for.
* `Network.Domain.Direction` — how a character is written, as far as that matters in a name.
* `Network.Domain.label?` — a label of a name in its own script.
* `Network.Domain.ascii?` — the form in which a name is looked up, if it is one.

## Implementation notes

Labels may be empty, may have hyphens anywhere and may be too long to be looked up.
-/

set_option autoImplicit false
set_option relaxedAutoImplicit false

namespace SchemaQueries.Network.Domain

open SchemaQueries.Text (inRuns)

/-! ### Characters -/

/-- Whether the character is ASCII. -/
def isAscii (c : Char) : Bool :=
  c.toNat < 0x80

/-- The characters that a code point from `0x80` on stands for instead of itself. -/
def replacement? (n : Nat) : Option (List Nat) :=
  match mappedRuns.find? (·.1.contains n) with
  | some (_, distance) => some [(n + distance).toNat]
  | none =>
    match mappedBlocks.find? fun block => block.1 ≤ n && n < block.1 + block.2.length with
    | some (first, targets) => some ((targets.drop (n - first)).take 1)
    | none => mappedSequences.lookup n

/-- What a character of a name stands for: nothing, itself or other characters. There is none if it
cannot stand in a name. -/
def mapping? (c : Char) : Option (List Char) :=
  if isAscii c then some [c.toLower]
  else if inRuns ignoredRuns c then some []
  else
    match replacement? c.toNat with
    | some codes => some (codes.map Char.ofNat)
    | none => if inRuns validRuns c then some [c] else none

/-- Whether the character stands for itself. -/
def isValid (c : Char) : Bool :=
  mapping? c = some [c]

/-- Whether the character is one of those that no label can hold, since they divide an address. -/
def isForbidden (c : Char) : Bool :=
  c.toNat ≤ 0x20 || c.toNat == 0x7F
    || ['%', '#', '/', ':', '<', '>', '?', '@', '[', '\\', ']', '^', '|'].contains c

/-- Whether the character is a mark that takes no room of its own. -/
def isNonspacing (c : Char) : Bool :=
  inRuns nonspacingRuns c

/-- Whether the character is a mark. -/
def isMark (c : Char) : Bool :=
  isNonspacing c || inRuns spacingMarkRuns c

/-! ### Joining

Two characters without a form of their own tell letters to join or not to join. They may stand
only where that makes a difference. -/

/-- The character that keeps its neighbours from joining. -/
def nonJoiner : Char := '\u200c'

/-- The character that makes its neighbours join. -/
def joiner : Char := '\u200d'

/-- The combining class of the signs that drop the vowel of a consonant. -/
def viramaClass : Nat := 9

/-- Whether letters on both sides of the character join as if it was not there. -/
def isTransparent (c : Char) : Bool :=
  isNonspacing c || c.toNat == 0x1E94B

/-- Whether a text, which is given in reverse, ends with a letter that joins what follows. -/
def joinsNext (before : List Char) : Bool :=
  ((before.dropWhile isTransparent).head?.map fun c =>
    inRuns dualJoiningRuns c || inRuns leftJoiningRuns c).getD false

/-- Whether a text starts with a letter that joins what stands before it. -/
def joinsPrevious (rest : List Char) : Bool :=
  ((rest.dropWhile isTransparent).head?.map fun c =>
    inRuns dualJoiningRuns c || inRuns rightJoiningRuns c).getD false

/-- Whether joiners stand only where they may: behind a sign that drops a vowel, or, if they keep
letters from joining, between letters that would join. The text before is given in reverse. -/
def joinersFit (before : List Char) : List Char → Bool
  | [] => true
  | c :: rest =>
    let afterVirama := (before.head?.map Text.combiningClass).getD 0 = viramaClass
    let fits :=
      if c = joiner then afterVirama
      else if c = nonJoiner then afterVirama || (joinsNext before && joinsPrevious rest)
      else true
    fits && joinersFit (c :: before) rest

/-! ### Directions -/

/-- How a character is written, as far as that matters in a name. -/
inductive Direction where
  | left | right
  /-- A part of a number in Arabic digits. -/
  | arabicNumber
  /-- A part of a number in other digits, which has the same direction in every text. -/
  | number
  /-- A sign without a direction. -/
  | neutral
  /-- A mark, which goes with the character before it. -/
  | mark
  deriving DecidableEq, Repr

/-- How a character is written. -/
def direction (c : Char) : Direction :=
  if isAscii c then
    if c.isAlpha then .left else if c.isDigit then .number else .neutral
  else if inRuns rightRuns c then .right
  else if inRuns arabicNumberRuns c then .arabicNumber
  else if inRuns numberRuns c then .number
  else if inRuns neutralRuns c then .neutral
  else if inRuns leftMarkRuns c then .left
  else if isNonspacing c then .mark
  else .left

/-- Whether the label has something that is written from right to left. -/
def hasRight (label : List Char) : Bool :=
  label.any fun c => direction c = .right || direction c = .arabicNumber

/-- Whether the label keeps its form beside labels that are written from right to left: it starts
with a letter, holds what goes with the direction of that letter, and ends, marks aside, with a
letter of that direction or with a digit. -/
def keepsDirection (label : List Char) : Bool :=
  let directions := label.map direction
  let ending := (directions.reverse.dropWhile (· = .mark)).head?
  match directions.head? with
  | none => true
  | some .left =>
    directions.all (fun d => d ≠ .right && d ≠ .arabicNumber)
      && (ending = some .left || ending = some .number)
  | some .right =>
    directions.all (· ≠ .left)
      && (ending = some .right || ending = some .number || ending = some .arabicNumber)
      && !(directions.contains .number && directions.contains .arabicNumber)
  | some _ => false

/-! ### Labels -/

/-- What labels in Punycode start with. -/
def punycodeMark : List Char := ['x', 'n', '-', '-']

/-- How many characters a label may have that is written in Punycode. -/
def maxPlainLength : Nat := 1000

/-- How many characters the Punycode of a label may have. -/
def maxPunycodeLength : Nat := 2000

/-- Whether the label is well formed: no forbidden character, no mark at its start, and joiners only
where they may stand. -/
def isSound (label : List Char) : Bool :=
  !label.any isForbidden && !(label.head?.map isMark).getD false && joinersFit [] label

/-- The label that stands for a Punycode. It is one that could not be written without. -/
def ofPunycode? (code : List Char) : Option (List Char) := do
  if code.isEmpty || code.getLast? = some '-' || maxPunycodeLength < code.length then none
  let label ← Punycode.decode? code
  if label.all isValid && Text.composed label = label && !punycodeMark.isPrefixOf label then
    return label
  else none

/-- A mapped label in its own script. -/
def label? (cs : List Char) : Option (List Char) := do
  let label ←
    if punycodeMark.isPrefixOf cs then
      if cs.all isAscii then ofPunycode? (cs.drop punycodeMark.length) else none
    else some cs
  if isSound label then return label else none

/-- The form in which a label is looked up. -/
def asciiLabel? (label : List Char) : Option (List Char) :=
  if label.all isAscii then some label
  else if maxPlainLength < label.length then none
  else some (punycodeMark ++ Punycode.encode label)

/-! ### Names -/

/-- The form in which a name is looked up. -/
def ascii? (name : List Char) : Option (List Char) := do
  let mapped ← name.mapM mapping?
  let labels ← (Text.partsBetween (· == '.') (Text.composed mapped.flatten)).mapM label?
  if labels.any hasRight && !labels.all keepsDirection then none
  return ['.'].intercalate (← labels.mapM asciiLabel?)

end SchemaQueries.Network.Domain
