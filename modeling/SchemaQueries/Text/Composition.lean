import SchemaQueries.Text.CompositionTable

/-!
# Composed texts

A letter with marks can be written in several ways: as one character, or as a letter and marks
in some order. The composed form of a text (`NFC`) has the marks in a fixed order, and one character
where there is one.

## Main definitions

* `Text.combiningClass` — where a mark stands among the marks of a letter.
* `Text.decomposed` — the text with letters and marks apart, the marks in their order.
* `Text.composed` — the composed form of a text.

## Implementation notes

The tables hold the characters that composition can produce, and those alone are taken apart. The
other characters with a canonical decomposition, which no composed text holds, stay as they are: the
names that are brought into composed form have had them replaced before.
-/

set_option autoImplicit false
set_option relaxedAutoImplicit false

namespace SchemaQueries.Text

/-- The combining class of a character: zero unless it is a mark that can change places. -/
def combiningClass (c : Char) : Nat :=
  match combiningRuns.find? (·.1.contains c.toNat) with
  | some (_, combining) => combining
  | none => 0

/-! ### Taking apart -/

/-- The two characters that a syllable of Hangul is composed of: its last consonant and what stands
before it, or else its vowel and its first consonant. -/
def hangulParts? (n : Nat) : Option (Nat × Nat) :=
  let i := n - 0xAC00
  if n < 0xAC00 || 0xD7A4 ≤ n then none
  else if i % 28 = 0 then some (0x1100 + i / 588, 0x1161 + i % 588 / 28)
  else some (n - i % 28, 0x11A7 + i % 28)

/-- The two characters that a character is composed of. -/
def parts? (n : Nat) : Option (Nat × Nat) :=
  match hangulParts? n with
  | some parts => some parts
  | none => composites.lookup n

/-- The characters that a character is composed of in at most so many steps. -/
def decomposedWithin : Nat → Nat → List Char
  | 0, n => [Char.ofNat n]
  | steps + 1, n =>
    match parts? n with
    | some (first, second) => decomposedWithin steps first ++ [Char.ofNat second]
    | none => [Char.ofNat n]

/-- In how many steps every character is taken apart: at most three marks stand on a letter. -/
def maxSteps : Nat := 4

/-- A character in front of a text whose marks are in their order. A mark goes behind the marks
whose class is smaller. -/
def insertMark (c : Char) : List Char → List Char
  | [] => [c]
  | d :: rest =>
    if combiningClass d ≠ 0 && combiningClass d < combiningClass c then d :: insertMark c rest
    else c :: d :: rest

/-- The text with letters and marks apart, the marks in their order. -/
def decomposed (cs : List Char) : List Char :=
  (cs.flatMap fun c => decomposedWithin maxSteps c.toNat).foldr insertMark []

/-! ### Composing -/

/-- The syllable of Hangul that is composed of two characters. -/
def hangulSyllable? (first second : Nat) : Option Nat :=
  if 0x1100 ≤ first && first < 0x1113 && 0x1161 ≤ second && second < 0x1176 then
    some (0xAC00 + (first - 0x1100) * 588 + (second - 0x1161) * 28)
  else if 0xAC00 ≤ first && first < 0xD7A4 && (first - 0xAC00) % 28 = 0 && 0x11A8 ≤ second
      && second < 0x11C3 then
    some (first + (second - 0x11A7))
  else none

/-- The character that is composed of two others. -/
def composite? (first second : Char) : Option Char :=
  match hangulSyllable? first.toNat second.toNat with
  | some n => some (Char.ofNat n)
  | none =>
    (composites.find? fun entry => entry.2 = (first.toNat, second.toNat)).map fun entry =>
      Char.ofNat entry.1

/-- Whether one of the marks, which are given in reverse, keeps a character from the letter. -/
def isBlocked (marks : List Char) (c : Char) : Bool :=
  match marks with
  | [] => false
  | d :: _ => combiningClass c ≤ combiningClass d

/-- Composes a letter with what follows it. The marks in between, which did not go into the letter,
are given in reverse. -/
def composeOn (letter : Char) (marks : List Char) : List Char → List Char
  | [] => letter :: marks.reverse
  | c :: rest =>
    match if isBlocked marks c then none else composite? letter c with
    | some whole => composeOn whole marks rest
    | none =>
      if combiningClass c = 0 then letter :: marks.reverse ++ composeOn c [] rest
      else composeOn letter (c :: marks) rest

/-- Composes a text whose letters and marks are apart. -/
def compose : List Char → List Char
  | [] => []
  | c :: rest => if combiningClass c = 0 then composeOn c [] rest else c :: compose rest

/-- The composed form of a text. -/
def composed (cs : List Char) : List Char :=
  compose (decomposed cs)

end SchemaQueries.Text
