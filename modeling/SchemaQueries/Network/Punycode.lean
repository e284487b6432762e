/-!
# Punycode

The form of a label of a domain name in ASCII characters alone: first the ASCII characters of the
label, then where the others belong and which they are. The others are taken in the order of their
code points; each is written as a number, namely how many pairs of a code point and a place lie
between it and the one before it, in digits whose bounds adapt to the numbers so far.

## Main definitions

* `Network.Punycode.encode` — the form of a label.
* `Network.Punycode.decode?` — the label that has a form.

## Main results

* `Network.Punycode.decodeNumber_length` — reading a number uses up characters.
-/

set_option autoImplicit false
set_option relaxedAutoImplicit false

namespace SchemaQueries.Network.Punycode

/-! ### Digits -/

/-- The first code point that is not ASCII. -/
def firstOther : Nat := 0x80

/-- The bias of the digits at the start. -/
def initialBias : Nat := 72

/-- The digit for a value below 36: small letters, then decimal digits. -/
def digitOf (value : Nat) : Char :=
  if value < 26 then Char.ofNat ('a'.toNat + value) else Char.ofNat ('0'.toNat + (value - 26))

/-- The value of a digit. -/
def digitValue? (c : Char) : Option Nat :=
  if 'a' ≤ c && c ≤ 'z' then some (c.toNat - 'a'.toNat)
  else if c.isDigit then some (c.toNat - '0'.toNat + 26)
  else none

/-- The bound below which a digit is the last one of a number. The place counts 36 for each
digit. -/
def bound (bias place : Nat) : Nat :=
  min 26 (max 1 (place - bias))

/-- The bound is never zero. -/
theorem one_le_bound (bias place : Nat) : 1 ≤ bound bias place := by
  unfold bound; omega

/-- How often a number is divided by 35 before it is at most 455, times 36, and what it comes to. -/
def shrink (number steps : Nat) : Nat × Nat :=
  if 455 < number then shrink (number / 35) (steps + 36) else (number, steps)
termination_by number
decreasing_by exact Nat.div_lt_self (by omega) (by omega)

/-- The bias after a number, when so many characters are in place. -/
def adapt (number count : Nat) (isFirst : Bool) : Nat :=
  let scaled := if isFirst then number / 700 else number / 2
  let (rest, steps) := shrink (scaled + scaled / count) 0
  steps + 36 * rest / (rest + 38)

/-! ### Writing -/

/-- A number in digits, the smallest place first. -/
def encodeNumber (bias place number : Nat) : List Char :=
  if _h : number < bound bias place then [digitOf number]
  else
    let above := number - bound bias place
    let width := 36 - bound bias place
    digitOf (bound bias place + above % width) :: encodeNumber bias (place + 36) (above / width)
termination_by number
decreasing_by
  have := one_le_bound bias place
  exact Nat.lt_of_le_of_lt (Nat.div_le_self _ _) (by omega)

/-- How far the form of a label is written. -/
structure Progress where
  /-- What is written. -/
  written : List Char
  /-- The pairs of a code point and a place since the last character. -/
  number : Nat
  bias : Nat
  /-- The characters in place. -/
  count : Nat

/-- Passes a character of the label while the characters with a code point are written. -/
def Progress.pass (basic code : Nat) (p : Progress) (c : Char) : Progress :=
  if c.toNat < code then { p with number := p.number + 1 }
  else if c.toNat = code then
    { written := p.written ++ encodeNumber p.bias 36 p.number
      number := 0
      bias := adapt p.number (p.count + 1) (p.count = basic)
      count := p.count + 1 }
  else p

/-- Writes the characters with these code points, the smallest first, from a code point on. -/
def writeCodes (label : List Char) (basic : Nat) : List Nat → Nat → Progress → Progress
  | [], _, p => p
  | code :: codes, start, p =>
    let p := { p with number := p.number + (code - start) * (p.count + 1) }
    let p := label.foldl (Progress.pass basic code) p
    writeCodes label basic codes (code + 1) { p with number := p.number + 1 }

/-- The ASCII characters of a label. -/
def basicPart (label : List Char) : List Char :=
  label.filter fun c => c.toNat < firstOther

/-- The code points of a label that are not ASCII, the smallest first and each once. -/
def otherCodes (label : List Char) : List Nat :=
  let codes := (label.map Char.toNat).filter (firstOther ≤ ·)
  (codes.mergeSort (· ≤ ·)).eraseReps

/-- The form of a label. -/
def encode (label : List Char) : List Char :=
  let basic := basicPart label
  let start : Progress := ⟨[], 0, initialBias, basic.length⟩
  basic ++ (if basic.isEmpty then [] else ['-'])
    ++ (writeCodes label basic.length (otherCodes label) firstOther start).written

/-! ### Reading -/

/-- Reads a number onto another one: the digits from a place on, each with its weight. -/
def decodeNumber (bias : Nat) :
    (place weight number : Nat) → List Char → Option (Nat × List Char)
  | _, _, _, [] => none
  | place, weight, number, c :: rest =>
    match digitValue? c with
    | none => none
    | some value =>
      let number := number + value * weight
      if value < bound bias place then some (number, rest)
      else decodeNumber bias (place + 36) (weight * (36 - bound bias place)) number rest

/-- Reading a number uses up characters. -/
theorem decodeNumber_length {bias place weight number : Nat} {cs : List Char}
    {result : Nat × List Char} (h : decodeNumber bias place weight number cs = some result) :
    result.2.length < cs.length := by
  induction cs generalizing place weight number with
  | nil => simp [decodeNumber] at h
  | cons c rest ih =>
    rw [decodeNumber] at h
    split at h
    · simp at h
    · split at h
      · cases h; simp
      · have := ih h
        simp only [List.length_cons]; omega

/-- Puts the characters that the numbers stand for between those of a label. -/
def insertAll (bias code position : Nat) (label cs : List Char) : Option (List Char) :=
  if cs.isEmpty then some label
  else
    match _h : decodeNumber bias 36 1 position cs with
    | none => none
    | some (number, rest) =>
      let count := label.length + 1
      let code := code + number / count
      if code.isValidChar then
        insertAll (adapt (number - position) count (position = 0)) code (number % count + 1)
          (label.insertIdx (number % count) (Char.ofNat code)) rest
      else none
termination_by cs.length
decreasing_by exact decodeNumber_length (by assumption)

/-- The label that has a form: what stands in front of the last hyphen is ASCII and stands for
itself. -/
def decode? (cs : List Char) : Option (List Char) :=
  let numbers := (cs.reverse.takeWhile (· ≠ '-')).reverse
  let basic := (cs.take (cs.length - numbers.length)).dropLast
  if cs.head? = some '-' && basic.isEmpty then none
  else insertAll initialBias firstOther 0 basic numbers

end SchemaQueries.Network.Punycode
