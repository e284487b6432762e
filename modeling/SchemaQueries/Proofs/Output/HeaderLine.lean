import Mathlib.Data.List.Basic
import SchemaQueries.Output.Header
import SchemaQueries.Text.Parts

/-!
# The header line is read back

The header of an output file is written with the line break of the configuration, which is any text,
and read up to the first line feed. The checksum is read back if the line break has a line feed and
nothing but white space in front of it: then the header is the whole first line.

## Main definitions

* `Output.EndsHeader` — a line break that ends the header line.
* `Output.toldHash?` — the checksum that the bytes of a file tell.

## Main results

* `Output.hashInLine?_headerText` — the checksum of a header is read back.
* `Output.toldHash?_fileText` — a file tells the checksum of its content.
-/

set_option autoImplicit false
set_option relaxedAutoImplicit false

namespace SchemaQueries

/-! ### First lines -/

namespace Bytes

/-- A text is written character by character. -/
theorem ofText_ofList (cs : List Char) :
    ofText (String.ofList cs) = cs.flatMap String.utf8EncodeChar := by
  simp [ofText, List.utf8Encode]

/-- No other character has a byte that stands for a line feed: the bytes of longer characters are
not below 128.

**Proof sketch.** A character below 128 is its only byte. In a longer encoding the first byte and those
that follow have their highest bit set, so none of them is below 128. -/
theorem notMem_utf8EncodeChar {c : Char} (hc : c ≠ '\n') : 10 ∉ String.utf8EncodeChar c := by
  have hne : c.val.toNat ≠ 10 := fun h => hc (Char.toNat_inj.mp h)
  intro hmem
  have hbyte : ∃ b ∈ String.utf8EncodeChar c, b.toNat = 10 := ⟨10, hmem, rfl⟩
  unfold String.utf8EncodeChar at hbyte
  simp only at hbyte
  split at hbyte
  · simp only [List.mem_singleton, exists_eq_left, UInt8.toNat_ofNat'] at hbyte
    omega
  split at hbyte
  · simp only [List.mem_cons, List.not_mem_nil, or_false, exists_eq_or_imp, exists_eq_left,
      UInt8.toNat_ofNat'] at hbyte
    omega
  split at hbyte
  · simp only [List.mem_cons, List.not_mem_nil, or_false, exists_eq_or_imp, exists_eq_left,
      UInt8.toNat_ofNat'] at hbyte
    omega
  · simp only [List.mem_cons, List.not_mem_nil, or_false, exists_eq_or_imp, exists_eq_left,
      UInt8.toNat_ofNat'] at hbyte
    omega

/-- What stands in front of every line feed belongs to the first line. -/
theorem firstLine_append {front : Bytes} (h : 10 ∉ front) (back : Bytes) :
    firstLine (front ++ back) = front ++ firstLine back := by
  induction front with
  | nil => rfl
  | cons b front ih =>
    have hb : b ≠ 10 := fun heq => h (heq ▸ List.mem_cons_self)
    rw [List.cons_append, firstLine, if_neg hb, ih fun hmem => h (List.mem_cons_of_mem b hmem),
      List.cons_append]

end Bytes

namespace Text

/-- The characters up to the first line feed, which belongs to them. -/
def firstLine : List Char → List Char
  | [] => []
  | c :: rest => if c = '\n' then [c] else c :: firstLine rest

/-- What stands in front of every line feed belongs to the first line. -/
theorem firstLine_append {front : List Char} (h : '\n' ∉ front) (back : List Char) :
    firstLine (front ++ back) = front ++ firstLine back := by
  induction front with
  | nil => rfl
  | cons c front ih =>
    have hc : c ≠ '\n' := fun heq => h (heq ▸ List.mem_cons_self)
    rw [List.cons_append, firstLine, if_neg hc, ih fun hmem => h (List.mem_cons_of_mem c hmem),
      List.cons_append]

/-- The first line of a text in bytes is that of its characters. -/
theorem firstLine_ofText (cs : List Char) :
    Bytes.firstLine (Bytes.ofText (String.ofList cs)) = Bytes.ofText (String.ofList (firstLine cs)) := by
  rw [Bytes.ofText_ofList, Bytes.ofText_ofList]
  induction cs with
  | nil => rfl
  | cons c cs ih =>
    rw [List.flatMap_cons]
    by_cases hc : c = '\n'
    · subst hc
      rfl
    · rw [Bytes.firstLine_append (Bytes.notMem_utf8EncodeChar hc), ih, firstLine, if_neg hc,
        List.flatMap_cons]

end Text

namespace Output

/-! ### Header lines -/

/-- The line break has a line feed, and nothing but white space in front of it. -/
def EndsHeader (lineBreak : List Char) : Prop :=
  ∃ blanks rest, lineBreak = blanks ++ '\n' :: rest ∧ ∀ c ∈ blanks, Text.isSpace c = true

/-- What is left of the first line when it reaches the line break is white space. -/
theorem EndsHeader.isSpace_of_mem_firstLine {lineBreak : List Char} (h : EndsHeader lineBreak)
    (text : List Char) : ∀ c ∈ Text.firstLine (lineBreak ++ text), Text.isSpace c = true := by
  obtain ⟨blanks, rest, rfl, hblanks⟩ := h
  induction blanks with
  | nil =>
    intro c hc
    obtain rfl : c = '\n' := List.mem_singleton.mp hc
    decide
  | cons b blanks ih =>
    obtain ⟨hb, hblanks⟩ := List.forall_mem_cons.mp hblanks
    rw [List.cons_append, List.cons_append, Text.firstLine]
    split
    · exact List.forall_mem_singleton.mpr hb
    · exact List.forall_mem_cons.mpr ⟨hb, ih hblanks⟩

/-- White space at the end of a text that ends otherwise does not count. -/
theorem trimEnd_append {cs blanks : List Char} (hcs : ∀ c ∈ cs.getLast?, Text.isSpace c = false)
    (hblanks : ∀ c ∈ blanks, Text.isSpace c = true) : Text.trimEnd (cs ++ blanks) = cs := by
  have hreverse : ∀ c ∈ blanks.reverse, Text.isSpace c = true := fun c hc =>
    hblanks c (List.mem_reverse.mp hc)
  rw [← List.head?_reverse] at hcs
  rw [Text.trimEnd, List.reverse_append, Text.dropWhile_append_of_head? hreverse hcs,
    List.reverse_reverse]

/-- The code points of the digits. -/
theorem toNat_of_isDigit {c : Char} (h : c.isDigit = true) : 48 ≤ c.toNat ∧ c.toNat ≤ 57 := by
  simpa [Char.isDigit, UInt32.le_iff_toNat_le] using h

/-- A digit is no white space. -/
theorem isSpace_of_isDigit {c : Char} (h : c.isDigit = true) : Text.isSpace c = false := by
  have hrange := toNat_of_isDigit h
  simp only [Text.isSpace, Bool.or_eq_false_iff, Bool.and_eq_false_iff, decide_eq_false_iff_not,
    beq_eq_false_iff_ne]
  omega

/-- Behind a mark that a text starts with is the rest of the text. -/
theorem afterMark?_append (mark cs : List Char) : afterMark? mark (mark ++ cs) = some cs := by
  induction mark with
  | nil => rfl
  | cons m mark ih => rw [List.cons_append, afterMark?, if_pos rfl, ih]

/-- Digits of a number of 32 bits are read as that number. -/
theorem word?_of_isDigit {cs : List Char} (hne : cs ≠ []) (hdigit : ∀ c ∈ cs, c.isDigit = true)
    (hlt : Text.ofDigits cs < Nat.pow 2 32) :
    word? cs = some (BitVec.ofNat 32 (Text.ofDigits cs)) := by
  obtain ⟨d, ds, rfl⟩ := List.exists_cons_of_ne_nil hne
  have hplus : d ≠ '+' := by
    rintro rfl
    exact absurd (hdigit '+' List.mem_cons_self) (by decide)
  have hall : (d :: ds).all Char.isDigit = true := List.all_eq_true.mpr hdigit
  unfold word?
  split
  · next heq => exact absurd (List.cons.inj heq).1 hplus
  · simp only [List.isEmpty_cons, hall, Bool.not_true, Bool.or_self, Bool.false_or, decide_eq_true_eq,
      if_neg (Nat.not_le_of_lt hlt)]

/-- The decimal digits of a checksum are digits. -/
theorem isDigit_of_mem_toDigits {h : BitVec 32} {c : Char} (hc : c ∈ Nat.toDigits 10 h.toNat) :
    c.isDigit = true :=
  Nat.isDigit_of_mem_toDigits (by decide) (by decide) hc

/-- A checksum is read back from its decimal digits. -/
theorem word?_toDigits (h : BitVec 32) : word? (Nat.toDigits 10 h.toNat) = some h := by
  have hlt : Text.ofDigits (Nat.toDigits 10 h.toNat) < Nat.pow 2 32 := by
    rw [Text.ofDigits_toDigits]
    exact h.isLt
  rw [word?_of_isDigit (List.ne_nil_of_length_pos Nat.length_toDigits_pos)
    (fun c hc => isDigit_of_mem_toDigits hc) hlt,
    Text.ofDigits_toDigits, BitVec.ofNat_toNat, BitVec.setWidth_eq]

/-- A checksum is read back from a header, whatever white space follows it. -/
theorem hashInLine?_append {blanks : List Char} (hblanks : ∀ c ∈ blanks, Text.isSpace c = true)
    (h : BitVec 32) :
    hashInLine? (hashMark ++ (Nat.toDigits 10 h.toNat ++ blanks)) = some h := by
  have hend : ∀ c ∈ (Nat.toDigits 10 h.toNat).getLast?, Text.isSpace c = false := fun c hc =>
    isSpace_of_isDigit (isDigit_of_mem_toDigits (List.mem_of_getLast? hc))
  rw [hashInLine?, afterMark?_append, Option.bind_some, trimEnd_append hend hblanks, word?_toDigits]

/-- There is no line feed in front of the line break of a header. -/
theorem notMem_headerText (h : BitVec 32) : '\n' ∉ hashMark ++ Nat.toDigits 10 h.toNat := by
  rw [List.mem_append, not_or]
  exact ⟨by decide, fun hmem => absurd (isDigit_of_mem_toDigits hmem) (by decide)⟩

/-- The checksum of a header is read back from the first line. -/
theorem hashInLine?_headerText {lineBreak : List Char} (hlb : EndsHeader lineBreak) (h : BitVec 32)
    (text : List Char) :
    hashInLine? (Text.firstLine (headerText lineBreak h ++ text)) = some h := by
  rw [headerText, List.append_assoc, Text.firstLine_append (notMem_headerText h), List.append_assoc,
    hashInLine?_append (hlb.isSpace_of_mem_firstLine text)]

/-- The checksum that the bytes of a file tell by the first line, if that is a text. -/
def toldHash? (content : Bytes) : Option (Option (BitVec 32)) :=
  (Bytes.toText? (Bytes.firstLine content)).map fun line => hashInLine? line.toList

/-- A file is told by the first line of its text. -/
theorem toldHash?_ofText (cs : List Char) :
    toldHash? (Bytes.ofText (String.ofList cs)) = some (hashInLine? (Text.firstLine cs)) := by
  rw [toldHash?, Text.firstLine_ofText, Bytes.toText?_ofText, Option.map_some, String.toList_ofList]

/-- A file whose header ends with its first line tells the checksum of its content. -/
theorem toldHash?_fileText {lineBreak : List Char} (hlb : EndsHeader lineBreak)
    (content : List Char) :
    toldHash? (Bytes.ofText (String.ofList (fileText lineBreak content))) =
      some (some (hash (body lineBreak content))) := by
  rw [toldHash?_ofText, fileText, hashInLine?_headerText hlb]

end Output

end SchemaQueries
