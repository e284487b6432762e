import SchemaQueries.Proofs.Checksum
import SchemaQueries.Proofs.Output.Writing

/-!
# When a file counts as up to date

A file is left as it is exactly if its first line tells the checksum of the content. The checksum stands
in front of the text that it is of. So a small change to the text is always noticed; a text that has been
cut off is noticed only if part of the checksum is missing too.

## Main definitions

* `Output.bodyBytes` — the text behind the header in bytes.
* `Output.headerStart` — the bytes of a header without its line break.

## Main results

* `Output.overwritten_of_differWithin` — a change within four bytes is written.
* `Output.overwritten_or_unchanged_of_cut` — a file that has been cut off is written again exactly if the
  checksum is not whole.
-/

set_option autoImplicit false
set_option relaxedAutoImplicit false

namespace SchemaQueries

/-! ### Texts cut off -/

/-- In a text of ASCII characters no character can be cut in two. -/
theorem Bytes.take_ofText {cs : List Char} (h : ∀ c ∈ cs, c.toNat < 128) (n : Nat) :
    (Bytes.ofText (String.ofList cs)).take n = Bytes.ofText (String.ofList (cs.take n)) := by
  have hbytes {cs : List Char} (h : ∀ c ∈ cs, c.toNat < 128) :
      Bytes.ofText (String.ofList cs) = cs.map fun c => UInt8.ofNat c.toNat := by
    rw [Bytes.ofText_ofList, List.map_eq_flatMap]
    refine List.flatMap_congr fun c hc => ?_
    rw [String.utf8EncodeChar]
    exact if_pos (Nat.le_of_lt_succ (h c hc))
  rw [hbytes h, hbytes fun c hc => h c (List.mem_of_mem_take hc), List.map_take]

/-- The digits of a number, cut off behind the first of them, are those of a smaller number. -/
theorem Text.ofDigits_take_lt {n k : Nat} (hk : 0 < k) (hcut : k < (Nat.toDigits 10 n).length) :
    Text.ofDigits ((Nat.toDigits 10 n).take k) < n := by
  induction n using Nat.strongRecOn generalizing k with
  | ind n ih =>
    by_cases hn : n < 10
    · rw [Nat.toDigits_of_lt_base hn, List.length_singleton] at hcut
      exact absurd hcut (Nat.not_lt_of_le hk)
    · have hdigits := Nat.toDigits_of_base_le (b := 10) (by decide) (Nat.le_of_not_lt hn)
      have hless : n / 10 < n := Nat.div_lt_self (by omega) (by decide)
      rw [hdigits, List.length_append, List.length_singleton] at hcut
      rw [hdigits, List.take_append_of_le_length (Nat.le_of_lt_succ hcut)]
      rcases Nat.lt_or_eq_of_le (Nat.le_of_lt_succ hcut) with hlt | heq
      · exact Nat.lt_trans (ih _ hless hk hlt) hless
      · rw [heq, List.take_length, Text.ofDigits_toDigits]
        exact hless

namespace Output

variable {path lineBreak content : String} {w : World}

/-- A file that tells the checksum of the content is left as it is. -/
theorem run_of_told {bytes : Bytes} (hfile : w.files.lookup path = .ok (.file bytes))
    (htold : toldHash? bytes = some (some (contentHash lineBreak content))) :
    (writeFile path lineBreak content).run.run w = (.ok .unchanged, w) := by
  obtain ⟨place, hnames, hnode⟩ := FileSystem.names_of_lookup hfile
  rw [run_writeFile_of_told hnames hnode htold, if_pos rfl]

/-- A file that tells anything else is replaced. -/
theorem exists_run_of_told_ne {bytes : Bytes} {told : Option (BitVec 32)}
    (hfile : w.files.lookup path = .ok (.file bytes)) (htold : toldHash? bytes = some told)
    (hne : told ≠ some (contentHash lineBreak content)) :
    ∃ fs, (writeFile path lineBreak content).run.run w = (.ok .overwritten, { w with files := fs }) ∧
      fs.lookup path = .ok (.file (fileBytes lineBreak content)) := by
  obtain ⟨place, hnames, hnode⟩ := FileSystem.names_of_lookup hfile
  refine ⟨w.files.set place (.file (fileBytes lineBreak content)), ?_, ?_⟩
  · rw [run_writeFile_of_told hnames hnode htold, if_neg hne]
  · rw [FileSystem.lookup_of_names (hnames.mono (.set_of_file hnode hnames.ne_nil)),
      FileSystem.node?_set_self _ _ hnames.ne_nil]

/-- An empty working directory. -/
def emptyWorld : World where
  files := ⟨[(["work"], .directory)], ["work"]⟩
  input := []
  endpoint := fun _ _ => .noConnection .networkUnreachable
  events := []

/-! ### Small changes -/

/-- The text behind the header in bytes. -/
def bodyBytes (lineBreak content : String) : Bytes :=
  Bytes.ofText (String.ofList (body lineBreak.toList content.toList))

/-- A change within four bytes is written: if the file has been brought up to date with the first
content, and is as it was, then it is replaced when it is brought up to date with the second one.

**Proof sketch.** Whatever the first call did, the file tells the checksum of the first content
afterwards, since the line break ends the header line. The checksum of the second content is another
one. -/
theorem overwritten_of_differWithin {first second : String} {v w' : World} {result : WriteResult}
    (hbreak : lineBreak = "\n" ∨ lineBreak = "\r\n")
    (hdiffer : Checksum.DifferWithin 4 (bodyBytes lineBreak first) (bodyBytes lineBreak second))
    (hfirst : (writeFile path lineBreak first).run.run w = (.ok result, w'))
    (hsame : v.files.lookup path = w'.files.lookup path) :
    ∃ fs, (writeFile path lineBreak second).run.run v = (.ok .overwritten, { v with files := fs }) ∧
      fs.lookup path = .ok (.file (fileBytes lineBreak second)) := by
  have hends : EndsHeader lineBreak.toList := by
    rcases hbreak with rfl | rfl
    · exact ⟨[], [], rfl, List.forall_mem_nil _⟩
    · exact ⟨['\r'], [], rfl, List.forall_mem_singleton.mpr (by decide)⟩
  obtain ⟨steps, htakes, -⟩ := (writeFile path lineBreak first).run.takes_run w
  rw [hfirst] at htakes
  obtain ⟨fs, rfl, hupdated⟩ := updated_of_takes htakes
  obtain ⟨place, bytes, hnames, hnode, hwritten⟩ := hupdated.exists_of_ok
  have hfile : v.files.lookup path = .ok (.file bytes) := by
    rw [hsame, FileSystem.lookup_of_names (hnames.mono hupdated.grows), hnode]
  refine exists_run_of_told_ne hfile (hwritten.told hends) fun heq => ?_
  exact Checksum.crc32_ne_of_differWithin hdiffer (Option.some.inj heq)

/-- A document of two types. -/
def twoTypes : String := "type A \x7b id \x7d\ntype B \x7b id \x7d\n"

/-- The same document after a field has been renamed. -/
def twoTypesRenamed : String := "type A \x7b no \x7d\ntype B \x7b id \x7d\n"

/-- With carriage returns, a field of the first of two types is renamed. -/
theorem overwritten_of_differWithin_renamed :
    ("\r\n" = "\n" ∨ "\r\n" = "\r\n") ∧
    Checksum.DifferWithin 4 (bodyBytes "\r\n" twoTypes) (bodyBytes "\r\n" twoTypesRenamed) ∧
    ∃ w', (writeFile "a.graphql" "\r\n" twoTypes).run.run emptyWorld = (.ok .created, w') ∧
      ∃ fs, (writeFile "a.graphql" "\r\n" twoTypesRenamed).run.run w' =
          (.ok .overwritten, { w' with files := fs }) ∧
        fs.lookup "a.graphql" = .ok (.file (fileBytes "\r\n" twoTypesRenamed)) := by
  have hdiffer : Checksum.DifferWithin 4 (bodyBytes "\r\n" twoTypes)
      (bodyBytes "\r\n" twoTypesRenamed) :=
    Checksum.differWithin_iff.mpr ⟨Bytes.ofText "type A \x7b ", Bytes.ofText "id", Bytes.ofText "no",
      Bytes.ofText " \x7d\r\ntype B \x7b id \x7d\r\n", by decide +kernel, by decide +kernel, by decide,
      by decide, by decide⟩
  have hfirst : ((writeFile "a.graphql" "\r\n" twoTypes).run.run emptyWorld).1 = .ok .created := by
    decide +kernel
  exact ⟨.inr rfl, hdiffer, _, Prod.fst_eq_iff.mp hfirst,
    overwritten_of_differWithin (.inr rfl) hdiffer (Prod.fst_eq_iff.mp hfirst) rfl⟩

/-! ### Interrupted writes -/

/-- The bytes of a header without its line break. -/
def headerStart (lineBreak content : String) : Bytes :=
  Bytes.ofText (String.ofList
    (hashMark ++ Nat.toDigits 10 (contentHash lineBreak content).toNat))

/-- Behind the start of the header are the line break and the text. -/
theorem fileBytes_eq (lineBreak content : String) :
    fileBytes lineBreak content =
      headerStart lineBreak content ++ (Bytes.ofText lineBreak ++ bodyBytes lineBreak content) := by
  have htext : String.ofList (fileText lineBreak.toList content.toList) =
      String.ofList (hashMark ++ Nat.toDigits 10 (contentHash lineBreak content).toNat) ++
        (lineBreak ++ String.ofList (body lineBreak.toList content.toList)) :=
    String.toList_inj.mp (by simp [fileText, headerText, contentHash])
  rw [fileBytes, htext, Bytes.ofText_append, Bytes.ofText_append, headerStart, bodyBytes]

/-- The start of a header is ASCII text. -/
theorem toNat_lt_of_mem_headerStart {h : BitVec 32} {c : Char}
    (hc : c ∈ hashMark ++ Nat.toDigits 10 h.toNat) : c.toNat < 128 := by
  rcases List.mem_append.mp hc with hmark | hdigits
  · have hall : hashMark.all (fun c => c.toNat < 128) = true := by decide
    exact of_decide_eq_true (List.all_eq_true.mp hall c hmark)
  · have hrange := toNat_of_isDigit (isDigit_of_mem_toDigits hdigits)
    omega

/-- A mark is not found in less than it. -/
theorem afterMark?_eq_none {mark cs : List Char} (h : cs.length < mark.length) :
    afterMark? mark cs = none := by
  induction mark generalizing cs with
  | nil => exact absurd h (Nat.not_lt_zero _)
  | cons m mark ih =>
    cases cs with
    | nil => rfl
    | cons c cs =>
      rw [afterMark?]
      split
      · exact ih (Nat.lt_of_succ_lt_succ h)
      · rfl

/-- The start of a header that has been cut off tells no checksum, or a smaller one.

**Proof sketch.** A cut in the mark or right behind it leaves no digit to be read. A cut in the digits
leaves those of a smaller number. -/
theorem hashInLine?_take_ne {h : BitVec 32} {n : Nat}
    (hcut : n < (hashMark ++ Nat.toDigits 10 h.toNat).length) :
    hashInLine? ((hashMark ++ Nat.toDigits 10 h.toNat).take n) ≠ some h := by
  rw [List.length_append] at hcut
  rcases Nat.lt_or_ge n hashMark.length with hmark | hmark
  · rw [hashInLine?, afterMark?_eq_none (Nat.lt_of_le_of_lt (List.length_take_le _ _) hmark)]
    exact (Option.some_ne_none h).symm
  · obtain ⟨k, rfl⟩ := Nat.exists_eq_add_of_le hmark
    have hk : k < (Nat.toDigits 10 h.toNat).length := Nat.lt_of_add_lt_add_left hcut
    have hdigit : ∀ c ∈ (Nat.toDigits 10 h.toNat).take k, c.isDigit = true := fun c hc =>
      isDigit_of_mem_toDigits (List.mem_of_mem_take hc)
    have hend : ∀ c ∈ ((Nat.toDigits 10 h.toNat).take k).getLast?, Text.isSpace c = false :=
      fun c hc => isSpace_of_isDigit (hdigit c (List.mem_of_getLast? hc))
    have htrim := trimEnd_append hend (List.forall_mem_nil _)
    rw [List.append_nil] at htrim
    rw [List.take_length_add_append, hashInLine?, afterMark?_append, Option.bind_some, htrim]
    rcases Nat.eq_zero_or_pos k with rfl | hpos
    · exact (Option.some_ne_none h).symm
    · have hless := Text.ofDigits_take_lt hpos hk
      have hne : (Nat.toDigits 10 h.toNat).take k ≠ [] :=
        List.ne_nil_of_length_pos (by rw [List.length_take]; omega)
      have hword := Nat.lt_trans hless h.isLt
      rw [word?_of_isDigit hne hdigit hword]
      intro heq
      have hnat := congrArg BitVec.toNat (Option.some.inj heq)
      rw [BitVec.toNat_ofNat, Nat.mod_eq_of_lt hword] at hnat
      exact absurd hnat (Nat.ne_of_lt hless)

/-- The start of a header that has been cut off is a text, which does not tell the checksum.

**Proof sketch.** The start of a header holds ASCII characters only, so its first bytes are its first
characters. No line ends among them, and the digits that are left are fewer than those of the checksum
(`hashInLine?_take_ne`). -/
theorem exists_told_of_cut {part : Bytes} (hcut : part <+: headerStart "\n" content)
    (hne : part ≠ headerStart "\n" content) :
    ∃ told, toldHash? part = some told ∧ told ≠ some (contentHash "\n" content) := by
  obtain ⟨cs, hcs⟩ : ∃ cs, cs = hashMark ++ Nat.toDigits 10 (contentHash "\n" content).toNat := ⟨_, rfl⟩
  have htake : part = Bytes.ofText (String.ofList (cs.take part.length)) := by
    rw [← Bytes.take_ofText fun c hc => toNat_lt_of_mem_headerStart (hcs ▸ hc), hcs]
    exact List.prefix_iff_eq_take.mp hcut
  have hlength : part.length < cs.length := by
    by_contra hge
    rw [List.take_of_length_le (Nat.le_of_not_lt hge), hcs] at htake
    exact hne htake
  have hline : Text.firstLine (cs.take part.length) = cs.take part.length := by
    have hfront : '\n' ∉ cs.take part.length := fun hc =>
      notMem_headerText _ (hcs ▸ List.mem_of_mem_take hc)
    have happend := Text.firstLine_append hfront []
    rwa [List.append_nil, Text.firstLine, List.append_nil] at happend
  refine ⟨_, by rw [htake, toldHash?_ofText], ?_⟩
  rw [hline]
  subst hcs
  exact hashInLine?_take_ne hlength

/-- There is no line feed in the start of a header. -/
theorem notMem_headerStart : 10 ∉ headerStart lineBreak content := by
  rw [headerStart, Bytes.ofText_ofList, List.mem_flatMap]
  rintro ⟨c, hc, hbyte⟩
  exact Bytes.notMem_utf8EncodeChar (fun heq => notMem_headerText _ (heq ▸ hc)) hbyte

/-- Behind a whole header anything from the line break on may be missing. -/
theorem toldHash?_of_headerStart {part : Bytes} (hstart : headerStart "\n" content <+: part)
    (hcut : part <+: fileBytes "\n" content) :
    toldHash? part = some (some (contentHash "\n" content)) := by
  obtain ⟨rest, rfl⟩ := hstart
  rw [fileBytes_eq, List.prefix_append_right_inj] at hcut
  have htold {blanks : List Char} (hblanks : ∀ c ∈ blanks, Text.isSpace c = true)
      (hline : Bytes.firstLine rest = Bytes.ofText (String.ofList blanks)) :
      toldHash? (headerStart "\n" content ++ rest) = some (some (contentHash "\n" content)) := by
    rw [toldHash?, Bytes.firstLine_append notMem_headerStart, hline, headerStart, ← Bytes.ofText_append,
      ← String.ofList_append, Bytes.toText?_ofText, Option.map_some, String.toList_ofList,
      List.append_assoc, hashInLine?_append hblanks]
  -- What follows the header is nothing, or it starts with the line break.
  cases rest with
  | nil => exact htold (List.forall_mem_nil _) rfl
  | cons b rest =>
    obtain rfl : b = 10 := (List.cons_prefix_cons.mp hcut).1
    exact htold (List.forall_mem_singleton.mpr (by decide : Text.isSpace '\n' = true)) rfl

/-- A write that has been interrupted is made up for exactly if part of the checksum is missing. If the
checksum is whole, the file is taken for the finished one, and left as it is.

**Proof sketch.** The part that is there and the start of the header are both prefixes of the file. If
the part is the shorter one, its digits are those of another number, or there are none. Otherwise the
first line tells the checksum, whatever follows it. -/
theorem overwritten_or_unchanged_of_cut {part : Bytes}
    (hfile : w.files.lookup path = .ok (.file part)) (hcut : part <+: fileBytes "\n" content) :
    (¬ headerStart "\n" content <+: part →
      ∃ fs, (writeFile path "\n" content).run.run w = (.ok .overwritten, { w with files := fs }) ∧
        fs.lookup path = .ok (.file (fileBytes "\n" content))) ∧
    (headerStart "\n" content <+: part →
      (writeFile path "\n" content).run.run w = (.ok .unchanged, w)) := by
  refine ⟨fun hstart => ?_, fun hstart => run_of_told hfile (toldHash?_of_headerStart hstart hcut)⟩
  have hwhole : headerStart "\n" content <+: fileBytes "\n" content := by
    rw [fileBytes_eq]
    exact List.prefix_append _ _
  have hpart := (List.prefix_or_prefix_of_prefix hcut hwhole).resolve_right hstart
  obtain ⟨told, htold, hne⟩ := exists_told_of_cut hpart fun heq => hstart (heq ▸ List.prefix_rfl)
  exact exists_run_of_told_ne hfile htold hne

/-- A working directory with one file. -/
def cutWorld (part : Bytes) : World :=
  { emptyWorld with files := emptyWorld.files.set ["a.graphql", "work"] (.file part) }

/-- The file of `cutWorld` is found by its name. -/
theorem lookup_cutWorld (part : Bytes) : (cutWorld part).files.lookup "a.graphql" = .ok (.file part) :=
  rfl

/-- The text of two types is cut off in its checksum, and in the second type. -/
theorem overwritten_or_unchanged_of_cut_twoTypes :
    ∃ first second, first <+: fileBytes "\n" twoTypes ∧ second <+: fileBytes "\n" twoTypes ∧
      (cutWorld first).files.lookup "a.graphql" = .ok (.file first) ∧
      (cutWorld second).files.lookup "a.graphql" = .ok (.file second) ∧
      ¬ headerStart "\n" twoTypes <+: first ∧ headerStart "\n" twoTypes <+: second ∧
      (∃ fs, (writeFile "a.graphql" "\n" twoTypes).run.run (cutWorld first) =
          (.ok .overwritten, { cutWorld first with files := fs }) ∧
        fs.lookup "a.graphql" = .ok (.file (fileBytes "\n" twoTypes))) ∧
      (writeFile "a.graphql" "\n" twoTypes).run.run (cutWorld second) =
        (.ok .unchanged, cutWorld second) := by
  have hfirst : (fileBytes "\n" twoTypes).take 9 <+: fileBytes "\n" twoTypes := List.take_prefix _ _
  have hsecond : (fileBytes "\n" twoTypes).take 35 <+: fileBytes "\n" twoTypes := List.take_prefix _ _
  have hpart : ¬ headerStart "\n" twoTypes <+: (fileBytes "\n" twoTypes).take 9 := by decide +kernel
  have hwhole : headerStart "\n" twoTypes <+: (fileBytes "\n" twoTypes).take 35 := by decide +kernel
  exact ⟨_, _, hfirst, hsecond, lookup_cutWorld _, lookup_cutWorld _, hpart, hwhole,
    (overwritten_or_unchanged_of_cut (lookup_cutWorld _) hfirst).1 hpart,
    (overwritten_or_unchanged_of_cut (lookup_cutWorld _) hsecond).2 hwhole⟩

/-- Part of a file is left as it is: all of the header is there, and nothing of the text. -/
theorem exists_cut_unchanged :
    ∃ part, part <+: fileBytes "\n" twoTypes ∧ part ≠ fileBytes "\n" twoTypes ∧
      (cutWorld part).files.lookup "a.graphql" = .ok (.file part) ∧
      (writeFile "a.graphql" "\n" twoTypes).run.run (cutWorld part) = (.ok .unchanged, cutWorld part) := by
  have htold : toldHash? (Bytes.ofText "# hash:3672756698\n") =
      some (some (contentHash "\n" twoTypes)) := by decide +kernel
  exact ⟨_, by decide +kernel, by decide +kernel, lookup_cutWorld _, run_of_told (lookup_cutWorld _) htold⟩

end Output

end SchemaQueries
