import SchemaQueries.Proofs.Output.SideBySide

/-!
# Output files over many calls

The output files are brought up to date again and again, with other contents and other line breaks, and
some of the calls fail, whatever the reason. As long as nobody else writes them, each of them holds what
the last write to it has left. If that write has not broken off, this is what one of the calls was to
write, as a whole, and the header tells the checksum of the content. If it has, the file holds the
beginning of that, and nothing more is said of it: a later call may even take it for up to date.

## Main definitions

* `Output.Attempt`, `Output.Calls` — calls one after the other, each with what it has met.
* `Output.BrokeOff` — the last write to an output file has broken off.
* `Output.Kept` — what holds of an output file between calls.

## Main results

* `Output.Kept.update`, `Output.kept_of_call` — a single call keeps it.
* `Output.kept_of_calls` — so do all calls.
* `Output.stamped_of_calls` — the form of the output files after any calls.
* `Output.exists_calls_unstamped` — a file whose write has broken off, and contents that only the line
  break makes equal.

## Implementation notes

Whether a file is up to date is told by the checksum alone, and the checksum is that of the content with
its line breaks. So a file may be kept that has another content of the same checksum, or a header with
another line break.
-/

set_option autoImplicit false
set_option relaxedAutoImplicit false

namespace SchemaQueries.Output

open FileSystem (IsFileName Location Path join)
open Script (Step Takes Write writesTo)

/-- A call that is to bring the output files up to date. -/
structure Call where
  documents : Documents
  lineBreak : String

/-- The bytes that a call is to write to an output file, which holds this content. -/
def Call.bytes (call : Call) (content : Documents → String) : Bytes :=
  fileBytes call.lineBreak (content call.documents)

/-- A call, the steps that it has taken, and what it has come to. -/
structure Attempt where
  call : Call
  steps : List Step
  result : Except Failure Unit

/-- Calls one after the other. Any of their steps may fail. In between, nobody else does anything. -/
inductive Calls (directory : String) : World → List Attempt → World → Prop
  | nil (w : World) : Calls directory w [] w
  | concat {w v w' : World} {attempts : List Attempt} {call : Call}
      {preparing queries schema : List Step} {r : Except Failure Unit} :
      Calls directory w attempts v →
      WritesSideBySide call.documents directory call.lineBreak v preparing queries schema r w' →
      Calls directory w (attempts ++ [⟨call, preparing ++ queries ++ schema, r⟩]) w'

/-- The writes to an output file in all of the calls. -/
def writesOf (directory : String) (attempts : List Attempt) (file : String) : List Write :=
  writesTo (join directory file) (attempts.flatMap (·.steps))

/-- The last write to an output file has broken off. -/
def BrokeOff (directory : String) (attempts : List Attempt) (file : String) : Prop :=
  ∃ write, (writesOf directory attempts file).getLast? = some write ∧ write.fault ≠ none

section Directory

variable {directory : String} {inner : Path} {place : Location} {fs fs' : FileSystem}
  {file file' : String} {content content' : Documents → String} {attempts : List Attempt} {call : Call}
  {w w' : World} {steps : List Step} {writes more : List Write}

/-! ### What is kept -/

/-- The output file is what the last write has left of it, and is not there if there has been none. -/
structure Kept (directory : String) (place : Location) (writes : List Write) (fs : FileSystem)
    (file : String) : Prop where
  node? : fs.node? (file :: place) = writes.getLast?.map fun write => .file write.left
  names : writes ≠ [] → fs.Names (join directory file) (file :: place)

/-- Every write to the output file in these steps is of what the call was to write, and if one of them
breaks off, the steps come to a failure. -/
def Wrote (directory : String) (call : Call) (steps : List Step) (r : Except Failure Unit)
    (file : String) (content : Documents → String) : Prop :=
  ∀ write ∈ writesTo (join directory file) steps,
    write.content = call.bytes content ∧ (write.fault ≠ none → ∃ e, r = .error e)

/-- So it is with the steps of one task after the other. -/
theorem Wrote.both {steps' : List Step} {r r' : Except Failure Unit}
    (h : Wrote directory call steps r file content) (h' : Wrote directory call steps' r' file content) :
    Wrote directory call (steps ++ steps') (both r r') file content := by
  unfold Wrote
  rw [Script.writesTo_append]
  refine List.forall_mem_append.mpr ⟨fun write hwrite => ?_, fun write hwrite => ?_⟩
  · obtain ⟨hcontent, hfails⟩ := h write hwrite
    exact ⟨hcontent, fun hfault => exists_both_eq_error (.inl (hfails hfault))⟩
  · obtain ⟨hcontent, hfails⟩ := h' write hwrite
    exact ⟨hcontent, fun hfault => exists_both_eq_error (.inr (hfails hfault))⟩

/-- The output file is kept while nothing changes. -/
theorem Kept.same (h : Kept directory place writes fs file) (hsame : fs.Same fs') :
    Kept directory place writes fs' file where
  node? := (hsame.node? _).trans h.node?
  names := fun hne => (h.names hne).mono hsame.grows

/-- Bringing an output file up to date keeps it. -/
theorem Kept.update (hfile : IsFileName file) (hinner : Path.ofText directory = .ok inner)
    (hplace : fs.find inner = .ok (.found place .directory)) {lineBreak text : String}
    {r : Except Failure WriteResult}
    (hupdated : Updated (join directory file) lineBreak text fs more r fs')
    (h : Kept directory place writes fs file) : Kept directory place (writes ++ more) fs' file := by
  have hgrows := hupdated.grows
  rcases hupdated.eq_or_exists_write with ⟨rfl, rfl⟩ | ⟨written, write, hnames, rfl, -, rfl⟩
  · rwa [List.append_nil]
  · obtain rfl := FileSystem.eq_of_names_join hfile hinner hplace hnames
    refine ⟨?_, fun _ => hnames.mono hgrows⟩
    rw [FileSystem.node?_set_self fs _ hnames.ne_nil, List.getLast?_append_of_ne_nil _ (by simp)]
    rfl

/-- Bringing the other output file up to date keeps it as well. -/
theorem Kept.update_other (hfile' : IsFileName file') (hne : file ≠ file')
    (hinner : Path.ofText directory = .ok inner)
    (hplace : fs.find inner = .ok (.found place .directory)) {lineBreak text : String}
    {r : Except Failure WriteResult}
    (hupdated : Updated (join directory file') lineBreak text fs more r fs')
    (h : Kept directory place writes fs file) : Kept directory place writes fs' file where
  node? := by
    rw [hupdated.node?_of_ne hfile' hinner hplace fun heq => hne (List.cons.inj heq).1, h.node?]
  names := fun hwrites => (h.names hwrites).mono hupdated.grows

/-- What the update of an output file writes is what the call was to write, and if a write breaks off, the
update fails. -/
theorem Updated.wrote {path lineBreak text : String} {r : Except Failure WriteResult}
    (h : Updated path lineBreak text fs writes r fs') {write : Write} (hwrite : write ∈ writes) :
    write.content = fileBytes lineBreak text ∧ (write.fault ≠ none → ∃ e, r = .error e) := by
  refine ⟨?_, h.exists_error hwrite⟩
  rcases h.eq_or_exists_write with ⟨rfl, -⟩ | ⟨_, _, -, rfl, hcontent, -⟩
  · cases hwrite
  · rwa [List.mem_singleton.mp hwrite]

/-- What the task for an output file does to each of the output files.

**Proof sketch.** The task updates its own file, which is kept up to its writes (`Kept.update`). The other
file is left as it is (`Kept.update_other`), and the task does not write it. -/
theorem kept_of_task {o : String × (Documents → String)} {r : Except Failure Unit} (ho : o ∈ outputFiles)
    (hinner : Path.ofText directory = .ok inner)
    (hplace : w.files.find inner = .ok (.found place .directory))
    (h : Takes (updateFile directory call.lineBreak o.1 (o.2 call.documents)).run w steps r w') :
    w'.files.find inner = .ok (.found place .directory) ∧ ∀ o' ∈ outputFiles,
      Wrote directory call steps r o'.1 o'.2 ∧
      ∀ writes, Kept directory place writes w.files o'.1 →
        Kept directory place (writes ++ writesTo (join directory o'.1) steps) w'.files o'.1 := by
  have hother {path : String} (hne : path ≠ join directory o.1) : writesTo path steps = [] :=
    h.writesTo_eq_nil (about_updateFile _ _ _ _) hne
  obtain ⟨result, fs, hupdated, rfl, rfl⟩ := takes_updateFile h
  refine ⟨hupdated.grows.find_directory hplace, fun o' ho' => ?_⟩
  by_cases hfile : o'.1 = o.1
  · obtain ⟨file, content⟩ := o
    obtain ⟨file', content'⟩ := o'
    obtain rfl : file' = file := hfile
    obtain rfl := content_unique ho ho'
    refine ⟨fun write hwrite => ?_, fun writes hkept =>
      hkept.update (isFileName_of_mem ho) hinner hplace hupdated⟩
    obtain ⟨hcontent, hfails⟩ := hupdated.wrote hwrite
    refine ⟨hcontent, fun hfault => ?_⟩
    obtain ⟨e, rfl⟩ := hfails hfault
    exact ⟨e, rfl⟩
  · unfold Wrote
    rw [hother ((FileSystem.join_injective directory).ne hfile)]
    refine ⟨nofun, fun writes hkept => ?_⟩
    rw [List.append_nil]
    exact hkept.update_other (isFileName_of_mem ho) hfile hinner hplace hupdated

/-- A directory that is there is not created. -/
theorem eq_of_prepare {r : Except Failure Unit} (hinner : Path.ofText directory = .ok inner)
    (hplace : w.files.find inner = .ok (.found place .directory))
    (h : Takes (prepare directory).run w steps r w') : w' = w := by
  rcases takes_prepare h with ⟨-, hw, -⟩ | ⟨-, path, free, hpath, hleads, hnode, -⟩ | ⟨e, -, hw⟩
  · exact hw
  · obtain rfl := Except.ok.inj (hinner.symm.trans hpath)
    rw [hleads.find, FileSystem.target, hnode] at hplace
    cases hplace
  · exact hw

/-- What a single call does to each of the output files, with one task after the other.

**Proof sketch.** Preparing the directory does nothing, for it is there. Then there is one task after the
other (`kept_of_task`), and both have to go through if the call does. -/
theorem kept_of_call {r : Except Failure Unit} (hinner : Path.ofText directory = .ok inner)
    (hplace : w.files.find inner = .ok (.found place .directory))
    (h : Takes (writeFiles call.documents directory call.lineBreak).run w steps r w') :
    w'.files.find inner = .ok (.found place .directory) ∧
      (∀ o ∈ outputFiles, Wrote directory call steps r o.1 o.2 ∧
        ∀ writes, Kept directory place writes w.files o.1 →
          Kept directory place (writes ++ writesTo (join directory o.1) steps) w'.files o.1) ∧
      (r = .ok () → Settled directory call.lineBreak call.documents w'.files place) := by
  obtain ⟨first, prepared, v, hprepare, hfiles⟩ := takes_writeFiles h
  obtain rfl := eq_of_prepare hinner hplace hprepare
  have hfirst := writesTo_of_prepare hprepare
  rcases hfiles with ⟨e, -, rfl, rfl, rfl⟩ |
    ⟨-, second, third, r', r'', u, rfl, hqueries, hschema, rfl⟩
  · refine ⟨hplace, fun o _ => ⟨?_, fun writes hkept => ?_⟩, nofun⟩
    · unfold Wrote
      rw [hfirst]
      exact nofun
    · rwa [hfirst, List.append_nil]
  obtain ⟨hplace', hqueries'⟩ := kept_of_task queries_mem hinner hplace hqueries
  obtain ⟨hplace'', hschema'⟩ := kept_of_task schema_mem hinner hplace' hschema
  refine ⟨hplace'', fun o ho => ?_, fun hr => ?_⟩
  · obtain ⟨hwrote, hkeeps⟩ := hqueries' o ho
    obtain ⟨hwrote', hkeeps'⟩ := hschema' o ho
    have hwrites : writesTo (join directory o.1) (first ++ second ++ third) =
        writesTo (join directory o.1) (second ++ third) := by
      rw [List.append_assoc, Script.writesTo_append, hfirst, List.nil_append]
    unfold Wrote
    rw [hwrites]
    refine ⟨hwrote.both hwrote', fun writes hkept => ?_⟩
    rw [Script.writesTo_append, ← List.append_assoc]
    exact hkeeps' _ (hkeeps writes hkept)
  · obtain ⟨hok, hok'⟩ := both_eq_ok_iff.mp hr
    obtain ⟨result, fs, hupdated, hresult, rfl⟩ := takes_updateFile hqueries
    obtain ⟨result', fs', hupdated', hresult', rfl⟩ := takes_updateFile hschema
    obtain ⟨_, rfl, -⟩ := Steps.map_eq_ok_iff.mp (hresult.symm.trans hok)
    obtain ⟨_, rfl, -⟩ := Steps.map_eq_ok_iff.mp (hresult'.symm.trans hok')
    exact settled_of_updated hinner hplace hupdated hupdated'

/-- A write to an output file belongs to one of the calls. -/
theorem exists_attempt_of_mem {write : Write} (h : write ∈ writesOf directory attempts file) :
    ∃ attempt ∈ attempts, write ∈ writesTo (join directory file) attempt.steps := by
  obtain ⟨step, hstep, hwrite⟩ := List.mem_filterMap.mp h
  obtain ⟨attempt, hattempt, hstep⟩ := List.mem_flatMap.mp hstep
  exact ⟨attempt, hattempt, List.mem_filterMap.mpr ⟨step, hstep, hwrite⟩⟩

/-- The writes of one more call come last. -/
theorem writesOf_concat (directory : String) (attempts : List Attempt) (attempt : Attempt)
    (file : String) : writesOf directory (attempts ++ [attempt]) file =
      writesOf directory attempts file ++ writesTo (join directory file) attempt.steps := by
  rw [writesOf, List.flatMap_append, List.flatMap_singleton, Script.writesTo_append, writesOf]

/-- All calls keep the output files, and the last one brings them up to date if it goes through.

**Proof sketch.** Induction on the calls. The tasks of one more call may as well run one after the other
(`WritesSideBySide.exists_takes`). Then what has been kept is kept by the call, up to its writes
(`kept_of_call`). -/
theorem kept_of_calls (hinner : Path.ofText directory = .ok inner)
    (hplace : w.files.find inner = .ok (.found place .directory))
    (hfree : ∀ o ∈ outputFiles, w.files.node? (o.1 :: place) = none)
    (h : Calls directory w attempts w') :
    w'.files.find inner = .ok (.found place .directory) ∧
      (∀ o ∈ outputFiles, Kept directory place (writesOf directory attempts o.1) w'.files o.1) ∧
      (∀ attempt ∈ attempts, ∀ o ∈ outputFiles,
        Wrote directory attempt.call attempt.steps attempt.result o.1 o.2) ∧
      (∀ before last, attempts = before ++ [last] → last.result = .ok () →
        Settled directory last.call.lineBreak last.call.documents w'.files place) := by
  induction h with
  | nil =>
    refine ⟨hplace, fun o ho => ⟨hfree o ho, fun hne => absurd rfl hne⟩, nofun, fun before last heq => ?_⟩
    exact absurd heq.symm (List.concat_ne_nil _ _)
  | concat _ hcall ih =>
    obtain ⟨hplace, hkept, hwrote, -⟩ := ih
    obtain ⟨w₁, htakes, hsame⟩ := hcall.exists_takes
    obtain ⟨hfound, hkeeps, hdone⟩ := kept_of_call hinner hplace htakes
    refine ⟨hsame.symm.grows.find_directory hfound, fun o ho => ?_, ?_, fun before last heq hok => ?_⟩
    · rw [writesOf_concat]
      exact ((hkeeps o ho).2 _ (hkept o ho)).same hsame.symm
    · exact List.forall_mem_append.mpr ⟨hwrote,
        List.forall_mem_singleton.mpr fun o ho => (hkeeps o ho).1⟩
    · obtain ⟨-, hlast⟩ := List.append_inj' heq rfl
      obtain rfl := (List.cons.inj hlast).1
      exact (hdone hok).same hsame.symm

/-! ### The form of the output files -/

/-- If the output file is there, it is the header with the checksum of a body, and the body: the content
that one of the calls was to write, with its line breaks. The checksum is the one that is read from the
header. -/
def Stamped (directory : String) (place : Location) (attempts : List Attempt) (w : World) (file : String)
    (content : Documents → String) : Prop :=
  ∀ node, w.files.node? (file :: place) = some node → ∃ attempt ∈ attempts, ∃ text h,
    text = body attempt.call.lineBreak.toList (content attempt.call.documents).toList ∧
      h = hash text ∧
      node = .file (Bytes.ofText (String.ofList
        (hashMark ++ Nat.toDigits 10 h.toNat ++ attempt.call.lineBreak.toList ++ text))) ∧
      readHeader (join directory file) (w.firstLine (join directory file)) = .ok (some h)

/-- The output file is the beginning of what a call was to write that has failed. -/
def CutShort (place : Location) (attempts : List Attempt) (w : World) (file : String)
    (content : Documents → String) : Prop :=
  ∃ attempt ∈ attempts, (∃ e, attempt.result = .error e) ∧ ∃ written,
    w.files.node? (file :: place) = some (.file ((attempt.call.bytes content).take written))

/-- The output file is there, and the checksum of what this call was to write is read from it. It differs
from that only if the last write has broken off, if it is what a call was to write with another content
of the same checksum, line breaks included, or if these contents are the same and the line breaks of the
headers are not. -/
def Fresh (directory : String) (place : Location) (attempts : List Attempt) (call : Call) (w : World)
    (file : String) (content : Documents → String) : Prop :=
  ∃ bytes, w.files.node? (file :: place) = some (.file bytes) ∧
    readHeader (join directory file) (w.firstLine (join directory file)) =
      .ok (some (contentHash call.lineBreak (content call.documents))) ∧
    (bytes ≠ call.bytes content → BrokeOff directory attempts file ∨
      ∃ attempt ∈ attempts, bytes = attempt.call.bytes content ∧
        contentHash attempt.call.lineBreak (content attempt.call.documents) =
          contentHash call.lineBreak (content call.documents) ∧
        (body attempt.call.lineBreak.toList (content attempt.call.documents).toList ≠
            body call.lineBreak.toList (content call.documents).toList ∨
          body attempt.call.lineBreak.toList (content attempt.call.documents).toList =
              body call.lineBreak.toList (content call.documents).toList ∧
            attempt.call.lineBreak ≠ call.lineBreak))

/-- What is in the output file was to be written by one of the calls, as a whole unless the last write has
broken off. -/
theorem Kept.exists_attempt (h : Kept directory place (writesOf directory attempts file) fs file)
    (hwrote : ∀ attempt ∈ attempts,
      Wrote directory attempt.call attempt.steps attempt.result file content)
    (hwhole : ¬ BrokeOff directory attempts file) {node : FileSystem.Node}
    (hnode : fs.node? (file :: place) = some node) :
    fs.Names (join directory file) (file :: place) ∧
      ∃ attempt ∈ attempts, node = .file (attempt.call.bytes content) := by
  rw [h.node?, Option.map_eq_some_iff] at hnode
  obtain ⟨write, hlast, rfl⟩ := hnode
  have hmem := List.mem_of_getLast? hlast
  obtain ⟨attempt, hattempt, hwrite⟩ := exists_attempt_of_mem hmem
  obtain ⟨hcontent, -⟩ := hwrote attempt hattempt write hwrite
  have hfault : write.fault = none := by
    by_contra hfault
    exact hwhole ⟨write, hlast, hfault⟩
  refine ⟨h.names (List.ne_nil_of_mem hmem), attempt, hattempt, ?_⟩
  rw [Write.left_eq hfault, hcontent]

/-- **Output files over many calls.** Take a directory without output files, and bring its output files
up to date any number of times, with any contents and any line breaks that end the header line. In every
call the tasks for the two files run side by side, and any of their steps may fail, a write by breaking
off in its middle. Nobody else writes the files.

Then each output file that is there and whose last write has not broken off is a header and a content
that one of the calls was to write, and the checksum of the content is read from the header. An output
file whose last write has broken off is the beginning of that. After a call that goes through, both files
are there, and the checksum of the content that the call was to write is read from them; a file whose
last write has not broken off is what the call was to write, but for other contents of the same checksum
and for the line break of the header.

**Proof sketch.** By induction on the calls, each file is what its last write has left (`kept_of_calls`).
If that write has not broken off, this is what one of the calls was to write. If a call leaves a file as
it is, its checksum has been read from the header, and that one is right because it was so before. -/
theorem stamped_of_calls (hinner : Path.ofText directory = .ok inner)
    (hplace : w.files.find inner = .ok (.found place .directory))
    (hfree : ∀ o ∈ outputFiles, w.files.node? (o.1 :: place) = none)
    (hends : ∀ attempt ∈ attempts, EndsHeader attempt.call.lineBreak.toList)
    (h : Calls directory w attempts w') :
    ∀ o ∈ outputFiles,
      (¬ BrokeOff directory attempts o.1 → Stamped directory place attempts w' o.1 o.2) ∧
      (BrokeOff directory attempts o.1 → CutShort place attempts w' o.1 o.2) ∧
      ∀ before last, attempts = before ++ [last] → last.result = .ok () →
        Fresh directory place attempts last.call w' o.1 o.2 := by
  obtain ⟨-, hkept, hwrote, hdone⟩ := kept_of_calls hinner hplace hfree h
  intro o ho
  have hwrote' := fun attempt hattempt => hwrote attempt hattempt o ho
  refine ⟨fun hwhole node hnode => ?_, fun hbroke => ?_, fun before last heq hok => ?_⟩
  · obtain ⟨hnames, attempt, hattempt, rfl⟩ := (hkept o ho).exists_attempt hwrote' hwhole hnode
    exact ⟨attempt, hattempt, _, _, rfl, rfl, rfl,
      readHeader_of_told hnames hnode (toldHash?_fileText (hends attempt hattempt) _)⟩
  · obtain ⟨write, hlast, hfault⟩ := hbroke
    obtain ⟨attempt, hattempt, hwrite⟩ := exists_attempt_of_mem (List.mem_of_getLast? hlast)
    obtain ⟨hcontent, hfails⟩ := hwrote' attempt hattempt write hwrite
    obtain ⟨fault, hsome⟩ := Option.ne_none_iff_exists'.mp hfault
    refine ⟨attempt, hattempt, hfails hfault, fault.written, ?_⟩
    rw [(hkept o ho).node?, hlast, Option.map_some, Write.left, hsome, hcontent]
  · obtain ⟨bytes, hnames, hnode, hwritten⟩ := (hdone before last heq hok).written o ho
    have hlast : last ∈ attempts := heq ▸ List.mem_append_right before List.mem_cons_self
    have htold := hwritten.told (hends last hlast)
    refine ⟨bytes, hnode, readHeader_of_told hnames hnode htold, fun hne => ?_⟩
    by_cases hbroke : BrokeOff directory attempts o.1
    · exact .inl hbroke
    obtain ⟨-, attempt, hattempt, hfile⟩ := (hkept o ho).exists_attempt hwrote' hbroke hnode
    obtain rfl := FileSystem.Node.file.inj hfile
    have htold' := toldHash?_fileText (hends attempt hattempt) (o.2 attempt.call.documents).toList
    have hhash := Option.some.inj (Option.some.inj (htold'.symm.trans htold))
    refine .inr ⟨attempt, hattempt, rfl, hhash, ?_⟩
    by_cases hbody : body attempt.call.lineBreak.toList (o.2 attempt.call.documents).toList =
        body last.call.lineBreak.toList (o.2 last.call.documents).toList
    · refine .inr ⟨hbody, fun hlb => hne ?_⟩
      rw [Call.bytes, Call.bytes, fileBytes, fileBytes, fileText, fileText, hbody, hlb]
    · exact .inl hbody

/-! ### Calls that fail, and calls that find the same checksum -/

/-- The call with one task after the other and with these failures: what it has met, and the world
afterwards. -/
def Call.attempt (call : Call) (directory : String) (faults : List (Option Fault)) (w : World) :
    Attempt × World :=
  let outcome := (writeFiles call.documents directory call.lineBreak).run.runWith faults w
  (⟨call, outcome.1, outcome.2.1⟩, outcome.2.2)

/-- Such a call is one more call. -/
theorem Calls.concat_attempt {v : World} (h : Calls directory w attempts v) (call : Call)
    (faults : List (Option Fault)) :
    Calls directory w (attempts ++ [(call.attempt directory faults v).1])
      (call.attempt directory faults v).2 := by
  obtain ⟨preparing, queries, schema, hsteps, hwrites⟩ := writesSideBySide_of_takes
    (Script.takes_runWith (writeFiles call.documents directory call.lineBreak).run faults v)
  rw [Call.attempt]
  dsimp only
  rw [hsteps]
  exact .concat h hwrites

/-- A call with short documents and carriage returns. -/
def shortCall : Call := ⟨⟨"query A\n", "type A\n"⟩, " \r\n"⟩

/-- That call where there is space for ten bytes of the file with the queries. -/
def interrupted : Attempt × World :=
  shortCall.attempt "out" [none, none, none, some (noSpace 10)] emptyOutput

/-- The same call once more. -/
def resumed : Attempt × World :=
  shortCall.attempt "out" [] interrupted.2

/-- These are two calls, one after the other. -/
theorem calls_interrupted_resumed : Calls "out" emptyOutput [interrupted.1, resumed.1] resumed.2 :=
  ((Calls.nil emptyOutput).concat_attempt shortCall _).concat_attempt shortCall []

/-- The output directory is there, and none of the output files is in it. -/
theorem emptyOutput_found :
    Path.ofText "out" = .ok ⟨false, ["out"], false⟩ ∧
    emptyOutput.files.find ⟨false, ["out"], false⟩ = .ok (.found ["out", "work"] .directory) ∧
    ∀ o ∈ outputFiles, emptyOutput.files.node? (o.1 :: ["out", "work"]) = none := by
  refine ⟨by decide, by decide, ?_⟩
  simp only [outputFiles, List.forall_mem_cons, List.not_mem_nil, false_implies, implies_true, and_true]
  decide

/-- The output files are up to date when the first call has broken off while it wrote the queries and the
second one has gone through.

**Proof sketch.** Both calls end as they are run, and the general statement applies to them. The second
one has gone through and is the last, so what it was to write stands in the files. -/
theorem stamped_of_calls_resumed :
    Path.ofText "out" = .ok ⟨false, ["out"], false⟩ ∧
    emptyOutput.files.find ⟨false, ["out"], false⟩ = .ok (.found ["out", "work"] .directory) ∧
    (∀ o ∈ outputFiles, emptyOutput.files.node? (o.1 :: ["out", "work"]) = none) ∧
    (∀ attempt ∈ [interrupted.1, resumed.1], EndsHeader attempt.call.lineBreak.toList) ∧
    Calls "out" emptyOutput [interrupted.1, resumed.1] resumed.2 ∧
    interrupted.1.result = .error (.write "out/queries.graphql" (noSpace 10).error) ∧
    resumed.1.result = .ok () ∧
    ∀ o ∈ outputFiles,
      (¬ BrokeOff "out" [interrupted.1, resumed.1] o.1 →
        Stamped "out" ["out", "work"] [interrupted.1, resumed.1] resumed.2 o.1 o.2) ∧
      (BrokeOff "out" [interrupted.1, resumed.1] o.1 →
        CutShort ["out", "work"] [interrupted.1, resumed.1] resumed.2 o.1 o.2) ∧
      Fresh "out" ["out", "work"] [interrupted.1, resumed.1] shortCall resumed.2 o.1 o.2 := by
  obtain ⟨hinner, hplace, hfree⟩ := emptyOutput_found
  have hcall : EndsHeader shortCall.lineBreak.toList :=
    ⟨[' ', '\r'], [], rfl, List.all_eq_true.mp (by decide)⟩
  have hends : ∀ attempt ∈ [interrupted.1, resumed.1], EndsHeader attempt.call.lineBreak.toList :=
    List.forall_mem_cons.mpr ⟨hcall, List.forall_mem_singleton.mpr hcall⟩
  have hfailed : interrupted.1.result = .error (.write "out/queries.graphql" (noSpace 10).error) := by
    decide +kernel
  have hdone : resumed.1.result = .ok () := by decide +kernel
  refine ⟨hinner, hplace, hfree, hends, calls_interrupted_resumed, hfailed, hdone, fun o ho => ?_⟩
  obtain ⟨hstamped, hcut, hfresh⟩ :=
    stamped_of_calls hinner hplace hfree hends calls_interrupted_resumed o ho
  exact ⟨hstamped, hcut, hfresh [interrupted.1] resumed.1 rfl hdone⟩

/-- The call whose content has a carriage return in front of its line feed. -/
def carriageReturn : Attempt × World :=
  Call.attempt ⟨⟨"query A\r\n", "type A"⟩, "\n"⟩ "out" [] emptyOutput

/-- The call whose content has a line feed only, and whose line break adds the carriage return. -/
def lineFeed : Attempt × World :=
  Call.attempt ⟨⟨"query A\n", "type A"⟩, "\r\n"⟩ "out" [] carriageReturn.2

/-- A file whose last write has broken off has not the form of an output file. And a file may be kept that
is not what a call was to write, though the contents of both calls are different texts with different
checksums: with their line breaks they are the same.

**Proof sketch.** The first part of the queries is shorter than the whole content, and so it is not what
any call was to write. In the other two calls line breaks of the contents become the same in the files,
so the second one finds its checksum and keeps what the first one has written. -/
theorem exists_calls_unstamped :
    (Calls "out" emptyOutput [interrupted.1] interrupted.2 ∧
      EndsHeader interrupted.1.call.lineBreak.toList ∧
      interrupted.2.files.node? [queriesFileName, "out", "work"] ≠ none ∧
      ¬ Stamped "out" ["out", "work"] [interrupted.1] interrupted.2 queriesFileName
        Documents.queries) ∧
    Calls "out" emptyOutput [carriageReturn.1, lineFeed.1] lineFeed.2 ∧
      (∀ attempt ∈ [carriageReturn.1, lineFeed.1],
        EndsHeader attempt.call.lineBreak.toList ∧ attempt.result = .ok ()) ∧
      hash carriageReturn.1.call.documents.queries.toList ≠
        hash lineFeed.1.call.documents.queries.toList ∧
      lineFeed.2.files.node? [queriesFileName, "out", "work"] ≠
        some (.file (lineFeed.1.call.bytes Documents.queries)) := by
  have hinterrupted : Calls "out" emptyOutput [interrupted.1] interrupted.2 :=
    (Calls.nil emptyOutput).concat_attempt shortCall _
  have hnode : interrupted.2.files.node? [queriesFileName, "out", "work"] =
      some (.file ((shortCall.bytes Documents.queries).take 10)) := by decide +kernel
  have hcalls : Calls "out" emptyOutput [carriageReturn.1, lineFeed.1] lineFeed.2 :=
    ((Calls.nil emptyOutput).concat_attempt _ []).concat_attempt _ []
  refine ⟨⟨hinterrupted, ⟨[' ', '\r'], [], rfl, List.all_eq_true.mp (by decide)⟩,
    by rw [hnode]; nofun, fun hstamped => ?_⟩, hcalls, ?_, by decide +kernel, by decide +kernel⟩
  · obtain ⟨attempt, hattempt, text, h, rfl, rfl, hfile, -⟩ := hstamped _ hnode
    obtain rfl := List.mem_singleton.mp hattempt
    have hbytes : (shortCall.bytes Documents.queries).take 10 = shortCall.bytes Documents.queries :=
      FileSystem.Node.file.inj hfile
    exact absurd hbytes (by decide +kernel)
  · refine List.forall_mem_cons.mpr ⟨⟨⟨[], [], rfl, nofun⟩, by decide +kernel⟩,
      List.forall_mem_singleton.mpr ⟨⟨['\r'], [], rfl, List.all_eq_true.mp (by decide)⟩, by decide +kernel⟩⟩

end Directory

end SchemaQueries.Output
