import SchemaQueries.Output.Writer
import SchemaQueries.Proofs.Faults
import SchemaQueries.Proofs.FileSystem.Operations
import SchemaQueries.Proofs.Output.HeaderLine

/-!
# What writing the output files does

An output file is left as it is, replaced or created as a whole. If an action fails, it is left as it is
too, unless it is the write itself: then the file holds what has been written by then.

## Main definitions

* `Output.fileBytes` — an output file in bytes.
* `Output.outputFiles` — both output files, each with its document.
* `Output.Updated` — what bringing a file up to date comes to.
* `Output.Settled` — both output files are as they were to be written.

## Main results

* `Output.updated_of_takes` — what a run of `writeFile` does.
* `Output.run_writeFile_of_told` — the file is left as it is exactly if it tells the checksum.
* `Output.takes_updateFile`, `Output.takes_prepare`, `Output.takes_writeFiles` — the steps of writing
  both files.
-/

set_option autoImplicit false
set_option relaxedAutoImplicit false

namespace SchemaQueries.Output

open FileSystem (IsFileName Location Node Path join)
open Script (Step Takes Write writesTo)

/-- An output file in bytes. -/
def fileBytes (lineBreak content : String) : Bytes :=
  Bytes.ofText (String.ofList (fileText lineBreak.toList content.toList))

/-- The checksum of the content of an output file. -/
def contentHash (lineBreak content : String) : BitVec 32 :=
  hash (body lineBreak.toList content.toList)

/-- The output files, each with the document that it is for. -/
def outputFiles : List (String × (Documents → String)) :=
  [(queriesFileName, Documents.queries), (schemaFileName, Documents.schema)]

/-- The bytes of an output file are those that were to be written, or they tell the same checksum. -/
def Written (lineBreak content : String) (bytes : Bytes) : Prop :=
  bytes = fileBytes lineBreak content ∨ toldHash? bytes = some (some (contentHash lineBreak content))

/-- One of the output files is for the queries. -/
theorem queries_mem : (queriesFileName, Documents.queries) ∈ outputFiles :=
  List.mem_cons_self

/-- The other one is for the schema. -/
theorem schema_mem : (schemaFileName, Documents.schema) ∈ outputFiles :=
  List.mem_cons_of_mem _ List.mem_cons_self

/-- The name of the file with the queries is one that a file in a directory may have. -/
theorem isFileName_queries : IsFileName queriesFileName :=
  ⟨by decide, by decide, by decide, by decide, by decide⟩

/-- So is the name of the file with the schema. -/
theorem isFileName_schema : IsFileName schemaFileName :=
  ⟨by decide, by decide, by decide, by decide, by decide⟩

/-- The names of the output files are ones that files in a directory may have. -/
theorem isFileName_of_mem {file : String} {content : Documents → String}
    (h : (file, content) ∈ outputFiles) : IsFileName file := by
  simp only [outputFiles, List.mem_cons, Prod.mk.injEq, List.not_mem_nil, or_false] at h
  rcases h with ⟨rfl, -⟩ | ⟨rfl, -⟩
  · exact isFileName_queries
  · exact isFileName_schema

/-- The output files have different names. -/
theorem content_unique {file : String} {content content' : Documents → String}
    (h : (file, content) ∈ outputFiles) (h' : (file, content') ∈ outputFiles) :
    content = content' := by
  simp only [outputFiles, List.mem_cons, Prod.mk.injEq, List.not_mem_nil, or_false] at h h'
  rcases h with ⟨rfl, rfl⟩ | ⟨rfl, rfl⟩ <;> rcases h' with ⟨hname, rfl⟩ | ⟨hname, rfl⟩
  · rfl
  · exact absurd hname (by decide)
  · exact absurd hname (by decide)
  · rfl

/-! ### Scripts -/

/-- The script that gives an opened file its content. -/
def store (path : String) (content : Bytes) (result : WriteResult) :
    Script (Except Failure WriteResult) :=
  .ask (.writeFile path content) fun x => .done ((x.mapError (.write path)).map fun _ => result)

/-- The script that brings a file up to date, action by action.

**Proof sketch.** Each action is brought to the front by the laws of scripts, and the rest is compared
for every answer. A failure ends the script, and behind the last action only the result is left. -/
theorem run_writeFile (path lineBreak content : String) :
    (writeFile path lineBreak content).run =
      .ask (.pathExists path) fun found =>
        if found then
          .ask (.readFirstLine path) fun line =>
            match readHeader path line with
            | .error e => .done (.error e)
            | .ok told =>
              if told = some (contentHash lineBreak content) then .done (.ok .unchanged)
              else .ask (.truncateFile path) fun
                | .error e => .done (.error (.truncate path e))
                | .ok _ => store path (fileBytes lineBreak content) .overwritten
        else .ask (.createFile path) fun
          | .error e => .done (.error (.create path e))
          | .ok _ => store path (fileBytes lineBreak content) .created := by
  have hstore (result : WriteResult) : ExceptT.run (do
      (Script.perform (.writeFile path (fileBytes lineBreak content))).orFail (Failure.write path)
      pure result) = store path (fileBytes lineBreak content) result :=
    congrArg (Script.ask _) (funext fun x => by cases x <;> rfl)
  unfold writeFile
  rw [Script.run_lift_bind, Script.perform_bind]
  refine congrArg (Script.ask _) (funext fun found => ?_)
  split
  · rw [Script.run_lift_bind, Script.perform_bind]
    refine congrArg (Script.ask _) (funext fun line => ?_)
    rw [Script.run_liftExcept_bind]
    cases readHeader path line with
    | error e => rfl
    | ok told =>
      show ExceptT.run (if told = some (contentHash lineBreak content) then _ else _) = _
      dsimp only
      split
      · rfl
      · rw [Script.run_orFail_bind, Script.perform_bind]
        refine congrArg (Script.ask _) (funext fun x => ?_)
        cases x with
        | error e => rfl
        | ok _ => exact hstore .overwritten
  · rw [Script.run_orFail_bind, Script.perform_bind]
    refine congrArg (Script.ask _) (funext fun x => ?_)
    cases x with
    | error e => rfl
    | ok _ => exact hstore .created

/-- The script that creates the output directory, action by action. -/
theorem run_prepare (directory : String) :
    (prepare directory).run =
      .ask (.pathExists directory) fun found =>
        if found then .done (.ok ())
        else .ask (.createDirectory directory) fun x => .done (x.mapError (.directory directory)) := by
  refine congrArg (Script.ask _) (funext fun found => ?_)
  cases found with
  | true => rfl
  | false => exact congrArg (Script.ask _) (funext fun x => by cases x <;> rfl)

/-- A file is brought up to date, and then reported. -/
theorem run_updateFile (directory lineBreak file content : String) :
    (updateFile directory lineBreak file content).run =
      (writeFile (join directory file) lineBreak content).run.bind fun
        | .ok result => .ask (.report (.written file result)) fun _ => .done (.ok ())
        | .error e => .done (.error e) := by
  unfold updateFile
  rw [Script.run_bindE]
  exact congrArg (Script.bind _) (funext fun x => by cases x <;> rfl)

/-- Both files are brought up to date, once the directory is there. -/
theorem run_writeFiles (documents : Documents) (directory lineBreak : String) :
    (writeFiles documents directory lineBreak).run =
      (prepare directory).run.bind fun
        | .ok _ =>
          (updateFile directory lineBreak queriesFileName documents.queries).run.bind fun queries =>
            (updateFile directory lineBreak schemaFileName documents.schema).run.bind fun schema =>
              .done (both queries schema)
        | .error e => .done (.error e) := by
  unfold writeFiles
  rw [Script.run_bindE]
  exact congrArg (Script.bind _) (funext fun x => by cases x <;> rfl)

/-! ### One file -/

/-- Such bytes tell a checksum, or that there is none. -/
theorem Written.exists_told {lineBreak content : String} {bytes : Bytes}
    (h : Written lineBreak content bytes) : ∃ told, toldHash? bytes = some told := by
  rcases h with rfl | htold
  · exact ⟨_, toldHash?_ofText _⟩
  · exact ⟨_, htold⟩

/-- If the line break ends the header line, they tell the checksum of the content. -/
theorem Written.told {lineBreak content : String} {bytes : Bytes} (h : Written lineBreak content bytes)
    (hends : EndsHeader lineBreak.toList) :
    toldHash? bytes = some (some (contentHash lineBreak content)) := by
  rcases h with rfl | htold
  · exact toldHash?_fileText hends _
  · exact htold

/-- What bringing a file up to date comes to, from the files before to the files afterwards, and what is
written to the file meanwhile. -/
inductive Updated (path lineBreak content : String) (fs : FileSystem) :
    List Write → Except Failure WriteResult → FileSystem → Prop
  /-- The file tells the checksum of the content. -/
  | unchanged {place : Location} {old : Bytes} : fs.Names path place →
      fs.node? place = some (.file old) →
      toldHash? old = some (some (contentHash lineBreak content)) →
      Updated path lineBreak content fs [] (.ok .unchanged) fs
  /-- The file tells something else. -/
  | overwritten {place : Location} {old : Bytes} {told : Option (BitVec 32)} :
      fs.Names path place → fs.node? place = some (.file old) → toldHash? old = some told →
      told ≠ some (contentHash lineBreak content) →
      Updated path lineBreak content fs [⟨fileBytes lineBreak content, none⟩] (.ok .overwritten)
        (fs.set place (.file (fileBytes lineBreak content)))
  /-- The file is not there. -/
  | created {place : Location} : fs.Names path place → fs.node? place = none →
      Updated path lineBreak content fs [⟨fileBytes lineBreak content, none⟩] (.ok .created)
        (fs.set place (.file (fileBytes lineBreak content)))
  /-- Nothing has been done to the file. -/
  | failed (e : Failure) : Updated path lineBreak content fs [] (.error e) fs
  /-- The file has been emptied or created, and then the write breaks off. -/
  | brokenOff {place : Location} (fault : Fault) : fs.Names path place →
      fs.node? place ≠ some .directory →
      Updated path lineBreak content fs [⟨fileBytes lineBreak content, some fault⟩]
        (.error (.write path fault.error))
        (fs.set place (.file ((fileBytes lineBreak content).take fault.written)))

/-- A header is read from a file.

**Proof sketch.** A first line comes from a file only, neither from a directory nor from nothing. It has
been read as a text, and the checksum is the one that this text tells. -/
theorem exists_of_readHeader {w : World} {path : String} {told : Option (BitVec 32)}
    (h : readHeader path (w.firstLine path) = .ok told) :
    ∃ content, w.files.lookup path = .ok (.file content) ∧ toldHash? content = some told := by
  unfold World.firstLine at h
  cases hlookup : w.files.lookup path with
  | error e => rw [hlookup] at h; cases h
  | ok node =>
    rw [hlookup] at h
    cases node with
    | directory => cases h
    | file content =>
      refine ⟨content, rfl, ?_⟩
      have hline : readHeader path (.ok (Bytes.firstLine content)) = .ok told := h
      unfold toldHash?
      unfold readHeader at hline
      dsimp only at hline
      cases htext : Bytes.toText? (Bytes.firstLine content) with
      | none => rw [htext] at hline; cases hline
      | some text =>
        rw [htext] at hline
        cases hline
        rfl

/-- A header is read from a file that tells a checksum. -/
theorem readHeader_of_told {w : World} {path : String} {place : Location} {bytes : Bytes}
    {told : Option (BitVec 32)} (hnames : w.files.Names path place)
    (hnode : w.files.node? place = some (.file bytes)) (htold : toldHash? bytes = some told) :
    readHeader path (w.firstLine path) = .ok told := by
  have hlookup : w.files.lookup path = .ok (.file bytes) := by
    rw [FileSystem.lookup_of_names hnames, hnode]
  have hline : w.firstLine path = .ok (Bytes.firstLine bytes) := by
    unfold World.firstLine
    rw [hlookup]
    rfl
  unfold toldHash? at htold
  rw [hline, readHeader]
  cases htext : Bytes.toText? (Bytes.firstLine bytes) with
  | none => rw [htext] at htold; cases htold
  | some text =>
    rw [htext] at htold
    exact congrArg Except.ok (Option.some.inj htold)

/-- A file that has been emptied or created gets what is written. -/
theorem write_set_empty {path : String} {fs : FileSystem} {place : Location}
    (hnames : fs.Names path place) (hgrows : fs.Grows (fs.set place (.file []))) (content : Bytes) :
    (fs.set place (.file [])).write path content = .ok (fs.set place (.file content)) := by
  rw [FileSystem.write_of_names (hnames.mono hgrows)
    (FileSystem.node?_set_self fs _ hnames.ne_nil), FileSystem.set_set]

/-- A file that has been emptied or created gets its content, or what is written of it.

**Proof sketch.** The path still leads to the file that has just been emptied or created. So the write
puts its content there, or as much of it as has been written when it breaks off. -/
theorem takes_store {path : String} {content : Bytes} {result : WriteResult} {fs : FileSystem}
    {place : Location} {w w' : World} {steps : List Step} {r : Except Failure WriteResult}
    (hnames : fs.Names path place) (hgrows : fs.Grows (fs.set place (.file [])))
    (hw : w.files = fs.set place (.file [])) (h : Takes (store path content result) w steps r w') :
    (steps = [⟨.writeFile path content, none⟩] ∧ r = .ok result ∧
        w' = { w with files := fs.set place (.file content) }) ∨
      ∃ fault, steps = [⟨.writeFile path content, some fault⟩] ∧
        r = .error (.write path fault.error) ∧
        w' = { w with files := fs.set place (.file (content.take fault.written)) } := by
  have hwrite (written : Bytes) : w.change (w.files.write path written) =
      (.ok (), { w with files := fs.set place (.file written) }) := by
    rw [hw, write_set_empty hnames hgrows]
    rfl
  obtain ⟨fault, rest, rfl, hrest⟩ := h.ask_inv
  cases fault with
  | none =>
    rw [World.answer, World.perform, hwrite] at hrest
    obtain ⟨rfl, rfl, rfl⟩ := hrest.done_inv
    exact .inl ⟨rfl, rfl, rfl⟩
  | some fault =>
    rw [World.answer, World.fail, hwrite] at hrest
    obtain ⟨rfl, rfl, rfl⟩ := hrest.done_inv
    exact .inr ⟨fault, rfl, rfl, rfl⟩

/-- A file that tells the checksum of the content is left as it is. Any other file whose first line is a
text is replaced as a whole.

**Proof sketch.** The file is there and its header is read, so it remains to compare the checksums. If
they differ, the file is emptied and then written, which puts the new content in its place. -/
theorem run_writeFile_of_told {w : World} {path lineBreak content : String} {place : Location}
    {bytes : Bytes} {told : Option (BitVec 32)} (hnames : w.files.Names path place)
    (hnode : w.files.node? place = some (.file bytes)) (htold : toldHash? bytes = some told) :
    (writeFile path lineBreak content).run.run w =
      if told = some (contentHash lineBreak content) then (.ok .unchanged, w)
      else (.ok .overwritten,
        { w with files := w.files.set place (.file (fileBytes lineBreak content)) }) := by
  have hhas : w.files.has path = true := by
    rw [FileSystem.has, FileSystem.lookup_of_names hnames, hnode]
  rw [run_writeFile, Script.run, World.perform, hhas]
  dsimp only
  rw [if_pos rfl, Script.run, World.perform]
  dsimp only
  rw [readHeader_of_told hnames hnode htold]
  dsimp only
  split
  · rfl
  · have hgrows : w.files.Grows (w.files.set place (.file [])) := .set_of_file hnode hnames.ne_nil
    rw [Script.run, World.perform, FileSystem.truncate_of_names hnames hnode]
    show (store path (fileBytes lineBreak content) .overwritten).run
      { w with files := w.files.set place (.file []) } = _
    rw [store, Script.run, World.perform, write_set_empty hnames hgrows]
    rfl

/-- Nothing is done to the files any more. -/
theorem updated_of_done {path lineBreak content : String} {w w' : World} {steps : List Step}
    {r r' : Except Failure WriteResult}
    (hupdated : Updated path lineBreak content w.files [] r' w.files)
    (h : Takes (.done r') w steps r w') :
    ∃ fs, w' = { w with files := fs } ∧
      Updated path lineBreak content w.files (writesTo path steps) r fs := by
  obtain ⟨rfl, rfl, rfl⟩ := h.done_inv
  exact ⟨_, rfl, hupdated⟩

/-- The write of a content to its file. -/
theorem writesTo_writeFile (path : String) (content : Bytes) (fault : Option Fault) :
    writesTo path [⟨.writeFile path content, fault⟩] = [⟨content, fault⟩] := by
  simp [writesTo, Script.Step.writeTo?]

/-- Creating a file where nothing is.

**Proof sketch.** If the creation fails nothing has been done. Else the place was free and an empty file
stands there, which gets its content or a part of it (`takes_store`). -/
theorem updated_of_create {path lineBreak content : String} {w w' : World} {steps : List Step}
    {r : Except Failure WriteResult}
    (h : Takes (.ask (.createFile path) fun
      | .error e => .done (.error (.create path e))
      | .ok _ => store path (fileBytes lineBreak content) .created) w steps r w') :
    ∃ fs, w' = { w with files := fs } ∧
      Updated path lineBreak content w.files (writesTo path steps) r fs := by
  obtain ⟨fault, rest, rfl, hrest⟩ := h.ask_inv
  show ∃ fs, _ ∧ Updated path lineBreak content w.files (writesTo path rest) r fs
  cases fault with
  | some fault => exact updated_of_done (.failed _) hrest
  | none =>
    rw [World.answer, World.perform] at hrest
    cases hcreate : w.files.createNew path with
    | error e =>
      rw [hcreate] at hrest
      exact updated_of_done (.failed _) hrest
    | ok fs =>
      obtain ⟨place, hnames, hnode, rfl⟩ := FileSystem.names_of_createNew hcreate
      rw [hcreate] at hrest
      rcases takes_store hnames (.set_of_vacant hnode) rfl hrest with
        ⟨rfl, rfl, rfl⟩ | ⟨fault, rfl, rfl, rfl⟩
      · rw [writesTo_writeFile]
        exact ⟨_, rfl, .created hnames hnode⟩
      · rw [writesTo_writeFile]
        exact ⟨_, rfl, .brokenOff fault hnames (by rw [hnode]; nofun)⟩

/-- Replacing a file that tells another checksum.

**Proof sketch.** As for a new file, but what the path leads to is the old file, which has been emptied.
-/
theorem updated_of_truncate {path lineBreak content : String} {w w' : World} {place : Location}
    {old : Bytes} {told : Option (BitVec 32)} {steps : List Step} {r : Except Failure WriteResult}
    (hnames : w.files.Names path place) (hnode : w.files.node? place = some (.file old))
    (htold : toldHash? old = some told) (hne : told ≠ some (contentHash lineBreak content))
    (h : Takes (.ask (.truncateFile path) fun
      | .error e => .done (.error (.truncate path e))
      | .ok _ => store path (fileBytes lineBreak content) .overwritten) w steps r w') :
    ∃ fs, w' = { w with files := fs } ∧
      Updated path lineBreak content w.files (writesTo path steps) r fs := by
  obtain ⟨fault, rest, rfl, hrest⟩ := h.ask_inv
  show ∃ fs, _ ∧ Updated path lineBreak content w.files (writesTo path rest) r fs
  cases fault with
  | some fault => exact updated_of_done (.failed _) hrest
  | none =>
    rw [World.answer, World.perform, FileSystem.truncate_of_names hnames hnode] at hrest
    rcases takes_store hnames (.set_of_file hnode hnames.ne_nil) rfl hrest with
      ⟨rfl, rfl, rfl⟩ | ⟨fault, rfl, rfl, rfl⟩
    · rw [writesTo_writeFile]
      exact ⟨_, rfl, .overwritten hnames hnode htold hne⟩
    · rw [writesTo_writeFile]
      exact ⟨_, rfl, .brokenOff fault hnames (by rw [hnode]; nofun)⟩

/-- Reading which checksum a file tells, and replacing the file if it is another one.

**Proof sketch.** If the header cannot be read nothing has been done. If it tells the checksum of the
content the file is kept, and else it is replaced (`updated_of_truncate`). -/
theorem updated_of_read {path lineBreak content : String} {w w' : World} {steps : List Step}
    {r : Except Failure WriteResult}
    (h : Takes (.ask (.readFirstLine path) fun line =>
      match readHeader path line with
      | .error e => .done (.error e)
      | .ok told =>
        if told = some (contentHash lineBreak content) then .done (.ok .unchanged)
        else .ask (.truncateFile path) fun
          | .error e => .done (.error (.truncate path e))
          | .ok _ => store path (fileBytes lineBreak content) .overwritten) w steps r w') :
    ∃ fs, w' = { w with files := fs } ∧
      Updated path lineBreak content w.files (writesTo path steps) r fs := by
  obtain ⟨fault, rest, rfl, hrest⟩ := h.ask_inv
  show ∃ fs, _ ∧ Updated path lineBreak content w.files (writesTo path rest) r fs
  cases fault with
  | some fault =>
    rw [World.answer, World.fail] at hrest
    cases hopened : fault.opened with
    | false =>
      rw [hopened] at hrest
      exact updated_of_done (.failed _) hrest
    | true =>
      rw [hopened] at hrest
      exact updated_of_done (.failed _) hrest
  | none =>
    rw [World.answer, World.perform] at hrest
    dsimp only at hrest
    cases hread : readHeader path (w.firstLine path) with
    | error e =>
      rw [hread] at hrest
      exact updated_of_done (.failed e) hrest
    | ok told =>
      obtain ⟨old, hlookup, htold⟩ := exists_of_readHeader hread
      obtain ⟨place, hnames, hnode⟩ := FileSystem.names_of_lookup hlookup
      rw [hread] at hrest
      dsimp only at hrest
      split at hrest
      · next hsame =>
        subst hsame
        exact updated_of_done (.unchanged hnames hnode htold) hrest
      · next hne => exact updated_of_truncate hnames hnode htold hne hrest

/-- What a run of `writeFile` does.

**Proof sketch.** The script is taken apart action by action. Each action goes through or fails, and
after a failure nothing is done any more. Once the file has been created or emptied, it gets its
content, or what is written of it until the write breaks off. -/
theorem updated_of_takes {path lineBreak content : String} {w w' : World} {steps : List Step}
    {r : Except Failure WriteResult}
    (h : Takes (writeFile path lineBreak content).run w steps r w') :
    ∃ fs, w' = { w with files := fs } ∧
      Updated path lineBreak content w.files (writesTo path steps) r fs := by
  rw [run_writeFile] at h
  obtain ⟨fault, rest, rfl, hrest⟩ := h.ask_inv
  show ∃ fs, _ ∧ Updated path lineBreak content w.files (writesTo path rest) r fs
  cases fault with
  | some fault => exact updated_of_create hrest
  | none =>
    rw [World.answer, World.perform] at hrest
    cases hexists : w.files.has path with
    | false =>
      rw [hexists] at hrest
      exact updated_of_create hrest
    | true =>
      rw [hexists, if_pos rfl] at hrest
      exact updated_of_read hrest

/-! ### What an update leaves -/

namespace Updated

variable {path lineBreak content : String} {fs fs' : FileSystem} {writes : List Write}
  {r : Except Failure WriteResult}

/-- Directories and files stay what they are. -/
theorem grows (h : Updated path lineBreak content fs writes r fs') : fs.Grows fs' := by
  cases h with
  | unchanged | failed => exact .refl fs
  | overwritten hnames hnode => exact .set_of_file hnode hnames.ne_nil
  | created hnames hnode => exact .set_of_vacant hnode
  | brokenOff fault hnames hnode => exact .set_file hnode hnames.ne_nil _

/-- Nothing is written, or the file is written once, at its place. -/
theorem eq_or_exists_write (h : Updated path lineBreak content fs writes r fs') :
    (writes = [] ∧ fs' = fs) ∨ ∃ place write, fs.Names path place ∧ writes = [write] ∧
      write.content = fileBytes lineBreak content ∧ fs' = fs.set place (.file write.left) := by
  cases h with
  | unchanged | failed => exact .inl ⟨rfl, rfl⟩
  | overwritten hnames | created hnames => exact .inr ⟨_, _, hnames, rfl, rfl, rfl⟩
  | brokenOff fault hnames => exact .inr ⟨_, _, hnames, rfl, rfl, rfl⟩

/-- If a write breaks off, the update fails. -/
theorem exists_error (h : Updated path lineBreak content fs writes r fs') {write : Write}
    (hwrite : write ∈ writes) (hfault : write.fault ≠ none) : ∃ e, r = .error e := by
  cases h with
  | unchanged | failed => cases hwrite
  | overwritten | created =>
    obtain rfl := List.mem_singleton.mp hwrite
    exact absurd rfl hfault
  | brokenOff fault => exact ⟨_, rfl⟩

/-- What is anywhere is what was there, or what a write has left of the file, at its place. -/
theorem node?_eq_or (h : Updated path lineBreak content fs writes r fs') (place : Location) :
    fs'.node? place = fs.node? place ∨
      fs.Names path place ∧ ∃ write ∈ writes, write.content = fileBytes lineBreak content ∧
        fs'.node? place = some (.file write.left) := by
  rcases h.eq_or_exists_write with ⟨-, rfl⟩ | ⟨written, write, hnames, rfl, hcontent, rfl⟩
  · exact .inl rfl
  · by_cases hplace : place = written
    · subst hplace
      exact .inr ⟨hnames, write, List.mem_singleton_self write, hcontent,
        FileSystem.node?_set_self fs _ hnames.ne_nil⟩
    · exact .inl (FileSystem.node?_set_of_ne fs _ hplace)

/-- An update that goes through leaves the file that was to be written, or one that has been there and
tells the same checksum. -/
theorem exists_of_ok {result : WriteResult}
    (h : Updated path lineBreak content fs writes (.ok result) fs') :
    ∃ place bytes, fs.Names path place ∧ fs'.node? place = some (.file bytes) ∧
      Written lineBreak content bytes := by
  cases h with
  | unchanged hnames hnode htold => exact ⟨_, _, hnames, hnode, .inr htold⟩
  | overwritten hnames | created hnames =>
    exact ⟨_, _, hnames, FileSystem.node?_set_self fs _ hnames.ne_nil, .inl rfl⟩

/-- Only the place of the file changes. -/
theorem node?_of_ne {directory file : String} {inner : Path} {place other : Location}
    (hfile : IsFileName file) (hinner : Path.ofText directory = .ok inner)
    (hplace : fs.find inner = .ok (.found place .directory))
    (h : Updated (join directory file) lineBreak content fs writes r fs')
    (hne : other ≠ file :: place) : fs'.node? other = fs.node? other := by
  rcases h.node?_eq_or other with hsame | ⟨hnames, -⟩
  · exact hsame
  · exact absurd (FileSystem.eq_of_names_join hfile hinner hplace hnames) hne

/-- After an update that goes through, the file is in the directory. -/
theorem exists_of_ok_join {directory file : String} {inner : Path} {place : Location}
    {result : WriteResult} (hfile : IsFileName file)
    (hinner : Path.ofText directory = .ok inner)
    (hplace : fs.find inner = .ok (.found place .directory))
    (h : Updated (join directory file) lineBreak content fs writes (.ok result) fs') :
    ∃ bytes, fs.Names (join directory file) (file :: place) ∧
      fs'.node? (file :: place) = some (.file bytes) ∧ Written lineBreak content bytes := by
  obtain ⟨place', bytes, hnames, hnode, hwritten⟩ := h.exists_of_ok
  obtain rfl := FileSystem.eq_of_names_join hfile hinner hplace hnames
  exact ⟨bytes, hnames, hnode, hwritten⟩

end Updated

/-! ### Both files -/

/-- What is reported of an attempt to bring a file up to date. -/
def reports (file : String) : Except Failure WriteResult → List Event
  | .ok result => [.written file result]
  | .error _ => []

/-- A file of the output directory is brought up to date, and that is reported.

**Proof sketch.** The report comes after everything that is done to the file (`updated_of_takes`), and
only if this has gone well. It is no write, so the writes to the file are those of the first part. -/
theorem takes_updateFile {directory lineBreak file content : String} {w w' : World}
    {steps : List Step} {r : Except Failure Unit}
    (h : Takes (updateFile directory lineBreak file content).run w steps r w') :
    ∃ result fs, Updated (join directory file) lineBreak content w.files
        (writesTo (join directory file) steps) result fs ∧
      r = result.map (fun _ => ()) ∧
      w' = { w with files := fs, events := w.events ++ reports file result } := by
  rw [run_updateFile] at h
  obtain ⟨first, rest, result, v, rfl, hwrite, hrest⟩ := h.bind_inv
  obtain ⟨fs, rfl, hupdated⟩ := updated_of_takes hwrite
  refine ⟨result, fs, ?_⟩
  cases result with
  | error e =>
    obtain ⟨rfl, rfl, rfl⟩ := hrest.done_inv
    rw [List.append_nil]
    exact ⟨hupdated, rfl, by rw [reports, List.append_nil]⟩
  | ok result =>
    obtain ⟨fault, rest, rfl, hdone⟩ := hrest.ask_inv
    rw [World.answer_report] at hdone
    obtain ⟨rfl, rfl, rfl⟩ := hdone.done_inv
    have hreport : writesTo (join directory file) [⟨.report (.written file result), fault⟩] = [] := rfl
    rw [Script.writesTo_append, hreport, List.append_nil]
    exact ⟨hupdated, rfl, rfl⟩

/-- A directory is created where nothing was, or nothing happens. -/
theorem takes_createDirectory {directory : String} {w w' : World} {steps : List Step}
    {r : Except Failure Unit} (h : Takes (.ask (.createDirectory directory) fun x =>
      .done (x.mapError (Failure.directory directory))) w steps r w') :
    (r = .ok () ∧ ∃ path place, Path.ofText directory = .ok path ∧
      w.files.LeadsTo path place ∧ w.files.node? place = none ∧
      w' = { w with files := w.files.set place .directory }) ∨
    ∃ e, r = .error e ∧ w' = w := by
  obtain ⟨fault, rest, rfl, hrest⟩ := h.ask_inv
  cases fault with
  | some fault => exact .inr ⟨_, hrest.done_inv.2⟩
  | none =>
    rw [World.answer, World.perform] at hrest
    cases hfiles : w.files.createDirectory directory with
    | error e =>
      rw [hfiles] at hrest
      exact .inr ⟨_, hrest.done_inv.2⟩
    | ok fs =>
      obtain ⟨path, place, hpath, hleads, hnode, rfl⟩ := FileSystem.leadsTo_of_createDirectory hfiles
      rw [hfiles] at hrest
      obtain ⟨-, rfl, rfl⟩ := hrest.done_inv
      exact .inl ⟨rfl, path, place, hpath, hleads, hnode, rfl⟩

/-- The output directory is there, is created, or nothing happens.

**Proof sketch.** The directory is looked for. If it is found nothing else happens, and if it is not, or
if even the looking fails, it is created (`takes_createDirectory`). -/
theorem takes_prepare {directory : String} {w w' : World} {steps : List Step}
    {r : Except Failure Unit} (h : Takes (prepare directory).run w steps r w') :
    (r = .ok () ∧ w' = w ∧ w.files.has directory = true) ∨
    (r = .ok () ∧ ∃ path place, Path.ofText directory = .ok path ∧
      w.files.LeadsTo path place ∧ w.files.node? place = none ∧
      w' = { w with files := w.files.set place .directory }) ∨
    ∃ e, r = .error e ∧ w' = w := by
  rw [run_prepare] at h
  obtain ⟨fault, rest, rfl, hrest⟩ := h.ask_inv
  cases fault with
  | some fault => exact .inr (takes_createDirectory hrest)
  | none =>
    rw [World.answer, World.perform] at hrest
    cases hexists : w.files.has directory with
    | false =>
      rw [hexists] at hrest
      exact .inr (takes_createDirectory hrest)
    | true =>
      rw [hexists] at hrest
      obtain ⟨-, rfl, rfl⟩ := hrest.done_inv
      exact .inl ⟨rfl, rfl, rfl⟩

/-- Preparing the output directory writes no file. -/
theorem writesTo_of_prepare {directory : String} {w w' : World} {steps : List Step}
    {r : Except Failure Unit} (h : Takes (prepare directory).run w steps r w') (path : String) :
    writesTo path steps = [] := by
  rw [run_prepare] at h
  obtain ⟨fault, rest, rfl, hrest⟩ := h.ask_inv
  split at hrest
  · obtain ⟨rfl, -⟩ := hrest.done_inv
    rfl
  · obtain ⟨fault, rest, rfl, hdone⟩ := hrest.ask_inv
    obtain ⟨rfl, -⟩ := hdone.done_inv
    rfl

/-- Both files are brought up to date one after the other, once the directory is there.

**Proof sketch.** The steps of a script that goes on with another one are the steps of the two
(`Takes.bind_inv`), which is used at each of the three joints. A directory that is not there ends the
run at the first one. -/
theorem takes_writeFiles {documents : Documents} {directory lineBreak : String} {w w' : World}
    {steps : List Step} {r : Except Failure Unit}
    (h : Takes (writeFiles documents directory lineBreak).run w steps r w') :
    ∃ first prepared v, Takes (prepare directory).run w first prepared v ∧
      ((∃ e, prepared = .error e ∧ steps = first ∧ r = .error e ∧ w' = v) ∨
        prepared = .ok () ∧ ∃ second third queries schema u, steps = first ++ second ++ third ∧
          Takes (updateFile directory lineBreak queriesFileName documents.queries).run v second
            queries u ∧
          Takes (updateFile directory lineBreak schemaFileName documents.schema).run u third
            schema w' ∧
          r = both queries schema) := by
  rw [run_writeFiles] at h
  obtain ⟨first, rest, prepared, v, rfl, hprepare, hrest⟩ := h.bind_inv
  refine ⟨first, prepared, v, hprepare, ?_⟩
  cases prepared with
  | error e =>
    obtain ⟨rfl, rfl, rfl⟩ := hrest.done_inv
    exact .inl ⟨e, rfl, List.append_nil first, rfl, rfl⟩
  | ok =>
    obtain ⟨second, rest, queries, u, rfl, hqueries, hrest⟩ := hrest.bind_inv
    obtain ⟨third, rest, schema, u', rfl, hschema, hdone⟩ := hrest.bind_inv
    obtain ⟨rfl, rfl, rfl⟩ := hdone.done_inv
    exact .inr ⟨rfl, second, third, queries, schema, u, by simp, hqueries, hschema, rfl⟩

/-- Both output files are in the directory, and each of them holds what was to be written, or tells the
same checksum. -/
structure Settled (directory lineBreak : String) (documents : Documents) (fs : FileSystem)
    (place : Location) : Prop where
  found : ∃ inner, Path.ofText directory = .ok inner ∧
    fs.find inner = .ok (.found place .directory)
  written : ∀ o ∈ outputFiles, ∃ bytes, fs.Names (join directory o.1) (o.1 :: place) ∧
    fs.node? (o.1 :: place) = some (.file bytes) ∧ Written lineBreak (o.2 documents) bytes

/-- The output files are settled after both updates have gone through: the second one leaves the first
file as it is. -/
theorem settled_of_updated {directory lineBreak : String} {documents : Documents}
    {inner : Path} {place : Location} {fs fs' fs'' : FileSystem} {writes writes' : List Write}
    {queries schema : WriteResult} (hinner : Path.ofText directory = .ok inner)
    (hplace : fs.find inner = .ok (.found place .directory))
    (hqueries : Updated (join directory queriesFileName) lineBreak documents.queries fs writes
      (.ok queries) fs')
    (hschema : Updated (join directory schemaFileName) lineBreak documents.schema fs' writes'
      (.ok schema) fs'') : Settled directory lineBreak documents fs'' place := by
  have hplace' := hqueries.grows.find_directory hplace
  obtain ⟨old, hnames, hnode, hold⟩ := hqueries.exists_of_ok_join isFileName_queries hinner hplace
  obtain ⟨new, hnames', hnode', hnew⟩ := hschema.exists_of_ok_join isFileName_schema hinner hplace'
  have hne : queriesFileName :: place ≠ schemaFileName :: place := fun heq =>
    absurd (List.cons.inj heq).1 (by decide)
  refine ⟨⟨inner, hinner, hschema.grows.find_directory hplace'⟩,
    List.forall_mem_cons.mpr ⟨⟨old, ?_, ?_, hold⟩, List.forall_mem_singleton.mpr ⟨new, ?_, hnode', hnew⟩⟩⟩
  · exact (hnames.mono hqueries.grows).mono hschema.grows
  · exact (hschema.node?_of_ne isFileName_schema hinner hplace' hne).trans hnode
  · exact hnames'.mono hschema.grows

end SchemaQueries.Output
