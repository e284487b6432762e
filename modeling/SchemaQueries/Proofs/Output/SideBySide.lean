import SchemaQueries.Proofs.Interleaving
import SchemaQueries.Proofs.Output.Repeating

/-!
# Writing the output files side by side

The two output files are brought up to date by two tasks that run side by side: their steps may come in
any order, and any step of either task may fail. What becomes of a file depends only on what its own path
leads to at the beginning and on what its own task meets, and a task changes nothing that the other one
asks for. So all orders come to the same.

## Main definitions

* `Output.WritesSideBySide` — a call that brings both output files up to date side by side.
* `Output.writeFilesReversed` — a call that begins with the file for the schema.

## Main results

* `Output.about_updateFile` — a task asks for its own file only.
* `Output.WritesSideBySide.exists_takes` — the tasks may as well run one after the other.
* `Output.eq_of_writesSideBySide` — writing side by side comes to what writing one after the other does.

## Implementation notes

Which steps fail is given from outside, and for each task on its own. A limit that the tasks share, as the
space on a device, may make the one or the other of them fail; runs in different orders are compared where
each task meets the same failures.
-/

set_option autoImplicit false
set_option relaxedAutoImplicit false

namespace SchemaQueries.Output

open FileSystem (Siblings join)
open Script (Interleaves Step Takes)

variable {documents : Documents} {directory lineBreak : String} {w w' : World}
  {preparing queries schema : List Step} {r : Except Failure Unit}

/-! ### One task -/

/-- Storing a file is about that file. -/
theorem about_store (path : String) (content : Bytes) (result : WriteResult) :
    (store path content result).About path := by
  unfold store
  refine .ask rfl fun x => ?_
  exact .done _

/-- Bringing a file up to date is about that file. -/
theorem about_writeFile (path lineBreak content : String) :
    (writeFile path lineBreak content).run.About path := by
  rw [run_writeFile]
  refine .ask rfl fun found => ?_
  split
  · refine .ask rfl fun line => ?_
    split
    · exact .done _
    · split
      · exact .done _
      · refine .ask rfl fun x => ?_
        split
        · exact .done _
        · exact about_store _ _ _
  · refine .ask rfl fun x => ?_
    split
    · exact .done _
    · exact about_store _ _ _

/-- So it is with a file in a directory, which is reported as well. -/
theorem about_updateFile (directory lineBreak file content : String) :
    (updateFile directory lineBreak file content).run.About (join directory file) := by
  rw [run_updateFile]
  apply (about_writeFile _ _ _).bind
  intro x
  split
  · refine .ask trivial fun _ => ?_
    exact .done _
  · exact .done _

/-! ### Both tasks -/

/-- Brings both output files up to date side by side: the directory is created if it is missing, then
there is a task for each file, and both are waited for. The steps are those of the preparation, of the
task for the queries and of the task for the schema. -/
inductive WritesSideBySide (documents : Documents) (directory lineBreak : String) :
    World → List Step → List Step → List Step → Except Failure Unit → World → Prop
  | unprepared {w w' : World} {preparing : List Step} {e : Failure} :
      Takes (prepare directory).run w preparing (.error e) w' →
      WritesSideBySide documents directory lineBreak w preparing [] [] (.error e) w'
  | prepared {w v w' : World} {preparing queries schema : List Step} {r r' : Except Failure Unit} :
      Takes (prepare directory).run w preparing (.ok ()) v →
      Interleaves (updateFile directory lineBreak queriesFileName documents.queries).run
        (updateFile directory lineBreak schemaFileName documents.schema).run v queries schema r r' w' →
      WritesSideBySide documents directory lineBreak w preparing queries schema (both r r') w'

/-- Brings both output files up to date in a directory that is there, the one for the schema first. -/
def updateFilesReversed (documents : Documents) (directory lineBreak : String) :
    Script (Except Failure Unit) := do
  let schema ← (updateFile directory lineBreak schemaFileName documents.schema).run
  let queries ← (updateFile directory lineBreak queriesFileName documents.queries).run
  return both queries schema

/-- Brings both output files up to date, the one for the schema first. -/
def writeFilesReversed (documents : Documents) (directory lineBreak : String) :
    ExceptT Failure Script Unit := do
  prepare directory
  ExceptT.mk (updateFilesReversed documents directory lineBreak)

/-- Two attempts come through exactly if each of them does. -/
theorem both_eq_ok_iff {queries schema : Except Failure Unit} :
    both queries schema = .ok () ↔ queries = .ok () ∧ schema = .ok () := by
  cases queries with
  | error e => simp [both]
  | ok _ => simp [both]

/-- They fail if one of them does. -/
theorem exists_both_eq_error {queries schema : Except Failure Unit}
    (h : (∃ e, queries = .error e) ∨ ∃ e, schema = .error e) : ∃ e, both queries schema = .error e := by
  rcases h with ⟨e, rfl⟩ | ⟨e, rfl⟩
  · exact ⟨e, rfl⟩
  · cases queries with
    | error e' => exact ⟨e', rfl⟩
    | ok _ => exact ⟨e, rfl⟩

/-- The output files are siblings in a directory that is there. -/
theorem siblings_of_prepare (h : Takes (prepare directory).run w preparing (.ok ()) w') :
    Siblings directory queriesFileName schemaFileName where
  directory := by
    obtain ⟨inner, hinner, -⟩ := exists_of_prepare h
    exact ⟨inner, hinner⟩
  fileName := isFileName_queries
  fileName' := isFileName_schema
  ne := by decide

/-- The file for the schema and then the file for the queries, once the directory is there. -/
theorem run_writeFilesReversed (documents : Documents) (directory lineBreak : String) :
    (writeFilesReversed documents directory lineBreak).run =
      (prepare directory).run.bind fun
        | .ok _ =>
          (updateFile directory lineBreak schemaFileName documents.schema).run.bind fun schema =>
            (updateFile directory lineBreak queriesFileName documents.queries).run.bind fun queries =>
              .done (both queries schema)
        | .error e => .done (.error e) := by
  unfold writeFilesReversed
  rw [Script.run_bindE]
  exact congrArg (Script.bind _) (funext fun x => by cases x <;> rfl)

/-- A call whose preparation fails ends there. -/
theorem takes_writeFiles_of_error {e : Failure}
    (h : Takes (prepare directory).run w preparing (.error e) w') :
    Takes (writeFiles documents directory lineBreak).run w preparing (.error e) w' ∧
      Takes (writeFilesReversed documents directory lineBreak).run w preparing (.error e) w' := by
  rw [run_writeFiles, run_writeFilesReversed, ← List.append_nil preparing]
  exact ⟨h.bind (.done _ w'), h.bind (.done _ w')⟩

/-- One task after the other makes a call, the one for the queries first. -/
theorem takes_writeFiles_of_ok {v u : World} {r r' : Except Failure Unit}
    (h : Takes (prepare directory).run w preparing (.ok ()) v)
    (hqueries : Takes (updateFile directory lineBreak queriesFileName documents.queries).run v queries
      r u)
    (hschema : Takes (updateFile directory lineBreak schemaFileName documents.schema).run u schema
      r' w') :
    Takes (writeFiles documents directory lineBreak).run w (preparing ++ queries ++ schema)
      (both r r') w' := by
  rw [run_writeFiles, List.append_assoc, ← List.append_nil schema]
  exact h.bind (hqueries.bind (hschema.bind (.done (both r r') w')))

/-- So it is with the task for the schema first. -/
theorem takes_writeFilesReversed_of_ok {v u : World} {r r' : Except Failure Unit}
    (h : Takes (prepare directory).run w preparing (.ok ()) v)
    (hschema : Takes (updateFile directory lineBreak schemaFileName documents.schema).run v schema
      r' u)
    (hqueries : Takes (updateFile directory lineBreak queriesFileName documents.queries).run u queries
      r w') :
    Takes (writeFilesReversed documents directory lineBreak).run w (preparing ++ schema ++ queries)
      (both r r') w' := by
  rw [run_writeFilesReversed, List.append_assoc, ← List.append_nil queries]
  exact h.bind (hschema.bind (hqueries.bind (.done (both r r') w')))

namespace WritesSideBySide

/-- The tasks may as well run one after the other, each of them with its steps, the one for the queries
first. -/
theorem exists_takes (h : WritesSideBySide documents directory lineBreak w preparing queries schema r w') :
    ∃ w₁, Takes (writeFiles documents directory lineBreak).run w (preparing ++ queries ++ schema) r w₁ ∧
      w'.files.Same w₁.files := by
  cases h with
  | unprepared hprepare =>
    rw [List.append_nil, List.append_nil]
    exact ⟨w', (takes_writeFiles_of_error hprepare).1, .refl _⟩
  | prepared hprepare hinterleaves =>
    obtain ⟨v, w₁, hqueries, hschema, hsame⟩ := hinterleaves.exists_takes
      (siblings_of_prepare hprepare) (about_updateFile _ _ _ _) (about_updateFile _ _ _ _)
    exact ⟨w₁, takes_writeFiles_of_ok hprepare hqueries hschema, hsame⟩

/-- So they may with the one for the schema first. -/
theorem exists_takes_reversed
    (h : WritesSideBySide documents directory lineBreak w preparing queries schema r w') :
    ∃ w₂, Takes (writeFilesReversed documents directory lineBreak).run w
        (preparing ++ schema ++ queries) r w₂ ∧ w'.files.Same w₂.files := by
  cases h with
  | unprepared hprepare =>
    rw [List.append_nil, List.append_nil]
    exact ⟨w', (takes_writeFiles_of_error hprepare).2, .refl _⟩
  | prepared hprepare hinterleaves =>
    obtain ⟨v, w₂, hschema, hqueries, hsame⟩ := hinterleaves.symm.exists_takes
      (siblings_of_prepare hprepare).symm (about_updateFile _ _ _ _) (about_updateFile _ _ _ _)
    exact ⟨w₂, takes_writeFilesReversed_of_ok hprepare hschema hqueries, hsame⟩

end WritesSideBySide

/-- Where nothing fails, the result and the files are those of the run that writes one file after the
other. -/
theorem run_writeFiles_of_writesSideBySide
    (h : WritesSideBySide documents directory lineBreak w preparing queries schema r w')
    (hfree : ∀ step ∈ preparing ++ queries ++ schema, step.fault = none) :
    ∃ w₁, (writeFiles documents directory lineBreak).run.run w = (r, w₁) ∧
      w'.files.Same w₁.files := by
  obtain ⟨w₁, htakes, hsame⟩ := h.exists_takes
  exact ⟨w₁, htakes.run_eq hfree, hsame⟩

/-- One task after the other is one of the orders. -/
theorem writesSideBySide_of_takes {steps : List Step}
    (h : Takes (writeFiles documents directory lineBreak).run w steps r w') :
    ∃ preparing queries schema, steps = preparing ++ queries ++ schema ∧
      WritesSideBySide documents directory lineBreak w preparing queries schema r w' := by
  obtain ⟨first, prepared, v, hprepare, hfiles⟩ := takes_writeFiles h
  rcases hfiles with ⟨e, rfl, rfl, rfl, rfl⟩ |
    ⟨rfl, second, third, queries, schema, u, rfl, hqueries, hschema, rfl⟩
  · exact ⟨steps, [], [], by simp, .unprepared hprepare⟩
  · exact ⟨first, second, third, rfl,
      .prepared hprepare (Script.interleaves_of_takes hqueries hschema)⟩

/-- Whatever else is in the world, and whatever else happens in it: with these steps the task for the file
comes to this result if the path to the file leads to the same as in the first file system, and then it
leads to the same as in the second one. -/
def ComesTo (directory lineBreak file content : String) (steps : List Step) (fs fs' : FileSystem)
    (result : Except Failure Unit) : Prop :=
  ∀ u : World, u.files.locate (join directory file) = fs.locate (join directory file) →
    ∃ u', Takes (updateFile directory lineBreak file content).run u steps result u' ∧
      u'.files.locate (join directory file) = fs'.locate (join directory file)

/-- **Writing side by side.** In whatever order the steps of the two tasks come, and whichever of them
fail, the result and the files afterwards are those of writing one file after the other with the same
failures, no matter which one is first. What becomes of each file is told by its content, by what its own
path leads to and by the failures of its own task, so a task does its work no matter whether the other
one fails. All goes well exactly if both tasks do, and where both fail, the failure that is told is that
of the file with the queries.

**Proof sketch.** Each task asks only for its own file, and the two files are siblings in the directory
that has been prepared. So all orders come to the same (`WritesSideBySide.exists_takes`), and each of the
tasks to what it comes to alone (`Script.Interleaves.own`). -/
theorem eq_of_writesSideBySide
    (h : WritesSideBySide documents directory lineBreak w preparing queries schema r w') :
    (∃ w₁, Takes (writeFiles documents directory lineBreak).run w (preparing ++ queries ++ schema) r w₁ ∧
      w'.files.Same w₁.files) ∧
    (∃ w₂, Takes (writeFilesReversed documents directory lineBreak).run w
        (preparing ++ schema ++ queries) r w₂ ∧ w'.files.Same w₂.files) ∧
    ∀ v, Takes (prepare directory).run w preparing (.ok ()) v → ∃ result result',
      ComesTo directory lineBreak queriesFileName documents.queries queries v.files w'.files result ∧
      ComesTo directory lineBreak schemaFileName documents.schema schema v.files w'.files result' ∧
      (r = .ok () ↔ result = .ok () ∧ result' = .ok ()) ∧
      (∀ e, result = .error e → r = .error e) ∧
      (∀ e, result = .ok () → result' = .error e → r = .error e) := by
  refine ⟨h.exists_takes, h.exists_takes_reversed, fun v hv => ?_⟩
  cases h with
  | unprepared hprepare => cases (hprepare.unique hv rfl).2.1
  | prepared hprepare hinterleaves =>
    obtain ⟨-, -, rfl⟩ := hprepare.unique hv rfl
    have hsiblings := siblings_of_prepare hprepare
    refine ⟨_, _, fun u hu => ?_, fun u hu => ?_, both_eq_ok_iff, ?_, ?_⟩
    · exact hinterleaves.own hsiblings (about_updateFile _ _ _ _) (about_updateFile _ _ _ _) hu
    · exact hinterleaves.symm.own hsiblings.symm (about_updateFile _ _ _ _)
        (about_updateFile _ _ _ _) hu
    · rintro e rfl
      rfl
    · rintro e rfl rfl
      rfl

/-- An empty output directory in an empty working directory. -/
def emptyOutput : World where
  files := ⟨[(["work"], .directory), (["out", "work"], .directory)], ["work"]⟩
  input := []
  endpoint := fun _ _ => .noConnection .networkUnreachable
  events := []

/-- The device is full when so many bytes have been written. -/
def noSpace (written : Nat) : Fault :=
  ⟨.other 28 "No space left on device", false, written⟩

/-- The tasks for both files, in turns. The one for the queries runs out of space after three bytes. -/
def crossedTasks : (List Step × List Step) × Except Failure Unit × Except Failure Unit × World :=
  Script.weave [true, false, true, false, true, false]
    (updateFile "out" "\n" queriesFileName "query").run
    (updateFile "out" "\n" schemaFileName "schema").run [none, none, some (noSpace 3)] [] emptyOutput

/-- The task for the queries runs out of space, while the task for the schema goes on and writes its file
as a whole.

**Proof sketch.** The directory is there, and the two tasks are woven by an order of turns
(`Script.interleaves_weave`). The statement about all such runs gives the two runs one after the other,
and what stands in the files is computed. -/
theorem eq_of_writesSideBySide_noSpace : ∃ queries schema w' w₁ w₂,
    WritesSideBySide ⟨"query", "schema"⟩ "out" "\n" emptyOutput [⟨.pathExists "out", none⟩] queries schema
      (.error (.write "out/queries.graphql" (noSpace 3).error)) w' ∧
    Takes (writeFiles ⟨"query", "schema"⟩ "out" "\n").run emptyOutput
      ([⟨.pathExists "out", none⟩] ++ queries ++ schema)
      (.error (.write "out/queries.graphql" (noSpace 3).error)) w₁ ∧ w'.files.Same w₁.files ∧
    Takes (writeFilesReversed ⟨"query", "schema"⟩ "out" "\n").run emptyOutput
      ([⟨.pathExists "out", none⟩] ++ schema ++ queries)
      (.error (.write "out/queries.graphql" (noSpace 3).error)) w₂ ∧ w'.files.Same w₂.files ∧
    w'.files.node? [queriesFileName, "out", "work"] =
      some (.file ((fileBytes "\n" "query").take 3)) ∧
    w'.files.node? [schemaFileName, "out", "work"] = some (.file (fileBytes "\n" "schema")) := by
  have hprepare : Takes (prepare "out").run emptyOutput [⟨.pathExists "out", none⟩] (.ok ())
      emptyOutput := by
    rw [run_prepare]
    exact .ask none (.done _ _)
  have hwrites : WritesSideBySide ⟨"query", "schema"⟩ "out" "\n" emptyOutput
      [⟨.pathExists "out", none⟩] crossedTasks.1.1 crossedTasks.1.2
      (both crossedTasks.2.1 crossedTasks.2.2.1) crossedTasks.2.2.2 :=
    .prepared hprepare (Script.interleaves_weave _ _ _ _ _ _)
  have hresult : both crossedTasks.2.1 crossedTasks.2.2.1 =
      .error (.write "out/queries.graphql" (noSpace 3).error) := by decide +kernel
  rw [hresult] at hwrites
  obtain ⟨⟨w₁, htakes, hsame⟩, ⟨w₂, htakes', hsame'⟩, -⟩ := eq_of_writesSideBySide hwrites
  exact ⟨_, _, _, w₁, w₂, hwrites, htakes, hsame, htakes', hsame', by decide +kernel,
    by decide +kernel⟩

end SchemaQueries.Output
