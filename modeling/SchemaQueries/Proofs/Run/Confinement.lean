import SchemaQueries.Proofs.Output.Confinement
import SchemaQueries.Proofs.Run.Repeating

/-!
# What a run may change

Everything that can fail on the way to the documents comes before anything is written. So a run that
fails there leaves all files as they are, and has not even created the output directory. Any other run
changes at most the output directory and the output files, also if it fails, as long as no write breaks
off.

## Main definitions

* `RunError.BeforeOutput` — the failures that come before anything is written.
* `Run.Prepared` — the options of a run and the documents that it is to write.

## Main results

* `Run.unchanged_or_confined` — what every run leaves behind.
-/

set_option autoImplicit false
set_option relaxedAutoImplicit false

namespace SchemaQueries

open Script (FailsWith Reads Runs)

/-- The run has failed before it writes anything. -/
def RunError.BeforeOutput : RunError → Prop
  | .output _ => False
  | _ => True

namespace Run

variable {arguments : CommandLine.Arguments} {options : Options} {w w' : World}

/-! ### What is only read -/

/-- Reading a config changes no file. -/
theorem reads_readConfig (path : String) :
    (readConfig path).run.Reads (FailsWith RunError.BeforeOutput) := by
  unfold readConfig
  refine Reads.perform_bind trivial fun found => ?_
  cases found with
  | false => exact .pure none
  | true =>
    refine Reads.perform_bind trivial fun bytes => ?_
    apply (Reads.known fun _ => trivial).bindE
    intro text
    apply (Reads.known fun _ => trivial).bindE
    intro config
    exact .pure (some config)

/-- Finding the config changes no file. -/
theorem reads_findConfig (arguments : CommandLine.Arguments) :
    (findConfig arguments).run.Reads (FailsWith RunError.BeforeOutput) := by
  unfold findConfig
  cases arguments.config with
  | none => exact reads_readConfig defaultConfigPath
  | some path =>
    apply (reads_readConfig path).bindE
    intro found
    cases found with
    | some config => exact .pure (some config)
    | none => exact .done fun e he => by cases he; trivial

/-- Fetching a schema changes no file. -/
theorem reads_fetch (source : Source) :
    (fetch source).run.Reads (FailsWith RunError.BeforeOutput) := by
  cases source with
  | file path =>
    refine Reads.perform_bind trivial fun _ => ?_
    refine Reads.perform_bind trivial fun bytes => ?_
    exact .known fun _ => trivial
  | pipe =>
    refine Reads.perform_bind trivial fun _ => ?_
    refine Reads.perform_bind trivial fun bytes => ?_
    exact .known fun _ => trivial
  | endpoint text =>
    refine Reads.perform_bind trivial fun _ => ?_
    apply (Reads.known fun _ => trivial).bindE
    intro url
    refine Reads.perform_bind trivial fun outcome => ?_
    exact .known fun _ => trivial

/-- A text that is not a schema is a failure that comes before anything is written. -/
theorem beforeOutput_of_readSchema {text : String} {format : SourceFormat} {e : RunError}
    (h : readSchema text format = .error e) : e.BeforeOutput := by
  cases format with
  | sdl =>
    obtain ⟨e', -, rfl⟩ := Steps.mapError_eq_error_iff.mp h
    trivial
  | introspection =>
    obtain ⟨e', -, rfl⟩ := Steps.mapError_eq_error_iff.mp h
    trivial

/-! ### A run as a whole -/

/-- These are the options of the run, and the documents that it is to write. -/
def Prepared (arguments : CommandLine.Arguments) (w : World) (options : Options)
    (written : Output.Documents) : Prop :=
  ∃ config text schema queries v u,
    Runs (findConfig arguments).run w (.ok config) v ∧
    Options.resolve arguments config = .ok options ∧
    Runs (fetch options.source).run v (.ok text) u ∧
    readSchema text options.format = .ok schema ∧
    derive schema = .ok queries ∧
    written = documents options.indent schema queries

/-- Doing what the options say either fails before anything is written, or comes to the documents and
writes them.

**Proof sketch.** The run is taken apart where its scripts are joined (`Runs.bindE_inv`): fetching the
text, reading it, deriving the queries, and writing. Fetching changes no file, whatever fails, reading
and deriving ask for nothing, and a report in between leaves the files alone. -/
theorem runs_execute {r : Except RunError Unit} (h : Runs (execute options).run w r w') :
    (∃ e, r = .error e ∧ e.BeforeOutput ∧ w'.files = w.files) ∨
      ∃ text schema queries u v x,
        Runs (fetch options.source).run w (.ok text) u ∧
        readSchema text options.format = .ok schema ∧ derive schema = .ok queries ∧
        v.files = w.files ∧
        Runs (Output.writeFiles (documents options.indent schema queries) options.outputDirectory
          options.lineBreak).run v x w' ∧
        r = x.mapError .output := by
  unfold execute at h
  rcases h.bindE_inv with ⟨e, hfetch, rfl⟩ | ⟨text, u, hfetch, hrest⟩
  · obtain ⟨hbefore, hfiles⟩ := hfetch.of_reads (reads_fetch options.source)
    exact .inl ⟨e, rfl, hbefore e rfl, hfiles⟩
  obtain ⟨-, hfiles⟩ := hfetch.of_reads (reads_fetch options.source)
  rcases hrest.bindE_inv with ⟨e, hread, rfl⟩ | ⟨schema, u, hread, hloaded⟩
  · obtain ⟨he, rfl⟩ := hread.known_inv
    obtain ⟨e', he', rfl⟩ := Steps.mapError_eq_error_iff.mp he.symm
    exact .inl ⟨e', rfl, beforeOutput_of_readSchema he', hfiles⟩
  obtain ⟨hschema, rfl⟩ := hread.known_inv
  obtain ⟨v, hv, hderiving⟩ := hloaded.report_inv
  rcases hderiving.bindE_inv with ⟨e, hderive, rfl⟩ | ⟨queries, v, hderive, hgenerated⟩
  · obtain ⟨he, rfl⟩ := hderive.known_inv
    obtain ⟨e', -, rfl⟩ := Steps.mapError_eq_error_iff.mp he.symm
    exact .inl ⟨.derivation e', rfl, trivial, hv.trans hfiles⟩
  obtain ⟨hqueries, rfl⟩ := hderive.known_inv
  obtain ⟨v', hv', houtput⟩ := hgenerated.report_inv
  obtain ⟨x, hwrite, rfl⟩ := houtput.orFail_inv
  exact .inr ⟨text, schema, queries, u, v', x, hfetch, Steps.mapError_eq_ok_iff.mp hschema.symm,
    Steps.mapError_eq_ok_iff.mp hqueries.symm, hv'.trans (hv.trans hfiles), hwrite, rfl⟩

/-- **What a run may change.** A run that fails before it writes anything leaves all files and
directories as they are. Any other run, whether it goes through or fails while it writes, has got
documents to write, and changes nothing but the output directory and the output files. Each of these
files is then as it was before, or holds its header and its new content as a whole. In the run any action
may fail, but that a report does not, that sending a text fails only as the endpoint says, and that no
write breaks off (`Script.Runs`).

**Proof sketch.** The config, the options, the schema and its queries come first, and finding them
changes no file (`Script.Runs.of_reads`). What is left is writing the output files
(`Output.confined_of_runs`). -/
theorem unchanged_or_confined {r : Except RunError Unit} (h : Runs (run arguments).run w r w') :
    (∃ e, r = .error e ∧ e.BeforeOutput ∧ w'.files = w.files) ∨
      ((r = .ok () ∨ ∃ failure, r = .error (.output failure)) ∧
        ∃ options written, Prepared arguments w options written ∧
          Output.Confined options.outputDirectory options.lineBreak written w.files w'.files) := by
  unfold run at h
  rcases h.bindE_inv with ⟨e, hconfig, rfl⟩ | ⟨config, v, hconfig, hrest⟩
  · obtain ⟨hbefore, hfiles⟩ := hconfig.of_reads (reads_findConfig arguments)
    exact .inl ⟨e, rfl, hbefore e rfl, hfiles⟩
  obtain ⟨-, hfiles⟩ := hconfig.of_reads (reads_findConfig arguments)
  rcases hrest.bindE_inv with ⟨e, hresolve, rfl⟩ | ⟨options, v, hresolve, hexecute⟩
  · obtain ⟨he, rfl⟩ := hresolve.known_inv
    obtain ⟨e', -, rfl⟩ := Steps.mapError_eq_error_iff.mp he.symm
    exact .inl ⟨.options e', rfl, trivial, hfiles⟩
  obtain ⟨hoptions, rfl⟩ := hresolve.known_inv
  have hoptions' := Steps.mapError_eq_ok_iff.mp hoptions.symm
  rcases runs_execute hexecute with ⟨e, rfl, hbefore, hsame⟩ |
    ⟨text, schema, queries, u, v, x, hfetch, hschema, hqueries, hv, hwrite, rfl⟩
  · exact .inl ⟨e, rfl, hbefore, hsame.trans hfiles⟩
  · have hconfined := Output.confined_of_runs hwrite
    rw [hv, hfiles] at hconfined
    refine .inr ⟨?_, options, _,
      ⟨config, text, schema, queries, _, u, hconfig, hoptions', hfetch, hschema, hqueries, rfl⟩,
      hconfined⟩
    cases x with
    | ok _ => exact .inl rfl
    | error failure => exact .inr ⟨failure, rfl⟩

/-- A world in which there is a directory in the place of the file for the schema. -/
def blockedWorld : World :=
  { scalarWorld [] with
    files := ((scalarWorld []).files.set ["out", "work"] .directory).set
      [Output.schemaFileName, "out", "work"] .directory }

/-- There the file with the queries is created and the run fails, and nothing else has changed. -/
theorem confined_blocked : ∃ w' options written,
    Runs (run (scalarArguments "out")).run blockedWorld
      (.error (.output (.readHeader "out/schema.graphql" (.system .isDirectory)))) w' ∧
    blockedWorld.files.node? [Output.queriesFileName, "out", "work"] = none ∧
    (w'.files.node? [Output.queriesFileName, "out", "work"]).isSome ∧
    Prepared (scalarArguments "out") blockedWorld options written ∧
    Output.Confined options.outputDirectory options.lineBreak written blockedWorld.files w'.files := by
  have hresult : ((run (scalarArguments "out")).run.run blockedWorld).1 =
      .error (.output (.readHeader "out/schema.graphql" (.system .isDirectory))) := by decide +kernel
  have hcreated : (((run (scalarArguments "out")).run.run blockedWorld).2.files.node?
      [Output.queriesFileName, "out", "work"]).isSome := by decide +kernel
  have hruns := Script.runs_run (run (scalarArguments "out")).run blockedWorld
  rw [hresult] at hruns
  rcases unchanged_or_confined hruns with ⟨e, he, hbefore, -⟩ | ⟨-, options, written, hrest⟩
  · cases he
    exact hbefore.elim
  · exact ⟨_, options, written, hruns, by decide, hcreated, hrest⟩

end Run

end SchemaQueries
