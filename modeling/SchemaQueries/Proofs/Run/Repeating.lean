import Mathlib.Data.Prod.Basic
import SchemaQueries.Proofs.Output.Repeating
import SchemaQueries.Run

/-!
# Running the program again

A run reads the config file, the schema, and what the output files are like. If neither the config nor
the schema is one of the output files, the run does not change what it has read, so the next run reads
the same and finds its output files up to date.

## Main definitions

* `Run.configFor`, `Run.fetched`, `Run.derived` — what a run reads.
* `Run.configPath`, `Run.outputPaths` — the config file and the output files.

## Main results

* `Run.run_findConfig`, `Run.run_fetch` — reading changes nothing.
* `Run.run_execute_eq_ok_iff` — a run goes through exactly if its steps do.
* `Run.run_again` — a run after a run.
* `Run.exists_run_again_overwritten` — a line break without a line feed, and an output directory in the
  place of the config file.
-/

set_option autoImplicit false
set_option relaxedAutoImplicit false

namespace SchemaQueries

/-- What is reported before a schema is fetched. -/
def Source.event : Source → Event
  | .file path => .readingFile path
  | .endpoint url => .fetching url
  | .pipe => .readingInput

namespace Run

open FileSystem (Location)
open Output (EndsHeader Settles outputFiles queriesFileName schemaFileName writeFiles)

variable {w w' : World} {fs fs' : FileSystem} {arguments : CommandLine.Arguments}
  {config : Option Config} {options : Options}

/-! ### The config -/

/-- The path of the config file. -/
def configPath (arguments : CommandLine.Arguments) : String :=
  arguments.config.getD defaultConfigPath

/-- The config in the file at a path. -/
def configAt (fs : FileSystem) (path : String) : Except RunError (Option Config) :=
  if fs.has path then do
    let text ← (textOf (fs.read path)).mapError (.configUnreadable path)
    let config ← (Config.read text.toList).mapError (.invalidConfig path)
    return some config
  else return none

/-- The config that the arguments name. -/
def configFor (fs : FileSystem) (arguments : CommandLine.Arguments) :
    Except RunError (Option Config) :=
  match arguments.config with
  | none => configAt fs defaultConfigPath
  | some path => do
    match ← configAt fs path with
    | some config => return some config
    | none => throw (.configNotFound path)

/-- Reading a config changes nothing. -/
theorem run_readConfig (path : String) (w : World) :
    (readConfig path).run.run w = (configAt w.files path, w) := by
  unfold readConfig configAt
  rw [Script.run_lift_bind, Script.perform_bind, Script.run, World.perform]
  dsimp only
  cases w.files.has path with
  | false => rfl
  | true =>
    rw [if_pos rfl, if_pos rfl, Script.run_lift_bind, Script.perform_bind, Script.run, World.perform]
    exact Script.run_bind_eq rfl fun text => Script.run_bind_eq rfl fun config => rfl

/-- Finding the config changes nothing. -/
theorem run_findConfig (arguments : CommandLine.Arguments) (w : World) :
    (findConfig arguments).run.run w = (configFor w.files arguments, w) := by
  unfold findConfig configFor
  cases arguments.config with
  | none => exact run_readConfig defaultConfigPath w
  | some path =>
    exact Script.run_bind_eq (run_readConfig path w) fun
      | some config => rfl
      | none => rfl

/-- The config depends only on what is found at its path. -/
theorem configFor_congr (h : fs'.lookup (configPath arguments) = fs.lookup (configPath arguments)) :
    configFor fs' arguments = configFor fs arguments := by
  have hat {path : String} (h : fs'.lookup path = fs.lookup path) :
      configAt fs' path = configAt fs path := by
    rw [configAt, configAt, FileSystem.has, FileSystem.read, h]
    rfl
  unfold configFor
  unfold configPath at h
  cases hconfig : arguments.config with
  | none =>
    rw [hconfig] at h
    exact hat h
  | some path =>
    rw [hconfig] at h
    exact congrArg (· >>= _) (hat h)

/-- The path of the config where no flag names one leads to a place in the working directory. -/
theorem names_defaultConfigPath (fs : FileSystem) :
    fs.Names defaultConfigPath (defaultConfigPath :: fs.workingDirectory) :=
  ⟨⟨false, [defaultConfigPath], false⟩, by decide, rfl, [], defaultConfigPath, fs.workingDirectory, rfl,
    by decide, by decide, rfl, rfl⟩

/-- The text of a file that is read. -/
theorem lookup_of_textOf {path text : String} (h : textOf (fs.read path) = .ok text) :
    ∃ content, fs.lookup path = .ok (.file content) := by
  cases hlookup : fs.lookup path with
  | error e =>
    rw [FileSystem.read, hlookup] at h
    cases h
  | ok node =>
    cases node with
    | directory =>
      rw [FileSystem.read, hlookup] at h
      cases h
    | file content => exact ⟨content, rfl⟩

/-- A config that is found is in a file, and one that is not found is missing where no flag names
one.

**Proof sketch.** A flag that names a config is obeyed or the options fail, so the path leads to a file.
Without such a flag the path is that of the config that is looked for by default, which is a single
name. -/
theorem names_configPath (h : configFor fs arguments = .ok config) :
    ∃ place, fs.Names (configPath arguments) place := by
  have hat {path : String} {config : Config} (h : configAt fs path = .ok (some config)) :
      ∃ place, fs.Names path place := by
    unfold configAt at h
    split at h
    · obtain ⟨text, htext, -⟩ := Steps.bind_eq_ok_iff.mp h
      obtain ⟨content, hlookup⟩ := lookup_of_textOf (Steps.mapError_eq_ok_iff.mp htext)
      obtain ⟨place, hnames, -⟩ := FileSystem.names_of_lookup hlookup
      exact ⟨place, hnames⟩
    · cases h
  unfold configFor at h
  unfold configPath
  cases hconfig : arguments.config with
  | none => exact ⟨_, names_defaultConfigPath fs⟩
  | some path =>
    rw [hconfig] at h
    obtain ⟨found, hfound, h⟩ := Steps.bind_eq_ok_iff.mp h
    cases found with
    | none => cases h
    | some config => exact hat hfound

/-! ### The schema -/

/-- The text of the schema. -/
def fetched (w : World) : Source → Except RunError String
  | .file path => (textOf (w.files.read path)).mapError (.fileUnreadable path)
  | .pipe => (textOf (.ok w.input)).mapError .inputUnreadable
  | .endpoint text => do
    let url ← (Network.target text).mapError (.noAnswer text)
    (Network.answer url (w.endpoint url requestBody)).mapError (.noAnswer text)

/-- Fetching a schema is reported, and changes nothing. -/
theorem run_fetch (source : Source) (w : World) :
    (fetch source).run.run w =
      (fetched w source, { w with events := w.events ++ [source.event] }) := by
  cases source with
  | file path => rfl
  | pipe => rfl
  | endpoint text =>
    unfold fetch
    dsimp only
    rw [Script.run_lift_bind, Script.perform_bind, Script.run]
    exact Script.run_bind_eq rfl fun url => rfl

/-- The schema and its queries. -/
def derived (w : World) (options : Options) : Except RunError (Schema.Document × Query.Document) := do
  let text ← fetched w options.source
  let schema ← readSchema text options.format
  let queries ← (derive schema).mapError .derivation
  return (schema, queries)

/-- What is reported before anything is written. -/
def started (options : Options) (schema : Schema.Document) (queries : Query.Document) : List Event :=
  [options.source.event, .loaded schema.definitions.length, .generated queries.operations.length]

/-- Doing what the options say goes through exactly if there are a schema and its queries, and they are
written. -/
theorem run_execute_eq_ok_iff :
    (execute options).run.run w = (.ok (), w') ↔
      ∃ schema queries, derived w options = .ok (schema, queries) ∧
        (writeFiles (documents options.indent schema queries) options.outputDirectory
          options.lineBreak).run.run { w with events := w.events ++ started options schema queries } =
            (.ok (), w') := by
  unfold execute derived
  simp only [Script.run_bind_eq_ok_iff, run_fetch, Script.run_known_eq_ok_iff,
    Script.run_orFail_eq_ok_iff, Steps.bind_eq_ok_iff, Steps.mapError_eq_ok_iff, Prod.mk.injEq]
  constructor
  · rintro ⟨text, _, ⟨htext, rfl⟩, schema, _, ⟨hschema, rfl⟩, _, _, ⟨⟩, queries, _, ⟨hqueries, rfl⟩, _, _,
      ⟨⟩, hwrite⟩
    refine ⟨schema, queries, ⟨text, htext, schema, hschema, queries, hqueries, rfl⟩, ?_⟩
    rwa [List.append_assoc, List.append_assoc] at hwrite
  · rintro ⟨schema, queries, ⟨text, htext, _, hschema, _, hqueries, hpair⟩, hwrite⟩
    obtain ⟨rfl, rfl⟩ := Prod.mk.inj (Except.ok.inj hpair)
    refine ⟨text, _, ⟨htext, rfl⟩, _, _, ⟨hschema, rfl⟩, _, _, rfl, _, _, ⟨hqueries, rfl⟩, _, _, rfl, ?_⟩
    rwa [List.append_assoc, List.append_assoc]

/-- A run goes through exactly if it finds a config, the options are clear, and what they say can be
done. -/
theorem run_run_eq_ok_iff :
    (run arguments).run.run w = (.ok (), w') ↔
      ∃ config options, configFor w.files arguments = .ok config ∧
        Options.resolve arguments config = .ok options ∧
        (execute options).run.run w = (.ok (), w') := by
  unfold run
  simp only [Script.run_bind_eq_ok_iff, run_findConfig, Script.run_known_eq_ok_iff, Prod.mk.injEq]
  constructor
  · rintro ⟨config, _, ⟨hconfig, rfl⟩, options, _, ⟨hoptions, rfl⟩, h⟩
    exact ⟨config, options, hconfig, hoptions, h⟩
  · rintro ⟨config, options, hconfig, hoptions, h⟩
    exact ⟨config, w, ⟨hconfig, rfl⟩, options, w, ⟨hoptions, rfl⟩, h⟩

/-! ### A run after a run -/

/-- The paths of the output files. -/
def outputPaths (directory : String) : List String :=
  outputFiles.map fun o => FileSystem.join directory o.1

section Settles

variable {directory lineBreak : String} {written : Output.Documents} {place : Location}

/-- What has been found stays the same while the output files are written, if it is none of them. -/
theorem lookup_eq_of_settles {text : String} {other : Location}
    (h : Settles directory lineBreak written fs fs' place) (hnames : fs.Names text other)
    (hother : other = place → fs.node? other ≠ none)
    (hapart : ∀ path ∈ outputPaths directory, ¬ fs'.SamePlace text path) :
    fs'.lookup text = fs.lookup text := by
  refine FileSystem.lookup_eq_of_grows hnames h.grows (h.same other hother fun o ho heq => ?_)
  obtain ⟨_, hfile, -⟩ := h.settled.written o ho
  exact hapart _ (List.mem_map_of_mem ho)
    ⟨other, (hnames.mono h.grows).place?, heq ▸ hfile.place?⟩

/-- The config is found as before, if it is not looked for at the output directory or one of the output
files. -/
theorem configFor_of_settles (h : Settles directory lineBreak written fs fs' place)
    (hconfig : configFor fs arguments = .ok config)
    (hapart : ∀ path ∈ directory :: outputPaths directory,
      ¬ fs'.SamePlace (configPath arguments) path) : configFor fs' arguments = .ok config := by
  obtain ⟨hdirectory, hfiles⟩ := List.forall_mem_cons.mp hapart
  obtain ⟨other, hnames⟩ := names_configPath hconfig
  rw [configFor_congr (lookup_eq_of_settles h hnames (fun heq => ?_) hfiles), hconfig]
  obtain ⟨inner, hinner, hplace⟩ := h.settled.found
  exact absurd ⟨other, (hnames.mono h.grows).place?, heq ▸ FileSystem.place?_of_find hinner hplace⟩
    hdirectory

/-- The file of a schema that is fetched. -/
theorem names_of_fetched {path text : String} (h : fetched w (.file path) = .ok text) :
    ∃ place content, w.files.Names path place ∧ w.files.node? place = some (.file content) := by
  obtain ⟨content, hlookup⟩ := lookup_of_textOf (Steps.mapError_eq_ok_iff.mp h)
  obtain ⟨place, hnames, hnode⟩ := FileSystem.names_of_lookup hlookup
  exact ⟨place, content, hnames, hnode⟩

/-- The schema is fetched as before, if it does not come from one of the output files. -/
theorem fetched_of_settles {source : Source} {text : String}
    (h : Settles directory lineBreak written w.files w'.files place) (hinput : w'.input = w.input)
    (hendpoint : w'.endpoint = w.endpoint) (htext : fetched w source = .ok text)
    (hapart : ∀ path, source = .file path →
      ∀ file ∈ outputPaths directory, ¬ w'.files.SamePlace path file) :
    fetched w' source = .ok text := by
  rw [← htext]
  cases source with
  | file path =>
    obtain ⟨other, content, hnames, hnode⟩ := names_of_fetched htext
    have hlookup := lookup_eq_of_settles h hnames
      (fun _ => by rw [hnode]; exact Option.some_ne_none _) (hapart path rfl)
    have hread : w'.files.read path = w.files.read path := by
      rw [FileSystem.read, FileSystem.read, hlookup]
    exact congrArg (fun bytes => (textOf bytes).mapError (RunError.fileUnreadable path)) hread
  | pipe => rw [fetched, fetched, hinput]
  | endpoint text => rw [fetched, fetched, hendpoint]

/-- The queries are derived as before. -/
theorem derived_of_settles {schema : Schema.Document} {queries : Query.Document}
    (h : Settles directory lineBreak written w.files w'.files place) (hinput : w'.input = w.input)
    (hendpoint : w'.endpoint = w.endpoint) (hderived : derived w options = .ok (schema, queries))
    (hapart : ∀ path, options.source = .file path →
      ∀ file ∈ outputPaths directory, ¬ w'.files.SamePlace path file) :
    derived w' options = .ok (schema, queries) := by
  obtain ⟨text, htext, hrest⟩ := Steps.bind_eq_ok_iff.mp hderived
  exact Steps.bind_eq_ok_iff.mpr
    ⟨text, fetched_of_settles h hinput hendpoint htext hapart, hrest⟩

end Settles

/-- **A run after a run.** If a run goes through, the same run goes through again and leaves everything
in its place as it is, byte by byte. If the line break ends the header line, both output files are
skipped. The config must not be looked for at the output directory or one of the output files, and the
schema must not come from one of the output files.

**Proof sketch.** The first run changes nothing but the output files and their directory
(`Output.settles_of_run`). So the second run reads the same config and the same schema, and makes the
same call, which finds its output files settled (`Output.run_writeFiles_of_settled`). -/
theorem run_again {w w₁ : World} (hconfig : ((findConfig arguments).run.run w).1 = .ok config)
    (hoptions : Options.resolve arguments config = .ok options)
    (hrun : (run arguments).run.run w = (.ok (), w₁))
    (hapart : ∀ path ∈ options.outputDirectory :: outputPaths options.outputDirectory,
      ¬ w₁.files.SamePlace (configPath arguments) path)
    (hsource : ∀ source, options.source = .file source →
      ∀ path ∈ outputPaths options.outputDirectory, ¬ w₁.files.SamePlace source path) :
    ∃ w₂ definitions operations queries schema,
      (run arguments).run.run w₁ = (.ok (), w₂) ∧ w₁.files.Same w₂.files ∧
      w₂.events = w₁.events ++ [options.source.event, .loaded definitions, .generated operations,
        .written queriesFileName queries, .written schemaFileName schema] ∧
      (EndsHeader options.lineBreak.toList → queries = .unchanged ∧ schema = .unchanged) := by
  rw [run_findConfig] at hconfig
  obtain ⟨config', options', hconfig', hoptions', hexecute⟩ := run_run_eq_ok_iff.mp hrun
  obtain rfl := Except.ok.inj (hconfig.symm.trans hconfig')
  obtain rfl := Except.ok.inj (hoptions.symm.trans hoptions')
  obtain ⟨schema, queries, hderived, hwrite⟩ := run_execute_eq_ok_iff.mp hexecute
  -- What the first run leaves.
  obtain ⟨hinput, hendpoint⟩ := Script.run_snd
    (writeFiles (documents options.indent schema queries) options.outputDirectory
      options.lineBreak).run { w with events := w.events ++ started options schema queries }
  rw [hwrite] at hinput hendpoint
  obtain ⟨place, hsettles⟩ := Output.settles_of_run hwrite
  -- The second run reads the same and makes the same call.
  have hconfig₁ := configFor_of_settles hsettles hconfig hapart
  have hderived₁ : derived w₁ options = .ok (schema, queries) :=
    derived_of_settles hsettles hinput hendpoint hderived hsource
  obtain ⟨queries', schema', files, hwrite₁, hsame, hends⟩ := Output.run_writeFiles_of_settled
    (w := { w₁ with events := w₁.events ++ started options schema queries }) hsettles.settled
  refine ⟨_, schema.definitions.length, queries.operations.length, queries', schema',
    run_run_eq_ok_iff.mpr ⟨config, options, hconfig₁, hoptions,
      run_execute_eq_ok_iff.mpr ⟨schema, queries, hderived₁, hwrite₁⟩⟩, hsame, ?_, hends⟩
  simp only [started, List.append_assoc, List.cons_append, List.nil_append]

/-- A working directory with a schema in `s.graphql`, and more files. -/
def scalarWorld (more : List (String × String)) : World where
  files := ⟨(["work"], .directory) :: (("s.graphql", "scalar A") :: more).map fun file =>
    ([file.1, "work"], .file (Bytes.ofText file.2)), ["work"]⟩
  input := []
  endpoint := fun _ _ => .noConnection .networkUnreachable
  events := []

/-- The queries for the schema in `s.graphql` are to be written to a directory. -/
def scalarArguments (directory : String) : CommandLine.Arguments where
  config := none
  profile := none
  url := none
  file := some "s.graphql"
  output := some directory

/-- A config with carriage returns. -/
def returnsWorld : World :=
  scalarWorld [("entity-queries.json", "\x7b\"lineBreak\": \"\\r\\n\"\x7d")]

/-- The options of a run with carriage returns. -/
def returnsOptions : Options where
  outputDirectory := "out"
  lineBreak := "\r\n"
  indent := 2
  source := .file "s.graphql"
  format := .sdl

/-- A run with carriage returns is followed by one that skips both output files.

**Proof sketch.** The first run and the places that the paths lead to are computed. The second run is
not: what it comes to follows from the general statement. -/
theorem run_again_returns :
    ((findConfig (scalarArguments "out")).run.run returnsWorld).1 =
        .ok (some ⟨none, none, some "\r\n", none⟩) ∧
    Options.resolve (scalarArguments "out") (some ⟨none, none, some "\r\n", none⟩) =
      .ok returnsOptions ∧
    ∃ w₁ w₂ definitions operations,
      (run (scalarArguments "out")).run.run returnsWorld = (.ok (), w₁) ∧
      (∀ path ∈ "out" :: outputPaths "out",
        ¬ w₁.files.SamePlace (configPath (scalarArguments "out")) path) ∧
      (∀ path ∈ outputPaths "out", ¬ w₁.files.SamePlace "s.graphql" path) ∧
      (run (scalarArguments "out")).run.run w₁ = (.ok (), w₂) ∧ w₁.files.Same w₂.files ∧
      w₂.events = w₁.events ++ [.readingFile "s.graphql", .loaded definitions, .generated operations,
        .written queriesFileName .unchanged, .written schemaFileName .unchanged] := by
  have hconfig : ((findConfig (scalarArguments "out")).run.run returnsWorld).1 =
      .ok (some ⟨none, none, some "\r\n", none⟩) := by decide +kernel
  have hoptions : Options.resolve (scalarArguments "out") (some ⟨none, none, some "\r\n", none⟩) =
      .ok returnsOptions := by decide
  have hrun : ((run (scalarArguments "out")).run.run returnsWorld).1 = .ok () := by decide +kernel
  have hplaces : ∀ path ∈ "out" :: outputPaths "out",
      ((run (scalarArguments "out")).run.run returnsWorld).2.files.place? defaultConfigPath ≠
        ((run (scalarArguments "out")).run.run returnsWorld).2.files.place? path := by decide +kernel
  have hsources : ∀ path ∈ outputPaths "out",
      ((run (scalarArguments "out")).run.run returnsWorld).2.files.place? "s.graphql" ≠
        ((run (scalarArguments "out")).run.run returnsWorld).2.files.place? path := by decide +kernel
  obtain ⟨w₁, hw₁⟩ : ∃ w₁, w₁ = ((run (scalarArguments "out")).run.run returnsWorld).2 := ⟨_, rfl⟩
  have hrun₁ := Prod.fst_eq_iff.mp hrun
  rw [← hw₁] at hrun₁ hplaces hsources
  have hapart : ∀ path ∈ "out" :: outputPaths "out",
      ¬ w₁.files.SamePlace (configPath (scalarArguments "out")) path := fun path hpath =>
    FileSystem.not_samePlace (hplaces path hpath)
  have hsource : ∀ path ∈ outputPaths "out", ¬ w₁.files.SamePlace "s.graphql" path :=
    fun path hpath => FileSystem.not_samePlace (hsources path hpath)
  obtain ⟨w₂, definitions, operations, queries, schema, hrun', hsame, hevents, hends⟩ :=
    run_again hconfig hoptions hrun₁ hapart fun source heq => Source.file.inj heq ▸ hsource
  obtain ⟨rfl, rfl⟩ := hends ⟨['\r'], [], rfl, List.all_eq_true.mp (by decide)⟩
  exact ⟨hconfig, hoptions, w₁, w₂, definitions, operations, hrun₁, hapart, hsource, hrun', hsame,
    hevents⟩

/-- A config with semicolons. -/
def semicolonsWorld : World :=
  scalarWorld [("entity-queries.json", "\x7b\"lineBreak\": \";\"\x7d")]

/-- Neither the config nor the schema of `scalarWorld` is in one of the output files. -/
def Apart (fs : FileSystem) (directory : String) : Prop :=
  ∀ path ∈ outputPaths directory,
    ¬ fs.SamePlace defaultConfigPath path ∧ ¬ fs.SamePlace "s.graphql" path

/-- Files are apart where their paths lead to different places. -/
theorem apart_of_place?_ne {directory : String} (h : ∀ path ∈ outputPaths directory,
    fs.place? defaultConfigPath ≠ fs.place? path ∧ fs.place? "s.graphql" ≠ fs.place? path) :
    Apart fs directory :=
  fun path hpath => ⟨FileSystem.not_samePlace (h path hpath).1, FileSystem.not_samePlace (h path hpath).2⟩

/-- With semicolons the checksums are not read back, and the next run writes the output files again.
Where the output directory is in the place of a config file that is missing, the next run takes it for
the config file, and fails. -/
theorem exists_run_again_overwritten :
    (∃ w₁ w₂, (run (scalarArguments "out")).run.run semicolonsWorld = (.ok (), w₁) ∧
      Apart w₁.files "out" ∧ (run (scalarArguments "out")).run.run w₁ = (.ok (), w₂) ∧
      w₂.events = w₁.events ++ [.readingFile "s.graphql", .loaded 1, .generated 0,
        .written queriesFileName .overwritten, .written schemaFileName .overwritten]) ∧
    ∃ w₁ w₂, (run (scalarArguments defaultConfigPath)).run.run (scalarWorld []) = (.ok (), w₁) ∧
      Apart w₁.files defaultConfigPath ∧
      (run (scalarArguments defaultConfigPath)).run.run w₁ =
        (.error (.configUnreadable defaultConfigPath (.system .isDirectory)), w₂) := by
  constructor
  · have hrun : ((run (scalarArguments "out")).run.run semicolonsWorld).1 = .ok () := by decide +kernel
    have hapart : Apart ((run (scalarArguments "out")).run.run semicolonsWorld).2.files "out" :=
      apart_of_place?_ne (by decide +kernel)
    have hagain : ((run (scalarArguments "out")).run.run
        ((run (scalarArguments "out")).run.run semicolonsWorld).2).1 = .ok () := by decide +kernel
    have hevents : ((run (scalarArguments "out")).run.run
        ((run (scalarArguments "out")).run.run semicolonsWorld).2).2.events =
          ((run (scalarArguments "out")).run.run semicolonsWorld).2.events ++
            [.readingFile "s.graphql", .loaded 1, .generated 0,
              .written queriesFileName .overwritten, .written schemaFileName .overwritten] := by
      decide +kernel
    exact ⟨((run (scalarArguments "out")).run.run semicolonsWorld).2, _, Prod.fst_eq_iff.mp hrun, hapart,
      Prod.fst_eq_iff.mp hagain, hevents⟩
  · have hrun : ((run (scalarArguments defaultConfigPath)).run.run (scalarWorld [])).1 = .ok () := by
      decide +kernel
    have hapart : Apart ((run (scalarArguments defaultConfigPath)).run.run (scalarWorld [])).2.files
        defaultConfigPath := apart_of_place?_ne (by decide +kernel)
    have hagain : ((run (scalarArguments defaultConfigPath)).run.run
        ((run (scalarArguments defaultConfigPath)).run.run (scalarWorld [])).2).1 =
          .error (.configUnreadable defaultConfigPath (.system .isDirectory)) := by decide +kernel
    exact ⟨((run (scalarArguments defaultConfigPath)).run.run (scalarWorld [])).2, _,
      Prod.fst_eq_iff.mp hrun, hapart, Prod.fst_eq_iff.mp hagain⟩

end Run

end SchemaQueries
