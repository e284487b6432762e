import SchemaQueries.Proofs.Output.Writing

/-!
# Writing the output files again

Once the output files have been brought up to date, the same call leaves everything as it is. If the line
break does not end the header line, the checksum may not be read back; then the same bytes are written
once more.

## Main definitions

* `Output.Settles` — what a call that goes through makes of the files.

## Main results

* `Output.settles_of_run` — a call that goes through settles the output files, and changes nothing else.
* `Output.run_writeFiles_of_settled` — the same call again leaves everything as it is.
-/

set_option autoImplicit false
set_option relaxedAutoImplicit false

namespace SchemaQueries.Output

open FileSystem (Location Path)
open Script (Step Takes)

variable {directory lineBreak : String} {documents : Documents} {place : Location} {w w' : World}
  {steps : List Step}

/-! ### The first call -/

/-- The output directory is there, or it is created at a place that has been free. -/
theorem exists_of_prepare (h : Takes (prepare directory).run w steps (.ok ()) w') :
    ∃ inner, Path.ofText directory = .ok inner ∧ w.files.Grows w'.files ∧
      ∀ place, w'.files.find inner = .ok (.found place .directory) →
        ∀ other, (other = place → w.files.node? other ≠ none) →
          w'.files.node? other = w.files.node? other := by
  rcases takes_prepare h with ⟨-, rfl, hhas⟩ | ⟨-, inner, free, hinner, hleads, hnode, rfl⟩ | ⟨e, he, -⟩
  · cases hinner : Path.ofText directory with
    | error e =>
      rw [FileSystem.has, FileSystem.lookup, hinner] at hhas
      cases hhas
    | ok inner => exact ⟨inner, rfl, .refl _, fun _ _ _ _ => rfl⟩
  · have hgrows : w.files.Grows (w.files.set free .directory) := .set_of_vacant hnode
    refine ⟨inner, hinner, hgrows, fun place hplace other hother => ?_⟩
    have hfound := (hgrows.leadsTo hleads).find
    rw [FileSystem.target, FileSystem.node?_set_self _ _ hleads.ne_nil] at hfound
    obtain ⟨rfl, -⟩ := FileSystem.Target.found.inj (Except.ok.inj (hfound.symm.trans hplace))
    exact FileSystem.node?_set_of_ne _ _ fun heq => hother heq (heq ▸ hnode)
  · cases he

/-- The output files are settled, and nothing else has changed, but that the directory has been created
if it was not there. -/
structure Settles (directory lineBreak : String) (documents : Documents) (fs fs' : FileSystem)
    (place : Location) : Prop where
  settled : Settled directory lineBreak documents fs' place
  grows : fs.Grows fs'
  same : ∀ other, (other = place → fs.node? other ≠ none) →
    (∀ o ∈ outputFiles, other ≠ o.1 :: place) → fs'.node? other = fs.node? other

/-- A call that goes through settles the output files.

**Proof sketch.** Nothing fails, so both files have been brought up to date, one after the other. Both
are in the one directory that the output path leads to, and any other place is passed through the three
steps of the call unchanged. -/
theorem settles_of_run (h : (writeFiles documents directory lineBreak).run.run w = (.ok (), w')) :
    ∃ place, Settles directory lineBreak documents w.files w'.files place := by
  obtain ⟨steps, htakes, -⟩ := (writeFiles documents directory lineBreak).run.takes_run w
  rw [h] at htakes
  obtain ⟨first, prepared, v, hprepare, hfiles⟩ := takes_writeFiles htakes
  rcases hfiles with ⟨e, -, -, he, -⟩ |
    ⟨rfl, second, third, queries, schema, u, -, hqueries, hschema, hboth⟩
  · cases he
  obtain ⟨inner, hinner, hprepared, hsame⟩ := exists_of_prepare hprepare
  obtain ⟨result, fs, hupdated, rfl, rfl⟩ := takes_updateFile hqueries
  obtain ⟨result', fs', hupdated', rfl, rfl⟩ := takes_updateFile hschema
  cases result with
  | error e => cases hboth
  | ok result =>
    cases result' with
    | error e => cases hboth
    | ok result' =>
      obtain ⟨written, -, hnames, -⟩ := hupdated.exists_of_ok
      obtain ⟨place, -, hplace⟩ := FileSystem.exists_of_names_join isFileName_queries hinner hnames
      refine ⟨place, settled_of_updated hinner hplace hupdated hupdated',
        (hprepared.trans hupdated.grows).trans hupdated'.grows, fun other hother hfiles => ?_⟩
      calc fs'.node? other = fs.node? other :=
            hupdated'.node?_of_ne isFileName_schema hinner
              (hupdated.grows.find_directory hplace) (hfiles _ schema_mem)
        _ = v.files.node? other :=
            hupdated.node?_of_ne isFileName_queries hinner hplace (hfiles _ queries_mem)
        _ = w.files.node? other := hsame place hplace other hother

/-! ### The same call again -/

/-- What is settled stays settled as long as everything is where it was. -/
theorem Settled.same {fs fs' : FileSystem} (h : Settled directory lineBreak documents fs place)
    (hsame : fs.Same fs') : Settled directory lineBreak documents fs' place where
  found :=
    have ⟨inner, hinner, hplace⟩ := h.found
    ⟨inner, hinner, hsame.grows.find_directory hplace⟩
  written := fun o ho =>
    have ⟨bytes, hnames, hnode, hwritten⟩ := h.written o ho
    ⟨bytes, hnames.mono hsame.grows, (hsame.node? _).trans hnode, hwritten⟩

/-- A file that holds what is to be written, or tells the same checksum, is brought up to date without
any change to its content. -/
theorem run_writeFile_of_written {path content : String} {bytes : Bytes}
    (hnames : w.files.Names path place) (hnode : w.files.node? place = some (.file bytes))
    (hwritten : Written lineBreak content bytes) :
    ∃ result fs, (writeFile path lineBreak content).run.run w = (.ok result, { w with files := fs }) ∧
      w.files.Same fs ∧ (EndsHeader lineBreak.toList → result = .unchanged) := by
  obtain ⟨told, htold⟩ := hwritten.exists_told
  rw [run_writeFile_of_told hnames hnode htold]
  by_cases hsame : told = some (contentHash lineBreak content)
  · rw [if_pos hsame]
    exact ⟨.unchanged, w.files, rfl, .refl _, fun _ => rfl⟩
  -- A checksum that is not told can only have been written with the file itself.
  · obtain rfl : bytes = fileBytes lineBreak content := hwritten.resolve_right fun h =>
      hsame (Option.some.inj (htold.symm.trans h))
    rw [if_neg hsame]
    refine ⟨.overwritten, _, rfl, .set hnode hnames.ne_nil, fun hends => ?_⟩
    exact absurd (Option.some.inj (htold.symm.trans (hwritten.told hends))) hsame

/-- A settled file of the directory is reported, and nothing else happens. -/
theorem run_updateFile_of_settled (h : Settled directory lineBreak documents w.files place)
    {o : String × (Documents → String)} (ho : o ∈ outputFiles) :
    ∃ result fs, (updateFile directory lineBreak o.1 (o.2 documents)).run.run w =
        (.ok (), { w with files := fs, events := w.events ++ [.written o.1 result] }) ∧
      w.files.Same fs ∧ (EndsHeader lineBreak.toList → result = .unchanged) := by
  obtain ⟨bytes, hnames, hnode, hwritten⟩ := h.written o ho
  obtain ⟨result, fs, hrun, hsame, hends⟩ := run_writeFile_of_written hnames hnode hwritten
  refine ⟨result, fs, ?_, hsame, hends⟩
  rw [run_updateFile, Script.run_bind, hrun]
  rfl

/-- Where the output files are settled, the same call leaves everything as it is. If the line break ends
the header line, it does not write anything.

**Proof sketch.** The directory is found, so it is not created. Bringing a settled file up to date
leaves everything the same, so the other file is still settled when its turn comes. -/
theorem run_writeFiles_of_settled (h : Settled directory lineBreak documents w.files place) :
    ∃ queries schema fs, (writeFiles documents directory lineBreak).run.run w =
        (.ok (), { w with
          files := fs
          events := w.events ++ [.written queriesFileName queries, .written schemaFileName schema] }) ∧
      w.files.Same fs ∧
      (EndsHeader lineBreak.toList → queries = .unchanged ∧ schema = .unchanged) := by
  have hprepare : (prepare directory).run.run w = (.ok (), w) := by
    obtain ⟨inner, hinner, hplace⟩ := h.found
    have hhas : w.files.has directory = true := by
      rw [FileSystem.has, FileSystem.lookup, hinner, Steps.ok_bind, hplace]
      rfl
    rw [run_prepare, Script.run, World.perform, hhas]
    rfl
  obtain ⟨queries, fs, hqueries, hsame, hq⟩ := run_updateFile_of_settled h queries_mem
  obtain ⟨schema, fs', hschema, hsame', hs⟩ :=
    run_updateFile_of_settled
      (w := { w with files := fs, events := w.events ++ [.written queriesFileName queries] })
      (h.same hsame) schema_mem
  refine ⟨queries, schema, fs', ?_, hsame.trans hsame', fun hends => ⟨hq hends, hs hends⟩⟩
  rw [run_writeFiles, Script.run_bind, hprepare]
  dsimp only
  rw [Script.run_bind, hqueries]
  dsimp only
  rw [Script.run_bind, hschema]
  simp only [Script.run, both, List.append_assoc, List.cons_append, List.nil_append]

end SchemaQueries.Output
