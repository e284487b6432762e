import SchemaQueries.Proofs.Output.Writing

/-!
# What writing the output files may change

As long as no write breaks off, writing the output files changes nothing but the output directory and the
two files in it, whatever else fails. The directory is created where nothing was; each of the files is as
it was before, or holds its header and its new content as a whole.

## Main definitions

* `Output.Confined` — only the output directory and the output files have changed.

## Main results

* `Output.confined_of_runs` — so it is after every call in which no write breaks off, also after one that
  fails.
-/

set_option autoImplicit false
set_option relaxedAutoImplicit false

namespace SchemaQueries.Output

open FileSystem (Location Path join)
open Script (Runs Step Takes Write)

variable {directory lineBreak : String} {documents : Documents} {inner : Path} {place : Location}
  {fs fs' : FileSystem}

/-- Only the output directory and the output files have changed: everything is as it was, but that the
directory may have been created at a place that was free, and that each output file may have got its
header and its content. -/
structure Confined (directory lineBreak : String) (documents : Documents) (fs fs' : FileSystem) :
    Prop where
  workingDirectory : fs'.workingDirectory = fs.workingDirectory
  node? : ∀ other, fs'.node? other = fs.node? other ∨
    ∃ place, fs.place? directory = some place ∧
      (other = place ∧ fs.node? place = none ∧ fs'.node? place = some .directory ∨
        ∃ o ∈ outputFiles, other = o.1 :: place ∧ fs'.Names (join directory o.1) other ∧
          fs'.node? other = some (.file (fileBytes lineBreak (o.2 documents))))

/-- Where nothing has changed, nothing else has. -/
theorem Confined.refl (directory lineBreak : String) (documents : Documents) (fs : FileSystem) :
    Confined directory lineBreak documents fs fs :=
  ⟨rfl, fun _ => .inl rfl⟩

/-! ### One file -/

namespace Updated

variable {o : String × (Documents → String)} {writes : List Write} {r : Except Failure WriteResult}

/-- Bringing an output file up to date changes at most its place in the directory, and writes the file as
a whole if no write breaks off. -/
theorem node?_eq_or_join (ho : o ∈ outputFiles) (hinner : Path.ofText directory = .ok inner)
    (h : Updated (join directory o.1) lineBreak (o.2 documents) fs writes r fs')
    (hwhole : ∀ write ∈ writes, write.fault = none) (other : Location) :
    fs'.node? other = fs.node? other ∨
      ∃ place, fs.find inner = .ok (.found place .directory) ∧ other = o.1 :: place ∧
        fs'.Names (join directory o.1) other ∧
        fs'.node? other = some (.file (fileBytes lineBreak (o.2 documents))) := by
  rcases h.node?_eq_or other with hsame | ⟨hnames, write, hwrite, hcontent, hnode⟩
  · exact .inl hsame
  · obtain ⟨place, rfl, hplace⟩ :=
      FileSystem.exists_of_names_join (isFileName_of_mem ho) hinner hnames
    rw [Script.Write.left_eq (hwhole write hwrite), hcontent] at hnode
    exact .inr ⟨place, hplace, rfl, hnames.mono h.grows, hnode⟩

/-- The directory is found after the update exactly if it was found before. -/
theorem find_directory_iff (ho : o ∈ outputFiles) (hinner : Path.ofText directory = .ok inner)
    (h : Updated (join directory o.1) lineBreak (o.2 documents) fs writes r fs') :
    fs'.find inner = .ok (.found place .directory) ↔
      fs.find inner = .ok (.found place .directory) := by
  refine ⟨fun hfound => ?_, h.grows.find_directory⟩
  have hgrows := h.grows
  rcases h.eq_or_exists_write with ⟨-, rfl⟩ | ⟨written, write, hnames, -⟩
  · exact hfound
  · obtain ⟨parent, -, hparent⟩ :=
      FileSystem.exists_of_names_join (isFileName_of_mem ho) hinner hnames
    have hfound' := hgrows.find_directory hparent
    rw [hfound] at hfound'
    obtain ⟨rfl, -⟩ := FileSystem.Target.found.inj (Except.ok.inj hfound')
    exact hparent

end Updated

/-! ### The directory and both files -/

/-- Bringing one more output file up to date changes nothing else.

**Proof sketch.** The update changes at most the file itself. A place that it leaves alone was as it is
or had been created or written before, and a name still leads where it did. The changed place is in the
output directory, which is where its path led to from the start. -/
theorem Confined.update {v : FileSystem} {o : String × (Documents → String)} {writes : List Write}
    {r : Except Failure WriteResult} (ho : o ∈ outputFiles)
    (hinner : Path.ofText directory = .ok inner)
    (hplace : ∀ place, v.find inner = .ok (.found place .directory) →
      fs.place? directory = some place)
    (h : Confined directory lineBreak documents fs v)
    (hupdated : Updated (join directory o.1) lineBreak (o.2 documents) v writes r fs')
    (hwhole : ∀ write ∈ writes, write.fault = none) :
    Confined directory lineBreak documents fs fs' where
  workingDirectory := hupdated.grows.workingDirectory.trans h.workingDirectory
  node? := by
    intro other
    rcases hupdated.node?_eq_or_join ho hinner hwhole other with hsame | ⟨place, hfound, hother, hfile⟩
    · rcases h.node? other with hbefore | ⟨place, hdirectory, hcreated | hwritten⟩
      · exact .inl (hsame.trans hbefore)
      · obtain ⟨rfl, hfree, hnode⟩ := hcreated
        exact .inr ⟨other, hdirectory, .inl ⟨rfl, hfree, hsame.trans hnode⟩⟩
      · obtain ⟨o', ho', hother, hnames, hnode⟩ := hwritten
        exact .inr ⟨place, hdirectory, .inr ⟨o', ho', hother, hnames.mono hupdated.grows,
          hsame.trans hnode⟩⟩
    · exact .inr ⟨place, hplace place hfound, .inr ⟨o, ho, hother, hfile⟩⟩

/-- Creating the output directory changes nothing else, and it is found where it has been created.

**Proof sketch.** The directory is there, has been created, or nothing has happened. A directory that is
found under its path is where the path leads to, and one that has been created stands at the place that
was free, which is the only change. -/
theorem confined_of_prepare (lineBreak : String) (documents : Documents) {w w' : World}
    {steps : List Step} {r : Except Failure Unit}
    (h : Takes (prepare directory).run w steps r w') :
    Confined directory lineBreak documents w.files w'.files ∧
      (r = .ok () → ∃ inner, Path.ofText directory = .ok inner ∧
        ∀ place, w'.files.find inner = .ok (.found place .directory) →
          w.files.place? directory = some place) := by
  rcases takes_prepare h with ⟨rfl, rfl, hhas⟩ | ⟨rfl, inner, free, hinner, hleads, hnode, rfl⟩ |
    ⟨e, rfl, rfl⟩
  · refine ⟨.refl _ _ _ _, fun _ => ?_⟩
    cases hinner : Path.ofText directory with
    | error e =>
      rw [FileSystem.has, FileSystem.lookup, hinner] at hhas
      cases hhas
    | ok inner => exact ⟨inner, rfl, fun place hfound => FileSystem.place?_of_find hinner hfound⟩
  · have hplace : w.files.place? directory = some free := by
      rw [FileSystem.place?, hinner, Steps.ok_bind, hleads.find, FileSystem.target, hnode]
    have hgrows : w.files.Grows (w.files.set free .directory) := .set_of_vacant hnode
    refine ⟨⟨rfl, fun other => ?_⟩, fun _ => ⟨inner, hinner, fun place hfound => ?_⟩⟩
    · by_cases hother : other = free
      · subst hother
        exact .inr ⟨other, hplace, .inl ⟨rfl, hnode, FileSystem.node?_set_self _ _ hleads.ne_nil⟩⟩
      · exact .inl (FileSystem.node?_set_of_ne _ _ hother)
    · have hcreated := (hgrows.leadsTo hleads).find
      rw [FileSystem.target, FileSystem.node?_set_self _ _ hleads.ne_nil, hfound] at hcreated
      obtain ⟨rfl, -⟩ := FileSystem.Target.found.inj (Except.ok.inj hcreated)
      exact hplace
  · refine ⟨.refl _ _ _ _, ?_⟩
    intro hok
    cases hok

/-- If no write breaks off, writing the output files changes nothing but the output directory and the
files in it, whether it goes through or fails.

**Proof sketch.** The directory is created at a place that was free, or it is left as it is. Then each of
the files is left as it is or written as a whole, at its place in that directory. -/
theorem confined_of_runs {w w' : World} {r : Except Failure Unit}
    (h : Runs (writeFiles documents directory lineBreak).run w r w') :
    Confined directory lineBreak documents w.files w'.files := by
  obtain ⟨steps, htakes, hwhole⟩ := h
  obtain ⟨first, prepared, v, hprepare, hfiles⟩ := takes_writeFiles htakes
  obtain ⟨hcreated, hfound⟩ := confined_of_prepare lineBreak documents hprepare
  rcases hfiles with ⟨e, -, -, -, rfl⟩ |
    ⟨hok, second, third, queries, schema, u, rfl, hqueries, hschema, -⟩
  · exact hcreated
  · obtain ⟨hwhole, hwhole'⟩ := List.forall_mem_append.mp hwhole
    obtain ⟨inner, hinner, hplace⟩ := hfound hok
    obtain ⟨result, fs, hupdated, -, rfl⟩ := takes_updateFile hqueries
    obtain ⟨result', fs', hupdated', -, rfl⟩ := takes_updateFile hschema
    have hfirst := hcreated.update queries_mem hinner hplace hupdated
      (Script.fault_eq_none_of_writesTo (List.forall_mem_append.mp hwhole).2)
    apply hfirst.update schema_mem hinner _ hupdated' (Script.fault_eq_none_of_writesTo hwhole')
    intro place hdirectory
    exact hplace place ((hupdated.find_directory_iff queries_mem hinner).mp hdirectory)

end SchemaQueries.Output
