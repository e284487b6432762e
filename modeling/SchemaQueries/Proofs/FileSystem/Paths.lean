import Mathlib.Data.List.Basic
import SchemaQueries.FileSystem.Basic
import SchemaQueries.Proofs.Steps

/-!
# What paths lead to while files change

A path is followed name by name through directories. As long as no directory goes away, it keeps
leading to the same place, whatever is put at free places or into files.

## Main definitions

* `FileSystem.LeadsTo` — the place in a directory that the last name of a path is for.
* `FileSystem.Grows` — directories stay directories, and files stay files.
* `FileSystem.Same` — everything is where it was.

## Main results

* `FileSystem.LeadsTo.find` — what is found at the end of a path.
* `FileSystem.Grows.leadsTo` — a path keeps leading to its place.
* `FileSystem.Grows.find_directory` — a directory is still found.
* `FileSystem.Path.ofText_join` — the path to a file in a directory.
-/

set_option autoImplicit false
set_option relaxedAutoImplicit false

namespace SchemaQueries

/-! ### Parts of texts -/

namespace Text

variable {isSeparator : Char → Bool}

/-- There is at least one part. -/
theorem partsBetween_ne_nil (cs : List Char) : partsBetween isSeparator cs ≠ [] := by
  cases cs with
  | nil => simp [partsBetween]
  | cons c cs =>
    unfold partsBetween
    split
    · simp
    · split <;> simp

/-- A separator cuts a text in two. -/
theorem partsBetween_append {s : Char} (hs : isSeparator s = true) (cs ds : List Char) :
    partsBetween isSeparator (cs ++ s :: ds) =
      partsBetween isSeparator cs ++ partsBetween isSeparator ds := by
  induction cs with
  | nil => simp [partsBetween, hs]
  | cons c cs ih =>
    rw [List.cons_append, partsBetween, partsBetween, ih]
    split
    · rfl
    · cases h : partsBetween isSeparator cs with
      | nil => exact absurd h (partsBetween_ne_nil cs)
      | cons first others => rfl

/-- A text without separators is a single part. -/
theorem partsBetween_of_forall {cs : List Char} (h : ∀ c ∈ cs, isSeparator c = false) :
    partsBetween isSeparator cs = [cs] := by
  induction cs with
  | nil => rfl
  | cons c cs ih =>
    obtain ⟨hc, hcs⟩ := List.forall_mem_cons.mp h
    simp [partsBetween, hc, ih hcs]

end Text

namespace FileSystem

open Steps (bind_eq_ok_iff)

variable {fs fs' : FileSystem} {path : Path} {place : Location}

/-! ### Following a path -/

/-- A path is followed to its last name through directories. -/
theorem follow_concat (directory : Location) (names : List String) (last : String) :
    fs.follow directory (names ++ [last]) =
      names.foldlM fs.enter directory >>= fun inner => fs.follow inner [last] := by
  induction names generalizing directory with
  | nil => rfl
  | cons name names ih =>
    obtain ⟨next, rest, hrest⟩ := List.exists_cons_of_ne_nil
      (List.append_ne_nil_of_right_ne_nil names (List.cons_ne_nil last []))
    rw [List.cons_append, hrest, follow, List.foldlM_cons, bind_assoc]
    refine congrArg _ (funext fun inner => ?_)
    rw [← hrest, ih]

/-- The directory that the path starts from. -/
def start (fs : FileSystem) (path : Path) : Location :=
  if path.fromRoot then [] else fs.workingDirectory

/-- The last name of the path is one for a place in a directory. -/
def LeadsTo (fs : FileSystem) (path : Path) (place : Location) : Prop :=
  ∃ names last directory, path.names = names ++ [last] ∧ last ≠ "." ∧ last ≠ ".." ∧
    names.foldlM fs.enter (fs.start path) = .ok directory ∧ child directory last = .ok place

/-- What a place that is led to holds. -/
def target (fs : FileSystem) (place : Location) : Target :=
  match fs.node? place with
  | some node => .found place node
  | none => .vacant place

/-- A place holds what is found at it. -/
theorem target_eq_found_iff {place' : Location} {node : Node} :
    fs.target place = .found place' node ↔ place = place' ∧ fs.node? place = some node := by
  unfold target
  cases fs.node? place <;> simp

/-- A place is free where nothing is found at it. -/
theorem target_eq_vacant_iff {place' : Location} :
    fs.target place = .vacant place' ↔ place = place' ∧ fs.node? place = none := by
  unfold target
  cases fs.node? place <;> simp

/-- The last name in a directory leads to what its place holds. -/
theorem follow_single {directory : Location} {last : String} (hdot : last ≠ ".")
    (hdots : last ≠ "..") :
    fs.follow directory [last] = (child directory last).map fs.target := by
  have hname : (last = "." || last = "..") = false := by simp [hdot, hdots]
  rw [follow, hname]
  cases child directory last with
  | error e => rfl
  | ok place =>
    rw [Except.map, target, if_neg Bool.false_ne_true]
    show (match fs.node? place with
      | some node => pure (Target.found place node)
      | none => pure (Target.vacant place)) = _
    cases fs.node? place <;> rfl

/-- What is at the place is found at the end of the path. -/
theorem LeadsTo.find (h : fs.LeadsTo path place) : fs.find path = .ok (fs.target place) := by
  obtain ⟨names, last, directory, hnames, hdot, hdots, hdirectory, hchild⟩ := h
  show fs.follow (fs.start path) path.names = _
  rw [hnames, follow_concat, hdirectory, Steps.ok_bind, follow_single hdot hdots, hchild]
  rfl

/-- A place that is led to is not the root. -/
theorem LeadsTo.ne_nil (h : fs.LeadsTo path place) : place ≠ [] := by
  obtain ⟨names, last, directory, -, -, -, -, hchild⟩ := h
  unfold child at hchild
  split at hchild
  · cases hchild
  · cases hchild
    exact List.cons_ne_nil _ _

/-- Different places hold different targets. -/
theorem eq_of_target_eq {place' : Location} (h : fs.target place = fs.target place') :
    place = place' := by
  unfold target at h
  split at h <;> split at h <;> cases h <;> rfl

/-- A path leads to one place. -/
theorem LeadsTo.unique {place' : Location} (h : fs.LeadsTo path place)
    (h' : fs.LeadsTo path place') : place = place' :=
  eq_of_target_eq (Except.ok.inj (h.find.symm.trans h'.find))

/-- The directory that the path leads to. -/
def LeadsToDirectory (fs : FileSystem) (path : Path) (place : Location) : Prop :=
  path.names.foldlM fs.enter (fs.start path) = .ok place

/-- Entering a directory by a name that is not one of the two special ones. -/
theorem enter_eq {directory : Location} {name : String} (hdot : name ≠ ".") (hdots : name ≠ "..") :
    fs.enter directory name = child directory name >>= fun place =>
      match fs.node? place with
      | some .directory => .ok place
      | some (.file _) => .error .notDirectory
      | none => .error .noEntry := by
  rw [enter, if_neg hdot, if_neg hdots]
  refine congrArg _ (funext fun place => ?_)
  cases fs.node? place with
  | none => rfl
  | some node => cases node <;> rfl

/-- A directory is found exactly where the names of the path lead through directories.

**Proof sketch.** A path without names leads to where it starts. Otherwise both sides enter all names
but the last one in the same way, and it remains to compare what is found under the last name with
entering it: under `.` and `..` these are the same step, and under another name a directory is found
exactly if it can be entered. -/
theorem find_eq_directory_iff :
    fs.find path = .ok (.found place .directory) ↔ fs.LeadsToDirectory path place := by
  show fs.follow (fs.start path) path.names = _ ↔
    path.names.foldlM fs.enter (fs.start path) = .ok place
  rcases List.eq_nil_or_concat path.names with hnames | ⟨names, last, hnames⟩
  · rw [hnames, follow, List.foldlM_nil]
    simp [pure, Except.pure]
  · rw [hnames, List.concat_eq_append, follow_concat, List.foldlM_append]
    simp only [bind_eq_ok_iff, List.foldlM_cons, List.foldlM_nil]
    refine exists_congr fun directory => and_congr_right fun _ => ?_
    by_cases hdots : last = "." ∨ last = ".."
    · have hname : (last = "." || last = "..") = true := by simpa using hdots
      rw [follow, if_pos hname]
      simp [bind_eq_ok_iff, pure, Except.pure]
    · obtain ⟨hdot, hdots⟩ := not_or.mp hdots
      rw [follow_single hdot hdots, enter_eq hdot hdots]
      cases child directory last with
      | error e => simp [Except.map, bind, Except.bind]
      | ok inner =>
        rw [Except.map, target, Steps.ok_bind]
        match fs.node? inner with
        | none => simp
        | some .directory => simp [pure, Except.pure]
        | some (.file _) => simp

/-- Where no directory is found, the last name of the path is one for a place. -/
theorem leadsTo_of_find {t : Target} (h : fs.find path = .ok t)
    (hdirectory : ∀ place, t ≠ .found place .directory) :
    ∃ place, fs.LeadsTo path place ∧ t = fs.target place := by
  have hfollow : fs.follow (fs.start path) path.names = .ok t := h
  rcases List.eq_nil_or_concat path.names with hnames | ⟨names, last, hnames⟩
  · rw [hnames, follow] at hfollow
    exact absurd (Except.ok.inj hfollow).symm (hdirectory _)
  · rw [List.concat_eq_append] at hnames
    rw [hnames, follow_concat, bind_eq_ok_iff] at hfollow
    obtain ⟨directory, hdir, hlast⟩ := hfollow
    by_cases hdots : last = "." ∨ last = ".."
    · have hname : (last = "." || last = "..") = true := by simpa using hdots
      rw [follow, if_pos hname, bind_eq_ok_iff] at hlast
      obtain ⟨inner, -, hinner⟩ := hlast
      exact absurd (Except.ok.inj hinner).symm (hdirectory inner)
    · obtain ⟨hdot, hdots⟩ := not_or.mp hdots
      rw [follow_single hdot hdots, Steps.map_eq_ok_iff] at hlast
      obtain ⟨place, hchild, rfl⟩ := hlast
      exact ⟨place, ⟨names, last, directory, hnames, hdot, hdots, hdir, hchild⟩, rfl⟩

/-- A free place is one that the last name of the path is for. -/
theorem leadsTo_of_vacant (h : fs.find path = .ok (.vacant place)) :
    fs.LeadsTo path place ∧ fs.node? place = none := by
  obtain ⟨place', hleads, heq⟩ := leadsTo_of_find h fun _ => nofun
  obtain ⟨rfl, hnode⟩ := target_eq_vacant_iff.mp heq.symm
  exact ⟨hleads, hnode⟩

/-- The place of a file is one that the last name of the path is for. -/
theorem leadsTo_of_file {content : Bytes} (h : fs.find path = .ok (.found place (.file content))) :
    fs.LeadsTo path place ∧ fs.node? place = some (.file content) := by
  obtain ⟨place', hleads, heq⟩ := leadsTo_of_find h fun _ heq => nomatch heq
  obtain ⟨rfl, hnode⟩ := target_eq_found_iff.mp heq.symm
  exact ⟨hleads, hnode⟩

/-! ### File systems that grow -/

/-- Directories stay directories, and files stay files, whatever is in them. -/
structure Grows (fs fs' : FileSystem) : Prop where
  workingDirectory : fs'.workingDirectory = fs.workingDirectory
  directory : ∀ {place}, fs.node? place = some .directory → fs'.node? place = some .directory
  file : ∀ {place content}, fs.node? place = some (.file content) →
    ∃ content', fs'.node? place = some (.file content')

namespace Grows

/-- Nothing has to happen. -/
theorem refl (fs : FileSystem) : fs.Grows fs :=
  ⟨rfl, id, fun h => ⟨_, h⟩⟩

/-- One change may follow another one. -/
theorem trans {fs₁ fs₂ fs₃ : FileSystem} (h : fs₁.Grows fs₂) (h' : fs₂.Grows fs₃) :
    fs₁.Grows fs₃ where
  workingDirectory := h'.workingDirectory.trans h.workingDirectory
  directory := fun hplace => h'.directory (h.directory hplace)
  file := fun hplace =>
    have ⟨_, hplace⟩ := h.file hplace
    h'.file hplace

/-- Something is put at a free place. -/
theorem set_of_vacant {node : Node} (hplace : fs.node? place = none) :
    fs.Grows (fs.set place node) where
  workingDirectory := rfl
  directory := fun {other} h => by
    have hne : other ≠ place := fun heq => by rw [heq, hplace] at h; cases h
    rwa [node?_set_of_ne fs node hne]
  file := fun {other content} h => by
    have hne : other ≠ place := fun heq => by rw [heq, hplace] at h; cases h
    exact ⟨content, by rwa [node?_set_of_ne fs node hne]⟩

/-- A file gets another content. -/
theorem set_of_file {content content' : Bytes} (hplace : fs.node? place = some (.file content))
    (hroot : place ≠ []) : fs.Grows (fs.set place (.file content')) where
  workingDirectory := rfl
  directory := fun {other} h => by
    have hne : other ≠ place := fun heq => by rw [heq, hplace] at h; cases h
    rwa [node?_set_of_ne fs _ hne]
  file := fun {other content''} h => by
    by_cases heq : other = place
    · subst heq
      exact ⟨content', node?_set_self fs _ hroot⟩
    · exact ⟨content'', by rwa [node?_set_of_ne fs _ heq]⟩

/-- A file is put where no directory is. -/
theorem set_file (hplace : fs.node? place ≠ some .directory) (hroot : place ≠ []) (content : Bytes) :
    fs.Grows (fs.set place (.file content)) := by
  cases hnode : fs.node? place with
  | none => exact .set_of_vacant hnode
  | some node =>
    cases node with
    | directory => exact absurd hnode hplace
    | file old => exact .set_of_file hnode hroot

/-- A directory is entered as before. -/
theorem enter (h : fs.Grows fs') {directory inner : Location} {name : String}
    (henter : fs.enter directory name = .ok inner) : fs'.enter directory name = .ok inner := by
  by_cases hdots : name = "." ∨ name = ".."
  · rw [← henter]
    rcases hdots with rfl | rfl <;> rfl
  · obtain ⟨hdot, hdots⟩ := not_or.mp hdots
    rw [enter_eq hdot hdots, bind_eq_ok_iff] at henter ⊢
    obtain ⟨place, hchild, hnode⟩ := henter
    refine ⟨place, hchild, ?_⟩
    split at hnode
    · next hplace =>
      rw [h.directory hplace]
      exact hnode
    · cases hnode
    · cases hnode

/-- Directories are entered one after the other as before. -/
theorem foldlM_enter (h : fs.Grows fs') {names : List String} {directory inner : Location}
    (henter : names.foldlM fs.enter directory = .ok inner) :
    names.foldlM fs'.enter directory = .ok inner := by
  induction names generalizing directory with
  | nil => exact henter
  | cons name names ih =>
    rw [List.foldlM_cons, bind_eq_ok_iff] at henter ⊢
    obtain ⟨next, hnext, hrest⟩ := henter
    exact ⟨next, h.enter hnext, ih hrest⟩

/-- Paths start from where they started. -/
theorem start (h : fs.Grows fs') (path : Path) : fs'.start path = fs.start path := by
  unfold FileSystem.start
  rw [h.workingDirectory]

/-- A path keeps leading to its place. -/
theorem leadsTo (h : fs.Grows fs') (hplace : fs.LeadsTo path place) : fs'.LeadsTo path place := by
  obtain ⟨names, last, directory, hnames, hdot, hdots, hdirectory, hchild⟩ := hplace
  exact ⟨names, last, directory, hnames, hdot, hdots,
    h.start path ▸ h.foldlM_enter hdirectory, hchild⟩

/-- A directory is still found. -/
theorem find_directory (h : fs.Grows fs') (hfind : fs.find path = .ok (.found place .directory)) :
    fs'.find path = .ok (.found place .directory) := by
  rw [find_eq_directory_iff, LeadsToDirectory] at hfind ⊢
  rw [h.start]
  exact h.foldlM_enter hfind

end Grows

/-- Everything is where it was. -/
structure Same (fs fs' : FileSystem) : Prop where
  workingDirectory : fs'.workingDirectory = fs.workingDirectory
  node? : ∀ place, fs'.node? place = fs.node? place

namespace Same

/-- Nothing has to happen. -/
theorem refl (fs : FileSystem) : fs.Same fs :=
  ⟨rfl, fun _ => rfl⟩

/-- It does not matter which of them is the first one. -/
theorem symm (h : fs.Same fs') : fs'.Same fs :=
  ⟨h.workingDirectory.symm, fun place => (h.node? place).symm⟩

/-- What has not changed twice has not changed. -/
theorem trans {fs₁ fs₂ fs₃ : FileSystem} (h : fs₁.Same fs₂) (h' : fs₂.Same fs₃) : fs₁.Same fs₃ :=
  ⟨h'.workingDirectory.trans h.workingDirectory, fun place => (h'.node? place).trans (h.node? place)⟩

/-- Directories and files are still there. -/
theorem grows (h : fs.Same fs') : fs.Grows fs' where
  workingDirectory := h.workingDirectory
  directory := fun {place} hplace => (h.node? place).trans hplace
  file := fun {place content} hplace => ⟨content, (h.node? place).trans hplace⟩

/-- What is at a place is put there again. -/
theorem set {node : Node} (hplace : fs.node? place = some node) (hroot : place ≠ []) :
    fs.Same (fs.set place node) where
  workingDirectory := rfl
  node? := fun other => by
    by_cases hother : other = place
    · rw [hother, node?_set_self fs node hroot, hplace]
    · exact node?_set_of_ne fs node hother

end Same

/-! ### Files in a directory -/

/-- The names in the characters of a path. -/
def Path.namesIn (cs : List Char) : List String :=
  ((Text.partsBetween (· == '/') cs).filter fun part => !part.isEmpty).map String.ofList

/-- A text denotes the path of its characters. -/
theorem Path.eq_of_ofText {text : String} {path : Path} (h : Path.ofText text = .ok path) :
    text.toList ≠ [] ∧ path = ⟨text.toList.head? = some '/', Path.namesIn text.toList,
      text.toList.getLast? = some '/'⟩ := by
  unfold Path.ofText at h
  dsimp only at h
  split at h
  · cases h
  split at h
  · cases h
  split at h
  · cases h
  · next _ hempty _ =>
    cases h
    exact ⟨by simpa using hempty, rfl⟩

/-- The names in front of a slash and behind it. -/
theorem Path.namesIn_append (cs ds : List Char) :
    Path.namesIn (cs ++ '/' :: ds) = Path.namesIn cs ++ Path.namesIn ds := by
  rw [namesIn, Text.partsBetween_append (by rfl), List.filter_append, List.map_append]
  rfl

/-- A text without a slash is a single name. -/
theorem Path.namesIn_of_notMem {cs : List Char} (hne : cs ≠ []) (hslash : '/' ∉ cs) :
    Path.namesIn cs = [String.ofList cs] := by
  have hparts : Text.partsBetween (· == '/') cs = [cs] :=
    Text.partsBetween_of_forall fun c hc => beq_eq_false_iff_ne.mpr fun heq => hslash (heq ▸ hc)
  simp [namesIn, hparts, hne]

/-- Between a directory and a file stands one slash. -/
theorem toList_join {directory : String} (file : String) (hne : directory.toList ≠ []) :
    ∃ front, (join directory file).toList = front ++ '/' :: file.toList ∧
      (directory.toList = front ∨ directory.toList = front ++ ['/']) := by
  have hempty : directory.isEmpty = false := by
    simpa [String.isEmpty_iff, ← String.toList_eq_nil_iff] using hne
  unfold join
  rw [hempty, Bool.false_or]
  split
  · next hlast =>
    have hlast : directory.toList.getLast? = some '/' := by simpa using hlast
    obtain ⟨front, hfront⟩ := List.getLast?_eq_some_iff.mp hlast
    exact ⟨front, by simp [String.toList_append, hfront], .inr hfront⟩
  · exact ⟨directory.toList, by simp [String.toList_append], .inl rfl⟩

/-- A name that a file in a directory may have. -/
structure IsFileName (file : String) : Prop where
  ne_empty : file ≠ ""
  notMem_slash : '/' ∉ file.toList
  ne_dot : file ≠ "."
  ne_dots : file ≠ ".."
  size_le : file.utf8ByteSize ≤ maxNameBytes

/-- The paths to files with different names are different. -/
theorem join_injective (directory : String) : Function.Injective (join directory) := by
  intro file file' h
  unfold join at h
  split at h
  · exact (String.append_right_inj directory).mp h
  · exact (String.append_right_inj (directory ++ "/")).mp h

/-- The path to a file in a directory has one more name.

**Proof sketch.** Joining puts at most one slash between the directory and the file. The names of the
outcome are those in front of the slash, which are the names of the directory, and then the name of the
file, which holds no slash itself. Where the path starts is decided by the first character, and this is
that of the directory. -/
theorem Path.ofText_join {directory file : String} {inner outer : Path} (hfile : IsFileName file)
    (hinner : Path.ofText directory = .ok inner)
    (houter : Path.ofText (join directory file) = .ok outer) :
    outer = ⟨inner.fromRoot, inner.names ++ [file], false⟩ := by
  obtain ⟨hne, rfl⟩ := Path.eq_of_ofText hinner
  obtain ⟨-, rfl⟩ := Path.eq_of_ofText houter
  have hchars : file.toList ≠ [] := fun h => hfile.ne_empty (String.toList_eq_nil_iff.mp h)
  have hname : Path.namesIn file.toList = [file] := by
    rw [namesIn_of_notMem hchars hfile.notMem_slash, String.ofList_toList]
  obtain ⟨front, hjoin, hfront⟩ := toList_join file hne
  have hlast : (front ++ '/' :: file.toList).getLast? ≠ some '/' := by
    rw [List.append_cons, List.getLast?_append_of_ne_nil _ hchars]
    exact fun h => hfile.notMem_slash (List.mem_of_getLast? h)
  have hhead : (front ++ '/' :: file.toList).head? = directory.toList.head? := by
    rcases hfront with h | h
    · rw [h, List.head?_append_of_ne_nil _ (h ▸ hne)]
    · simp [h, List.head?_append]
  have hnames : Path.namesIn directory.toList = Path.namesIn front := by
    rcases hfront with h | h
    · rw [h]
    · rw [h, namesIn_append]
      simp [namesIn, Text.partsBetween]
  rw [hjoin, hhead, namesIn_append, hname, hnames, decide_eq_false hlast]

/-- A file in a directory is at the place of its name there. -/
theorem leadsTo_join {directory file : String} {inner outer : Path} (hfile : IsFileName file)
    (hinner : Path.ofText directory = .ok inner)
    (houter : Path.ofText (join directory file) = .ok outer)
    (hplace : fs.find inner = .ok (.found place .directory)) : fs.LeadsTo outer (file :: place) := by
  obtain rfl := Path.ofText_join hfile hinner houter
  exact ⟨inner.names, file, place, rfl, hfile.ne_dot, hfile.ne_dots, find_eq_directory_iff.mp hplace,
    if_neg (Nat.not_lt_of_le hfile.size_le)⟩

end FileSystem

end SchemaQueries
