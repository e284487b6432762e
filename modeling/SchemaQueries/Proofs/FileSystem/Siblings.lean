import SchemaQueries.Proofs.FileSystem.Operations

/-!
# Files side by side in a directory

What an operation on a file comes to depends only on what its path leads to. It does not change what the
path to any other file in the same directory leads to, nor anything else.

## Main definitions

* `FileSystem.locate` — what the text of a path leads to.
* `FileSystem.Siblings` — the names of two files in one directory.
* `FileSystem.Offers` — the text leads to a place for a file.
* `FileSystem.SameChange` — two file systems in which the same becomes of an operation.
* `FileSystem.ChangesOnly` — nothing has changed but two files of a directory.

## Main results

* `FileSystem.lookup_congr`, `FileSystem.sameChange_truncate`, `FileSystem.sameChange_createNew`,
  `FileSystem.sameChange_write` — an operation depends only on what its path leads to.
* `FileSystem.Offers.locate_sibling` — storing a file does not change where its siblings are.
* `FileSystem.node?_congr` — what is at the place of a file is told by what its path leads to.
* `FileSystem.ChangesOnly.same` — so it is with everything, where only two files have changed.
-/

set_option autoImplicit false
set_option relaxedAutoImplicit false

namespace SchemaQueries.FileSystem

open Steps (bind_eq_ok_iff)

variable {fs fs' : FileSystem} {text : String} {path : Path} {place : Location} {content : Bytes}

/-- What the text of a path leads to. -/
def locate (fs : FileSystem) (text : String) : Except SystemError Target :=
  Path.ofText text >>= fs.find

/-- The text of a path leads to what the path leads to. -/
theorem locate_eq (hpath : Path.ofText text = .ok path) : fs.locate text = fs.find path := by
  rw [locate, hpath, Steps.ok_bind]

/-- The place that a text leads to is the one of what it leads to. -/
theorem place?_eq (fs : FileSystem) (text : String) : fs.place? text =
    match fs.locate text with
    | .ok (.found place _) | .ok (.vacant place) => some place
    | .error _ => none := rfl

/-- Where a text leads to depends only on what it leads to. -/
theorem place?_congr (h : fs'.locate text = fs.locate text) : fs'.place? text = fs.place? text := by
  rw [place?_eq, place?_eq, h]

/-- Nothing is at a free place that a text leads to. -/
theorem node?_of_locate_vacant (h : fs.locate text = .ok (.vacant place)) : fs.node? place = none := by
  obtain ⟨path, -, hfind⟩ := bind_eq_ok_iff.mp h
  exact (leadsTo_of_vacant hfind).2

/-- The names of two files in one directory. -/
structure Siblings (directory file file' : String) : Prop where
  directory : ∃ inner, Path.ofText directory = .ok inner
  fileName : IsFileName file
  fileName' : IsFileName file'
  ne : file ≠ file'

/-- It does not matter which of the files is the first one. -/
theorem Siblings.symm {directory file file' : String} (h : Siblings directory file file') :
    Siblings directory file' file :=
  ⟨h.directory, h.fileName', h.fileName, h.ne.symm⟩

/-! ### Places for files -/

/-- The text leads to the place, and there is a file or nothing at all. -/
def Offers (fs : FileSystem) (text : String) (place : Location) : Prop :=
  ∃ t, fs.locate text = .ok t ∧ (t = .vacant place ∨ ∃ old, t = .found place (.file old))

/-- Whether a text leads to a place for a file depends only on what it leads to. -/
theorem Offers.congr (h : fs.Offers text place) (hlocate : fs'.locate text = fs.locate text) :
    fs'.Offers text place := by
  unfold Offers
  rwa [hlocate]

namespace Offers

/-- Such a place is one for the last name of a path, and there is no directory. -/
theorem exists_leadsTo (h : fs.Offers text place) :
    ∃ path, Path.ofText text = .ok path ∧ fs.LeadsTo path place ∧
      fs.node? place ≠ some .directory := by
  obtain ⟨t, hlocate, ht⟩ := h
  obtain ⟨path, hpath, hfind⟩ := bind_eq_ok_iff.mp hlocate
  refine ⟨path, hpath, ?_⟩
  rcases ht with rfl | ⟨old, rfl⟩
  · obtain ⟨hleads, hnode⟩ := leadsTo_of_vacant hfind
    exact ⟨hleads, by rw [hnode]; nofun⟩
  · obtain ⟨hleads, hnode⟩ := leadsTo_of_file hfind
    exact ⟨hleads, by rw [hnode]; nofun⟩

/-- It is the place that the text leads to. -/
theorem place? (h : fs.Offers text place) : fs.place? text = some place := by
  obtain ⟨t, hlocate, ht⟩ := h
  rw [place?_eq, hlocate]
  rcases ht with rfl | ⟨old, rfl⟩ <;> rfl

/-- A file is stored there, and directories and files stay what they are. -/
theorem grows (h : fs.Offers text place) (content : Bytes) :
    fs.Grows (fs.set place (.file content)) := by
  obtain ⟨path, -, hleads, hdirectory⟩ := h.exists_leadsTo
  exact .set_file hdirectory hleads.ne_nil content

/-- A file that has been stored is what the text leads to. -/
theorem locate_set (h : fs.Offers text place) (content : Bytes) :
    (fs.set place (.file content)).locate text = .ok (.found place (.file content)) := by
  obtain ⟨path, hpath, hleads, -⟩ := h.exists_leadsTo
  rw [locate_eq hpath, ((h.grows content).leadsTo hleads).find, target,
    node?_set_self fs _ hleads.ne_nil]

/-- Storing a file does not change where another file of the same directory is.

**Proof sketch.** The path to the first file leads through the directory, so the directory is there, and
the path to the other file leads to its name in that directory. That place is a different one. -/
theorem locate_sibling {directory file file' : String} (hsiblings : Siblings directory file file')
    (h : fs.Offers (join directory file) place) (content : Bytes) :
    (fs.set place (.file content)).locate (join directory file') =
      fs.locate (join directory file') := by
  obtain ⟨inner, hinner⟩ := hsiblings.directory
  obtain ⟨outer, houter, hleads, -⟩ := h.exists_leadsTo
  have hslash : outer.slashAtEnd = false := by
    rw [Path.ofText_join hsiblings.fileName hinner houter]
  obtain ⟨parent, rfl, hparent⟩ :=
    exists_of_names_join hsiblings.fileName hinner ⟨outer, houter, hslash, hleads⟩
  cases houter' : Path.ofText (join directory file') with
  | error e => rw [locate, locate, houter']; rfl
  | ok outer' =>
    have hleads' := leadsTo_join hsiblings.fileName' hinner houter' hparent
    have hplace : file' :: parent ≠ file :: parent := by
      intro heq
      exact hsiblings.ne (List.cons.inj heq).1.symm
    rw [locate_eq houter', locate_eq houter', hleads'.find, ((h.grows content).leadsTo hleads').find,
      target, target, node?_set_of_ne fs _ hplace]

end Offers

/-! ### Operations -/

/-- What is found at the end of a path depends only on what the path leads to. -/
theorem lookup_congr (h : fs'.locate text = fs.locate text) : fs'.lookup text = fs.lookup text := by
  unfold lookup
  cases hpath : Path.ofText text with
  | error e => rfl
  | ok path =>
    rw [locate_eq hpath, locate_eq hpath] at h
    rw [Steps.ok_bind, Steps.ok_bind, h]

/-- An operation is refused in both file systems for the same reason, or it stores the same file at the
same place. -/
inductive SameChange (text : String) (fs fs' : FileSystem) :
    Except SystemError FileSystem → Except SystemError FileSystem → Prop
  | refused (e : SystemError) : SameChange text fs fs' (.error e) (.error e)
  | stored {place : Location} (content : Bytes) : fs.Offers text place →
      SameChange text fs fs' (.ok (fs.set place (.file content)))
        (.ok (fs'.set place (.file content)))

/-- Emptying a file depends only on what its path leads to. -/
theorem sameChange_truncate (h : fs'.locate text = fs.locate text) :
    SameChange text fs fs' (fs.truncate text) (fs'.truncate text) := by
  unfold truncate
  cases hpath : Path.ofText text with
  | error e => exact .refused e
  | ok path =>
    rw [locate_eq hpath, locate_eq hpath] at h
    rw [Steps.ok_bind, Steps.ok_bind]
    split
    · exact .refused .isDirectory
    · rw [h]
      match hfind : fs.find path with
      | .error e => exact .refused e
      | .ok (.found place .directory) => exact .refused .isDirectory
      | .ok (.found place (.file old)) =>
        exact .stored [] ⟨_, (locate_eq hpath).trans hfind, .inr ⟨old, rfl⟩⟩
      | .ok (.vacant place) => exact .stored [] ⟨_, (locate_eq hpath).trans hfind, .inl rfl⟩

/-- Creating a file depends only on what its path leads to. -/
theorem sameChange_createNew (h : fs'.locate text = fs.locate text) :
    SameChange text fs fs' (fs.createNew text) (fs'.createNew text) := by
  unfold createNew
  cases hpath : Path.ofText text with
  | error e => exact .refused e
  | ok path =>
    rw [locate_eq hpath, locate_eq hpath] at h
    rw [Steps.ok_bind, Steps.ok_bind]
    split
    · exact .refused .isDirectory
    · rw [h]
      match hfind : fs.find path with
      | .error e => exact .refused e
      | .ok (.found place node) => exact .refused .alreadyExists
      | .ok (.vacant place) => exact .stored [] ⟨_, (locate_eq hpath).trans hfind, .inl rfl⟩

/-- Giving a file its content depends only on what its path leads to. -/
theorem sameChange_write (h : fs'.locate text = fs.locate text) (content : Bytes) :
    SameChange text fs fs' (fs.write text content) (fs'.write text content) := by
  unfold write
  cases hpath : Path.ofText text with
  | error e => exact .refused e
  | ok path =>
    rw [locate_eq hpath, locate_eq hpath] at h
    rw [Steps.ok_bind, Steps.ok_bind, h]
    match hfind : fs.find path with
    | .error e => exact .refused e
    | .ok (.found place .directory) => exact .refused .isDirectory
    | .ok (.found place (.file old)) =>
      exact .stored content ⟨_, (locate_eq hpath).trans hfind, .inr ⟨old, rfl⟩⟩
    | .ok (.vacant place) => exact .refused .noEntry

/-! ### What is at the place of a file -/

/-- What the path to a file in a directory leads to is there. -/
theorem node?_of_locate_join {directory file : String} {inner : Path} {node : Node}
    (hfile : IsFileName file) (hinner : Path.ofText directory = .ok inner)
    (h : fs.locate (join directory file) = .ok (.found place node)) :
    fs.node? place = some node := by
  obtain ⟨outer, houter, hfind⟩ := bind_eq_ok_iff.mp h
  obtain rfl := Path.ofText_join hfile hinner houter
  have hfollow : fs.follow (fs.start inner) (inner.names ++ [file]) = .ok (.found place node) := hfind
  rw [follow_concat, bind_eq_ok_iff] at hfollow
  obtain ⟨parent, -, hlast⟩ := hfollow
  rw [follow_single hfile.ne_dot hfile.ne_dots, Steps.map_eq_ok_iff] at hlast
  obtain ⟨place', -, htarget⟩ := hlast
  obtain ⟨rfl, hnode⟩ := target_eq_found_iff.mp htarget
  exact hnode

/-- What is at the place of a file is told by what the path to the file leads to. -/
theorem node?_congr {directory file : String} {inner : Path} (hfile : IsFileName file)
    (hinner : Path.ofText directory = .ok inner)
    (h : fs'.locate (join directory file) = fs.locate (join directory file))
    (hplace : fs.place? (join directory file) = some place) :
    fs'.node? place = fs.node? place := by
  cases hlocate : fs.locate (join directory file) with
  | error e =>
    rw [place?_eq, hlocate] at hplace
    cases hplace
  | ok t =>
    rw [hlocate] at h
    rw [place?_eq, hlocate] at hplace
    cases t with
    | found found node =>
      obtain rfl := Option.some.inj hplace
      rw [node?_of_locate_join hfile hinner h, node?_of_locate_join hfile hinner hlocate]
    | vacant free =>
      obtain rfl := Option.some.inj hplace
      rw [node?_of_locate_vacant h, node?_of_locate_vacant hlocate]

/-! ### What else is there -/

/-- Nothing has changed but the two files, and their paths lead to where they did. -/
structure ChangesOnly (directory file file' : String) (fs fs' : FileSystem) : Prop where
  workingDirectory : fs'.workingDirectory = fs.workingDirectory
  place? : fs'.place? (join directory file) = fs.place? (join directory file)
  place?' : fs'.place? (join directory file') = fs.place? (join directory file')
  node? : ∀ other, fs.place? (join directory file) ≠ some other →
    fs.place? (join directory file') ≠ some other → fs'.node? other = fs.node? other

namespace ChangesOnly

variable {directory file file' : String} {fs₁ fs₂ : FileSystem}

/-- Nothing has to change. -/
theorem refl (directory file file' : String) (fs : FileSystem) :
    ChangesOnly directory file file' fs fs :=
  ⟨rfl, rfl, rfl, fun _ _ _ => rfl⟩

/-- It does not matter which of the files is the first one. -/
theorem symm (h : ChangesOnly directory file file' fs fs') : ChangesOnly directory file' file fs fs' :=
  ⟨h.workingDirectory, h.place?', h.place?, fun other hne hne' => h.node? other hne' hne⟩

/-- One change may follow another one. -/
theorem trans (h : ChangesOnly directory file file' fs fs₁)
    (h' : ChangesOnly directory file file' fs₁ fs₂) : ChangesOnly directory file file' fs fs₂ where
  workingDirectory := h'.workingDirectory.trans h.workingDirectory
  place? := h'.place?.trans h.place?
  place?' := h'.place?'.trans h.place?'
  node? := by
    intro other hne hne'
    rw [h'.node? other (h.place? ▸ hne) (h.place?' ▸ hne'), h.node? other hne hne']

/-- Storing one of the files changes nothing else. -/
theorem of_offers (hsiblings : Siblings directory file file')
    (h : fs.Offers (join directory file) place) (content : Bytes) :
    ChangesOnly directory file file' fs (fs.set place (.file content)) where
  workingDirectory := rfl
  place? := by
    rw [place?_eq, h.locate_set, h.place?]
  place?' := place?_congr (h.locate_sibling hsiblings content)
  node? := by
    intro other hne _
    apply node?_set_of_ne
    rintro rfl
    exact hne h.place?

/-- Where only the two files have changed, what their paths lead to tells everything. -/
theorem same (hsiblings : Siblings directory file file')
    (h₁ : ChangesOnly directory file file' fs fs₁) (h₂ : ChangesOnly directory file file' fs fs₂)
    (hfile : fs₂.locate (join directory file) = fs₁.locate (join directory file))
    (hfile' : fs₂.locate (join directory file') = fs₁.locate (join directory file')) :
    fs₁.Same fs₂ where
  workingDirectory := h₂.workingDirectory.trans h₁.workingDirectory.symm
  node? := by
    intro other
    obtain ⟨inner, hinner⟩ := hsiblings.directory
    by_cases hplace : fs.place? (join directory file) = some other
    · exact node?_congr hsiblings.fileName hinner hfile (h₁.place?.trans hplace)
    by_cases hplace' : fs.place? (join directory file') = some other
    · exact node?_congr hsiblings.fileName' hinner hfile' (h₁.place?'.trans hplace')
    · rw [h₁.node? other hplace hplace', h₂.node? other hplace hplace']

end ChangesOnly

end SchemaQueries.FileSystem
