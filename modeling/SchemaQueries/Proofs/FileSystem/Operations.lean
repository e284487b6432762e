import SchemaQueries.Proofs.FileSystem.Paths

/-!
# What the operations do

Each operation that goes through changes at most one place: the one that its path leads to.

## Main definitions

* `FileSystem.Names` — a text names a place for a file.
* `FileSystem.SamePlace` — two texts lead to the same place.

## Main results

* `FileSystem.lookup_of_names`, `FileSystem.write_of_names`, `FileSystem.truncate_of_names` — what is
  found at the place of a file, how it is given a content, and how it is emptied.
* `FileSystem.names_of_createNew`, `FileSystem.leadsTo_of_createDirectory` — what has happened where
  something has been created.
-/

set_option autoImplicit false
set_option relaxedAutoImplicit false

namespace SchemaQueries.FileSystem

open Steps (bind_eq_ok_iff)

variable {fs fs' : FileSystem} {text : String} {place place' : Location}

/-- The text is that of a path to the place, as a path to a file has to be. -/
def Names (fs : FileSystem) (text : String) (place : Location) : Prop :=
  ∃ path, Path.ofText text = .ok path ∧ path.slashAtEnd = false ∧ fs.LeadsTo path place

namespace Names

/-- A name keeps its place. -/
theorem mono (h : fs.Names text place) (hgrows : fs.Grows fs') : fs'.Names text place := by
  obtain ⟨path, hpath, hslash, hleads⟩ := h
  exact ⟨path, hpath, hslash, hgrows.leadsTo hleads⟩

/-- The place of a name is not the root. -/
theorem ne_nil (h : fs.Names text place) : place ≠ [] := by
  obtain ⟨_, _, _, hleads⟩ := h
  exact hleads.ne_nil

end Names

/-- The path to a file in a directory leads through that directory. -/
theorem exists_of_names_join {directory file : String} {inner : Path} (hfile : IsFileName file)
    (hinner : Path.ofText directory = .ok inner) (h : fs.Names (join directory file) place) :
    ∃ parent, place = file :: parent ∧ fs.find inner = .ok (.found parent .directory) := by
  obtain ⟨outer, houter, -, names, last, parent, hnames, -, -, hparent, hchild⟩ := h
  obtain rfl := Path.ofText_join hfile hinner houter
  obtain ⟨rfl, hlast⟩ := List.append_inj' hnames rfl
  obtain rfl := (List.cons.inj hlast).1
  refine ⟨parent, ?_, find_eq_directory_iff.mpr hparent⟩
  rw [child, if_neg (Nat.not_lt_of_le hfile.size_le)] at hchild
  exact (Except.ok.inj hchild).symm

/-- The place of a file in a directory. -/
theorem eq_of_names_join {directory file : String} {inner : Path} (hfile : IsFileName file)
    (hinner : Path.ofText directory = .ok inner)
    (hplace : fs.find inner = .ok (.found place .directory))
    (h : fs.Names (join directory file) place') : place' = file :: place := by
  obtain ⟨outer, houter, -, hleads⟩ := h
  exact hleads.unique (leadsTo_join hfile hinner houter hplace)

/-- What is at the end of a path to a file. -/
theorem lookup_of_names (h : fs.Names text place) :
    fs.lookup text = match fs.node? place with
      | some node => .ok node
      | none => .error .noEntry := by
  obtain ⟨path, hpath, hslash, hleads⟩ := h
  rw [lookup, hpath, Steps.ok_bind, hleads.find, Steps.ok_bind, target]
  rcases fs.node? place with _ | node
  · rfl
  · cases node with
    | directory => rfl
    | file content =>
      dsimp only
      rw [hslash, if_neg Bool.false_ne_true]
      rfl

/-- What is at the end of a path stays the same as long as its place does. -/
theorem lookup_eq_of_grows (h : fs.Names text place) (hgrows : fs.Grows fs')
    (hplace : fs'.node? place = fs.node? place) : fs'.lookup text = fs.lookup text := by
  rw [lookup_of_names h, lookup_of_names (h.mono hgrows), hplace]

/-- The place of a file that is found. -/
theorem names_of_lookup {content : Bytes} (h : fs.lookup text = .ok (.file content)) :
    ∃ place, fs.Names text place ∧ fs.node? place = some (.file content) := by
  obtain ⟨path, hpath, h⟩ := bind_eq_ok_iff.mp h
  obtain ⟨t, hfind, h⟩ := bind_eq_ok_iff.mp h
  match t, h with
  | .found _ .directory, h => cases h
  | .vacant _, h => cases h
  | .found place (.file content'), h =>
    obtain ⟨hleads, hnode⟩ := leadsTo_of_file hfind
    dsimp only at h
    split at h
    · cases h
    · next hslash =>
      cases h
      exact ⟨place, ⟨path, hpath, eq_false_of_ne_true hslash, hleads⟩, hnode⟩

/-- A file gets the content that is written. -/
theorem write_of_names (h : fs.Names text place) {content content' : Bytes}
    (hnode : fs.node? place = some (.file content)) :
    fs.write text content' = .ok (fs.set place (.file content')) := by
  obtain ⟨path, hpath, hslash, hleads⟩ := h
  rw [write, hpath, Steps.ok_bind, hleads.find, Steps.ok_bind, target, hnode]
  rfl

/-- A file is emptied. -/
theorem truncate_of_names (h : fs.Names text place) {content : Bytes}
    (hnode : fs.node? place = some (.file content)) :
    fs.truncate text = .ok (fs.set place (.file [])) := by
  obtain ⟨path, hpath, hslash, hleads⟩ := h
  rw [truncate, hpath, Steps.ok_bind, hslash, if_neg Bool.false_ne_true, hleads.find, target, hnode]
  rfl

/-- A file that has been created was not there, and is empty. -/
theorem names_of_createNew (h : fs.createNew text = .ok fs') :
    ∃ place, fs.Names text place ∧ fs.node? place = none ∧ fs' = fs.set place (.file []) := by
  obtain ⟨path, hpath, h⟩ := bind_eq_ok_iff.mp h
  cases hslash : path.slashAtEnd with
  | true =>
    rw [hslash] at h
    cases h
  | false =>
    rw [hslash] at h
    obtain ⟨-, -, h⟩ := bind_eq_ok_iff.mp h
    obtain ⟨t, hfind, h⟩ := bind_eq_ok_iff.mp h
    cases t with
    | found _ _ => cases h
    | vacant place =>
      cases h
      obtain ⟨hleads, hnode⟩ := leadsTo_of_vacant hfind
      exact ⟨place, ⟨path, hpath, hslash, hleads⟩, hnode, rfl⟩

/-- A directory that has been created was not there. -/
theorem leadsTo_of_createDirectory (h : fs.createDirectory text = .ok fs') :
    ∃ path place, Path.ofText text = .ok path ∧ fs.LeadsTo path place ∧ fs.node? place = none ∧
      fs' = fs.set place .directory := by
  obtain ⟨path, hpath, h⟩ := bind_eq_ok_iff.mp h
  obtain ⟨t, hfind, h⟩ := bind_eq_ok_iff.mp h
  cases t with
  | found _ _ => cases h
  | vacant place =>
    cases h
    obtain ⟨hleads, hnode⟩ := leadsTo_of_vacant hfind
    exact ⟨path, place, hpath, hleads, hnode, rfl⟩

/-- What has been put at a place last is what is there. -/
theorem set_set (fs : FileSystem) (place : Location) (node node' : Node) :
    (fs.set place node).set place node' = fs.set place node' := by
  simp [set]

/-! ### Texts of the same place -/

/-- The place that the text of a path leads to. -/
def place? (fs : FileSystem) (text : String) : Option Location :=
  match Path.ofText text >>= fs.find with
  | .ok (.found place _) | .ok (.vacant place) => some place
  | .error _ => none

/-- Both texts lead to the same place. -/
def SamePlace (fs : FileSystem) (text text' : String) : Prop :=
  ∃ place, fs.place? text = some place ∧ fs.place? text' = some place

/-- Texts that lead to different places do not lead to the same place. -/
theorem not_samePlace {text' : String} (h : fs.place? text ≠ fs.place? text') :
    ¬ fs.SamePlace text text' :=
  fun ⟨_, hplace, hplace'⟩ => h (hplace.trans hplace'.symm)

/-- A name leads to its place. -/
theorem Names.place? (h : fs.Names text place) : fs.place? text = some place := by
  obtain ⟨path, hpath, -, hleads⟩ := h
  rw [FileSystem.place?, hpath, Steps.ok_bind, hleads.find, target]
  cases fs.node? place <;> rfl

/-- The text of a path to a directory leads to its place. -/
theorem place?_of_find {path : Path} {node : Node} (hpath : Path.ofText text = .ok path)
    (h : fs.find path = .ok (.found place node)) : fs.place? text = some place := by
  rw [FileSystem.place?, hpath, Steps.ok_bind, h]

end SchemaQueries.FileSystem
