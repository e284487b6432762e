import SchemaQueries.FileSystem.Path

/-!
# File systems

Directories and files, and what happens to them: the operations that a program asks a system for.
Every directory but the root stands in a directory. There are no links, so a place has one path,
apart from the names `.` and `..` and slashes.

## Main definitions

* `FileSystem.Location`, `FileSystem.Node` — where something is, and what it is.
* `FileSystem` — what is where, and the directory that relative paths start from.
* `FileSystem.node?` — what is at a place; everything else about a file system follows from it.
* `FileSystem.find` — what a path leads to.
* `FileSystem.has`, `FileSystem.read`, `FileSystem.createDirectory`, `FileSystem.truncate`,
  `FileSystem.createNew`, `FileSystem.write`, … — the operations.

## Main results

* `FileSystem.node?_set_self`, `FileSystem.node?_set_of_ne` — what is at a place after something
  has been put somewhere.
* `FileSystem.node?_erase` — what is at a place after something has been removed.
-/

set_option autoImplicit false
set_option relaxedAutoImplicit false

namespace SchemaQueries

/-- Where something is: the names from the innermost one to the outermost one. The root is the
empty list. -/
abbrev FileSystem.Location := List String

/-- What is at a place. -/
inductive FileSystem.Node where
  | directory
  | file (content : Bytes)
  deriving DecidableEq, Repr

/-- What is where, and the directory that relative paths start from. -/
structure FileSystem where
  nodes : List (FileSystem.Location × FileSystem.Node)
  workingDirectory : FileSystem.Location
  deriving Repr

namespace FileSystem

/-- Only an empty working directory, below the root. -/
def empty : FileSystem :=
  ⟨[(["work"], .directory)], ["work"]⟩

/-! ### Places -/

/-- What is at a place. -/
def node? (fs : FileSystem) (place : Location) : Option Node :=
  if place = [] then some .directory else fs.nodes.lookup place

/-- Puts something at a place. -/
def set (fs : FileSystem) (place : Location) (node : Node) : FileSystem :=
  { fs with nodes := (place, node) :: fs.nodes.filter (·.1 != place) }

/-- Removes a place and everything below it. -/
def erase (fs : FileSystem) (place : Location) : FileSystem :=
  { fs with nodes := fs.nodes.filter fun entry => !place.isSuffixOf entry.1 }

/-- Dropping entries by their places leaves what is at the other places. -/
theorem lookup_filter (keep : Location → Bool) (place : Location)
    (nodes : List (Location × Node)) :
    (nodes.filter fun entry => keep entry.1).lookup place =
      if keep place then nodes.lookup place else none := by
  induction nodes with
  | nil => simp
  | cons entry rest ih =>
    obtain ⟨p, node⟩ := entry
    rw [List.filter_cons]
    by_cases h : place = p
    · subst h
      cases hk : keep place <;> simp [hk, ih]
    · have hb : (place == p) = false := beq_eq_false_iff_ne.mpr h
      cases keep p <;> simp [ih, List.lookup_cons, hb]

/-- What has been put at a place is there. -/
@[simp] theorem node?_set_self {place : Location} (fs : FileSystem) (node : Node)
    (h : place ≠ []) : (fs.set place node).node? place = some node := by
  simp [node?, set, h]

/-- Nothing changes at any other place. -/
theorem node?_set_of_ne {place other : Location} (fs : FileSystem) (node : Node)
    (h : other ≠ place) : (fs.set place node).node? other = fs.node? other := by
  have hb : (other == place) = false := beq_eq_false_iff_ne.mpr h
  simp [node?, set, List.lookup_cons, hb, lookup_filter (· != place), h]

/-- Nothing is at a place below one that has been erased, and all else is where it was. -/
theorem node?_erase {place other : Location} (fs : FileSystem) (h : other ≠ []) :
    (fs.erase place).node? other = if place.isSuffixOf other then none else fs.node? other := by
  unfold node? erase
  rw [if_neg h, if_neg h, lookup_filter fun p => !place.isSuffixOf p]
  cases place.isSuffixOf other <;> rfl

/-! ### What a path leads to -/

/-- What a path leads to: something, or a free place in a directory. -/
inductive Target where
  | found (place : Location) (node : Node)
  | vacant (place : Location)
  deriving DecidableEq, Repr

/-- The place of a name in a directory, if the name is not too long. -/
def child (directory : Location) (name : String) : Except SystemError Location :=
  if maxNameBytes < name.utf8ByteSize then .error .nameTooLong else .ok (name :: directory)

/-- The directory that a name in a directory leads to. -/
def enter (fs : FileSystem) (directory : Location) (name : String) :
    Except SystemError Location :=
  if name = "." then .ok directory
  else if name = ".." then .ok directory.tail
  else do
    let place ← child directory name
    match fs.node? place with
    | some .directory => return place
    | some (.file _) => throw .notDirectory
    | none => throw .noEntry

/-- What the names lead to from a directory. -/
def follow (fs : FileSystem) (directory : Location) : List String → Except SystemError Target
  | [] => .ok (.found directory .directory)
  | [last] =>
    if last = "." || last = ".." then do
      return .found (← fs.enter directory last) .directory
    else do
      let place ← child directory last
      match fs.node? place with
      | some node => return .found place node
      | none => return .vacant place
  | name :: next :: rest => do follow fs (← fs.enter directory name) (next :: rest)

/-- What a path leads to. -/
def find (fs : FileSystem) (path : Path) : Except SystemError Target :=
  fs.follow (if path.fromRoot then [] else fs.workingDirectory) path.names

/-! ### Operations -/

/-- What is at the end of a path. A path to a file must not end in a slash. -/
def lookup (fs : FileSystem) (text : String) : Except SystemError Node := do
  let path ← Path.ofText text
  match ← fs.find path with
  | .found _ .directory => return .directory
  | .found _ (.file content) =>
    if path.slashAtEnd then throw .notDirectory else return .file content
  | .vacant _ => throw .noEntry

/-- Whether a path leads to something. A path that cannot be followed does not. -/
def has (fs : FileSystem) (text : String) : Bool :=
  match fs.lookup text with
  | .ok _ => true
  | .error _ => false

/-- The content of what has been opened. -/
def Node.content : Node → Except SystemError Bytes
  | file content => .ok content
  | directory => .error .isDirectory

/-- The content of a file. -/
def read (fs : FileSystem) (text : String) : Except SystemError Bytes := do
  (← fs.lookup text).content

/-- Creates a directory in a directory that is there. -/
def createDirectory (fs : FileSystem) (text : String) : Except SystemError FileSystem := do
  match ← fs.find (← Path.ofText text) with
  | .found _ _ => throw .alreadyExists
  | .vacant place => return fs.set place .directory

/-- Empties a file, or creates an empty one. -/
def truncate (fs : FileSystem) (text : String) : Except SystemError FileSystem := do
  let path ← Path.ofText text
  if path.slashAtEnd then throw .isDirectory
  match ← fs.find path with
  | .found _ .directory => throw .isDirectory
  | .found place (.file _) => return fs.set place (.file [])
  | .vacant place => return fs.set place (.file [])

/-- Creates an empty file where nothing is. -/
def createNew (fs : FileSystem) (text : String) : Except SystemError FileSystem := do
  let path ← Path.ofText text
  if path.slashAtEnd then throw .isDirectory
  match ← fs.find path with
  | .found _ _ => throw .alreadyExists
  | .vacant place => return fs.set place (.file [])

/-- Gives a file its content. -/
def write (fs : FileSystem) (text : String) (content : Bytes) :
    Except SystemError FileSystem := do
  let path ← Path.ofText text
  match ← fs.find path with
  | .found _ .directory => throw .isDirectory
  | .found place (.file _) => return fs.set place (.file content)
  | .vacant _ => throw .noEntry

/-! ### Several steps at once -/

/-- Creates the directories that the names lead to from a directory, as far as they are missing.
On a failure those before it have been created. -/
def createBelow (fs : FileSystem) (directory : Location) :
    List String → Except SystemError Unit × FileSystem
  | [] => (.ok (), fs)
  | name :: rest =>
    match fs.follow directory [name] with
    | .error e => (.error e, fs)
    | .ok (.found _ (.file _)) => (.error .notDirectory, fs)
    | .ok (.found place .directory) => createBelow fs place rest
    | .ok (.vacant place) => createBelow (fs.set place .directory) place rest

/-- Creates a directory and those that it stands in, as far as they are missing. -/
def createDirectories (fs : FileSystem) (text : String) : Except SystemError Unit × FileSystem :=
  if text.isEmpty then (.ok (), fs)
  else
    match Path.ofText text with
    | .error e => (.error e, fs)
    | .ok path => fs.createBelow (if path.fromRoot then [] else fs.workingDirectory) path.names

/-- Creates a file with a content, or gives it to the one that is there. -/
def put (fs : FileSystem) (text : String) (content : Bytes) : Except SystemError FileSystem := do
  (← fs.truncate text).write text content

/-- Removes a file or a whole directory, but not the one that relative paths start from. -/
def remove (fs : FileSystem) (text : String) : Except SystemError FileSystem := do
  let path ← Path.ofText text
  match ← fs.find path with
  | .vacant _ => throw .noEntry
  | .found place (.file _) => if path.slashAtEnd then throw .notDirectory else return fs.erase place
  | .found place .directory =>
    if place.isSuffixOf fs.workingDirectory then throw .isDirectory else return fs.erase place

/-- The path from the working directory to a place below it, with a slash behind a directory. -/
def relativePath? (fs : FileSystem) (place : Location) (node : Node) : Option String :=
  let below := place.length - fs.workingDirectory.length
  if fs.workingDirectory.isSuffixOf place && below ≠ 0 then
    let text := "/".intercalate (place.take below).reverse
    some (match node with
      | .directory => text ++ "/"
      | .file _ => text)
  else none

/-- The paths of everything below the working directory, in the order of their characters. -/
def paths (fs : FileSystem) : List String :=
  (fs.nodes.filterMap fun entry => fs.relativePath? entry.1 entry.2).mergeSort (· ≤ ·)

end FileSystem

end SchemaQueries
