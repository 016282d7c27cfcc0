import AstHierarchy.CommandLine.FileSystem

/-!
# File trees

A file tree is a file system as a value: the directories and files below a root directory, each
with the names that lead to it, and the directory that somebody works in.

## Paths

A path is followed name by name, from the root if it begins with a slash and from the working
directory otherwise. Every name but the last has to lead to a directory; `.` stays in a directory
and `..` goes back up, where the root is its own parent. So a path can lead out of the working
directory. Empty names do not count, except that a slash at the end of a path asks for a directory.
A name of more than 255 bytes is refused, and so is a path of more than 4095.
-/

namespace AstHierarchy.CommandLine

/-- Something that is in a file tree. -/
inductive Entry where
  /-- A directory. -/
  | directory
  /-- A file, with its text if its bytes are UTF-8. -/
  | file (text : Option Text)
  deriving DecidableEq, Repr

/-- The names that lead from the root to an entry. -/
abbrev Location := List Text

/-- The entries below a root directory, and the directory in which one works. -/
structure FileTree where
  /-- The entries. Where a location occurs twice, the first entry counts. -/
  entries : List (Location × Entry) := []
  /-- Where paths start that do not begin with a slash. -/
  workingDirectory : Location := []
  deriving DecidableEq, Repr

namespace FileTree

/-! ## Locations -/

/-- What is at a location. -/
def find? (tree : FileTree) : Location → Option Entry
  | [] => some .directory
  | names => tree.entries.lookup names

/-- The tree with the entry at the location, in place of what was there. -/
def insert (tree : FileTree) (names : Location) (e : Entry) : FileTree :=
  { tree with entries := (names, e) :: tree.entries.filter fun other => other.1 != names }

/-- The tree with the entry and with directories above it. -/
def insertDeep (tree : FileTree) (names : Location) (e : Entry) : FileTree :=
  let above := (List.range names.length).map (names.take ·)
  (above.foldl (fun t d => if (t.find? d).isNone then t.insert d .directory else t) tree).insert
    names e

/-- The tree in which there is nothing but an empty working directory and the directories above
it. -/
def empty (workingDirectory : Location) : FileTree :=
  insertDeep { workingDirectory } workingDirectory .directory

/-- What is below a directory, with the names that lead there from the directory. -/
def below (tree : FileTree) (directory : Location) : List (Location × Entry) :=
  tree.entries.filterMap fun (names, e) =>
    if directory.isPrefixOf names && names != directory then
      some (names.drop directory.length, e)
    else none

/-- What a path can lead to. -/
inductive Target where
  /-- To an entry. -/
  | found (names : Location) (e : Entry)
  /-- To nothing, but to a place in a directory. -/
  | absent (names : Location)
  deriving DecidableEq, Repr

/-- Where the names lead from the location. -/
def follow (tree : FileTree) (at_ : Location) : List Text → Except FileError Target
  | [] =>
    match tree.find? at_ with
    | some e => .ok (.found at_ e)
    | none => .ok (.absent at_)
  | name :: rest =>
    match tree.find? at_ with
    | none => .error .notFound
    | some (.file _) => .error .notDirectory
    | some .directory =>
      if name = ['.'] then follow tree at_ rest
      else if name = ['.', '.'] then follow tree at_.dropLast rest
      else if 255 < name.utf8Size then .error .nameTooLong
      else follow tree (at_ ++ [name]) rest

/-- Where a path starts. -/
def startOf (tree : FileTree) (path : Text) : Location :=
  if path.head? = some '/' then [] else tree.workingDirectory

/-- Where a path leads. -/
def target (tree : FileTree) (path : Text) : Except FileError Target :=
  if 4095 < path.utf8Size then .error .nameTooLong
  else tree.follow (tree.startOf path) (namesOf path)

/-! ## Operations -/

/-- The text of the file at the path. -/
def readText (tree : FileTree) (path : Text) : Except FileError Text :=
  match tree.target path with
  | .error e => .error e
  | .ok (.absent _) => .error .notFound
  | .ok (.found _ .directory) => .error .isDirectory
  | .ok (.found _ (.file text)) =>
    if path.getLast? = some '/' then .error .notDirectory
    else
      match text with
      | some t => .ok t
      | none => .error .notText

/-- The tree with a directory at the path. -/
def makeDirectory (tree : FileTree) (path : Text) : Except FileError FileTree :=
  match tree.target path with
  | .error e => .error e
  | .ok (.found _ _) => .error .alreadyExists
  | .ok (.absent names) => .ok (tree.insert names .directory)

/-- Whether there is a directory at the path. -/
def isDirectory (tree : FileTree) (path : Text) : Bool :=
  match tree.target path with
  | .ok (.found _ .directory) => true
  | _ => false

/-- The tree with the text in the file at the path. -/
def writeText (tree : FileTree) (path text : Text) : Except FileError FileTree :=
  match tree.target path with
  | .error e => .error e
  | .ok (.found _ .directory) => .error .isDirectory
  | .ok (.found names (.file _)) | .ok (.absent names) =>
    .ok (tree.insert names (.file (some text)))

/-- Take the changed tree, if there is one. -/
def change (f : FileTree → Except FileError FileTree) : StateM FileTree (Except FileError Unit) :=
  modifyGet fun tree =>
    match f tree with
    | .ok changed => (.ok (), changed)
    | .error e => (.error e, tree)

instance : FileSystem (StateM FileTree) where
  readText path := do return (← get).readText path
  writeText path text := change (·.writeText path text)
  makeDirectory path := change (·.makeDirectory path)
  isDirectory path := do return (← get).isDirectory path

/-! ## Small laws -/

/-- A path that begins with a slash does not depend on the working directory. -/
@[simp]
theorem startOf_slash (tree : FileTree) (path : Text) : tree.startOf ('/' :: path) = [] := rfl

/-- Putting something somewhere does not move the working directory. -/
@[simp]
theorem workingDirectory_insert (tree : FileTree) (names : Location) (e : Entry) :
    (tree.insert names e).workingDirectory = tree.workingDirectory := rfl

/-- Putting something somewhere changes nothing elsewhere. -/
theorem find?_insert_of_ne (tree : FileTree) {names other : Location} (h : other ≠ names)
    (e : Entry) : (tree.insert names e).find? other = tree.find? other := by
  have hne : (other == names) = false := by simpa using h
  have hlookup (entries : List (Location × Entry)) :
      (entries.filter fun entry => entry.1 != names).lookup other = entries.lookup other := by
    induction entries with
    | nil => rfl
    | cons entry rest ih =>
      obtain ⟨place, there⟩ := entry
      rw [List.filter_cons]
      by_cases hplace : place = names
      · subst hplace
        simp [List.lookup_cons, hne, ih]
      · simp [hplace, List.lookup_cons, ih]
  cases other with
  | nil => rfl
  | cons name rest => simp only [find?, insert, List.lookup_cons, hne, hlookup]

/-- What has been put somewhere is found there. -/
theorem find?_insert_self (tree : FileTree) {names : Location} (h : names ≠ []) (e : Entry) :
    (tree.insert names e).find? names = some e := by
  cases names with
  | nil => exact absurd rfl h
  | cons name rest => simp [find?, insert]

end FileTree

end AstHierarchy.CommandLine
