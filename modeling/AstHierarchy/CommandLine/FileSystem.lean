import AstHierarchy.Text.Basic

/-!
# File systems

What the program needs of a file system: reading and writing the text of a file, and making a
directory. Each of these can fail for a reason that is told to the user. The program is written
against this interface, so that it can run on the file system of the machine and on a file tree
that is a value.

A directory is made together with the directories above it that are missing. It is made at once if
there is a directory to hold it; otherwise the ones above come first, from the nearest that exists
downwards.
-/

namespace AstHierarchy.CommandLine

/-- Why a file system refuses something. -/
inductive FileError where
  /-- There is nothing at the path. -/
  | notFound
  /-- There is something at the path already. -/
  | alreadyExists
  /-- Something on the path is a file but would have to be a directory. -/
  | notDirectory
  /-- There is a directory at the path where a file is wanted. -/
  | isDirectory
  /-- A name on the path is too long. -/
  | nameTooLong
  /-- The bytes of the file are no text. -/
  | notText
  /-- Another reason, in words. -/
  | other (reason : Text)
  deriving DecidableEq, Repr

/-- The reason in words. -/
def FileError.message : FileError → Text
  | notFound => "No such file or directory (os error 2)".toList
  | alreadyExists => "File exists (os error 17)".toList
  | notDirectory => "Not a directory (os error 20)".toList
  | isDirectory => "Is a directory (os error 21)".toList
  | nameTooLong => "File name too long (os error 36)".toList
  | notText => "stream did not contain valid UTF-8".toList
  | other reason => reason

/-- A file system that actions of `m` work on. -/
class FileSystem (m : Type → Type) where
  /-- The text of the file at the path. -/
  readText : Text → m (Except FileError Text)
  /-- Write the text to the file at the path, in place of what it holds. -/
  writeText : Text → Text → m (Except FileError Unit)
  /-- Make a directory at the path. -/
  makeDirectory : Text → m (Except FileError Unit)
  /-- Whether there is a directory at the path. -/
  isDirectory : Text → m Bool

/-! ## Paths -/

/-- The path of a file in a directory. A path that begins with a slash leads away from the
directory. -/
def joinPath (directory file : Text) : Text :=
  match file with
  | '/' :: _ => file
  | _ =>
    if directory.getLast? = some '/' then directory ++ file else directory ++ '/' :: file

/-- The names of a path; empty ones do not count. -/
def namesOf (path : Text) : List Text := (path.splitOn '/').filter fun name => !name.isEmpty

/-- The path to where the names lead, from the root if `path` begins there. -/
def pathLike (path : Text) (names : List Text) : Text :=
  (if path.head? = some '/' then ['/'] else []) ++ ['/'].intercalate names

/-- The paths of the directories above a path, nearest first. A `.` is no directory of its own. -/
def directoriesAbove (path : Text) : List Text :=
  let names := (namesOf path).filter fun name => name != ['.']
  (List.range names.length).reverse.tail.map fun n => pathLike path (names.take (n + 1))

/-! ## Making directories -/

variable {m : Type → Type} [Monad m] [FileSystem m]

/-- The result where making a directory has failed: no failure if there is one already. -/
def settle (path : Text) (e : FileError) : m (Except FileError Unit) := do
  if ← FileSystem.isDirectory path then return .ok () else return .error e

/-- Make a directory at the path. If something on the way to it is missing, make what is `above`
first and try again. -/
def makeAfter (path : Text) (above : m (Except FileError Unit)) : m (Except FileError Unit) := do
  match ← FileSystem.makeDirectory path with
  | .ok _ => return .ok ()
  | .error .notFound =>
    match ← above with
    | .error e => return .error e
    | .ok _ =>
      match ← FileSystem.makeDirectory path with
      | .ok _ => return .ok ()
      | .error e => settle path e
  | .error e => settle path e

/-- Make directories at the paths, each of which leads to a directory in the one that the next path
leads to. -/
def makeEach : List Text → m (Except FileError Unit)
  | [] => return .ok ()
  | path :: above => makeAfter path (makeEach above)

/-- Make a directory at the path, and every directory above it that is missing. What has been made
until something fails stays. -/
def makeDirectories (path : Text) : m (Except FileError Unit) :=
  makeAfter path (makeEach (directoriesAbove path))

end AstHierarchy.CommandLine
