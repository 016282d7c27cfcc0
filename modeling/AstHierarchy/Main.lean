import AstHierarchy.CommandLine.Run

/-!
# The program

The outer layer: the arguments and the file system of the machine, standard output and standard
error.
-/

namespace AstHierarchy.CommandLine

/-- The number of an error, which some calls report with its sign turned. -/
def unsigned (code : UInt32) : UInt32 := min code (0 - code)

/-- The reason that the operating system gives. -/
def FileError.ofSystem (e : IO.Error) : FileError :=
  match e with
  | .noFileOrDirectory .. => .notFound
  | .alreadyExists .. => .alreadyExists
  | .inappropriateType _ code _ => if unsigned code = 21 then .isDirectory else .notDirectory
  | .invalidArgument _ code details =>
    if unsigned code = 36 then .nameTooLong else .other details.toList
  | e => .other (toString e).toList

/-- The result of an action on the file system of the machine. -/
def attempt {α : Type} (action : IO α) : IO (Except FileError α) := do
  try
    return .ok (← action)
  catch e =>
    return .error (FileError.ofSystem e)

instance : FileSystem IO where
  readText path := do
    match ← attempt (IO.FS.readBinFile (String.ofList path)) with
    | .error e => return .error e
    | .ok bytes =>
      match String.fromUTF8? bytes with
      | some s => return .ok s.toList
      | none => return .error .notText
  writeText path text := attempt (IO.FS.writeFile (String.ofList path) (String.ofList text))
  makeDirectory path := attempt (IO.FS.createDir (String.ofList path))
  isDirectory path := do
    match ← attempt (IO.FS.realPath (String.ofList (path ++ "/.".toList))) with
    | .ok _ => return true
    | .error _ => return false

/-- The options, for those who ask how to use the program. -/
def usage : Text :=
  Text.unlines (Key.table.map fun (name, letter, _) =>
    "--".toList ++ name ++ (letter.map fun c => ", -".toList ++ [c]).getD [])

/-- Run the program, and do with the outcome what a program does. -/
def runOnMachine (arguments : List String) : IO UInt32 := do
  let arguments := arguments.map String.toList
  let outcome : Outcome ← start arguments
  IO.print (String.ofList outcome.stdout)
  if let .error .help := Arguments.read arguments then IO.print (String.ofList usage)
  for e in outcome.events do
    IO.eprintln (String.ofList e.message)
  if let some report := outcome.report then IO.eprint (String.ofList report)
  if outcome.code = 2 then IO.eprint (String.ofList usage)
  return outcome.code.toUInt32

end AstHierarchy.CommandLine

def main (arguments : List String) : IO UInt32 :=
  AstHierarchy.CommandLine.runOnMachine arguments
