import AstHierarchy.CommandLine.Arguments
import AstHierarchy.CommandLine.FileSystem
import AstHierarchy.Grammar.Dump

/-!
# Running the program

The program reads a grammar, or takes the one it knows, and then does one of three things: it
prints the node types, prints the generated file or saves it. Everything that can be wrong with
the grammar is found before the first directory is made, so a run that fails there leaves the file
system alone.

What went wrong is reported with what the program was about to do and the cause of the failure;
the lines of a cause are indented.
-/

namespace AstHierarchy.CommandLine

/-- What a run leaves behind, apart from files. -/
structure Outcome where
  /-- The exit code. -/
  code : Nat := 0
  /-- What the run has printed. -/
  stdout : Text := []
  /-- What is told about a failure. -/
  report : Option Text := none
  /-- What has been reported on the way. -/
  events : List Event := []

namespace Outcome

/-- The report on a failure without anything to say about its circumstances. -/
def reportOf (message : Text) : Text := "Error: ".toList ++ message ++ ['\n']

/-- The report on a failure and its cause. -/
def reportWithCause (context cause : Text) : Text :=
  reportOf (context ++ "\n\nCaused by:\n    ".toList
    ++ cause.flatMap fun c => if c = '\n' then "\n    ".toList else [c])

/-- A failure, with the reason. -/
def failed (message : Text) (events : List Event) : Outcome :=
  { code := 1, report := some (reportOf message), events }

/-- A failure, with what the program was about to do and the cause. -/
def failedAt (context cause : Text) (events : List Event) : Outcome :=
  { code := 1, report := some (reportWithCause context cause), events }

/-- Nothing is run; the user is shown how to use the program, and arguments that nobody understands
are an error. -/
def refused : Refusal → Outcome
  | .help => {}
  | .misuse => { code := 2 }

/-- The outcome without the events that only those want to see who asked for them. -/
def tell (verbose : Bool) (o : Outcome) : Outcome :=
  { o with events := o.events.filter fun e => verbose || e.isWarning }

end Outcome

variable {m : Type → Type} [Monad m] [FileSystem m]

/-- The text of the grammar that the arguments name. -/
def readGrammarText (a : Arguments) : m (Except Outcome Text) :=
  match a.grammar with
  | none => return .ok (['\n'].intercalate loxExpressions)
  | some path => do
    match ← FileSystem.readText path with
    | .ok source => return .ok source
    | .error e =>
      return .error (.failedAt ("failed to read grammar ".toList ++ path) e.message [])

/-- Save a file in a directory. -/
def save (directory : Text) (file : GeneratedFile) (events : List Event) : m Outcome := do
  match ← makeDirectories directory with
  | .error e => return .failedAt ("failed to create ".toList ++ directory) e.message events
  | .ok _ =>
    let path := joinPath directory file.name
    match ← FileSystem.writeText path file.contents with
    | .error e => return .failedAt ("failed to write ".toList ++ path) e.message events
    | .ok _ => return { events }

/-- Print the node types that the lines declare. -/
def printTypes (lines : List Text) : Outcome :=
  match NodeType.ofLines lines with
  | .error e => .failed e.message []
  | .ok types =>
    { stdout := dumpTypes types ++ ['\n'], events := [.grammarRead types.length] }

/-- Print or save the file for the lines. -/
def produce (a : Arguments) (lines : List Text) : m Outcome :=
  let made := a.generator.file a.baseName lines
  match made.result with
  | .error e =>
    return .failedAt ("failed to generate the `".toList ++ a.baseName ++ "` hierarchy".toList)
      e.message made.events
  | .ok file =>
    if a.stdout then return { stdout := file.contents, events := made.events }
    else
      match a.outputDirectory with
      | none => return { events := made.events }
      | some directory => save directory file made.events

/-- Do what the arguments say. -/
def run (a : Arguments) : m Outcome := do
  match ← readGrammarText a with
  | .error outcome => return outcome
  | .ok source =>
    let lines := declarationLines source
    if a.dumpTypes then return printTypes lines else produce a lines

/-- Do what the arguments say, and tell of it what they want to be told. -/
def execute (a : Arguments) : m Outcome := do
  return (← run a).tell a.verbose

/-- Run the program with its arguments. -/
def start (arguments : List Text) : m Outcome :=
  match Arguments.read arguments with
  | .ok a => execute a
  | .error refusal => return .refused refusal

end AstHierarchy.CommandLine
