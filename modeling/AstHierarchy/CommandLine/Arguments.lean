import AstHierarchy.Hierarchy.Generator
import AstHierarchy.Language.BuiltIn

/-!
# Arguments

What a user says on the command line, and how it is read.

An argument is an option or a value. Options are written long (`--base`) or as a letter (`-b`);
letters can be put together after one dash. Some options are flags, others take a value: the rest
of the argument after an equals sign (for a letter also without one), or else the next argument,
which must not look like an option. The only value that belongs to no option is the output
directory. After the argument `--` everything is a value. A single dash is a value too.

Nothing can be said twice. Long options are not abbreviated, and a flag takes no value.

The arguments are read from left to right and the first one that is wrong ends the reading, so
that a request for help counts only if nothing before it is wrong.
-/

namespace AstHierarchy.CommandLine

/-! ## Options -/

/-- An option that is there or not. -/
inductive Flag where
  /-- Print the file instead of saving it. -/
  | stdout
  /-- Print the node types instead of generating anything. -/
  | dumpTypes
  /-- Tell about every step. -/
  | verbose
  /-- Explain the options. -/
  | help
  deriving DecidableEq, Repr

/-- An option that takes a value. -/
inductive Setting where
  /-- The name of the base type. -/
  | base
  /-- The file with the grammar. -/
  | grammar
  /-- The language. -/
  | language
  /-- The namespace. -/
  | namespaceName
  deriving DecidableEq, Repr

/-- A flag or a setting. -/
inductive Key where
  /-- A flag. -/
  | flag (f : Flag)
  /-- A setting. -/
  | setting (s : Setting)
  deriving DecidableEq, Repr

/-- The options with their long names and their letters. -/
def Key.table : List (Text × Option Char × Key) :=
  [("base".toList, some 'b', .setting .base),
   ("grammar".toList, some 'g', .setting .grammar),
   ("lang".toList, some 'l', .setting .language),
   ("namespace".toList, some 'n', .setting .namespaceName),
   ("stdout".toList, none, .flag .stdout),
   ("dump-types".toList, none, .flag .dumpTypes),
   ("verbose".toList, some 'v', .flag .verbose),
   ("help".toList, some 'h', .flag .help)]

/-- The option with the long name. -/
def Key.ofName? (name : Text) : Option Key :=
  (Key.table.find? fun entry => entry.1 == name).map fun entry => entry.2.2

/-- The option with the letter. -/
def Key.ofLetter? (letter : Char) : Option Key :=
  (Key.table.find? fun entry => entry.2.1 == some letter).map fun entry => entry.2.2

/-! ## What has been said -/

/-- What has been said on the command line. -/
structure Arguments where
  /-- The directory in which the file is saved. -/
  outputDirectory : Option Text := none
  /-- The name of the base type. -/
  base : Option Text := none
  /-- The file with the grammar. -/
  grammar : Option Text := none
  /-- The language. -/
  language : Option Language := none
  /-- The namespace. -/
  namespaceName : Option Text := none
  /-- Whether the file is printed instead of being saved. -/
  stdout : Bool := false
  /-- Whether the node types are printed and nothing is generated. -/
  dumpTypes : Bool := false
  /-- Whether to tell about every step. -/
  verbose : Bool := false

/-- Why nothing is run. -/
inductive Refusal where
  /-- The arguments are wrong. -/
  | misuse
  /-- The user asks for help. -/
  | help
  deriving DecidableEq, Repr

namespace Arguments

/-- The name of the base type, or the usual one. -/
def baseName (a : Arguments) : Text := a.base.getD "Expr".toList

/-- The generator that is asked for; PHP without a namespace if nothing has been said. -/
def generator (a : Arguments) : Generator :=
  { language := a.language.getD Language.php, namespaceName := a.namespaceName }

/-- What has been said, and the flag. -/
def raise (a : Arguments) : Flag → Except Refusal Arguments
  | .stdout => if a.stdout then .error .misuse else .ok { a with stdout := true }
  | .dumpTypes => if a.dumpTypes then .error .misuse else .ok { a with dumpTypes := true }
  | .verbose => if a.verbose then .error .misuse else .ok { a with verbose := true }
  | .help => .error .help

/-- What has been said, and the value for the setting. The path of a file is not empty, and a
language must be known. -/
def give (a : Arguments) (value : Text) : Setting → Except Refusal Arguments
  | .base => if a.base.isSome then .error .misuse else .ok { a with base := some value }
  | .grammar =>
    if a.grammar.isSome || value.isEmpty then .error .misuse
    else .ok { a with grammar := some value }
  | .language =>
    if a.language.isSome then .error .misuse
    else
      match Language.ofId? value with
      | some l => .ok { a with language := some l }
      | none => .error .misuse
  | .namespaceName =>
    if a.namespaceName.isSome then .error .misuse
    else .ok { a with namespaceName := some value }

/-- What has been said, and the value that belongs to no option: a path that is not empty. -/
def place (a : Arguments) (value : Text) : Except Refusal Arguments :=
  if a.outputDirectory.isSome || value.isEmpty then .error .misuse
  else .ok { a with outputDirectory := some value }

/-- Whether enough has been said: there is a place to save the file in, or nothing to save. -/
def isComplete (a : Arguments) : Bool := a.outputDirectory.isSome || a.stdout || a.dumpTypes

/-! ## Reading -/

/-- Read a long option without its dashes. What is left open is the setting whose value is the next
argument. -/
def readLong (a : Arguments) (option : Text) : Except Refusal (Arguments × Option Setting) :=
  match Text.cutAt '=' option with
  | none =>
    match Key.ofName? option with
    | some (.flag f) => (a.raise f).map (·, none)
    | some (.setting s) => .ok (a, some s)
    | none => .error .misuse
  | some (name, value) =>
    match Key.ofName? name with
    | some (.setting s) => (a.give value s).map (·, none)
    | _ => .error .misuse

/-- Read the letters after a dash, with the same result. -/
def readLetters (a : Arguments) : Text → Except Refusal (Arguments × Option Setting)
  | [] => .ok (a, none)
  | letter :: rest =>
    match Key.ofLetter? letter with
    | some (.flag f) =>
      match a.raise f with
      | .ok a => readLetters a rest
      | .error e => .error e
    | some (.setting s) =>
      match rest with
      | [] => .ok (a, some s)
      | '=' :: value => (a.give value s).map (·, none)
      | value => (a.give value s).map (·, none)
    | none => .error .misuse

/-- Read arguments all of which are values. -/
def readValues (a : Arguments) : List Text → Except Refusal Arguments
  | [] => .ok a
  | value :: rest =>
    match a.place value with
    | .ok a => readValues a rest
    | .error e => .error e

/-- Whether the argument looks like an option, or like the end of options. -/
def isOption : Text → Bool
  | '-' :: _ :: _ => true
  | _ => false

/-- Read arguments, after a setting whose value is still open if there is one. -/
def readAll : Arguments → Option Setting → List Text → Except Refusal Arguments
  | a, none, [] => .ok a
  | _, some _, [] => .error .misuse
  | a, some s, value :: rest =>
    if isOption value then .error .misuse
    else
      match a.give value s with
      | .ok a => readAll a none rest
      | .error e => .error e
  | a, none, argument :: rest =>
    match argument with
    | ['-', '-'] => readValues a rest
    | '-' :: '-' :: option =>
      match a.readLong option with
      | .ok (a, left) => readAll a left rest
      | .error e => .error e
    | '-' :: letter :: letters =>
      match a.readLetters (letter :: letters) with
      | .ok (a, left) => readAll a left rest
      | .error e => .error e
    | value =>
      match a.place value with
      | .ok a => readAll a none rest
      | .error e => .error e

/-- What the arguments say, if they can be understood. -/
def read (arguments : List Text) : Except Refusal Arguments :=
  match readAll {} none arguments with
  | .ok a => if a.isComplete then .ok a else .error .misuse
  | .error e => .error e

end Arguments

end AstHierarchy.CommandLine
