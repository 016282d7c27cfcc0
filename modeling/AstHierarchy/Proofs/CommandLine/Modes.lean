import AstHierarchy.CommandLine.Run
import AstHierarchy.Proofs.CommandLine.Arguments
import AstHierarchy.Proofs.CommandLine.Saving
import AstHierarchy.Proofs.Text.Lowercase
import Mathlib.Data.List.Basic

/-!
# Printing and saving

A run that prints and a run that saves share everything up to the generated file. What can go wrong
on the way to it goes wrong before anything has been printed or made, so such a run leaves nothing
behind but its report. Past that point a run that prints does not touch the file system, and a run
that saves prints nothing.

* `modes_agree`: the ways in which a run can end, on every tree, and how the run of arguments is
  related to the run of the same arguments with standard output asked for.
-/

namespace AstHierarchy.CommandLine

/-! ## The name of the file -/

theorem isName_fileNameFor {l : Language} (hl : l ∈ Language.builtIn) {base : Text}
    (hbase : '/' ∉ base) : IsName (l.fileNameFor base) ∧ 2 < (l.fileNameFor base).length := by
  have hmem : l = Language.php ∨ l = Language.typeScript ∨ l = Language.java ∨
      l = Language.python := by simpa [Language.builtIn] using hl
  have hlower : '/' ∉ Text.lowercase base :=
    fun h => hbase (Text.isNoImage_slash.mem_of_mem_lowercase h)
  have hsuffix {t suffix : Text} (ht : '/' ∉ t) (hslash : '/' ∉ suffix)
      (hlength : 2 < suffix.length) : IsName (t ++ suffix) ∧ 2 < (t ++ suffix).length := by
    have hlong : 2 < (t ++ suffix).length := by
      rw [List.length_append]
      omega
    refine ⟨⟨?_, by simp [ht, hslash]⟩, hlong⟩
    rintro hnil
    simp [hnil] at hlong
  rcases hmem with rfl | rfl | rfl | rfl
  · exact hsuffix hbase (by decide) (by decide)
  · exact hsuffix hbase (by decide) (by decide)
  · exact hsuffix hbase (by decide) (by decide)
  · exact hsuffix hlower (by decide) (by decide)

/-! ## Runs on a tree -/

/-- The outcome of a run on a tree, and the tree that it leaves. -/
def runOn (arguments : List Text) (tree : FileTree) : Outcome × FileTree :=
  (start arguments : StateM FileTree Outcome).run tree

/-- The outcome of doing on a tree what the arguments say, and the tree that it leaves. -/
def Arguments.runOn (a : Arguments) (tree : FileTree) : Outcome × FileTree :=
  (execute a : StateM FileTree Outcome).run tree

/-- The lines of the grammar that the arguments name: those of the file, or the expressions of
Lox. -/
def grammarLines (a : Arguments) (tree : FileTree) : Except FileError (List Text) :=
  match a.grammar with
  | none => .ok loxExpressions
  | some path => (tree.readText path).map declarationLines

/-- The file that is to be made from the lines of the grammar: in the language and for the namespace
and the base type that the arguments name. Unless they say otherwise, that is PHP without a namespace
and a base type `Expr`. -/
def generated (a : Arguments) (lines : List Text) : Except GenerateError GeneratedFile :=
  (Generator.file { language := a.language.getD Language.php, namespaceName := a.namespaceName }
    (a.base.getD "Expr".toList) lines).result

/-- What stops a run before it prints or saves anything. -/
inductive Stopped (a : Arguments) (tree : FileTree) : Prop
  /-- The grammar cannot be read. -/
  | unread {path : Text} {e : FileError} (hpath : a.grammar = some path)
      (h : tree.readText path = .error e)
  /-- A line of the grammar is wrong. -/
  | misread {lines : List Text} {e : GrammarError} (hlines : grammarLines a tree = .ok lines)
      (h : NodeType.ofLines lines = .error e)
  /-- The file is wanted but cannot be generated. -/
  | ungenerated {lines : List Text} {e : GenerateError} (hmode : a.dumpTypes = false)
      (hlines : grammarLines a tree = .ok lines) (h : generated a lines = .error e)

/-- A failure that leaves no trace on the tree. -/
structure Fails (tree : FileTree) (after : Outcome × FileTree) : Prop where
  code : after.1.code = 1
  stdout : after.1.stdout = []
  tree : after.2 = tree

/-- A success that prints the text and leaves the tree. -/
structure Ends (text : Text) (tree : FileTree) (after : Outcome × FileTree) : Prop where
  code : after.1.code = 0
  stdout : after.1.stdout = text
  report : after.1.report = none
  tree : after.2 = tree

/-- The report is that the hierarchy cannot be generated. -/
def GenerationFails (a : Arguments) (o : Outcome) : Prop :=
  ∃ e : GenerateError, o.report = some (Outcome.reportWithCause
    ("failed to generate the `".toList ++ a.base.getD "Expr".toList ++ "` hierarchy".toList)
    e.message)

section

variable {a : Arguments} {tree : FileTree} {lines : List Text}

/-- A run does what its arguments say. -/
theorem runOn_of_read {arguments : List Text} (h : Arguments.read arguments = .ok a)
    (tree : FileTree) : runOn arguments tree = a.runOn tree := by
  unfold runOn start
  rw [h]
  rfl

/-- The generator and the name of the base type are those that the arguments name. -/
theorem result_file_generator (a : Arguments) (lines : List Text) :
    (a.generator.file a.baseName lines).result = generated a lines := rfl

theorem runOn_eq {o : Outcome} {tree' : FileTree}
    (hrun : (run a : StateM FileTree Outcome).run tree = (o, tree')) :
    a.runOn tree = (o.tell a.verbose, tree') := by
  unfold Arguments.runOn execute
  rw [FileTree.run_bind, hrun]
  rfl

theorem declarationLines_loxExpressions :
    declarationLines (['\n'].intercalate loxExpressions) = loxExpressions := by
  decide +kernel

theorem run_readGrammarText (a : Arguments) (tree : FileTree) :
    (readGrammarText a : StateM FileTree (Except Outcome Text)).run tree =
      (match a.grammar with
        | none => .ok (['\n'].intercalate loxExpressions)
        | some path =>
          (tree.readText path).mapError fun e =>
            .failedAt ("failed to read grammar ".toList ++ path) e.message [], tree) := by
  unfold readGrammarText
  cases a.grammar with
  | none => rfl
  | some path =>
    show StateT.run (m := Id) (FileSystem.readText path >>= _) tree = _
    rw [FileTree.run_bind, FileTree.run_readText]
    show _ = ((tree.readText path).mapError _, tree)
    cases tree.readText path <;> rfl

theorem exists_of_grammarLines_eq_error {e : FileError} (h : grammarLines a tree = .error e) :
    ∃ path, a.grammar = some path ∧ tree.readText path = .error e := by
  unfold grammarLines at h
  cases hgrammar : a.grammar with
  | none =>
    rw [hgrammar] at h
    cases h
  | some path =>
    rw [hgrammar] at h
    exact ⟨path, rfl, map_eq_error_iff.1 h⟩

theorem run_of_unread {path : Text} {e : FileError} (hpath : a.grammar = some path)
    (h : tree.readText path = .error e) :
    (run a : StateM FileTree Outcome).run tree =
      (.failedAt ("failed to read grammar ".toList ++ path) e.message [], tree) := by
  unfold run
  rw [FileTree.run_bind, run_readGrammarText, hpath]
  simp only [h]
  rfl

/-- With the lines of the grammar at hand, a run prints them or goes on to the file. -/
theorem run_of_lines (h : grammarLines a tree = .ok lines) :
    (run a : StateM FileTree Outcome).run tree =
      if a.dumpTypes then (printTypes lines, tree)
      else (produce a lines : StateM FileTree Outcome).run tree := by
  obtain ⟨source, hsource, rfl⟩ : ∃ source,
      (readGrammarText a : StateM FileTree (Except Outcome Text)).run tree = (.ok source, tree) ∧
        declarationLines source = lines := by
    rw [run_readGrammarText]
    unfold grammarLines at h
    cases hgrammar : a.grammar with
    | none =>
      rw [hgrammar] at h
      exact ⟨_, rfl, declarationLines_loxExpressions.trans (Except.ok.inj h)⟩
    | some path =>
      rw [hgrammar] at h
      obtain ⟨source, hread, hlines⟩ := map_eq_ok_iff.1 h
      exact ⟨source, by simp only [hread]; rfl, hlines⟩
  unfold run
  rw [FileTree.run_bind, hsource]
  cases a.dumpTypes <;> rfl

/-- A run that is to print the node types prints them. -/
theorem runOn_of_dumpTypes (hlines : grammarLines a tree = .ok lines)
    (hmode : a.dumpTypes = true) :
    a.runOn tree = ((printTypes lines).tell a.verbose, tree) := by
  have hrun := run_of_lines hlines
  rw [hmode, if_pos rfl] at hrun
  exact runOn_eq hrun

/-- Any other run produces the file. -/
theorem runOn_of_produce (hlines : grammarLines a tree = .ok lines)
    (hmode : a.dumpTypes = false) {o : Outcome} {tree' : FileTree}
    (h : (produce a lines : StateM FileTree Outcome).run tree = (o, tree')) :
    a.runOn tree = (o.tell a.verbose, tree') := by
  have hrun := run_of_lines hlines
  rw [hmode, if_neg Bool.false_ne_true, h] at hrun
  exact runOn_eq hrun

theorem run_produce_of_error {e : GenerateError} (h : generated a lines = .error e) :
    (produce a lines : StateM FileTree Outcome).run tree =
      (.failedAt ("failed to generate the `".toList ++ a.baseName ++ "` hierarchy".toList)
        e.message (a.generator.file a.baseName lines).events, tree) := by
  simp only [produce, result_file_generator, h]
  rfl

theorem run_produce_of_stdout {file : GeneratedFile} (h : generated a lines = .ok file)
    (hstdout : a.stdout = true) :
    (produce a lines : StateM FileTree Outcome).run tree =
      ({ stdout := file.contents, events := (a.generator.file a.baseName lines).events }, tree) := by
  simp only [produce, result_file_generator, h, hstdout]
  rfl

theorem produce_eq_save {file : GeneratedFile} {directory : Text}
    (h : generated a lines = .ok file) (hstdout : a.stdout = false)
    (hdirectory : a.outputDirectory = some directory) :
    (produce a lines : StateM FileTree Outcome) =
      save directory file (a.generator.file a.baseName lines).events := by
  simp only [produce, result_file_generator, h, hstdout, hdirectory]
  rfl

/-! ## Saving -/

theorem run_save (directory : Text) (file : GeneratedFile) (events : List Event)
    (tree : FileTree) :
    (save directory file events : StateM FileTree Outcome).run tree =
      match (makeDirectories directory : StateM FileTree _).run tree with
      | (.error e, made) =>
        (.failedAt ("failed to create ".toList ++ directory) e.message events, made)
      | (.ok _, made) =>
        match made.writeText (joinPath directory file.name) file.contents with
        | .error e =>
          (.failedAt ("failed to write ".toList ++ joinPath directory file.name) e.message events,
            made)
        | .ok tree' => ({ events }, tree') := by
  unfold save
  rw [FileTree.run_bind]
  cases (makeDirectories directory : StateM FileTree _).run tree with
  | mk result made =>
    cases result with
    | error e => rfl
    | ok _ =>
      show StateT.run (m := Id) (FileSystem.writeText _ _ >>= _) made = _
      rw [FileTree.run_bind, FileTree.run_writeText]
      show _ = match made.writeText (joinPath directory file.name) file.contents with
        | .error e => _
        | .ok tree' => _
      cases made.writeText (joinPath directory file.name) file.contents <;> rfl

/-! ## How a run ends -/

theorem generated_of_misread {e : GrammarError} (h : NodeType.ofLines lines = .error e) :
    generated a lines = .error (.grammar e) := by
  simp only [generated, Generator.file, h]

theorem name_of_generated {file : GeneratedFile} (h : generated a lines = .ok file) :
    file.name = (a.language.getD Language.php).fileNameFor (a.base.getD "Expr".toList) := by
  unfold generated Generator.file at h
  split at h
  · cases h
  · obtain ⟨contents, -, rfl⟩ := map_eq_ok_iff.1 h
    rfl

/-- What stops a run leaves no trace. -/
theorem fails_of_stopped (h : Stopped a tree) : Fails tree (a.runOn tree) := by
  -- where a file is wanted, a wrong line stops the run when the file is to be generated
  have hungenerated {lines : List Text} {e : GenerateError} (hmode : a.dumpTypes = false)
      (hlines : grammarLines a tree = .ok lines) (h : generated a lines = .error e) :
      Fails tree (a.runOn tree) := by
    rw [runOn_of_produce hlines hmode (run_produce_of_error h)]
    exact ⟨rfl, rfl, rfl⟩
  cases h with
  | unread hpath h =>
    rw [runOn_eq (run_of_unread hpath h)]
    exact ⟨rfl, rfl, rfl⟩
  | @misread lines e hlines h =>
    cases hmode : a.dumpTypes with
    | false => exact hungenerated hmode hlines (generated_of_misread h)
    | true =>
      have hprint : printTypes lines = .failed e.message [] := by simp only [printTypes, h]
      rw [runOn_of_dumpTypes hlines hmode, hprint]
      exact ⟨rfl, rfl, rfl⟩
  | ungenerated hmode hlines h => exact hungenerated hmode hlines h

theorem ends_of_dumpTypes {types : List NodeType} (hlines : grammarLines a tree = .ok lines)
    (htypes : NodeType.ofLines lines = .ok types) (hmode : a.dumpTypes = true) :
    Ends (dumpTypes types ++ ['\n']) tree (a.runOn tree) := by
  have hprint : printTypes lines =
      { stdout := dumpTypes types ++ ['\n'], events := [.grammarRead types.length] } := by
    simp only [printTypes, htypes]
  rw [runOn_of_dumpTypes hlines hmode, hprint]
  exact ⟨rfl, rfl, rfl, rfl⟩

theorem ends_of_stdout {file : GeneratedFile} (hlines : grammarLines a tree = .ok lines)
    (hfile : generated a lines = .ok file) (hmode : a.dumpTypes = false)
    (hstdout : a.stdout = true) : Ends file.contents tree (a.runOn tree) := by
  rw [runOn_of_produce hlines hmode (run_produce_of_stdout hfile hstdout)]
  exact ⟨rfl, rfl, rfl, rfl⟩

/-- A run that saves its file saves it and says nothing. -/
theorem ends_saved (haccepted : a.Accepted) (hbase : '/' ∉ a.base.getD "Expr".toList)
    {file : GeneratedFile} {directory : Text} {made tree' : FileTree}
    (hlines : grammarLines a tree = .ok lines) (hfile : generated a lines = .ok file)
    (hmode : a.dumpTypes = false) (hstdout : a.stdout = false)
    (hdirectory : a.outputDirectory = some directory)
    (hmake : (makeDirectories directory : StateM FileTree _).run tree = (.ok (), made))
    (hwrite : made.writeText (joinPath directory file.name) file.contents = .ok tree') :
    Ends [] tree' (a.runOn tree) ∧ FileTree.Saved directory file tree tree' := by
  have hname := isName_fileNameFor haccepted.language_mem hbase
  rw [← name_of_generated hfile] at hname
  have hsave : (produce a lines : StateM FileTree Outcome).run tree =
      ({ events := (a.generator.file a.baseName lines).events }, tree') := by
    rw [produce_eq_save hfile hstdout hdirectory, run_save, hmake]
    simp only [hwrite]
  rw [runOn_of_produce hlines hmode hsave]
  exact ⟨⟨rfl, rfl, rfl, rfl⟩, FileTree.saved_of_writeText
    (haccepted.outputDirectory directory hdirectory) hname.1 hname.2 hmake hwrite⟩

/-- A run that prints does not touch the tree. -/
theorem tree_eq_of_printing (hmode : a.dumpTypes = true ∨ a.stdout = true) :
    (a.runOn tree).2 = tree := by
  cases hlines : grammarLines a tree with
  | error e =>
    obtain ⟨path, hpath, h⟩ := exists_of_grammarLines_eq_error hlines
    exact (fails_of_stopped (.unread hpath h)).tree
  | ok lines =>
    cases hdump : a.dumpTypes with
    | true =>
      cases htypes : NodeType.ofLines lines with
      | error e => exact (fails_of_stopped (.misread hlines htypes)).tree
      | ok types => exact (ends_of_dumpTypes hlines htypes hdump).tree
    | false =>
      have hstdout : a.stdout = true := by simpa [hdump] using hmode
      cases hfile : generated a lines with
      | error e => exact (fails_of_stopped (.ungenerated hdump hlines hfile)).tree
      | ok file => exact (ends_of_stdout hlines hfile hdump hstdout).tree

/-! ## Which failure it is -/

/-- A report is about the generation only if it says so. -/
theorem not_generationFails {o : Outcome} {c : Char} {rest cause : Text} (hc : c ≠ 'g')
    (hreport : o.report =
      some (Outcome.reportWithCause ("failed to ".toList ++ c :: rest) cause)) :
    ¬ GenerationFails a o := by
  rintro ⟨e, he⟩
  have hletter := congrArg (fun report => report[17]?) (Option.some.inj (hreport.symm.trans he))
  exact hc (Option.some.inj hletter)

theorem not_generationFails_of_report {o : Outcome} (h : o.report = none) :
    ¬ GenerationFails a o := by
  rintro ⟨e, he⟩
  rw [h] at he
  cases he

theorem not_generationFails_save (directory : Text) (file : GeneratedFile) (events : List Event)
    (tree : FileTree) :
    ¬ GenerationFails a ((save directory file events : StateM FileTree Outcome).run tree).1 := by
  rw [run_save]
  split
  · rename_i e made _
    exact not_generationFails (c := 'c') (by decide) rfl
  · split
    · exact not_generationFails (c := 'w') (by decide) rfl
    · exact not_generationFails_of_report rfl

/-- The generation fails in a run exactly where the file that is wanted cannot be generated. -/
theorem generationFails_runOn_iff (haccepted : a.Accepted) (hmode : a.dumpTypes = false) :
    GenerationFails a (a.runOn tree).1 ↔
      ∃ lines e, grammarLines a tree = .ok lines ∧ generated a lines = .error e := by
  constructor
  · intro hfails
    cases hlines : grammarLines a tree with
    | error e =>
      obtain ⟨path, hpath, h⟩ := exists_of_grammarLines_eq_error hlines
      rw [runOn_eq (run_of_unread hpath h)] at hfails
      exact absurd hfails (not_generationFails (c := 'r') (by decide) rfl)
    | ok lines =>
      cases hfile : generated a lines with
      | error e => exact ⟨lines, e, rfl, hfile⟩
      | ok file =>
        cases hstdout : a.stdout with
        | true =>
          rw [runOn_of_produce hlines hmode (run_produce_of_stdout hfile hstdout)] at hfails
          exact absurd hfails (not_generationFails_of_report rfl)
        | false =>
          obtain ⟨directory, hdirectory, -⟩ :=
            haccepted.exists_outputDirectory hstdout hmode
          have hsave := congrArg (StateT.run · tree) (produce_eq_save hfile hstdout hdirectory)
          rw [runOn_of_produce hlines hmode hsave] at hfails
          exact absurd hfails (not_generationFails_save _ _ _ _)
  · rintro ⟨lines, e, hlines, hfile⟩
    rw [runOn_of_produce hlines hmode (run_produce_of_error hfile)]
    exact ⟨e, rfl⟩

end

/-! ## The modes together -/

/-- **The modes of the command line agree, and failures leave no trace.** Whatever the tree holds:

* a run that prints leaves the tree as it is;
* what stops a run before it prints or saves anything leaves a report and nothing else;
* printing the node types goes before printing the file, and printing before saving;
* the file is the one for the language, the namespace and the base type that the arguments name;
* a run that saves prints nothing, and the only changes are the file and the directories that were
  missing on the path to it;
* asking for standard output as well gives the run that prints what the other one saves, and the
  generation fails in both of them or in neither;
* a command line that can be read does what its arguments say, and one more argument asks for
  standard output as well. -/
theorem modes_agree {a : Arguments} (haccepted : a.Accepted)
    (hbase : '/' ∉ a.base.getD "Expr".toList) (tree : FileTree) :
    (a.dumpTypes = true ∨ a.stdout = true → (a.runOn tree).2 = tree) ∧
    (Stopped a tree → Fails tree (a.runOn tree)) ∧
    (∀ lines types, grammarLines a tree = .ok lines → NodeType.ofLines lines = .ok types →
      a.dumpTypes = true → Ends (dumpTypes types ++ ['\n']) tree (a.runOn tree)) ∧
    (∀ lines file, grammarLines a tree = .ok lines → generated a lines = .ok file →
      a.dumpTypes = false →
      file.name = (a.language.getD Language.php).fileNameFor (a.base.getD "Expr".toList) ∧
      (a.stdout = true → Ends file.contents tree (a.runOn tree)) ∧
      (a.stdout = false → ∃ directory, a.outputDirectory = some directory ∧
        ∀ made tree',
          (makeDirectories directory : StateM FileTree _).run tree = (.ok (), made) →
          made.writeText (joinPath directory file.name) file.contents = .ok tree' →
          Ends [] tree' (a.runOn tree) ∧ FileTree.Saved directory file tree tree')) ∧
    (a.dumpTypes = false → a.stdout = false →
      (∀ lines file, grammarLines a tree = .ok lines → generated a lines = .ok file →
        Ends file.contents tree (a.toStdout.runOn tree)) ∧
      (GenerationFails a (a.runOn tree).1 ↔ GenerationFails a (a.toStdout.runOn tree).1)) ∧
    (a.dumpTypes = false → (GenerationFails a (a.runOn tree).1 ↔
      ∃ lines e, grammarLines a tree = .ok lines ∧ generated a lines = .error e)) ∧
    ∀ arguments, Arguments.read arguments = .ok a → runOn arguments tree = a.runOn tree ∧
      (a.stdout = false → Arguments.read ("--stdout".toList :: arguments) = .ok a.toStdout) := by
  have hfails (hdump : a.dumpTypes = false) : GenerationFails a (a.runOn tree).1 ↔
      ∃ lines e, grammarLines a tree = .ok lines ∧ generated a lines = .error e :=
    generationFails_runOn_iff haccepted hdump
  refine ⟨tree_eq_of_printing, fails_of_stopped,
    fun lines types hlines htypes hdump => ends_of_dumpTypes hlines htypes hdump,
    fun lines file hlines hfile hdump => ⟨name_of_generated hfile,
      fun hstdout => ends_of_stdout hlines hfile hdump hstdout, fun hstdout => ?_⟩,
    fun hdump hstdout => ⟨fun lines file hlines hfile => ?_, ?_⟩, hfails,
    fun arguments hread => ⟨runOn_of_read hread tree, Arguments.read_cons_stdout hread⟩⟩
  · obtain ⟨directory, hdirectory, -⟩ := haccepted.exists_outputDirectory hstdout hdump
    exact ⟨directory, hdirectory, fun made tree' hmake hwrite =>
      ends_saved haccepted hbase hlines hfile hdump hstdout hdirectory hmake hwrite⟩
  · -- the grammar and the generator do not depend on where the file goes
    exact ends_of_stdout (a := a.toStdout) hlines hfile hdump rfl
  · rw [hfails hdump]
    exact (generationFails_runOn_iff haccepted.toStdout hdump).symm

/-- A grammar, a directory with an old file in it, and nothing else. -/
def home : FileTree where
  workingDirectory := ["home".toList]
  entries := [
    (["home".toList], .directory),
    (["home".toList, "shapes".toList], .file (some "Circle : int radius\n".toList)),
    (["home".toList, "out".toList], .directory),
    (["home".toList, "out".toList, "Shape.java".toList], .file (some "old".toList))]

/-- Arguments to save a file in a directory on whose path another one is missing. -/
def shapeArguments : List Text :=
  ["-vljava".toList, "--grammar=shapes".toList, "new/../out".toList, "-b".toList, "Shape".toList,
    "--namespace".toList, "geo".toList]

/-- What they say. -/
def shapes : Arguments where
  outputDirectory := some "new/../out".toList
  base := some "Shape".toList
  grammar := some "shapes".toList
  language := some Language.java
  namespaceName := some "geo".toList
  verbose := true

/-- The file that they ask for. -/
def shapeFile : GeneratedFile where
  name := "Shape.java".toList
  contents := Text.unlines ([
    "package geo;",
    "",
    "abstract class Shape \x7b",
    "    abstract <R> R accept(Visitor<R> visitor);",
    "\x7d",
    "",
    "interface Visitor<R> \x7b",
    "    R visitCircleShape(Circle shape);",
    "\x7d",
    "",
    "final class Circle extends Shape \x7b",
    "    final int radius;",
    "",
    "    Circle(int radius) \x7b",
    "        this.radius = radius;",
    "    \x7d",
    "",
    "    @Override",
    "    <R> R accept(Visitor<R> visitor) \x7b",
    "        return visitor.visitCircleShape(this);",
    "    \x7d",
    "\x7d"].map String.toList)

theorem modes_agree_shapes :
    shapes.Accepted ∧ '/' ∉ shapes.base.getD "Expr".toList ∧
      ∃ tree', FileTree.Saved "new/../out".toList shapeFile home tree' ∧
        tree'.find? ["home".toList, "new".toList] = some .directory ∧
        Ends [] tree' (runOn shapeArguments home) ∧
        Ends shapeFile.contents home (runOn ("--stdout".toList :: shapeArguments) home) := by
  have hread : Arguments.read shapeArguments = .ok shapes := rfl
  have haccepted := Arguments.accepted_of_read hread
  have hbase : '/' ∉ shapes.base.getD "Expr".toList := by decide
  have hlines : grammarLines shapes home = .ok ["Circle : int radius".toList] := by decide +kernel
  have hfile : generated shapes ["Circle : int radius".toList] = .ok shapeFile := by decide +kernel
  obtain ⟨-, -, -, hends, hagree, -, hruns⟩ := modes_agree haccepted hbase home
  obtain ⟨hrun, hprinting⟩ := hruns shapeArguments hread
  obtain ⟨directory, hdirectory, hsave⟩ := (hends _ shapeFile hlines hfile rfl).2.2 rfl
  obtain rfl : "new/../out".toList = directory := Option.some.inj hdirectory
  -- the missing directory is made on the way, and the old file is where the new one goes
  let made := home.insert ["home".toList, "new".toList] .directory
  let place : Location := ["home".toList, "out".toList, "Shape.java".toList]
  have hmake : (makeDirectories "new/../out".toList : StateM FileTree _).run home =
      (.ok (), made) := rfl
  have hwrite : made.writeText (joinPath "new/../out".toList shapeFile.name) shapeFile.contents =
      .ok (made.insert place (.file (some shapeFile.contents))) := by
    have htarget : made.target (joinPath "new/../out".toList shapeFile.name) =
        .ok (.found place (.file (some "old".toList))) := by decide +kernel
    simp only [FileTree.writeText, htarget]
  obtain ⟨hquiet, hsaved⟩ := hsave made _ hmake hwrite
  refine ⟨haccepted, hbase, _, hsaved, hsaved.directories _ (by decide +kernel), ?_, ?_⟩
  · rw [hrun]
    exact hquiet
  · rw [runOn_of_read (hprinting rfl)]
    exact (hagree rfl rfl).1 _ shapeFile hlines hfile

end AstHierarchy.CommandLine
