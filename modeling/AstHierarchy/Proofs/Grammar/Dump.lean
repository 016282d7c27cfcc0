import AstHierarchy.Proofs.CommandLine.Modes
import AstHierarchy.Proofs.Text.Lines
import AstHierarchy.Proofs.Text.SelfDelimiting

/-!
# Node types can be read off their JSON form

Nothing is lost when node types are written as JSON. A quoted string says where it ends, so an
object with two members does, and a list says whether there is another item by the character after
each of them; empty lists are told from the others by their second character. With objects and lists
inside each other the same holds of the whole text.

* `dumpTypes_determines_types` is the main result, for texts and for runs that print them.
-/

namespace AstHierarchy

open Text

namespace Dump

variable {α β : Type} {v : α → Text} {w : β → Text}

/-- A list with members begins with the first one, goes on with the others after commas, and then
closes. -/
theorem bracket_cons (opening closing : Char) (column : Nat) (m : Text) (ms : List Text) :
    bracket opening closing column (m :: ms) =
      opening :: newline (column + 2) ++ (m ++ (ms.flatMap (',' :: newline (column + 2) ++ ·) ++
        (newline column ++ [closing]))) := by
  rw [bracket, intercalate_cons]
  simp only [List.append_assoc]

/-- **A list says where it ends** if its items do. -/
theorem selfDelimiting_list (h : SelfDelimiting v) (column : Nat) :
    SelfDelimiting fun xs : List α => bracket '[' ']' column (xs.map v) := by
  intro xs ys rest rest' heq
  cases xs with
  | nil =>
    cases ys with
    | nil => exact ⟨rfl, List.append_cancel_left heq⟩
    | cons y ys => simp [bracket, newline] at heq
  | cons x xs =>
    cases ys with
    | nil => simp [bracket, newline] at heq
    | cons y ys =>
      have hnext : SelfDelimiting fun a => ',' :: newline (column + 2) ++ v a := h.const_append _
      have hclose {r : Text} : ∀ c, (newline column ++ [']'] ++ r).head? = some c → ¬ c = ',' := by
        rintro c ⟨⟩
        decide
      simp only [List.map_cons, bracket_cons, List.append_assoc, List.append_cancel_left_eq,
        List.flatMap_map] at heq
      obtain ⟨rfl, hitems⟩ := h heq
      rw [← List.append_assoc (newline column), ← List.append_assoc (newline column)] at hitems
      obtain ⟨rfl, htail⟩ := hnext.flatMap_append_inj (p := (· = ','))
        (fun a => ⟨',', _, rfl, rfl⟩) hclose hclose hitems
      exact ⟨rfl, List.append_cancel_left htail⟩

/-- **An object with two members says where it ends** if its members do. -/
theorem selfDelimiting_object (hv : SelfDelimiting v) (hw : SelfDelimiting w) (column : Nat)
    (key key' : Text) :
    SelfDelimiting fun p : α × β =>
      bracket '{' '}' column [member key (v p.1), member key' (w p.2)] := by
  have hparts := ((hv.const_append ('{' :: newline (column + 2) ++ (quote key ++ ": ".toList))).append
    (hw.const_append (',' :: newline (column + 2) ++ (quote key' ++ ": ".toList)))).append_const
      (newline column ++ ['}'])
  have hbracket (p : α × β) : bracket '{' '}' column [member key (v p.1), member key' (w p.2)] =
      '{' :: newline (column + 2) ++ (quote key ++ ": ".toList) ++ v p.1 ++
        (',' :: newline (column + 2) ++ (quote key' ++ ": ".toList) ++ w p.2) ++
          (newline column ++ ['}']) := by
    rw [bracket_cons, member, member]
    simp
  simp only [hbracket]
  exact hparts

theorem selfDelimiting_field (column : Nat) : SelfDelimiting (field column) := by
  refine (selfDelimiting_object selfDelimiting_quote selfDelimiting_quote column _ _).comp
    (f := fun f : Field => (f.type, f.name)) ?_
  rintro ⟨type, name⟩ ⟨type', name'⟩ ⟨⟩
  rfl

theorem selfDelimiting_nodeType (column : Nat) : SelfDelimiting (nodeType column) := by
  refine (selfDelimiting_object selfDelimiting_quote
    (selfDelimiting_list (selfDelimiting_field (column + 4)) (column + 2)) column _ _).comp
      (f := fun t : NodeType => (t.name, t.fields)) ?_
  rintro ⟨name, fields⟩ ⟨name', fields'⟩ ⟨⟩
  rfl

end Dump

/-- **The text of node types says where it ends.** -/
theorem selfDelimiting_dumpTypes : SelfDelimiting dumpTypes :=
  Dump.selfDelimiting_list (Dump.selfDelimiting_nodeType 2) 0

namespace CommandLine

/-! ## Runs that print node types -/

variable {arguments arguments' : List Text} {a a' : Arguments} {tree tree' : FileTree}

/-- A run that is to print the node types is stopped, or it has a grammar that can be read. -/
theorem stopped_or_exists_types (a : Arguments) (tree : FileTree) :
    Stopped a tree ∨ ∃ lines types, grammarLines a tree = .ok lines ∧
      NodeType.ofLines lines = .ok types := by
  cases hlines : grammarLines a tree with
  | error e =>
    obtain ⟨path, hpath, h⟩ := exists_of_grammarLines_eq_error hlines
    exact Or.inl (.unread hpath h)
  | ok lines =>
    cases htypes : NodeType.ofLines lines with
    | error e => exact Or.inl (.misread hlines htypes)
    | ok types => exact Or.inr ⟨lines, types, rfl, htypes⟩

/-- A run that prints node types prints something, which a run that is stopped does not. -/
theorem stdout_ne_of_stopped (hread : Arguments.read arguments = .ok a)
    (hread' : Arguments.read arguments' = .ok a') (hmode : a.dumpTypes = true)
    {lines : List Text} {types : List NodeType} (hlines : grammarLines a tree = .ok lines)
    (htypes : NodeType.ofLines lines = .ok types) (hstopped : Stopped a' tree') :
    (runOn arguments tree).1.stdout ≠ (runOn arguments' tree').1.stdout := by
  rw [runOn_of_read hread, runOn_of_read hread', (ends_of_dumpTypes hlines htypes hmode).stdout,
    (fails_of_stopped hstopped).stdout]
  exact List.append_ne_nil_of_right_ne_nil _ (List.cons_ne_nil _ _)

/-- **Nothing is lost when node types are printed.** Texts of different lists of node types are
different, whatever characters the names hold. So if two runs that are to print node types print
the same, either both are stopped before they print anything, or the lines of both grammars declare
the same node types, and whatever is generated from one of them is generated from the other. -/
theorem dumpTypes_determines_types :
    (∀ types types' : List NodeType, dumpTypes types = dumpTypes types' → types = types') ∧
    ∀ (arguments arguments' : List Text) (a a' : Arguments) (tree tree' : FileTree),
      Arguments.read arguments = .ok a → Arguments.read arguments' = .ok a' →
      a.dumpTypes = true → a'.dumpTypes = true →
      (runOn arguments tree).1.stdout = (runOn arguments' tree').1.stdout →
      (Stopped a tree ∧ Stopped a' tree') ∨
      ∃ lines lines' types types',
        grammarLines a tree = .ok lines ∧ NodeType.ofLines lines = .ok types ∧
        grammarLines a' tree' = .ok lines' ∧ NodeType.ofLines lines' = .ok types' ∧
        types = types' ∧ ∀ (g : Generator) (base : Text),
          g.hierarchy base types = g.hierarchy base types' ∧
          g.file base lines = g.file base lines' := by
  have hinjective : ∀ types types' : List NodeType, dumpTypes types = dumpTypes types' →
      types = types' := fun _ _ => selfDelimiting_dumpTypes.injective
  refine ⟨hinjective, fun arguments arguments' a a' tree tree' hread hread' hmode hmode' hsame => ?_⟩
  rcases stopped_or_exists_types a tree with hstopped | ⟨lines, types, hlines, htypes⟩
  · rcases stopped_or_exists_types a' tree' with hstopped' | ⟨lines', types', hlines', htypes'⟩
    · exact Or.inl ⟨hstopped, hstopped'⟩
    · exact absurd hsame.symm
        (stdout_ne_of_stopped hread' hread hmode' hlines' htypes' hstopped)
  · rcases stopped_or_exists_types a' tree' with hstopped' | ⟨lines', types', hlines', htypes'⟩
    · exact absurd hsame (stdout_ne_of_stopped hread hread' hmode hlines htypes hstopped')
    · rw [runOn_of_read hread, runOn_of_read hread', (ends_of_dumpTypes hlines htypes hmode).stdout,
        (ends_of_dumpTypes hlines' htypes' hmode').stdout] at hsame
      obtain rfl := hinjective types types' (List.append_cancel_right hsame)
      refine Or.inr ⟨lines, lines', types, types, hlines, htypes, hlines', htypes', rfl,
        fun g base => ⟨rfl, ?_⟩⟩
      rw [Generator.file, Generator.file, htypes, htypes']

/-- Two grammars that declare the same node types, with quotes and brackets in their names. -/
def twoGrammars : FileTree where
  workingDirectory := []
  entries := [
    (["plain".toList], .file (some "\"]\\ : T[\"] x, [],[] y\nNil :".toList)),
    (["dressed".toList],
      .file (some "// node types\r\n  \"]\\ :T[\"] x, [],[] y\t\r\n\n\tNil:\n".toList))]

/-- What is printed for both of them. -/
def twoGrammarsText : Text :=
  Text.unlines ([
    "[",
    "  \x7b",
    "    \"name\": \"\\\"]\\\\\",",
    "    \"fields\": [",
    "      \x7b",
    "        \"type_name\": \"T[\\\"]\",",
    "        \"field_name\": \"x\"",
    "      \x7d,",
    "      \x7b",
    "        \"type_name\": \"[],[]\",",
    "        \"field_name\": \"y\"",
    "      \x7d",
    "    ]",
    "  \x7d,",
    "  \x7b",
    "    \"name\": \"Nil\",",
    "    \"fields\": []",
    "  \x7d",
    "]"].map String.toList)

theorem dumpTypes_determines_types_twoGrammars :
    (runOn ["--dump-types".toList, "-gplain".toList] twoGrammars).1.stdout = twoGrammarsText ∧
    (runOn ["-g".toList, "dressed".toList, "--dump-types".toList] twoGrammars).1.stdout =
      twoGrammarsText ∧
    ∃ lines lines' types types',
      grammarLines { grammar := some "plain".toList } twoGrammars = .ok lines ∧
      NodeType.ofLines lines = .ok types ∧
      grammarLines { grammar := some "dressed".toList } twoGrammars = .ok lines' ∧
      NodeType.ofLines lines' = .ok types' ∧ types = types' ∧
      ∀ (g : Generator) (base : Text), g.hierarchy base types = g.hierarchy base types' ∧
        g.file base lines = g.file base lines' := by
  have hplain : (runOn ["--dump-types".toList, "-gplain".toList] twoGrammars).1.stdout =
      twoGrammarsText := by decide +kernel
  have hdressed : (runOn ["-g".toList, "dressed".toList, "--dump-types".toList]
      twoGrammars).1.stdout = twoGrammarsText := by decide +kernel
  have hread : Arguments.read ["--dump-types".toList, "-gplain".toList] =
      .ok { grammar := some "plain".toList, dumpTypes := true } := rfl
  refine ⟨hplain, hdressed, ?_⟩
  rcases dumpTypes_determines_types.2 _ _ _ _ twoGrammars twoGrammars hread
    (show Arguments.read ["-g".toList, "dressed".toList, "--dump-types".toList] =
      .ok { grammar := some "dressed".toList, dumpTypes := true } from rfl) rfl rfl
    (hplain.trans hdressed.symm) with ⟨hstopped, -⟩ | h
  · -- a run that is stopped prints nothing
    have hnothing := (fails_of_stopped hstopped).stdout
    rw [← runOn_of_read hread, hplain] at hnothing
    cases hnothing
  · exact h

end CommandLine

end AstHierarchy
