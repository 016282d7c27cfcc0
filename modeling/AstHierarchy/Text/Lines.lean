import AstHierarchy.Text.Basic

/-!
# Lines

A line ends at a line feed. A carriage return right before that line feed belongs to the line
ending and is dropped with it; any other carriage return is part of the line. What follows the
last line feed is a line of its own unless it is empty, so that a final line feed does not begin
an empty line.

The pieces between line feeds, with nothing dropped, are `List.splitOn '\n'`.
-/

namespace AstHierarchy.Text

/-- The line without one carriage return at its end. -/
def dropReturn : Text → Text
  | [] => []
  | ['\r'] => []
  | c :: rest => c :: dropReturn rest

/-- The lines of a text given by its pieces between line feeds: every piece but the last has been
ended by a line feed. -/
def linesOfPieces : List Text → List Text
  | [] => []
  | [last] => if last.isEmpty then [] else [last]
  | piece :: rest => dropReturn piece :: linesOfPieces rest

/-- The lines of the text, without their line endings. -/
def lines (t : Text) : List Text := linesOfPieces (t.splitOn '\n')

/-- The lines of a text given by its pieces between line feeds, each with the line feed that ends
it. -/
def rawLinesOfPieces : List Text → List Text
  | [] => []
  | [last] => if last.isEmpty then [] else [last]
  | piece :: rest => (piece ++ ['\n']) :: rawLinesOfPieces rest

/-- The lines of the text with their line endings. -/
def rawLines (t : Text) : List Text := rawLinesOfPieces (t.splitOn '\n')

/-- The text in which every one of the lines is ended by a line feed. -/
def unlines (ls : List Text) : Text := ls.flatMap (· ++ ['\n'])

/-! ## Small laws -/

@[simp] theorem lines_nil : lines [] = [] := rfl

@[simp] theorem unlines_nil : unlines [] = [] := rfl

@[simp] theorem unlines_cons (l : Text) (ls : List Text) :
    unlines (l :: ls) = l ++ '\n' :: unlines ls := by simp [unlines]

/-- A line feed before the rest ends the first line. -/
theorem lines_append_newline {l : Text} (h : '\n' ∉ l) (t : Text) :
    lines (l ++ '\n' :: t) = dropReturn l :: lines t := by
  rw [lines, lines, List.splitOn_append_cons_self_of_not_mem h t]
  cases hs : t.splitOn '\n' with
  | nil => exact absurd hs (List.splitOn_ne_nil _ _)
  | cons p ps => rfl

end AstHierarchy.Text
