import AstHierarchy.Text.Blank
import AstHierarchy.Text.Lines

/-!
# Tidy text

A text is tidy when no line of it ends in a blank character, no two lines in a row are empty, its
first line and its last line are not empty, and a line feed ends every line. `Text.respace` brings a
text into this form and keeps every line that says something.

## How it works

Once each line has lost its trailing blanks, an empty line is kept exactly when a line that says
something stands before it and the line right after it says something. The recursion decides the
second half on the way back from the end; the first half only concerns the empty line that may
then be left at the very start, and that one is dropped last.
-/

namespace AstHierarchy.Text

/-- A line put before collapsed lines: an empty line is left out unless the next line says
something. -/
def consLine (line : Text) (kept : List Text) : List Text :=
  if line.isEmpty && (kept.headD []).isEmpty then kept else line :: kept

/-- The lines with every run of empty lines shrunk to one, and the run at the end removed. -/
def collapse (ls : List Text) : List Text := ls.foldr consLine []

/-- The lines of the text in tidy form. -/
def spacedLines (t : Text) : List Text :=
  (collapse (t.lines.map trimEnd)).dropWhile List.isEmpty

/-- The text in tidy form. -/
def respace (t : Text) : Text := unlines (spacedLines t)

/-! ## Small laws -/

@[simp] theorem collapse_nil : collapse [] = [] := rfl

@[simp] theorem collapse_cons (line : Text) (ls : List Text) :
    collapse (line :: ls) = consLine line (collapse ls) := rfl

/-- The last line kept is not an empty one. -/
theorem getLast?_collapse {ls : List Text} {l : Text} (h : (collapse ls).getLast? = some l) :
    l ≠ [] := by
  induction ls with
  | nil => simp at h
  | cons line rest ih =>
    rw [collapse_cons, consLine] at h
    split at h
    · exact ih h
    · rename_i hkeep
      cases hr : collapse rest with
      | nil =>
        rintro rfl
        simp_all
      | cons next others =>
        rw [hr, List.getLast?_cons_cons, ← hr] at h
        exact ih h

/-- Lines that say something are all kept, in order. -/
theorem filter_collapse (ls : List Text) :
    (collapse ls).filter (fun l => !l.isEmpty) = ls.filter (fun l => !l.isEmpty) := by
  induction ls with
  | nil => rfl
  | cons line rest ih =>
    rw [collapse_cons, consLine]
    split
    · rename_i h
      have : line.isEmpty = true := by simp_all
      simp [this, ih]
    · rw [List.filter_cons, List.filter_cons, ih]

end AstHierarchy.Text
