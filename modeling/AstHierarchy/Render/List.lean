import AstHierarchy.Render.Writing
import AstHierarchy.Template.Span

/-!
# Writing lists

The items of a list are written one after the other. Between two items stands the delimiter, if
there is one, and after it a blank or the beginning of a line that is indented as far as the
caller says. At the end of a list that is not empty the delimiter may stand once more.
-/

namespace AstHierarchy.Writing

/-- Write the delimiter of the layout, if it has one. -/
def writeDelimiter (layout : ListLayout) : Writing Unit :=
  match layout.delimiter with
  | some c => write [c]
  | none => pure ()

/-- Write what stands between two items. -/
def writeSeparator (layout : ListLayout) (indent : Nat) : Writing Unit := do
  writeDelimiter layout
  if layout.oneLine then write [' ']
  else
    write ['\n']
    writeBlanks indent

/-- Write what follows the first item of a list, with these items to come. -/
def writeItemsAfter {α : Type} (layout : ListLayout) (indent : Nat) (item : α → Writing Unit) :
    List α → Writing Unit
  | [] => if layout.trailing then writeDelimiter layout else pure ()
  | a :: rest => do
    writeSeparator layout indent
    item a
    writeItemsAfter layout indent item rest

/-- Write a list whose items are written by `item`. -/
def writeList {α : Type} (layout : ListLayout) (indent : Nat) (item : α → Writing Unit) :
    List α → Writing Unit
  | [] => pure ()
  | a :: rest => do
    item a
    writeItemsAfter layout indent item rest

end AstHierarchy.Writing
