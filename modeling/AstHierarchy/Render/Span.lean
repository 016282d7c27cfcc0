import AstHierarchy.Render.Writing
import AstHierarchy.Template.Span

/-!
# Writing spans

A span is written instruction by instruction. Every line of it but the first is indented by the
columns that the caller gives, in addition to the indentation that the line has of its own. What a
variable stands for is written with the sum of both, so that its lines begin where the line with
the variable begins.
-/

namespace AstHierarchy

/-- How something is written where a variable stands, given the layout that the reference asks for
and the indentation of the line. -/
abbrev Expansion := ListLayout → Nat → Writing Unit

open Writing

/-- Write the instructions of a span on a line that is itself indented by `column`. -/
def Span.writeFrom (expansion? : Text → Option Expansion) (indent : Nat) :
    Nat → Span → Writing Unit
  | _, [] => pure ()
  | _, .lineBreak :: rest => do
    write ['\n']
    writeBlanks indent
    writeFrom expansion? indent 0 rest
  | _, .indentation columns :: rest => do
    writeBlanks columns
    writeFrom expansion? indent columns rest
  | column, .verbatim text :: rest => do
    write text
    writeFrom expansion? indent column rest
  | column, .reference name layout :: rest => do
    match expansion? name with
    | some expansion => expansion layout (indent + column)
    | none => throw (.unknownVariable name)
    writeFrom expansion? indent column rest

/-- Write the span. -/
def Span.write (expansion? : Text → Option Expansion) (indent : Nat) (span : Span) :
    Writing Unit :=
  span.writeFrom expansion? indent 0

end AstHierarchy
