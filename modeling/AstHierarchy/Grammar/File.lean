import AstHierarchy.Grammar.Line
import AstHierarchy.Text.Lines

/-!
# Grammar files

A grammar file declares one node type a line. Blank lines and lines that begin with `//` say
nothing, and blank characters at the ends of a line do not count. `declarationLines` selects the
lines that are left; `NodeType.ofLines` reads them all or reports the first one that is wrong, and
`NodeType.takeLines` reads as far as it can.
-/

namespace AstHierarchy

/-- Whether a trimmed line of a grammar file says nothing: it is empty or a comment. -/
def isIdleLine : Text → Bool
  | [] => true
  | '/' :: '/' :: _ => true
  | _ => false

/-- The lines of a grammar file that declare something, trimmed. -/
def declarationLines (source : Text) : List Text :=
  (source.lines.map Text.trim).filter fun line => !isIdleLine line

/-- The node types that the lines declare, in order, unless a line is wrong. -/
def NodeType.ofLines (lines : List Text) : Except GrammarError (List NodeType) :=
  lines.mapM NodeType.ofLine

/-- The node types that the lines before the first wrong one declare, and what is wrong with that
one. -/
def NodeType.takeLines : List Text → List NodeType × Option GrammarError
  | [] => ([], none)
  | line :: rest =>
    match NodeType.ofLine line with
    | .error e => ([], some e)
    | .ok t => (NodeType.takeLines rest).map (t :: ·) id

/-- The grammar of expressions of the Lox language, used where no other grammar is given. -/
def loxExpressions : List Text :=
  ["Binary   : Expr left, Token operator, Expr right".toList,
   "Grouping : Expr expression".toList,
   "Literal  : mixed value".toList,
   "Unary    : Token operator, Expr right".toList]

end AstHierarchy
