import AstHierarchy.Language.Basic

/-!
# TypeScript

The hierarchy is one module that exports everything. Fields are parameter properties of the
constructor.
-/

namespace AstHierarchy.Language

/-- The template of TypeScript files. -/
def typeScriptTemplate : Text :=
  Text.unlines ([
    "#base",
    "export abstract class %base% \x7b",
    "  abstract accept<R>(visitor: Visitor<R>): R;",
    "\x7d",
    "#end/base",
    "",
    "#visitor",
    "export interface Visitor<R> \x7b",
    "  %visit_methods%",
    "\x7d",
    "#end/visitor",
    "",
    "#visit_method",
    "%visit%(%param%: %type%): R;",
    "#end/visit_method",
    "",
    "#node",
    "export class %type% extends %base% \x7b",
    "  constructor(",
    "    %fields/,+%",
    "  ) \x7b",
    "    super();",
    "  \x7d",
    "",
    "  accept<R>(visitor: Visitor<R>): R \x7b",
    "    return visitor.%visit%(this);",
    "  \x7d",
    "\x7d",
    "#end/node",
    "",
    "#field",
    "readonly %name%: %ty%",
    "#end/field"].map String.toList)

/-- TypeScript, where a file declares no namespace. -/
def typeScript : Language where
  id := "ts".toList
  fileNameFor base := base ++ ".ts".toList
  template := typeScriptTemplate

end AstHierarchy.Language
