import AstHierarchy.Language.Basic

/-!
# PHP

The whole hierarchy is one file in one namespace. Fields are promoted constructor parameters.
-/

namespace AstHierarchy.Language

/-- The template of PHP files. -/
def phpTemplate : Text :=
  Text.unlines ([
    "#prelude",
    "<?php",
    "",
    "%namespace%",
    "#end/prelude",
    "",
    "#base",
    "abstract class %base%",
    "\x7b",
    "    abstract public function accept(Visitor $visitor);",
    "\x7d",
    "#end/base",
    "",
    "#visitor",
    "interface Visitor",
    "\x7b",
    "    %visit_methods%",
    "\x7d",
    "#end/visitor",
    "",
    "#visit_method",
    "public function %visit%(%type% $%param%);",
    "#end/visit_method",
    "",
    "#node",
    "class %type% extends %base%",
    "\x7b",
    "    public function __construct(",
    "        %fields/,+%",
    "    ) \x7b \x7d",
    "",
    "    public function accept(Visitor $visitor)",
    "    \x7b",
    "        return $visitor->%visit%($this);",
    "    \x7d",
    "\x7d",
    "#end/node",
    "",
    "#field",
    "public readonly %ty% $%name%",
    "#end/field"].map String.toList)

/-- PHP, where a file begins with the declaration of its namespace. -/
def php : Language where
  id := "php".toList
  fileNameFor base := base ++ ".php".toList
  template := phpTemplate
  declareNamespace? name := some ("namespace ".toList ++ name ++ [';'])

end AstHierarchy.Language
