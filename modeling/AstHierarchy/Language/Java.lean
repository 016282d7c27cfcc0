import AstHierarchy.Language.Basic

/-!
# Java

All classes of the hierarchy stand in one file, so they are visible inside its package only. Fields
are declared, taken as parameters of the constructor and stored by it.
-/

namespace AstHierarchy.Language

/-- The template of Java files. -/
def javaTemplate : Text :=
  Text.unlines ([
    "#prelude",
    "%namespace%",
    "#end/prelude",
    "",
    "#base",
    "abstract class %base% \x7b",
    "    abstract <R> R accept(Visitor<R> visitor);",
    "\x7d",
    "#end/base",
    "",
    "#visitor",
    "interface Visitor<R> \x7b",
    "    %visit_methods%",
    "\x7d",
    "#end/visitor",
    "",
    "#visit_method",
    "R %visit%(%type% %param%);",
    "#end/visit_method",
    "",
    "#node",
    "final class %type% extends %base% \x7b",
    "    %fields%",
    "",
    "    %type%(%params/,_%) \x7b",
    "        %inits%",
    "    \x7d",
    "",
    "    @Override",
    "    <R> R accept(Visitor<R> visitor) \x7b",
    "        return visitor.%visit%(this);",
    "    \x7d",
    "\x7d",
    "#end/node",
    "",
    "#field",
    "final %ty% %name%;",
    "#end/field",
    "",
    "#param",
    "%ty% %name%",
    "#end/param",
    "",
    "#init",
    "this.%name% = %name%;",
    "#end/init"].map String.toList)

/-- Java, where a file begins with the declaration of its package. -/
def java : Language where
  id := "java".toList
  fileNameFor base := base ++ ".java".toList
  template := javaTemplate
  declareNamespace? name := some ("package ".toList ++ name ++ [';'])

end AstHierarchy.Language
