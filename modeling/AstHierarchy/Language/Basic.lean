import AstHierarchy.Text.Lines
import AstHierarchy.Text.Lowercase

/-!
# Languages

What has to be known about a language to generate a hierarchy in it: how its files are named, the
template of such a file, and how a namespace is declared, if the language has namespaces.
-/

namespace AstHierarchy

/-- A language that hierarchies are generated in. -/
structure Language where
  /-- The short name of the language. -/
  id : Text
  /-- The name of the file with the hierarchy under a base type. -/
  fileNameFor : Text → Text
  /-- The template of a file. -/
  template : Text
  /-- The line that declares a namespace, if there is such a thing. -/
  declareNamespace? : Text → Option Text := fun _ => none

end AstHierarchy
