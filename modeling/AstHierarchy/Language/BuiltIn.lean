import AstHierarchy.Language.Java
import AstHierarchy.Language.Php
import AstHierarchy.Language.Python
import AstHierarchy.Language.TypeScript

/-!
# The languages at hand
-/

namespace AstHierarchy.Language

/-- The languages that come with the library. -/
def builtIn : List Language := [php, typeScript, java, python]

/-- The language at hand with the short name. -/
def ofId? (id : Text) : Option Language := builtIn.find? fun l => l.id == id

end AstHierarchy.Language
