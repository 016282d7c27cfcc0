import AstHierarchy.Render.Scope

/-!
# Parts of a hierarchy

The file of a hierarchy consists of parts: what comes before it, the base type, the visitor, and
then a part for each node type in the order of the grammar. Each part is the rendering of one
section of the template in a scope of its own, and depends on nothing else.
-/

namespace AstHierarchy

/-- A part of the file of a hierarchy. -/
inductive Part where
  /-- What comes before the hierarchy; `declaration` is the line that declares a namespace. -/
  | preamble (declaration : Text)
  /-- The abstract base type. -/
  | base
  /-- The visitor of the node types. -/
  | visitor (types : List NodeType)
  /-- A node type. -/
  | node (type : NodeType)
  deriving DecidableEq, Repr

namespace Part

/-- The section of the template that describes the part. -/
def toSection : Part → Section
  | preamble _ => .preamble
  | base => .base
  | visitor _ => .visitor
  | node _ => .node

/-- The variables of the part in the hierarchy under the base type. -/
def scope (baseName : Text) : Part → Scope
  | preamble declaration => [("namespace".toList, .text declaration)]
  | base => [("base".toList, .text baseName)]
  | visitor types =>
    [("base".toList, .text baseName), ("visit_methods".toList, .visitMethods baseName types)]
  | node type =>
    [("type".toList, .text type.name), ("base".toList, .text baseName),
     ("visit".toList, .text (type.visitName baseName)),
     ("param".toList, .text (visitParameter baseName)),
     ("fields".toList, .fields .declared type.fields),
     ("params".toList, .fields .parameter type.fields),
     ("inits".toList, .fields .stored type.fields)]

/-- The text of the part. -/
def render (template : Template) (baseName : Text) (part : Part) : Except TemplateError Text :=
  ((template.span part.toSection).render template (part.scope baseName) 0).toText

/-- The parts of the file, in order. -/
def all (declaration : Text) (types : List NodeType) : List Part :=
  preamble declaration :: base :: visitor types :: types.map node

end Part

end AstHierarchy
