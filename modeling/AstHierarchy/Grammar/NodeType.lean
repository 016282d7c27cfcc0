import AstHierarchy.Text.Lowercase

/-!
# Node types

A hierarchy has one abstract base type and a list of node types under it. A node type is a name
and the fields of its nodes, in order. The names that connect the parts of a hierarchy are
functions of these: the method that a node calls on a visitor, and the parameter of that method.
-/

namespace AstHierarchy

/-- A field of a node: a type, as it is spelled in the generated language, and a name. -/
structure Field where
  /-- The type of the field. -/
  type : Text
  /-- The name of the field. -/
  name : Text
  deriving DecidableEq, Repr, Inhabited

/-- A concrete type of nodes. -/
structure NodeType where
  /-- The name of the type. -/
  name : Text
  /-- The fields of its nodes, in the order in which they are declared. -/
  fields : List Field
  deriving DecidableEq, Repr, Inhabited

/-- The name of the visitor's method for the node type called `name` under the base type `base`. -/
def visitName (name base : Text) : Text := "visit".toList ++ name ++ base

/-- The name of the visitor's method for the node type. -/
def NodeType.visitName (t : NodeType) (base : Text) : Text := AstHierarchy.visitName t.name base

/-- The name of the one parameter that every method of a visitor has. -/
def visitParameter (base : Text) : Text := Text.lowercase base

end AstHierarchy
