import AstHierarchy.Render.List
import AstHierarchy.Render.Span
import AstHierarchy.Template.Basic
import AstHierarchy.Grammar.NodeType

/-!
# Scopes

A scope says what the variables of a span stand for: a text, a list of fields in one of their three
uses, or the methods of a visitor. Text is written as it is, whatever characters it holds. The
items of a list are spans of the template in turn; their variables are the parts of the item, all
of them texts, so that nothing nests any deeper.
-/

namespace AstHierarchy

open Writing

/-! ## Bindings -/

/-- What a node type mentions its fields for. -/
inductive FieldUse where
  /-- To declare them. -/
  | declared
  /-- To take them as parameters of the constructor. -/
  | parameter
  /-- To store what the constructor has taken. -/
  | stored
  deriving DecidableEq, Repr

/-- The section that describes a field in this use. -/
def FieldUse.toSection : FieldUse → Section
  | declared => .field
  | parameter => .param
  | stored => .init

/-- What a variable stands for. -/
inductive Binding where
  /-- A text. -/
  | text (t : Text)
  /-- Fields in one use. -/
  | fields (use : FieldUse) (fields : List Field)
  /-- The methods of the visitor of the node types under the base type. -/
  | visitMethods (base : Text) (types : List NodeType)
  deriving DecidableEq, Repr

/-! ## Items -/

/-- Variables that stand for texts. -/
def expandTexts (texts : List (Text × Text)) (name : Text) : Option Expansion :=
  (texts.lookup name).map fun text _ _ => Writing.write text

/-- The variables in the description of a field. -/
def Field.texts (f : Field) : List (Text × Text) := [("ty".toList, f.type), ("name".toList, f.name)]

/-- The variables in the description of the method of a visitor for the node type. -/
def NodeType.visitTexts (base : Text) (t : NodeType) : List (Text × Text) :=
  [("visit".toList, t.visitName base), ("type".toList, t.name),
   ("param".toList, visitParameter base), ("base".toList, base)]

/-- Write a field in one use. -/
def Field.write (template : Template) (use : FieldUse) (indent : Nat) (f : Field) :
    Writing Unit :=
  (template.span use.toSection).write (expandTexts f.texts) indent

/-- Write the method of a visitor for the node type. -/
def NodeType.writeVisit (template : Template) (base : Text) (indent : Nat) (t : NodeType) :
    Writing Unit :=
  (template.span .visitMethod).write (expandTexts (t.visitTexts base)) indent

/-! ## Scopes -/

/-- How what is bound is written. -/
def Binding.write (template : Template) (b : Binding) : Expansion := fun layout indent =>
  match b with
  | .text t => Writing.write t
  | .fields use fs => writeList layout indent (Field.write template use indent) fs
  | .visitMethods base types =>
    writeList layout indent (NodeType.writeVisit template base indent) types

/-- The variables that something is bound to, latest first. A name that is bound again stands for
the later binding. -/
abbrev Scope := List (Text × Binding)

/-- The scope with one more variable. -/
def Scope.bind (scope : Scope) (name : Text) (b : Binding) : Scope := (name, b) :: scope

/-- What a name is bound to. -/
def Scope.find? (scope : Scope) (name : Text) : Option Binding := scope.lookup name

/-- Write the span with the variables of the scope. -/
def Span.render (template : Template) (scope : Scope) (indent : Nat) (span : Span) :
    Writing Unit :=
  span.write (fun name => (scope.find? name).map (·.write template)) indent

/-! ## Small laws -/

@[simp] theorem Scope.find?_bind_self (scope : Scope) (name : Text) (b : Binding) :
    (scope.bind name b).find? name = some b := by
  simp [Scope.bind, Scope.find?]

/-- Binding a name leaves the other names alone. -/
theorem Scope.find?_bind_of_ne (scope : Scope) {name other : Text} (h : other ≠ name)
    (b : Binding) : (scope.bind name b).find? other = scope.find? other := by
  have : (other == name) = false := by simpa using h
  simp [Scope.bind, Scope.find?, List.lookup_cons, this]

end AstHierarchy
