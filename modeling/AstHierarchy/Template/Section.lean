import AstHierarchy.Text.Basic

/-!
# Sections of a template

A template has eight sections. Four describe the parts of the generated file in the order in which
they stand there (what comes before the hierarchy, the base type, the visitor, one node type), and
four describe the items of the lists inside those parts: one method of the visitor, and one field
in each of the three places where a node type mentions its fields.
-/

namespace AstHierarchy

/-- A section of a template. -/
inductive Section where
  /-- What comes before the hierarchy. -/
  | preamble
  /-- The abstract base type. -/
  | base
  /-- The visitor. -/
  | visitor
  /-- One method of the visitor. -/
  | visitMethod
  /-- One node type. -/
  | node
  /-- One field where it is declared. -/
  | field
  /-- One field as a parameter of the constructor. -/
  | param
  /-- One field where the constructor stores it. -/
  | init
  deriving DecidableEq, Repr

namespace Section

/-- All sections, in the order in which a template is compiled. -/
def all : List Section := [preamble, base, visitor, visitMethod, node, field, param, init]

/-- The name of the section in the text of a template. -/
def name : Section → Text
  | preamble => "prelude".toList
  | base => "base".toList
  | visitor => "visitor".toList
  | visitMethod => "visit_method".toList
  | node => "node".toList
  | field => "field".toList
  | param => "param".toList
  | init => "init".toList

/-- The section with the name. -/
def ofName? (name : Text) : Option Section := all.find? fun s => s.name == name

/-- Whether a template without the section is refused. -/
def isRequired : Section → Bool
  | base | visitor | visitMethod | node => true
  | preamble | field | param | init => false

/-! ## Small laws -/

theorem mem_all (s : Section) : s ∈ all := by cases s <;> decide

/-- A section is known by its name. -/
@[simp] theorem ofName?_name (s : Section) : ofName? s.name = some s := by cases s <;> decide

/-- A text names at most one section. -/
theorem name_of_ofName? {name : Text} {s : Section} (h : ofName? name = some s) :
    s.name = name := by
  simpa using List.find?_some h

end Section

end AstHierarchy
