import AstHierarchy.Template.Bodies
import AstHierarchy.Template.Span

/-!
# Templates

A template has a span for each section. Compiling goes through the sections in their fixed order
and stops at the first one that is missing although it is required, or whose body is not well
formed; that the text is divided into sections at all comes before that.
-/

namespace AstHierarchy

/-- The spans of the eight sections. -/
structure Template where
  /-- What comes before the hierarchy. -/
  preamble : Span := []
  /-- The abstract base type. -/
  base : Span := []
  /-- The visitor. -/
  visitor : Span := []
  /-- One method of the visitor. -/
  visitMethod : Span := []
  /-- One node type. -/
  node : Span := []
  /-- One field where it is declared. -/
  field : Span := []
  /-- One field as a parameter of the constructor. -/
  param : Span := []
  /-- One field where the constructor stores it. -/
  init : Span := []
  deriving DecidableEq, Repr, Inhabited

namespace Template

/-- The span of a section. -/
def span (t : Template) : Section → Span
  | .preamble => t.preamble
  | .base => t.base
  | .visitor => t.visitor
  | .visitMethod => t.visitMethod
  | .node => t.node
  | .field => t.field
  | .param => t.param
  | .init => t.init

/-- The template whose spans `f` provides, unless it fails at a section; the first failure in the
order of `Section.all` counts. -/
def build (f : Section → Except TemplateError Span) : Except TemplateError Template := do
  let preamble ← f .preamble
  let base ← f .base
  let visitor ← f .visitor
  let visitMethod ← f .visitMethod
  let node ← f .node
  let field ← f .field
  let param ← f .param
  let init ← f .init
  return { preamble, base, visitor, visitMethod, node, field, param, init }

/-- The span of a section, given the bodies of a template's text. -/
def readSection (bodies : List (Section × Text)) (s : Section) : Except TemplateError Span :=
  match lastBody? bodies s with
  | some body => Span.read body
  | none => if s.isRequired then .error (.missingSection s) else .ok []

/-- The template that a text describes. -/
def read (source : Text) : Except TemplateError Template := do
  build (readSection (← bodiesOf source))

/-! ## Small laws -/

/-- A template is built exactly when a span is provided for every section. -/
theorem build_eq_ok_iff {f : Section → Except TemplateError Span} {t : Template} :
    build f = .ok t ↔ ∀ s, f s = .ok (t.span s) := by
  constructor
  · intro h
    unfold build at h
    cases h1 : f .preamble <;> rw [h1] at h <;> try cases h
    cases h2 : f .base <;> rw [h2] at h <;> try cases h
    cases h3 : f .visitor <;> rw [h3] at h <;> try cases h
    cases h4 : f .visitMethod <;> rw [h4] at h <;> try cases h
    cases h5 : f .node <;> rw [h5] at h <;> try cases h
    cases h6 : f .field <;> rw [h6] at h <;> try cases h
    cases h7 : f .param <;> rw [h7] at h <;> try cases h
    cases h8 : f .init <;> rw [h8] at h <;> try cases h
    intro s
    cases s <;> simp_all [span]
  · intro h
    unfold build
    rw [h .preamble, h .base, h .visitor, h .visitMethod, h .node, h .field, h .param, h .init]
    rfl

end Template

end AstHierarchy
