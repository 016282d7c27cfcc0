import AstHierarchy.Proofs.Render.Text

/-!
# What is written unit by unit

A unit is what a buffer keeps or refuses as a whole. Each blank of an indentation is a unit of its
own, and so are each line feed, each delimiter and the blank after a delimiter on the same line. A
verbatim text is one unit however long it is, and so is a text that a variable stands for.

The functions below give the units of lists, spans and bindings together with the result, without
any buffer. They also say what is written before an error, which the texts of
`AstHierarchy.Proofs.Render.Text` do not.

* `Span.trace_render` and `Binding.trace_write` are what the rest of the theory works with.
-/

namespace AstHierarchy

open Writing

/-! ## Lists -/

namespace ListLayout

/-- The delimiter, if there is one. -/
def delimiterUnits (layout : ListLayout) : List Text := layout.delimiter.toList.map ([·])

/-- What stands between two items. -/
def separatorUnits (layout : ListLayout) (indent : Nat) : List Text :=
  layout.delimiterUnits ++
    if layout.oneLine then [[' ']] else ['\n'] :: List.replicate indent [' ']

/-- What follows the first item, given the other items. -/
def traceAfter (layout : ListLayout) (indent : Nat) : List (Trace Unit) → Trace Unit
  | [] => .units (if layout.trailing then layout.delimiterUnits else [])
  | t :: rest =>
    (Trace.units (layout.separatorUnits indent)).andThen (t.andThen (layout.traceAfter indent rest))

/-- A list, given its items. -/
def trace (layout : ListLayout) (indent : Nat) : List (Trace Unit) → Trace Unit
  | [] => .units []
  | t :: rest => t.andThen (layout.traceAfter indent rest)

end ListLayout

namespace Writing

theorem trace_writeDelimiter (layout : ListLayout) :
    (writeDelimiter layout).trace = .units layout.delimiterUnits := by
  unfold writeDelimiter ListLayout.delimiterUnits
  cases layout.delimiter with
  | none => rfl
  | some c => exact trace_write [c]

theorem trace_writeSeparator (layout : ListLayout) (indent : Nat) :
    (writeSeparator layout indent).trace = .units (layout.separatorUnits indent) := by
  unfold writeSeparator ListLayout.separatorUnits
  split
  · rw [trace_bind (.writeDelimiter layout) (.write _), trace_writeDelimiter, trace_write]
    rfl
  · rw [trace_bind (.writeDelimiter layout) (.bind (.write _) fun _ => .writeBlanks indent),
      trace_bind (.write _) (.writeBlanks indent), trace_writeDelimiter, trace_write,
      trace_writeBlanks]
    rfl

variable {α : Type} {item : α → Writing Unit} (layout : ListLayout) (indent : Nat)

theorem trace_writeItemsAfter (h : ∀ a, OnlyWrites (item a)) (xs : List α) :
    (writeItemsAfter layout indent item xs).trace =
      layout.traceAfter indent (xs.map fun a => (item a).trace) := by
  induction xs with
  | nil =>
    rw [List.map_nil, ListLayout.traceAfter, writeItemsAfter]
    split
    · exact trace_writeDelimiter layout
    · rfl
  | cons a rest ih =>
    have hafter := OnlyWrites.writeItemsAfter layout indent h rest
    rw [writeItemsAfter, trace_bind (.writeSeparator layout indent) (.bind (h a) fun _ => hafter),
      trace_bind (h a) hafter, trace_writeSeparator, ih]
    rfl

/-- **The units of a list** are those of its items with the units of the layout between them. -/
theorem trace_writeList (h : ∀ a, OnlyWrites (item a)) (xs : List α) :
    (writeList layout indent item xs).trace =
      layout.trace indent (xs.map fun a => (item a).trace) := by
  cases xs with
  | nil => rfl
  | cons a rest =>
    rw [writeList, trace_bind (h a) (.writeItemsAfter layout indent h rest),
      trace_writeItemsAfter layout indent h]
    rfl

end Writing

/-! ## Spans -/

/-- What is written where a variable stands, given the layout that the reference asks for and the
indentation of the line. -/
abbrev TraceMeaning := Text → ListLayout → Nat → Trace Unit

namespace Span

/-- The instructions on a line that is itself indented by `column`. -/
def traceFrom (reference : TraceMeaning) (indent : Nat) : Nat → Span → Trace Unit
  | _, [] => .units []
  | _, .lineBreak :: rest =>
    (Trace.units (['\n'] :: List.replicate indent [' '])).andThen
      (traceFrom reference indent 0 rest)
  | _, .indentation columns :: rest =>
    (Trace.units (List.replicate columns [' '])).andThen (traceFrom reference indent columns rest)
  | column, .verbatim text :: rest =>
    (Trace.units [text]).andThen (traceFrom reference indent column rest)
  | column, .reference name layout :: rest =>
    (reference name layout (indent + column)).andThen (traceFrom reference indent column rest)

variable {expansion? : Text → Option Expansion}

theorem trace_writeFrom
    (h : ∀ name e, expansion? name = some e → ∀ layout indent, OnlyWrites (e layout indent))
    (indent column : Nat) (span : Span) :
    (writeFrom expansion? indent column span).trace =
      span.traceFrom (fun name layout i => (writeReference expansion? name layout i).trace) indent
        column := by
  have honly := onlyWrites_writeFrom h indent
  -- a line break and an indentation change the column for what follows
  induction span generalizing column with
  | nil => rfl
  | cons i rest ih =>
    cases i with
    | lineBreak =>
      rw [writeFrom, trace_bind (.write _) (.bind (.writeBlanks indent) fun _ => honly 0 rest),
        trace_bind (.writeBlanks indent) (honly 0 rest), trace_write, trace_writeBlanks, ih]
      rfl
    | indentation columns =>
      rw [writeFrom, trace_bind (.writeBlanks columns) (honly columns rest), trace_writeBlanks, ih]
      rfl
    | verbatim text =>
      rw [writeFrom, trace_bind (.write text) (honly column rest), trace_write, ih]
      rfl
    | reference name layout =>
      rw [writeFrom_reference, trace_bind (onlyWrites_writeReference h name layout _)
        (honly column rest), ih]
      rfl

end Span

/-! ## Bindings -/

/-- Variables that stand for texts. -/
def traceOfTexts (texts : List (Text × Text)) : TraceMeaning := fun name _ _ =>
  match texts.lookup name with
  | some text => .units [text]
  | none => .failure (.unknownVariable name)

theorem trace_writeReference_expandTexts (texts : List (Text × Text)) :
    (fun name layout i => (Span.writeReference (expandTexts texts) name layout i).trace) =
      traceOfTexts texts := by
  funext name layout i
  rw [Span.writeReference, expandTexts, traceOfTexts]
  cases texts.lookup name with
  | none => rfl
  | some text => exact trace_write text

/-- A field in one use. -/
def Field.trace (template : Template) (use : FieldUse) (indent : Nat) (f : Field) : Trace Unit :=
  (template.span use.toSection).traceFrom (traceOfTexts f.texts) indent 0

/-- The method of a visitor for the node type. -/
def NodeType.visitTrace (template : Template) (base : Text) (indent : Nat) (t : NodeType) :
    Trace Unit :=
  (template.span .visitMethod).traceFrom (traceOfTexts (t.visitTexts base)) indent 0

theorem trace_fieldWrite (template : Template) (use : FieldUse) (indent : Nat) (f : Field) :
    (Field.write template use indent f).trace = f.trace template use indent := by
  rw [Field.write, Span.write, Span.trace_writeFrom fun _ _ => onlyWrites_expandTexts,
    trace_writeReference_expandTexts]
  rfl

theorem trace_writeVisit (template : Template) (base : Text) (indent : Nat) (t : NodeType) :
    (NodeType.writeVisit template base indent t).trace = t.visitTrace template base indent := by
  rw [NodeType.writeVisit, Span.write, Span.trace_writeFrom fun _ _ => onlyWrites_expandTexts,
    trace_writeReference_expandTexts]
  rfl

namespace Binding

/-- What is bound. -/
def trace (template : Template) (b : Binding) (layout : ListLayout) (indent : Nat) : Trace Unit :=
  match b with
  | .text t => .units [t]
  | .fields use fs => layout.trace indent (fs.map (Field.trace template use indent))
  | .visitMethods base types =>
    layout.trace indent (types.map (NodeType.visitTrace template base indent))

/-- **The units of what is bound.** -/
theorem trace_write (template : Template) (b : Binding) (layout : ListLayout) (indent : Nat) :
    (b.write template layout indent).trace = b.trace template layout indent := by
  cases b with
  | text t => exact Writing.trace_write t
  | fields use fs =>
    rw [write, trace_writeList _ _ (onlyWrites_fieldWrite template use indent), trace]
    simp only [trace_fieldWrite]
  | visitMethods base types =>
    rw [write, trace_writeList _ _ (onlyWrites_writeVisit template base indent), trace]
    simp only [trace_writeVisit]

end Binding

/-! ## Scopes -/

/-- What the variables of a scope stand for. -/
def Scope.trace (template : Template) (scope : Scope) : TraceMeaning := fun name layout indent =>
  match scope.find? name with
  | some b => b.trace template layout indent
  | none => .failure (.unknownVariable name)

theorem Scope.trace_writeReference (template : Template) (scope : Scope) :
    (fun name layout i => (Span.writeReference
        (fun name => (scope.find? name).map (·.write template)) name layout i).trace) =
      scope.trace template := by
  funext name layout i
  rw [Span.writeReference, Scope.trace]
  cases scope.find? name with
  | none => rfl
  | some b => exact b.trace_write template layout i

/-- **The units of a span in a scope.** -/
theorem Span.trace_render (template : Template) (scope : Scope) (indent : Nat) (span : Span) :
    (span.render template scope indent).trace =
      span.traceFrom (scope.trace template) indent 0 := by
  rw [Span.render, Span.write, Span.trace_writeFrom fun _ _ => Scope.onlyWrites_of_find?,
    Scope.trace_writeReference]

end AstHierarchy
