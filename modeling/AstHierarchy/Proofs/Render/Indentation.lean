import AstHierarchy.Proofs.Render.Units
import AstHierarchy.Proofs.Text.Lowercase

/-!
# Rendering commutes with indentation

Rendering further to the right writes the same text with more blanks at the beginning of each line
but the first. Line feeds come from three places: the line breaks of a span, the separators of a
list and the spans of the items in it. Each of them is followed by blanks for the whole indentation
of its line, the indentation of the caller included, so the caller's share is counted once however
deep the line feed stands.

This holds as long as there are no other line feeds, that is, if no text that is written as it is
holds one: `BreakFree` says so of spans, templates and what is bound.

* `Trace.Indents` relates what is written unit by unit at the two indentations, and
  `Writing.Indents` the actions themselves.
* `render_indents` is the main result.
-/

namespace AstHierarchy

open Writing

/-! ## Indenting a text -/

namespace Text

/-- The text with so many blanks after each line feed. -/
def indentLines (n : Nat) (t : Text) : Text :=
  t.flatMap fun c => if c = '\n' then '\n' :: List.replicate n ' ' else [c]

@[simp] theorem indentLines_nil (n : Nat) : indentLines n [] = [] := rfl

@[simp] theorem indentLines_append (n : Nat) (s t : Text) :
    indentLines n (s ++ t) = indentLines n s ++ indentLines n t :=
  List.flatMap_append

/-- A single line stays as it is. -/
theorem indentLines_of_not_mem (n : Nat) {t : Text} (h : '\n' ∉ t) : indentLines n t = t := by
  induction t with
  | nil => rfl
  | cons c t ih =>
    rw [List.mem_cons, not_or] at h
    obtain ⟨hc, ht⟩ := h
    have hcons : indentLines n (c :: t) = (if c = '\n' then _ else [c]) ++ indentLines n t :=
      List.flatMap_cons
    rw [hcons, if_neg (Ne.symm hc), ih ht]
    rfl

/-- The beginning of an indented line moves to the right. -/
theorem indentLines_lineBreak (n k : Nat) :
    indentLines n ('\n' :: List.replicate k ' ') = '\n' :: List.replicate (n + k) ' ' := by
  have hblanks : '\n' ∉ List.replicate k ' ' := by
    simp [List.mem_replicate]
  calc indentLines n ('\n' :: List.replicate k ' ')
      = '\n' :: List.replicate n ' ' ++ indentLines n (List.replicate k ' ') := List.flatMap_cons
    _ = '\n' :: List.replicate (n + k) ' ' := by
        rw [indentLines_of_not_mem n hblanks, List.cons_append, List.replicate_append_replicate]

end Text

open Text

/-! ## Traces at two indentations -/

/-- The second trace is the first one with so many more blanks after each line feed. -/
structure Writing.Trace.Indents (n : Nat) (s t : Trace Unit) : Prop where
  /-- Both end in the same way. -/
  result : t.result = s.result
  /-- The blanks are all that is added. -/
  text : t.writes.flatten = indentLines n s.writes.flatten

namespace Writing.Trace.Indents

variable {n : Nat}

/-- Writes without a line feed. -/
theorem units {ws : List Text} (h : '\n' ∉ ws.flatten) : Indents n (.units ws) (.units ws) :=
  ⟨rfl, (indentLines_of_not_mem n h).symm⟩

theorem failure (e : TemplateError) : Indents n (.failure e) (.failure e) := ⟨rfl, rfl⟩

/-- A line break and the indentation of the next line. -/
theorem lineBreak (k : Nat) :
    Indents n (.units (['\n'] :: List.replicate k [' ']))
      (.units (['\n'] :: List.replicate (n + k) [' '])) := by
  have hflatten : ∀ m, (['\n'] :: List.replicate m [' ']).flatten =
      '\n' :: List.replicate m ' ' := fun m => by simp
  refine ⟨rfl, ?_⟩
  simp only [Trace.units, hflatten, indentLines_lineBreak]

theorem andThen {s s' t t' : Trace Unit} (hs : Indents n s s') (ht : Indents n t t') :
    Indents n (s.andThen t) (s'.andThen t') := by
  unfold Trace.andThen
  rw [hs.result]
  cases s.result with
  | error e => exact ⟨rfl, hs.text⟩
  | ok _ => exact ⟨ht.result, by simp [hs.text, ht.text]⟩

end Writing.Trace.Indents

/-! ## Lists -/

namespace ListLayout

variable {layout : ListLayout} (h : layout.delimiter ≠ some '\n') (n k : Nat)
include h

theorem not_mem_flatten_delimiterUnits : '\n' ∉ layout.delimiterUnits.flatten := by
  unfold delimiterUnits
  cases hdelimiter : layout.delimiter with
  | none => exact List.not_mem_nil
  | some c =>
    rw [hdelimiter] at h
    simpa [eq_comm] using h

/-- A separator begins a line or stands on one. -/
theorem indents_separatorUnits :
    Trace.Indents n (.units (layout.separatorUnits k))
      (.units (layout.separatorUnits (n + k))) := by
  have hdelimiter : Trace.Indents n (.units layout.delimiterUnits) (.units layout.delimiterUnits) :=
    .units (not_mem_flatten_delimiterUnits h)
  unfold separatorUnits
  split
  · exact hdelimiter.andThen (.units (by decide))
  · exact hdelimiter.andThen (.lineBreak k)

variable {α : Type} {item : Nat → α → Trace Unit} {xs : List α}
  (hitem : ∀ a ∈ xs, Trace.Indents n (item k a) (item (n + k) a))
include hitem

theorem indents_traceAfter :
    Trace.Indents n (layout.traceAfter k (xs.map (item k)))
      (layout.traceAfter (n + k) (xs.map (item (n + k)))) := by
  induction xs with
  | nil =>
    rw [List.map_nil, List.map_nil, traceAfter, traceAfter]
    refine .units ?_
    split
    · exact not_mem_flatten_delimiterUnits h
    · exact List.not_mem_nil
  | cons a rest ih =>
    have hrest := ih fun b hb => hitem b (List.mem_cons_of_mem a hb)
    exact (indents_separatorUnits h n k).andThen ((hitem a List.mem_cons_self).andThen hrest)

/-- **A list further to the right**, given that its items are. -/
theorem indents_trace :
    Trace.Indents n (layout.trace k (xs.map (item k)))
      (layout.trace (n + k) (xs.map (item (n + k)))) := by
  cases xs with
  | nil => exact .units List.not_mem_nil
  | cons a rest =>
    have hrest := indents_traceAfter h n k fun b hb => hitem b (List.mem_cons_of_mem a hb)
    exact (hitem a List.mem_cons_self).andThen hrest

end ListLayout

/-! ## Spans -/

/-- The instruction writes no line feed of its own but a line break. -/
def Instruction.BreakFree : Instruction → Prop
  | lineBreak | indentation _ => True
  | verbatim text => '\n' ∉ text
  | reference _ layout => layout.delimiter ≠ some '\n'

instance : DecidablePred Instruction.BreakFree
  | .lineBreak => isTrue trivial
  | .indentation _ => isTrue trivial
  | .verbatim text => inferInstanceAs (Decidable ('\n' ∉ text))
  | .reference _ layout => inferInstanceAs (Decidable (layout.delimiter ≠ some '\n'))

/-- None of the instructions writes a line feed of its own but a line break. -/
def Span.BreakFree (span : Span) : Prop := ∀ i ∈ span, i.BreakFree

instance (span : Span) : Decidable span.BreakFree :=
  inferInstanceAs (Decidable (∀ i ∈ span, i.BreakFree))

/-- **A span further to the right**, given that what its variables stand for is. -/
theorem Span.indents_traceFrom {reference : TraceMeaning} {n : Nat}
    (hreference : ∀ name layout i, layout.delimiter ≠ some '\n' →
      Trace.Indents n (reference name layout i) (reference name layout (n + i)))
    {span : Span} (h : span.BreakFree) (k column : Nat) :
    Trace.Indents n (span.traceFrom reference k column)
      (span.traceFrom reference (n + k) column) := by
  induction span generalizing column with
  | nil => exact .units List.not_mem_nil
  | cons i rest ih =>
    have hi : i.BreakFree := h i List.mem_cons_self
    have hrest := ih fun j hj => h j (List.mem_cons_of_mem i hj)
    cases i with
    | lineBreak => exact (Trace.Indents.lineBreak k).andThen (hrest 0)
    | indentation columns =>
      have hblanks : '\n' ∉ (List.replicate columns [' ']).flatten := by simp
      exact (Trace.Indents.units hblanks).andThen (hrest columns)
    | verbatim text =>
      have htext : '\n' ∉ [text].flatten := by rwa [List.flatten_singleton]
      exact (Trace.Indents.units htext).andThen (hrest column)
    | reference name layout =>
      -- the column of the line is added to the indentation of the caller
      have hvalue := hreference name layout (k + column) hi
      rw [← Nat.add_assoc] at hvalue
      exact hvalue.andThen (hrest column)

/-! ## Bindings -/

/-- No span of the template writes a line feed of its own but a line break. -/
def Template.BreakFree (template : Template) : Prop := ∀ s, (template.span s).BreakFree

/-- Neither the type nor the name of the field holds a line feed. -/
def Field.BreakFree (f : Field) : Prop := '\n' ∉ f.type ∧ '\n' ∉ f.name

/-- What is bound holds no line feed. -/
def Binding.BreakFree : Binding → Prop
  | text t => '\n' ∉ t
  | fields _ fs => ∀ f ∈ fs, f.BreakFree
  | visitMethods base types => '\n' ∉ base ∧ ∀ t ∈ types, '\n' ∉ t.name

/-- Nothing that a variable of the scope stands for holds a line feed. -/
def Scope.BreakFree (scope : Scope) : Prop :=
  ∀ name b, scope.find? name = some b → b.BreakFree

/-- Texts stand where they stand. -/
theorem indents_traceOfTexts (n : Nat) {texts : List (Text × Text)}
    (h : ∀ p ∈ texts, '\n' ∉ p.2) (name : Text) (layout : ListLayout) (i : Nat) :
    Trace.Indents n (traceOfTexts texts name layout i)
      (traceOfTexts texts name layout (n + i)) := by
  unfold traceOfTexts
  cases hlookup : texts.lookup name with
  | none => exact .failure _
  | some text =>
    obtain ⟨before, after, rfl, -⟩ := List.lookup_eq_some_iff.1 hlookup
    have htext : '\n' ∉ text := h (name, text) (by simp)
    exact .units (by rwa [List.flatten_singleton])

variable {template : Template} (htemplate : template.BreakFree) (n k : Nat)
include htemplate

theorem Field.indents_trace (use : FieldUse) {f : Field} (h : f.BreakFree) :
    Trace.Indents n (f.trace template use k) (f.trace template use (n + k)) := by
  have htexts : ∀ p ∈ f.texts, '\n' ∉ p.2 := by
    simpa [Field.texts, Field.BreakFree] using h
  exact Span.indents_traceFrom (fun name layout i _ => indents_traceOfTexts n htexts name layout i)
    (htemplate _) k 0

theorem NodeType.indents_visitTrace {base : Text} (hbase : '\n' ∉ base) {t : NodeType}
    (h : '\n' ∉ t.name) :
    Trace.Indents n (t.visitTrace template base k) (t.visitTrace template base (n + k)) := by
  have hparameter : '\n' ∉ visitParameter base := fun hmem =>
    hbase (mem_of_mem_lowercase rfl hmem)
  have hvisit : '\n' ∉ t.visitName base :=
    List.not_mem_append (List.not_mem_append (by decide) h) hbase
  have htexts : ∀ p ∈ t.visitTexts base, '\n' ∉ p.2 := by
    simpa [NodeType.visitTexts] using ⟨hvisit, h, hparameter, hbase⟩
  exact Span.indents_traceFrom (fun name layout i _ => indents_traceOfTexts n htexts name layout i)
    (htemplate _) k 0

/-- **What is bound, further to the right.** -/
theorem Binding.indents_trace {b : Binding} (h : b.BreakFree) {layout : ListLayout}
    (hlayout : layout.delimiter ≠ some '\n') :
    Trace.Indents n (b.trace template layout k) (b.trace template layout (n + k)) := by
  cases b with
  | text t => exact .units (by rwa [List.flatten_singleton])
  | fields use fs =>
    exact ListLayout.indents_trace hlayout n k fun f hf =>
      Field.indents_trace htemplate n k use (h f hf)
  | visitMethods base types =>
    exact ListLayout.indents_trace hlayout n k fun t ht =>
      NodeType.indents_visitTrace htemplate n k h.1 (h.2 t ht)

theorem Scope.indents_trace {scope : Scope} (h : scope.BreakFree) (name : Text)
    {layout : ListLayout} (hlayout : layout.delimiter ≠ some '\n') :
    Trace.Indents n (scope.trace template name layout k)
      (scope.trace template name layout (n + k)) := by
  unfold Scope.trace
  cases hfind : scope.find? name with
  | none => exact .failure _
  | some b => exact b.indents_trace htemplate n k (h name b hfind) hlayout

/-! ## Actions -/

omit htemplate

/-- On a buffer without a limit, the second action ends as the first one does, and writes what the
first one writes with so many more blanks after each line feed. -/
def Writing.Indents (n : Nat) (w w' : Writing Unit) : Prop :=
  ∀ b : Buffer, b.room = none →
    (w'.perform b).1 = (w.perform b).1 ∧
      ∃ written, (w.perform b).2.content = b.content ++ written ∧
        (w'.perform b).2.content = b.content ++ indentLines n written

theorem Writing.Indents.of_trace {w w' : Writing Unit} (hw : OnlyWrites w) (hw' : OnlyWrites w')
    (h : Trace.Indents n w.trace w'.trace) : Writing.Indents n w w' := by
  intro b hb
  obtain ⟨c, hperform, hcontent, -⟩ := hw.gives b hb
  obtain ⟨c', hperform', hcontent', -⟩ := hw'.gives b hb
  rw [hperform, hperform']
  exact ⟨h.result, w.trace.writes.flatten, hcontent, by rw [hcontent', h.text]⟩

/-- **Rendering commutes with indentation.** Further to the right, spans and what is bound are
written with the same result and with so many more blanks after each line feed. -/
theorem render_indents {template : Template} (htemplate : template.BreakFree) (n k : Nat) :
    (∀ (span : Span) (scope : Scope), span.BreakFree → scope.BreakFree →
      Writing.Indents n (span.render template scope k) (span.render template scope (n + k))) ∧
    ∀ (b : Binding) (layout : ListLayout), b.BreakFree → layout.delimiter ≠ some '\n' →
      Writing.Indents n (b.write template layout k) (b.write template layout (n + k)) := by
  constructor
  · intro span scope hspan hscope
    refine .of_trace n (span.onlyWrites_render template scope k)
      (span.onlyWrites_render template scope (n + k)) ?_
    have hmeaning : ∀ name layout i, layout.delimiter ≠ some '\n' →
        Trace.Indents n (scope.trace template name layout i)
          (scope.trace template name layout (n + i)) :=
      fun name _ i hlayout => Scope.indents_trace htemplate n i hscope name hlayout
    rw [Span.trace_render, Span.trace_render]
    exact Span.indents_traceFrom hmeaning hspan k 0
  · intro b layout hb hlayout
    refine .of_trace n (b.onlyWrites_write template layout k)
      (b.onlyWrites_write template layout (n + k)) ?_
    rw [Binding.trace_write, Binding.trace_write]
    exact b.indents_trace htemplate n k hb hlayout

/-- A template that describes a field on two lines. -/
def stackedFields : Template :=
  { field := [.reference "ty".toList {}, .lineBreak, .indentation 2, .reference "name".toList {}] }

/-- A list on a line that is indented itself, and then a variable that is not bound. -/
def stackedSpan : Span :=
  [.verbatim "do".toList, .lineBreak, .indentation 1,
    .reference "fields".toList { delimiter := some ',' }, .reference "end".toList {}]

/-- Two fields. -/
def stackedScope : Scope :=
  [("fields".toList,
    .fields .declared [⟨"A".toList, "a".toList⟩, ⟨"B".toList, "b".toList⟩])]

/-- Items of two lines each, in an indented list and before an error. -/
theorem render_indents_stackedFields :
    stackedFields.BreakFree ∧ stackedSpan.BreakFree ∧ stackedScope.BreakFree ∧
    ((stackedSpan.render stackedFields stackedScope 0).perform .unlimited).2.content =
      "do\n A\n   a,\n B\n   b".toList ∧
    ((stackedSpan.render stackedFields stackedScope (4 + 0)).perform .unlimited).1 =
      .error (.unknownVariable "end".toList) ∧
    ((stackedSpan.render stackedFields stackedScope (4 + 0)).perform .unlimited).2.content =
      "do\n     A\n       a,\n     B\n       b".toList := by
  have htemplate : stackedFields.BreakFree := by
    intro s
    cases s <;> decide
  have hspan : stackedSpan.BreakFree := by decide
  have hscope : stackedScope.BreakFree := by
    intro name b hb
    obtain ⟨before, after, hsplit, -⟩ := List.lookup_eq_some_iff.1 hb
    have hmem : (name, b) ∈ stackedScope := hsplit ▸ by simp
    obtain ⟨-, rfl⟩ := Prod.mk.inj (List.mem_singleton.1 hmem)
    simp [Binding.BreakFree, Field.BreakFree]
  obtain ⟨hresult, written, hwritten, hindented⟩ :=
    (render_indents htemplate 4 0).1 stackedSpan stackedScope hspan hscope .unlimited rfl
  have htext : ((stackedSpan.render stackedFields stackedScope 0).perform .unlimited).2.content =
      "do\n A\n   a,\n B\n   b".toList := by decide +kernel
  rw [htext] at hwritten
  have hempty : ∀ t : Text, Buffer.unlimited.content ++ t = t := List.nil_append
  rw [hempty] at hwritten hindented
  rw [← hwritten] at hindented
  exact ⟨htemplate, hspan, hscope, htext, hresult, hindented.trans (by decide)⟩

end AstHierarchy
