import AstHierarchy.Proofs.Outcome
import AstHierarchy.Proofs.Render.Trace
import AstHierarchy.Proofs.Text.Lines
import AstHierarchy.Render.Scope

/-!
# What lists, spans and bindings write

The text that an action writes where nothing is refused, for every action that renders something.
It is given by functions that know nothing of buffers:

* `ListLayout.join` puts the texts of items together (`toText_writeList`);
* `Span.text` goes through the instructions of a span, given what its variables stand for
  (`toText_write`).

`exists_text_of_exists` says that whether a span can be rendered depends on its variables only,
and not on where it is rendered.
-/

namespace AstHierarchy

open Writing

/-! ## Lists -/

namespace ListLayout

/-- What stands between two items. -/
def separator (layout : ListLayout) (indent : Nat) : Text :=
  layout.delimiter.toList ++ if layout.oneLine then [' '] else '\n' :: List.replicate indent ' '

/-- What follows the last item. -/
def ending (layout : ListLayout) : Text := if layout.trailing then layout.delimiter.toList else []

/-- The texts of items put together. -/
def join (layout : ListLayout) (indent : Nat) (texts : List Text) : Text :=
  if texts.isEmpty then [] else (layout.separator indent).intercalate texts ++ layout.ending

@[simp] theorem join_nil (layout : ListLayout) (indent : Nat) : layout.join indent [] = [] := rfl

theorem join_cons (layout : ListLayout) (indent : Nat) (text : Text) (texts : List Text) :
    layout.join indent (text :: texts) =
      text ++ (texts.flatMap (layout.separator indent ++ ·) ++ layout.ending) := by
  rw [← List.append_assoc, ← Text.intercalate_cons]
  rfl

end ListLayout

namespace Writing

theorem OnlyWrites.writeDelimiter (layout : ListLayout) : OnlyWrites (writeDelimiter layout) := by
  unfold Writing.writeDelimiter
  split
  · exact .write _
  · exact .pure ()

theorem toText_writeDelimiter (layout : ListLayout) :
    (writeDelimiter layout).toText = .ok layout.delimiter.toList := by
  unfold writeDelimiter
  cases layout.delimiter with
  | none => rfl
  | some c => exact toText_write [c]

theorem OnlyWrites.writeSeparator (layout : ListLayout) (indent : Nat) :
    OnlyWrites (writeSeparator layout indent) := by
  refine .bind (.writeDelimiter layout) fun _ => ?_
  split
  · exact .write _
  · exact .bind (.write _) fun _ => .writeBlanks indent

theorem toText_writeSeparator (layout : ListLayout) (indent : Nat) :
    (writeSeparator layout indent).toText = .ok (layout.separator indent) := by
  have hafter : (if layout.oneLine then write [' '] else do
        write ['\n']
        writeBlanks indent : Writing Unit).toText =
      .ok (if layout.oneLine then [' '] else '\n' :: List.replicate indent ' ') := by
    split
    · exact toText_write [' ']
    · rw [toText_bind (.write _) (.writeBlanks indent), toText_write, toText_writeBlanks]
      rfl
  have honly : OnlyWrites (if layout.oneLine then write [' '] else do
      write ['\n']
      writeBlanks indent) := by
    split
    · exact .write _
    · exact .bind (.write _) fun _ => .writeBlanks indent
  rw [writeSeparator, toText_bind (.writeDelimiter layout) honly, toText_writeDelimiter, hafter]
  rfl

variable {α : Type} {item : α → Writing Unit} (layout : ListLayout) (indent : Nat)

theorem OnlyWrites.writeItemsAfter (h : ∀ a, OnlyWrites (item a)) (xs : List α) :
    OnlyWrites (writeItemsAfter layout indent item xs) := by
  induction xs with
  | nil =>
    unfold Writing.writeItemsAfter
    split
    · exact .writeDelimiter layout
    · exact .pure ()
  | cons a rest ih => exact .bind (.writeSeparator layout indent) fun _ => .bind (h a) fun _ => ih

theorem OnlyWrites.writeList (h : ∀ a, OnlyWrites (item a)) (xs : List α) :
    OnlyWrites (writeList layout indent item xs) := by
  cases xs with
  | nil => exact .pure ()
  | cons a rest => exact .bind (h a) fun _ => .writeItemsAfter layout indent h rest

theorem toText_writeItemsAfter (h : ∀ a, OnlyWrites (item a)) (xs : List α) :
    (writeItemsAfter layout indent item xs).toText =
      (xs.mapM fun a => (item a).toText).map fun texts =>
        texts.flatMap (layout.separator indent ++ ·) ++ layout.ending := by
  induction xs with
  | nil =>
    unfold writeItemsAfter ListLayout.ending
    split
    · rw [toText_writeDelimiter]
      rfl
    · rfl
  | cons a rest ih =>
    have hafter := OnlyWrites.writeItemsAfter layout indent h rest
    rw [writeItemsAfter, toText_bind (.writeSeparator layout indent) (.bind (h a) fun _ => hafter),
      toText_writeSeparator, toText_bind (h a) hafter, ih, List.mapM_cons]
    cases (item a).toText with
    | error e => rfl
    | ok text =>
      cases rest.mapM fun a => (item a).toText with
      | error e => rfl
      | ok texts => simp

/-- **The text of a list** is that of its items, put together as the layout says. -/
theorem toText_writeList (h : ∀ a, OnlyWrites (item a)) (xs : List α) :
    (writeList layout indent item xs).toText =
      (xs.mapM fun a => (item a).toText).map (layout.join indent) := by
  cases xs with
  | nil => rfl
  | cons a rest =>
    rw [writeList, toText_bind (h a) (.writeItemsAfter layout indent h rest),
      toText_writeItemsAfter layout indent h, List.mapM_cons]
    cases (item a).toText with
    | error e => rfl
    | ok text =>
      cases rest.mapM fun a => (item a).toText with
      | error e => rfl
      | ok texts => simp [ListLayout.join_cons]

end Writing

/-! ## Spans -/

/-- What a variable stands for, given the layout that the reference asks for and the indentation of
the line. -/
abbrev Meaning := Text → ListLayout → Nat → Except TemplateError Text

namespace Span

/-- The text of the instructions on a line that is itself indented by `column`. -/
def textFrom (meaning : Meaning) (indent : Nat) : Nat → Span → Except TemplateError Text
  | _, [] => .ok []
  | _, .lineBreak :: rest =>
    (textFrom meaning indent 0 rest).map ('\n' :: List.replicate indent ' ' ++ ·)
  | _, .indentation columns :: rest =>
    (textFrom meaning indent columns rest).map (List.replicate columns ' ' ++ ·)
  | column, .verbatim text :: rest => (textFrom meaning indent column rest).map (text ++ ·)
  | column, .reference name layout :: rest => do
    let text ← meaning name layout (indent + column)
    (textFrom meaning indent column rest).map (text ++ ·)

/-- A reference to what has a value is written as the value. -/
theorem textFrom_reference {meaning : Meaning} {indent column : Nat} {name : Text}
    {layout : ListLayout} {v : Text} (h : meaning name layout (indent + column) = .ok v)
    (more : Span) :
    textFrom meaning indent column (.reference name layout :: more) =
      (textFrom meaning indent column more).map (v ++ ·) := by
  rw [textFrom, h]
  rfl

/-- The text of a span. -/
def text (meaning : Meaning) (indent : Nat) (span : Span) : Except TemplateError Text :=
  span.textFrom meaning indent 0

/-- Write what a variable stands for. -/
def writeReference (expansion? : Text → Option Expansion) (name : Text) : Expansion :=
  fun layout indent =>
    match expansion? name with
    | some expansion => expansion layout indent
    | none => throw (.unknownVariable name)

/-- The meaning of variables that expand to actions. -/
def meaningOf (expansion? : Text → Option Expansion) : Meaning := fun name layout indent =>
  (writeReference expansion? name layout indent).toText

/-- Writing a reference is writing what the variable stands for, and then the rest. -/
theorem writeFrom_reference (expansion? : Text → Option Expansion) (indent column : Nat)
    (name : Text) (layout : ListLayout) (rest : Span) :
    writeFrom expansion? indent column (.reference name layout :: rest) =
      writeReference expansion? name layout (indent + column) >>= fun _ =>
        writeFrom expansion? indent column rest := by
  rw [writeFrom, writeReference]
  cases expansion? name <;> rfl

variable {expansion? : Text → Option Expansion}

theorem onlyWrites_writeReference
    (h : ∀ name e, expansion? name = some e → ∀ layout indent, OnlyWrites (e layout indent))
    (name : Text) (layout : ListLayout) (column : Nat) :
    OnlyWrites (writeReference expansion? name layout column) := by
  unfold writeReference
  cases he : expansion? name with
  | none => exact .throw _
  | some e => exact h name e he layout column

theorem onlyWrites_writeFrom
    (h : ∀ name e, expansion? name = some e → ∀ layout indent, OnlyWrites (e layout indent))
    (indent column : Nat) (span : Span) :
    OnlyWrites (writeFrom expansion? indent column span) := by
  induction span generalizing column with
  | nil => exact .pure ()
  | cons i rest ih =>
    cases i with
    | lineBreak => exact .bind (.write _) fun _ => .bind (.writeBlanks indent) fun _ => ih 0
    | indentation columns => exact .bind (.writeBlanks columns) fun _ => ih columns
    | verbatim text => exact .bind (.write text) fun _ => ih column
    | reference name layout =>
      rw [writeFrom_reference]
      exact .bind (onlyWrites_writeReference h name layout _) fun _ => ih column

theorem toText_writeFrom
    (h : ∀ name e, expansion? name = some e → ∀ layout indent, OnlyWrites (e layout indent))
    (indent column : Nat) (span : Span) :
    (writeFrom expansion? indent column span).toText =
      span.textFrom (meaningOf expansion?) indent column := by
  have honly := onlyWrites_writeFrom h indent
  -- a line break and an indentation change the column for what follows
  induction span generalizing column with
  | nil => rfl
  | cons i rest ih =>
    cases i with
    | lineBreak =>
      rw [writeFrom, toText_bind (.write _) (.bind (.writeBlanks indent) fun _ => honly 0 rest),
        toText_bind (.writeBlanks indent) (honly 0 rest), toText_write, toText_writeBlanks, ih,
        textFrom]
      cases textFrom (meaningOf expansion?) indent 0 rest <;> rfl
    | indentation columns =>
      rw [writeFrom, toText_bind (.writeBlanks columns) (honly columns rest), toText_writeBlanks,
        ih, textFrom]
      cases textFrom (meaningOf expansion?) indent columns rest <;> rfl
    | verbatim text =>
      rw [writeFrom, toText_bind (.write text) (honly column rest), toText_write, ih, textFrom]
      cases textFrom (meaningOf expansion?) indent column rest <;> rfl
    | reference name layout =>
      rw [writeFrom_reference, toText_bind (onlyWrites_writeReference h name layout _)
        (honly column rest), ih, textFrom, ← meaningOf]
      cases meaningOf expansion? name layout (indent + column) with
      | error e => rfl
      | ok text => cases textFrom (meaningOf expansion?) indent column rest <;> rfl

/-- **The text of a span** is that of its instructions, one after the other. -/
theorem toText_write
    (h : ∀ name e, expansion? name = some e → ∀ layout indent, OnlyWrites (e layout indent))
    (indent : Nat) (span : Span) :
    (span.write expansion? indent).toText = span.text (meaningOf expansion?) indent :=
  toText_writeFrom h indent 0 span

/-! ### When a span has a text -/

/-- A span has a text wherever its variables have one, whatever the indentation is. -/
theorem exists_textFrom_of_exists {meaning meaning' : Meaning} {span : Span}
    (h : ∀ name layout, .reference name layout ∈ span → ∀ column column' t,
      meaning name layout column = .ok t → ∃ t', meaning' name layout column' = .ok t')
    {indent column : Nat} {t : Text} (ht : span.textFrom meaning indent column = .ok t)
    (indent' column' : Nat) : ∃ t', span.textFrom meaning' indent' column' = .ok t' := by
  -- the two columns need not stay the same, since only the existence of the values is asked for
  induction span generalizing column column' t with
  | nil => exact ⟨[], rfl⟩
  | cons i rest ih =>
    have hrest : ∀ name layout, .reference name layout ∈ rest → ∀ column column' t,
        meaning name layout column = .ok t → ∃ t', meaning' name layout column' = .ok t' :=
      fun name layout hmem => h name layout (List.mem_cons_of_mem i hmem)
    cases i with
    | lineBreak =>
      obtain ⟨more, hmore, -⟩ := map_eq_ok_iff.1 ht
      obtain ⟨more', hmore'⟩ := ih hrest hmore 0
      exact ⟨_, by rw [textFrom, hmore']; rfl⟩
    | indentation columns =>
      obtain ⟨more, hmore, -⟩ := map_eq_ok_iff.1 ht
      obtain ⟨more', hmore'⟩ := ih hrest hmore columns
      exact ⟨_, by rw [textFrom, hmore']; rfl⟩
    | verbatim text =>
      obtain ⟨more, hmore, -⟩ := map_eq_ok_iff.1 ht
      obtain ⟨more', hmore'⟩ := ih hrest hmore column'
      exact ⟨_, by rw [textFrom, hmore']; rfl⟩
    | reference name layout =>
      obtain ⟨value, hvalue, ht⟩ := bind_eq_ok_iff.1 ht
      obtain ⟨more, hmore, -⟩ := map_eq_ok_iff.1 ht
      obtain ⟨value', hvalue'⟩ :=
        h name layout List.mem_cons_self _ (indent' + column') value hvalue
      obtain ⟨more', hmore'⟩ := ih hrest hmore column'
      exact ⟨_, by rw [textFrom, hvalue', hmore']; rfl⟩

end Span

/-! ## Bindings -/

theorem onlyWrites_expandTexts {texts : List (Text × Text)} {name : Text} {e : Expansion}
    (h : expandTexts texts name = some e) (layout : ListLayout) (indent : Nat) :
    OnlyWrites (e layout indent) := by
  obtain ⟨text, -, rfl⟩ := Option.map_eq_some_iff.1 h
  exact .write text

/-- The meaning of variables that stand for texts. -/
def meaningOfTexts (texts : List (Text × Text)) : Meaning := fun name _ _ =>
  match texts.lookup name with
  | some text => .ok text
  | none => .error (.unknownVariable name)

theorem meaningOf_expandTexts (texts : List (Text × Text)) :
    Span.meaningOf (expandTexts texts) = meaningOfTexts texts := by
  funext name layout indent
  rw [Span.meaningOf, Span.writeReference, expandTexts, meaningOfTexts]
  cases texts.lookup name with
  | none => rfl
  | some text => exact toText_write text

/-- The text of a field in one use. -/
def Field.text (template : Template) (use : FieldUse) (indent : Nat) (f : Field) :
    Except TemplateError Text :=
  (template.span use.toSection).text (meaningOfTexts f.texts) indent

/-- The text of the method of a visitor for the node type. -/
def NodeType.visitText (template : Template) (base : Text) (indent : Nat) (t : NodeType) :
    Except TemplateError Text :=
  (template.span .visitMethod).text (meaningOfTexts (t.visitTexts base)) indent

theorem onlyWrites_fieldWrite (template : Template) (use : FieldUse) (indent : Nat) (f : Field) :
    OnlyWrites (Field.write template use indent f) :=
  Span.onlyWrites_writeFrom (fun _ _ => onlyWrites_expandTexts) indent 0 _

theorem onlyWrites_writeVisit (template : Template) (base : Text) (indent : Nat) (t : NodeType) :
    OnlyWrites (NodeType.writeVisit template base indent t) :=
  Span.onlyWrites_writeFrom (fun _ _ => onlyWrites_expandTexts) indent 0 _

theorem toText_fieldWrite (template : Template) (use : FieldUse) (indent : Nat) (f : Field) :
    (Field.write template use indent f).toText = f.text template use indent := by
  rw [Field.write, Span.toText_write fun _ _ => onlyWrites_expandTexts, meaningOf_expandTexts]
  rfl

theorem toText_writeVisit (template : Template) (base : Text) (indent : Nat) (t : NodeType) :
    (NodeType.writeVisit template base indent t).toText = t.visitText template base indent := by
  rw [NodeType.writeVisit, Span.toText_write fun _ _ => onlyWrites_expandTexts,
    meaningOf_expandTexts]
  rfl

namespace Binding

/-- The text of what is bound. -/
def toText (template : Template) (b : Binding) (layout : ListLayout) (indent : Nat) :
    Except TemplateError Text :=
  match b with
  | .text t => .ok t
  | .fields use fs => (fs.mapM (Field.text template use indent)).map (layout.join indent)
  | .visitMethods base types =>
    (types.mapM (NodeType.visitText template base indent)).map (layout.join indent)

theorem onlyWrites_write (template : Template) (b : Binding) (layout : ListLayout) (indent : Nat) :
    OnlyWrites (b.write template layout indent) := by
  cases b with
  | text t => exact .write t
  | fields use fs => exact .writeList layout indent (onlyWrites_fieldWrite template use indent) fs
  | visitMethods base types =>
    exact .writeList layout indent (onlyWrites_writeVisit template base indent) types

theorem toText_write (template : Template) (b : Binding) (layout : ListLayout) (indent : Nat) :
    (b.write template layout indent).toText = b.toText template layout indent := by
  cases b with
  | text t => exact Writing.toText_write t
  | fields use fs =>
    rw [write, toText_writeList _ _ (onlyWrites_fieldWrite template use indent), toText]
    simp only [toText_fieldWrite]
  | visitMethods base types =>
    rw [write, toText_writeList _ _ (onlyWrites_writeVisit template base indent), toText]
    simp only [toText_writeVisit]

end Binding

/-! ### When a binding has a text -/

/-- Whether an item that mentions texts only can be rendered does not depend on where it stands. -/
theorem exists_text_of_exists {texts : List (Text × Text)} {span : Span} {indent : Nat} {t : Text}
    (h : span.text (meaningOfTexts texts) indent = .ok t) (indent' : Nat) :
    ∃ t', span.text (meaningOfTexts texts) indent' = .ok t' := by
  have hmeaning : ∀ name layout, .reference name layout ∈ span → ∀ column column' t,
      meaningOfTexts texts name layout column = .ok t →
        ∃ t', meaningOfTexts texts name layout column' = .ok t' :=
    fun _ _ _ _ _ t hvalue => ⟨t, hvalue⟩
  exact Span.exists_textFrom_of_exists hmeaning h indent' 0

/-- Every item of what is bound can be rendered. -/
def Binding.ItemsRender (template : Template) : Binding → Prop
  | .text _ => True
  | .fields use fs =>
    ∀ f ∈ fs, ∃ indent t, (Field.write template use indent f).toText = .ok t
  | .visitMethods base types =>
    ∀ type ∈ types, ∃ indent t, (NodeType.writeVisit template base indent type).toText = .ok t

/-- A list has a text if each of its items has one somewhere. -/
theorem exists_map_mapM_of_forall {α : Type} (text : Nat → α → Except TemplateError Text)
    (hindent : ∀ indent indent' a t, text indent a = .ok t → ∃ t', text indent' a = .ok t')
    {xs : List α} (h : ∀ a ∈ xs, ∃ indent t, text indent a = .ok t) (join : List Text → Text)
    (indent : Nat) : ∃ t, (xs.mapM (text indent)).map join = .ok t := by
  have hall : ∀ a ∈ xs, text indent a = .ok ((text indent a).toOption.getD []) := by
    intro a ha
    obtain ⟨indent', t, ht⟩ := h a ha
    obtain ⟨t', ht'⟩ := hindent indent' indent a t ht
    rw [ht']
    rfl
  exact ⟨_, by rw [mapM_eq_ok_of_forall hall]; rfl⟩

/-- **What is bound has a text** wherever it stands if its items can be rendered. -/
theorem Binding.exists_toText_of_itemsRender {template : Template} {b : Binding}
    (h : b.ItemsRender template) (layout : ListLayout) (indent : Nat) :
    ∃ t, b.toText template layout indent = .ok t := by
  cases b with
  | text t => exact ⟨t, rfl⟩
  | fields use fs =>
    refine exists_map_mapM_of_forall (Field.text template use)
      (fun _ indent' _ _ ht => exists_text_of_exists ht indent') (fun f hf => ?_) _ indent
    simpa only [toText_fieldWrite] using h f hf
  | visitMethods base types =>
    refine exists_map_mapM_of_forall (NodeType.visitText template base)
      (fun _ indent' _ _ ht => exists_text_of_exists ht indent') (fun type htype => ?_) _ indent
    simpa only [toText_writeVisit] using h type htype

/-- The items of what has a text can be rendered. -/
theorem Binding.itemsRender_of_toText {template : Template} {b : Binding} {layout : ListLayout}
    {indent : Nat} {t : Text} (h : b.toText template layout indent = .ok t) :
    b.ItemsRender template := by
  cases b with
  | text t => trivial
  | fields use fs =>
    obtain ⟨texts, htexts, -⟩ := map_eq_ok_iff.1 h
    obtain ⟨text, hall, -⟩ := exists_map_of_mapM_eq_ok htexts
    exact fun f hf => ⟨indent, text f, by rw [toText_fieldWrite]; exact hall f hf⟩
  | visitMethods base types =>
    obtain ⟨texts, htexts, -⟩ := map_eq_ok_iff.1 h
    obtain ⟨text, hall, -⟩ := exists_map_of_mapM_eq_ok htexts
    exact fun type htype => ⟨indent, text type, by rw [toText_writeVisit]; exact hall type htype⟩

/-! ## Scopes -/

/-- The meaning of the variables of a scope. -/
def Scope.meaning (template : Template) (scope : Scope) : Meaning := fun name layout indent =>
  match scope.find? name with
  | some b => b.toText template layout indent
  | none => .error (.unknownVariable name)

@[simp] theorem Scope.meaning_nil (template : Template) (name : Text) (layout : ListLayout)
    (indent : Nat) :
    Scope.meaning template [] name layout indent = .error (.unknownVariable name) := rfl

theorem Scope.meaning_cons (template : Template) (bound : Text) (b : Binding) (scope : Scope)
    (name : Text) (layout : ListLayout) (indent : Nat) :
    Scope.meaning template ((bound, b) :: scope) name layout indent =
      if name = bound then b.toText template layout indent
      else scope.meaning template name layout indent := by
  rw [Scope.meaning, Scope.find?, List.lookup_cons]
  by_cases h : name = bound
  · rw [if_pos h, beq_iff_eq.2 h]
  · rw [if_neg h, beq_eq_false_iff_ne.2 h]
    rfl

theorem Scope.meaningOf_write (template : Template) (scope : Scope) :
    Span.meaningOf (fun name => (scope.find? name).map (·.write template)) =
      scope.meaning template := by
  funext name layout indent
  rw [Span.meaningOf, Span.writeReference, Scope.meaning]
  cases scope.find? name with
  | none => rfl
  | some b => exact b.toText_write template layout indent

theorem Scope.onlyWrites_of_find? {template : Template} {scope : Scope} {name : Text}
    {e : Expansion} (h : (scope.find? name).map (·.write template) = some e) (layout : ListLayout)
    (indent : Nat) : OnlyWrites (e layout indent) := by
  obtain ⟨b, -, rfl⟩ := Option.map_eq_some_iff.1 h
  exact b.onlyWrites_write template layout indent

theorem Span.onlyWrites_render (template : Template) (scope : Scope) (indent : Nat) (span : Span) :
    OnlyWrites (span.render template scope indent) :=
  onlyWrites_writeFrom (fun _ _ => Scope.onlyWrites_of_find?) indent 0 span

/-- **The text of a span in a scope.** -/
theorem Span.toText_render (template : Template) (scope : Scope) (indent : Nat) (span : Span) :
    (span.render template scope indent).toText = span.text (scope.meaning template) indent := by
  rw [Span.render, Span.toText_write fun _ _ => Scope.onlyWrites_of_find?, Scope.meaningOf_write]

end AstHierarchy
