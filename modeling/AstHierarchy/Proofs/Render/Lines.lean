import AstHierarchy.Proofs.Render.Text

/-!
# The lines of a rendered span

The text of a span that is given line by line is made of the texts of these lines. Most of them
are one line of the text. A line on which a list stands alone is a line for each item, or a line of
blanks when the list is empty; an item may have several lines itself.

`Listed` collects the lines of the whole span in this way, and `Listed.text_eq` is what one gets
from it.
-/

namespace AstHierarchy

open Text

/-! ## Lists that stand alone -/

/-- The lines of a list that stands alone on a line with this indentation. -/
def listLines {α : Type} (columns : Nat) (xs : List α) (lines : α → List Text) : List Text :=
  if xs.isEmpty then [List.replicate columns ' '] else xs.flatMap lines

theorem listLines_of_ne_nil {α : Type} (columns : Nat) {xs : List α} (lines : α → List Text)
    (h : xs ≠ []) : listLines columns xs lines = xs.flatMap lines :=
  if_neg (by simpa using h)

theorem listLines_ne_nil {α : Type} {columns : Nat} {xs : List α} {lines : α → List Text}
    (h : ∀ x ∈ xs, lines x ≠ []) : listLines columns xs lines ≠ [] := by
  cases xs with
  | nil => exact List.cons_ne_nil _ _
  | cons x rest => exact List.append_ne_nil_of_left_ne_nil (h x List.mem_cons_self) _

/-- A line that every line for an item is, and a line of blanks is as well. -/
theorem forall_mem_listLines {α : Type} {columns : Nat} {xs : List α} {lines : α → List Text}
    {p : Text → Prop} (hblank : p (List.replicate columns ' '))
    (h : ∀ x ∈ xs, ∀ l ∈ lines x, p l) : ∀ l ∈ listLines columns xs lines, p l := by
  intro l hl
  unfold listLines at hl
  split at hl
  · rw [List.mem_singleton.1 hl]
    exact hblank
  · obtain ⟨x, hx, hl⟩ := List.mem_flatMap.1 hl
    exact h x hx l hl

/-- An indented list with an item on each line, where every item has the same ending, is made of
indented items. -/
theorem replicate_append_join {layout : ListLayout} (hone : layout.oneLine = false)
    (hend : layout.trailing = true ∨ layout.delimiter = none) (columns : Nat) {texts : List Text}
    (hne : texts ≠ []) :
    List.replicate columns ' ' ++ layout.join columns texts =
      ['\n'].intercalate (texts.map fun t =>
        List.replicate columns ' ' ++ (t ++ layout.delimiter.toList)) := by
  have hending : layout.ending = layout.delimiter.toList := by
    rcases hend with h | h <;> simp [ListLayout.ending, h]
  have hseparator : layout.separator columns =
      layout.delimiter.toList ++ '\n' :: List.replicate columns ' ' := by
    simp [ListLayout.separator, hone]
  obtain ⟨first, rest, rfl⟩ := List.exists_cons_of_ne_nil hne
  rw [ListLayout.join_cons, List.map_cons, intercalate_cons, hending, hseparator]
  -- the delimiter moves from the front of what follows an item to the end of the item
  have hmove : ∀ us : List Text,
      us.flatMap (layout.delimiter.toList ++ '\n' :: List.replicate columns ' ' ++ ·) ++
        layout.delimiter.toList =
      layout.delimiter.toList ++ (us.map fun t =>
        List.replicate columns ' ' ++ (t ++ layout.delimiter.toList)).flatMap (['\n'] ++ ·) := by
    intro us
    induction us with
    | nil => simp
    | cons u us ih =>
      rw [List.flatMap_cons, List.append_assoc, ih, List.map_cons, List.flatMap_cons]
      simp
  rw [hmove]
  simp

/-- A list on one line is made of its items. -/
theorem join_of_oneLine {layout : ListLayout} (hone : layout.oneLine = true)
    (hend : layout.trailing = false) (indent : Nat) (texts : List Text) :
    layout.join indent texts = (layout.delimiter.toList ++ [' ']).intercalate texts := by
  have hending : layout.ending = [] := by simp [ListLayout.ending, hend]
  have hseparator : layout.separator indent = layout.delimiter.toList ++ [' '] := by
    simp [ListLayout.separator, hone]
  cases texts with
  | nil => rfl
  | cons first rest => rw [ListLayout.join_cons, intercalate_cons, hending, hseparator,
      List.append_nil]

/-! ## The texts of bindings -/

namespace Binding

/-- The text of fields whose items have these texts. -/
theorem toText_fields {template : Template} {use : FieldUse} {indent : Nat} {item : Field → Text}
    (h : ∀ f : Field, f.text template use indent = .ok (item f)) (fs : List Field)
    (layout : ListLayout) :
    (Binding.fields use fs).toText template layout indent =
      .ok (layout.join indent (fs.map item)) := by
  rw [toText, mapM_eq_ok_of_forall fun f _ => h f]
  rfl

/-- The text of the methods of a visitor whose items have these texts. -/
theorem toText_visitMethods {template : Template} {base : Text} {indent : Nat}
    {item : NodeType → Text} (h : ∀ t : NodeType, t.visitText template base indent = .ok (item t))
    (types : List NodeType) (layout : ListLayout) :
    (Binding.visitMethods base types).toText template layout indent =
      .ok (layout.join indent (types.map item)) := by
  rw [toText, mapM_eq_ok_of_forall fun t _ => h t]
  rfl

end Binding

namespace Span

/-! ## Spans given by their lines -/

/-- What is written before two texts is written before the first one. -/
theorem map_bind_bind_append (x y : Except TemplateError Text) (s t : Text) :
    (do let first ← x
        let more ← y
        return first ++ s ++ more).map (t ++ ·) =
      (do let first ← x.map (t ++ ·)
          let more ← y
          return first ++ s ++ more) := by
  cases x with
  | error e => rfl
  | ok first => cases y <;> simp

/-- A line break begins anew. -/
theorem textFrom_append_lineBreak (meaning : Meaning) (indent column : Nat) (s rest : Span) :
    textFrom meaning indent column (s ++ .lineBreak :: rest) = do
      let first ← textFrom meaning indent column s
      let more ← textFrom meaning indent 0 rest
      return first ++ ('\n' :: List.replicate indent ' ') ++ more := by
  induction s generalizing column with
  | nil => cases h : textFrom meaning indent 0 rest <;> simp [textFrom, h]
  | cons i s ih =>
    cases i with
    | lineBreak => rw [List.cons_append, textFrom, ih, map_bind_bind_append, textFrom]
    | indentation columns => rw [List.cons_append, textFrom, ih, map_bind_bind_append, textFrom]
    | verbatim t => rw [List.cons_append, textFrom, ih, map_bind_bind_append, textFrom]
    | reference name layout =>
      rw [List.cons_append, textFrom, textFrom]
      cases meaning name layout (indent + column) with
      | error e => rfl
      | ok v => rw [ok_bind, ok_bind, ih, map_bind_bind_append]

variable {meaning : Meaning}

/-- The lines of the text of a span that is given by its lines. -/
inductive Listed (meaning : Meaning) : List Span → List Text → Prop where
  /-- There is no line. -/
  | nil : Listed meaning [] []
  /-- One line of the span that is some lines of the text, and the lines after it. -/
  | lines {s : Span} {group : List Text} {ss : List Span} {ls : List Text}
    (h : s.text meaning 0 = .ok (['\n'].intercalate group)) (hne : group ≠ [])
    (hrest : Listed meaning ss ls) : Listed meaning (s :: ss) (group ++ ls)

/-- One line of the span that is one line of the text. -/
theorem Listed.line {s : Span} {l : Text} {ss : List Span} {ls : List Text}
    (h : s.text meaning 0 = .ok l) (hrest : Listed meaning ss ls) :
    Listed meaning (s :: ss) (l :: ls) := by
  have hsingle : s.text meaning 0 = .ok (['\n'].intercalate [l]) := by
    rw [h, List.intercalate_singleton]
  exact .lines hsingle (List.cons_ne_nil l []) hrest

theorem Listed.ne_nil {ss : List Span} {ls : List Text} (h : Listed meaning ss ls)
    (hne : ss ≠ []) : ls ≠ [] := by
  cases h with
  | nil => exact absurd rfl hne
  | lines _ hgroup _ => exact List.append_ne_nil_of_left_ne_nil hgroup _

/-- **The text of a span that is given by its lines.** -/
theorem Listed.text_eq {ss : List Span} {ls : List Text} (h : Listed meaning ss ls) :
    text meaning 0 ([.lineBreak].intercalate ss) = .ok (['\n'].intercalate ls) := by
  induction h with
  | nil => rfl
  | @lines s group ss ls hs hne hrest ih =>
    cases ss with
    | nil =>
      cases hrest
      rw [List.intercalate_singleton, List.append_nil, hs]
    | cons next others =>
      rw [List.intercalate_cons_cons, List.append_assoc, List.singleton_append, text,
        textFrom_append_lineBreak, ← text, ← text, hs, ih,
        intercalate_append _ hne (hrest.ne_nil (List.cons_ne_nil next others))]
      rfl

/-- One line of the span on which a list stands alone. -/
theorem Listed.list {α : Type} {name : Text} {layout : ListLayout} {columns : Nat} {xs : List α}
    {item : α → Text} {lines : α → List Text} {ss : List Span} {ls : List Text}
    (hmeaning : meaning name layout columns = .ok (layout.join columns (xs.map item)))
    (hone : layout.oneLine = false) (hend : layout.trailing = true ∨ layout.delimiter = none)
    (hne : ∀ x, lines x ≠ [])
    (hlines : ∀ x, List.replicate columns ' ' ++ (item x ++ layout.delimiter.toList) =
      ['\n'].intercalate (lines x))
    (hrest : Listed meaning ss ls) :
    Listed meaning ([.indentation columns, .reference name layout] :: ss)
      (listLines columns xs lines ++ ls) := by
  refine .lines ?_ (listLines_ne_nil fun x _ => hne x) hrest
  have htext : text meaning 0 [.indentation columns, .reference name layout] =
      .ok (List.replicate columns ' ' ++ layout.join columns (xs.map item)) := by
    rw [text, textFrom, textFrom, Nat.zero_add, hmeaning, ok_bind]
    simp [textFrom]
  rw [htext]
  cases xs with
  | nil => simp [listLines]
  | cons x rest =>
    have hmap : (x :: rest).map item ≠ [] := List.cons_ne_nil _ _
    rw [replicate_append_join hone hend columns hmap,
      listLines_of_ne_nil columns lines (List.cons_ne_nil x rest),
      intercalate_flatMap _ fun y _ => hne y, List.map_map]
    exact congrArg (fun ls => Except.ok (['\n'].intercalate ls))
      (List.map_congr_left fun y _ => hlines y)

end Span

end AstHierarchy
