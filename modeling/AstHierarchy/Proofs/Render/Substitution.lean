import AstHierarchy.Proofs.Render.Text
import AstHierarchy.Proofs.Template.Line
import Mathlib.Data.List.Forall2
import Mathlib.Data.List.Induction

/-!
# Rendering is substitution

To render a piece of template text is to put a value in the place of every reference, once and from
left to right, and to leave everything else alone.

`Substitutes` says this of the text of a line and of nothing else: it knows neither instructions
nor buffers. What a value holds is not looked at, so a percent sign or a line feed in it means
nothing. The relation leaves no choice (`Substitutes.unique`), because a reference cannot be read
in two ways (`Refers.unique`).

`render_substitutes` is the main result. The values are what the last binding of each name writes
at the indentation of the line. The column that the renderer carries along is therefore the
number of blanks that begin the line, at every reference of it; this is what the induction over the
lines has to carry (`exists_textFrom_append_of_ofLine`).
-/

namespace AstHierarchy

/-! ## Substitution in a line -/

/-- The text is the line with each reference in it replaced by a value, and each escaped percent
sign by a percent sign. -/
inductive Substitutes (value : Text → ListLayout → Text → Prop) : Text → Text → Prop where
  /-- Nothing is left of the line. -/
  | nil : Substitutes value [] []
  /-- A character that begins no reference. -/
  | char {c : Char} {rest t : Text} (hc : c ≠ '%') (h : Substitutes value rest t) :
    Substitutes value (c :: rest) (c :: t)
  /-- An escaped percent sign. -/
  | percent {rest t : Text} (h : Substitutes value rest t) :
    Substitutes value ('%' :: '%' :: rest) ('%' :: t)
  /-- A reference. -/
  | reference {inner name v rest t : Text} {layout : ListLayout} (href : Refers inner name layout)
    (hv : value name layout v) (h : Substitutes value rest t) :
    Substitutes value ('%' :: (inner ++ '%' :: rest)) (v ++ t)

variable {value : Text → ListLayout → Text → Prop}

/-- Text that refers to nothing is left alone. -/
theorem Substitutes.text_append {t rest out : Text} (ht : '%' ∉ t)
    (h : Substitutes value rest out) : Substitutes value (t ++ rest) (t ++ out) := by
  induction t with
  | nil => exact h
  | cons c t ih =>
    rw [List.mem_cons, not_or] at ht
    exact .char (Ne.symm ht.1) (ih ht.2)

/-- What stands for a line that begins with a reference or an escaped percent sign. -/
theorem Substitutes.of_percent {inner rest t : Text} (hinner : '%' ∉ inner)
    (h : Substitutes value ('%' :: (inner ++ '%' :: rest)) t) :
    (inner = [] ∧ ∃ out, t = '%' :: out ∧ Substitutes value rest out) ∨
    ∃ name layout v out, Refers inner name layout ∧ value name layout v ∧ t = v ++ out ∧
      Substitutes value rest out := by
  generalize hline : '%' :: (inner ++ '%' :: rest) = line at h
  cases h with
  | nil => cases hline
  | char hc _ => exact absurd (List.cons.inj hline).1.symm hc
  | percent h =>
    obtain ⟨rfl, rfl⟩ := Text.append_cons_inj_of_not_mem hinner List.not_mem_nil
      (List.cons.inj hline).2
    exact Or.inl ⟨rfl, _, rfl, h⟩
  | reference href hv h =>
    obtain ⟨rfl, rfl⟩ := Text.append_cons_inj_of_not_mem hinner href.percent_not_mem
      (List.cons.inj hline).2
    exact Or.inr ⟨_, _, _, _, href, hv, rfl, h⟩

/-- **Substitution leaves no choice** where the values leave none. -/
theorem Substitutes.unique
    (hvalue : ∀ name layout v v', value name layout v → value name layout v' → v = v')
    {line t t' : Text} (h : Substitutes value line t) (h' : Substitutes value line t') :
    t = t' := by
  induction h generalizing t' with
  | nil => cases h' with | nil => rfl
  | char hc _ ih =>
    cases h' with
    | char _ h' => rw [ih h']
    | percent _ => exact absurd rfl hc
    | reference _ _ _ => exact absurd rfl hc
  | percent _ ih =>
    -- a reference is never empty, so two percent signs in a row are not read as one
    rcases Substitutes.of_percent List.not_mem_nil h' with ⟨-, out, rfl, hrest⟩ |
      ⟨name, layout, v, out, href, -, -, -⟩
    · rw [ih hrest]
    · exact absurd rfl href.ne_nil
  | reference href hv _ ih =>
    rcases Substitutes.of_percent href.percent_not_mem h' with ⟨hnil, -, -, -⟩ |
      ⟨name', layout', v', out, href', hv', rfl, hrest⟩
    · exact absurd hnil href.ne_nil
    · obtain ⟨rfl, rfl⟩ := href.unique href'
      rw [hvalue _ _ _ _ hv hv', ih hrest]

/-- The text is the line with every blank of its indentation replaced by a space, and what follows
substituted. The values depend on the number of those blanks. -/
def SubstitutesLine (value : Nat → Text → ListLayout → Text → Prop) (line t : Text) : Prop :=
  ∃ out, Substitutes (value (line.takeWhile Text.isBlank).length) (Text.trimStart line) out ∧
    t = List.replicate (line.takeWhile Text.isBlank).length ' ' ++ out

theorem SubstitutesLine.unique {value : Nat → Text → ListLayout → Text → Prop}
    (hvalue : ∀ column name layout v v', value column name layout v →
      value column name layout v' → v = v')
    {line t t' : Text} (h : SubstitutesLine value line t) (h' : SubstitutesLine value line t') :
    t = t' := by
  obtain ⟨out, hout, rfl⟩ := h
  obtain ⟨out', hout', rfl⟩ := h'
  rw [hout.unique (hvalue _) hout']

/-! ## The text of a line -/

namespace Span

theorem map_append_map (x : Except TemplateError Text) (s t : Text) :
    (x.map (t ++ ·)).map (s ++ ·) = x.map ((s ++ t) ++ ·) := by
  cases x with
  | error e => rfl
  | ok u => exact congrArg Except.ok (List.append_assoc s t u).symm

variable {meaning : Meaning} {indent column : Nat}

theorem textFrom_ofText_append (t : Text) (more : Span) :
    textFrom meaning indent column (ofText t ++ more) =
      (textFrom meaning indent column more).map (t ++ ·) := by
  cases t with
  | nil => cases h : textFrom meaning indent column more <;> simpa using h
  | cons c rest => rfl

theorem textFrom_ofIndentation_append (columns : Nat) (more : Span) :
    textFrom meaning indent 0 (ofIndentation columns ++ more) =
      (textFrom meaning indent columns more).map (List.replicate columns ' ' ++ ·) := by
  unfold ofIndentation
  split
  · rename_i h
    subst h
    cases h : textFrom meaning indent 0 more <;> simpa using h
  · rfl

/-- What a line reads as is rendered by substitution, whatever follows. -/
theorem Reads.exists_substitutes {t : Text} {body : Span} (h : Reads t body)
    (hvalue : ∀ name layout, .reference name layout ∈ body →
      ∃ v, value name layout v ∧ meaning name layout (indent + column) = .ok v) :
    ∃ out, Substitutes value t out ∧ ∀ more, textFrom meaning indent column (body ++ more) =
      (textFrom meaning indent column more).map (out ++ ·) := by
  induction h with
  | @text t ht =>
    refine ⟨t, ?_, fun more => textFrom_ofText_append t more⟩
    simpa using Substitutes.text_append ht .nil
  | @percent t rest more ht _ ih =>
    obtain ⟨out, hout, hmore⟩ := ih fun name layout hmem => hvalue name layout (by simp [hmem])
    refine ⟨t ++ '%' :: out, .text_append ht (.percent hout), fun last => ?_⟩
    rw [List.append_assoc, textFrom_ofText_append, List.cons_append, textFrom, hmore,
      map_append_map _ ['%'] out, map_append_map, List.singleton_append]
  | @reference t inner name rest layout more ht href _ ih =>
    obtain ⟨out, hout, hmore⟩ := ih fun name layout hmem => hvalue name layout (by simp [hmem])
    obtain ⟨v, hv, hmeaning⟩ := hvalue name layout (by simp)
    refine ⟨t ++ (v ++ out), .text_append ht (.reference href hv hout), fun last => ?_⟩
    rw [List.append_assoc, textFrom_ofText_append, List.cons_append, textFrom_reference hmeaning,
      hmore, map_append_map _ v out, map_append_map]

/-- A line is rendered by substitution, whatever follows it. The column from which the rest is
rendered does not matter: the rest is nothing or begins with a line break. -/
theorem exists_textFrom_append_of_ofLine {value : Nat → Text → ListLayout → Text → Prop}
    {line : Text} {s : Span} (h : ofLine line = .ok s)
    (hvalue : ∀ name layout, .reference name layout ∈ s → ∀ column,
      ∃ v, value column name layout v ∧ meaning name layout (indent + column) = .ok v) :
    ∃ out column, SubstitutesLine value line out ∧ ∀ more,
      textFrom meaning indent 0 (s ++ more) =
        (textFrom meaning indent column more).map (out ++ ·) := by
  obtain ⟨body, hreads, rfl⟩ := ofLine_eq_ok_iff.1 h
  obtain ⟨out, hout, hmore⟩ := hreads.exists_substitutes fun name layout hmem =>
    hvalue name layout (List.mem_append_right _ hmem) (line.takeWhile Text.isBlank).length
  refine ⟨_, (line.takeWhile Text.isBlank).length, ⟨out, hout, rfl⟩, fun more => ?_⟩
  rw [List.append_assoc, textFrom_ofIndentation_append, hmore, map_append_map]

/-! ## The text of all lines -/

/-- The lines after the first one. -/
theorem exists_textFrom_flatMap {value : Nat → Text → ListLayout → Text → Prop}
    {span : Text → Span} {ls : List Text} (h : ∀ l ∈ ls, ofLine l = .ok (span l))
    (hvalue : ∀ l ∈ ls, ∀ name layout, .reference name layout ∈ span l → ∀ column,
      ∃ v, value column name layout v ∧ meaning name layout (indent + column) = .ok v) :
    ∃ texts, List.Forall₂ (SubstitutesLine value) ls texts ∧ ∀ column,
      textFrom meaning indent column ((ls.map span).flatMap ([.lineBreak] ++ ·)) =
        .ok (texts.flatMap (('\n' :: List.replicate indent ' ') ++ ·)) := by
  induction ls with
  | nil => exact ⟨[], .nil, fun _ => rfl⟩
  | cons line rest ih =>
    obtain ⟨texts, htexts, hrest⟩ := ih (fun l hl => h l (List.mem_cons_of_mem line hl))
      fun l hl => hvalue l (List.mem_cons_of_mem line hl)
    obtain ⟨out, column, hout, hline⟩ := exists_textFrom_append_of_ofLine
      (h line List.mem_cons_self) (hvalue line List.mem_cons_self)
    refine ⟨out :: texts, .cons hout htexts, fun _ => ?_⟩
    -- the line break forgets the column that the line before it ended with
    rw [List.map_cons, List.flatMap_cons, List.singleton_append, List.cons_append, textFrom, hline,
      hrest, List.flatMap_cons, List.append_assoc]
    rfl

/-- **A span that has been read is rendered by substitution** in each of its lines. -/
theorem exists_text_of_read {value : Nat → Text → ListLayout → Text → Prop}
    {source : Text} {s : Span} (h : read source = .ok s)
    (hvalue : ∀ name layout, .reference name layout ∈ s → ∀ column,
      ∃ v, value column name layout v ∧ meaning name layout (indent + column) = .ok v) :
    ∃ texts, List.Forall₂ (SubstitutesLine value) source.lines texts ∧
      s.text meaning indent = .ok (('\n' :: List.replicate indent ' ').intercalate texts) := by
  obtain ⟨spans, hspans, rfl⟩ := map_eq_ok_iff.1 h
  obtain ⟨span, hspan, rfl⟩ := exists_map_of_mapM_eq_ok hspans
  cases hls : source.lines with
  | nil =>
    rw [hls] at hspan
    exact ⟨[], .nil, rfl⟩
  | cons line rest =>
    rw [hls] at hspan hvalue
    rw [List.map_cons, Text.intercalate_cons] at hvalue
    have hvalueLine := fun name layout hmem =>
      hvalue name layout (List.mem_append_left _ hmem)
    have hvalueRest : ∀ l ∈ rest, ∀ name layout, .reference name layout ∈ span l → ∀ column,
        ∃ v, value column name layout v ∧ meaning name layout (indent + column) = .ok v := by
      intro l hl name layout hmem
      refine hvalue name layout (List.mem_append_right _ ?_)
      exact List.mem_flatMap.2 ⟨span l, List.mem_map_of_mem hl, List.mem_cons_of_mem _ hmem⟩
    obtain ⟨out, column, hout, hline⟩ :=
      exists_textFrom_append_of_ofLine (hspan line List.mem_cons_self) hvalueLine
    obtain ⟨texts, htexts, hrest⟩ := exists_textFrom_flatMap
      (fun l hl => hspan l (List.mem_cons_of_mem line hl)) hvalueRest
    refine ⟨out :: texts, .cons hout htexts, ?_⟩
    rw [text, List.map_cons, Text.intercalate_cons, hline, hrest, Text.intercalate_cons]
    rfl

end Span

/-! ## Scopes -/

/-- The scope after the bindings, one after the other. -/
def Scope.ofBindings (bindings : List (Text × Binding)) : Scope :=
  bindings.foldl (fun scope b => scope.bind b.1 b.2) []

/-- What a name has been bound to last. -/
def lastBound? (bindings : List (Text × Binding)) (name : Text) : Option Binding :=
  ((bindings.filter fun b => b.1 == name).getLast?).map (·.2)

/-- A name stands for the last thing that it has been bound to. -/
theorem Scope.find?_ofBindings (bindings : List (Text × Binding)) (name : Text) :
    (Scope.ofBindings bindings).find? name = lastBound? bindings name := by
  induction bindings using List.reverseRecOn with
  | nil => rfl
  | append_singleton before last ih =>
    obtain ⟨bound, b⟩ := last
    have hscope : Scope.ofBindings (before ++ [(bound, b)]) =
        (Scope.ofBindings before).bind bound b := by
      rw [Scope.ofBindings, List.foldl_append]
      rfl
    rw [hscope, lastBound?, List.filter_append]
    by_cases h : name = bound
    · subst h
      simp
    · have hne : (bound == name) = false := beq_eq_false_iff_ne.2 (Ne.symm h)
      rw [Scope.find?_bind_of_ne _ h, ih, lastBound?]
      simp [hne]

/-- What the name has been bound to last writes the text when it is called by itself at the
column. -/
def Writes (template : Template) (bindings : List (Text × Binding)) (column : Nat) (name : Text)
    (layout : ListLayout) (t : Text) : Prop :=
  ∃ b, lastBound? bindings name = some b ∧ (b.write template layout column).toText = .ok t

theorem Writes.unique {template : Template} {bindings : List (Text × Binding)} {column : Nat}
    {name : Text} {layout : ListLayout} {t t' : Text}
    (h : Writes template bindings column name layout t)
    (h' : Writes template bindings column name layout t') : t = t' := by
  obtain ⟨b, hb, ht⟩ := h
  obtain ⟨b', hb', ht'⟩ := h'
  obtain rfl := Option.some.inj (hb.symm.trans hb')
  exact Except.ok.inj (ht.symm.trans ht')

/-- What is written for a text is the text. -/
theorem writes_text_iff {template : Template} {bindings : List (Text × Binding)} {name t : Text}
    (h : lastBound? bindings name = some (.text t)) (column : Nat) (layout : ListLayout)
    (t' : Text) : Writes template bindings column name layout t' ↔ t' = t := by
  have hwrite : ((Binding.text t).write template layout column).toText = .ok t :=
    Binding.toText_write template (.text t) layout column
  constructor
  · rintro ⟨b, hb, ht'⟩
    obtain rfl := Option.some.inj (h.symm.trans hb)
    exact Except.ok.inj (ht'.symm.trans hwrite)
  · rintro rfl
    exact ⟨.text t', h, hwrite⟩

/-- What is bound and can be rendered has a value in the scope, the one that is written. -/
theorem exists_writes_of_itemsRender {template : Template} {bindings : List (Text × Binding)}
    {name : Text} {b : Binding} (h : lastBound? bindings name = some b)
    (hitems : b.ItemsRender template) (layout : ListLayout) (column : Nat) :
    ∃ t, Writes template bindings column name layout t ∧
      (Scope.ofBindings bindings).meaning template name layout column = .ok t := by
  obtain ⟨t, ht⟩ := b.exists_toText_of_itemsRender hitems layout column
  refine ⟨t, ⟨b, h, ?_⟩, ?_⟩
  · rw [Binding.toText_write, ht]
  · rw [Scope.meaning, Scope.find?_ofBindings, h]
    exact ht

/-- **Rendering is substitution.** A span that has been read from a text, in a scope that binds
all its variables to what can be rendered, is rendered line by line. In each line the blanks of the
indentation become spaces, an escaped percent sign becomes a percent sign, and a reference becomes
what the last binding of its name writes at the column where the line is indented to; nothing
else changes, and this determines the text. What is bound to a text is never looked at: it is
written as it is. -/
theorem Span.render_substitutes {source : Text} {s : Span} (h : read source = .ok s)
    (template : Template) (bindings : List (Text × Binding)) (indent : Nat)
    (hbound : ∀ name layout, .reference name layout ∈ s →
      ∃ b, lastBound? bindings name = some b ∧ b.ItemsRender template) :
    (∃ texts, (s.render template (Scope.ofBindings bindings) indent).toText =
        .ok (('\n' :: List.replicate indent ' ').intercalate texts) ∧
      ∀ texts', List.Forall₂
        (SubstitutesLine fun columns => Writes template bindings (indent + columns))
        source.lines texts' ↔ texts' = texts) ∧
    ∀ name t, lastBound? bindings name = some (.text t) → ∀ column layout t',
      Writes template bindings column name layout t' ↔ t' = t := by
  refine ⟨?_, fun name t ht => writes_text_iff ht⟩
  -- what the scope says of a name is what its last binding writes
  obtain ⟨texts, htexts, hrender⟩ := exists_text_of_read h fun name layout hmem column => by
    obtain ⟨b, hb, hitems⟩ := hbound name layout hmem
    exact exists_writes_of_itemsRender hb hitems layout (indent + column)
  refine ⟨texts, ?_, fun texts' => ⟨fun htexts' => ?_, ?_⟩⟩
  · rw [Span.toText_render, hrender]
  · have hunique : Relator.RightUnique
        (SubstitutesLine fun columns => Writes template bindings (indent + columns)) :=
      fun line t t' ht ht' => ht.unique (fun _ _ _ _ _ hv hv' => hv.unique hv') ht'
    exact hunique.forall₂ htexts' htexts
  · rintro rfl
    exact htexts

/-! ## A line with a list on it -/

/-- A list in the middle of an indented line, an escaped percent sign next to a reference, and a
list on one line. -/
def listed : Text := "\t=%x/,% %%%y%\n%x/;_+%".toList

/-- What `listed` reads as. -/
def listedSpan : Span :=
  [.indentation 1, .verbatim ['='], .reference ['x'] { delimiter := some ',' }, .verbatim [' '],
    .verbatim ['%'], .reference ['y'] {}, .lineBreak,
    .reference ['x'] { delimiter := some ';', trailing := true, oneLine := true }]

/-- Two fields, and a name that is bound twice, at last to a text that looks like a template. -/
def listedBindings : List (Text × Binding) :=
  [("y".toList, .visitMethods "B".toList []),
    ("x".toList, .fields .declared
      [{ type := "A".toList, name := "a".toList }, { type := "B".toList, name := "b".toList }]),
    ("y".toList, .text "%x%\n#%%".toList)]

/-- A template that says how a field is declared. -/
def listedTemplate : Template :=
  { field := [.reference "name".toList {}, .verbatim [':'], .reference "ty".toList {}] }

theorem Span.render_substitutes_listed :
    Span.read listed = .ok listedSpan ∧
    (listedSpan.render listedTemplate (Scope.ofBindings listedBindings) 1).toText =
      .ok " =a:A,\n  b:B %%x%\n#%%\n a:A; b:B;".toList ∧
    ∃ texts, (listedSpan.render listedTemplate (Scope.ofBindings listedBindings) 1).toText =
        .ok (('\n' :: List.replicate 1 ' ').intercalate texts) ∧
      ∀ texts', List.Forall₂
        (SubstitutesLine fun columns => Writes listedTemplate listedBindings (1 + columns))
        listed.lines texts' ↔ texts' = texts := by
  have hread : Span.read listed = .ok listedSpan := by rfl
  have hbound : ∀ name layout, .reference name layout ∈ listedSpan →
      ∃ b, lastBound? listedBindings name = some b ∧ b.ItemsRender listedTemplate := by
    intro name layout hmem
    have hname : name = ['x'] ∨ name = ['y'] := by
      simp [listedSpan] at hmem
      tauto
    rcases hname with rfl | rfl
    · refine ⟨_, rfl, fun f hf => ⟨0, f.name ++ ':' :: f.type, ?_⟩⟩
      rw [toText_fieldWrite]
      simp only [List.mem_cons, List.not_mem_nil, or_false] at hf
      rcases hf with rfl | rfl <;> rfl
    · exact ⟨_, rfl, trivial⟩
  refine ⟨hread, ?_, (render_substitutes hread listedTemplate listedBindings 1 hbound).1⟩
  rw [toText_render]
  rfl

end AstHierarchy
