import AstHierarchy.Proofs.Render.Text

/-!
# Lists with items that may fail

An item may write something and fail after that. A list with such items is written up to the first
failure: what the items before it write, each with what stands between two items, and then the part
of the failing item. Nothing follows, neither a delimiter nor another item.

* `gives_writeList` and `gives_writeList_of_error` are the two cases, and `perform_writeList_congr`
  says that nothing else is done.
* `Delimits` says what writing a list comes to, with a failure and without one.
* `delimited_lists` is the main result. The lists that a template can refer to, of fields and of
  the methods of a visitor, are cases of it: their items are renderings of a section of the
  template in the scope of the item.
-/

namespace AstHierarchy

open Writing

namespace Writing

theorem gives_writeSeparator (layout : ListLayout) (indent : Nat) :
    Gives (writeSeparator layout indent) (layout.separator indent) (.ok ()) :=
  (OnlyWrites.writeSeparator layout indent).gives_of_toText (toText_writeSeparator layout indent)

/-! ## Lists -/

section

variable (layout : ListLayout) (indent : Nat) {α : Type} {item item' : α → Writing Unit}
  {text : α → Text} {xs before : List α} {a : α} {begun : Text} {e : TemplateError}

theorem gives_writeItemsAfter (h : ∀ x ∈ xs, Gives (item x) (text x) (.ok ())) :
    Gives (writeItemsAfter layout indent item xs)
      ((xs.map text).flatMap (layout.separator indent ++ ·) ++ layout.ending) (.ok ()) := by
  induction xs with
  | nil =>
    unfold writeItemsAfter ListLayout.ending
    split
    · exact (OnlyWrites.writeDelimiter layout).gives_of_toText (toText_writeDelimiter layout)
    · exact (OnlyWrites.pure ()).gives_of_toText toText_pure
  | cons x rest ih =>
    obtain ⟨hx, hrest⟩ := List.forall_mem_cons.1 h
    rw [List.map_cons, List.flatMap_cons, List.append_assoc, List.append_assoc]
    exact (gives_writeSeparator layout indent).bind (hx.bind (ih hrest))

/-- **A list none of whose items fails.** -/
theorem gives_writeList (h : ∀ x ∈ xs, Gives (item x) (text x) (.ok ())) :
    Gives (writeList layout indent item xs) (layout.join indent (xs.map text)) (.ok ()) := by
  cases xs with
  | nil => exact (OnlyWrites.pure ()).gives_of_toText toText_pure
  | cons x rest =>
    obtain ⟨hx, hrest⟩ := List.forall_mem_cons.1 h
    rw [List.map_cons, ListLayout.join_cons]
    exact hx.bind (gives_writeItemsAfter layout indent hrest)

theorem gives_writeItemsAfter_of_error (h : ∀ x ∈ before, Gives (item x) (text x) (.ok ()))
    (ha : Gives (item a) begun (.error e)) (after : List α) :
    Gives (writeItemsAfter layout indent item (before ++ a :: after))
      (layout.separator indent ++
        ((before.flatMap fun x => text x ++ layout.separator indent) ++ begun)) (.error e) := by
  induction before with
  | nil => exact (gives_writeSeparator layout indent).bind ha.bind_of_error
  | cons x rest ih =>
    obtain ⟨hx, hrest⟩ := List.forall_mem_cons.1 h
    rw [List.flatMap_cons, List.append_assoc, List.append_assoc]
    exact (gives_writeSeparator layout indent).bind (hx.bind (ih hrest))

/-- **A list with an item that fails.** -/
theorem gives_writeList_of_error (h : ∀ x ∈ before, Gives (item x) (text x) (.ok ()))
    (ha : Gives (item a) begun (.error e)) (after : List α) :
    Gives (writeList layout indent item (before ++ a :: after))
      ((before.flatMap fun x => text x ++ layout.separator indent) ++ begun) (.error e) := by
  cases before with
  | nil => exact ha.bind_of_error
  | cons x rest =>
    obtain ⟨hx, hrest⟩ := List.forall_mem_cons.1 h
    rw [List.flatMap_cons, List.append_assoc, List.append_assoc]
    exact hx.bind (gives_writeItemsAfter_of_error layout indent hrest ha after)

theorem perform_writeItemsAfter_congr (h : ∀ x ∈ before, Gives (item x) (text x) (.ok ()))
    (ha : Gives (item a) begun (.error e)) (hagree : ∀ x ∈ before ++ [a], item' x = item x)
    (after after' : List α) {b : Buffer} (hb : b.room = none) :
    (writeItemsAfter layout indent item' (before ++ a :: after')).perform b =
      (writeItemsAfter layout indent item (before ++ a :: after)).perform b := by
  have hseparator := gives_writeSeparator layout indent
  induction before generalizing b with
  | nil =>
    have haa : item' a = item a := hagree a (List.mem_singleton_self a)
    refine hseparator.perform_bind_congr (fun _ b hb => ?_) hb
    rw [haa]
    exact ha.perform_bind_congr (fun hok => by cases hok) hb
  | cons x rest ih =>
    obtain ⟨hx, hrest⟩ := List.forall_mem_cons.1 h
    obtain ⟨hxx, hagree⟩ := List.forall_mem_cons.1 hagree
    refine hseparator.perform_bind_congr (fun _ b hb => ?_) hb
    rw [hxx]
    exact hx.perform_bind_congr (fun _ b hb => ih hrest hagree hb) hb

/-- **No item after a failure is asked for.** It makes no difference what comes after the failing
item, nor what would be done for it: that may be anything, and need not even be writing. -/
theorem perform_writeList_congr (h : ∀ x ∈ before, Gives (item x) (text x) (.ok ()))
    (ha : Gives (item a) begun (.error e)) (hagree : ∀ x ∈ before ++ [a], item' x = item x)
    (after after' : List α) {b : Buffer} (hb : b.room = none) :
    (writeList layout indent item' (before ++ a :: after')).perform b =
      (writeList layout indent item (before ++ a :: after)).perform b := by
  cases before with
  | nil =>
    have haa : item' a = item a := hagree a (List.mem_singleton_self a)
    rw [List.nil_append, List.nil_append, writeList, writeList, haa]
    exact ha.perform_bind_congr (fun hok => by cases hok) hb
  | cons x rest =>
    obtain ⟨hx, hrest⟩ := List.forall_mem_cons.1 h
    obtain ⟨hxx, hagree⟩ := List.forall_mem_cons.1 hagree
    rw [List.cons_append, List.cons_append, writeList, writeList, hxx]
    exact hx.perform_bind_congr
      (fun _ b hb => perform_writeItemsAfter_congr layout indent hrest ha hagree after after' hb) hb

end

end Writing

/-! ## The items of a template -/

/-- Variables that stand for texts are the variables of a scope that binds them to the texts. -/
theorem expandTexts_eq_find? (template : Template) (texts : List (Text × Text)) :
    expandTexts texts = fun name =>
      (Scope.find? (texts.map fun v => (v.1, Binding.text v.2)) name).map (·.write template) := by
  funext name
  unfold expandTexts Scope.find?
  induction texts with
  | nil => rfl
  | cons v rest ih =>
    rw [List.map_cons, List.lookup_cons, List.lookup_cons]
    cases name == v.1 with
    | true => rfl
    | false => exact ih

theorem fieldWrite_eq_render (template : Template) (use : FieldUse) (indent : Nat) :
    Field.write template use indent = fun f => (template.span use.toSection).render template
      [("ty".toList, .text f.type), ("name".toList, .text f.name)] indent := by
  funext f
  rw [Field.write, expandTexts_eq_find? template]
  rfl

theorem writeVisit_eq_render (template : Template) (base : Text) (indent : Nat) :
    NodeType.writeVisit template base indent = fun t => (template.span .visitMethod).render template
      [("visit".toList, .text (t.visitName base)), ("type".toList, .text t.name),
       ("param".toList, .text (visitParameter base)), ("base".toList, .text base)] indent := by
  funext t
  rw [NodeType.writeVisit, expandTexts_eq_find? template]
  rfl

/-! ## The main result -/

/-- Where nothing is refused, `run` writes a list item by item, with the separator of the layout in
between, and stops at the first item that fails. -/
structure Delimits (layout : ListLayout) (indent : Nat) {α : Type} (item : α → Writing Unit)
    (run : List α → Writing Unit) : Prop where
  /-- If no item fails, the texts of the items are put together as the layout says. -/
  whole : ∀ {text : α → Text} {xs : List α}, (∀ x ∈ xs, Gives (item x) (text x) (.ok ())) →
    Gives (run xs) (layout.join indent (xs.map text)) (.ok ())
  /-- If an item fails, so does the list, with the same error. The separator stands after each item
  before it and nothing after what it has begun, whatever items come after it. -/
  cut : ∀ {text : α → Text} {before : List α} {a : α} {begun : Text} {e : TemplateError},
    (∀ x ∈ before, Gives (item x) (text x) (.ok ())) → Gives (item a) begun (.error e) →
    ∀ after : List α, Gives (run (before ++ a :: after))
      ((before.flatMap fun x => text x ++ layout.separator indent) ++ begun) (.error e)

theorem delimits_writeList (layout : ListLayout) (indent : Nat) {α : Type}
    (item : α → Writing Unit) : Delimits layout indent item (writeList layout indent item) where
  whole h := gives_writeList layout indent h
  cut h ha after := gives_writeList_of_error layout indent h ha after

/-- **Lists with items that may fail.** Whatever the items are, they stand in order with the
separator in between; the first item that fails ends the list, and no item after that one is asked
for. A list of fields in one of their uses is such a list: its items are the section of the use,
rendered at the same indentation with the type and the name of the field bound. So are the methods
of a visitor, with the section of a method and the four names that it can mention bound. -/
theorem delimited_lists (layout : ListLayout) (indent : Nat) :
    (∀ {α : Type} (item : α → Writing Unit),
      Delimits layout indent item (writeList layout indent item)) ∧
    (∀ {α : Type} {item item' : α → Writing Unit} {text : α → Text} {before : List α} {a : α}
      {begun : Text} {e : TemplateError},
      (∀ x ∈ before, Gives (item x) (text x) (.ok ())) → Gives (item a) begun (.error e) →
      (∀ x ∈ before ++ [a], item' x = item x) →
      ∀ (after after' : List α) {b : Buffer}, b.room = none →
        (writeList layout indent item' (before ++ a :: after')).perform b =
          (writeList layout indent item (before ++ a :: after)).perform b) ∧
    ∀ template : Template,
      (∀ use : FieldUse,
        let item := fun f : Field => (template.span use.toSection).render template
          [("ty".toList, .text f.type), ("name".toList, .text f.name)] indent
        Delimits layout indent item
          (fun fs => (Binding.fields use fs).write template layout indent) ∧
        ∀ f, ∃ text result, Gives (item f) text result) ∧
      ∀ base : Text,
        let item := fun t : NodeType => (template.span .visitMethod).render template
          [("visit".toList, .text (t.visitName base)), ("type".toList, .text t.name),
           ("param".toList, .text (visitParameter base)), ("base".toList, .text base)] indent
        Delimits layout indent item
          (fun ts => (Binding.visitMethods base ts).write template layout indent) ∧
        ∀ t, ∃ text result, Gives (item t) text result := by
  refine ⟨delimits_writeList layout indent, perform_writeList_congr layout indent,
    fun template => ⟨fun use => ⟨?_, fun f => ?_⟩, fun base => ⟨?_, fun t => ?_⟩⟩⟩
  · rw [← fieldWrite_eq_render]
    exact delimits_writeList layout indent _
  · exact ⟨_, _, (Span.onlyWrites_render template _ indent _).gives⟩
  · rw [← writeVisit_eq_render]
    exact delimits_writeList layout indent _
  · exact ⟨_, _, (Span.onlyWrites_render template _ indent _).gives⟩

/-- An item that is written, and that fails after that if an error comes with it. -/
def halting (x : Text × Option TemplateError) : Writing Unit := do
  write x.1
  match x.2 with
  | some e => throw e
  | none => pure ()

theorem gives_halting (t : Text) :
    Gives (halting (t, none)) t (.ok ()) ∧
    ∀ e, Gives (halting (t, some e)) t (.error e) := by
  have hwrite : Gives (write t) t (.ok ()) := (OnlyWrites.write t).gives_of_toText (toText_write t)
  refine ⟨?_, fun e => ?_⟩
  · have h : Gives (halting (t, none)) (t ++ []) (.ok ()) := hwrite.bind (OnlyWrites.pure ()).gives
    rwa [List.append_nil] at h
  · have h : Gives (halting (t, some e)) (t ++ []) (.error e) :=
      hwrite.bind (OnlyWrites.throw e).gives
    rwa [List.append_nil] at h

/-- The same for most items, but for one of them the buffer forgets everything. -/
def forgetting (x : Text × Option TemplateError) : Writing Unit :=
  if x.1 = "c".toList then set Buffer.unlimited else halting x

/-- A comma after each item. -/
def commas : ListLayout := { delimiter := some ',', trailing := true }

/-- A template that says how a parameter is declared. -/
def typedParams : Template :=
  { param := [.reference "ty".toList {}, .verbatim [' '], .reference "name".toList {}] }

/-- A list that ends with the delimiter, a list whose second item fails, with and without an item
after it, and the parameters of a constructor. -/
theorem delimited_lists_halting :
    Gives (writeList commas 2 halting [("a".toList, none), ("b".toList, none)])
      "a,\n  b,".toList (.ok ()) ∧
    Gives (writeList commas 2 halting
        [("a".toList, none), ("b".toList, some .refusedWrite), ("c".toList, none)])
      "a,\n  b".toList (.error .refusedWrite) ∧
    (writeList commas 2 forgetting
        [("a".toList, none), ("b".toList, some .refusedWrite), ("c".toList, none)]).perform
          .unlimited =
      (writeList commas 2 halting
        [("a".toList, none), ("b".toList, some .refusedWrite)]).perform .unlimited ∧
    Gives ((Binding.fields .parameter [⟨"Expr".toList, "left".toList⟩,
        ⟨"Expr".toList, "right".toList⟩]).write typedParams commas 2)
      "Expr left,\n  Expr right,".toList (.ok ()) := by
  obtain ⟨hlists, hcongr, htemplates⟩ := delimited_lists commas 2
  have hboth : ∀ x ∈ [("a".toList, none), ("b".toList, none)], Gives (halting x) x.1 (.ok ()) := by
    rintro ⟨t, e?⟩ hx
    simp only [List.mem_cons, Prod.mk.injEq, List.not_mem_nil, or_false] at hx
    rcases hx with ⟨rfl, rfl⟩ | ⟨rfl, rfl⟩
    · exact (gives_halting _).1
    · exact (gives_halting _).1
  have hbefore : ∀ x ∈ [("a".toList, none)], Gives (halting x) x.1 (.ok ()) := by
    intro x hx
    rw [List.mem_singleton.1 hx]
    exact (gives_halting _).1
  have hfails := (gives_halting "b".toList).2 .refusedWrite
  have hagree : ∀ x ∈ [("a".toList, none)] ++ [("b".toList, some .refusedWrite)],
      forgetting x = halting x := by
    intro x hx
    have hne : x.1 ≠ "c".toList := by
      simp at hx
      rcases hx with rfl | rfl <;> decide
    exact if_neg hne
  have hparams : ∀ f ∈ [Field.mk "Expr".toList "left".toList, ⟨"Expr".toList, "right".toList⟩],
      Gives (typedParams.param.render typedParams
        [("ty".toList, .text f.type), ("name".toList, .text f.name)] 2)
        (f.type ++ ' ' :: f.name) (.ok ()) := by
    intro f hf
    refine (Span.onlyWrites_render typedParams _ 2 _).gives_of_toText ?_
    simp only [List.mem_cons, List.not_mem_nil, or_false] at hf
    rcases hf with rfl | rfl <;> rfl
  exact ⟨(hlists halting).whole hboth, (hlists halting).cut hbefore hfails _,
    hcongr hbefore hfails hagree [] _ rfl, ((htemplates typedParams).1 .parameter).1.whole hparams⟩

end AstHierarchy
