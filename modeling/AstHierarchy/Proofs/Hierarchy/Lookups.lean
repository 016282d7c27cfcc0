import AstHierarchy.Hierarchy.Generator
import AstHierarchy.Proofs.Render.Text

/-!
# Looking variables up

A variable is looked up when its reference is reached. What it stands for may be a list, whose items
are spans with variables of their own, and an item that is not there looks nothing up. So it
depends on the node types which variables are looked up at all, but not which ones are bound: that
depends on the section only (`Section.bound`).

`Template.lookups` is all that is looked up in the order in which it happens, as long as nothing
fails, and `LooksUp` says of a computation that it goes through such a list, succeeds if all the
variables of it are bound, and fails with the first one that is not. Everything that is composed
of such computations is one again.

* `hierarchy_fails_exactly` is the main result. Whether all variables are bound is told there
  without going through the node types (`Template.Binds`).
-/

namespace AstHierarchy

/-! ## Lookups -/

/-- The variables that the span refers to, in order. -/
def Span.variables (span : Span) : List Text :=
  span.filterMap fun
    | .reference name _ => some name
    | .lineBreak | .indentation _ | .verbatim _ => none

/-- The variables that are bound where a section is rendered. -/
def Section.bound : Section → List Text
  | preamble => ["namespace".toList]
  | base => ["base".toList]
  | visitor => ["base".toList, "visit_methods".toList]
  | visitMethod => ["visit".toList, "type".toList, "param".toList, "base".toList]
  | node => ["type".toList, "base".toList, "visit".toList, "param".toList, "fields".toList,
      "params".toList, "inits".toList]
  | field | param | init => ["ty".toList, "name".toList]

/-- A variable that is looked up where a section is rendered. -/
structure Lookup where
  /-- The section. -/
  place : Section
  /-- The variable. -/
  name : Text
  deriving DecidableEq, Repr

/-- The lookup finds something. -/
def Lookup.IsBound (l : Lookup) : Prop := l.name ∈ l.place.bound

instance (l : Lookup) : Decidable l.IsBound := inferInstanceAs (Decidable (_ ∈ _))

/-- `name` is the first variable that is looked up and not found. -/
def FirstUnbound (ls : List Lookup) (name : Text) : Prop :=
  ∃ before l after, ls = before ++ l :: after ∧ (∀ k ∈ before, k.IsBound) ∧ ¬ l.IsBound ∧
    l.name = name

theorem firstUnbound_iff_find? {ls : List Lookup} {name : Text} :
    FirstUnbound ls name ↔
      ∃ l, ls.find? (fun l => decide (¬ l.IsBound)) = some l ∧ l.name = name := by
  simp only [List.find?_eq_some_iff_append]
  constructor
  · rintro ⟨before, l, after, rfl, hbefore, hl, hname⟩
    exact ⟨l, ⟨by simpa using hl, before, after, rfl, by simpa using hbefore⟩, hname⟩
  · rintro ⟨l, ⟨hl, before, after, rfl, hbefore⟩, hname⟩
    exact ⟨before, l, after, rfl, by simpa using hbefore, by simpa using hl, hname⟩

theorem FirstUnbound.unique {ls : List Lookup} {name name' : Text} (h : FirstUnbound ls name)
    (h' : FirstUnbound ls name') : name = name' := by
  obtain ⟨l, hl, rfl⟩ := firstUnbound_iff_find?.1 h
  obtain ⟨l', hl', rfl⟩ := firstUnbound_iff_find?.1 h'
  rw [Option.some.inj (hl.symm.trans hl')]

theorem FirstUnbound.not_forall {ls : List Lookup} {name : Text} (h : FirstUnbound ls name) :
    ¬ ∀ l ∈ ls, l.IsBound := by
  obtain ⟨before, l, after, rfl, -, hl, -⟩ := h
  exact fun hall => hl (hall l (by simp))

theorem FirstUnbound.append_right {ls : List Lookup} {name : Text} (h : FirstUnbound ls name)
    (ms : List Lookup) : FirstUnbound (ls ++ ms) name := by
  obtain ⟨before, l, after, rfl, hl⟩ := h
  exact ⟨before, l, after ++ ms, by simp, hl⟩

theorem FirstUnbound.append_left {ls ms : List Lookup} {name : Text} (h : FirstUnbound ms name)
    (hls : ∀ l ∈ ls, l.IsBound) : FirstUnbound (ls ++ ms) name := by
  obtain ⟨before, l, after, rfl, hbefore, hl⟩ := h
  exact ⟨ls ++ before, l, after, by simp, List.forall_mem_append.2 ⟨hls, hbefore⟩, hl⟩

/-! ## Computations that look variables up -/

/-- The computation looks these variables up, in order and until one is not found. -/
def LooksUp {α : Type} (x : Except TemplateError α) (ls : List Lookup) : Prop :=
  (∃ a, x = .ok a ∧ ∀ l ∈ ls, l.IsBound) ∨
    ∃ name, x = .error (.unknownVariable name) ∧ FirstUnbound ls name

namespace LooksUp

variable {α β : Type}

theorem ok (a : α) : LooksUp (.ok a) [] := Or.inl ⟨a, rfl, List.forall_mem_nil _⟩

theorem map {x : Except TemplateError α} {ls : List Lookup} (h : LooksUp x ls) (f : α → β) :
    LooksUp (x.map f) ls := by
  rcases h with ⟨a, rfl, hall⟩ | ⟨name, rfl, hfirst⟩
  · exact Or.inl ⟨f a, rfl, hall⟩
  · exact Or.inr ⟨name, rfl, hfirst⟩

/-- What comes next is looked up only if all before is found. -/
theorem bind {x : Except TemplateError α} {f : α → Except TemplateError β} {ls ms : List Lookup}
    (hx : LooksUp x ls) (hf : ∀ a, LooksUp (f a) ms) : LooksUp (x >>= f) (ls ++ ms) := by
  rcases hx with ⟨a, rfl, hls⟩ | ⟨name, rfl, hfirst⟩
  · rcases hf a with ⟨b, hb, hms⟩ | ⟨name, hname, hfirst⟩
    · exact Or.inl ⟨b, hb, List.forall_mem_append.2 ⟨hls, hms⟩⟩
    · exact Or.inr ⟨name, hname, hfirst.append_left hls⟩
  · exact Or.inr ⟨name, rfl, hfirst.append_right ms⟩

theorem mapM {f : α → Except TemplateError β} {ls : α → List Lookup} {xs : List α}
    (h : ∀ a ∈ xs, LooksUp (f a) (ls a)) : LooksUp (xs.mapM f) (xs.flatMap ls) := by
  induction xs with
  | nil => exact ok []
  | cons a rest ih =>
    have hrest := ih fun b hb => h b (List.mem_cons_of_mem a hb)
    have hcons : (a :: rest).mapM f = f a >>= fun b => (rest.mapM f).map (b :: ·) := by
      rw [List.mapM_cons]
      cases f a with
      | error e => rfl
      | ok b => cases rest.mapM f <;> rfl
    rw [hcons, List.flatMap_cons]
    exact (h a List.mem_cons_self).bind fun b => hrest.map _

/-- **A span looks its variables up in order**, each one together with what it stands for. -/
theorem textFrom {meaning : Meaning} {ls : Text → List Lookup}
    (h : ∀ name layout column, LooksUp (meaning name layout column) (ls name))
    (indent column : Nat) (span : Span) :
    LooksUp (span.textFrom meaning indent column) (span.variables.flatMap ls) := by
  induction span generalizing column with
  | nil => exact ok []
  | cons i rest ih =>
    cases i with
    | lineBreak => exact (ih 0).map _
    | indentation columns => exact (ih columns).map _
    | verbatim text => exact (ih column).map _
    | reference name layout => exact (h name layout _).bind fun _ => (ih column).map _

/-- The variable is found. -/
theorem found {s : Section} {name : Text} {x : Except TemplateError α} {ls : List Lookup}
    (h : name ∈ s.bound) (hx : LooksUp x ls) : LooksUp x (⟨s, name⟩ :: ls) := by
  have hfound : ∀ l ∈ [Lookup.mk s name], l.IsBound := List.forall_mem_singleton.2 h
  rcases hx with ⟨a, rfl, hls⟩ | ⟨name, rfl, hfirst⟩
  · exact Or.inl ⟨a, rfl, List.forall_mem_cons.2 ⟨h, hls⟩⟩
  · exact Or.inr ⟨name, rfl, hfirst.append_left hfound⟩

/-- The variable is not found. -/
theorem notFound {s : Section} {name : Text} (h : name ∉ s.bound) (ls : List Lookup) :
    LooksUp (.error (.unknownVariable name) : Except TemplateError α) (⟨s, name⟩ :: ls) :=
  Or.inr ⟨name, rfl, [], ⟨s, name⟩, ls, rfl, List.forall_mem_nil _, h, rfl⟩

theorem exists_ok_iff {x : Except TemplateError α} {ls : List Lookup} (h : LooksUp x ls) :
    (∃ a, x = .ok a) ↔ ∀ l ∈ ls, l.IsBound := by
  rcases h with ⟨a, rfl, hall⟩ | ⟨name, rfl, hfirst⟩
  · exact ⟨fun _ => hall, fun _ => ⟨a, rfl⟩⟩
  · refine ⟨?_, fun hall => absurd hall hfirst.not_forall⟩
    rintro ⟨a, ha⟩
    cases ha

theorem eq_error_iff {x : Except TemplateError α} {ls : List Lookup} (h : LooksUp x ls)
    (e : TemplateError) :
    x = .error e ↔ ∃ name, FirstUnbound ls name ∧ e = .unknownVariable name := by
  rcases h with ⟨a, rfl, hall⟩ | ⟨name, rfl, hfirst⟩
  · constructor
    · intro he
      cases he
    · rintro ⟨name, hfirst, -⟩
      exact absurd hall hfirst.not_forall
  · constructor
    · intro he
      exact ⟨name, hfirst, (Except.error.inj he).symm⟩
    · rintro ⟨name', hfirst', rfl⟩
      rw [hfirst.unique hfirst']

end LooksUp

/-! ## What a section looks up -/

namespace Template

/-- The variables that a section looks up if all of them stand for texts. -/
def ownLookups (template : Template) (s : Section) : List Lookup :=
  (template.span s).variables.map (Lookup.mk s)

/-- The section refers to nothing but what is bound there. -/
def IsClosed (template : Template) (s : Section) : Prop :=
  ∀ name ∈ (template.span s).variables, name ∈ s.bound

theorem forall_ownLookups_iff {template : Template} {s : Section} :
    (∀ l ∈ template.ownLookups s, l.IsBound) ↔ template.IsClosed s := by
  rw [ownLookups, List.forall_mem_map]
  rfl

end Template

theorem mem_of_lookup_eq_some {α : Type} {xs : List (Text × α)} {name : Text} {a : α}
    (h : xs.lookup name = some a) : (name, a) ∈ xs := by
  obtain ⟨before, after, rfl, -⟩ := List.lookup_eq_some_iff.1 h
  simp

theorem mem_map_fst_of_lookup_eq_some {α : Type} {xs : List (Text × α)} {name : Text} {a : α}
    (h : xs.lookup name = some a) : name ∈ xs.map Prod.fst :=
  List.mem_map.2 ⟨(name, a), mem_of_lookup_eq_some h, rfl⟩

theorem not_mem_map_fst_of_lookup_eq_none {α : Type} {xs : List (Text × α)} {name : Text}
    (h : xs.lookup name = none) : name ∉ xs.map Prod.fst := by
  rw [List.mem_map]
  rintro ⟨x, hx, rfl⟩
  simpa using List.lookup_eq_none_iff.1 h x hx

/-- The text of an item. -/
theorem looksUp_text_meaningOfTexts (template : Template) {s : Section}
    {texts : List (Text × Text)} (h : texts.map Prod.fst = s.bound) (indent : Nat) :
    LooksUp ((template.span s).text (meaningOfTexts texts) indent) (template.ownLookups s) := by
  rw [Template.ownLookups, List.map_eq_flatMap]
  refine LooksUp.textFrom (fun name layout column => ?_) indent 0 _
  rw [meaningOfTexts]
  cases hname : texts.lookup name with
  | none => exact .notFound (h ▸ not_mem_map_fst_of_lookup_eq_none hname) []
  | some text => exact .found (h ▸ mem_map_fst_of_lookup_eq_some hname) (.ok text)

/-- What is looked up for something that is bound. -/
def Binding.lookups (template : Template) : Binding → List Lookup
  | text _ => []
  | fields use fs => fs.flatMap fun _ => template.ownLookups use.toSection
  | visitMethods _ types => types.flatMap fun _ => template.ownLookups .visitMethod

theorem Binding.looksUp_toText (template : Template) (b : Binding) (layout : ListLayout)
    (indent : Nat) : LooksUp (b.toText template layout indent) (b.lookups template) := by
  cases b with
  | text t => exact .ok t
  | fields use fs =>
    refine (LooksUp.mapM fun f _ => looksUp_text_meaningOfTexts template ?_ indent).map _
    cases use <;> rfl
  | visitMethods base types =>
    exact (LooksUp.mapM fun t _ => looksUp_text_meaningOfTexts template rfl indent).map _

/-- What is looked up for a part: its variables in order, each one with what it stands for. -/
def Part.lookups (template : Template) (base : Text) (part : Part) : List Lookup :=
  (template.span part.toSection).variables.flatMap fun name =>
    ⟨part.toSection, name⟩ ::
      (((part.scope base).find? name).map (Binding.lookups template)).getD []

/-- What is looked up for a hierarchy. -/
def Template.lookups (template : Template) (declaration base : Text) (types : List NodeType) :
    List Lookup :=
  (Part.all declaration types).flatMap (Part.lookups template base)

/-- The scope of a part binds what the section says. -/
theorem Part.map_fst_scope (base : Text) (part : Part) :
    (part.scope base).map Prod.fst = part.toSection.bound := by
  cases part <;> rfl

theorem Part.looksUp_render (template : Template) (base : Text) (part : Part) :
    LooksUp (part.render template base) (part.lookups template base) := by
  have hbound := part.map_fst_scope base
  rw [Part.render, Span.toText_render]
  refine LooksUp.textFrom (fun name layout column => ?_) 0 0 _
  rw [Scope.meaning]
  cases hname : (part.scope base).find? name with
  | none => exact .notFound (hbound ▸ not_mem_map_fst_of_lookup_eq_none hname) _
  | some b =>
    exact .found (hbound ▸ mem_map_fst_of_lookup_eq_some hname)
      (b.looksUp_toText template layout column)

theorem Generator.looksUp_render (g : Generator) (template : Template) (base : Text)
    (types : List NodeType) :
    LooksUp (g.render template base types) (template.lookups g.declaration base types) := by
  have hparts : LooksUp ((Part.all g.declaration types).mapM (Part.render template base))
      (template.lookups g.declaration base types) :=
    .mapM fun part _ => part.looksUp_render template base
  have hrender := hparts.bind fun blocks =>
    LooksUp.ok (Text.respace ("\n\n".toList.intercalate blocks))
  rwa [List.append_nil] at hrender

/-! ## Whether everything is found -/

/-- The variable that stands for the fields of a node type in this use. -/
def FieldUse.name : FieldUse → Text
  | declared => "fields".toList
  | parameter => "params".toList
  | stored => "inits".toList

/-- Whatever the template refers to for these node types is bound. -/
structure Template.Binds (template : Template) (types : List NodeType) : Prop where
  preamble : template.IsClosed .preamble
  base : template.IsClosed .base
  visitor : template.IsClosed .visitor
  node : template.IsClosed .node
  /-- A method of the visitor is looked at only if the visitor has a place for it. -/
  visitMethod : "visit_methods".toList ∈ template.visitor.variables → template.IsClosed .visitMethod
  /-- A field is looked at only if there is one and the node types have a place for it. -/
  fields : (∃ t ∈ types, t.fields ≠ []) → ∀ use : FieldUse,
    use.name ∈ template.node.variables → template.IsClosed use.toSection

/-- All items of a list are described by the same section. -/
theorem forall_mem_flatMap_ownLookups_iff {α : Type} {template : Template} {s : Section}
    {xs : List α} :
    (∀ l ∈ xs.flatMap fun _ => template.ownLookups s, l.IsBound) ↔
      (xs ≠ [] → template.IsClosed s) := by
  rw [← Template.forall_ownLookups_iff]
  constructor
  · intro h hne l hl
    obtain ⟨x, hx⟩ := List.exists_mem_of_ne_nil xs hne
    exact h l (List.mem_flatMap.2 ⟨x, hx, hl⟩)
  · intro h l hl
    obtain ⟨x, hx, hl⟩ := List.mem_flatMap.1 hl
    exact h (List.ne_nil_of_mem hx) l hl

/-- Where no name is bound twice, what is found is all that there is. -/
theorem lookup_eq_some_iff_mem {α : Type} {xs : List (Text × α)} (h : (xs.map Prod.fst).Nodup)
    {name : Text} {a : α} : xs.lookup name = some a ↔ (name, a) ∈ xs := by
  refine ⟨mem_of_lookup_eq_some, fun hmem => ?_⟩
  obtain ⟨before, after, rfl⟩ := List.append_of_mem hmem
  rw [List.map_append, List.map_cons] at h
  refine List.lookup_eq_some_iff.2 ⟨before, after, rfl, fun x hx => bne_iff_ne.2 ?_⟩
  rintro rfl
  exact (List.nodup_append.1 h).2.2 x.1 (List.mem_map_of_mem hx) x.1 List.mem_cons_self rfl

theorem Section.nodup_bound (s : Section) : s.bound.Nodup := by cases s <;> decide

namespace Part

variable {template : Template} {base : Text}

theorem find?_scope_eq_some_iff {part : Part} {name : Text} {b : Binding} :
    (part.scope base).find? name = some b ↔ (name, b) ∈ part.scope base :=
  lookup_eq_some_iff_mem (part.map_fst_scope base ▸ part.toSection.nodup_bound)

theorem forall_lookups_iff {part : Part} :
    (∀ l ∈ part.lookups template base, l.IsBound) ↔
      template.IsClosed part.toSection ∧ ∀ x ∈ part.scope base,
        x.1 ∈ (template.span part.toSection).variables → ∀ l ∈ x.2.lookups template, l.IsBound := by
  rw [lookups, List.forall_mem_flatMap]
  constructor
  · intro h
    refine ⟨fun name hname => h name hname _ List.mem_cons_self, fun x hx hname l hl => ?_⟩
    refine h x.1 hname l (List.mem_cons_of_mem _ ?_)
    rw [find?_scope_eq_some_iff.2 hx]
    exact hl
  · rintro ⟨hclosed, hitems⟩ name hname
    refine List.forall_mem_cons.2 ⟨hclosed name hname, ?_⟩
    cases hb : (part.scope base).find? name with
    | none => exact List.forall_mem_nil _
    | some b => exact hitems (name, b) (find?_scope_eq_some_iff.1 hb) hname

theorem forall_lookups_preamble_iff {declaration : Text} :
    (∀ l ∈ (preamble declaration).lookups template base, l.IsBound) ↔
      template.IsClosed .preamble := by
  rw [forall_lookups_iff]
  simp [scope, Binding.lookups, toSection]

theorem forall_lookups_base_iff :
    (∀ l ∈ Part.base.lookups template base, l.IsBound) ↔ template.IsClosed .base := by
  rw [forall_lookups_iff]
  simp [scope, Binding.lookups, toSection]

theorem forall_lookups_visitor_iff {types : List NodeType} :
    (∀ l ∈ (visitor types).lookups template base, l.IsBound) ↔
      template.IsClosed .visitor ∧ ("visit_methods".toList ∈ template.visitor.variables →
        types ≠ [] → template.IsClosed .visitMethod) := by
  rw [forall_lookups_iff]
  refine and_congr_right fun _ => ⟨fun h hname => ?_, ?_⟩
  · refine forall_mem_flatMap_ownLookups_iff.1 ?_
    exact h ("visit_methods".toList, .visitMethods base types) (find?_scope_eq_some_iff.1 rfl) hname
  · rintro h ⟨name, b⟩ hx hname
    cases b with
    | text t => exact List.forall_mem_nil _
    | fields use fs => simp [scope] at hx
    | visitMethods base' types' =>
      obtain ⟨rfl, -, rfl⟩ : name = "visit_methods".toList ∧ base' = base ∧ types' = types := by
        simpa [scope] using hx
      exact forall_mem_flatMap_ownLookups_iff.2 (h hname)

theorem forall_lookups_node_iff {t : NodeType} :
    (∀ l ∈ (node t).lookups template base, l.IsBound) ↔
      template.IsClosed .node ∧ ∀ use : FieldUse, use.name ∈ template.node.variables →
        t.fields ≠ [] → template.IsClosed use.toSection := by
  rw [forall_lookups_iff]
  refine and_congr_right fun _ => ⟨fun h use hname => ?_, ?_⟩
  · refine forall_mem_flatMap_ownLookups_iff.1 ?_
    refine h (use.name, .fields use t.fields) (find?_scope_eq_some_iff.1 ?_) hname
    cases use <;> rfl
  · rintro h ⟨name, b⟩ hx hname
    cases b with
    | text t => exact List.forall_mem_nil _
    | fields use fs =>
      obtain ⟨rfl, rfl⟩ : name = use.name ∧ fs = t.fields := by
        simp only [scope, List.mem_cons, Prod.mk.injEq, Binding.fields.injEq, reduceCtorEq,
          and_false, false_or, List.not_mem_nil, or_false] at hx
        rcases hx with ⟨rfl, rfl, rfl⟩ | ⟨rfl, rfl, rfl⟩ | ⟨rfl, rfl, rfl⟩ <;> exact ⟨rfl, rfl⟩
      exact forall_mem_flatMap_ownLookups_iff.2 (h use hname)
    | visitMethods base' types => simp [scope] at hx

end Part

/-- **Everything that is looked up is found** exactly when the template binds it. -/
theorem Template.forall_lookups_iff {template : Template} {declaration base : Text}
    {types : List NodeType} (hne : types ≠ []) :
    (∀ l ∈ template.lookups declaration base types, l.IsBound) ↔ template.Binds types := by
  simp only [lookups, Part.all, List.forall_mem_flatMap, List.forall_mem_cons, List.forall_mem_map,
    Part.forall_lookups_preamble_iff, Part.forall_lookups_base_iff, Part.forall_lookups_visitor_iff,
    Part.forall_lookups_node_iff]
  constructor
  · rintro ⟨hpreamble, hbase, ⟨hvisitor, hmethod⟩, hnodes⟩
    obtain ⟨t, ht⟩ := List.exists_mem_of_ne_nil types hne
    exact { preamble := hpreamble
            base := hbase
            visitor := hvisitor
            node := (hnodes t ht).1
            visitMethod := fun hname => hmethod hname hne
            fields := fun ⟨t, ht, hfields⟩ use hname => (hnodes t ht).2 use hname hfields }
  · intro h
    exact ⟨h.preamble, h.base, ⟨h.visitor, fun hname _ => h.visitMethod hname⟩,
      fun t ht => ⟨h.node, fun use hname hfields => h.fields ⟨t, ht, hfields⟩ use hname⟩⟩

/-! ## When there is no hierarchy -/

namespace Generator

/-- **When there is no text of a hierarchy, and why.** There is one exactly when there is a node
type, the template can be read, and everything that it refers to for these node types is bound.
Otherwise the first of these three that is not so is reported, and of the variables that are not
bound the first one that is looked up. -/
theorem hierarchy_fails_exactly (g : Generator) (base : Text) (types : List NodeType) :
    ((∃ contents, (g.hierarchy base types).result = .ok contents) ↔
      types ≠ [] ∧ ∃ template, Template.read g.language.template = .ok template ∧
        template.Binds types) ∧
    ∀ e, (g.hierarchy base types).result = .error e ↔
      (types = [] ∧ e = .emptyGrammar base) ∨
      (types ≠ [] ∧ ∃ why, Template.read g.language.template = .error why ∧
        e = .template g.language.id why) ∨
      (types ≠ [] ∧ ∃ template name, Template.read g.language.template = .ok template ∧
        FirstUnbound (template.lookups g.declaration base types) name ∧
        e = .template g.language.id (.unknownVariable name)) := by
  rw [hierarchy]
  by_cases hne : types = []
  · subst hne
    simp [eq_comm]
  · rw [if_neg (by simpa using hne)]
    cases hread : Template.read g.language.template with
    | error why => simp [hne, eq_comm]
    | ok template =>
      have hlooks := g.looksUp_render template base types
      simp only [mapError_eq_ok_iff, mapError_eq_error_iff, hlooks.exists_ok_iff,
        hlooks.eq_error_iff, Template.forall_lookups_iff hne]
      refine ⟨by simp [hne], fun e => ?_⟩
      constructor
      · rintro ⟨_, ⟨name, hfirst, rfl⟩, rfl⟩
        exact Or.inr (Or.inr ⟨hne, template, name, rfl, hfirst, rfl⟩)
      · rintro (⟨hnil, -⟩ | ⟨-, _, ⟨⟩, -⟩ | ⟨-, _, name, ⟨⟩, hfirst, rfl⟩)
        · exact absurd hnil hne
        · exact ⟨_, ⟨name, hfirst, rfl⟩, rfl⟩

end Generator

end AstHierarchy
