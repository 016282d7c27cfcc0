import AstHierarchy.Hierarchy.Generator
import AstHierarchy.Proofs.Render.Text
import AstHierarchy.Proofs.Text.Spacing

/-!
# The blocks of a hierarchy

The text of a hierarchy is made of blocks: the preamble, the base type, the visitor and one block
for each node type. What a block says depends on little, and the four functions below take no more
than that. Putting the blocks together keeps each of them as it is in tidy form.

* `hierarchy_eq_ok_iff` says when there is a text, and what it is.
* `hierarchy_blocks` is the main statement: the text consists of the tidy blocks in order, and a
  change in the list of node types changes no block but that of the visitor.
-/

namespace AstHierarchy

open Text

/-! ## The text of each block -/

namespace Template

/-- What comes before the hierarchy. -/
def preambleBlock (template : Template) (declaration : Text) : Except TemplateError Text :=
  (template.preamble.render template [("namespace".toList, .text declaration)] 0).toText

/-- The base type. -/
def baseBlock (template : Template) (base : Text) : Except TemplateError Text :=
  (template.base.render template [("base".toList, .text base)] 0).toText

/-- The visitor. -/
def visitorBlock (template : Template) (base : Text) (types : List NodeType) :
    Except TemplateError Text :=
  (template.visitor.render template
    [("base".toList, .text base), ("visit_methods".toList, .visitMethods base types)] 0).toText

/-- A node type. -/
def nodeBlock (template : Template) (base : Text) (t : NodeType) : Except TemplateError Text :=
  (template.node.render template ((Part.node t).scope base) 0).toText

/-- Which node types there are matters to the visitor, but not in which order they come. -/
theorem exists_visitorBlock_of_perm {template : Template} {base : Text}
    {types types' : List NodeType} {visitor : Text}
    (h : template.visitorBlock base types = .ok visitor) (hperm : types'.Perm types) :
    ∃ visitor', template.visitorBlock base types' = .ok visitor' := by
  rw [visitorBlock, Span.toText_render] at h
  simp only [visitorBlock, Span.toText_render]
  refine Span.exists_textFrom_of_exists (fun name layout _ column column' t ht => ?_) h 0 0
  rw [Scope.meaning_cons] at ht ⊢
  split at ht
  · rename_i hname
    exact ⟨base, if_pos hname⟩
  · rename_i hname
    rw [if_neg hname]
    rw [Scope.meaning_cons] at ht ⊢
    split at ht
    · rename_i hvisit
      rw [if_pos hvisit]
      have hitems : (Binding.visitMethods base types').ItemsRender template := fun type htype =>
        Binding.itemsRender_of_toText ht type (hperm.mem_iff.1 htype)
      exact Binding.exists_toText_of_itemsRender hitems layout column'
    · cases ht

end Template

/-! ## Putting the blocks together -/

namespace Generator

/-- The blocks are rendered in order, and then put together. -/
theorem render_eq_bind (g : Generator) (template : Template) (base : Text)
    (types : List NodeType) :
    g.render template base types = (do
      let preamble ← template.preambleBlock g.declaration
      let baseText ← template.baseBlock base
      let visitor ← template.visitorBlock base types
      let nodes ← types.mapM (template.nodeBlock base)
      return stack ((preamble :: baseText :: visitor :: nodes).map respace)) := by
  rw [render, Part.all, List.mapM_cons, List.mapM_cons, List.mapM_cons, List.mapM_map]
  show (do
    let blocks ← (do
      let preamble ← template.preambleBlock g.declaration
      let more ← (do
        let baseText ← template.baseBlock base
        let more ← (do
          let visitor ← template.visitorBlock base types
          let nodes ← types.mapM (template.nodeBlock base)
          return visitor :: nodes)
        return baseText :: more)
      return preamble :: more)
    return respace ("\n\n".toList.intercalate blocks) : Except TemplateError Text) = _
  simp only [bind_assoc, pure_bind, respace_intercalate]

/-- **When there is a text, and what it is.** -/
theorem hierarchy_eq_ok_iff (g : Generator) (base : Text) (types : List NodeType)
    (contents : Text) :
    (g.hierarchy base types).result = .ok contents ↔
      types ≠ [] ∧ ∃ template, Template.read g.language.template = .ok template ∧
        ∃ preamble baseText visitor nodes,
          template.preambleBlock g.declaration = .ok preamble ∧
          template.baseBlock base = .ok baseText ∧
          template.visitorBlock base types = .ok visitor ∧
          types.mapM (template.nodeBlock base) = .ok nodes ∧
          contents = stack ((preamble :: baseText :: visitor :: nodes).map respace) := by
  cases types with
  | nil => simp [hierarchy]
  | cons t rest =>
    rw [hierarchy, if_neg (by simp)]
    cases Template.read g.language.template with
    | error e => simp
    | ok template =>
      simp only [mapError_eq_ok_iff, render_eq_bind, bind_eq_ok_iff]
      constructor
      · rintro ⟨preamble, hpreamble, baseText, hbase, visitor, hvisitor, nodes, hnodes, h⟩
        exact ⟨by simp, template, rfl, preamble, baseText, visitor, nodes, hpreamble, hbase,
          hvisitor, hnodes, (Except.ok.inj h).symm⟩
      · rintro ⟨-, _, ⟨⟩, preamble, baseText, visitor, nodes, hpreamble, hbase, hvisitor, hnodes,
          rfl⟩
        exact ⟨preamble, hpreamble, baseText, hbase, visitor, hvisitor, nodes, hnodes, rfl⟩

/-! ## Blocks in several runs -/

/-- The texts of the blocks. -/
structure Blocks where
  /-- What comes before the hierarchy. -/
  preamble : Text
  /-- The base type. -/
  base : Text
  /-- The visitor. -/
  visitor : Text
  /-- Each node type. -/
  node : NodeType → Text

/-- The blocks in tidy form and in order, with an empty line between two that are not empty. -/
def Blocks.contents (b : Blocks) (types : List NodeType) : Text :=
  stack ((b.preamble :: b.base :: b.visitor :: types.map b.node).map respace)

/-- These are the texts of the blocks in a run, each made from what it may depend on. -/
structure Blocks.Of (b : Blocks) (g : Generator) (base : Text) (types : List NodeType)
    (template : Template) : Prop where
  read_eq : Template.read g.language.template = .ok template
  preamble_eq : template.preambleBlock g.declaration = .ok b.preamble
  base_eq : template.baseBlock base = .ok b.base
  visitor_eq : template.visitorBlock base types = .ok b.visitor
  node_eq : ∀ t ∈ types, template.nodeBlock base t = .ok (b.node t)

theorem Blocks.Of.hierarchy_eq {b : Blocks} {g : Generator} {base : Text} {types : List NodeType}
    {template : Template} (h : b.Of g base types template) (hne : types ≠ []) :
    (g.hierarchy base types).result = .ok (b.contents types) :=
  (hierarchy_eq_ok_iff g base types _).2
    ⟨hne, template, h.read_eq, b.preamble, b.base, b.visitor, _, h.preamble_eq, h.base_eq,
      h.visitor_eq, mapM_eq_ok_of_forall h.node_eq, rfl⟩

theorem exists_blocks_of_hierarchy {g : Generator} {base : Text} {types : List NodeType}
    {contents : Text} (h : (g.hierarchy base types).result = .ok contents) :
    types ≠ [] ∧ ∃ template b, Blocks.Of b g base types template ∧ contents = b.contents types := by
  obtain ⟨hne, template, hread, preamble, baseText, visitor, nodes, hpreamble, hbase, hvisitor,
    hnodes, rfl⟩ := (hierarchy_eq_ok_iff g base types contents).1 h
  obtain ⟨node, hnode, rfl⟩ := exists_map_of_mapM_eq_ok hnodes
  exact ⟨hne, template, ⟨preamble, baseText, visitor, node⟩,
    ⟨hread, hpreamble, hbase, hvisitor, hnode⟩, rfl⟩

/-- Two runs with the same template have the same blocks wherever they agree on what a block
depends on. -/
theorem Blocks.Of.agree {b b' : Blocks} {g g' : Generator} {base base' : Text}
    {types types' : List NodeType} {template template' : Template}
    (h : b.Of g base types template) (h' : b'.Of g' base' types' template')
    (htemplate : g'.language.template = g.language.template) :
    (g'.declaration = g.declaration → b'.preamble = b.preamble) ∧
    (base' = base → b'.base = b.base ∧ (types' = types → b'.visitor = b.visitor) ∧
      ∀ t ∈ types, t ∈ types' → b'.node t = b.node t) := by
  obtain rfl : template = template' := by
    have hread := h'.read_eq
    rw [htemplate, h.read_eq] at hread
    exact Except.ok.inj hread
  refine ⟨fun hdecl => ?_, ?_⟩
  · have hpreamble := h'.preamble_eq
    rw [hdecl, h.preamble_eq] at hpreamble
    exact (Except.ok.inj hpreamble).symm
  · rintro rfl
    refine ⟨Except.ok.inj (h'.base_eq.symm.trans h.base_eq), ?_, fun t ht ht' => ?_⟩
    · rintro rfl
      exact Except.ok.inj (h'.visitor_eq.symm.trans h.visitor_eq)
    · exact Except.ok.inj ((h'.node_eq t ht').symm.trans (h.node_eq t ht))

/-- **The text of a hierarchy consists of its blocks**, in tidy form and in order, with an empty
line between two of them. In every other run with the same template a block is the same unless
something that it depends on is not. In particular the node types in another order have the same
blocks in that order, and one more node type leaves the blocks of the others as they are. -/
theorem hierarchy_blocks (g : Generator) (base : Text) (types : List NodeType) (contents : Text)
    (h : (g.hierarchy base types).result = .ok contents) :
    ∃ (template : Template) (b : Blocks), b.Of g base types template ∧
      contents = b.contents types ∧
      (∀ block, respace block = [] ∨ ∃ body : Text, respace block = body ++ ['\n'] ∧
        body.head? ≠ some '\n' ∧ ∃ c, body.getLast? = some c ∧ c ≠ '\n') ∧
      (∀ (g' : Generator) (base' : Text) (types' : List NodeType) (contents' : Text),
        g'.language.template = g.language.template →
        (g'.hierarchy base' types').result = .ok contents' →
        ∃ b' : Blocks, b'.Of g' base' types' template ∧ contents' = b'.contents types' ∧
          (g'.declaration = g.declaration → b'.preamble = b.preamble) ∧
          (base' = base → b'.base = b.base ∧ (types' = types → b'.visitor = b.visitor) ∧
            ∀ t ∈ types, t ∈ types' → b'.node t = b.node t)) ∧
      (∀ types' : List NodeType, types'.Perm types → ∃ visitor' : Text,
        (g.hierarchy base types').result =
          .ok (stack ((b.preamble :: b.base :: visitor' :: types'.map b.node).map respace))) ∧
      (∀ (before after : List NodeType) (t : NodeType) (contents' : Text),
        types = before ++ after →
        (g.hierarchy base (before ++ t :: after)).result = .ok contents' →
        ∃ visitor' added : Text,
          contents' = stack ((b.preamble :: b.base :: visitor' ::
            (before.map b.node ++ added :: after.map b.node)).map respace)) := by
  obtain ⟨hne, template, b, hb, rfl⟩ := exists_blocks_of_hierarchy h
  refine ⟨template, b, hb, rfl, respace_eq_nil_or, ?_, ?_, ?_⟩
  · -- another run with the same template
    intro g' base' types' contents' htemplate h'
    obtain ⟨-, template', b', hb', rfl⟩ := exists_blocks_of_hierarchy h'
    obtain rfl : template' = template := by
      have hread := hb'.read_eq
      rw [htemplate, hb.read_eq] at hread
      exact (Except.ok.inj hread).symm
    exact ⟨b', hb', rfl, hb.agree hb' htemplate⟩
  · -- another order: only the block of the visitor is rendered anew
    intro types' hperm
    obtain ⟨visitor', hvisitor'⟩ := Template.exists_visitorBlock_of_perm hb.visitor_eq hperm
    have hb' : Blocks.Of { b with visitor := visitor' } g base types' template :=
      { read_eq := hb.read_eq
        preamble_eq := hb.preamble_eq
        base_eq := hb.base_eq
        visitor_eq := hvisitor'
        node_eq := fun t ht => hb.node_eq t (hperm.mem_iff.1 ht) }
    have hne' : types' ≠ [] := fun hnil => hne (List.perm_nil.1 (hnil ▸ hperm.symm))
    exact ⟨visitor', hb'.hierarchy_eq hne'⟩
  · -- one more node type: the blocks of the others are found in both runs
    rintro before after t contents' rfl h'
    obtain ⟨-, template', b', hb', rfl⟩ := exists_blocks_of_hierarchy h'
    obtain ⟨hpreamble, hrest⟩ := hb.agree hb' rfl
    obtain ⟨hbase, -, hnode⟩ := hrest rfl
    have hbefore : before.map b'.node = before.map b.node :=
      List.map_congr_left fun s hs => hnode s (by simp [hs]) (by simp [hs])
    have hafter : after.map b'.node = after.map b.node :=
      List.map_congr_left fun s hs => hnode s (by simp [hs]) (by simp [hs])
    have hmap : (before ++ t :: after).map b'.node =
        before.map b.node ++ b'.node t :: after.map b.node := by
      rw [List.map_append, List.map_cons, hbefore, hafter]
    refine ⟨b'.visitor, b'.node t, ?_⟩
    rw [Blocks.contents, hpreamble rfl, hbase, hmap]

/-- A language whose blocks are one line each, apart from the visitor. -/
def outline : Language where
  id := "outline".toList
  fileNameFor base := base
  template := Text.unlines ([
    "#base", "base %base%  ", "#end/base",
    "#visitor", "visitor", " ", "", "%visit_methods%", "#end/visitor",
    "#visit_method", "%visit%", "#end/visit_method",
    "#node", "node %type%", "  \r", "#end/node"].map String.toList)

theorem hierarchy_blocks_outline :
    (hierarchy { language := outline } "E".toList [⟨"A".toList, []⟩, ⟨"B".toList, []⟩]).result =
      .ok "base E\n\nvisitor\n\nvisitAE\nvisitBE\n\nnode A\n\nnode B\n".toList ∧
    ∃ (b : Blocks) (visitor' : Text),
      (hierarchy { language := outline } "E".toList
          [⟨"B".toList, []⟩, ⟨"A".toList, []⟩]).result =
        .ok (stack ([b.preamble, b.base, visitor', b.node ⟨"B".toList, []⟩,
          b.node ⟨"A".toList, []⟩].map respace)) := by
  have h : (hierarchy { language := outline } "E".toList
      [⟨"A".toList, []⟩, ⟨"B".toList, []⟩]).result =
      .ok "base E\n\nvisitor\n\nvisitAE\nvisitBE\n\nnode A\n\nnode B\n".toList := by
    decide +kernel
  obtain ⟨_, b, -, -, -, -, hperm, -⟩ :=
    hierarchy_blocks { language := outline } "E".toList _ _ h
  obtain ⟨visitor', h'⟩ := hperm _ (List.Perm.swap (⟨"A".toList, []⟩ : NodeType) _ [])
  exact ⟨h, b, visitor', h'⟩

end Generator

end AstHierarchy
