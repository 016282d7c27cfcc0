import AstHierarchy.Language.BuiltIn
import AstHierarchy.Proofs.Hierarchy.Blocks
import AstHierarchy.Proofs.Render.Lines
import AstHierarchy.Proofs.Text.Lowercase
import AstHierarchy.Proofs.Text.Words
import Mathlib.Data.List.Basic

/-!
# Listings

A listing says line by line what a file in a language looks like: what its template compiles to,
and the lines of each block before they are brought into tidy form. There is one for each of the
languages at hand, in a module of its own. Whatever is said about all files in a language is then
said about the lines of its listing.

* `Listing.Describes` relates a listing to its language.
* `Describes.exists_hierarchy` is what the listing is for: there is a file, and what can be found in
  its lines is what can be found in the lines of the listing.
-/

namespace AstHierarchy

open Text

/-! ## Names without blanks -/

/-- The name of the node type and all that its fields consist of are words. -/
structure NodeType.IsPlain (t : NodeType) : Prop where
  name : t.name.IsWord
  fields : ∀ f ∈ t.fields, f.type.IsWord ∧ f.name.IsWord

theorem NodeType.isPlain_iff {t : NodeType} :
    (decide t.name.IsWord && t.fields.all fun f => decide f.type.IsWord && decide f.name.IsWord) =
      true ↔ t.IsPlain := by
  rw [Bool.and_eq_true, decide_eq_true_eq, List.all_eq_true]
  constructor
  · intro h
    refine ⟨h.1, fun f hf => ?_⟩
    have hf := h.2 f hf
    rw [Bool.and_eq_true, decide_eq_true_eq, decide_eq_true_eq] at hf
    exact hf
  · intro h
    refine ⟨h.name, fun f hf => ?_⟩
    rw [Bool.and_eq_true, decide_eq_true_eq, decide_eq_true_eq]
    exact h.fields f hf

instance (t : NodeType) : Decidable t.IsPlain := decidable_of_bool _ NodeType.isPlain_iff

/-- The parameter of the visitor's methods has no blanks if the base type has none. -/
theorem isBlankFree_visitParameter {base : Text} (h : base.IsBlankFree) :
    (visitParameter base).IsBlankFree := isBlank_of_mem_lowercase h

theorem newline_not_mem_visitName {base : Text} {t : NodeType} (hbase : base.IsBlankFree)
    (ht : t.IsPlain) : '\n' ∉ t.visitName base := by
  have hvisit : '\n' ∉ "visit".toList := by decide
  show '\n' ∉ "visit".toList ++ t.name ++ base
  rw [List.mem_append, List.mem_append, not_or, not_or]
  exact ⟨⟨hvisit, ht.name.newline_not_mem⟩, hbase.newline_not_mem⟩

/-! ## Lines that are put together from pieces -/

theorem newline_not_mem_flatten {ps : List Text} : '\n' ∉ ps.flatten ↔ ∀ p ∈ ps, '\n' ∉ p := by
  constructor
  · intro h p hp hmem
    exact h (List.mem_flatten_of_mem hp hmem)
  · intro h hmem
    obtain ⟨p, hp, hmem⟩ := List.mem_flatten.1 hmem
    exact h p hp hmem

/-- The lines of the fields are single lines if the pieces of these lines are, for field names and
types that are. -/
theorem newline_not_mem_fieldLines {t : NodeType} (ht : t.IsPlain) {columns : Nat}
    {pieces : Field → List Text}
    (h : ∀ f : Field, '\n' ∉ f.type → '\n' ∉ f.name → ∀ p ∈ pieces f, '\n' ∉ p) :
    ∀ l ∈ listLines columns t.fields (fun f => [(pieces f).flatten]), '\n' ∉ l := by
  have hblank : '\n' ∉ List.replicate columns ' ' := fun hmem =>
    absurd (List.eq_of_mem_replicate hmem) (by decide)
  refine forall_mem_listLines hblank fun f hf => List.forall_mem_singleton.2 ?_
  obtain ⟨htype, hname⟩ := ht.fields f hf
  rw [newline_not_mem_flatten]
  exact h f htype.newline_not_mem hname.newline_not_mem

/-! ## Lists in the scopes of the parts -/

section

variable {template : Template} {base : Text} {t : NodeType} {types : List NodeType} {indent : Nat}
  {item : Field → Text} {method : NodeType → Text}

theorem meaning_fields (h : ∀ f : Field, f.text template .declared indent = .ok (item f))
    (layout : ListLayout) :
    ((Part.node t).scope base).meaning template "fields".toList layout indent =
      .ok (layout.join indent (t.fields.map item)) :=
  Binding.toText_fields h t.fields layout

theorem meaning_params (h : ∀ f : Field, f.text template .parameter indent = .ok (item f))
    (layout : ListLayout) :
    ((Part.node t).scope base).meaning template "params".toList layout indent =
      .ok (layout.join indent (t.fields.map item)) :=
  Binding.toText_fields h t.fields layout

theorem meaning_inits (h : ∀ f : Field, f.text template .stored indent = .ok (item f))
    (layout : ListLayout) :
    ((Part.node t).scope base).meaning template "inits".toList layout indent =
      .ok (layout.join indent (t.fields.map item)) :=
  Binding.toText_fields h t.fields layout

theorem meaning_visitMethods
    (h : ∀ t : NodeType, t.visitText template base indent = .ok (method t)) (layout : ListLayout) :
    ((Part.visitor types).scope base).meaning template "visit_methods".toList layout indent =
      .ok (layout.join indent (types.map method)) :=
  Binding.toText_visitMethods h types layout

end

/-! ## Listings -/

/-- What the files in a language look like. -/
structure Listing where
  /-- What the template of the language compiles to. -/
  compiled : Template
  /-- The lines before the hierarchy, given the declaration of the namespace. -/
  preamble : Text → List Text
  /-- The lines of the base type. -/
  base : Text → List Text
  /-- The lines of the visitor before its methods. -/
  visitorHead : List Text
  /-- The lines of one method of the visitor. -/
  method : Text → NodeType → List Text
  /-- The lines of the visitor after its methods. -/
  visitorTail : List Text
  /-- The lines of a node type. -/
  node : Text → NodeType → List Text

/-- The text is nothing or declares a namespace with a name of one line. -/
def Language.Declares (language : Language) (declaration : Text) : Prop :=
  declaration = [] ∨
    ∃ name, '\n' ∉ name ∧ language.declareNamespace? name = some declaration

/-- A declaration is a single line if the language puts the name between two texts that are. -/
theorem newline_not_mem_of_declares {language : Language} {before after : Text}
    (h : ∀ name, language.declareNamespace? name = some (before ++ name ++ after))
    (hbefore : '\n' ∉ before) (hafter : '\n' ∉ after) {d : Text} (hd : language.Declares d) :
    '\n' ∉ d := by
  rcases hd with rfl | ⟨name, hname, hd⟩
  · exact List.not_mem_nil
  · obtain rfl := Option.some.inj ((h name).symm.trans hd)
    rw [List.mem_append, List.mem_append, not_or, not_or]
    exact ⟨⟨hbefore, hname⟩, hafter⟩

namespace Listing

/-- The lines of the visitor. -/
def visitor (listing : Listing) (base : Text) (types : List NodeType) : List Text :=
  listing.visitorHead ++ types.flatMap (listing.method base) ++ listing.visitorTail

/-- The listing shows the blocks of the files in the language, and shows them as single lines if
the names have no blanks. -/
structure Describes (listing : Listing) (language : Language) : Prop where
  read_eq : Template.read language.template = .ok listing.compiled
  preamble_eq : ∀ d, listing.compiled.preambleBlock d =
    .ok (['\n'].intercalate (listing.preamble d))
  base_eq : ∀ base, listing.compiled.baseBlock base = .ok (['\n'].intercalate (listing.base base))
  visitor_eq : ∀ base {types}, types ≠ [] → listing.compiled.visitorBlock base types =
    .ok (['\n'].intercalate (listing.visitor base types))
  node_eq : ∀ base t, listing.compiled.nodeBlock base t =
    .ok (['\n'].intercalate (listing.node base t))
  newline_not_mem_preamble : ∀ d, language.Declares d → ∀ l ∈ listing.preamble d, '\n' ∉ l
  newline_not_mem_base : ∀ base : Text, base.IsBlankFree → ∀ l ∈ listing.base base, '\n' ∉ l
  newline_not_mem_visitor : ∀ l ∈ listing.visitorHead ++ listing.visitorTail, '\n' ∉ l
  newline_not_mem_method : ∀ (base : Text) (t : NodeType), base.IsBlankFree → t.IsPlain →
    ∀ l ∈ listing.method base t, '\n' ∉ l
  newline_not_mem_node : ∀ (base : Text) (t : NodeType), base.IsBlankFree → t.IsPlain →
    ∀ l ∈ listing.node base t, '\n' ∉ l

/-- What a generator declares is nothing or its namespace. -/
theorem declares_declaration {language : Language} {namespaceName : Option Text}
    (h : ∀ name, namespaceName = some name → '\n' ∉ name) :
    language.Declares (Generator.declaration { language, namespaceName }) := by
  unfold Generator.declaration
  cases namespaceName with
  | none => exact Or.inl rfl
  | some name =>
    show language.Declares ((language.declareNamespace? name).getD [])
    cases hd : language.declareNamespace? name with
    | none => exact Or.inl rfl
    | some d => exact Or.inr ⟨name, h name rfl, hd⟩

/-- The blocks of a file, as the listing shows them. -/
def blocks (listing : Listing) (declaration base : Text) (types : List NodeType) :
    Generator.Blocks where
  preamble := ['\n'].intercalate (listing.preamble declaration)
  base := ['\n'].intercalate (listing.base base)
  visitor := ['\n'].intercalate (listing.visitor base types)
  node t := ['\n'].intercalate (listing.node base t)

/-- The blocks of a file are those that the listing shows. -/
theorem Describes.blocks_of {listing : Listing} {language : Language}
    (h : listing.Describes language) {g : Generator} (hg : g.language = language) (base : Text)
    {types : List NodeType} (hne : types ≠ []) :
    (listing.blocks g.declaration base types).Of g base types listing.compiled where
  read_eq := hg ▸ h.read_eq
  preamble_eq := h.preamble_eq _
  base_eq := h.base_eq base
  visitor_eq := h.visitor_eq base hne
  node_eq t _ := h.node_eq base t

theorem Describes.newline_not_mem_visitorLines {listing : Listing} {language : Language}
    (h : listing.Describes language) {base : Text} {types : List NodeType}
    (hbase : base.IsBlankFree) (htypes : ∀ t ∈ types, t.IsPlain) :
    ∀ l ∈ listing.visitor base types, '\n' ∉ l := by
  intro l hl
  simp only [visitor, List.mem_append, List.mem_flatMap] at hl
  rcases hl with (hl | ⟨t, ht, hl⟩) | hl
  · exact h.newline_not_mem_visitor l (List.mem_append_left _ hl)
  · exact h.newline_not_mem_method base t hbase (htypes t ht) l hl
  · exact h.newline_not_mem_visitor l (List.mem_append_right _ hl)

/-- What is found in the lines of a listing without their trailing blanks. -/
def found {α : Type} (f : Text → Option α) (ls : List Text) : List α :=
  (ls.map trimEnd).filterMap f

@[simp] theorem found_nil {α : Type} (f : Text → Option α) : found f [] = [] := rfl

@[simp] theorem found_append {α : Type} (f : Text → Option α) (ls ms : List Text) :
    found f (ls ++ ms) = found f ls ++ found f ms := by
  rw [found, List.map_append, List.filterMap_append]
  rfl

theorem found_flatMap {α β : Type} (f : Text → Option α) (xs : List β) (g : β → List Text) :
    found f (xs.flatMap g) = xs.flatMap fun x => found f (g x) := by
  induction xs with
  | nil => rfl
  | cons x rest ih => rw [List.flatMap_cons, found_append, ih, List.flatMap_cons]

/-- **A file and its listing.** Where the names have no blanks there is a file, and what can be
found in its lines, but in no empty one, is what can be found in the lines of the listing. -/
theorem Describes.exists_hierarchy {listing : Listing} {language : Language}
    (h : listing.Describes language) {namespaceName : Option Text} {base : Text}
    {types : List NodeType} (hnamespace : ∀ name, namespaceName = some name → '\n' ∉ name)
    (hbase : base.IsBlankFree) (hne : types ≠ []) (htypes : ∀ t ∈ types, t.IsPlain) :
    ∃ (contents d : Text), language.Declares d ∧
      (Generator.hierarchy { language, namespaceName } base types).result = .ok contents ∧
      ∀ {α : Type} (f : Text → Option α), f [] = none →
        contents.lines.filterMap f =
          found f (listing.preamble d) ++ found f (listing.base base) ++
            found f (listing.visitor base types) ++
            types.flatMap fun t => found f (listing.node base t) := by
  have hd : language.Declares (Generator.declaration { language, namespaceName }) :=
    declares_declaration hnamespace
  let g : Generator := { language, namespaceName }
  let b := listing.blocks g.declaration base types
  have hb : b.Of g base types listing.compiled := h.blocks_of rfl base hne
  refine ⟨b.contents types, g.declaration, hd, hb.hierarchy_eq hne, fun f hf => ?_⟩
  -- tidying keeps what is found, so every block can be read off its listing
  have hpreamble : (rows b.preamble).filterMap f = found f (listing.preamble g.declaration) :=
    filterMap_rows_intercalate hf (h.newline_not_mem_preamble _ hd)
  have hbaseBlock : (rows b.base).filterMap f = found f (listing.base base) :=
    filterMap_rows_intercalate hf (h.newline_not_mem_base base hbase)
  have hvisitor : (rows b.visitor).filterMap f = found f (listing.visitor base types) :=
    filterMap_rows_intercalate hf (h.newline_not_mem_visitorLines hbase htypes)
  have hnodes : (types.flatMap fun t => (rows (b.node t)).filterMap f) =
      types.flatMap fun t => found f (listing.node base t) :=
    List.flatMap_congr fun t ht =>
      filterMap_rows_intercalate hf (h.newline_not_mem_node base t hbase (htypes t ht))
  rw [Generator.Blocks.contents, filterMap_lines_stack hf, List.flatMap_cons, List.flatMap_cons,
    List.flatMap_cons, List.flatMap_map, hpreamble, hbaseBlock, hvisitor, hnodes, List.append_assoc,
    List.append_assoc]

end Listing

end AstHierarchy
