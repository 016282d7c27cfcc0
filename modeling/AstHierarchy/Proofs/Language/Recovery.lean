import AstHierarchy.Proofs.Language.Java
import AstHierarchy.Proofs.Language.Php
import AstHierarchy.Proofs.Language.Python
import AstHierarchy.Proofs.Language.TypeScript

/-!
# Reading node types back

The node types can be told from the file. What comes before them does not matter: the preamble and
the base type are the same for all lists of node types, and the visitor ends at the first empty
line, since it has none itself. From there on each node type begins with lines that give its name,
and goes on with one line for each field.

Where the fields end has to be seen from the next line, since tidying moves the empty lines around
them and a name from the grammar may look like anything. All lines of fields begin in the same
way, and the line after the last one does not: it is empty or closes the list of fields
(`NodeLayout.Fits.exists_nodeLines_eq`).

* `contents_determine_types` is the main result.
-/

namespace AstHierarchy

open Text

/-! ## The lines of a node type -/

/-- The lines of a node type in a file. -/
def Listing.nodeLines (listing : Listing) (base : Text) (t : NodeType) : List Text :=
  tidyLines ((listing.node base t).map trimEnd)

/-- The lines of the block of a node type in tidy form. -/
theorem Listing.Describes.tidyLines_rows_node {listing : Listing} {language : Language}
    (h : listing.Describes language) {base : Text} (hbase : base.IsBlankFree) {t : NodeType}
    (ht : t.IsPlain) (hne : listing.node base t ≠ []) :
    tidyLines (rows (['\n'].intercalate (listing.node base t))) = listing.nodeLines base t := by
  rw [rows_intercalate (h.newline_not_mem_node base t hbase ht) hne, Listing.nodeLines]

/-- A line for each field, or an empty line where there are none. -/
def fieldLines (line : Field → Text) (fields : List Field) : List Text :=
  if fields.isEmpty then [[]] else fields.map line

theorem fieldLines_nil (line : Field → Text) : fieldLines line [] = [[]] := rfl

theorem fieldLines_of_ne_nil (line : Field → Text) {fields : List Field} (h : fields ≠ []) :
    fieldLines line fields = fields.map line :=
  if_neg (by simpa using h)

/-- Blanks on the line of an empty list are not kept. -/
theorem map_trimEnd_listLines {columns : Nat} {line : Field → Text} {fields : List Field}
    (h : ∀ f ∈ fields, trimEnd (line f) = line f) :
    (listLines columns fields fun f => [line f]).map trimEnd = fieldLines line fields := by
  cases fields with
  | nil => simp [listLines, fieldLines, trimEnd_replicate]
  | cons f rest =>
    have hne : f :: rest ≠ [] := List.cons_ne_nil f rest
    have hone : ((f :: rest).flatMap fun f => [line f]) = (f :: rest).map line :=
      List.flatMap_pure_eq_map _ _
    rw [listLines_of_ne_nil _ _ hne, fieldLines_of_ne_nil line hne, hone, List.map_map]
    exact List.map_congr_left h

/-- How a language sets out a node type. -/
structure NodeLayout where
  /-- The lines before those of the fields, given the base type and the name of the node type. -/
  head : Text → Text → List Text
  /-- The indentation of the fields. -/
  columns : Nat
  /-- What the line of a field begins with. -/
  fieldStart : Text
  /-- The line of a field. -/
  field : Field → Text

namespace NodeLayout

/-- The listing sets node types out like this, and this tells the name and the fields. The line
after the fields does not begin like a field, and no line of the visitor is empty. -/
structure Fits (layout : NodeLayout) (listing : Listing) : Prop where
  exists_node_eq : ∀ b t, ∃ l rest, listing.node b t = layout.head b t.name ++
      (listLines layout.columns t.fields (fun f => [layout.field f]) ++ l :: rest) ∧
    layout.fieldStart.isPrefixOf (trimEnd l) = false
  head_ne_nil : ∀ b n, layout.head b n ≠ []
  trimEnd_head_ne_nil : ∀ b n, ∀ l ∈ layout.head b n, trimEnd l ≠ []
  length_head : ∀ b n n', (layout.head b n).length = (layout.head b n').length
  head_inj : ∀ b n n', (layout.head b n).map trimEnd = (layout.head b n').map trimEnd → n = n'
  fieldStart_ne_nil : layout.fieldStart ≠ []
  fieldStart_isPrefixOf : ∀ f, layout.fieldStart.isPrefixOf (layout.field f)
  trimEnd_field : ∀ f : Field, f.type.IsWord → trimEnd (layout.field f) = layout.field f
  field_inj : ∀ f f' : Field, f.type.IsWord → f.name.IsWord → f'.type.IsWord → f'.name.IsWord →
    layout.field f = layout.field f' → f = f'
  visitorHead_ne_nil : listing.visitorHead ≠ []
  trimEnd_visitor_ne_nil : ∀ l ∈ listing.visitorHead ++ listing.visitorTail, trimEnd l ≠ []
  trimEnd_method_ne_nil : ∀ b t, ∀ l ∈ listing.method b t, trimEnd l ≠ []

variable {layout : NodeLayout} {listing : Listing} {b : Text}

theorem Fits.field_ne_nil (h : layout.Fits listing) (f : Field) : layout.field f ≠ [] := by
  intro hnil
  have hprefix := h.fieldStart_isPrefixOf f
  rw [hnil, List.isPrefixOf_iff_prefix, List.prefix_nil] at hprefix
  exact h.fieldStart_ne_nil hprefix

theorem Fits.isPrefixOf_nil (h : layout.Fits listing) :
    layout.fieldStart.isPrefixOf [] = false := by
  rw [← Bool.not_eq_true, List.isPrefixOf_iff_prefix, List.prefix_nil]
  exact h.fieldStart_ne_nil

theorem Fits.forall_mem_map_head (h : layout.Fits listing) (n : Text) :
    ∀ l ∈ (layout.head b n).map trimEnd, l ≠ [] :=
  List.forall_mem_map.2 (h.trimEnd_head_ne_nil b n)

/-- **The lines of a node type** are those with its name, one line for each field, and then lines of
which the first one does not begin like a field. -/
theorem Fits.exists_nodeLines_eq (h : layout.Fits listing) {t : NodeType} (ht : t.IsPlain) :
    ∃ rest, listing.nodeLines b t =
        (layout.head b t.name).map trimEnd ++ (t.fields.map layout.field ++ rest) ∧
      ∀ l, rest.head? = some l → layout.fieldStart.isPrefixOf l = false := by
  have hhead : (layout.head b t.name).map trimEnd ≠ [] := by
    simpa using h.head_ne_nil b t.name
  obtain ⟨l, more, hnode, hl⟩ := h.exists_node_eq b t
  rw [Listing.nodeLines, hnode, List.map_append, List.map_append, List.map_cons,
    map_trimEnd_listLines fun f hf => h.trimEnd_field f (ht.fields f hf).1]
  by_cases hfields : t.fields = []
  · -- the place of the fields is an empty line
    rw [hfields, fieldLines_nil]
    refine ⟨collapse ([] :: trimEnd l :: more.map trimEnd),
      tidyLines_append hhead (h.forall_mem_map_head t.name) _, fun m hm => ?_⟩
    rw [eq_of_head?_collapse_cons hm]
    exact h.isPrefixOf_nil
  · have hsay : ∀ l ∈ (layout.head b t.name).map trimEnd ++ t.fields.map layout.field, l ≠ [] :=
      List.forall_mem_append.2
        ⟨h.forall_mem_map_head t.name, List.forall_mem_map.2 fun f _ => h.field_ne_nil f⟩
    refine ⟨collapse (trimEnd l :: more.map trimEnd), ?_, fun m hm => ?_⟩
    · rw [fieldLines_of_ne_nil _ hfields, ← List.append_assoc, ← List.append_assoc]
      exact tidyLines_append (List.append_ne_nil_of_left_ne_nil hhead _) hsay _
    · rw [eq_of_head?_collapse_cons hm]
      exact hl

theorem Fits.nodeLines_ne_nil (h : layout.Fits listing) {t : NodeType} (ht : t.IsPlain) :
    listing.nodeLines b t ≠ [] := by
  obtain ⟨rest, heq, -⟩ := h.exists_nodeLines_eq (b := b) ht
  rw [heq]
  exact List.append_ne_nil_of_left_ne_nil (by simpa using h.head_ne_nil b t.name) _

theorem eq_of_map_eq_map {α β : Type} {f : α → β} {xs ys : List α}
    (h : ∀ x ∈ xs, ∀ y ∈ ys, f x = f y → x = y) (heq : xs.map f = ys.map f) : xs = ys := by
  induction xs generalizing ys with
  | nil => exact (List.map_eq_nil_iff.1 heq.symm).symm
  | cons x xs ih =>
    obtain ⟨y, ys, rfl, hy, hys⟩ := List.map_eq_cons_iff.1 heq.symm
    rw [h x (by simp) y (by simp) hy.symm,
      ih (fun x hx y hy => h x (by simp [hx]) y (by simp [hy])) hys.symm]

/-- **A node type can be told from its lines**, and so can where they end. -/
theorem Fits.nodeLines_append_inj (h : layout.Fits listing) {t t' : NodeType} (ht : t.IsPlain)
    (ht' : t'.IsPlain) {ls ls' : List Text} (hls : ∀ l, ls.head? = some l → l = [])
    (hls' : ∀ l, ls'.head? = some l → l = [])
    (heq : listing.nodeLines b t ++ ls = listing.nodeLines b t' ++ ls') : t = t' ∧ ls = ls' := by
  obtain ⟨rest, hrest, hstart⟩ := h.exists_nodeLines_eq (b := b) ht
  obtain ⟨rest', hrest', hstart'⟩ := h.exists_nodeLines_eq (b := b) ht'
  -- what follows the fields does not begin like one, even if nothing of the node type is left
  have hafter : ∀ {rest ls : List Text},
      (∀ l, rest.head? = some l → layout.fieldStart.isPrefixOf l = false) →
      (∀ l, ls.head? = some l → l = []) →
      ∀ l, (rest ++ ls).head? = some l → layout.fieldStart.isPrefixOf l = false :=
    fun hrest hls => forall_head?_append hrest fun l hl => hls l hl ▸ h.isPrefixOf_nil
  have hfields : ∀ fs : List Field, ∀ l ∈ fs.map layout.field, layout.fieldStart.isPrefixOf l :=
    fun fs => List.forall_mem_map.2 fun f _ => h.fieldStart_isPrefixOf f
  obtain rfl : t = t' := by
    rw [hrest, hrest', List.append_assoc, List.append_assoc, List.append_assoc,
      List.append_assoc] at heq
    obtain ⟨hhead, heq⟩ := List.append_inj heq (by simpa using h.length_head b t.name t'.name)
    obtain ⟨hmap, -⟩ := append_inj_of_forall (hfields t.fields) (hfields t'.fields)
      (hafter hstart hls) (hafter hstart' hls') heq
    have hname : t.name = t'.name := h.head_inj b _ _ hhead
    have hsame : t.fields = t'.fields := by
      refine eq_of_map_eq_map (fun f hf f' hf' heq => ?_) hmap
      obtain ⟨htype, hword⟩ := ht.fields f hf
      obtain ⟨htype', hword'⟩ := ht'.fields f' hf'
      exact h.field_inj f f' htype hword htype' hword' heq
    cases t
    cases t'
    exact congrArg₂ NodeType.mk hname hsame
  exact ⟨rfl, List.append_cancel_left heq⟩

theorem eq_nil_of_head?_flatMap {α : Type} {xs : List α} {g : α → List Text} {l : Text}
    (h : (xs.flatMap fun x => [] :: g x).head? = some l) : l = [] := by
  cases xs with
  | nil => cases h
  | cons x rest => exact (Option.some.inj h).symm

/-- The node types can be told from their lines, with an empty line before each node type. -/
theorem Fits.flatMap_nodeLines_inj (h : layout.Fits listing) {types types' : List NodeType}
    (htypes : ∀ t ∈ types, t.IsPlain) (htypes' : ∀ t ∈ types', t.IsPlain)
    (heq : (types.flatMap fun t => [] :: listing.nodeLines b t) =
      types'.flatMap fun t => [] :: listing.nodeLines b t) : types = types' := by
  -- the first node types are the same, and then the lines after them are
  induction types generalizing types' with
  | nil =>
    cases types' with
    | nil => rfl
    | cons t' rest' => cases heq
  | cons t rest ih =>
    cases types' with
    | nil => cases heq
    | cons t' rest' =>
      obtain ⟨ht, hrest⟩ := List.forall_mem_cons.1 htypes
      obtain ⟨ht', hrest'⟩ := List.forall_mem_cons.1 htypes'
      obtain ⟨rfl, hmore⟩ := h.nodeLines_append_inj ht ht' (fun _ => eq_nil_of_head?_flatMap)
        (fun _ => eq_nil_of_head?_flatMap) (List.cons.inj heq).2
      rw [ih hrest hrest' hmore]

/-! ## The lines of a file -/

/-- No line of the visitor is empty. -/
theorem Fits.forall_mem_visitor (h : layout.Fits listing) (types : List NodeType) :
    ∀ l ∈ (listing.visitor b types).map trimEnd, l ≠ [] := by
  refine List.forall_mem_map.2 fun l hl => ?_
  simp only [Listing.visitor, List.mem_append, List.mem_flatMap] at hl
  rcases hl with (hl | ⟨t, -, hl⟩) | hl
  · exact h.trimEnd_visitor_ne_nil l (List.mem_append_left _ hl)
  · exact h.trimEnd_method_ne_nil b t l hl
  · exact h.trimEnd_visitor_ne_nil l (List.mem_append_right _ hl)

/-- What comes before the visitor stands beside the rest. -/
theorem blocks_contents_eq (blocks : Generator.Blocks) (types : List NodeType) :
    blocks.contents types = besides (respace blocks.preamble) (besides (respace blocks.base)
      (stack ((blocks.visitor :: types.map blocks.node).map respace))) := by
  rw [Generator.Blocks.contents, List.map_cons, List.map_cons, stack_cons, stack_cons]

variable {language : Language}

/-- The lines of the visitor and the node types in a file. -/
theorem Fits.lines_stack (h : layout.Fits listing) (hlisting : listing.Describes language)
    (hb : b.IsBlankFree) {types : List NodeType} (htypes : ∀ t ∈ types, t.IsPlain) (d : Text) :
    lines (stack (((listing.blocks d b types).visitor ::
        types.map (listing.blocks d b types).node).map respace)) =
      (listing.visitor b types).map trimEnd ++
        types.flatMap fun t => [] :: listing.nodeLines b t := by
  have hvisitor : tidyLines (rows (listing.blocks d b types).visitor) =
      (listing.visitor b types).map trimEnd := by
    have hne : listing.visitor b types ≠ [] := by simp [Listing.visitor, h.visitorHead_ne_nil]
    have hrows : rows (listing.blocks d b types).visitor = (listing.visitor b types).map trimEnd :=
      rows_intercalate (hlisting.newline_not_mem_visitorLines hb htypes) hne
    rw [hrows]
    exact tidyLines_of_forall_ne_nil (h.forall_mem_visitor types)
  have hnode : ∀ t ∈ types, tidyLines (rows ((listing.blocks d b types).node t)) =
      listing.nodeLines b t := by
    intro t ht
    have hne : listing.node b t ≠ [] := by
      obtain ⟨l, more, hnode, -⟩ := h.exists_node_eq b t
      simp [hnode]
    exact hlisting.tidyLines_rows_node hb (htypes t ht) hne
  have hnodes : types.map ((fun t => tidyLines (rows t)) ∘ (listing.blocks d b types).node) =
      types.map (listing.nodeLines b) := List.map_congr_left hnode
  rw [lines_stack_respace]
  · rw [List.map_cons, hvisitor, List.map_map, hnodes, intercalate_cons, List.flatMap_map]
    rfl
  · refine List.forall_mem_cons.2 ⟨?_, List.forall_mem_map.2 fun t ht => ?_⟩
    · simp [hvisitor, Listing.visitor, h.visitorHead_ne_nil]
    · rw [hnode t ht]
      exact h.nodeLines_ne_nil (htypes t ht)

/-- Two files that are the same have the same node types. -/
theorem Fits.eq_of_contents_eq (h : layout.Fits listing) (hlisting : listing.Describes language)
    (hb : b.IsBlankFree) {types types' : List NodeType} (htypes : ∀ t ∈ types, t.IsPlain)
    (htypes' : ∀ t ∈ types', t.IsPlain) {d : Text}
    (heq : (listing.blocks d b types).contents types =
      (listing.blocks d b types').contents types') : types = types' := by
  rw [blocks_contents_eq, blocks_contents_eq] at heq
  -- both files have the same preamble and the same base type
  have hlines := congrArg lines (besides_right_injective (besides_right_injective heq))
  rw [h.lines_stack hlisting hb htypes, h.lines_stack hlisting hb htypes'] at hlines
  -- the visitor ends at the first empty line
  have hfilled : ∀ ts : List NodeType, ∀ l ∈ (listing.visitor b ts).map trimEnd, !l.isEmpty :=
    fun ts l hl => by simpa using h.forall_mem_visitor ts l hl
  have hbreak : ∀ (ts : List NodeType) (l : Text),
      (ts.flatMap fun t => [] :: listing.nodeLines b t).head? = some l → (!l.isEmpty) = false :=
    fun ts l hl => by rw [eq_nil_of_head?_flatMap hl]; rfl
  obtain ⟨-, hnodes⟩ := append_inj_of_forall (hfilled types) (hfilled types') (hbreak types)
    (hbreak types') hlines
  exact h.flatMap_nodeLines_inj htypes htypes' hnodes

end NodeLayout

/-! ## The languages at hand -/

/-- A name can be told from a line without its trailing blanks if something is left of what stands
after the name. -/
theorem eq_of_trimEnd_flatten_eq {before n n' : Text} {after : List Text}
    (hafter : trimEnd after.flatten ≠ [])
    (h : trimEnd (before :: n :: after).flatten = trimEnd (before :: n' :: after).flatten) :
    n = n' := by
  have hline : ∀ m : Text, trimEnd (before :: m :: after).flatten =
      before ++ (m ++ trimEnd after.flatten) := by
    intro m
    have hsplit : (before :: m :: after).flatten = (before ++ m) ++ after.flatten := by simp
    rw [hsplit, trimEnd_append hafter, List.append_assoc]
  rw [hline, hline] at h
  exact List.append_cancel_right (List.append_cancel_left h)

/-- Two words can be told from a line if the first blank after the first word is in the text that
separates them. -/
theorem eq_and_eq_of_flatten_eq {before mid m m' w w' v v' : Text} {after : List Text}
    (hmid : mid = m ++ ' ' :: m') (hm : ' ' ∉ m) (hw : ' ' ∉ w) (hw' : ' ' ∉ w')
    (h : (before :: w :: mid :: v :: after).flatten =
      (before :: w' :: mid :: v' :: after).flatten) : w = w' ∧ v = v' := by
  subst hmid
  have hline : (w ++ m) ++ ' ' :: (m' ++ (v ++ after.flatten)) =
      (w' ++ m) ++ ' ' :: (m' ++ (v' ++ after.flatten)) := by
    simpa using h
  obtain ⟨hfirst, hsecond⟩ := append_cons_inj_of_not_mem (List.not_mem_append hw hm)
    (List.not_mem_append hw' hm) hline
  exact ⟨List.append_cancel_right hfirst,
    List.append_cancel_right (List.append_cancel_left hsecond)⟩

theorem Field.eq_of_eq {f f' : Field} (htype : f.type = f'.type) (hname : f.name = f'.name) :
    f = f' := by
  cases f
  cases f'
  exact congrArg₂ Field.mk htype hname

namespace Language

/-- Node types in PHP. -/
def phpLayout : NodeLayout where
  head b n := [["class ".toList, n, " extends ".toList, b].flatten, ['\x7b'],
    "    public function __construct(".toList]
  columns := 8
  fieldStart := "        public readonly ".toList
  field f := ["        public readonly ".toList, f.type, " $".toList, f.name, [',']].flatten

/-- Node types in TypeScript. -/
def typeScriptLayout : NodeLayout where
  head b n := [["export class ".toList, n, " extends ".toList, b, " \x7b".toList].flatten,
    "  constructor(".toList]
  columns := 4
  fieldStart := "    readonly ".toList
  field f := ["    readonly ".toList, f.name, ": ".toList, f.type, [',']].flatten

/-- Node types in Java. -/
def javaLayout : NodeLayout where
  head b n := [["final class ".toList, n, " extends ".toList, b, " \x7b".toList].flatten]
  columns := 4
  fieldStart := "    final ".toList
  field f := ["    final ".toList, f.type, [' '], f.name, [';']].flatten

/-- Node types in Python. -/
def pythonLayout : NodeLayout where
  head b n := ["@dataclass(frozen=True)".toList,
    ["class ".toList, n, ['('], b, "):".toList].flatten]
  columns := 4
  fieldStart := "    ".toList
  field f := ["    ".toList, f.name, ": ".toList, f.type].flatten

theorem phpLayout_fits : phpLayout.Fits phpListing where
  exists_node_eq _ _ := ⟨_, _, rfl, rfl⟩
  head_ne_nil _ _ := List.cons_ne_nil _ _
  trimEnd_head_ne_nil _ _ := List.forall_mem_cons.2
    ⟨trimEnd_flatten_ne_nil List.mem_cons_self (by decide), by decide⟩
  length_head _ _ _ := rfl
  head_inj _ _ _ h := eq_of_trimEnd_flatten_eq
    (trimEnd_flatten_ne_nil List.mem_cons_self (by decide)) (List.cons.inj h).1
  fieldStart_ne_nil := List.cons_ne_nil _ _
  fieldStart_isPrefixOf _ := rfl
  trimEnd_field _ _ := trimEnd_of_getLast? (getLast?_flatten rfl rfl) rfl
  field_inj f f' htype _ htype' _ h := by
    have hmid : " $".toList = [] ++ ' ' :: ['$'] := rfl
    obtain ⟨htype, hname⟩ := eq_and_eq_of_flatten_eq hmid List.not_mem_nil htype.space_not_mem
      htype'.space_not_mem h
    exact Field.eq_of_eq htype hname
  visitorHead_ne_nil := List.cons_ne_nil _ _
  trimEnd_visitor_ne_nil := by decide
  trimEnd_method_ne_nil _ _ := List.forall_mem_singleton.2
    (trimEnd_flatten_ne_nil List.mem_cons_self (by decide))

theorem typeScriptLayout_fits : typeScriptLayout.Fits typeScriptListing where
  exists_node_eq _ _ := ⟨_, _, rfl, rfl⟩
  head_ne_nil _ _ := List.cons_ne_nil _ _
  trimEnd_head_ne_nil _ _ := List.forall_mem_cons.2
    ⟨trimEnd_flatten_ne_nil List.mem_cons_self (by decide), by decide⟩
  length_head _ _ _ := rfl
  head_inj _ _ _ h := eq_of_trimEnd_flatten_eq
    (trimEnd_flatten_ne_nil List.mem_cons_self (by decide)) (List.cons.inj h).1
  fieldStart_ne_nil := List.cons_ne_nil _ _
  fieldStart_isPrefixOf _ := rfl
  trimEnd_field _ _ := trimEnd_of_getLast? (getLast?_flatten rfl rfl) rfl
  field_inj f f' _ hname _ hname' h := by
    have hmid : ": ".toList = [':'] ++ ' ' :: [] := rfl
    obtain ⟨hname, htype⟩ := eq_and_eq_of_flatten_eq hmid (by decide) hname.space_not_mem
      hname'.space_not_mem h
    exact Field.eq_of_eq htype hname
  visitorHead_ne_nil := List.cons_ne_nil _ _
  trimEnd_visitor_ne_nil := by decide
  trimEnd_method_ne_nil _ _ := List.forall_mem_singleton.2
    (trimEnd_flatten_ne_nil (List.mem_cons_of_mem _ (List.mem_cons_of_mem _ List.mem_cons_self))
      (by decide))

theorem javaLayout_fits : javaLayout.Fits javaListing where
  exists_node_eq _ _ := ⟨_, _, rfl, rfl⟩
  head_ne_nil _ _ := List.cons_ne_nil _ _
  trimEnd_head_ne_nil _ _ := List.forall_mem_singleton.2
    (trimEnd_flatten_ne_nil List.mem_cons_self (by decide))
  length_head _ _ _ := rfl
  head_inj _ _ _ h := eq_of_trimEnd_flatten_eq
    (trimEnd_flatten_ne_nil List.mem_cons_self (by decide)) (List.cons.inj h).1
  fieldStart_ne_nil := List.cons_ne_nil _ _
  fieldStart_isPrefixOf _ := rfl
  trimEnd_field _ _ := trimEnd_of_getLast? (getLast?_flatten rfl rfl) rfl
  field_inj f f' htype _ htype' _ h := by
    have hmid : [' '] = [] ++ ' ' :: [] := rfl
    obtain ⟨htype, hname⟩ := eq_and_eq_of_flatten_eq hmid List.not_mem_nil htype.space_not_mem
      htype'.space_not_mem h
    exact Field.eq_of_eq htype hname
  visitorHead_ne_nil := List.cons_ne_nil _ _
  trimEnd_visitor_ne_nil := by decide
  trimEnd_method_ne_nil _ _ := List.forall_mem_singleton.2
    (trimEnd_flatten_ne_nil List.mem_cons_self (by decide))

theorem pythonLayout_fits : pythonLayout.Fits pythonListing where
  exists_node_eq _ _ := ⟨_, _, rfl, rfl⟩
  head_ne_nil _ _ := List.cons_ne_nil _ _
  trimEnd_head_ne_nil _ _ := List.forall_mem_cons.2 ⟨by decide, List.forall_mem_singleton.2
    (trimEnd_flatten_ne_nil List.mem_cons_self (by decide))⟩
  length_head _ _ _ := rfl
  head_inj _ _ _ h := eq_of_trimEnd_flatten_eq
    (trimEnd_flatten_ne_nil List.mem_cons_self (by decide)) (List.cons.inj (List.cons.inj h).2).1
  fieldStart_ne_nil := List.cons_ne_nil _ _
  fieldStart_isPrefixOf _ := rfl
  trimEnd_field f htype := by
    have hlast : f.type.getLast? = some (f.type.getLast htype.1) :=
      List.getLast?_eq_some_getLast htype.1
    exact trimEnd_of_getLast? (getLast?_flatten rfl hlast) (htype.2 _ (List.getLast_mem htype.1))
  field_inj f f' _ hname _ hname' h := by
    have hmid : ": ".toList = [':'] ++ ' ' :: [] := rfl
    obtain ⟨hname, htype⟩ := eq_and_eq_of_flatten_eq hmid (by decide) hname.space_not_mem
      hname'.space_not_mem h
    exact Field.eq_of_eq htype hname
  visitorHead_ne_nil := List.cons_ne_nil _ _
  trimEnd_visitor_ne_nil := by decide
  trimEnd_method_ne_nil _ _ := List.forall_mem_cons.2 ⟨by decide, List.forall_mem_singleton.2
    (trimEnd_flatten_ne_nil List.mem_cons_self (by decide))⟩

/-- Node types can be told from their lines in all the languages at hand. -/
theorem exists_layout_of_mem_builtIn {language : Language} (h : language ∈ builtIn) :
    ∃ layout listing, NodeLayout.Fits layout listing ∧ listing.Describes language := by
  simp only [builtIn, List.mem_cons, List.not_mem_nil, or_false] at h
  rcases h with rfl | rfl | rfl | rfl
  · exact ⟨_, _, phpLayout_fits, php_describes⟩
  · exact ⟨_, _, typeScriptLayout_fits, typeScript_describes⟩
  · exact ⟨_, _, javaLayout_fits, java_describes⟩
  · exact ⟨_, _, pythonLayout_fits, python_describes⟩

end Language

/-- **The file determines the node types** in all the languages at hand. Where the names have no
blanks there is a file, and no other node types have the same file under the same base type and in
the same namespace. -/
theorem contents_determine_types : ∀ language ∈ Language.builtIn,
    ∀ (namespaceName : Option Text) (base : Text) (types : List NodeType), base.IsBlankFree →
    types ≠ [] → (∀ t ∈ types, t.IsPlain) →
    ∃ contents, (Generator.hierarchy { language, namespaceName } base types).result =
        .ok contents ∧
      ∀ types' : List NodeType, types' ≠ [] → (∀ t ∈ types', t.IsPlain) →
        (Generator.hierarchy { language, namespaceName } base types').result = .ok contents →
        types' = types := by
  intro language hlanguage namespaceName base types hbase hne htypes
  obtain ⟨layout, listing, hfits, hlisting⟩ :=
    Language.exists_layout_of_mem_builtIn hlanguage
  let g : Generator := { language, namespaceName }
  have hok : ∀ ts : List NodeType, ts ≠ [] → (g.hierarchy base ts).result =
      .ok ((listing.blocks g.declaration base ts).contents ts) :=
    fun ts hts => (hlisting.blocks_of rfl base hts).hierarchy_eq hts
  refine ⟨_, hok types hne, fun types' hne' htypes' h' => ?_⟩
  exact hfits.eq_of_contents_eq hlisting hbase htypes' htypes
    (Except.ok.inj ((hok types' hne').symm.trans h'))

/-- A node type with a bracket in its name and a field whose name ends in a colon. -/
def colonBeforeType : List NodeType :=
  [⟨"Node(E".toList, [⟨"t".toList, "x:".toList⟩]⟩, ⟨"Leaf".toList, []⟩]

/-- The same with the colon in front of the type of the field. -/
def colonInType : List NodeType :=
  [⟨"Node(E".toList, [⟨":t".toList, "x".toList⟩]⟩, ⟨"Leaf".toList, []⟩]

theorem contents_determine_types_colon :
    ∃ contents, (Generator.hierarchy
        { language := .python, namespaceName := some "a\nb".toList } "E".toList
        colonBeforeType).result = .ok contents ∧
      (Generator.hierarchy { language := .python, namespaceName := some "a\nb".toList } "E".toList
        colonInType).result ≠ .ok contents := by
  obtain ⟨contents, hcontents, honly⟩ := contents_determine_types .python
    (by simp [Language.builtIn]) (some "a\nb".toList) "E".toList colonBeforeType (by decide)
    (by decide) (by decide)
  refine ⟨contents, hcontents, fun h => ?_⟩
  have hsame : colonInType = colonBeforeType := honly colonInType (by decide) (by decide) h
  exact absurd hsame (by decide)

end AstHierarchy
