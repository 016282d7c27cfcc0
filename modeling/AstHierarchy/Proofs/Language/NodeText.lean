import AstHierarchy.Proofs.Language.Recovery

/-!
# The text of a node type

Everything in the text of a node type is fixed by the language but the names and the fields. So the
text in tidy form can be given line by line, with a line for each field wherever the language
mentions the fields in lines of their own.

A node type without fields leaves an empty line in each of these places. Between lines that say
something it stays (`tidyLines_append_fieldLines`); where an empty line follows anyway, the two
become one (`tidyLines_append_fieldLines_nil`).

* `node_text_lists_fields` is the main result.
-/

namespace AstHierarchy

open Text

/-! ## The place of the fields -/

section

variable {head : List Text} {line : Field → Text} (hne : head ≠ []) (hhead : ∀ l ∈ head, l ≠ [])
  (hline : ∀ f, line f ≠ [])

include hne hhead hline

/-- Between lines that say something the place of the fields stays as it is. -/
theorem tidyLines_append_fieldLines (fields : List Field) {l : Text} (hl : l ≠ [])
    (ls : List Text) :
    tidyLines (head ++ (fieldLines line fields ++ l :: ls)) =
      head ++ (fieldLines line fields ++ tidyLines (l :: ls)) := by
  have hrest : tidyLines (l :: ls) = l :: collapse ls := tidyLines_cons_of_ne_nil hl ls
  cases fields with
  | nil =>
    have hsome : tidyLines (l :: ls) ≠ [] := by
      rw [hrest]
      exact List.cons_ne_nil _ _
    exact tidyLines_append_cons_of_forall_ne_nil hne hhead hsome
  | cons f rest =>
    -- no line up to the one after the fields is empty
    have hsay : ∀ m ∈ head ++ (f :: rest).map line ++ [l], m ≠ [] :=
      List.forall_mem_append.2 ⟨List.forall_mem_append.2
        ⟨hhead, List.forall_mem_map.2 fun f _ => hline f⟩, List.forall_mem_singleton.2 hl⟩
    have htidy := tidyLines_append (by simp) hsay ls
    rw [fieldLines_of_ne_nil line (List.cons_ne_nil f rest), hrest]
    simpa using htidy

/-- In front of an empty line nothing is left of the place of the fields if there are none. -/
theorem tidyLines_append_fieldLines_nil (fields : List Field) {l : Text} (hl : l ≠ [])
    (ls : List Text) :
    tidyLines (head ++ (fieldLines line fields ++ [] :: l :: ls)) =
      head ++ (fields.map line ++ [] :: tidyLines (l :: ls)) := by
  have hrest : tidyLines (l :: ls) ≠ [] := by
    rw [tidyLines_cons_of_ne_nil hl ls]
    exact List.cons_ne_nil _ _
  cases fields with
  | nil =>
    have hdrop : tidyLines ([] :: l :: ls) = tidyLines (l :: ls) := tidyLines_cons_nil (l :: ls)
    have hsome : tidyLines ([] :: l :: ls) ≠ [] := hdrop.symm ▸ hrest
    rw [fieldLines_nil, List.map_nil, List.singleton_append,
      List.nil_append, tidyLines_append_cons_of_forall_ne_nil hne hhead hsome, hdrop]
  | cons f rest =>
    have hsay : ∀ m ∈ head ++ (f :: rest).map line, m ≠ [] :=
      List.forall_mem_append.2 ⟨hhead, List.forall_mem_map.2 fun f _ => hline f⟩
    rw [fieldLines_of_ne_nil line (List.cons_ne_nil f rest), ← List.append_assoc,
      tidyLines_append_cons_of_forall_ne_nil (by simp) hsay hrest, List.append_assoc]

/-- Fields between lines that say something, with one empty line further down. -/
theorem tidyLines_fieldLines (fields : List Field) {l : Text} (after : List Text)
    {accept : List Text} (hafter : ∀ m ∈ l :: after, m ≠ []) (haccept : accept ≠ [])
    (hrest : ∀ m ∈ accept, m ≠ []) :
    tidyLines (head ++ (fieldLines line fields ++ (l :: after ++ [] :: accept))) =
      head ++ (fieldLines line fields ++ (l :: after ++ [] :: accept)) := by
  have htail : tidyLines (l :: after ++ [] :: accept) = l :: after ++ [] :: accept :=
    tidyLines_append_cons_eq_self (List.cons_ne_nil l after) hafter haccept hrest
  rw [List.cons_append, tidyLines_append_fieldLines hne hhead hline fields
    (hafter l List.mem_cons_self), ← List.cons_append, htail]

end

/-- A line ends as its last piece does. -/
theorem trimEnd_flatten_of_getLast? {pieces : List Text} {last : Text} {c : Char}
    (h : pieces.getLast? = some last) (hc : last.getLast? = some c) (hblank : isBlank c = false) :
    trimEnd pieces.flatten = pieces.flatten :=
  trimEnd_of_getLast? (getLast?_flatten h hc) hblank

/-! ## The languages at hand -/

namespace Language

/-- The lines of a node type in PHP. -/
def phpNode (b : Text) (t : NodeType) : List Text :=
  [trimEnd ["class ".toList, t.name, " extends ".toList, b].flatten,
    ['\x7b'],
    "    public function __construct(".toList] ++
  (fieldLines (fun f =>
    ["        public readonly ".toList, f.type, " $".toList, f.name, [',']].flatten) t.fields ++ [
    "    ) \x7b \x7d".toList,
    [],
    "    public function accept(Visitor $visitor)".toList,
    "    \x7b".toList,
    ["        return $visitor->".toList, t.visitName b, "($this);".toList].flatten,
    "    \x7d".toList,
    ['\x7d']])

/-- The lines of a node type in TypeScript. -/
def typeScriptNode (b : Text) (t : NodeType) : List Text :=
  [["export class ".toList, t.name, " extends ".toList, b, " \x7b".toList].flatten,
    "  constructor(".toList] ++
  (fieldLines (fun f =>
    ["    readonly ".toList, f.name, ": ".toList, f.type, [',']].flatten) t.fields ++ [
    "  ) \x7b".toList,
    "    super();".toList,
    "  \x7d".toList,
    [],
    "  accept<R>(visitor: Visitor<R>): R \x7b".toList,
    ["    return visitor.".toList, t.visitName b, "(this);".toList].flatten,
    "  \x7d".toList,
    ['\x7d']])

/-- The lines of a node type in Java from its constructor on. -/
def javaConstructor (b : Text) (t : NodeType) : List Text :=
  [["    ".toList, t.name, ['('],
    ", ".toList.intercalate (t.fields.map fun f => [f.type, [' '], f.name].flatten),
    ") \x7b".toList].flatten] ++
  (fieldLines (fun f =>
    ["        this.".toList, f.name, " = ".toList, f.name, [';']].flatten) t.fields ++ [
    "    \x7d".toList,
    [],
    "    @Override".toList,
    "    <R> R accept(Visitor<R> visitor) \x7b".toList,
    ["        return visitor.".toList, t.visitName b, "(this);".toList].flatten,
    "    \x7d".toList,
    ['\x7d']])

/-- The lines of a node type in Java. -/
def javaNode (b : Text) (t : NodeType) : List Text :=
  [["final class ".toList, t.name, " extends ".toList, b, " \x7b".toList].flatten] ++
  ((t.fields.map fun f => ["    final ".toList, f.type, [' '], f.name, [';']].flatten) ++
    [] :: javaConstructor b t)

/-- The lines of a node type in Python. -/
def pythonNode (b : Text) (t : NodeType) : List Text :=
  ["@dataclass(frozen=True)".toList,
    ["class ".toList, t.name, ['('], b, "):".toList].flatten] ++
  ((t.fields.map fun f => ["    ".toList, f.name, ": ".toList, f.type].flatten) ++ [] :: [
    "    def accept(self, visitor: Visitor[R]) -> R:".toList,
    ["        return visitor.".toList, t.visitName b, "(self)".toList].flatten])

theorem nodeLines_php (b : Text) (t : NodeType) : phpListing.nodeLines b t = phpNode b t := by
  have hfields := @map_trimEnd_listLines 8
    (fun f => ["        public readonly ".toList, f.type, " $".toList, f.name, [',']].flatten)
    t.fields fun _ _ => trimEnd_flatten_of_getLast? rfl rfl rfl
  have hcall : trimEnd
      ["        return $visitor->".toList, t.visitName b, "($this);".toList].flatten =
        ["        return $visitor->".toList, t.visitName b, "($this);".toList].flatten :=
    trimEnd_flatten_of_getLast? rfl rfl rfl
  have hmap : (phpListing.node b t).map trimEnd = phpNode b t := by
    simp only [phpListing, phpNode, List.map_append, List.map_cons, List.map_nil, hfields, hcall]
    rfl
  have hhead : ∀ l ∈ [trimEnd ["class ".toList, t.name, " extends ".toList, b].flatten, ['\x7b'],
      "    public function __construct(".toList], l ≠ [] :=
    List.forall_mem_cons.2 ⟨trimEnd_flatten_ne_nil List.mem_cons_self (by decide), by decide⟩
  rw [Listing.nodeLines, hmap]
  exact tidyLines_fieldLines (List.cons_ne_nil _ _) hhead (fun _ => List.cons_ne_nil _ _) t.fields
    [] (by decide) (List.cons_ne_nil _ _) (by simp)

theorem nodeLines_typeScript (b : Text) (t : NodeType) :
    typeScriptListing.nodeLines b t = typeScriptNode b t := by
  have hfields := @map_trimEnd_listLines 4
    (fun f => ["    readonly ".toList, f.name, ": ".toList, f.type, [',']].flatten)
    t.fields fun _ _ => trimEnd_flatten_of_getLast? rfl rfl rfl
  have hclass : trimEnd
      ["export class ".toList, t.name, " extends ".toList, b, " \x7b".toList].flatten =
        ["export class ".toList, t.name, " extends ".toList, b, " \x7b".toList].flatten :=
    trimEnd_flatten_of_getLast? rfl rfl rfl
  have hcall : trimEnd ["    return visitor.".toList, t.visitName b, "(this);".toList].flatten =
      ["    return visitor.".toList, t.visitName b, "(this);".toList].flatten :=
    trimEnd_flatten_of_getLast? rfl rfl rfl
  have hmap : (typeScriptListing.node b t).map trimEnd = typeScriptNode b t := by
    simp only [typeScriptListing, typeScriptNode, List.map_append, List.map_cons, List.map_nil,
      hfields, hclass, hcall]
    rfl
  rw [Listing.nodeLines, hmap]
  exact tidyLines_fieldLines (List.cons_ne_nil _ _) (by simp) (fun _ => List.cons_ne_nil _ _)
    t.fields ["    super();".toList, "  \x7d".toList] (by decide) (List.cons_ne_nil _ _) (by simp)

theorem nodeLines_java (b : Text) (t : NodeType) : javaListing.nodeLines b t = javaNode b t := by
  have hfields := @map_trimEnd_listLines 4
    (fun f => ["    final ".toList, f.type, [' '], f.name, [';']].flatten)
    t.fields fun _ _ => trimEnd_flatten_of_getLast? rfl rfl rfl
  have hinits := @map_trimEnd_listLines 8
    (fun f => ["        this.".toList, f.name, " = ".toList, f.name, [';']].flatten)
    t.fields fun _ _ => trimEnd_flatten_of_getLast? rfl rfl rfl
  have hclass : trimEnd
      ["final class ".toList, t.name, " extends ".toList, b, " \x7b".toList].flatten =
        ["final class ".toList, t.name, " extends ".toList, b, " \x7b".toList].flatten :=
    trimEnd_flatten_of_getLast? rfl rfl rfl
  have hconstructor : ∀ parameters : Text, trimEnd
      ["    ".toList, t.name, ['('], parameters, ") \x7b".toList].flatten =
        ["    ".toList, t.name, ['('], parameters, ") \x7b".toList].flatten :=
    fun _ => trimEnd_flatten_of_getLast? rfl rfl rfl
  have hcall : trimEnd
      ["        return visitor.".toList, t.visitName b, "(this);".toList].flatten =
        ["        return visitor.".toList, t.visitName b, "(this);".toList].flatten :=
    trimEnd_flatten_of_getLast? rfl rfl rfl
  have hmap : (javaListing.node b t).map trimEnd =
      [["final class ".toList, t.name, " extends ".toList, b, " \x7b".toList].flatten] ++
      (fieldLines (fun f => ["    final ".toList, f.type, [' '], f.name, [';']].flatten) t.fields ++
        [] :: javaConstructor b t) := by
    simp only [javaListing, javaConstructor, List.map_append, List.map_cons, List.map_nil, hfields,
      hinits, hclass, hconstructor, hcall]
    rfl
  have hbody : tidyLines (javaConstructor b t) = javaConstructor b t :=
    tidyLines_fieldLines (List.cons_ne_nil _ _) (by simp) (fun _ => List.cons_ne_nil _ _) t.fields
      [] (by decide) (List.cons_ne_nil _ _) (by simp)
  rw [Listing.nodeLines, hmap]
  refine (tidyLines_append_fieldLines_nil (List.cons_ne_nil _ _) (by simp)
    (fun _ => List.cons_ne_nil _ _) t.fields (List.cons_ne_nil _ _) _).trans ?_
  exact congrArg (fun ls => _ ++ (_ ++ [] :: ls)) hbody

theorem nodeLines_python (b : Text) {t : NodeType} (ht : t.IsPlain) :
    pythonListing.nodeLines b t = pythonNode b t := by
  have hfields := @map_trimEnd_listLines 4
    (fun f => ["    ".toList, f.name, ": ".toList, f.type].flatten)
    t.fields fun f hf => pythonLayout_fits.trimEnd_field f (ht.fields f hf).1
  have hclass : trimEnd ["class ".toList, t.name, ['('], b, "):".toList].flatten =
      ["class ".toList, t.name, ['('], b, "):".toList].flatten :=
    trimEnd_flatten_of_getLast? rfl rfl rfl
  have hcall : trimEnd
      ["        return visitor.".toList, t.visitName b, "(self)".toList].flatten =
        ["        return visitor.".toList, t.visitName b, "(self)".toList].flatten :=
    trimEnd_flatten_of_getLast? rfl rfl rfl
  have hmap : (pythonListing.node b t).map trimEnd =
      ["@dataclass(frozen=True)".toList, ["class ".toList, t.name, ['('], b, "):".toList].flatten] ++
      (fieldLines (fun f => ["    ".toList, f.name, ": ".toList, f.type].flatten) t.fields ++ [] :: [
        "    def accept(self, visitor: Visitor[R]) -> R:".toList,
        ["        return visitor.".toList, t.visitName b, "(self)".toList].flatten]) := by
    simp only [pythonListing, List.map_append, List.map_cons, List.map_nil, hfields, hclass, hcall]
    rfl
  have hbody : tidyLines ["    def accept(self, visitor: Visitor[R]) -> R:".toList,
      ["        return visitor.".toList, t.visitName b, "(self)".toList].flatten] =
      ["    def accept(self, visitor: Visitor[R]) -> R:".toList,
        ["        return visitor.".toList, t.visitName b, "(self)".toList].flatten] :=
    tidyLines_of_forall_ne_nil (by simp)
  rw [Listing.nodeLines, hmap]
  refine (tidyLines_append_fieldLines_nil (List.cons_ne_nil _ _) (by simp)
    (fun _ => List.cons_ne_nil _ _) t.fields (List.cons_ne_nil _ _) _).trans ?_
  exact congrArg (fun ls => _ ++ (_ ++ [] :: ls)) hbody

end Language

/-- The languages at hand, with the lines of a node type in each of them. -/
def nodeTexts : List (Language × (Text → NodeType → List Text)) :=
  [(Language.php, Language.phpNode), (Language.typeScript, Language.typeScriptNode),
    (Language.java, Language.javaNode), (Language.python, Language.pythonNode)]

theorem exists_listing_of_mem_nodeTexts {language : Language} {node : Text → NodeType → List Text}
    (h : (language, node) ∈ nodeTexts) : ∃ listing, Listing.Describes listing language ∧
      ∀ b t, t.IsPlain → listing.node b t ≠ [] ∧ listing.nodeLines b t = node b t := by
  simp only [nodeTexts, List.mem_cons, List.not_mem_nil, or_false, Prod.mk.injEq] at h
  rcases h with ⟨rfl, rfl⟩ | ⟨rfl, rfl⟩ | ⟨rfl, rfl⟩ | ⟨rfl, rfl⟩
  · exact ⟨_, Language.php_describes,
      fun b t _ => ⟨List.cons_ne_nil _ _, Language.nodeLines_php b t⟩⟩
  · exact ⟨_, Language.typeScript_describes,
      fun b t _ => ⟨List.cons_ne_nil _ _, Language.nodeLines_typeScript b t⟩⟩
  · exact ⟨_, Language.java_describes,
      fun b t _ => ⟨List.cons_ne_nil _ _, Language.nodeLines_java b t⟩⟩
  · exact ⟨_, Language.python_describes,
      fun b t ht => ⟨List.cons_ne_nil _ _, Language.nodeLines_python b ht⟩⟩

/-- The block of a node type in tidy form. -/
theorem Listing.Describes.respace_node {listing : Listing} {language : Language}
    (h : listing.Describes language) {base : Text} (hbase : base.IsBlankFree) {t : NodeType}
    (ht : t.IsPlain) (hne : listing.node base t ≠ []) :
    respace (['\n'].intercalate (listing.node base t)) = unlines (listing.nodeLines base t) := by
  rw [respace, spacedLines_eq_tidyLines, h.tidyLines_rows_node hbase ht hne]

/-- **The text of a node type lists its fields**, in order and wherever the language mentions them,
in all the languages at hand. Where the names have no blanks the text is the one that is given line
by line, and a file consists of what comes before the node types and these texts. -/
theorem node_text_lists_fields : nodeTexts.map Prod.fst = Language.builtIn ∧
    ∀ (language : Language) (node : Text → NodeType → List Text), (language, node) ∈ nodeTexts →
    ∀ base : Text, base.IsBlankFree →
      (∃ template, Template.read language.template = .ok template ∧
        ∀ t : NodeType, t.IsPlain → ∃ block, Part.render template base (.node t) = .ok block ∧
          respace block = unlines (node base t)) ∧
      ∀ (namespaceName : Option Text) (types : List NodeType), types ≠ [] →
        (∀ t ∈ types, t.IsPlain) → ∃ preamble baseText visitor : Text,
          (Generator.hierarchy { language, namespaceName } base types).result =
            .ok (stack (preamble :: baseText :: visitor ::
              types.map fun t => unlines (node base t))) := by
  refine ⟨rfl, ?_⟩
  intro language node hmem base hbase
  obtain ⟨listing, hlisting, hnode⟩ := exists_listing_of_mem_nodeTexts hmem
  have htidy : ∀ t : NodeType, t.IsPlain →
      respace (['\n'].intercalate (listing.node base t)) = unlines (node base t) := by
    intro t ht
    obtain ⟨hne, hlines⟩ := hnode base t ht
    rw [hlisting.respace_node hbase ht hne, hlines]
  refine ⟨⟨listing.compiled, hlisting.read_eq, fun t ht => ?_⟩, ?_⟩
  · exact ⟨_, hlisting.node_eq base t, htidy t ht⟩
  · intro namespaceName types hne htypes
    let g : Generator := { language, namespaceName }
    let blocks := listing.blocks g.declaration base types
    have hfile : (g.hierarchy base types).result = .ok (blocks.contents types) :=
      (hlisting.blocks_of rfl base hne).hierarchy_eq hne
    have hnodes : (types.map blocks.node).map respace =
        types.map fun t => unlines (node base t) := by
      rw [List.map_map]
      exact List.map_congr_left fun t ht => htidy t (htypes t ht)
    refine ⟨respace blocks.preamble, respace blocks.base, respace blocks.visitor, ?_⟩
    rw [hfile, Generator.Blocks.contents, List.map_cons, List.map_cons, List.map_cons, hnodes]

/-- A node type with two fields whose types look like code, and one without fields. -/
def pairAndLeaf : List NodeType :=
  [⟨"Pair".toList, [⟨"Map<K,V>".toList, "left".toList⟩, ⟨"R()".toList, "right".toList⟩]⟩,
    ⟨"Leaf".toList, []⟩]

theorem node_text_lists_fields_pairAndLeaf : ∃ preamble baseText visitor : Text,
    (Generator.hierarchy { language := .java } "E".toList pairAndLeaf).result =
      .ok (stack [preamble, baseText, visitor,
        unlines (["final class Pair extends E \x7b",
          "    final Map<K,V> left;",
          "    final R() right;",
          "",
          "    Pair(Map<K,V> left, R() right) \x7b",
          "        this.left = left;",
          "        this.right = right;",
          "    \x7d",
          "",
          "    @Override",
          "    <R> R accept(Visitor<R> visitor) \x7b",
          "        return visitor.visitPairE(this);",
          "    \x7d",
          "\x7d"].map String.toList),
        unlines (["final class Leaf extends E \x7b",
          "",
          "    Leaf() \x7b",
          "",
          "    \x7d",
          "",
          "    @Override",
          "    <R> R accept(Visitor<R> visitor) \x7b",
          "        return visitor.visitLeafE(this);",
          "    \x7d",
          "\x7d"].map String.toList)]) :=
  (node_text_lists_fields.2 .java Language.javaNode (by simp [nodeTexts]) "E".toList
    (by decide)).2 none pairAndLeaf (by decide) (by decide)

end AstHierarchy
