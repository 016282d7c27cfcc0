import AstHierarchy.Proofs.Language.Listing

/-!
# The lines of PHP files
-/

namespace AstHierarchy.Language

open AstHierarchy.Span

/-- What the template of PHP files compiles to. -/
def phpCompiled : Template where
  preamble := [.lineBreak].intercalate [
    [.verbatim "<?php".toList], [], [.reference "namespace".toList {}]]
  base := [.lineBreak].intercalate [
    [.verbatim "abstract class ".toList, .reference "base".toList {}],
    [.verbatim ['\x7b']],
    [.indentation 4, .verbatim "abstract public function accept(Visitor $visitor);".toList],
    [.verbatim ['\x7d']]]
  visitor := [.lineBreak].intercalate [
    [.verbatim "interface Visitor".toList],
    [.verbatim ['\x7b']],
    [.indentation 4, .reference "visit_methods".toList {}],
    [.verbatim ['\x7d']]]
  visitMethod := [
    .verbatim "public function ".toList, .reference "visit".toList {}, .verbatim ['('],
    .reference "type".toList {}, .verbatim " $".toList, .reference "param".toList {},
    .verbatim ");".toList]
  node := [.lineBreak].intercalate [
    [.verbatim "class ".toList, .reference "type".toList {}, .verbatim " extends ".toList,
      .reference "base".toList {}],
    [.verbatim ['\x7b']],
    [.indentation 4, .verbatim "public function __construct(".toList],
    [.indentation 8, .reference "fields".toList { delimiter := some ',', trailing := true }],
    [.indentation 4, .verbatim ") \x7b \x7d".toList],
    [],
    [.indentation 4, .verbatim "public function accept(Visitor $visitor)".toList],
    [.indentation 4, .verbatim ['\x7b']],
    [.indentation 8, .verbatim "return $visitor->".toList, .reference "visit".toList {},
      .verbatim "($this);".toList],
    [.indentation 4, .verbatim ['\x7d']],
    [.verbatim ['\x7d']]]
  field := [
    .verbatim "public readonly ".toList, .reference "ty".toList {}, .verbatim " $".toList,
    .reference "name".toList {}]

/-- PHP files, line by line. -/
def phpListing : Listing where
  compiled := phpCompiled
  preamble d := ["<?php".toList, [], d]
  base b := [
    ["abstract class ".toList, b].flatten,
    ['\x7b'],
    "    abstract public function accept(Visitor $visitor);".toList,
    ['\x7d']]
  visitorHead := ["interface Visitor".toList, ['\x7b']]
  method b t := [
    ["    public function ".toList, t.visitName b, ['('], t.name, " $".toList, visitParameter b,
      ");".toList].flatten]
  visitorTail := [['\x7d']]
  node b t := [
    ["class ".toList, t.name, " extends ".toList, b].flatten,
    ['\x7b'],
    "    public function __construct(".toList] ++
    (listLines 8 t.fields (fun f => [
      ["        public readonly ".toList, f.type, " $".toList, f.name, [',']].flatten]) ++ [
    "    ) \x7b \x7d".toList,
    [],
    "    public function accept(Visitor $visitor)".toList,
    "    \x7b".toList,
    ["        return $visitor->".toList, t.visitName b, "($this);".toList].flatten,
    "    \x7d".toList,
    ['\x7d']])

/-! ## The texts of the blocks -/

theorem read_php : Template.read phpTemplate = .ok phpCompiled := by decide +kernel

theorem php_preambleBlock (d : Text) :
    phpCompiled.preambleBlock d = .ok (['\n'].intercalate (phpListing.preamble d)) := by
  rw [Template.preambleBlock, Span.toText_render]
  have hd : Span.text (Scope.meaning phpCompiled [("namespace".toList, .text d)]) 0
      [.reference "namespace".toList {}] = .ok d :=
    congrArg Except.ok (List.append_nil d)
  exact Listed.text_eq (.line rfl (.line rfl (.line hd .nil)))

theorem php_baseBlock (b : Text) :
    phpCompiled.baseBlock b = .ok (['\n'].intercalate (phpListing.base b)) := by
  rw [Template.baseBlock, Span.toText_render]
  exact Listed.text_eq (.line rfl (.line rfl (.line rfl (.line rfl .nil))))

theorem php_visitorBlock (b : Text) {types : List NodeType} (h : types ≠ []) :
    phpCompiled.visitorBlock b types = .ok (['\n'].intercalate (phpListing.visitor b types)) := by
  rw [Template.visitorBlock, Span.toText_render, Listing.visitor,
    ← listLines_of_ne_nil 4 (phpListing.method b) h]
  have hitem : ∀ t : NodeType, t.visitText phpCompiled b 4 =
      .ok ["public function ".toList, t.visitName b, ['('], t.name, " $".toList,
        visitParameter b, ");".toList].flatten := fun _ => rfl
  refine Listed.text_eq (.line rfl (.line rfl
    (.list (meaning_visitMethods hitem {}) rfl (.inr rfl) ?_ ?_ (.line rfl .nil))))
  · exact fun _ => List.cons_ne_nil _ _
  · exact fun _ => by simp [phpListing]

theorem php_nodeBlock (b : Text) (t : NodeType) :
    phpCompiled.nodeBlock b t = .ok (['\n'].intercalate (phpListing.node b t)) := by
  rw [Template.nodeBlock, Span.toText_render]
  have hitem : ∀ f : Field, f.text phpCompiled .declared 8 =
      .ok ["public readonly ".toList, f.type, " $".toList, f.name].flatten := fun _ => rfl
  refine Listed.text_eq (.line rfl (.line rfl (.line rfl
    (.list (meaning_fields hitem _) rfl (.inl rfl) ?_ ?_ (.line rfl (.line rfl (.line rfl
      (.line rfl (.line rfl (.line rfl (.line rfl .nil)))))))))))
  · exact fun _ => List.cons_ne_nil _ _
  · exact fun _ => by simp

/-! ## Single lines -/

theorem php_declares (name : Text) :
    php.declareNamespace? name = some ("namespace ".toList ++ name ++ [';']) := rfl

theorem newline_not_mem_php_node {b : Text} {t : NodeType} (hb : b.IsBlankFree) (ht : t.IsPlain) :
    ∀ l ∈ phpListing.node b t, '\n' ∉ l := by
  have hbase := hb.newline_not_mem
  have hname := ht.name.newline_not_mem
  have hvisit := newline_not_mem_visitName hb ht
  refine List.forall_mem_append.2 ⟨?_, List.forall_mem_append.2
    ⟨newline_not_mem_fieldLines ht fun f htype hfield => ?_, ?_⟩⟩
  · simp +decide only [newline_not_mem_flatten, List.forall_mem_cons, hbase, hname]
  · simp +decide only [List.forall_mem_cons, htype, hfield]
  · simp +decide only [newline_not_mem_flatten, List.forall_mem_cons, hvisit]

theorem php_describes : phpListing.Describes php where
  read_eq := read_php
  preamble_eq := php_preambleBlock
  base_eq := php_baseBlock
  visitor_eq b _ h := php_visitorBlock b h
  node_eq := php_nodeBlock
  newline_not_mem_preamble d hd := by
    have hd : '\n' ∉ d := newline_not_mem_of_declares php_declares (by decide) (by decide) hd
    simp +decide only [phpListing, List.forall_mem_cons, hd]
  newline_not_mem_base b hb := by
    have hb := hb.newline_not_mem
    simp +decide only [phpListing, List.forall_mem_cons, newline_not_mem_flatten, hb]
  newline_not_mem_visitor := by decide
  newline_not_mem_method b t hb ht := by
    have hname := ht.name.newline_not_mem
    have hvisit := newline_not_mem_visitName hb ht
    have hparameter := (isBlankFree_visitParameter hb).newline_not_mem
    simp +decide only [phpListing, List.forall_mem_cons, newline_not_mem_flatten, hname, hvisit,
      hparameter]
  newline_not_mem_node _ _ hb ht := newline_not_mem_php_node hb ht

end AstHierarchy.Language
