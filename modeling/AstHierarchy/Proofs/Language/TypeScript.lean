import AstHierarchy.Proofs.Language.Listing

/-!
# The lines of TypeScript files
-/

namespace AstHierarchy.Language

open AstHierarchy.Span

/-- What the template of TypeScript files compiles to. -/
def typeScriptCompiled : Template where
  base := [.lineBreak].intercalate [
    [.verbatim "export abstract class ".toList, .reference "base".toList {}, .verbatim " \x7b".toList],
    [.indentation 2, .verbatim "abstract accept<R>(visitor: Visitor<R>): R;".toList],
    [.verbatim ['\x7d']]]
  visitor := [.lineBreak].intercalate [
    [.verbatim "export interface Visitor<R> \x7b".toList],
    [.indentation 2, .reference "visit_methods".toList {}],
    [.verbatim ['\x7d']]]
  visitMethod := [
    .reference "visit".toList {}, .verbatim ['('], .reference "param".toList {},
    .verbatim ": ".toList, .reference "type".toList {}, .verbatim "): R;".toList]
  node := [.lineBreak].intercalate [
    [.verbatim "export class ".toList, .reference "type".toList {}, .verbatim " extends ".toList,
      .reference "base".toList {}, .verbatim " \x7b".toList],
    [.indentation 2, .verbatim "constructor(".toList],
    [.indentation 4, .reference "fields".toList { delimiter := some ',', trailing := true }],
    [.indentation 2, .verbatim ") \x7b".toList],
    [.indentation 4, .verbatim "super();".toList],
    [.indentation 2, .verbatim ['\x7d']],
    [],
    [.indentation 2, .verbatim "accept<R>(visitor: Visitor<R>): R \x7b".toList],
    [.indentation 4, .verbatim "return visitor.".toList, .reference "visit".toList {},
      .verbatim "(this);".toList],
    [.indentation 2, .verbatim ['\x7d']],
    [.verbatim ['\x7d']]]
  field := [
    .verbatim "readonly ".toList, .reference "name".toList {}, .verbatim ": ".toList,
    .reference "ty".toList {}]

/-- TypeScript files, line by line. -/
def typeScriptListing : Listing where
  compiled := typeScriptCompiled
  preamble _ := []
  base b := [
    ["export abstract class ".toList, b, " \x7b".toList].flatten,
    "  abstract accept<R>(visitor: Visitor<R>): R;".toList,
    ['\x7d']]
  visitorHead := ["export interface Visitor<R> \x7b".toList]
  method b t := [
    ["  ".toList, t.visitName b, ['('], visitParameter b, ": ".toList, t.name,
      "): R;".toList].flatten]
  visitorTail := [['\x7d']]
  node b t := [
    ["export class ".toList, t.name, " extends ".toList, b, " \x7b".toList].flatten,
    "  constructor(".toList] ++
    (listLines 4 t.fields (fun f => [
      ["    readonly ".toList, f.name, ": ".toList, f.type, [',']].flatten]) ++ [
    "  ) \x7b".toList,
    "    super();".toList,
    "  \x7d".toList,
    [],
    "  accept<R>(visitor: Visitor<R>): R \x7b".toList,
    ["    return visitor.".toList, t.visitName b, "(this);".toList].flatten,
    "  \x7d".toList,
    ['\x7d']])

/-! ## The texts of the blocks -/

theorem read_typeScript : Template.read typeScriptTemplate = .ok typeScriptCompiled := by
  decide +kernel

theorem typeScript_baseBlock (b : Text) :
    typeScriptCompiled.baseBlock b = .ok (['\n'].intercalate (typeScriptListing.base b)) := by
  rw [Template.baseBlock, Span.toText_render]
  exact Listed.text_eq (.line rfl (.line rfl (.line rfl .nil)))

theorem typeScript_visitorBlock (b : Text) {types : List NodeType} (h : types ≠ []) :
    typeScriptCompiled.visitorBlock b types =
      .ok (['\n'].intercalate (typeScriptListing.visitor b types)) := by
  rw [Template.visitorBlock, Span.toText_render, Listing.visitor,
    ← listLines_of_ne_nil 2 (typeScriptListing.method b) h]
  have hitem : ∀ t : NodeType, t.visitText typeScriptCompiled b 2 =
      .ok [t.visitName b, ['('], visitParameter b, ": ".toList, t.name,
        "): R;".toList].flatten := fun _ => rfl
  refine Listed.text_eq (.line rfl (.list (meaning_visitMethods hitem {}) rfl (.inr rfl) ?_ ?_
    (.line rfl .nil)))
  · exact fun _ => List.cons_ne_nil _ _
  · exact fun _ => by simp [typeScriptListing]

theorem typeScript_nodeBlock (b : Text) (t : NodeType) :
    typeScriptCompiled.nodeBlock b t = .ok (['\n'].intercalate (typeScriptListing.node b t)) := by
  rw [Template.nodeBlock, Span.toText_render]
  have hitem : ∀ f : Field, f.text typeScriptCompiled .declared 4 =
      .ok ["readonly ".toList, f.name, ": ".toList, f.type].flatten := fun _ => rfl
  refine Listed.text_eq (.line rfl (.line rfl (.list (meaning_fields hitem _) rfl (.inl rfl) ?_ ?_
    (.line rfl (.line rfl (.line rfl (.line rfl (.line rfl (.line rfl (.line rfl
      (.line rfl .nil)))))))))))
  · exact fun _ => List.cons_ne_nil _ _
  · exact fun _ => by simp

/-! ## Single lines -/

theorem newline_not_mem_typeScript_node {b : Text} {t : NodeType} (hb : b.IsBlankFree)
    (ht : t.IsPlain) : ∀ l ∈ typeScriptListing.node b t, '\n' ∉ l := by
  have hbase := hb.newline_not_mem
  have hname := ht.name.newline_not_mem
  have hvisit := newline_not_mem_visitName hb ht
  refine List.forall_mem_append.2 ⟨?_, List.forall_mem_append.2
    ⟨newline_not_mem_fieldLines ht fun f htype hfield => ?_, ?_⟩⟩
  · simp +decide only [newline_not_mem_flatten, List.forall_mem_cons, hbase, hname]
  · simp +decide only [List.forall_mem_cons, htype, hfield]
  · simp +decide only [newline_not_mem_flatten, List.forall_mem_cons, hvisit]

theorem typeScript_describes : typeScriptListing.Describes typeScript where
  read_eq := read_typeScript
  preamble_eq _ := by
    rw [Template.preambleBlock, Span.toText_render]
    rfl
  base_eq := typeScript_baseBlock
  visitor_eq b _ h := typeScript_visitorBlock b h
  node_eq := typeScript_nodeBlock
  newline_not_mem_preamble _ _ := List.forall_mem_nil _
  newline_not_mem_base b hb := by
    have hb := hb.newline_not_mem
    simp +decide only [typeScriptListing, List.forall_mem_cons, newline_not_mem_flatten, hb]
  newline_not_mem_visitor := by decide
  newline_not_mem_method b t hb ht := by
    have hname := ht.name.newline_not_mem
    have hvisit := newline_not_mem_visitName hb ht
    have hparameter := (isBlankFree_visitParameter hb).newline_not_mem
    simp +decide only [typeScriptListing, List.forall_mem_cons, newline_not_mem_flatten, hname,
      hvisit, hparameter]
  newline_not_mem_node _ _ hb ht := newline_not_mem_typeScript_node hb ht

end AstHierarchy.Language
