import AstHierarchy.Proofs.Language.Listing

/-!
# The lines of Java files
-/

namespace AstHierarchy.Language

open AstHierarchy.Span

/-- What the template of Java files compiles to. -/
def javaCompiled : Template where
  preamble := [.reference "namespace".toList {}]
  base := [.lineBreak].intercalate [
    [.verbatim "abstract class ".toList, .reference "base".toList {}, .verbatim " \x7b".toList],
    [.indentation 4, .verbatim "abstract <R> R accept(Visitor<R> visitor);".toList],
    [.verbatim ['\x7d']]]
  visitor := [.lineBreak].intercalate [
    [.verbatim "interface Visitor<R> \x7b".toList],
    [.indentation 4, .reference "visit_methods".toList {}],
    [.verbatim ['\x7d']]]
  visitMethod := [
    .verbatim "R ".toList, .reference "visit".toList {}, .verbatim ['('],
    .reference "type".toList {}, .verbatim [' '], .reference "param".toList {},
    .verbatim ");".toList]
  node := [.lineBreak].intercalate [
    [.verbatim "final class ".toList, .reference "type".toList {}, .verbatim " extends ".toList,
      .reference "base".toList {}, .verbatim " \x7b".toList],
    [.indentation 4, .reference "fields".toList {}],
    [],
    [.indentation 4, .reference "type".toList {}, .verbatim ['('],
      .reference "params".toList { delimiter := some ',', oneLine := true },
      .verbatim ") \x7b".toList],
    [.indentation 8, .reference "inits".toList {}],
    [.indentation 4, .verbatim ['\x7d']],
    [],
    [.indentation 4, .verbatim "@Override".toList],
    [.indentation 4, .verbatim "<R> R accept(Visitor<R> visitor) \x7b".toList],
    [.indentation 8, .verbatim "return visitor.".toList, .reference "visit".toList {},
      .verbatim "(this);".toList],
    [.indentation 4, .verbatim ['\x7d']],
    [.verbatim ['\x7d']]]
  field := [
    .verbatim "final ".toList, .reference "ty".toList {}, .verbatim [' '],
    .reference "name".toList {}, .verbatim [';']]
  param := [.reference "ty".toList {}, .verbatim [' '], .reference "name".toList {}]
  init := [
    .verbatim "this.".toList, .reference "name".toList {}, .verbatim " = ".toList,
    .reference "name".toList {}, .verbatim [';']]

/-- Java files, line by line. -/
def javaListing : Listing where
  compiled := javaCompiled
  preamble d := [d]
  base b := [
    ["abstract class ".toList, b, " \x7b".toList].flatten,
    "    abstract <R> R accept(Visitor<R> visitor);".toList,
    ['\x7d']]
  visitorHead := ["interface Visitor<R> \x7b".toList]
  method b t := [
    ["    R ".toList, t.visitName b, ['('], t.name, [' '], visitParameter b, ");".toList].flatten]
  visitorTail := [['\x7d']]
  node b t := [
    ["final class ".toList, t.name, " extends ".toList, b, " \x7b".toList].flatten] ++
    (listLines 4 t.fields (fun f => [
      ["    final ".toList, f.type, [' '], f.name, [';']].flatten]) ++ ([
    [],
    ["    ".toList, t.name, ['('],
      ", ".toList.intercalate (t.fields.map fun f => [f.type, [' '], f.name].flatten),
      ") \x7b".toList].flatten] ++
    (listLines 8 t.fields (fun f => [
      ["        this.".toList, f.name, " = ".toList, f.name, [';']].flatten]) ++ [
    "    \x7d".toList,
    [],
    "    @Override".toList,
    "    <R> R accept(Visitor<R> visitor) \x7b".toList,
    ["        return visitor.".toList, t.visitName b, "(this);".toList].flatten,
    "    \x7d".toList,
    ['\x7d']])))

/-! ## The texts of the blocks -/

theorem read_java : Template.read javaTemplate = .ok javaCompiled := by decide +kernel

theorem java_preambleBlock (d : Text) :
    javaCompiled.preambleBlock d = .ok (['\n'].intercalate (javaListing.preamble d)) := by
  rw [Template.preambleBlock, Span.toText_render, javaListing, List.intercalate_singleton]
  exact congrArg Except.ok (List.append_nil d)

theorem java_baseBlock (b : Text) :
    javaCompiled.baseBlock b = .ok (['\n'].intercalate (javaListing.base b)) := by
  rw [Template.baseBlock, Span.toText_render]
  exact Listed.text_eq (.line rfl (.line rfl (.line rfl .nil)))

theorem java_visitorBlock (b : Text) {types : List NodeType} (h : types ≠ []) :
    javaCompiled.visitorBlock b types =
      .ok (['\n'].intercalate (javaListing.visitor b types)) := by
  rw [Template.visitorBlock, Span.toText_render, Listing.visitor,
    ← listLines_of_ne_nil 4 (javaListing.method b) h]
  have hitem : ∀ t : NodeType, t.visitText javaCompiled b 4 =
      .ok ["R ".toList, t.visitName b, ['('], t.name, [' '], visitParameter b,
        ");".toList].flatten := fun _ => rfl
  refine Listed.text_eq (.line rfl (.list (meaning_visitMethods hitem {}) rfl (.inr rfl) ?_ ?_
    (.line rfl .nil)))
  · exact fun _ => List.cons_ne_nil _ _
  · exact fun _ => by simp [javaListing]

theorem java_nodeBlock (b : Text) (t : NodeType) :
    javaCompiled.nodeBlock b t = .ok (['\n'].intercalate (javaListing.node b t)) := by
  rw [Template.nodeBlock, Span.toText_render]
  have hfield : ∀ f : Field, f.text javaCompiled .declared 4 =
      .ok ["final ".toList, f.type, [' '], f.name, [';']].flatten := fun _ => rfl
  have hparam : ∀ f : Field, f.text javaCompiled .parameter 4 =
      .ok [f.type, [' '], f.name].flatten := fun _ => rfl
  have hinit : ∀ f : Field, f.text javaCompiled .stored 8 =
      .ok ["this.".toList, f.name, " = ".toList, f.name, [';']].flatten := fun _ => rfl
  have hconstructor : Span.text (((Part.node t).scope b).meaning javaCompiled) 0
      [.indentation 4, .reference "type".toList {}, .verbatim ['('],
        .reference "params".toList { delimiter := some ',', oneLine := true },
        .verbatim ") \x7b".toList] =
      .ok ["    ".toList, t.name, ['('],
        ", ".toList.intercalate (t.fields.map fun f => [f.type, [' '], f.name].flatten),
        ") \x7b".toList].flatten := by
    have htype : ((Part.node t).scope b).meaning javaCompiled "type".toList {} (0 + 4) =
        .ok t.name := rfl
    have hparams : ((Part.node t).scope b).meaning javaCompiled "params".toList
        { delimiter := some ',', oneLine := true } (0 + 4) =
        .ok (", ".toList.intercalate (t.fields.map fun f => [f.type, [' '], f.name].flatten)) := by
      rw [meaning_params hparam, join_of_oneLine rfl rfl]
      rfl
    rw [Span.text, textFrom, textFrom_reference htype, textFrom, textFrom_reference hparams]
    rfl
  refine Listed.text_eq (.line rfl (.list (meaning_fields hfield _) rfl (.inr rfl) ?_ ?_ (.line rfl
    (.line hconstructor (.list (meaning_inits hinit _) rfl (.inr rfl) ?_ ?_
      (.line rfl (.line rfl (.line rfl (.line rfl (.line rfl (.line rfl
        (.line rfl .nil))))))))))))
  · exact fun _ => List.cons_ne_nil _ _
  · exact fun _ => by simp
  · exact fun _ => List.cons_ne_nil _ _
  · exact fun _ => by simp

/-! ## Single lines -/

theorem java_declares (name : Text) :
    java.declareNamespace? name = some ("package ".toList ++ name ++ [';']) := rfl

theorem newline_not_mem_java_node {b : Text} {t : NodeType} (hb : b.IsBlankFree)
    (ht : t.IsPlain) : ∀ l ∈ javaListing.node b t, '\n' ∉ l := by
  have hbase := hb.newline_not_mem
  have hname := ht.name.newline_not_mem
  have hvisit := newline_not_mem_visitName hb ht
  have hparams : '\n' ∉
      ", ".toList.intercalate (t.fields.map fun f => [f.type, [' '], f.name].flatten) := by
    refine Text.not_mem_intercalate (by decide) fun p hp => ?_
    obtain ⟨f, hf, rfl⟩ := List.mem_map.1 hp
    obtain ⟨htype, hfield⟩ := ht.fields f hf
    simp +decide only [newline_not_mem_flatten, List.forall_mem_cons, htype.newline_not_mem,
      hfield.newline_not_mem]
  refine List.forall_mem_append.2 ⟨?_, List.forall_mem_append.2
    ⟨newline_not_mem_fieldLines ht fun f htype hfield => ?_, List.forall_mem_append.2
      ⟨?_, List.forall_mem_append.2
        ⟨newline_not_mem_fieldLines ht fun f _ hfield => ?_, ?_⟩⟩⟩⟩
  · simp +decide only [newline_not_mem_flatten, List.forall_mem_cons, hbase, hname]
  · simp +decide only [List.forall_mem_cons, htype, hfield]
  · simp +decide only [newline_not_mem_flatten, List.forall_mem_cons, hname, hparams]
  · simp +decide only [List.forall_mem_cons, hfield]
  · simp +decide only [newline_not_mem_flatten, List.forall_mem_cons, hvisit]

theorem java_describes : javaListing.Describes java where
  read_eq := read_java
  preamble_eq := java_preambleBlock
  base_eq := java_baseBlock
  visitor_eq b _ h := java_visitorBlock b h
  node_eq := java_nodeBlock
  newline_not_mem_preamble d hd := by
    have hd : '\n' ∉ d := newline_not_mem_of_declares java_declares (by decide) (by decide) hd
    exact List.forall_mem_singleton.2 hd
  newline_not_mem_base b hb := by
    have hb := hb.newline_not_mem
    simp +decide only [javaListing, List.forall_mem_cons, newline_not_mem_flatten, hb]
  newline_not_mem_visitor := by decide
  newline_not_mem_method b t hb ht := by
    have hname := ht.name.newline_not_mem
    have hvisit := newline_not_mem_visitName hb ht
    have hparameter := (isBlankFree_visitParameter hb).newline_not_mem
    simp +decide only [javaListing, List.forall_mem_cons, newline_not_mem_flatten, hname, hvisit,
      hparameter]
  newline_not_mem_node _ _ hb ht := newline_not_mem_java_node hb ht

end AstHierarchy.Language
