import AstHierarchy.Proofs.Language.Listing

/-!
# The lines of Python files

A method of the visitor takes two lines here, and the visitor ends with the last of its methods.
-/

namespace AstHierarchy.Language

open AstHierarchy.Span

/-- What the template of Python files compiles to. -/
def pythonCompiled : Template where
  preamble := [.lineBreak].intercalate [
    [.verbatim "from __future__ import annotations".toList],
    [],
    [.verbatim "from abc import ABC, abstractmethod".toList],
    [.verbatim "from dataclasses import dataclass".toList],
    [.verbatim "from typing import Generic, TypeVar".toList],
    [],
    [.verbatim "R = TypeVar(\"R\")".toList]]
  base := [.lineBreak].intercalate [
    [.verbatim "class ".toList, .reference "base".toList {}, .verbatim "(ABC):".toList],
    [.indentation 4, .verbatim "@abstractmethod".toList],
    [.indentation 4, .verbatim "def accept(self, visitor: Visitor[R]) -> R: ...".toList]]
  visitor := [.lineBreak].intercalate [
    [.verbatim "class Visitor(ABC, Generic[R]):".toList],
    [.indentation 4, .reference "visit_methods".toList {}]]
  visitMethod := [.lineBreak].intercalate [
    [.verbatim "@abstractmethod".toList],
    [.verbatim "def ".toList, .reference "visit".toList {}, .verbatim "(self, ".toList,
      .reference "param".toList {}, .verbatim ": ".toList, .reference "type".toList {},
      .verbatim ") -> R: ...".toList]]
  node := [.lineBreak].intercalate [
    [.verbatim "@dataclass(frozen=True)".toList],
    [.verbatim "class ".toList, .reference "type".toList {}, .verbatim ['('],
      .reference "base".toList {}, .verbatim "):".toList],
    [.indentation 4, .reference "fields".toList {}],
    [],
    [.indentation 4, .verbatim "def accept(self, visitor: Visitor[R]) -> R:".toList],
    [.indentation 8, .verbatim "return visitor.".toList, .reference "visit".toList {},
      .verbatim "(self)".toList]]
  field := [.reference "name".toList {}, .verbatim ": ".toList, .reference "ty".toList {}]

/-- Python files, line by line. -/
def pythonListing : Listing where
  compiled := pythonCompiled
  preamble _ := [
    "from __future__ import annotations".toList,
    [],
    "from abc import ABC, abstractmethod".toList,
    "from dataclasses import dataclass".toList,
    "from typing import Generic, TypeVar".toList,
    [],
    "R = TypeVar(\"R\")".toList]
  base b := [
    ["class ".toList, b, "(ABC):".toList].flatten,
    "    @abstractmethod".toList,
    "    def accept(self, visitor: Visitor[R]) -> R: ...".toList]
  visitorHead := ["class Visitor(ABC, Generic[R]):".toList]
  method b t := [
    "    @abstractmethod".toList,
    ["    def ".toList, t.visitName b, "(self, ".toList, visitParameter b, ": ".toList, t.name,
      ") -> R: ...".toList].flatten]
  visitorTail := []
  node b t := [
    "@dataclass(frozen=True)".toList,
    ["class ".toList, t.name, ['('], b, "):".toList].flatten] ++
    (listLines 4 t.fields (fun f => [
      ["    ".toList, f.name, ": ".toList, f.type].flatten]) ++ [
    [],
    "    def accept(self, visitor: Visitor[R]) -> R:".toList,
    ["        return visitor.".toList, t.visitName b, "(self)".toList].flatten])

/-! ## The texts of the blocks -/

theorem read_python : Template.read pythonTemplate = .ok pythonCompiled := by decide +kernel

theorem python_preambleBlock (d : Text) :
    pythonCompiled.preambleBlock d = .ok (['\n'].intercalate (pythonListing.preamble d)) := by
  rw [Template.preambleBlock, Span.toText_render]
  exact Listed.text_eq (.line rfl (.line rfl (.line rfl (.line rfl (.line rfl (.line rfl
    (.line rfl .nil)))))))

theorem python_baseBlock (b : Text) :
    pythonCompiled.baseBlock b = .ok (['\n'].intercalate (pythonListing.base b)) := by
  rw [Template.baseBlock, Span.toText_render]
  exact Listed.text_eq (.line rfl (.line rfl (.line rfl .nil)))

theorem python_visitorBlock (b : Text) {types : List NodeType} (h : types ≠ []) :
    pythonCompiled.visitorBlock b types =
      .ok (['\n'].intercalate (pythonListing.visitor b types)) := by
  rw [Template.visitorBlock, Span.toText_render, Listing.visitor,
    ← listLines_of_ne_nil 4 (pythonListing.method b) h]
  have hitem : ∀ t : NodeType, t.visitText pythonCompiled b 4 =
      .ok ["@abstractmethod\n    def ".toList, t.visitName b, "(self, ".toList, visitParameter b,
        ": ".toList, t.name, ") -> R: ...".toList].flatten := fun _ => rfl
  refine Listed.text_eq
    (.line rfl (.list (meaning_visitMethods hitem {}) rfl (.inr rfl) ?_ ?_ .nil))
  · exact fun _ => List.cons_ne_nil _ _
  · exact fun _ => by simp [pythonListing]

theorem python_nodeBlock (b : Text) (t : NodeType) :
    pythonCompiled.nodeBlock b t = .ok (['\n'].intercalate (pythonListing.node b t)) := by
  rw [Template.nodeBlock, Span.toText_render]
  have hitem : ∀ f : Field, f.text pythonCompiled .declared 4 =
      .ok [f.name, ": ".toList, f.type].flatten := fun _ => rfl
  refine Listed.text_eq (.line rfl (.line rfl (.list (meaning_fields hitem _) rfl (.inr rfl) ?_ ?_
    (.line rfl (.line rfl (.line rfl .nil))))))
  · exact fun _ => List.cons_ne_nil _ _
  · exact fun _ => by simp

/-! ## Single lines -/

theorem newline_not_mem_python_node {b : Text} {t : NodeType} (hb : b.IsBlankFree)
    (ht : t.IsPlain) : ∀ l ∈ pythonListing.node b t, '\n' ∉ l := by
  have hbase := hb.newline_not_mem
  have hname := ht.name.newline_not_mem
  have hvisit := newline_not_mem_visitName hb ht
  refine List.forall_mem_append.2 ⟨?_, List.forall_mem_append.2
    ⟨newline_not_mem_fieldLines ht fun f htype hfield => ?_, ?_⟩⟩
  · simp +decide only [newline_not_mem_flatten, List.forall_mem_cons, hbase, hname]
  · simp +decide only [List.forall_mem_cons, htype, hfield]
  · simp +decide only [newline_not_mem_flatten, List.forall_mem_cons, hvisit]

theorem python_describes : pythonListing.Describes python where
  read_eq := read_python
  preamble_eq := python_preambleBlock
  base_eq := python_baseBlock
  visitor_eq b _ h := python_visitorBlock b h
  node_eq := python_nodeBlock
  newline_not_mem_preamble _ _ := by simp +decide only [pythonListing, List.forall_mem_cons]
  newline_not_mem_base b hb := by
    have hb := hb.newline_not_mem
    simp +decide only [pythonListing, List.forall_mem_cons, newline_not_mem_flatten, hb]
  newline_not_mem_visitor := by decide
  newline_not_mem_method b t hb ht := by
    have hname := ht.name.newline_not_mem
    have hvisit := newline_not_mem_visitName hb ht
    have hparameter := (isBlankFree_visitParameter hb).newline_not_mem
    simp +decide only [pythonListing, List.forall_mem_cons, newline_not_mem_flatten, hname, hvisit,
      hparameter]
  newline_not_mem_node _ _ hb ht := newline_not_mem_python_node hb ht

end AstHierarchy.Language
