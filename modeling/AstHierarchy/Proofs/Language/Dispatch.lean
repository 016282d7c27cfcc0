import AstHierarchy.Proofs.Language.Java
import AstHierarchy.Proofs.Language.Php
import AstHierarchy.Proofs.Language.Python
import AstHierarchy.Proofs.Language.TypeScript

/-!
# Dispatch

A node calls one method of the visitor, the one for its type, and the visitor declares one method
for each type. Both are single lines of the file, and they are written in different places: the
call in the block of the node, the declaration as an item of a list in the block of the visitor.
`dispatch_consistent` says that reading a file finds the same names in the same order in both
places, and nothing else that looks like a call or like a declaration.

Nothing else looks like them because every other line differs from them near its beginning, so that
the declarations and the calls are all that is `notable` in a listing. Most lines differ in the text
of the template. Two lines begin with a name from the grammar, the constructor in Java and a field
in Python. A name has no blanks, so it cannot go on beyond the first blank of a declaration
(`not_isPrefix_of_blank`).
-/

namespace AstHierarchy

open Text Listing

/-! ## Calls and declarations -/

/-- What a call of a visitor's method and the declaration of one look like in a language. -/
structure DispatchShape where
  /-- What stands before the name of the method in a call. -/
  callBefore : Text
  /-- What stands after it. -/
  callAfter : Text
  /-- What a declaration begins with. -/
  declarationStart : Text
  /-- The declaration of a method, given its name, the type of its parameter and the parameter. -/
  declaration : Text → Text → Text → Text

/-- The text between two texts that a line begins and ends with. -/
def Text.between? (before after line : Text) : Option Text :=
  if before.isPrefixOf line && after.isSuffixOf (line.drop before.length) then
    some ((line.drop before.length).take (line.length - before.length - after.length))
  else none

theorem Text.between?_eq_some_iff {before after line m : Text} :
    between? before after line = some m ↔ line = before ++ (m ++ after) := by
  unfold between?
  constructor
  · intro h
    split at h
    · rename_i hends
      rw [Bool.and_eq_true, List.isPrefixOf_iff_prefix, List.isSuffixOf_iff_suffix] at hends
      obtain ⟨⟨rest, rfl⟩, hafter⟩ := hends
      rw [List.drop_left] at hafter h
      obtain ⟨inner, rfl⟩ := hafter
      obtain rfl := Option.some.inj h
      have hlength : (before ++ (inner ++ after)).length - before.length - after.length =
          inner.length := by
        simp only [List.length_append]
        omega
      rw [hlength, List.take_left]
    · cases h
  · rintro rfl
    have hends : before.isPrefixOf (before ++ (m ++ after)) &&
        after.isSuffixOf ((before ++ (m ++ after)).drop before.length) := by
      rw [Bool.and_eq_true, List.isPrefixOf_iff_prefix, List.isSuffixOf_iff_suffix, List.drop_left]
      exact ⟨List.prefix_append _ _, List.suffix_append _ _⟩
    have hlength : (before ++ (m ++ after)).length - before.length - after.length = m.length := by
      simp only [List.length_append]
      omega
    rw [if_pos hends, List.drop_left, hlength, List.take_left]

namespace DispatchShape

/-- The name of the method that a line calls, if the line is a call. -/
def call? (shape : DispatchShape) (line : Text) : Option Text :=
  between? shape.callBefore shape.callAfter line

/-- Whether a line begins like a declaration. -/
def declares (shape : DispatchShape) (line : Text) : Bool :=
  shape.declarationStart.isPrefixOf line

/-- The lines that begin like a call or like a declaration. -/
def notable (shape : DispatchShape) (ls : List Text) : List Text :=
  ls.filter fun l => shape.callBefore.isPrefixOf l || shape.declarationStart.isPrefixOf l

theorem notable_append (shape : DispatchShape) (ls ms : List Text) :
    shape.notable (ls ++ ms) = shape.notable ls ++ shape.notable ms := List.filter_append ls ms

theorem notable_listLines {shape : DispatchShape} {α : Type} {columns : Nat} {xs : List α}
    {lines : α → List Text} (hblank : shape.notable [List.replicate columns ' '] = [])
    (h : ∀ x ∈ xs, shape.notable (lines x) = []) :
    shape.notable (listLines columns xs lines) = [] := by
  unfold listLines
  split
  · exact hblank
  · rw [notable, List.filter_flatMap]
    exact List.flatMap_eq_nil_iff.2 h

/-- The call of a method. -/
def call (shape : DispatchShape) (method : Text) : Text :=
  shape.callBefore ++ (method ++ shape.callAfter)

/-- The notable lines of a listing are the declarations and calls of this shape, each where it
belongs. -/
structure Fits (shape : DispatchShape) (listing : Listing) (language : Language) : Prop where
  describes : listing.Describes language
  preamble : ∀ d, language.Declares d → shape.notable (listing.preamble d) = []
  base : ∀ b, shape.notable (listing.base b) = []
  visitorHead : shape.notable listing.visitorHead = []
  method : ∀ b t, shape.notable (listing.method b t) =
    [shape.declaration (t.visitName b) t.name (visitParameter b)]
  visitorTail : shape.notable listing.visitorTail = []
  node : ∀ b {t}, t.IsPlain → shape.notable (listing.node b t) = [shape.call (t.visitName b)]
  call?_declaration : ∀ b (t : NodeType),
    shape.callBefore.isPrefixOf (shape.declaration (t.visitName b) t.name (visitParameter b)) = false
  declares_declaration : ∀ b (t : NodeType),
    shape.declares (shape.declaration (t.visitName b) t.name (visitParameter b)) = true
  declares_call : ∀ m, shape.declares (shape.call m) = false
  getLast?_declaration : ∀ method type parameter,
    ∃ c, (shape.declaration method type parameter).getLast? = some c ∧ isBlank c = false
  getLast?_callAfter : ∃ c, shape.callAfter.getLast? = some c ∧ isBlank c = false
  ne_nil : shape.callBefore ≠ [] ∧ shape.declarationStart ≠ []

variable {shape : DispatchShape} {listing : Listing} {language : Language}

/-! ## What is found in a file -/

/-- The line itself, if it begins like a declaration. -/
def declaration? (shape : DispatchShape) (line : Text) : Option Text :=
  Option.guard shape.declares line

theorem isPrefixOf_of_call? {line m : Text} (h : shape.call? line = some m) :
    shape.callBefore.isPrefixOf line := by
  rw [call?, between?_eq_some_iff] at h
  rw [List.isPrefixOf_iff_prefix, h]
  exact List.prefix_append _ _

theorem isPrefixOf_of_declaration? {line m : Text} (h : shape.declaration? line = some m) :
    shape.declarationStart.isPrefixOf line := by
  unfold declaration? Option.guard at h
  split at h
  · assumption
  · cases h

/-- A line without the beginning that is looked for does not get it by being trimmed. -/
theorem eq_none_of_isPrefixOf {f : Text → Option Text} {start line : Text}
    (hf : ∀ l m, f l = some m → start.isPrefixOf l) (hline : start.isPrefixOf line = false) :
    f (trimEnd line) = none := by
  cases hfound : f (trimEnd line) with
  | none => rfl
  | some m =>
    have hstart : start <+: trimEnd line := List.isPrefixOf_iff_prefix.1 (hf _ m hfound)
    have hlong : start.isPrefixOf line :=
      List.isPrefixOf_iff_prefix.2 (hstart.trans (isPrefix_trimEnd line))
    rw [hline] at hlong
    cases hlong

/-- Nothing is found in an empty line. -/
theorem eq_none_of_start_ne_nil {f : Text → Option Text} {start : Text}
    (hf : ∀ l m, f l = some m → start.isPrefixOf l) (hne : start ≠ []) : f [] = none := by
  have hstart : start.isPrefixOf [] = false := by
    rw [← Bool.not_eq_true, List.isPrefixOf_iff_prefix, List.prefix_nil]
    exact hne
  exact eq_none_of_isPrefixOf hf hstart

/-- Only notable lines are found. -/
theorem found_notable (ls : List Text) :
    found shape.call? (shape.notable ls) = found shape.call? ls ∧
      found shape.declaration? (shape.notable ls) = found shape.declaration? ls := by
  induction ls with
  | nil => exact ⟨rfl, rfl⟩
  | cons l rest ih =>
    by_cases hl : shape.callBefore.isPrefixOf l || shape.declarationStart.isPrefixOf l
    · -- the line is kept, and is looked at on both sides
      have hnotable : shape.notable (l :: rest) = [l] ++ shape.notable rest :=
        List.filter_cons_of_pos hl
      rw [hnotable, found_append, found_append, ih.1, ih.2, ← found_append, ← found_append]
      exact ⟨rfl, rfl⟩
    · -- the line is left out, and nothing would be found in it
      have hnotable : shape.notable (l :: rest) = shape.notable rest :=
        List.filter_cons_of_neg hl
      rw [Bool.not_eq_true, Bool.or_eq_false_iff] at hl
      rw [hnotable, ih.1, ih.2]
      have hcall : shape.call? (trimEnd l) = none :=
        eq_none_of_isPrefixOf (fun _ _ => isPrefixOf_of_call?) hl.1
      have hdeclaration : shape.declaration? (trimEnd l) = none :=
        eq_none_of_isPrefixOf (fun _ _ => isPrefixOf_of_declaration?) hl.2
      exact ⟨(List.filterMap_cons_none hcall).symm, (List.filterMap_cons_none hdeclaration).symm⟩

theorem found_eq_nil_of_notable {ls : List Text} (h : shape.notable ls = []) :
    found shape.call? ls = [] ∧ found shape.declaration? ls = [] := by
  rw [← (found_notable ls).1, ← (found_notable ls).2, h]
  exact ⟨rfl, rfl⟩

/-- In the lines of a method one finds its declaration, and no call. -/
theorem Fits.found_method (h : shape.Fits listing language) (b : Text) (t : NodeType) :
    found shape.call? (listing.method b t) = [] ∧
      found shape.declaration? (listing.method b t) =
        [shape.declaration (t.visitName b) t.name (visitParameter b)] := by
  rw [← (found_notable _).1, ← (found_notable _).2, h.method]
  constructor
  · have hcall := eq_none_of_isPrefixOf (fun _ _ => isPrefixOf_of_call?) (h.call?_declaration b t)
    exact List.filterMap_cons_none hcall
  · obtain ⟨c, hc, hblank⟩ :=
      h.getLast?_declaration (t.visitName b) t.name (visitParameter b)
    have hfound : shape.declaration? (shape.declaration (t.visitName b) t.name (visitParameter b)) =
        some (shape.declaration (t.visitName b) t.name (visitParameter b)) :=
      if_pos (h.declares_declaration b t)
    rw [found, List.map_singleton, trimEnd_of_getLast? hc hblank, List.filterMap_cons_some hfound]
    rfl

/-- In the lines of a node type one finds its call, and no declaration. -/
theorem Fits.found_node (h : shape.Fits listing language) (b : Text) {t : NodeType}
    (ht : t.IsPlain) :
    found shape.call? (listing.node b t) = [t.visitName b] ∧
      found shape.declaration? (listing.node b t) = [] := by
  rw [← (found_notable _).1, ← (found_notable _).2, h.node b ht]
  constructor
  · obtain ⟨c, hc, hblank⟩ := h.getLast?_callAfter
    have htrim : trimEnd (shape.call (t.visitName b)) = shape.call (t.visitName b) := by
      rw [call, ← List.append_assoc]
      exact trimEnd_append_of_getLast? hc hblank
    have hcall : shape.call? (shape.call (t.visitName b)) = some (t.visitName b) :=
      between?_eq_some_iff.2 rfl
    rw [found, List.map_singleton, htrim, List.filterMap_cons_some hcall]
    rfl
  · have hdeclaration :=
      eq_none_of_isPrefixOf (fun _ _ => isPrefixOf_of_declaration?) (h.declares_call (t.visitName b))
    exact List.filterMap_cons_none hdeclaration

/-- **Calls and declarations in a file** of a language with this shape. -/
theorem Fits.dispatch (h : shape.Fits listing language) {namespaceName : Option Text} {base : Text}
    {types : List NodeType} (hnamespace : ∀ name, namespaceName = some name → '\n' ∉ name)
    (hbase : base.IsBlankFree) (hne : types ≠ []) (htypes : ∀ t ∈ types, t.IsPlain) :
    ∃ contents, (Generator.hierarchy { language, namespaceName } base types).result =
        .ok contents ∧
      contents.lines.filterMap shape.call? = types.map (·.visitName base) ∧
      contents.lines.filter shape.declares = types.map fun t =>
        shape.declaration (t.visitName base) t.name (visitParameter base) := by
  obtain ⟨contents, d, hd, hcontents, hfound⟩ :=
    h.describes.exists_hierarchy hnamespace hbase hne htypes
  obtain ⟨hpreambleCall, hpreamble⟩ := found_eq_nil_of_notable (h.preamble d hd)
  obtain ⟨hbaseCall, hbaseLines⟩ := found_eq_nil_of_notable (h.base base)
  obtain ⟨hheadCall, hhead⟩ := found_eq_nil_of_notable h.visitorHead
  obtain ⟨htailCall, htail⟩ := found_eq_nil_of_notable h.visitorTail
  refine ⟨contents, hcontents, ?_, ?_⟩
  · -- calls: the methods have none, each node type has its own
    have hempty : shape.call? [] = none :=
      eq_none_of_start_ne_nil (fun _ _ => isPrefixOf_of_call?) h.ne_nil.1
    have hmethods : (types.flatMap fun t => found shape.call? (listing.method base t)) = [] :=
      List.flatMap_eq_nil_iff.2 fun t _ => (h.found_method base t).1
    have hnodes : (types.flatMap fun t => found shape.call? (listing.node base t)) =
        types.flatMap fun t => [t.visitName base] :=
      List.flatMap_congr fun t ht => (h.found_node base (htypes t ht)).1
    rw [hfound _ hempty, Listing.visitor, found_append, found_append, found_flatMap, hpreambleCall,
      hbaseCall, hheadCall, hmethods, htailCall, hnodes]
    exact List.flatMap_pure_eq_map _ _
  · -- declarations: each method is one, the node types have none
    have hempty : shape.declaration? [] = none :=
      eq_none_of_start_ne_nil (fun _ _ => isPrefixOf_of_declaration?) h.ne_nil.2
    have hmethods : (types.flatMap fun t => found shape.declaration? (listing.method base t)) =
        types.flatMap fun t => [shape.declaration (t.visitName base) t.name (visitParameter base)] :=
      List.flatMap_congr fun t _ => (h.found_method base t).2
    have hnodes : (types.flatMap fun t => found shape.declaration? (listing.node base t)) = [] :=
      List.flatMap_eq_nil_iff.2 fun t ht => (h.found_node base (htypes t ht)).2
    have hfilter : contents.lines.filter shape.declares =
        contents.lines.filterMap shape.declaration? := by
      rw [← List.filterMap_eq_filter]
      rfl
    rw [hfilter, hfound _ hempty, Listing.visitor, found_append, found_append, found_flatMap,
      hpreamble, hbaseLines, hhead, hmethods, htail, hnodes]
    simp only [List.nil_append, List.append_nil]
    exact List.flatMap_pure_eq_map _ _

end DispatchShape

/-! ## The languages at hand -/

/-- What goes on beyond a word and a blank is not the beginning of a name without blanks, whatever
follows the name. -/
theorem not_isPrefix_of_blank {word more name rest : Text} {c : Char} (hname : ' ' ∉ name)
    (hc : c ≠ ' ') (hword : c ∉ word) :
    (word ++ ' ' :: more).isPrefixOf (name ++ c :: rest) = false := by
  rw [← Bool.not_eq_true, List.isPrefixOf_iff_prefix]
  rintro ⟨after, h⟩
  rw [List.append_assoc, List.cons_append, List.append_eq_append_iff] at h
  rcases h with ⟨middle, rfl, h⟩ | ⟨middle, rfl, h⟩
  · -- the word ends inside the name, where no blank is
    cases middle with
    | nil => exact hc (List.cons.inj h).1.symm
    | cons d middle =>
      obtain rfl := (List.cons.inj h).1
      simp at hname
  · -- the name ends inside the word, and the character after it belongs to the word
    cases middle with
    | nil => exact hc (List.cons.inj h).1
    | cons d middle =>
      obtain rfl := (List.cons.inj h).1
      simp at hword

/-- A line that begins with a name without blanks is not notable if a call and a declaration have a
word and a blank in the place of the name. -/
theorem DispatchShape.notable_of_name {shape : DispatchShape} {indent name rest : Text} {c : Char}
    (word word' : Text) {more more' : Text} (hname : ' ' ∉ name) (hc : c ≠ ' ')
    (hcall : shape.callBefore = indent ++ (word ++ ' ' :: more)) (hword : c ∉ word)
    (hdeclaration : shape.declarationStart = indent ++ (word' ++ ' ' :: more')) (hword' : c ∉ word') :
    shape.notable [indent ++ (name ++ c :: rest)] = [] := by
  have hindent : ∀ {s t : Text}, s.isPrefixOf t = false →
      (indent ++ s).isPrefixOf (indent ++ t) = false := by
    intro s t h
    rw [← Bool.not_eq_true, List.isPrefixOf_iff_prefix, List.prefix_append_right_inj,
      ← List.isPrefixOf_iff_prefix, h]
    exact Bool.false_ne_true
  have hno : (shape.callBefore.isPrefixOf (indent ++ (name ++ c :: rest)) ||
      shape.declarationStart.isPrefixOf (indent ++ (name ++ c :: rest))) = false := by
    rw [hcall, hdeclaration, hindent (not_isPrefix_of_blank hname hc hword),
      hindent (not_isPrefix_of_blank hname hc hword')]
    rfl
  rw [notable, List.filter_cons_of_neg (Bool.not_eq_true _ ▸ hno)]
  rfl

namespace Language

open DispatchShape

/-- Calls and declarations in PHP. -/
def phpShape : DispatchShape where
  callBefore := "        return $visitor->".toList
  callAfter := "($this);".toList
  declarationStart := "    public function visit".toList
  declaration method type parameter :=
    ["    public function ".toList, method, ['('], type, " $".toList, parameter,
      ");".toList].flatten

/-- Calls and declarations in TypeScript. -/
def typeScriptShape : DispatchShape where
  callBefore := "    return visitor.".toList
  callAfter := "(this);".toList
  declarationStart := "  visit".toList
  declaration method type parameter :=
    ["  ".toList, method, ['('], parameter, ": ".toList, type, "): R;".toList].flatten

/-- Calls and declarations in Java. -/
def javaShape : DispatchShape where
  callBefore := "        return visitor.".toList
  callAfter := "(this);".toList
  declarationStart := "    R visit".toList
  declaration method type parameter :=
    ["    R ".toList, method, ['('], type, [' '], parameter, ");".toList].flatten

/-- Calls and declarations in Python. -/
def pythonShape : DispatchShape where
  callBefore := "        return visitor.".toList
  callAfter := "(self)".toList
  declarationStart := "    def visit".toList
  declaration method type parameter :=
    ["    def ".toList, method, "(self, ".toList, parameter, ": ".toList, type,
      ") -> R: ...".toList].flatten

theorem php_fits : phpShape.Fits phpListing php where
  describes := php_describes
  preamble d hd := by
    rcases hd with rfl | ⟨name, -, hd⟩
    · rfl
    · obtain rfl := Option.some.inj hd
      rfl
  base _ := rfl
  visitorHead := rfl
  method _ _ := rfl
  visitorTail := rfl
  node b t _ := by
    have hfields : phpShape.notable (listLines 8 t.fields (fun f => [
        ["        public readonly ".toList, f.type, " $".toList, f.name, [',']].flatten])) = [] :=
      notable_listLines rfl fun _ _ => rfl
    refine (notable_append _ _ _).trans ?_
    rw [notable_append, hfields]
    rfl
  call?_declaration _ _ := rfl
  declares_declaration _ _ := rfl
  declares_call _ := rfl
  getLast?_declaration _ _ _ := ⟨';', getLast?_flatten rfl rfl, rfl⟩
  getLast?_callAfter := ⟨';', rfl, rfl⟩
  ne_nil := ⟨List.cons_ne_nil _ _, List.cons_ne_nil _ _⟩

theorem typeScript_fits : typeScriptShape.Fits typeScriptListing typeScript where
  describes := typeScript_describes
  preamble _ _ := rfl
  base _ := rfl
  visitorHead := rfl
  method _ _ := rfl
  visitorTail := rfl
  node b t _ := by
    have hfields : typeScriptShape.notable (listLines 4 t.fields (fun f => [
        ["    readonly ".toList, f.name, ": ".toList, f.type, [',']].flatten])) = [] :=
      notable_listLines rfl fun _ _ => rfl
    refine (notable_append _ _ _).trans ?_
    rw [notable_append, hfields]
    rfl
  call?_declaration _ _ := rfl
  declares_declaration _ _ := rfl
  declares_call _ := rfl
  getLast?_declaration _ _ _ := ⟨';', getLast?_flatten rfl rfl, rfl⟩
  getLast?_callAfter := ⟨';', rfl, rfl⟩
  ne_nil := ⟨List.cons_ne_nil _ _, List.cons_ne_nil _ _⟩

theorem java_fits : javaShape.Fits javaListing java where
  describes := java_describes
  preamble d hd := by
    rcases hd with rfl | ⟨name, -, hd⟩
    · rfl
    · obtain rfl := Option.some.inj hd
      rfl
  base _ := rfl
  visitorHead := rfl
  method _ _ := rfl
  visitorTail := rfl
  node b t ht := by
    have hfields : javaShape.notable (listLines 4 t.fields (fun f => [
        ["    final ".toList, f.type, [' '], f.name, [';']].flatten])) = [] :=
      notable_listLines rfl fun _ _ => rfl
    have hinits : javaShape.notable (listLines 8 t.fields (fun f => [
        ["        this.".toList, f.name, " = ".toList, f.name, [';']].flatten])) = [] :=
      notable_listLines rfl fun _ _ => rfl
    have hname : ' ' ∉ t.name := ht.name.2.not_mem (by decide)
    -- the constructor of a node type `R` is set apart by the bracket, where a blank would stand
    have hconstructor : ∀ params : Text, javaShape.notable [[],
        ["    ".toList, t.name, ['('], params, ") \x7b".toList].flatten] = [] := fun _ =>
      notable_of_name [] ['R'] hname (by decide) rfl List.not_mem_nil rfl (by decide)
    refine (notable_append _ _ _).trans ?_
    rw [notable_append, hfields, notable_append, hconstructor, notable_append, hinits]
    rfl
  call?_declaration _ _ := rfl
  declares_declaration _ _ := rfl
  declares_call _ := rfl
  getLast?_declaration _ _ _ := ⟨';', getLast?_flatten rfl rfl, rfl⟩
  getLast?_callAfter := ⟨';', rfl, rfl⟩
  ne_nil := ⟨List.cons_ne_nil _ _, List.cons_ne_nil _ _⟩

theorem python_fits : pythonShape.Fits pythonListing python where
  describes := python_describes
  preamble _ _ := rfl
  base _ := rfl
  visitorHead := rfl
  method _ _ := rfl
  visitorTail := rfl
  node b t ht := by
    have hfields : pythonShape.notable (listLines 4 t.fields (fun f => [
        ["    ".toList, f.name, ": ".toList, f.type].flatten])) = [] := by
      refine notable_listLines rfl fun f hf => ?_
      -- a field `def` is set apart by the colon after it
      have hname : ' ' ∉ f.name := (ht.fields f hf).2.2.not_mem (by decide)
      exact notable_of_name [] "def".toList hname (by decide) rfl List.not_mem_nil rfl (by decide)
    refine (notable_append _ _ _).trans ?_
    rw [notable_append, hfields]
    rfl
  call?_declaration _ _ := rfl
  declares_declaration _ _ := rfl
  declares_call _ := rfl
  getLast?_declaration _ _ _ := ⟨'.', getLast?_flatten rfl rfl, rfl⟩
  getLast?_callAfter := ⟨')', rfl, rfl⟩
  ne_nil := ⟨List.cons_ne_nil _ _, List.cons_ne_nil _ _⟩

end Language

/-- The languages at hand, with their calls and declarations. -/
def dispatchShapes : List (Language × DispatchShape) :=
  [(Language.php, Language.phpShape), (Language.typeScript, Language.typeScriptShape),
    (Language.java, Language.javaShape), (Language.python, Language.pythonShape)]

theorem exists_listing_of_mem_dispatchShapes {language : Language} {shape : DispatchShape}
    (h : (language, shape) ∈ dispatchShapes) : ∃ listing, shape.Fits listing language := by
  simp only [dispatchShapes, List.mem_cons, List.not_mem_nil, or_false, Prod.mk.injEq] at h
  rcases h with ⟨rfl, rfl⟩ | ⟨rfl, rfl⟩ | ⟨rfl, rfl⟩ | ⟨rfl, rfl⟩
  · exact ⟨_, Language.php_fits⟩
  · exact ⟨_, Language.typeScript_fits⟩
  · exact ⟨_, Language.java_fits⟩
  · exact ⟨_, Language.python_fits⟩

/-- **Dispatch is consistent** in all the languages at hand. Where the names have no blanks there is
a file, its calls call the methods for the node types one by one in their order, and the lines that
begin like a declaration are the declarations of these methods in the same order. -/
theorem dispatch_consistent : dispatchShapes.map Prod.fst = Language.builtIn ∧
    ∀ (language : Language) (shape : DispatchShape), (language, shape) ∈ dispatchShapes →
    ∀ (namespaceName : Option Text) (base : Text) (types : List NodeType),
    (∀ name, namespaceName = some name → '\n' ∉ name) → base.IsBlankFree → types ≠ [] →
    (∀ t ∈ types, t.IsPlain) →
    ∃ contents, (Generator.hierarchy { language, namespaceName } base types).result =
        .ok contents ∧
      contents.lines.filterMap shape.call? = types.map (·.visitName base) ∧
      contents.lines.filter shape.declares = types.map fun t =>
        shape.declaration (t.visitName base) t.name (visitParameter base) := by
  refine ⟨rfl, ?_⟩
  intro language shape hmem namespaceName base types hnamespace hbase hne htypes
  obtain ⟨listing, hfits⟩ := exists_listing_of_mem_dispatchShapes hmem
  exact hfits.dispatch hnamespace hbase hne htypes

/-- Names that come close to a declaration in Java: a constructor called `R`, and a field that is
spelled like a call. -/
def closeCalls : List NodeType :=
  [⟨"R".toList, [⟨"return".toList, "visitor.m(this);".toList⟩]⟩, ⟨"visit".toList, []⟩]

theorem dispatch_consistent_closeCalls :
    ∃ contents, (Generator.hierarchy
        { language := .java, namespaceName := some "a; R visit".toList } "E".toList
        closeCalls).result = .ok contents ∧
      contents.lines.filterMap Language.javaShape.call? =
        ["visitRE".toList, "visitvisitE".toList] ∧
      contents.lines.filter Language.javaShape.declares =
        ["    R visitRE(R e);".toList, "    R visitvisitE(visit e);".toList] :=
  dispatch_consistent.2 .java Language.javaShape (by simp [dispatchShapes])
    (some "a; R visit".toList) "E".toList closeCalls
    (by rintro name ⟨⟩; decide) (by decide) (by decide) (by decide)

end AstHierarchy
