import AstHierarchy.Hierarchy.Generator
import AstHierarchy.Proofs.Template.Bodies
import AstHierarchy.Proofs.Text.Words

/-!
# Line endings of a template

A template says the same whether its lines end in line feeds or in a carriage return before each of
them, and the two kinds of endings can be mixed. Three readers have to agree on this. Markers are
looked for in trimmed lines. The body of a section loses its line breaks at both ends, and keeps
the ones inside as they are. And a span is read from the lines of a body.

So it is enough to know the lines of a body (`lines_sectionBody`): they are the lines between the
markers without carriage returns at their ends, and without the empty ones that come first or last.

* `readBodies_map_dropReturn`: dividing a text into sections finds the same markers without the
  carriage returns, and bodies that have the same lines.
* `hierarchy_addReturns` is the main result.
-/

namespace AstHierarchy

open Text

/-! ## Carriage returns before line feeds -/

namespace Text

/-- The text with a carriage return put in before the line feeds that stand at chosen places. -/
def addReturns (chosen : Nat → Bool) : Text → Text
  | [] => []
  | c :: rest =>
    (if c = '\n' ∧ chosen 0 then ['\r', '\n'] else [c]) ++ addReturns (fun i => chosen (i + 1)) rest

/-- There is no line break in the line, apart from a carriage return that may end it. -/
def IsBreakFree (l : Text) : Prop := ∀ c ∈ dropReturn l, isLineBreak c = false

theorem IsBreakFree.newline_not_mem {l : Text} (h : IsBreakFree l) : '\n' ∉ l := by
  have hkept : '\n' ∉ dropReturn l := fun hmem => by
    have hbreak := h _ hmem
    cases hbreak
  rcases eq_dropReturn_or l with hl | hl
  · rwa [hl]
  · rw [hl, List.mem_append, not_or]
    exact ⟨hkept, by decide⟩

theorem dropReturn_cons_of_ne {c : Char} (h : c ≠ '\r') (l : Text) :
    dropReturn (c :: l) = c :: dropReturn l := by
  cases l with
  | nil => exact dropReturn_of_return_not_mem (by simpa using h.symm)
  | cons d rest =>
    rw [dropReturn]
    intro _ hnil
    cases hnil

theorem IsBreakFree.dropReturn_dropReturn {l : Text} (h : IsBreakFree l) :
    dropReturn (dropReturn l) = dropReturn l := by
  refine dropReturn_of_return_not_mem fun hmem => ?_
  have hbreak := h _ hmem
  cases hbreak

theorem IsBreakFree.dropReturn {l : Text} (h : IsBreakFree l) : IsBreakFree (dropReturn l) := by
  intro c hc
  rw [h.dropReturn_dropReturn] at hc
  exact h c hc

/-- **Without the carriage returns** that have been put in, the lines are those of the text. -/
theorem map_dropReturn_splitOn_addReturns {t : Text} (h : '\r' ∉ t) (chosen : Nat → Bool) :
    ((addReturns chosen t).splitOn '\n').map dropReturn = t.splitOn '\n' := by
  induction t generalizing chosen with
  | nil => rfl
  | cons c rest ih =>
    rw [List.mem_cons, not_or] at h
    have hrest := ih h.2 fun i => chosen (i + 1)
    rw [addReturns]
    by_cases hc : c = '\n'
    · subst hc
      have hfeed : ∀ u : Text, ('\n' :: u).splitOn '\n' = [] :: u.splitOn '\n' := fun u =>
        List.splitOn_append_cons_self [] u
      have hreturn : ∀ u : Text, ('\r' :: '\n' :: u).splitOn '\n' = ['\r'] :: u.splitOn '\n' :=
        fun u => List.splitOn_append_cons_self ['\r'] u
      rw [hfeed, ← hrest]
      split
      · show (('\r' :: '\n' :: addReturns _ rest).splitOn '\n').map dropReturn = _
        rw [hreturn]
        rfl
      · show (('\n' :: addReturns _ rest).splitOn '\n').map dropReturn = _
        rw [hfeed]
        rfl
    · have hne : (c == '\n') = false := beq_false_of_ne hc
      rw [if_neg fun hboth => hc hboth.1, List.singleton_append, List.splitOn_cons_eq_if_modifyHead,
        List.splitOn_cons_eq_if_modifyHead, hne, ← hrest]
      cases (addReturns (fun i => chosen (i + 1)) rest).splitOn '\n' with
      | nil => rfl
      | cons p ps =>
        exact congrArg (· :: ps.map dropReturn) (dropReturn_cons_of_ne (Ne.symm h.1) p)

/-! ## The lines of a body -/

/-- What a line ending is made of. -/
theorem exists_eq_dropReturn_append (l : Text) :
    ∃ ending : Text, l ++ ['\n'] = dropReturn l ++ ending ∧ ∀ c ∈ ending, isLineBreak c := by
  rcases eq_dropReturn_or l with h | h
  · exact ⟨['\n'], by rw [← h], List.forall_mem_singleton.2 rfl⟩
  · refine ⟨['\r', '\n'], ?_, List.forall_mem_cons.2 ⟨rfl, List.forall_mem_singleton.2 rfl⟩⟩
    conv_lhs => rw [h]
    simp

/-- Line breaks at the end of a text go with its empty last lines. -/
theorem lines_stripEnd_unlines {ls : List Text} (h : ∀ l ∈ ls, IsBreakFree l) :
    lines (stripEnd isLineBreak (unlines ls)) =
      (ls.map dropReturn).rdropWhile List.isEmpty := by
  induction ls using List.reverseRecOn with
  | nil => rfl
  | append_singleton ls l ih =>
    obtain ⟨hls, hl⟩ := List.forall_mem_append.1 h
    have hl : IsBreakFree l := hl l List.mem_cons_self
    obtain ⟨ending, hending, hbreaks⟩ := exists_eq_dropReturn_append l
    have hunlines : unlines (ls ++ [l]) = unlines ls ++ dropReturn l ++ ending := by
      rw [List.append_assoc, ← hending, unlines_append]
      simp
    rw [List.map_append, List.map_singleton, hunlines, stripEnd_append_of_forall hbreaks]
    by_cases hempty : dropReturn l = []
    · rw [hempty, List.append_nil, ih hls, List.rdropWhile_concat_pos _ _ _ rfl]
    · -- the line ends in a character that is no line break
      have hlast := List.getLast?_eq_some_getLast hempty
      have hnobreak := hl _ (List.getLast_mem hempty)
      have hwhole : (unlines ls ++ dropReturn l).getLast? = some ((dropReturn l).getLast hempty) := by
        rw [List.getLast?_append, hlast]
        rfl
      have hstrip := stripEnd_append_of_getLast? hwhole hnobreak (List.forall_mem_nil _)
      rw [List.append_nil] at hstrip
      rw [hstrip, lines_unlines_append fun m hm => (hls m hm).newline_not_mem,
        lines_of_newline_not_mem hl.dropReturn.newline_not_mem hempty, List.rdropWhile_concat_neg]
      rwa [List.isEmpty_iff]

/-- Line breaks at the beginning of a text go with its empty first lines. -/
theorem dropWhile_isLineBreak_unlines {ls : List Text} (h : ∀ l ∈ ls, IsBreakFree l) :
    (unlines ls).dropWhile isLineBreak =
      unlines (ls.dropWhile fun l => (dropReturn l).isEmpty) := by
  induction ls with
  | nil => rfl
  | cons l rest ih =>
    have hrest := ih fun m hm => h m (List.mem_cons_of_mem l hm)
    obtain ⟨ending, hending, hbreaks⟩ := exists_eq_dropReturn_append l
    have hunlines : unlines (l :: rest) = dropReturn l ++ ending ++ unlines rest := by
      rw [← hending, unlines_cons, List.append_assoc]
      rfl
    rw [hunlines]
    cases hkept : dropReturn l with
    | nil =>
      rw [List.dropWhile_cons_of_pos (by rw [hkept]; rfl), List.nil_append,
        List.dropWhile_append_of_pos hbreaks, hrest]
    | cons c more =>
      have hnobreak : isLineBreak c = false := h l List.mem_cons_self c (by rw [hkept]; simp)
      rw [List.dropWhile_cons_of_neg (by rw [hkept]; simp), hunlines, hkept, List.cons_append,
        List.cons_append, List.dropWhile_cons_of_neg (by simp [hnobreak])]

end Text

/-- **The lines of a body** are those between its markers, without carriage returns at their ends
and without empty lines at the beginning and at the end. -/
theorem lines_sectionBody {ls : List Text} (h : ∀ l ∈ ls, IsBreakFree l) :
    lines (sectionBody ls) =
      ((ls.map dropReturn).dropWhile List.isEmpty).rdropWhile List.isEmpty := by
  have hdrop : (ls.map dropReturn).dropWhile List.isEmpty =
      (ls.dropWhile fun l => (dropReturn l).isEmpty).map dropReturn := List.dropWhile_map
  rw [sectionBody_eq, strip, dropWhile_isLineBreak_unlines h, hdrop]
  exact lines_stripEnd_unlines fun l hl => h l ((List.dropWhile_sublist _).subset hl)

theorem lines_sectionBody_map_dropReturn {ls : List Text} (h : ∀ l ∈ ls, IsBreakFree l) :
    lines (sectionBody (ls.map dropReturn)) = lines (sectionBody ls) := by
  have hmap : (ls.map dropReturn).map dropReturn = ls.map dropReturn := by
    rw [List.map_map]
    exact List.map_congr_left fun l hl => (h l hl).dropReturn_dropReturn
  rw [lines_sectionBody h, lines_sectionBody, hmap]
  intro l hl
  obtain ⟨m, hm, rfl⟩ := List.mem_map.1 hl
  exact (h m hm).dropReturn

/-! ## Dividing into sections -/

theorem Marker.ofLine?_dropReturn (l : Text) :
    Marker.ofLine? (dropReturn l) = Marker.ofLine? l := by
  rw [Marker.ofLine?, Marker.ofLine?, trim_dropReturn]

theorem markersIn_map_dropReturn (ls : List Text) :
    markersIn (ls.map dropReturn) = markersIn ls := by
  unfold markersIn
  rw [List.filterMap_map]
  exact List.filterMap_congr fun l _ => Marker.ofLine?_dropReturn l

/-- The pairs of markers stay where they are. -/
theorem Divides.map_dropReturn {ls : List Text} {ps : List (Section × List Text)}
    (h : Divides ls ps) :
    Divides (ls.map dropReturn) (ps.map (Prod.map id (List.map dropReturn))) := by
  have hmarker := Marker.ofLine?_dropReturn
  have hnone : ∀ {gap : List Text}, (∀ l ∈ gap, Marker.ofLine? l = none) →
      ∀ l ∈ gap.map dropReturn, Marker.ofLine? l = none := by
    intro gap hgap l hl
    obtain ⟨m, hm, rfl⟩ := List.mem_map.1 hl
    rw [hmarker, hgap m hm]
  induction h with
  | outside h => exact .outside (hnone h)
  | pair hgap hopening hinner hclosing _ ih =>
    rw [List.map_append, List.map_cons, List.map_append, List.map_cons]
    rw [← hmarker] at hopening hclosing
    exact .pair (hnone hgap) hopening (hnone hinner) hclosing ih

/-- The lines of a section are lines of the text. -/
theorem Divides.mem_of_mem {ls : List Text} {ps : List (Section × List Text)} (h : Divides ls ps)
    {p : Section × List Text} (hp : p ∈ ps) {l : Text} (hl : l ∈ p.2) : l ∈ ls := by
  obtain ⟨front, back, rfl⟩ := List.append_of_mem hp
  obtain ⟨before, opening, closing, after, rfl, -⟩ := h.exists_of_append_cons
  simp [hl]

/-- The lines of each body. -/
def bodyLines (bodies : List (Section × Text)) : List (Section × List Text) :=
  bodies.map (Prod.map id lines)

/-- **Dividing into sections** goes the same way without the carriage returns, and finds bodies with
the same lines. -/
theorem readBodies_map_dropReturn {ls : List Text} (h : ∀ l ∈ ls, IsBreakFree l) :
    (readBodies none (ls.map dropReturn)).map bodyLines = (readBodies none ls).map bodyLines := by
  rcases paired_or_breaks (markersIn ls) with hpaired | ⟨e, he⟩
  · obtain ⟨ps, hps⟩ := exists_divides hpaired
    rw [hps.readBodies_eq, hps.map_dropReturn.readBodies_eq, map_ok, map_ok]
    refine congrArg Except.ok ?_
    unfold bodyLines
    rw [List.map_map, List.map_map, List.map_map]
    refine List.map_congr_left fun p hp => ?_
    exact congrArg (p.1, ·) (lines_sectionBody_map_dropReturn fun l hl => h l (hps.mem_of_mem hp hl))
  · have he' : Breaks (markersIn (ls.map dropReturn)) e := by rwa [markersIn_map_dropReturn]
    rw [readBodies_of_breaks he, readBodies_of_breaks he']

theorem lookup_map_snd {α β : Type} (f : α → β) (xs : List (Section × α)) (s : Section) :
    (xs.map (Prod.map id f)).lookup s = (xs.lookup s).map f := by
  induction xs with
  | nil => rfl
  | cons x rest ih =>
    rw [List.map_cons, Prod.map_apply, id_eq, List.lookup_cons, List.lookup_cons, ih]
    cases s == x.1 <;> rfl

/-- The span of a section depends on the lines of its body only. -/
theorem Template.readSection_eq_of_bodyLines_eq {bodies bodies' : List (Section × Text)}
    (h : bodyLines bodies' = bodyLines bodies) : readSection bodies' = readSection bodies := by
  funext s
  have hlast : ∀ bs, (lastBody? bs s).map lines = (bodyLines bs).reverse.lookup s := by
    intro bs
    rw [lastBody?, ← lookup_map_snd, List.map_reverse]
    rfl
  have hlines : (lastBody? bodies' s).map lines = (lastBody? bodies s).map lines := by
    rw [hlast, hlast, h]
  unfold readSection
  cases hbody : lastBody? bodies s with
  | none =>
    rw [hbody, Option.map_none, Option.map_eq_none_iff] at hlines
    rw [hlines]
  | some body =>
    rw [hbody, Option.map_some, Option.map_eq_some_iff] at hlines
    obtain ⟨body', hbody', hsame⟩ := hlines
    rw [hbody']
    show Span.read body' = Span.read body
    rw [Span.read, Span.read, hsame]

/-- Two texts that are divided alike, into bodies with the same lines, describe the same template. -/
theorem Template.read_eq_of_map_bodyLines {source source' : Text}
    (h : (bodiesOf source').map bodyLines = (bodiesOf source).map bodyLines) :
    Template.read source' = Template.read source := by
  unfold Template.read
  cases hbodies : bodiesOf source with
  | error e =>
    rw [hbodies, map_error, map_eq_error_iff] at h
    rw [h]
  | ok bodies =>
    rw [hbodies, map_ok, map_eq_ok_iff] at h
    obtain ⟨bodies', hbodies', hlines⟩ := h
    rw [hbodies', ok_bind, ok_bind, readSection_eq_of_bodyLines_eq hlines]

/-- **The line endings of a template make no difference.** Carriage returns that are put in before
some of its line feeds change neither the template that it describes nor what is reported about it,
and hence no hierarchy in a language with this template. -/
theorem hierarchy_addReturns {source : Text} (h : '\r' ∉ source) (chosen : Nat → Bool) :
    Template.read (addReturns chosen source) = Template.read source ∧
    ∀ (g : Generator) (base : Text) (types : List NodeType),
      { g with language := { g.language with template := addReturns chosen source } }.hierarchy
          base types =
        { g with language := { g.language with template := source } }.hierarchy base types := by
  have hread : Template.read (addReturns chosen source) = Template.read source := by
    have hpieces := map_dropReturn_splitOn_addReturns h chosen
    have hfree : ∀ l ∈ (addReturns chosen source).splitOn '\n', IsBreakFree l := by
      intro l hl c hc
      have hpiece : dropReturn l ∈ source.splitOn '\n' := hpieces ▸ List.mem_map_of_mem hl
      have hfeed : c ≠ '\n' := fun heq => not_mem_of_mem_splitOn hpiece (heq ▸ hc)
      have hreturn : c ≠ '\r' := fun heq => h (mem_of_mem_splitOn hpiece (heq ▸ hc))
      simp [isLineBreak, hfeed, hreturn]
    refine Template.read_eq_of_map_bodyLines ?_
    unfold bodiesOf
    rw [← readBodies_map_dropReturn hfree, hpieces]
  refine ⟨hread, fun g base types => ?_⟩
  unfold Generator.hierarchy
  simp only [hread]
  rfl

/-- A template whose base type has empty lines around it and inside, and this body for nodes. -/
def openTemplate (node : Text) : Text :=
  "#base\n\n\n%base%\n\n  x\n \n\n#end/base\n#visitor\nV\n#end/visitor\n".toList ++
    "#visit_method\nM\n#end/visit_method\n#node\n".toList ++ node ++ "\n#end/node\n".toList

/-- About half of the places. -/
def evenPlaces (i : Nat) : Bool := i % 2 == 0

theorem hierarchy_addReturns_openTemplate :
    '\r' ∉ openTemplate ['N'] ∧ addReturns evenPlaces (openTemplate ['N']) ≠ openTemplate ['N'] ∧
    Template.read (addReturns evenPlaces (openTemplate ['N'])) =
      .ok ⟨[], [.reference "base".toList {}, .lineBreak, .lineBreak, .indentation 2,
        .verbatim ['x'], .lineBreak, .indentation 1], [.verbatim ['V']], [.verbatim ['M']],
        [.verbatim ['N']], [], [], []⟩ ∧
    Template.read (addReturns evenPlaces (openTemplate "n\n%n".toList)) =
      .error (.unterminatedVariable "%n".toList) := by
  have hplain : '\r' ∉ openTemplate ['N'] := by decide +kernel
  have hfaulty : '\r' ∉ openTemplate "n\n%n".toList := by decide +kernel
  refine ⟨hplain, by decide +kernel, ?_, ?_⟩
  · rw [(hierarchy_addReturns hplain evenPlaces).1]
    decide +kernel
  · rw [(hierarchy_addReturns hfaulty evenPlaces).1]
    decide +kernel

end AstHierarchy
