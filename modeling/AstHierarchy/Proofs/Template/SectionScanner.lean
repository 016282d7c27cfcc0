import AstHierarchy.Proofs.Template.Bodies
import AstHierarchy.Proofs.Template.LineScanner

/-!
# The section scanner

A section scanner adds up the bytes of the lines that it has read, keeps the sum at which a section
began, and cuts the body of the section out of the text between two such sums.
`SectionScanner.Stands` says of which texts these sums are the sizes. Reading a line keeps it or
reports what reading the line reports (`SectionScanner.Stands.step`), so that the sums are always
offsets of lines (`SectionScanner.inPlace_of_foldlM`), and the scanner finds the bodies of the text
(`scanBodies_eq`).

* `scanners_stay_in_place` is the main result, for lines and sections together, and
  `scanners_overflow_deepReference` shows the one way to halt that it leaves.
-/

namespace AstHierarchy

open Text

/-! ## Lines with their endings -/

namespace Text

/-- The line with its ending is the piece between two line feeds with the line feed after it. Only
at the end of the text is there none, and then the piece is not empty. -/
def IsRawLine (raw piece : Text) (after : List Text) : Prop :=
  raw = piece ++ ['\n'] ∨ (raw = piece ∧ piece ≠ [] ∧ after = [])

theorem IsRawLine.ne_nil {raw piece : Text} {after : List Text} (h : IsRawLine raw piece after) :
    raw ≠ [] := by
  rcases h with rfl | ⟨rfl, hne, -⟩
  · simp
  · exact hne

/-- Nothing is lost between the lines. -/
theorem flatten_rawLinesOfPieces (ps : List Text) :
    (rawLinesOfPieces ps).flatten = ['\n'].intercalate ps := by
  fun_induction rawLinesOfPieces ps with
  | case1 => rfl
  | case2 last h => simp [List.isEmpty_iff.1 h]
  | case3 last h => simp
  | case4 piece rest hrest ih =>
    have hne : rest ≠ [] := fun hnil => hrest hnil
    rw [List.flatten_cons, ih, List.intercalate_cons_of_ne_nil hne]

theorem flatten_rawLines (t : Text) : (rawLines t).flatten = t := by
  rw [rawLines, flatten_rawLinesOfPieces, List.intercalate_splitOn]

/-- The first line, and the lines after it. -/
theorem exists_of_rawLinesOfPieces_eq_cons {ps after : List Text} {raw : Text}
    (h : rawLinesOfPieces ps = raw :: after) :
    ∃ piece rest, ps = piece :: rest ∧ after = rawLinesOfPieces rest ∧
      IsRawLine raw piece after := by
  fun_cases rawLinesOfPieces ps with
  | case1 => cases h
  | case2 last hempty =>
    rw [rawLinesOfPieces, if_pos hempty] at h
    cases h
  | case3 last hne =>
    rw [rawLinesOfPieces, if_neg hne] at h
    obtain ⟨rfl, rfl⟩ := List.cons.inj h
    exact ⟨last, [], rfl, rfl, Or.inr ⟨rfl, fun hnil => hne (List.isEmpty_iff.2 hnil), rfl⟩⟩
  | case4 piece rest hrest =>
    rw [rawLinesOfPieces] at h
    · obtain ⟨rfl, rfl⟩ := List.cons.inj h
      exact ⟨piece, rest, rfl, rfl, Or.inl rfl⟩
    · exact hrest

end Text

theorem ofLine?_append_newline (piece : Text) :
    Marker.ofLine? (piece ++ ['\n']) = Marker.ofLine? piece := by
  rw [Marker.ofLine?, trim, strip_append_singleton rfl]
  rfl

theorem ofLine?_of_isRawLine {raw piece : Text} {after : List Text}
    (h : IsRawLine raw piece after) : Marker.ofLine? raw = Marker.ofLine? piece := by
  rcases h with rfl | ⟨rfl, -, -⟩
  · exact ofLine?_append_newline piece
  · rfl

/-! ## Where the scanner stands -/

namespace SectionScanner

/-- No section is open, and `before` has been read. -/
structure Outside (source before rest : Text) (s : SectionScanner) : Prop where
  inside_eq : s.inside = none
  source_eq : source = before ++ rest
  current_eq : s.current = before.utf8Size

/-- The section is open, and `between` is what has been read of it. The lines of it are these,
latest first; only the last line of the text need not be ended. -/
structure InSection (source before between rest : Text) (opened : Section) (lines : List Text)
    (s : SectionScanner) : Prop where
  inside_eq : s.inside = some opened
  source_eq : source = before ++ (between ++ rest)
  current_eq : s.current = (before ++ between).utf8Size
  start_eq : s.start = before.utf8Size
  between_eq : rest = [] ∨ between = unlines lines.reverse

/-- The scanner has read the text up to `rest`, and its sums are the sizes of what it has read. What
reading the lines carries on with is the section that is open and its lines. -/
inductive Stands (source rest : Text) : Option (Section × List Text) → SectionScanner → Prop where
  | outside {before : Text} {s : SectionScanner} (h : Outside source before rest s) :
    Stands source rest none s
  | inside {before between : Text} {opened : Section} {lines : List Text} {s : SectionScanner}
    (h : InSection source before between rest opened lines s) :
    Stands source rest (some (opened, lines)) s

variable {source rest : Text} {carried : Option (Section × List Text)} {s : SectionScanner}

theorem stands_start (source : Text) : Stands source source none {} :=
  .outside ⟨rfl, (List.nil_append source).symm, rfl⟩

/-- The body of the section that ends is there to be cut out. -/
theorem InSection.slice?_eq {before between : Text} {opened : Section} {lines : List Text}
    (h : InSection source before between rest opened lines s) :
    slice? source s.start s.current = some between := by
  rw [h.source_eq, h.current_eq, h.start_eq]
  exact slice?_append before between rest

/-! ### The next line -/

/-- Reading a line leads on with the same bodies as reading its piece, or the same is reported. -/
def Proceeds (source : Text) (s : SectionScanner) (carried : Option (Section × List Text))
    (raw piece : Text) (after : List Text) : Prop :=
  (∃ s' carried', step source s raw = .ok s' ∧ Stands source after.flatten carried' s' ∧
    ∀ ps, (readBodies carried (piece :: ps)).map (s.bodies ++ ·) =
      (readBodies carried' ps).map (s'.bodies ++ ·)) ∨
  ∃ e, step source s raw = .error (.fault e) ∧ ∀ ps, readBodies carried (piece :: ps) = .error e

/-- A line outside sections. -/
theorem Outside.line_next {before raw : Text} (h : Outside source before (raw ++ rest) s) :
    Outside source (before ++ raw) rest { s with current := s.current + raw.utf8Size } where
  inside_eq := h.inside_eq
  source_eq := by rw [h.source_eq, List.append_assoc]
  current_eq := by rw [utf8Size_append, h.current_eq]

/-- A line that opens a section. -/
theorem Outside.section_next {before raw : Text} (h : Outside source before (raw ++ rest) s)
    (opened : Section) : InSection source (before ++ raw) [] rest opened []
      { s with current := s.current + raw.utf8Size, start := s.current + raw.utf8Size,
               inside := some opened } where
  inside_eq := rfl
  source_eq := h.line_next.source_eq
  current_eq := by rw [List.append_nil, ← h.line_next.current_eq]
  start_eq := h.line_next.current_eq
  between_eq := Or.inr rfl

theorem InSection.between_eq_unlines {before between raw piece : Text} {after lines : List Text}
    {opened : Section}
    (h : InSection source before between (raw ++ after.flatten) opened lines s)
    (hraw : IsRawLine raw piece after) : between = unlines lines.reverse := by
  rcases h.between_eq with hnil | hbetween
  · exact absurd (List.append_eq_nil_iff.1 hnil).1 hraw.ne_nil
  · exact hbetween

/-- A line of a section. -/
theorem InSection.line_next {before between raw piece : Text} {after lines : List Text}
    {opened : Section}
    (h : InSection source before between (raw ++ after.flatten) opened lines s)
    (hraw : IsRawLine raw piece after) :
    InSection source before (between ++ raw) after.flatten opened (piece :: lines)
      { s with current := s.current + raw.utf8Size } where
  inside_eq := h.inside_eq
  source_eq := by rw [h.source_eq, List.append_assoc]
  current_eq := by rw [← List.append_assoc, utf8Size_append, h.current_eq]
  start_eq := h.start_eq
  between_eq := by
    have hbetween := h.between_eq_unlines hraw
    rcases hraw with rfl | ⟨-, -, rfl⟩
    · rw [hbetween, List.reverse_cons, unlines_append, unlines_cons, unlines_nil]
      exact Or.inr rfl
    · exact Or.inl rfl

/-- A line that ends the section. -/
theorem InSection.outside_next {before between raw : Text} {lines : List Text} {opened : Section}
    (h : InSection source before between (raw ++ rest) opened lines s)
    (bodies : List (Section × Text)) :
    Outside source (before ++ between ++ raw) rest
      { s with current := s.current + raw.utf8Size, inside := none, bodies } where
  inside_eq := rfl
  source_eq := by simp [h.source_eq]
  current_eq := by rw [utf8Size_append, h.current_eq]

theorem Outside.proceeds {before raw piece : Text} {after : List Text}
    (h : Outside source before (raw ++ after.flatten) s) (hraw : IsRawLine raw piece after) :
    Proceeds source s none raw piece after := by
  have hmarker := ofLine?_of_isRawLine hraw
  cases hm : Marker.ofLine? piece with
  | none =>
    refine Or.inl ⟨_, none, ?_, .outside h.line_next, fun ps => ?_⟩
    · simp only [step, hmarker, hm]
    · rw [readBodies, hm]
  | some m =>
    cases m with
    | opening name =>
      cases hname : Section.ofName? name with
      | none =>
        refine Or.inr ⟨.unknownSection name, ?_, fun ps => ?_⟩
        · simp only [step, hmarker, hm, h.inside_eq, hname]
        · rw [readBodies, hm]
          simp only [hname]
      | some opened =>
        refine Or.inl ⟨_, some (opened, []), ?_, .inside (h.section_next opened), fun ps => ?_⟩
        · simp only [step, hmarker, hm, h.inside_eq, hname]
        · rw [readBodies, hm]
          simp only [hname]
    | closing name =>
      refine Or.inr ⟨.straySectionEnd name, ?_, fun ps => ?_⟩
      · simp only [step, hmarker, hm, h.inside_eq]
      · rw [readBodies, hm]

theorem InSection.proceeds {before between raw piece : Text} {after lines : List Text}
    {opened : Section}
    (h : InSection source before between (raw ++ after.flatten) opened lines s)
    (hraw : IsRawLine raw piece after) :
    Proceeds source s (some (opened, lines)) raw piece after := by
  have hmarker := ofLine?_of_isRawLine hraw
  cases hm : Marker.ofLine? piece with
  | none =>
    refine Or.inl ⟨_, some (opened, piece :: lines), ?_, .inside (h.line_next hraw), fun ps => ?_⟩
    · simp only [step, hmarker, hm]
    · rw [readBodies, hm]
  | some m =>
    cases m with
    | opening name =>
      refine Or.inr ⟨.nestedSection opened name, ?_, fun ps => ?_⟩
      · simp only [step, hmarker, hm, h.inside_eq]
      · rw [readBodies, hm]
    | closing name =>
      by_cases hname : name = opened.name
      · have hnext := h.outside_next (s.bodies ++ [(opened, strip isLineBreak between)])
        refine Or.inl ⟨_, none, ?_, .outside hnext, fun ps => ?_⟩
        · simp only [step, hmarker, hm, h.inside_eq, if_pos hname, h.slice?_eq]
          rfl
        · rw [readBodies, hm, h.between_eq_unlines hraw, ← sectionBody_eq]
          simp only [if_pos hname]
          cases readBodies none ps with
          | error e => rfl
          | ok bodies => simp
      · refine Or.inr ⟨.straySectionEnd name, ?_, fun ps => ?_⟩
        · simp only [step, hmarker, hm, h.inside_eq, if_neg hname]
        · rw [readBodies, hm]
          simp only [if_neg hname]

/-- **Reading a line keeps everything in place.** -/
theorem Stands.step {raw piece : Text} {after : List Text}
    (h : Stands source (raw :: after).flatten carried s) (hraw : IsRawLine raw piece after) :
    Proceeds source s carried raw piece after := by
  rw [List.flatten_cons] at h
  cases h with
  | outside h => exact h.proceeds hraw
  | inside h => exact h.proceeds hraw

/-- What has been read, and where in it the section began that is open. -/
theorem Stands.exists_source_eq (h : Stands source rest carried s) :
    ∃ passed, source = passed ++ rest ∧ s.current = passed.utf8Size ∧
      ∀ opened, s.inside = some opened → s.start ≤ s.current ∧ source.IsBoundary s.start := by
  cases h with
  | @outside before _ h =>
    refine ⟨before, h.source_eq, h.current_eq, fun opened hopened => ?_⟩
    cases h.inside_eq.symm.trans hopened
  | @inside before between _ _ _ h =>
    refine ⟨before ++ between, by rw [h.source_eq, List.append_assoc], h.current_eq,
      fun opened _ => ⟨?_, before, between ++ rest, h.source_eq, h.start_eq.symm⟩⟩
    rw [h.current_eq, h.start_eq, utf8Size_append]
    exact Nat.le_add_right _ _

/-! ## Whole texts -/

theorem Stands.finish_eq (h : Stands source rest carried s) :
    finish s = ((readBodies carried []).map (s.bodies ++ ·)).mapError .fault := by
  cases h with
  | outside h =>
    simp only [finish, h.inside_eq, readBodies, map_ok, List.append_nil]
    rfl
  | inside h =>
    simp only [finish, h.inside_eq, readBodies]
    rfl

/-- A text without lines is read like no piece at all. -/
theorem readBodies_of_rawLinesOfPieces_eq_nil {ps : List Text} (h : rawLinesOfPieces ps = [])
    (carried : Option (Section × List Text)) : readBodies carried ps = readBodies carried [] := by
  fun_cases rawLinesOfPieces ps with
  | case1 => rfl
  | case2 last hempty =>
    rw [List.isEmpty_iff.1 hempty]
    cases carried <;> rfl
  | case3 last hne =>
    rw [rawLinesOfPieces, if_neg hne] at h
    cases h
  | case4 piece rest hrest =>
    rw [rawLinesOfPieces] at h
    · cases h
    · exact hrest

/-- Reading the rest of the text. -/
theorem Stands.foldlM_bind_finish {ps : List Text}
    (h : Stands source (rawLinesOfPieces ps).flatten carried s) :
    ((rawLinesOfPieces ps).foldlM (SectionScanner.step source) s >>= finish) =
      ((readBodies carried ps).map (s.bodies ++ ·)).mapError .fault := by
  induction hraws : rawLinesOfPieces ps generalizing ps carried s with
  | nil =>
    rw [List.foldlM_nil, pure_eq_ok, ok_bind, readBodies_of_rawLinesOfPieces_eq_nil hraws]
    exact h.finish_eq
  | cons raw after ih =>
    obtain ⟨piece, rest, rfl, rfl, hraw⟩ := exists_of_rawLinesOfPieces_eq_cons hraws
    rw [hraws] at h
    rw [List.foldlM_cons]
    rcases h.step hraw with ⟨s', carried', hstep, hstands, hread⟩ | ⟨e, hstep, hread⟩
    · rw [hstep, ok_bind, ih hstands rfl, hread]
    · rw [hstep, hread]
      rfl

/-- The scanner stands before every line that it comes to. -/
theorem Stands.exists_of_foldlM {before after ps : List Text} {s' : SectionScanner}
    (h : Stands source (rawLinesOfPieces ps).flatten carried s)
    (hlines : rawLinesOfPieces ps = before ++ after)
    (hfold : before.foldlM (SectionScanner.step source) s = .ok s') :
    ∃ carried' rest, rawLinesOfPieces rest = after ∧ Stands source after.flatten carried' s' := by
  induction before generalizing ps carried s with
  | nil =>
    obtain rfl := Except.ok.inj hfold
    rw [hlines] at h
    exact ⟨carried, ps, hlines, h⟩
  | cons raw before ih =>
    obtain ⟨piece, rest, rfl, hafter, hraw⟩ := exists_of_rawLinesOfPieces_eq_cons hlines
    rw [hlines] at h
    rw [List.foldlM_cons] at hfold
    rcases h.step hraw with ⟨s'', carried', hstep, hstands, -⟩ | ⟨e, hstep, -⟩
    · rw [hstep, ok_bind] at hfold
      rw [hafter] at hstands
      exact ih hstands hafter.symm hfold
    · rw [hstep] at hfold
      cases hfold

/-- The sums of the scanner are offsets of lines of the text, and the body of a section that ends
is there to be cut out. -/
structure InPlace (source : Text) (before : List Text) (raw : Text) (s : SectionScanner) :
    Prop where
  current_eq : s.current = utf8Size before.flatten
  /-- The next line begins there. -/
  beginsAt_current : ∃ c, raw.head? = some c ∧ source.BeginsAt s.current c
  /-- A section that is open began there or before. -/
  start {opened : Section} (h : s.inside = some opened) :
    s.start ≤ s.current ∧ source.IsBoundary s.start
  /-- The next line is read without a slice that is not there, and only once. -/
  step : step source s raw ≠ .error .misplaced ∧
    ∀ s', step source s raw = .ok s' →
      s'.current = s.current + raw.utf8Size ∧ s.current < s'.current

theorem stands_rawLines (source : Text) :
    Stands source (rawLinesOfPieces (source.splitOn '\n')).flatten none {} := by
  rw [flatten_rawLinesOfPieces, List.intercalate_splitOn]
  exact stands_start source

theorem Stands.step_ne_misplaced {raw piece : Text} {after : List Text}
    (h : Stands source (raw :: after).flatten carried s) (hraw : IsRawLine raw piece after) :
    SectionScanner.step source s raw ≠ .error .misplaced := by
  intro hmisplaced
  rcases h.step hraw with ⟨s', carried', hok, -⟩ | ⟨e, herror, -⟩
  · cases hok.symm.trans hmisplaced
  · cases herror.symm.trans hmisplaced

/-- A line is read only once. -/
theorem Stands.current_lt {raw piece : Text} {after : List Text} {s' : SectionScanner}
    (h : Stands source (raw :: after).flatten carried s) (hraw : IsRawLine raw piece after)
    (hstep : SectionScanner.step source s raw = .ok s') :
    s'.current = s.current + raw.utf8Size ∧ s.current < s'.current := by
  rcases h.step hraw with ⟨s'', carried', hok, hstands, -⟩ | ⟨e, herror, -⟩
  · obtain rfl : s'' = s' := Except.ok.inj (hok.symm.trans hstep)
    obtain ⟨passed, hpassed, hcurrent, -⟩ := h.exists_source_eq
    obtain ⟨passed', hpassed', hcurrent', -⟩ := hstands.exists_source_eq
    obtain rfl : passed' = passed ++ raw := by
      refine List.append_cancel_right (hpassed'.symm.trans ?_)
      rw [hpassed, List.flatten_cons, List.append_assoc]
    have hpos : raw.utf8Size ≠ 0 := fun hzero => hraw.ne_nil (eq_nil_of_utf8Size_eq_zero hzero)
    rw [hcurrent, hcurrent', utf8Size_append]
    exact ⟨rfl, by omega⟩
  · cases herror.symm.trans hstep

/-- **A scanner never loses its place.** -/
theorem inPlace_of_foldlM {before after : List Text} {raw : Text}
    (hlines : rawLines source = before ++ raw :: after)
    (hfold : before.foldlM (step source) {} = .ok s) : InPlace source before raw s := by
  obtain ⟨carried, rest, hrest, h⟩ := (stands_rawLines source).exists_of_foldlM hlines hfold
  obtain ⟨piece, rest, rfl, -, hraw⟩ := exists_of_rawLinesOfPieces_eq_cons hrest
  have hsource : source = before.flatten ++ (raw :: after).flatten := by
    rw [← List.flatten_append, ← hlines, flatten_rawLines]
  obtain ⟨passed, hpassed, hcurrent, hstart⟩ := h.exists_source_eq
  obtain rfl : passed = before.flatten := List.append_cancel_right (hpassed.symm.trans hsource)
  obtain ⟨c, line, rfl⟩ := List.exists_cons_of_ne_nil hraw.ne_nil
  exact ⟨hcurrent, ⟨c, rfl, before.flatten, line ++ after.flatten, hsource, hcurrent.symm⟩,
    hstart _, h.step_ne_misplaced hraw, fun _ => h.current_lt hraw⟩

end SectionScanner

/-- **A text is divided by scanning as it is by reading.** -/
theorem scanBodies_eq (source : Text) :
    scanBodies source = (bodiesOf source).mapError .fault := by
  have hrun := (SectionScanner.stands_rawLines source).foldlM_bind_finish
  rw [scanBodies, rawLines, hrun, bodiesOf]
  cases readBodies none (source.splitOn '\n') <;> rfl

/-! ## Both scanners -/

/-- **Scanning never loses its place.** A slice is there exactly when its offsets are boundaries in
order. In every state of a line scanner all the numbers are in place, the whole line is read, and
the options of a list end with a percent sign after the slash; in every state of a section scanner
the sums are offsets of lines. So neither of them ever halts because something is not there, and
what they find is what compiling and reading find. Only counting the blanks of a line can halt, and
only if there are more of them than sixteen bits can count. -/
theorem scanners_stay_in_place (source : Text) :
    (∀ (t : Text) (start stop : Nat),
      (slice? t start stop).isSome ↔ start ≤ stop ∧ t.IsBoundary start ∧ t.IsBoundary stop) ∧
    (∀ line : Text,
      (∀ s, LineScanner.Reached line s → LineScanner.InPlace line s) ∧
      (∀ s, LineScanner.run line {} = .ok s →
        LineScanner.Reached line s ∧ s.position = line.length) ∧
      ∀ slash layout close, scanOptions line slash = .ok (layout, close) →
        slash < close ∧ ∃ offset, (places line)[close]? = some (offset, '%')) ∧
    (∀ before raw after s, rawLines source = before ++ raw :: after →
      before.foldlM (SectionScanner.step source) {} = .ok s →
      SectionScanner.InPlace source before raw s) ∧
    (∀ halt, Span.scan source = .error halt →
      (∃ e, halt = .fault e) ∨ halt = .overflow ∧ ∃ line ∈ source.lines, ¬ Narrow line) ∧
    Span.scan source = Span.compile source ∧
    (∀ halt, scanBodies source = .error halt → ∃ e, halt = .fault e) ∧
    scanBodies source = (bodiesOf source).mapError .fault := by
  refine ⟨isSome_slice?_iff, fun line => ⟨fun s => LineScanner.Reached.inPlace, fun s hrun => ?_,
    fun slash layout close h => ⟨lt_of_scanOptions h, exists_place_of_scanOptions h⟩⟩,
    fun before raw after s => SectionScanner.inPlace_of_foldlM, fun halt h => ?_,
    Span.scan_eq source, fun halt h => ?_, scanBodies_eq source⟩
  · obtain ⟨hreached, hend⟩ := LineScanner.Reached.start.of_run hrun
    refine ⟨hreached, Nat.le_antisymm hreached.inPlace.position_le ?_⟩
    rwa [List.getElem?_eq_none_iff, length_places] at hend
  · exact Span.fault_or_overflow_of_compile_eq_error ((Span.scan_eq source).symm.trans h)
  · obtain ⟨e, -, he⟩ := mapError_eq_error_iff.1 ((scanBodies_eq source).symm.trans h)
    exact ⟨e, he.symm⟩

/-- Characters of one to four bytes as indentation, name and delimiter, and next to percent
signs. -/
def wide : Text := "\u3000é%ñ/→+_%😀%%ß".toList

/-- A section that consists of this line. -/
def wideNode : Text := "😀\r\n\u00A0#node\u3000\n".toList ++ wide ++ "\n#end/node".toList

theorem scanners_stay_in_place_wide :
    (wide.IsBoundary 8 ∧ (5 : Nat) ≤ 8 ∧ (6 : Nat) ≤ 8 ∧ wide.IsBoundary 6) ∧
    (∃ s, LineScanner.run wide {} = .ok s ∧ s.position = 13) ∧
    (∃ offset, (places wide)[8]? = some (offset, '%')) ∧
    ((17 : Nat) ≤ 41 ∧ wideNode.IsBoundary 17) ∧
    ∃ bodies, scanBodies wideNode = .ok bodies := by
  obtain ⟨-, hlines, hsections, -, -, -, hbodies⟩ := scanners_stay_in_place wideNode
  obtain ⟨hreached, hrun, hoptions⟩ := hlines wide
  -- the scanner reads the indentation, the text before the reference and then the name
  have hblank : LineScanner.Reached wide { position := 1, columns := 1 } :=
    .step .start rfl rfl
  have htext : LineScanner.Reached wide
      ⟨2, .verbatim, 1, 3, [.indentation 1]⟩ :=
    .step hblank rfl rfl
  have hpercent : LineScanner.Reached wide
      ⟨3, .reference, 1, 5, [.indentation 1, .verbatim ['é']]⟩ :=
    .step htext rfl rfl
  have hname : LineScanner.Reached wide
      ⟨4, .reference, 1, 5, [.indentation 1, .verbatim ['é']]⟩ :=
    .step hpercent rfl rfl
  have hplace : (places wide)[4]? = some (8, '/') := rfl
  obtain ⟨hoffset, hstart, hreference⟩ := (hreached _ hname).place hplace
  have hscan : LineScanner.scan wide = .ok _ := (LineScanner.scan_eq wide).trans rfl
  obtain ⟨s, hs, -⟩ := bind_eq_ok_iff.1 hscan
  have hclose : scanOptions wide 4 =
      .ok ({ delimiter := some '→', trailing := true, oneLine := true }, 8) :=
    scanOptions_eq "\u3000é%ñ".toList (show '%' ∉ "→+_".toList by decide) "%😀%%ß".toList
      fun _ hc => (Option.some.inj hc).symm
  have hnode := hsections ["😀\r\n".toList, "\u00A0#node\u3000\n".toList, wide ++ ['\n']]
    "#end/node".toList [] { current := 41, start := 17, inside := some .node } (by rfl) (by rfl)
  exact ⟨⟨hoffset, hstart, hreference rfl⟩, ⟨s, hs, (hrun s hs).2⟩, (hoptions _ _ _ hclose).2,
    hnode.start rfl, _, hbodies.trans rfl⟩

/-- A reference after blanks of three bytes each, one more than can be counted. -/
def deepReference : Text := List.replicate UInt16.size '\u3000' ++ "%v%".toList

/-- Counting blanks can halt. -/
theorem scanners_overflow_deepReference :
    Span.scan deepReference = .error .overflow ∧
    ¬ ∀ halt, Span.scan deepReference = .error halt → ∃ e, halt = .fault e := by
  have hspace {c : Char} (hc : c ∈ List.replicate UInt16.size '\u3000') : c = '\u3000' :=
    List.eq_of_mem_replicate hc
  have hfeed : '\n' ∉ deepReference := by
    rw [deepReference, List.mem_append, not_or]
    exact ⟨fun h => absurd (hspace h) (by decide), by decide⟩
  have hoverflow : Span.scan deepReference = .error .overflow := by
    rw [Span.scan_eq]
    exact Span.compile_eq_overflow (fun c hc => by rw [hspace hc]; rfl)
      (Nat.le_of_eq List.length_replicate.symm) hfeed
  refine ⟨hoverflow, fun h => ?_⟩
  obtain ⟨e, he⟩ := h .overflow hoverflow
  cases he

end AstHierarchy
