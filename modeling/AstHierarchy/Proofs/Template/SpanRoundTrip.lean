import AstHierarchy.Proofs.Template.Line
import Mathlib.Data.List.Chain

/-!
# Spans and their source

A span that is well formed is written as template text and read back unchanged, and what is read
from template text is always well formed. So the well-formed spans are exactly the ones that some
text describes, and `Span.toSource` gives each of them a text of its own.

## Two steps

* **One line.** `reads_toSource` follows the instructions of a line and carries the text that has
  been passed since the last percent sign; it is the reason why two texts in a row are excluded.
  `Reads.isBody` goes the other way.
* **All lines.** Line endings are the separators on both sides: `splitOn` and `intercalate` are
  inverse to each other because no instruction of a line begins a line and no character of it is a
  line feed.
-/

namespace AstHierarchy

/-! ## Well-formed spans -/

/-- The instruction writes text that is more than an escaped percent sign. -/
def Instruction.IsText : Instruction → Prop
  | .verbatim t => t ≠ ['%']
  | _ => False

/-- The instruction can stand in a line after its indentation. -/
def Instruction.IsContent : Instruction → Prop
  | .lineBreak => False
  | .indentation _ => False
  | .verbatim t => t ≠ [] ∧ '\n' ∉ t ∧ (t = ['%'] ∨ '%' ∉ t)
  | .reference name layout =>
    '%' ∉ name ∧ '/' ∉ name ∧ '\n' ∉ name ∧
      (name ≠ [] ∧ layout = {} ∨ ∃ d, layout.delimiter = some d ∧ d ≠ '%' ∧ d ≠ '\n')

namespace Span

/-- The instructions can be those of a line after its indentation. -/
structure IsBody (body : Span) : Prop where
  isContent : ∀ i ∈ body, i.IsContent
  separate : body.IsChain fun a b => ¬(a.IsText ∧ b.IsText)
  begins : ∀ t, body.head? = some (.verbatim t) → ∀ c, t.head? = some c → Text.isBlank c = false

/-- The instructions can be those of a line: an indentation of so many columns, if it is not
none, and a body. -/
def IsLine (line : Span) : Prop :=
  ∃ columns body, columns ≤ 65535 ∧ line = ofIndentation columns ++ body ∧ IsBody body

/-- Each line of the span is one that can be written. -/
def WellFormed (s : Span) : Prop := ∀ line ∈ s.splitOn .lineBreak, IsLine line

/-! ## Writing one line and reading it -/

/-- A layout with a delimiter is the delimiter with the flags that are written. -/
theorem eq_ofFlags_of_delimiter {layout : ListLayout} {d : Char}
    (h : layout.delimiter = some d) :
    ∃ flags : Text, flags.all isFlag ∧ layout.toText = d :: flags ∧
      layout = .ofFlags d flags := by
  obtain ⟨delimiter, trailing, oneLine⟩ := layout
  obtain rfl : delimiter = some d := h
  cases trailing <;> cases oneLine
  · exact ⟨[], rfl, rfl, rfl⟩
  · exact ⟨['_'], rfl, rfl, rfl⟩
  · exact ⟨['+'], rfl, rfl, rfl⟩
  · exact ⟨['+', '_'], rfl, rfl, rfl⟩

/-- What is written for a reference is a reference to the same variable. -/
theorem refers_of_isContent {name : Text} {layout : ListLayout}
    (h : (Instruction.reference name layout).IsContent) :
    ∃ inner, Refers inner name layout ∧
      Instruction.toSource (.reference name layout) = '%' :: (inner ++ ['%']) := by
  obtain ⟨hpercent, hslash, -, ⟨hne, rfl⟩ | ⟨d, hd, hdpercent, -⟩⟩ := h
  · exact ⟨name, .plain hne ⟨hpercent, hslash⟩, by simp [Instruction.toSource]⟩
  · obtain ⟨flags, hflags, htext, hlayout⟩ := eq_ofFlags_of_delimiter hd
    refine ⟨name ++ '/' :: d :: flags, ?_, by simp [Instruction.toSource, hd, htext]⟩
    rw [hlayout]
    exact .list ⟨hpercent, hslash⟩ hdpercent hflags

/-- The written instructions read as themselves. The text `t` has been passed since the last
percent sign; it joins what follows, so no other text may follow it. -/
theorem reads_toSource {body : Span} (hcontent : ∀ i ∈ body, i.IsContent)
    (hchain : body.IsChain fun a b => ¬(a.IsText ∧ b.IsText)) {t : Text} (ht : '%' ∉ t)
    (hnext : t ≠ [] → ∀ i, body.head? = some i → ¬i.IsText) :
    Reads (t ++ body.flatMap Instruction.toSource) (ofText t ++ body) := by
  induction body generalizing t with
  | nil =>
    rw [List.flatMap_nil, List.append_nil, List.append_nil]
    exact .text ht
  | cons i rest ih =>
    have hrest : ∀ i ∈ rest, i.IsContent := fun j hj => hcontent j (List.mem_cons_of_mem i hj)
    have hchainRest := hchain.tail
    -- what follows a reference begins with nothing passed
    have hfresh : Reads (rest.flatMap Instruction.toSource) rest :=
      ih hrest hchainRest List.not_mem_nil fun h => absurd rfl h
    have hi := hcontent i List.mem_cons_self
    rw [List.flatMap_cons]
    cases i with
    | lineBreak => exact hi.elim
    | indentation columns => exact hi.elim
    | verbatim u =>
      obtain ⟨hne, -, hpercent⟩ := hi
      by_cases hu : u = ['%']
      · subst hu
        exact .percent ht hfresh
      · -- nothing has been passed, or two texts would stand side by side
        have htext : (Instruction.verbatim u).IsText := hu
        have hnil : t = [] := by
          by_contra h
          exact hnext h _ rfl htext
        subst hnil
        have hafter : ∀ j, rest.head? = some j → ¬j.IsText := by
          intro j hj hjtext
          cases rest with
          | nil => cases hj
          | cons k rest =>
            obtain rfl : k = j := Option.some.inj hj
            exact (List.isChain_cons_cons.1 hchain).1 ⟨htext, hjtext⟩
        have hsource : Instruction.toSource (.verbatim u) = u := if_neg hu
        rw [hsource, ofText_nil, List.nil_append, List.nil_append]
        have hreads := ih hrest hchainRest (hpercent.resolve_left hu) fun _ => hafter
        rwa [ofText_of_ne_nil hne] at hreads
    | reference name layout =>
      obtain ⟨inner, href, hsource⟩ := refers_of_isContent hi
      rw [hsource, List.cons_append, List.append_assoc, List.singleton_append]
      exact .reference ht href hfresh

/-- What is written for the body of a line does not begin with a blank. -/
theorem head?_source_of_isBody {body : Span} (h : IsBody body) {c : Char}
    (hc : (body.flatMap Instruction.toSource).head? = some c) : Text.isBlank c = false := by
  cases body with
  | nil => cases hc
  | cons i rest =>
    have hi := h.isContent i List.mem_cons_self
    rw [List.flatMap_cons] at hc
    cases i with
    | lineBreak => exact hi.elim
    | indentation columns => exact hi.elim
    | verbatim t =>
      obtain ⟨hne, -, -⟩ := hi
      by_cases hpercent : t = ['%']
      · subst hpercent
        obtain rfl : '%' = c := Option.some.inj hc
        decide
      · have hsource : Instruction.toSource (.verbatim t) = t := if_neg hpercent
        rw [hsource] at hc
        obtain ⟨d, more, rfl⟩ := List.exists_cons_of_ne_nil hne
        exact h.begins _ rfl c hc
    | reference name layout =>
      obtain rfl : '%' = c := Option.some.inj hc
      decide

/-- Nothing that is written for a line is a line feed. -/
theorem newline_not_mem_source_of_isLine {line : Span} (h : IsLine line) :
    '\n' ∉ line.flatMap Instruction.toSource := by
  obtain ⟨columns, body, -, rfl, hbody⟩ := h
  rw [List.flatMap_append, List.mem_append, not_or]
  constructor
  · unfold ofIndentation
    split
    · exact List.not_mem_nil
    · simp [Instruction.toSource]
  · intro hmem
    obtain ⟨i, hi, hmem⟩ := List.mem_flatMap.1 hmem
    have hcontent := hbody.isContent i hi
    cases i with
    | lineBreak => exact hcontent.elim
    | indentation columns => exact hcontent.elim
    | verbatim t =>
      rw [Instruction.toSource] at hmem
      split at hmem
      · simp at hmem
      · exact hcontent.2.1 hmem
    | reference name layout =>
      obtain ⟨-, -, hname, ⟨-, rfl⟩ | ⟨d, hd, -, hdfeed⟩⟩ := hcontent
      · simp [Instruction.toSource, hname] at hmem
      · obtain ⟨flags, hflags, htext, -⟩ := eq_ofFlags_of_delimiter hd
        have hflagsfeed : '\n' ∉ flags := fun hfeed =>
          absurd (List.all_eq_true.1 hflags '\n' hfeed) (by decide)
        simp [Instruction.toSource, hd, htext, hname, hdfeed.symm, hflagsfeed] at hmem

theorem flatMap_toSource_ofIndentation (columns : Nat) :
    (ofIndentation columns).flatMap Instruction.toSource = List.replicate columns ' ' := by
  unfold ofIndentation
  split
  · rename_i h
    subst h
    rfl
  · simp [Instruction.toSource]

/-- **A line that is written is read back.** -/
theorem ofLine_source {line : Span} (h : IsLine line) :
    ofLine (line.flatMap Instruction.toSource) = .ok line := by
  obtain ⟨columns, body, -, rfl, hbody⟩ := h
  have hblank : ∀ c ∈ List.replicate columns ' ', Text.isBlank c := by
    intro c hc
    rw [List.eq_of_mem_replicate hc]
    decide
  have hstop : (body.flatMap Instruction.toSource).takeWhile Text.isBlank = [] ∧
      (body.flatMap Instruction.toSource).dropWhile Text.isBlank =
        body.flatMap Instruction.toSource := by
    cases hs : body.flatMap Instruction.toSource with
    | nil => exact ⟨rfl, rfl⟩
    | cons c rest =>
      have hc : Text.isBlank c = false := head?_source_of_isBody hbody (by rw [hs]; rfl)
      simp [hc]
  have hreads : Reads (body.flatMap Instruction.toSource) body :=
    reads_toSource hbody.isContent hbody.separate List.not_mem_nil fun hne => absurd rfl hne
  rw [ofLine, Text.trimStart, List.flatMap_append, flatMap_toSource_ofIndentation,
    List.takeWhile_append_of_pos hblank, List.dropWhile_append_of_pos hblank, hstop.1, hstop.2,
    hreads.ofPieces_eq, List.append_nil, List.length_replicate]
  rfl

/-! ## Reading one line -/

/-- Text that is read in front of a reference can be written. -/
theorem isContent_ofText {t : Text} (ht : '%' ∉ t) (hfeed : '\n' ∉ t) :
    ∀ i ∈ ofText t, i.IsContent := by
  intro i hi
  cases t with
  | nil => cases hi
  | cons c rest =>
    obtain rfl := List.mem_singleton.1 hi
    exact ⟨List.cons_ne_nil c rest, hfeed, Or.inr ht⟩

/-- A reference separates the text before it from what follows it. -/
theorem isContent_ofText_append {t : Text} {i : Instruction} {more : Span} (ht : '%' ∉ t)
    (hfeed : '\n' ∉ t) (hi : i.IsContent) (hsep : ¬i.IsText)
    (hmore : (∀ j ∈ more, j.IsContent) ∧ more.IsChain fun a b => ¬(a.IsText ∧ b.IsText)) :
    (∀ j ∈ ofText t ++ i :: more, j.IsContent) ∧
      (ofText t ++ i :: more).IsChain fun a b => ¬(a.IsText ∧ b.IsText) := by
  obtain ⟨hcontent, hchain⟩ := hmore
  constructor
  · intro j hj
    rcases List.mem_append.1 hj with hj | hj
    · exact isContent_ofText ht hfeed j hj
    · rcases List.mem_cons.1 hj with rfl | hj
      · exact hi
      · exact hcontent j hj
  · have htail : (i :: more).IsChain fun a b => ¬(a.IsText ∧ b.IsText) := by
      cases more with
      | nil => exact List.isChain_singleton i
      | cons j more => exact List.isChain_cons_cons.2 ⟨fun h => hsep h.1, hchain⟩
    cases t with
    | nil => exact htail
    | cons c rest => exact List.isChain_cons_cons.2 ⟨fun h => hsep h.2, htail⟩

theorem isContent_of_refers {inner name : Text} {layout : ListLayout}
    (h : Refers inner name layout) (hfeed : '\n' ∉ inner) :
    (Instruction.reference name layout).IsContent := by
  cases h with
  | plain hne hname => exact ⟨hname.1, hname.2, hfeed, Or.inl ⟨hne, rfl⟩⟩
  | @list name flags delimiter hname hd hflags =>
    simp only [List.mem_append, List.mem_cons, not_or] at hfeed
    obtain ⟨hfeedName, -, hfeedDelimiter, -⟩ := hfeed
    exact ⟨hname.1, hname.2, hfeedName, Or.inr ⟨delimiter, rfl, hd, Ne.symm hfeedDelimiter⟩⟩

/-- What is read can be written, and texts do not follow each other. -/
theorem Reads.isContent {t : Text} {body : Span} (h : Reads t body) (hfeed : '\n' ∉ t) :
    (∀ i ∈ body, i.IsContent) ∧ body.IsChain fun a b => ¬(a.IsText ∧ b.IsText) := by
  induction h with
  | @text t ht =>
    refine ⟨isContent_ofText ht hfeed, ?_⟩
    cases t with
    | nil => exact List.isChain_nil
    | cons c rest => exact List.isChain_singleton _
  | @percent t rest more ht _ ih =>
    simp only [List.mem_append, List.mem_cons, not_or] at hfeed
    obtain ⟨hfeedText, -, -, hfeedRest⟩ := hfeed
    have hpercent : (Instruction.verbatim ['%']).IsContent :=
      ⟨List.cons_ne_nil '%' [], by decide, Or.inl rfl⟩
    exact isContent_ofText_append ht hfeedText hpercent (fun hi => hi rfl) (ih hfeedRest)
  | @reference t inner name rest layout more ht href _ ih =>
    simp only [List.mem_append, List.mem_cons, not_or] at hfeed
    obtain ⟨hfeedText, -, hfeedInner, -, hfeedRest⟩ := hfeed
    exact isContent_ofText_append ht hfeedText (isContent_of_refers href hfeedInner) (fun hi => hi)
      (ih hfeedRest)

/-- Text at the beginning of a body is what the line begins with. -/
theorem Reads.head?_eq {t u : Text} {body : Span} (h : Reads t body)
    (hu : body.head? = some (.verbatim u)) : u.head? = t.head? := by
  have key : ∀ (v w : Text) (i : Instruction) (more : Span),
      (∀ x, i = .verbatim x → x.head? = w.head?) →
      (ofText v ++ i :: more).head? = some (.verbatim u) → u.head? = (v ++ w).head? := by
    intro v w i more hi hhead
    cases v with
    | nil => exact hi u (Option.some.inj hhead)
    | cons c rest =>
      obtain rfl : c :: rest = u := Instruction.verbatim.inj (Option.some.inj hhead)
      rfl
  cases h with
  | text ht =>
    cases t with
    | nil => cases hu
    | cons c rest =>
      obtain rfl : c :: rest = u := Instruction.verbatim.inj (Option.some.inj hu)
      rfl
  | percent ht hrest =>
    refine key _ _ _ _ (fun x hx => ?_) hu
    obtain rfl : ['%'] = x := Instruction.verbatim.inj hx
    rfl
  | reference ht href hrest => exact key _ _ _ _ (fun x hx => by cases hx) hu

/-- **A line that is read can be written.** -/
theorem isLine_of_ofLine_eq_ok {line : Text} {s : Span} (hfeed : '\n' ∉ line)
    (hcolumns : (line.takeWhile Text.isBlank).length ≤ 65535) (h : ofLine line = .ok s) :
    IsLine s := by
  obtain ⟨body, hbody, rfl⟩ := ofLine_eq_ok_iff.1 h
  have hfeedBody : '\n' ∉ Text.trimStart line := fun hmem =>
    hfeed ((List.dropWhile_sublist _).subset hmem)
  obtain ⟨hcontent, hchain⟩ := hbody.isContent hfeedBody
  refine ⟨_, body, hcolumns, rfl, hcontent, hchain, ?_⟩
  intro t ht c hc
  have hstart := List.head?_dropWhile_not Text.isBlank line
  rw [hbody.head?_eq ht, Text.trimStart] at hc
  rw [hc] at hstart
  simpa using hstart

/-! ## All lines -/

theorem lineBreak_not_mem_of_isLine {line : Span} (h : IsLine line) : .lineBreak ∉ line := by
  obtain ⟨columns, body, -, rfl, hbody⟩ := h
  rw [List.mem_append, not_or]
  refine ⟨?_, fun hmem => hbody.isContent _ hmem⟩
  unfold ofIndentation
  split <;> simp

/-- The source of a span has a line for each line of the span, and every one of them ends in a
carriage return and a line feed. -/
theorem toSource_intercalate {ls : List Span} (hne : ls ≠ []) :
    toSource ([Instruction.lineBreak].intercalate ls) =
      Text.unlines (ls.map fun l => l.flatMap Instruction.toSource ++ ['\r']) := by
  induction ls with
  | nil => exact absurd rfl hne
  | cons l rest ih =>
    cases rest with
    | nil => simp [toSource]
    | cons next rest =>
      have hrest := ih (List.cons_ne_nil next rest)
      rw [List.intercalate_cons_cons, List.map_cons, Text.unlines_cons, ← hrest]
      simp [toSource, Instruction.toSource]

theorem toSource_eq_unlines (s : Span) :
    s.toSource = Text.unlines ((s.splitOn .lineBreak).map fun l =>
      l.flatMap Instruction.toSource ++ ['\r']) := by
  rw [← toSource_intercalate (List.splitOn_ne_nil _ s), List.intercalate_splitOn]

/-- **What is written is read back.** -/
theorem read_toSource {s : Span} (h : WellFormed s) : read s.toSource = .ok s := by
  have hfeed : ∀ l ∈ (s.splitOn .lineBreak).map
      (fun l => l.flatMap Instruction.toSource ++ ['\r']), '\n' ∉ l := by
    intro l hl
    obtain ⟨line, hline, rfl⟩ := List.mem_map.1 hl
    simp [newline_not_mem_source_of_isLine (h line hline)]
  have hlines : s.toSource.lines =
      (s.splitOn .lineBreak).map fun l => l.flatMap Instruction.toSource := by
    rw [toSource_eq_unlines, Text.lines_unlines hfeed, List.map_map]
    exact List.map_congr_left fun l _ => Text.dropReturn_append_return _
  have hline : ∀ l ∈ s.splitOn .lineBreak,
      (ofLine ∘ fun l => l.flatMap Instruction.toSource) l = .ok (id l) :=
    fun l hl => ofLine_source (h l hl)
  rw [read, hlines, List.mapM_map, mapM_eq_ok_of_forall hline, map_ok, List.map_id,
    List.intercalate_splitOn]

/-- **What is read can be written.** -/
theorem wellFormed_of_read_eq_ok {source : Text} {s : Span} (h : read source = .ok s)
    (hcolumns : ∀ l ∈ source.lines, (l.takeWhile Text.isBlank).length ≤ 65535) :
    WellFormed s := by
  obtain ⟨ls, hls, rfl⟩ := map_eq_ok_iff.1 h
  obtain ⟨span, hspan, rfl⟩ := exists_map_of_mapM_eq_ok hls
  have hline : ∀ l ∈ source.lines.map span, IsLine l := by
    intro l hl
    obtain ⟨line, hmem, rfl⟩ := List.mem_map.1 hl
    exact isLine_of_ofLine_eq_ok (Text.newline_not_mem_of_mem_lines hmem) (hcolumns line hmem)
      (hspan line hmem)
  intro line hmem
  -- a source without lines gives one line that is empty
  by_cases hne : source.lines.map span = []
  · rw [hne] at hmem
    obtain rfl : line = [] := by simpa using hmem
    exact ⟨0, [], by omega, rfl, by simp, List.isChain_nil, by simp⟩
  · rw [List.splitOn_intercalate] at hmem
    · exact hline line hmem
    · exact fun l hl => lineBreak_not_mem_of_isLine (hline l hl)
    · exact hne

/-- What is compiled has its columns counted in sixteen bits, and so it can always be written. -/
theorem wellFormed_of_compile_eq_ok {source : Text} {s : Span} (h : compile source = .ok s) :
    WellFormed s := by
  obtain ⟨hnarrow, hread⟩ := compile_eq_ok_iff.1 h
  exact wellFormed_of_read_eq_ok hread fun l hl => Nat.le_of_lt_succ (hnarrow l hl)

/-- **Well-formed spans and their source.** A well-formed span is read back from what is written
for it. A span that has been read, from a text whose lines are not indented by too many columns, is
well formed, and so it is read back as well. -/
theorem read_toSource_round_trip :
    (∀ s : Span, WellFormed s → read s.toSource = .ok s) ∧
    ∀ (source : Text) (s : Span), read source = .ok s →
      (∀ l ∈ source.lines, (l.takeWhile Text.isBlank).length < 65536) →
      WellFormed s ∧ read s.toSource = .ok s := by
  refine ⟨fun s h => read_toSource h, fun source s h hcolumns => ?_⟩
  have hwell : WellFormed s :=
    wellFormed_of_read_eq_ok h fun l hl => Nat.le_of_lt_succ (hcolumns l hl)
  exact ⟨hwell, read_toSource hwell⟩

/-- Escaped percent signs next to references, flags out of order and twice, a line of blanks only
and a carriage return that ends no line. -/
def crowded : Text := "\t%%%x/,_+_% a%y%%%b\r\n \t\n%/;+%%z%\r".toList

/-- What `crowded` reads as. -/
def crowdedSpan : Span :=
  [.indentation 1, .verbatim ['%'],
    .reference ['x'] { delimiter := some ',', trailing := true, oneLine := true },
    .verbatim [' ', 'a'], .reference ['y'] {}, .verbatim ['%'], .verbatim ['b'],
    .lineBreak, .indentation 2,
    .lineBreak, .reference [] { delimiter := some ';', trailing := true },
    .reference ['z'] {}, .verbatim ['\r']]

theorem read_toSource_round_trip_crowded :
    read crowded = .ok crowdedSpan ∧ WellFormed crowdedSpan ∧
      read crowdedSpan.toSource = .ok crowdedSpan := by
  have hread : read crowded = .ok crowdedSpan := by rfl
  have hcolumns : ∀ l ∈ crowded.lines, (l.takeWhile Text.isBlank).length < 65536 := by decide
  obtain ⟨hwell, -⟩ := read_toSource_round_trip.2 crowded crowdedSpan hread hcolumns
  exact ⟨hread, hwell, read_toSource_round_trip.1 crowdedSpan hwell⟩

end Span

end AstHierarchy
