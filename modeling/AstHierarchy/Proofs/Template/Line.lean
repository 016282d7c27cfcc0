import AstHierarchy.Proofs.Outcome
import AstHierarchy.Proofs.Text.Lines
import AstHierarchy.Template.Span

/-!
# How a line of a template reads

`Span.Reads t body` says what the instructions for a line are, once its indentation is gone. It
goes through the line from left to right: text up to a percent sign, then one of the three kinds of
references, and then the rest of the line. Reading a line succeeds exactly with the instructions
that stand in this relation to it (`ofPieces_splitOn_eq_ok_iff`), so whatever is proved of a line
that can be read is an induction on the relation.
-/

namespace AstHierarchy

/-- A fault of the template is nothing out of place. -/
theorem mapError_fault_ne_misplaced {α : Type} (x : Except TemplateError α) :
    x.mapError Halt.fault ≠ .error .misplaced := by
  cases x with
  | error e => exact fun h => nomatch h
  | ok a => exact fun h => nomatch h

theorem length_le_takeWhile_append {blanks : Text} (h : ∀ b ∈ blanks, Text.isBlank b) (t : Text) :
    blanks.length ≤ ((blanks ++ t).takeWhile Text.isBlank).length := by
  rw [List.takeWhile_append_of_pos h, List.length_append]
  exact Nat.le_add_right _ _

/-- A line that begins with too many blanks is not narrow. -/
theorem not_narrow_append {blanks : Text} (hblank : ∀ b ∈ blanks, Text.isBlank b)
    (hlength : UInt16.size ≤ blanks.length) (t : Text) : ¬ Narrow (blanks ++ t) :=
  Nat.not_lt.2 (Nat.le_trans hlength (length_le_takeWhile_append hblank t))

/-- A character that asks for a change to the layout of a list. -/
def isFlag (c : Char) : Bool := c == '+' || c == '_'

/-- The layout with the delimiter and the flags. -/
def ListLayout.ofFlags (delimiter : Char) (flags : Text) : ListLayout :=
  { delimiter := some delimiter, trailing := flags.contains '+', oneLine := flags.contains '_' }

/-! ## References -/

/-- What stands between two percent signs refers to the variable, laid out so. -/
inductive Refers : Text → Text → ListLayout → Prop where
  /-- A name alone is a variable. -/
  | plain {name : Text} (hne : name ≠ []) (hname : '%' ∉ name ∧ '/' ∉ name) : Refers name name {}
  /-- A name with a slash, a delimiter and flags is a list. -/
  | list {name flags : Text} {delimiter : Char} (hname : '%' ∉ name ∧ '/' ∉ name)
    (hd : delimiter ≠ '%') (hflags : flags.all isFlag) :
    Refers (name ++ '/' :: delimiter :: flags) name (.ofFlags delimiter flags)

theorem percent_not_mem_of_isFlag {flags : Text} (h : flags.all isFlag) : '%' ∉ flags := by
  intro hmem
  exact absurd (List.all_eq_true.1 h '%' hmem) (by decide)

theorem Refers.percent_not_mem {inner name : Text} {layout : ListLayout}
    (h : Refers inner name layout) : '%' ∉ inner := by
  cases h with
  | plain hne hname => exact hname.1
  | list hname hd hflags => simp [hname.1, Ne.symm hd, percent_not_mem_of_isFlag hflags]

theorem Refers.ne_nil {inner name : Text} {layout : ListLayout} (h : Refers inner name layout) :
    inner ≠ [] := by
  cases h with
  | plain hne hname => exact hne
  | list hname hd hflags => simp

theorem Refers.ofReference_eq {inner name : Text} {layout : ListLayout}
    (h : Refers inner name layout) (line : Text) :
    Instruction.ofReference line inner = .ok (.reference name layout) := by
  rw [Instruction.ofReference, if_neg (by simpa using h.ne_nil)]
  cases h with
  | plain hne hname => rw [Text.cutAt_eq_none_iff.2 hname.2]
  | @list name flags delimiter hname hd hflags =>
    have hcut : Text.cutAt '/' (name ++ '/' :: delimiter :: flags) =
        some (name, delimiter :: flags) := Text.cutAt_eq_some_iff.2 ⟨rfl, hname.2⟩
    have hlayout : ListLayout.ofText? (delimiter :: flags) = some (.ofFlags delimiter flags) :=
      if_pos hflags
    rw [hcut]
    simp only [hlayout]

/-- A reference has one reading. -/
theorem Refers.unique {inner name name' : Text} {layout layout' : ListLayout}
    (h : Refers inner name layout) (h' : Refers inner name' layout') :
    name = name' ∧ layout = layout' := by
  have heq := (h.ofReference_eq []).symm.trans (h'.ofReference_eq [])
  exact Instruction.reference.inj (Except.ok.inj heq)

theorem ofReference_nil (line : Text) :
    Instruction.ofReference line [] = .ok (.verbatim ['%']) := rfl

/-- What is between the percent signs of a list. -/
theorem ofReference_slash (line : Text) {name : Text} (hname : '/' ∉ name) (options : Text) :
    Instruction.ofReference line (name ++ '/' :: options) =
      match ListLayout.ofText? options with
      | some layout => .ok (.reference name layout)
      | none => .error (.badOptions line) := by
  have hcut : Text.cutAt '/' (name ++ '/' :: options) = some (name, options) :=
    Text.cutAt_eq_some_iff.2 ⟨rfl, hname⟩
  cases hlayout : ListLayout.ofText? options with
  | none =>
    rw [Instruction.ofReference, if_neg (by simp), hcut]
    simp only [hlayout]
  | some layout =>
    rw [Instruction.ofReference, if_neg (by simp), hcut]
    simp only [hlayout]

/-- What stands between two percent signs is nothing or a reference. -/
theorem of_ofReference_eq_ok {line inner : Text} {i : Instruction} (hinner : '%' ∉ inner)
    (h : Instruction.ofReference line inner = .ok i) :
    (inner = [] ∧ i = .verbatim ['%']) ∨
    ∃ name layout, Refers inner name layout ∧ i = .reference name layout := by
  rw [Instruction.ofReference] at h
  split at h
  · rename_i hempty
    exact Or.inl ⟨List.isEmpty_iff.1 hempty, (Except.ok.inj h).symm⟩
  · rename_i hne
    refine Or.inr ?_
    split at h
    · rename_i hcut
      have hname : '%' ∉ inner ∧ '/' ∉ inner := ⟨hinner, Text.cutAt_eq_none_iff.1 hcut⟩
      have hnil : inner ≠ [] := fun hnil => hne (List.isEmpty_iff.2 hnil)
      exact ⟨inner, {}, .plain hnil hname, (Except.ok.inj h).symm⟩
    · rename_i name options hcut
      obtain ⟨rfl, hname⟩ := Text.cutAt_eq_some_iff.1 hcut
      cases options with
      | nil => cases h -- a slash without a delimiter
      | cons delimiter flags =>
        simp only [List.mem_append, List.mem_cons, not_or] at hinner
        obtain ⟨hnamePercent, -, hd, -⟩ := hinner
        rw [ListLayout.ofText?] at h
        split at h
        · rename_i layout hlayout
          split at hlayout
          · rename_i hflags
            obtain rfl := Option.some.inj hlayout
            exact ⟨name, .ofFlags delimiter flags,
              .list ⟨hnamePercent, hname⟩ (Ne.symm hd) hflags, (Except.ok.inj h).symm⟩
          · cases hlayout
        · cases h

/-! ## Lines -/

namespace Span

/-- The instructions `body` are what a line without indentation reads as. -/
inductive Reads : Text → Span → Prop where
  /-- There is no percent sign left. -/
  | text {t : Text} (ht : '%' ∉ t) : Reads t (ofText t)
  /-- Two percent signs stand for one. -/
  | percent {t rest : Text} {more : Span} (ht : '%' ∉ t) (hrest : Reads rest more) :
    Reads (t ++ '%' :: '%' :: rest) (ofText t ++ .verbatim ['%'] :: more)
  /-- What stands between two percent signs is a reference. -/
  | reference {t inner name rest : Text} {layout : ListLayout} {more : Span} (ht : '%' ∉ t)
    (href : Refers inner name layout) (hrest : Reads rest more) :
    Reads (t ++ '%' :: (inner ++ '%' :: rest)) (ofText t ++ .reference name layout :: more)

theorem ofPieces_splitOn_text (line : Text) {t : Text} (ht : '%' ∉ t) :
    ofPieces line (t.splitOn '%') = .ok (ofText t) := by
  rw [List.splitOn_eq_singleton ht]
  rfl

/-- The first reference of a line, and what follows it. -/
theorem ofPieces_splitOn_reference (line : Text) {t inner : Text} (ht : '%' ∉ t)
    (hinner : '%' ∉ inner) (rest : Text) :
    ofPieces line ((t ++ '%' :: (inner ++ '%' :: rest)).splitOn '%') = (do
      let i ← Instruction.ofReference line inner
      let more ← ofPieces line (rest.splitOn '%')
      return ofText t ++ i :: more) := by
  rw [List.splitOn_append_cons_self_of_not_mem ht,
    List.splitOn_append_cons_self_of_not_mem hinner]
  cases hs : rest.splitOn '%' with
  | nil => exact absurd hs (List.splitOn_ne_nil '%' rest)
  | cons piece pieces => rfl

/-- What stands in the relation to a line is what is read. -/
theorem Reads.ofPieces_eq {t : Text} {body : Span} (h : Reads t body) (line : Text) :
    ofPieces line (t.splitOn '%') = .ok body := by
  induction h with
  | text ht => exact ofPieces_splitOn_text line ht
  | @percent t rest more ht _ ih =>
    have hsplit := ofPieces_splitOn_reference line ht List.not_mem_nil rest
    rw [List.nil_append] at hsplit
    rw [hsplit, ofReference_nil, ih]
    rfl
  | reference ht href _ ih =>
    rw [ofPieces_splitOn_reference line ht href.percent_not_mem, href.ofReference_eq, ih]
    rfl

/-- **What is read** stands in the relation to the line. -/
theorem reads_of_ofPieces_eq {line : Text} {pieces : List Text} {body : Span}
    (hpieces : ∀ p ∈ pieces, '%' ∉ p) (hne : pieces ≠ [])
    (h : ofPieces line pieces = .ok body) : Reads (['%'].intercalate pieces) body := by
  fun_induction ofPieces line pieces generalizing body with
  | case1 => exact absurd rfl hne
  | case2 t =>
    obtain rfl := Except.ok.inj h
    rw [List.intercalate_singleton]
    exact .text (hpieces t List.mem_cons_self)
  | case3 t inner => cases h -- an odd number of percent signs is not read
  | case4 t inner rest hrest ih =>
    have ht : '%' ∉ t := hpieces t (by simp)
    have hinner : '%' ∉ inner := hpieces inner (by simp)
    have hrestne : rest ≠ [] := fun hnil => hrest hnil
    obtain ⟨i, hi, h⟩ := bind_eq_ok_iff.1 h
    obtain ⟨more, hmore, h⟩ := bind_eq_ok_iff.1 h
    obtain rfl := Except.ok.inj h
    have hreads := ih (fun p hp => hpieces p (by simp [hp])) hrestne hmore
    have hsource : ['%'].intercalate (t :: inner :: rest) =
        t ++ '%' :: (inner ++ '%' :: ['%'].intercalate rest) := by
      rw [List.intercalate_cons_cons, List.intercalate_cons_of_ne_nil hrestne]
      simp
    rw [hsource]
    rcases of_ofReference_eq_ok hinner hi with ⟨rfl, rfl⟩ | ⟨name, layout, href, rfl⟩
    · exact .percent ht hreads
    · exact .reference ht href hreads

theorem ofPieces_splitOn_eq_ok_iff {line t : Text} {body : Span} :
    ofPieces line (t.splitOn '%') = .ok body ↔ Reads t body := by
  constructor
  · intro h
    have hreads := reads_of_ofPieces_eq (fun _ hp => Text.not_mem_of_mem_splitOn hp)
      (List.splitOn_ne_nil '%' t) h
    rwa [List.intercalate_splitOn] at hreads
  · intro h
    exact h.ofPieces_eq line

/-- Reading a line is reading what follows its indentation. -/
theorem ofLine_eq_ok_iff {line : Text} {s : Span} :
    ofLine line = .ok s ↔ ∃ body, Reads (Text.trimStart line) body ∧
      s = ofIndentation (line.takeWhile Text.isBlank).length ++ body := by
  rw [ofLine, map_eq_ok_iff]
  constructor
  · rintro ⟨body, hbody, rfl⟩
    exact ⟨body, ofPieces_splitOn_eq_ok_iff.1 hbody, rfl⟩
  · rintro ⟨body, hbody, rfl⟩
    exact ⟨body, ofPieces_splitOn_eq_ok_iff.2 hbody, rfl⟩

/-! ## What is left of a line -/

/-- The instructions for the line are the span, and then those for the text. -/
def Continues (line : Text) (span : Span) (t : Text) : Prop :=
  ofLine line = (ofPieces line (t.splitOn '%')).map (span ++ ·)

/-- The indentation comes first. -/
theorem continues_of_blank {line blanks rest : Text} {c : Char}
    (hline : line = blanks ++ c :: rest) (hblank : ∀ b ∈ blanks, Text.isBlank b)
    (hc : ¬ Text.isBlank c = true) : Continues line (ofIndentation blanks.length) (c :: rest) := by
  have htake : line.takeWhile Text.isBlank = blanks := by
    rw [hline, List.takeWhile_append_of_pos hblank, List.takeWhile_cons_of_neg hc, List.append_nil]
  have hdrop : Text.trimStart line = c :: rest := by
    rw [hline, Text.trimStart, List.dropWhile_append_of_pos hblank, List.dropWhile_cons_of_neg hc]
  rw [Continues, ofLine, htake, hdrop]

/-- Text up to a percent sign stands for itself. -/
theorem Continues.text {line t rest : Text} {span : Span}
    (h : Continues line span (t ++ '%' :: rest)) (ht : '%' ∉ t) :
    Continues line (span ++ ofText t) ('%' :: rest) := by
  have hempty := List.splitOn_append_cons_self_of_not_mem (List.not_mem_nil (a := '%')) rest
  rw [List.nil_append] at hempty
  rw [Continues, List.splitOn_append_cons_self_of_not_mem ht] at h
  rw [Continues, h, hempty]
  cases hs : rest.splitOn '%' with
  | nil => exact absurd hs (List.splitOn_ne_nil '%' rest)
  | cons inner pieces =>
    cases pieces with
    | nil => rfl
    | cons piece pieces =>
      simp only [ofPieces]
      cases Instruction.ofReference line inner with
      | error e => rfl
      | ok i =>
        cases ofPieces line (piece :: pieces) with
        | error e => rfl
        | ok more => simp

/-- A reference stands for its instruction. -/
theorem Continues.reference {line inner rest : Text} {span : Span} {i : Instruction}
    (h : Continues line span ('%' :: (inner ++ '%' :: rest))) (hinner : '%' ∉ inner)
    (hi : Instruction.ofReference line inner = .ok i) : Continues line (span ++ [i]) rest := by
  have hsplit := ofPieces_splitOn_reference line List.not_mem_nil hinner rest
  rw [List.nil_append, hi, ok_bind] at hsplit
  rw [Continues, hsplit] at h
  rw [Continues, h]
  cases ofPieces line (rest.splitOn '%') with
  | error e => rfl
  | ok more => simp

theorem Continues.ofLine_eq_error {line inner rest : Text} {span : Span} {e : TemplateError}
    (h : Continues line span ('%' :: (inner ++ '%' :: rest))) (hinner : '%' ∉ inner)
    (he : Instruction.ofReference line inner = .error e) : ofLine line = .error e := by
  have hsplit := ofPieces_splitOn_reference line List.not_mem_nil hinner rest
  rw [List.nil_append, he, error_bind] at hsplit
  rw [Continues, hsplit] at h
  exact h

/-- Text without a percent sign is the end. -/
theorem Continues.ofLine_eq_ok {line t : Text} {span : Span} (h : Continues line span t)
    (ht : '%' ∉ t) : ofLine line = .ok (span ++ ofText t) := by
  rw [Continues, ofPieces_splitOn_text line ht] at h
  exact h

/-- A reference that does not end is reported. -/
theorem Continues.ofLine_eq_unended {line inner : Text} {span : Span}
    (h : Continues line span ('%' :: inner)) (hinner : '%' ∉ inner) :
    ofLine line =
      .error (if inner.contains '/' then .badOptions line else .unterminatedVariable line) := by
  have hempty := List.splitOn_append_cons_self_of_not_mem (List.not_mem_nil (a := '%')) inner
  rw [List.nil_append, List.splitOn_eq_singleton hinner] at hempty
  rw [Continues, hempty] at h
  exact h

/-! ## Room for the columns -/

theorem compileLine_of_narrow {line : Text} (h : Narrow line) :
    compileLine line = (ofLine line).mapError .fault :=
  if_pos h

theorem compileLine_eq_overflow_iff {line : Text} :
    compileLine line = .error .overflow ↔ ¬ Narrow line := by
  refine ⟨fun h hnarrow => ?_, fun h => if_neg h⟩
  rw [compileLine_of_narrow hnarrow, mapError_eq_error_iff] at h
  obtain ⟨e, -, he⟩ := h
  cases he

/-- A line compiles when it can be read and is narrow. -/
theorem compileLine_eq_ok_iff {line : Text} {s : Span} :
    compileLine line = .ok s ↔ Narrow line ∧ ofLine line = .ok s := by
  by_cases hnarrow : Narrow line
  · rw [compileLine_of_narrow hnarrow, mapError_eq_ok_iff]
    exact ⟨fun h => ⟨hnarrow, h⟩, And.right⟩
  · rw [compileLine_eq_overflow_iff.2 hnarrow]
    exact ⟨fun h => (nomatch h), fun h => absurd h.1 hnarrow⟩

/-- What is wrong with a line counts only if there was room for its blanks. -/
theorem compileLine_eq_fault_iff {line : Text} {e : TemplateError} :
    compileLine line = .error (.fault e) ↔ Narrow line ∧ ofLine line = .error e := by
  by_cases hnarrow : Narrow line
  · rw [compileLine_of_narrow hnarrow, mapError_eq_error_iff]
    constructor
    · rintro ⟨e', he', heq⟩
      obtain rfl := Halt.fault.inj heq
      exact ⟨hnarrow, he'⟩
    · exact fun h => ⟨e, h.2, rfl⟩
  · rw [compileLine_eq_overflow_iff.2 hnarrow]
    exact ⟨fun h => (nomatch h), fun h => absurd h.1 hnarrow⟩

theorem compileLine_ne_misplaced (line : Text) : compileLine line ≠ .error .misplaced := by
  by_cases hnarrow : Narrow line
  · rw [compileLine_of_narrow hnarrow]
    exact mapError_fault_ne_misplaced _
  · rw [compileLine_eq_overflow_iff.2 hnarrow]
    exact fun h => nomatch h

/-- Compiling halts only at a fault or for want of room. -/
theorem fault_or_overflow_of_compile_eq_error {source : Text} {halt : Halt}
    (h : compile source = .error halt) :
    (∃ e, halt = .fault e) ∨ halt = .overflow ∧ ∃ line ∈ source.lines, ¬ Narrow line := by
  obtain ⟨before, line, after, hlines, -, hline⟩ := mapM_eq_error_iff.1 (map_eq_error_iff.1 h)
  cases halt with
  | misplaced => exact absurd hline (compileLine_ne_misplaced line)
  | overflow =>
    exact Or.inr ⟨rfl, line, by simp [hlines], compileLine_eq_overflow_iff.1 hline⟩
  | fault e => exact Or.inl ⟨e, rfl⟩

theorem compile_ne_misplaced (source : Text) : compile source ≠ .error .misplaced := by
  intro h
  rcases fault_or_overflow_of_compile_eq_error h with ⟨e, he⟩ | ⟨he, -⟩ <;> cases he

/-- A text of one line that begins with too many blanks does not compile. -/
theorem compile_eq_overflow {blanks t : Text} (hblank : ∀ c ∈ blanks, Text.isBlank c)
    (hlength : UInt16.size ≤ blanks.length) (hfeed : '\n' ∉ blanks ++ t) :
    compile (blanks ++ t) = .error .overflow := by
  have hne : blanks ++ t ≠ [] := List.append_ne_nil_of_left_ne_nil
    (List.ne_nil_of_length_pos (Nat.lt_of_lt_of_le (by decide) hlength)) t
  rw [compile, Text.lines_of_newline_not_mem hfeed hne, List.mapM_cons,
    compileLine_eq_overflow_iff.2 (not_narrow_append hblank hlength t)]
  rfl

/-- Where there is room for the columns, a text compiles to what it reads as. -/
theorem compile_of_narrow {source : Text} (h : ∀ line ∈ source.lines, Narrow line) :
    compile source = (read source).mapError .fault := by
  have hlines : source.lines.mapM compileLine =
      source.lines.mapM fun line => (ofLine line).mapError .fault :=
    mapM_congr_left fun line hline => compileLine_of_narrow (h line hline)
  rw [compile, read, hlines, mapM_mapError]
  cases source.lines.mapM ofLine <;> rfl

/-- What a text compiles to is what it reads as, and there was room for the columns. -/
theorem compile_eq_ok_iff {source : Text} {s : Span} :
    compile source = .ok s ↔ (∀ line ∈ source.lines, Narrow line) ∧ read source = .ok s := by
  constructor
  · intro h
    obtain ⟨spans, hspans, -⟩ := map_eq_ok_iff.1 h
    have hnarrow : ∀ line ∈ source.lines, Narrow line := fun line hline =>
      have ⟨_, hcompile⟩ := exists_mapM_eq_ok_iff.1 ⟨spans, hspans⟩ line hline
      (compileLine_eq_ok_iff.1 hcompile).1
    rw [compile_of_narrow hnarrow, mapError_eq_ok_iff] at h
    exact ⟨hnarrow, h⟩
  · rintro ⟨hnarrow, h⟩
    rw [compile_of_narrow hnarrow, mapError_eq_ok_iff, h]

end Span

end AstHierarchy
