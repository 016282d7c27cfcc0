import AstHierarchy.Proofs.Template.ListOptions

/-!
# The line scanner

A line scanner counts characters, bytes and columns, and cuts pieces out of the line where the
bytes say. `LineScanner.Stands` says what its numbers mean: how the line is divided into what has
been read and what has not, and that what is left to be read gives the rest of the instructions.
The relation holds at the start, and reading a character keeps it or halts as compiling the line
does.

* `LineScanner.Stands.step` is the step from one character to the next.
* `LineScanner.Reached.inPlace` says that no number is ever out of place.
* `LineScanner.scan_eq` says that a scanner finds the instructions for the line.
-/

namespace AstHierarchy

open Text

/-! ## Pieces of a line -/

namespace LineScanner

variable {line rest : Text} {s : LineScanner}

theorem utf8Size_append_percent (t : Text) : (t ++ ['%']).utf8Size = t.utf8Size + 1 :=
  utf8Size_append t ['%']

/-- The name follows the percent sign that begins the reference. -/
theorem slice?_name {passed name : Text} (hline : line = passed ++ '%' :: (name ++ rest)) :
    slice? line (passed.utf8Size + 1) (passed ++ '%' :: name).utf8Size = some name := by
  have h := slice?_append (passed ++ ['%']) name rest
  rw [utf8Size_append_percent, List.append_assoc, List.append_assoc] at h
  rw [hline]
  exact h

theorem endText_eq {passed text : Text} (hline : line = passed ++ (text ++ rest))
    (hstart : s.start = passed.utf8Size) :
    endText line s (passed ++ text).utf8Size =
      .ok { s with position := s.position + 1, mode := .reference,
                   start := (passed ++ text).utf8Size, span := s.span ++ Span.ofText text } := by
  rw [endText]
  by_cases htext : text = []
  · subst htext
    rw [List.append_nil, if_neg (by omega), Span.ofText_nil, List.append_nil]
    rfl
  · have hslice := slice?_append passed text rest
    have hpos : text.utf8Size ≠ 0 := fun hzero => htext (eq_nil_of_utf8Size_eq_zero hzero)
    rw [← hline, ← hstart] at hslice
    rw [if_pos (by rw [utf8Size_append]; omega), hslice, Span.ofText_of_ne_nil htext]
    rfl

/-- A reference without options is scanned as what stands between its percent signs is read. -/
theorem plainReference_eq {front name : Text} (hline : line = front ++ '%' :: rest)
    (hname : '/' ∉ name) :
    ∃ i, Instruction.ofReference line name = .ok i ∧
      plainReference line name front.utf8Size = .ok i := by
  by_cases hempty : name = []
  · subst hempty
    have hslice := slice?_append front ['%'] rest
    rw [utf8Size_append_percent, List.singleton_append, ← hline] at hslice
    exact ⟨_, ofReference_nil line, by rw [plainReference, hslice]; rfl⟩
  · have hne : ¬ name.isEmpty = true := by rwa [List.isEmpty_iff]
    refine ⟨.reference name {}, ?_, if_neg hne⟩
    rw [Instruction.ofReference, if_neg hne, cutAt_eq_none_iff.2 hname]

theorem endReference_eq {passed name : Text} (hline : line = passed ++ '%' :: (name ++ '%' :: rest))
    (hname : '/' ∉ name) (hstart : s.start = passed.utf8Size) :
    ∃ i, Instruction.ofReference line name = .ok i ∧
      endReference line s (passed ++ '%' :: name).utf8Size =
        .ok { s with position := s.position + 1, mode := .verbatim,
                     start := (passed ++ '%' :: name).utf8Size + 1, span := s.span ++ [i] } := by
  have hfront : line = (passed ++ '%' :: name) ++ '%' :: rest := by simp [hline]
  obtain ⟨i, hi, hplain⟩ := plainReference_eq hfront hname
  refine ⟨i, hi, ?_⟩
  rw [endReference, hstart, slice?_name hline, orMisplaced_some, ok_bind, hplain]
  rfl

/-- A list whose options are in order ends with the next percent sign. -/
theorem endList_eq_ok {passed name options : Text} {layout : ListLayout}
    (hline : line = passed ++ '%' :: (name ++ '/' :: (options ++ '%' :: rest)))
    (hoptions : '%' ∉ options) (hlayout : ListLayout.ofText? options = some layout)
    (hstart : s.start = passed.utf8Size) (hposition : s.position = (passed ++ '%' :: name).length) :
    endList line s (passed ++ '%' :: name).utf8Size =
      .ok { s with position := (passed ++ '%' :: (name ++ '/' :: options)).length + 1,
                   mode := .verbatim,
                   start := (passed ++ '%' :: (name ++ '/' :: options)).utf8Size + 1,
                   span := s.span ++ [.reference name layout] } := by
  have hscan := scanOptions_eq (passed ++ '%' :: name) hoptions ('%' :: rest) (by simp)
  have hclose := getElem?_places (passed ++ '%' :: (name ++ '/' :: options)) '%' rest
  have hfront : line = (passed ++ '%' :: name) ++ '/' :: (options ++ '%' :: rest) := by simp [hline]
  have hclosed : line = passed ++ '%' :: (name ++ '/' :: options) ++ '%' :: rest := by simp [hline]
  have happend : passed ++ '%' :: name ++ '/' :: options =
      passed ++ '%' :: (name ++ '/' :: options) := by simp
  rw [← hfront, ← hposition, hlayout, happend] at hscan
  rw [← hclosed] at hclose
  rw [endList, hstart, slice?_name hline, orMisplaced_some, ok_bind, hscan]
  simp only [ne_eq, List.cons_ne_nil, not_false_eq_true, if_true, ok_bind, hclose, orMisplaced_some,
    pure_eq_ok]

theorem endList_eq_error {passed name options tail : Text}
    (hline : line = passed ++ '%' :: (name ++ '/' :: (options ++ tail)))
    (hoptions : '%' ∉ options) (htail : ∀ c ∈ tail.head?, c = '%')
    (h : tail = [] ∨ ListLayout.ofText? options = none)
    (hstart : s.start = passed.utf8Size) (hposition : s.position = (passed ++ '%' :: name).length) :
    endList line s (passed ++ '%' :: name).utf8Size = .error (.fault (.badOptions line)) := by
  have hscan := scanOptions_eq (passed ++ '%' :: name) hoptions tail htail
  have hfront : line = (passed ++ '%' :: name) ++ '/' :: (options ++ tail) := by simp [hline]
  rw [← hfront, ← hposition] at hscan
  rw [endList, hstart, slice?_name hline, orMisplaced_some, ok_bind, hscan]
  rcases h with rfl | h
  · cases ListLayout.ofText? options <;> rfl
  · rw [h]
    rfl

/-! ## Where the scanner stands -/

/-- Only blanks have been read. -/
structure InBlanks (line blanks rest : Text) (s : LineScanner) : Prop where
  mode_eq : s.mode = .indentation
  line_eq : line = blanks ++ rest
  blank : ∀ b ∈ blanks, isBlank b
  position_eq : s.position = blanks.length
  columns_eq : s.columns.toNat = blanks.length
  start_eq : s.start = 0
  span_eq : s.span = []

/-- This text has been read since something ended. -/
structure InText (line passed text rest : Text) (s : LineScanner) : Prop where
  mode_eq : s.mode = .verbatim
  line_eq : line = passed ++ (text ++ rest)
  percent_not_mem : '%' ∉ text
  position_eq : s.position = (passed ++ text).length
  columns_eq : s.columns.toNat = (line.takeWhile isBlank).length
  start_eq : s.start = passed.utf8Size
  continues : Span.Continues line s.span (text ++ rest)

/-- A percent sign and this part of a name have been read since something ended. -/
structure InReference (line passed name rest : Text) (s : LineScanner) : Prop where
  mode_eq : s.mode = .reference
  line_eq : line = passed ++ '%' :: (name ++ rest)
  percent_not_mem : '%' ∉ name
  slash_not_mem : '/' ∉ name
  position_eq : s.position = (passed ++ '%' :: name).length
  columns_eq : s.columns.toNat = (line.takeWhile isBlank).length
  start_eq : s.start = passed.utf8Size
  continues : Span.Continues line s.span ('%' :: (name ++ rest))

/-- The scanner has read the line up to `rest`, and its numbers are in place. -/
inductive Stands (line rest : Text) (s : LineScanner) : Prop where
  | indentation {blanks : Text} (h : InBlanks line blanks rest s)
  | verbatim {passed text : Text} (h : InText line passed text rest s)
  | reference {passed name : Text} (h : InReference line passed name rest s)

theorem stands_start (line : Text) : Stands line line {} :=
  .indentation ⟨rfl, (List.nil_append line).symm, List.forall_mem_nil _, rfl, rfl, rfl, rfl⟩

/-! ### The next character -/

theorem step_of_indentation (h : s.mode = .indentation) (line : Text) (offset : Nat) (c : Char) :
    step line s offset c =
      if isBlank c then
        (addColumn s.columns).map fun columns => { s with position := s.position + 1, columns }
      else .ok { s with position := s.position + 1,
                        mode := if c = '%' then .reference else .verbatim,
                        start := offset, span := s.span ++ Span.ofIndentation s.columns.toNat } := by
  simp only [step, h]

theorem step_of_verbatim (h : s.mode = .verbatim) (line : Text) (offset : Nat) (c : Char) :
    step line s offset c =
      if c = '%' then endText line s offset else .ok { s with position := s.position + 1 } := by
  simp only [step, h]

theorem step_of_reference (h : s.mode = .reference) (line : Text) (offset : Nat) (c : Char) :
    step line s offset c =
      if c = '%' then endReference line s offset
      else if c = '/' then endList line s offset
      else .ok { s with position := s.position + 1 } := by
  simp only [step, h]

/-- The blanks of a line that have been counted can be counted. -/
theorem narrow_of_toNat_eq {columns : UInt16}
    (h : columns.toNat = (line.takeWhile isBlank).length) : Narrow line := by
  rw [Narrow, ← h]
  exact columns.toNat_lt_size

/-- Another blank for which there is room. -/
theorem InBlanks.blank_next {blanks : Text} {c : Char} {columns : UInt16}
    (h : InBlanks line blanks (c :: rest) s) (hc : isBlank c)
    (hcolumns : columns.toNat = s.columns.toNat + 1) : InBlanks line (blanks ++ [c]) rest
      { s with position := s.position + 1, columns } where
  mode_eq := h.mode_eq
  line_eq := by rw [h.line_eq, List.append_assoc, List.singleton_append]
  blank := List.forall_mem_append.2 ⟨h.blank, List.forall_mem_singleton.2 hc⟩
  position_eq := by simp [h.position_eq]
  columns_eq := by simp [hcolumns, h.columns_eq]
  start_eq := h.start_eq
  span_eq := h.span_eq

/-- Another blank for which there is no room. -/
theorem InBlanks.not_narrow {blanks : Text} {c : Char} (h : InBlanks line blanks (c :: rest) s)
    (hc : isBlank c) (hcolumns : UInt16.size ≤ s.columns.toNat + 1) : ¬ Narrow line := by
  have hblank : ∀ b ∈ blanks ++ [c], isBlank b :=
    List.forall_mem_append.2 ⟨h.blank, List.forall_mem_singleton.2 hc⟩
  have hwide := not_narrow_append hblank
    (by rwa [List.length_append, List.length_singleton, ← h.columns_eq]) rest
  rwa [List.append_assoc, List.singleton_append, ← h.line_eq] at hwide

theorem InBlanks.columns_le {blanks : Text} (h : InBlanks line blanks rest s) :
    s.columns.toNat ≤ (line.takeWhile isBlank).length := by
  rw [h.columns_eq, h.line_eq]
  exact length_le_takeWhile_append h.blank rest

/-- The blanks end where something else follows. -/
theorem InBlanks.columns_eq_takeWhile {blanks : Text} {c : Char}
    (h : InBlanks line blanks (c :: rest) s) (hc : ¬ isBlank c = true) :
    s.columns.toNat = (line.takeWhile isBlank).length := by
  rw [h.columns_eq, h.line_eq, List.takeWhile_append_of_pos h.blank,
    List.takeWhile_cons_of_neg hc, List.append_nil]

theorem InBlanks.continues {blanks : Text} {c : Char} (h : InBlanks line blanks (c :: rest) s)
    (hc : ¬ isBlank c = true) :
    Span.Continues line (s.span ++ Span.ofIndentation s.columns.toNat) (c :: rest) := by
  rw [h.span_eq, List.nil_append, h.columns_eq]
  exact Span.continues_of_blank h.line_eq h.blank hc

/-- The first character that is not blank. -/
theorem InBlanks.text_next {blanks : Text} {c : Char} (h : InBlanks line blanks (c :: rest) s)
    (hc : ¬ isBlank c = true) (hpercent : c ≠ '%') : InText line blanks [c] rest
      { s with position := s.position + 1, mode := .verbatim, start := blanks.utf8Size,
               span := s.span ++ Span.ofIndentation s.columns.toNat } where
  mode_eq := rfl
  line_eq := h.line_eq
  percent_not_mem := by simpa using Ne.symm hpercent
  position_eq := by simp [h.position_eq]
  columns_eq := h.columns_eq_takeWhile hc
  start_eq := rfl
  continues := h.continues hc

/-- A percent sign right after the blanks. -/
theorem InBlanks.reference_next {blanks : Text} (h : InBlanks line blanks ('%' :: rest) s) :
    InReference line blanks [] rest
      { s with position := s.position + 1, mode := .reference, start := blanks.utf8Size,
               span := s.span ++ Span.ofIndentation s.columns.toNat } where
  mode_eq := rfl
  line_eq := h.line_eq
  percent_not_mem := List.not_mem_nil
  slash_not_mem := List.not_mem_nil
  position_eq := by simp [h.position_eq]
  columns_eq := h.columns_eq_takeWhile (by decide)
  start_eq := rfl
  continues := h.continues (by decide)

/-- Another character of the text. -/
theorem InText.text_next {passed text : Text} {c : Char}
    (h : InText line passed text (c :: rest) s) (hc : c ≠ '%') :
    InText line passed (text ++ [c]) rest { s with position := s.position + 1 } where
  mode_eq := h.mode_eq
  line_eq := by simp [h.line_eq]
  percent_not_mem := by simp [h.percent_not_mem, Ne.symm hc]
  position_eq := by simp [h.position_eq, Nat.add_assoc]
  columns_eq := h.columns_eq
  start_eq := h.start_eq
  continues := by simpa using h.continues

/-- A percent sign after the text. -/
theorem InText.reference_next {passed text : Text} (h : InText line passed text ('%' :: rest) s) :
    InReference line (passed ++ text) [] rest
      { s with position := s.position + 1, mode := .reference, start := (passed ++ text).utf8Size,
               span := s.span ++ Span.ofText text } where
  mode_eq := rfl
  line_eq := by simp [h.line_eq]
  percent_not_mem := List.not_mem_nil
  slash_not_mem := List.not_mem_nil
  position_eq := by simp [h.position_eq, Nat.add_assoc]
  columns_eq := h.columns_eq
  start_eq := rfl
  continues := h.continues.text h.percent_not_mem

/-- Another character of the name. -/
theorem InReference.name_next {passed name : Text} {c : Char}
    (h : InReference line passed name (c :: rest) s) (hc : c ≠ '%') (hslash : c ≠ '/') :
    InReference line passed (name ++ [c]) rest { s with position := s.position + 1 } where
  mode_eq := h.mode_eq
  line_eq := by simp [h.line_eq]
  percent_not_mem := by simp [h.percent_not_mem, Ne.symm hc]
  slash_not_mem := by simp [h.slash_not_mem, Ne.symm hslash]
  position_eq := by simp [h.position_eq, Nat.add_assoc]
  columns_eq := h.columns_eq
  start_eq := h.start_eq
  continues := by simpa using h.continues

/-- After the percent sign that ends a reference everything stands for itself again. -/
theorem inText_after_percent {passed inner : Text} {i : Instruction} {columns : UInt16}
    {span : Span}
    (hline : line = passed ++ '%' :: (inner ++ '%' :: rest)) (hinner : '%' ∉ inner)
    (hi : Instruction.ofReference line inner = .ok i)
    (hcolumns : columns.toNat = (line.takeWhile isBlank).length)
    (hread : Span.Continues line span ('%' :: (inner ++ '%' :: rest))) :
    InText line (passed ++ '%' :: inner ++ ['%']) [] rest
      { position := (passed ++ '%' :: inner).length + 1, mode := .verbatim, columns,
        start := (passed ++ '%' :: inner).utf8Size + 1, span := span ++ [i] } where
  mode_eq := rfl
  line_eq := by simp [hline]
  percent_not_mem := List.not_mem_nil
  position_eq := by simp [Nat.add_assoc]
  columns_eq := hcolumns
  start_eq := (utf8Size_append_percent _).symm
  continues := hread.reference hinner hi

/-- Reading a character leads on, or it halts as compiling the line does. -/
def Proceeds (line rest : Text) (result : Except Halt LineScanner) : Prop :=
  (∃ s' more, result = .ok s' ∧ Stands line more s' ∧ more.length ≤ rest.length) ∨
  ∃ halt, result = .error halt ∧ Span.compileLine line = .error halt

theorem Stands.proceeds {more : Text} {s' : LineScanner} (h : Stands line more s')
    (hmore : more.length ≤ rest.length) : Proceeds line rest (.ok s') :=
  Or.inl ⟨s', more, rfl, h, hmore⟩

theorem Proceeds.compileLine_eq {halt : Halt} (h : Proceeds line rest (.error halt)) :
    Span.compileLine line = .error halt := by
  rcases h with ⟨s', more, hok, -⟩ | ⟨_, herror, hline⟩
  · cases hok
  · rw [Except.error.inj herror]
    exact hline

theorem InBlanks.proceeds {blanks : Text} {c : Char} (h : InBlanks line blanks (c :: rest) s) :
    Proceeds line rest (step line s blanks.utf8Size c) := by
  rw [step_of_indentation h.mode_eq]
  by_cases hc : isBlank c
  · rw [if_pos hc]
    by_cases hroom : s.columns.toNat + 1 < UInt16.size
    · obtain ⟨columns, hadd, hcolumns⟩ := addColumn_of_lt hroom
      rw [hadd, map_ok]
      exact (Stands.indentation (h.blank_next hc hcolumns)).proceeds (Nat.le_refl _)
    · have hfull := Nat.not_lt.1 hroom
      rw [addColumn_of_le hfull, map_error]
      exact Or.inr ⟨_, rfl, Span.compileLine_eq_overflow_iff.2 (h.not_narrow hc hfull)⟩
  · rw [if_neg hc]
    by_cases hpercent : c = '%'
    · rw [if_pos hpercent]
      subst hpercent
      exact (Stands.reference h.reference_next).proceeds (Nat.le_refl _)
    · rw [if_neg hpercent]
      exact (Stands.verbatim (h.text_next hc hpercent)).proceeds (Nat.le_refl _)

theorem InText.proceeds {passed text : Text} {c : Char}
    (h : InText line passed text (c :: rest) s) :
    Proceeds line rest (step line s (passed ++ text).utf8Size c) := by
  rw [step_of_verbatim h.mode_eq]
  by_cases hc : c = '%'
  · subst hc
    rw [if_pos rfl, endText_eq h.line_eq h.start_eq]
    exact (Stands.reference h.reference_next).proceeds (Nat.le_refl _)
  · rw [if_neg hc]
    exact (Stands.verbatim (h.text_next hc)).proceeds (Nat.le_refl _)

theorem InReference.proceeds_endList {passed name : Text}
    (h : InReference line passed name ('/' :: rest) s) :
    Proceeds line rest (endList line s (passed ++ '%' :: name).utf8Size) := by
  have hnarrow := narrow_of_toNat_eq h.columns_eq
  cases hcut : cutAt '%' rest with
  | none =>
    have hrest := cutAt_eq_none_iff.1 hcut
    have hinner : '%' ∉ name ++ '/' :: rest := by simp [h.percent_not_mem, hrest]
    have hline : line = passed ++ '%' :: (name ++ '/' :: (rest ++ [])) := by
      rw [h.line_eq, List.append_nil]
    have hend := h.continues.ofLine_eq_unended hinner
    rw [if_pos (by simp)] at hend
    exact Or.inr ⟨_, endList_eq_error hline hrest (by simp) (Or.inl rfl) h.start_eq h.position_eq,
      Span.compileLine_eq_fault_iff.2 ⟨hnarrow, hend⟩⟩
  | some sides =>
    obtain ⟨options, after⟩ := sides
    obtain ⟨rfl, hoptions⟩ := cutAt_eq_some_iff.1 hcut
    have hinner : '%' ∉ name ++ '/' :: options := by simp [h.percent_not_mem, hoptions]
    have hreference := ofReference_slash line h.slash_not_mem options
    have hline := h.line_eq
    have hread := h.continues
    have hwhole : name ++ '/' :: (options ++ '%' :: after) =
        name ++ '/' :: options ++ '%' :: after := by simp
    rw [hwhole] at hline hread
    cases hlayout : ListLayout.ofText? options with
    | none =>
      rw [hlayout] at hreference
      exact Or.inr ⟨_, endList_eq_error h.line_eq hoptions (by simp) (Or.inr hlayout) h.start_eq
        h.position_eq,
        Span.compileLine_eq_fault_iff.2 ⟨hnarrow, hread.ofLine_eq_error hinner hreference⟩⟩
    | some layout =>
      rw [hlayout] at hreference
      rw [endList_eq_ok h.line_eq hoptions hlayout h.start_eq h.position_eq]
      have hnext := inText_after_percent hline hinner hreference h.columns_eq hread
      refine (Stands.verbatim hnext).proceeds ?_
      simp only [List.length_append, List.length_cons]
      omega

theorem InReference.proceeds {passed name : Text} {c : Char}
    (h : InReference line passed name (c :: rest) s) :
    Proceeds line rest (step line s (passed ++ '%' :: name).utf8Size c) := by
  rw [step_of_reference h.mode_eq]
  by_cases hc : c = '%'
  · subst hc
    obtain ⟨i, hi, hend⟩ := endReference_eq h.line_eq h.slash_not_mem h.start_eq
    rw [if_pos rfl, hend, h.position_eq]
    have hnext := inText_after_percent h.line_eq h.percent_not_mem hi h.columns_eq h.continues
    exact (Stands.verbatim hnext).proceeds (Nat.le_refl _)
  rw [if_neg hc]
  by_cases hslash : c = '/'
  · subst hslash
    rw [if_pos rfl]
    exact h.proceeds_endList
  · rw [if_neg hslash]
    exact (Stands.reference (h.name_next hc hslash)).proceeds (Nat.le_refl _)

/-- **Reading a character keeps everything in place.** -/
theorem Stands.step {before : Text} {c : Char} (h : Stands line (c :: rest) s)
    (hline : line = before ++ c :: rest) :
    Proceeds line rest (LineScanner.step line s before.utf8Size c) := by
  cases h with
  | @indentation blanks h =>
    obtain rfl : before = blanks := List.append_cancel_right (hline.symm.trans h.line_eq)
    exact h.proceeds
  | @verbatim passed text h =>
    obtain rfl : before = passed ++ text :=
      List.append_cancel_right (hline.symm.trans (by rw [h.line_eq, List.append_assoc]))
    exact h.proceeds
  | @reference passed name h =>
    obtain rfl : before = passed ++ '%' :: name :=
      List.append_cancel_right (hline.symm.trans (by simp [h.line_eq]))
    exact h.proceeds

/-- What has been read, and what of it has been read since something ended. -/
theorem Stands.exists_line_eq (h : Stands line rest s) :
    ∃ passed piece, line = passed ++ (piece ++ rest) ∧ s.start = passed.utf8Size ∧
      s.position = (passed ++ piece).length ∧
      (s.mode = .reference → ∃ name, piece = '%' :: name) := by
  cases h with
  | @indentation blanks h =>
    refine ⟨[], blanks, h.line_eq, h.start_eq, h.position_eq, fun hmode => ?_⟩
    cases h.mode_eq.symm.trans hmode
  | @verbatim passed text h =>
    refine ⟨passed, text, h.line_eq, h.start_eq, h.position_eq, fun hmode => ?_⟩
    cases h.mode_eq.symm.trans hmode
  | @reference passed name h =>
    exact ⟨passed, '%' :: name, h.line_eq, h.start_eq, h.position_eq, fun _ => ⟨name, rfl⟩⟩

/-- The position is the number of characters that have been read. -/
theorem Stands.exists_position_eq (h : Stands line rest s) :
    ∃ before, line = before ++ rest ∧ s.position = before.length := by
  obtain ⟨passed, piece, hline, -, hposition, -⟩ := h.exists_line_eq
  exact ⟨passed ++ piece, by rw [hline, List.append_assoc], hposition⟩

theorem Stands.position_le (h : Stands line rest s) : s.position ≤ line.length := by
  obtain ⟨before, hline, hposition⟩ := h.exists_position_eq
  rw [hposition, hline, List.length_append]
  exact Nat.le_add_right _ _

theorem Stands.columns_le (h : Stands line rest s) :
    s.columns.toNat ≤ (line.takeWhile isBlank).length := by
  cases h with
  | indentation h => exact h.columns_le
  | verbatim h => exact Nat.le_of_eq h.columns_eq
  | reference h => exact Nat.le_of_eq h.columns_eq

/-! ## Whole lines -/

theorem InBlanks.finish_eq {blanks : Text} (h : InBlanks line blanks [] s) :
    finish line s = Span.compileLine line := by
  have htake : line.takeWhile isBlank = blanks := by
    rw [h.line_eq, List.takeWhile_append_of_pos h.blank, List.takeWhile_nil, List.append_nil]
  have hdrop : trimStart line = [] := by
    rw [h.line_eq, trimStart, List.dropWhile_append_of_pos h.blank, List.dropWhile_nil]
  have hnarrow := narrow_of_toNat_eq (h.columns_eq.trans (congrArg List.length htake.symm))
  simp only [finish, h.mode_eq]
  rw [Span.compileLine_of_narrow hnarrow, h.span_eq, h.columns_eq, Span.ofLine, htake, hdrop,
    Span.ofPieces_splitOn_text line List.not_mem_nil, Span.ofText_nil, map_ok, List.append_nil]
  rfl

theorem InText.finish_eq {passed text : Text} (h : InText line passed text [] s) :
    finish line s = Span.compileLine line := by
  have hslice := slice?_append passed text []
  have hline := h.line_eq
  have hread := h.continues
  rw [List.append_nil] at hslice hline hread
  rw [← hline, ← h.start_eq] at hslice
  simp only [finish, h.mode_eq]
  rw [Span.compileLine_of_narrow (narrow_of_toNat_eq h.columns_eq),
    hread.ofLine_eq_ok h.percent_not_mem, hslice]
  rfl

theorem InReference.finish_eq {passed name : Text} (h : InReference line passed name [] s) :
    finish line s = Span.compileLine line := by
  have hread := h.continues
  rw [List.append_nil] at hread
  simp only [finish, h.mode_eq]
  rw [Span.compileLine_of_narrow (narrow_of_toNat_eq h.columns_eq),
    hread.ofLine_eq_unended h.percent_not_mem, if_neg (by simpa using h.slash_not_mem)]
  rfl

/-- What is found, or reported, when all characters have been read. -/
theorem Stands.finish_eq (h : Stands line [] s) :
    finish line s = Span.compileLine line := by
  cases h with
  | indentation h => exact h.finish_eq
  | verbatim h => exact h.finish_eq
  | reference h => exact h.finish_eq

theorem Stands.exists_place {c : Char} (h : Stands line (c :: rest) s) :
    ∃ before, line = before ++ c :: rest ∧
      (places line)[s.position]? = some (before.utf8Size, c) := by
  obtain ⟨before, hline, hposition⟩ := h.exists_position_eq
  refine ⟨before, hline, ?_⟩
  rw [hposition, hline]
  exact getElem?_places before c rest

/-- The scanner stands at the character that the position gives. -/
theorem Stands.exists_eq_cons {offset : Nat} {c : Char} (h : Stands line rest s)
    (hplace : (places line)[s.position]? = some (offset, c)) :
    ∃ before more, rest = c :: more ∧ line = before ++ c :: more ∧ before.utf8Size = offset := by
  obtain ⟨before, hline, hposition⟩ := h.exists_position_eq
  obtain ⟨front, more, hfront, hlength, hsize⟩ := getElem?_places_eq_some_iff.1 hplace
  obtain ⟨rfl, rfl⟩ :=
    List.append_inj (hfront.symm.trans hline) (hlength.trans hposition)
  exact ⟨front, more, rfl, hline, hsize⟩

theorem Stands.eq_nil (h : Stands line rest s) (hplace : (places line)[s.position]? = none) :
    rest = [] := by
  cases rest with
  | nil => rfl
  | cons c rest =>
    obtain ⟨before, -, hsome⟩ := h.exists_place
    cases hplace.symm.trans hsome

/-- Reading the rest of the line. -/
theorem Stands.run_bind_finish (h : Stands line rest s) :
    (run line s >>= finish line) = Span.compileLine line := by
  induction hn : rest.length using Nat.strongRecOn generalizing rest s with
  | _ n ih =>
    cases rest with
    | nil =>
      obtain ⟨before, hline, hposition⟩ := h.exists_position_eq
      have hlength : (places line).length = s.position := by
        rw [length_places, hline, List.append_nil, hposition]
      rw [run_of_eq_none (List.getElem?_eq_none (Nat.le_of_eq hlength)), ok_bind]
      exact h.finish_eq
    | cons c rest =>
      obtain ⟨before, hline, hplace⟩ := h.exists_place
      rw [run_of_eq_some hplace]
      rcases h.step hline with ⟨s', more, hstep, hstands, hmore⟩ | ⟨halt, hstep, hhalt⟩
      · rw [hstep, ok_bind]
        exact ih more.length (by rw [← hn, List.length_cons]; omega) hstands rfl
      · rw [hstep, hhalt]
        rfl

/-- **A line is scanned as it is compiled.** -/
theorem scan_eq (line : Text) : scan line = Span.compileLine line :=
  (stands_start line).run_bind_finish

/-! ## Every state of a scanner -/

/-- A scanner that reads the line can come to the state. -/
inductive Reached (line : Text) : LineScanner → Prop where
  /-- Before the first character. -/
  | start : Reached line {}
  /-- After one more character. -/
  | step {s s' : LineScanner} {offset : Nat} {c : Char} (h : Reached line s)
    (hplace : (places line)[s.position]? = some (offset, c))
    (hstep : step line s offset c = .ok s') : Reached line s'

/-- The numbers of the scanner are those of places in the line, and nothing that it goes on to ask
for is missing. -/
structure InPlace (line : Text) (s : LineScanner) : Prop where
  position_le : s.position ≤ line.length
  /-- The columns are counted for blanks that begin the line. -/
  columns_le : s.columns.toNat ≤ (line.takeWhile isBlank).length
  start_le : s.start ≤ line.utf8Size
  isBoundary_start : line.IsBoundary s.start
  /-- What is being read as a reference begins with a percent sign. -/
  beginsAt_start : s.mode = .reference → line.BeginsAt s.start '%'
  /-- The next character comes after what is being read. -/
  place {offset : Nat} {c : Char} (h : (places line)[s.position]? = some (offset, c)) :
    line.IsBoundary offset ∧ s.start ≤ offset ∧
    (s.mode = .reference → s.start + 1 ≤ offset ∧ line.IsBoundary (s.start + 1))
  /-- The next character is read without a slice that is not there, and only once. There is room
  for it unless the line has too many blanks. -/
  step {offset : Nat} {c : Char} (h : (places line)[s.position]? = some (offset, c)) :
    step line s offset c ≠ .error .misplaced ∧
    (step line s offset c = .error .overflow → ¬ Narrow line) ∧
    ∀ s', step line s offset c = .ok s' → s.position < s'.position ∧ s'.position ≤ line.length
  /-- Nothing is missing at the end, and nothing is counted there. -/
  finish (h : (places line)[s.position]? = none) :
    finish line s ≠ .error .misplaced ∧ finish line s ≠ .error .overflow

theorem Reached.exists_stands (h : Reached line s) : ∃ rest, Stands line rest s := by
  induction h with
  | start => exact ⟨line, stands_start line⟩
  | @step s s' offset c _ hplace hstep ih =>
    obtain ⟨rest, hstands⟩ := ih
    obtain ⟨before, more, rfl, hline, rfl⟩ := hstands.exists_eq_cons hplace
    have hproceeds := hstands.step hline
    rw [hstep] at hproceeds
    rcases hproceeds with ⟨s'', after, hok, hstands', -⟩ | ⟨halt, herror, -⟩
    · rw [Except.ok.inj hok]
      exact ⟨after, hstands'⟩
    · cases herror

/-- The next character comes after what is being read. -/
theorem Stands.place {offset : Nat} {c : Char} (h : Stands line rest s)
    (hplace : (places line)[s.position]? = some (offset, c)) :
    line.IsBoundary offset ∧ s.start ≤ offset ∧
    (s.mode = .reference → s.start + 1 ≤ offset ∧ line.IsBoundary (s.start + 1)) := by
  obtain ⟨passed, piece, hline, hstart, -, hpercent⟩ := h.exists_line_eq
  obtain ⟨before, more, rfl, hbefore, rfl⟩ := h.exists_eq_cons hplace
  obtain rfl : before = passed ++ piece :=
    List.append_cancel_right (hbefore.symm.trans (by rw [hline, List.append_assoc]))
  rw [hstart, utf8Size_append]
  refine ⟨⟨passed ++ piece, c :: more, hbefore, utf8Size_append passed piece⟩,
    Nat.le_add_right _ _, fun hmode => ?_⟩
  obtain ⟨name, rfl⟩ := hpercent hmode
  have hone : utf8Size ('%' :: name) = 1 + utf8Size name := rfl
  refine ⟨by omega, passed ++ ['%'], name ++ c :: more, ?_, utf8Size_append_percent passed⟩
  rw [hline, List.append_assoc]
  rfl

/-- The next character is read without a slice that is not there, and only once. -/
theorem Stands.advances {offset : Nat} {c : Char} (h : Stands line rest s)
    (hplace : (places line)[s.position]? = some (offset, c)) :
    LineScanner.step line s offset c ≠ .error .misplaced ∧
    (LineScanner.step line s offset c = .error .overflow → ¬ Narrow line) ∧
    ∀ s', LineScanner.step line s offset c = .ok s' →
      s.position < s'.position ∧ s'.position ≤ line.length := by
  obtain ⟨before, more, rfl, hline, rfl⟩ := h.exists_eq_cons hplace
  have hproceeds := h.step hline
  refine ⟨fun hstep => ?_, fun hstep => ?_, fun s' hstep => ⟨position_lt_of_step hstep, ?_⟩⟩
  · rw [hstep] at hproceeds
    exact Span.compileLine_ne_misplaced line hproceeds.compileLine_eq
  · rw [hstep] at hproceeds
    exact Span.compileLine_eq_overflow_iff.1 hproceeds.compileLine_eq
  · rw [hstep] at hproceeds
    rcases hproceeds with ⟨s'', after, hok, hstands, -⟩ | ⟨halt, herror, -⟩
    · rw [Except.ok.inj hok]
      exact hstands.position_le
    · cases herror

theorem finish_ne_overflow (line : Text) (s : LineScanner) : finish line s ≠ .error .overflow := by
  unfold finish
  split
  · exact fun h => nomatch h
  · cases slice? line s.start line.utf8Size <;> exact fun h => nomatch h
  · exact fun h => nomatch h

/-- **A scanner never loses its place.** -/
theorem Reached.inPlace (h : Reached line s) : InPlace line s := by
  obtain ⟨rest, hstands⟩ := h.exists_stands
  obtain ⟨passed, piece, hline, hstart, -, hpercent⟩ := hstands.exists_line_eq
  refine ⟨hstands.position_le, hstands.columns_le, ?_, ⟨passed, piece ++ rest, hline, hstart.symm⟩,
    fun hmode => ?_, hstands.place, hstands.advances, fun hplace => ?_⟩
  · rw [hstart, hline, utf8Size_append]
    exact Nat.le_add_right _ _
  · obtain ⟨name, rfl⟩ := hpercent hmode
    exact ⟨passed, name ++ rest, hline, hstart.symm⟩
  · obtain rfl := hstands.eq_nil hplace
    refine ⟨?_, finish_ne_overflow line s⟩
    rw [hstands.finish_eq]
    exact Span.compileLine_ne_misplaced line

/-- The scanner that has read the whole line is one that reading can come to. -/
theorem Reached.of_run {s' : LineScanner} (h : Reached line s) (hrun : run line s = .ok s') :
    Reached line s' ∧ (places line)[s'.position]? = none := by
  fun_induction run line s with
  | case1 s hplace =>
    obtain rfl := Except.ok.inj hrun
    exact ⟨h, hplace⟩
  | case2 s offset c hplace s'' hstep ih => exact ih (h.step hplace hstep) hrun
  | case3 => cases hrun

end LineScanner

/-- **Scanning a text compiles it.** -/
theorem Span.scan_eq (source : Text) : Span.scan source = Span.compile source := by
  rw [Span.scan, Span.compile, funext LineScanner.scan_eq]

end AstHierarchy
