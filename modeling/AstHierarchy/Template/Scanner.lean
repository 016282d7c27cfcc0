import AstHierarchy.Proofs.Outcome
import AstHierarchy.Template.Bodies
import AstHierarchy.Template.Span
import AstHierarchy.Text.Offsets

/-!
# Reading templates by offset

The text of a template can be read without taking it apart first: a scanner goes over it once,
remembers byte offsets and cuts a piece out whenever it knows where that piece ends. `LineScanner`
reads a line that way, `SectionScanner` divides a text into sections. Both of them mix three kinds
of numbers (characters passed, bytes passed, columns of indentation), so that they could ask for a
piece that is not there; then they halt. The columns are counted in sixteen bits, and the line
scanner halts as well where there are more of them.

`Span.scan` finds what `Span.compile` finds, and `scanBodies` what `bodiesOf` finds.
-/

namespace AstHierarchy

open Text

/-! ## Halting -/

/-- What is asked for, if it is there. -/
def orMisplaced {α : Type} : Option α → Except Halt α
  | some a => .ok a
  | none => .error .misplaced

@[simp] theorem orMisplaced_some {α : Type} (a : α) : orMisplaced (some a) = .ok a := rfl

/-! ## Options of a list -/

/-- The flags of a list from the character with the number on, and the number of the percent sign
that ends them. -/
def scanFlags (line : Text) (layout : ListLayout) (i : Nat) : Except Halt (ListLayout × Nat) :=
  match _hplace : (places line)[i]? with
  | some (_, '%') => .ok (layout, i)
  | some (_, '+') => scanFlags line { layout with trailing := true } (i + 1)
  | some (_, '_') => scanFlags line { layout with oneLine := true } (i + 1)
  | _ => .error (.fault (.badOptions line))
termination_by (places line).length - i
decreasing_by
  all_goals
    have hlt := (List.getElem?_eq_some_iff.1 _hplace).1
    omega

/-- The options of a list whose slash is the character with the number, and the number of the
percent sign that ends them. -/
def scanOptions (line : Text) (slash : Nat) : Except Halt (ListLayout × Nat) :=
  match (places line)[slash + 1]? with
  | some (_, '%') | none => .error (.fault (.badOptions line))
  | some (_, delimiter) => scanFlags line { delimiter := some delimiter } (slash + 2)

theorem le_of_scanFlags {line : Text} {layout layout' : ListLayout} {i close : Nat}
    (h : scanFlags line layout i = .ok (layout', close)) : i ≤ close := by
  fun_induction scanFlags line layout i with
  | case1 => exact Nat.le_of_eq (Prod.mk.inj (Except.ok.inj h)).2
  | case2 layout i _ _ ih => exact Nat.le_of_succ_le (ih h)
  | case3 layout i _ _ ih => exact Nat.le_of_succ_le (ih h)
  | case4 => cases h

/-- The percent sign comes after the slash. -/
theorem lt_of_scanOptions {line : Text} {layout : ListLayout} {slash close : Nat}
    (h : scanOptions line slash = .ok (layout, close)) : slash < close := by
  unfold scanOptions at h
  split at h
  · cases h
  · cases h
  · have hle := le_of_scanFlags h
    omega

/-! ## Lines -/

/-- One column more, if there is room for it. -/
def addColumn (columns : UInt16) : Except Halt UInt16 :=
  if columns.toNat + 1 < UInt16.size then .ok (columns + 1) else .error .overflow

/-- A count with room for one column more is greater by one afterwards. -/
theorem addColumn_of_lt {columns : UInt16} (h : columns.toNat + 1 < UInt16.size) :
    ∃ more, addColumn columns = .ok more ∧ more.toNat = columns.toNat + 1 :=
  ⟨columns + 1, if_pos h, by rw [UInt16.toNat_add]; exact Nat.mod_eq_of_lt h⟩

theorem addColumn_of_le {columns : UInt16} (h : UInt16.size ≤ columns.toNat + 1) :
    addColumn columns = .error .overflow :=
  if_neg (Nat.not_lt.2 h)

/-- What a line scanner is reading. -/
inductive ScanMode where
  | indentation
  | verbatim
  | reference
  deriving DecidableEq, Repr

/-- The state of a scanner that reads a line. -/
structure LineScanner where
  /-- How many characters have been passed. -/
  position : Nat := 0
  mode : ScanMode := .indentation
  /-- The columns of indentation so far. -/
  columns : UInt16 := 0
  /-- The offset at which the text or the reference began that is being read. The percent sign
  belongs to the reference. -/
  start : Nat := 0
  /-- The instructions so far. -/
  span : Span := []
  deriving DecidableEq, Repr

namespace LineScanner

/-- The text ends before the offset, where a percent sign is. -/
def endText (line : Text) (s : LineScanner) (offset : Nat) : Except Halt LineScanner := do
  let next := { s with position := s.position + 1, mode := .reference, start := offset }
  if s.start < offset then
    let text ← orMisplaced (slice? line s.start offset)
    return { next with span := s.span ++ [.verbatim text] }
  else return next

/-- The instruction for a reference that has no options and ends with the percent sign at the
offset. -/
def plainReference (line name : Text) (offset : Nat) : Except Halt Instruction :=
  if name.isEmpty then (orMisplaced (slice? line offset (offset + 1))).map .verbatim
  else .ok (.reference name {})

/-- The reference ends with the percent sign at the offset. -/
def endReference (line : Text) (s : LineScanner) (offset : Nat) : Except Halt LineScanner := do
  let name ← orMisplaced (slice? line (s.start + 1) offset)
  let instruction ← plainReference line name offset
  return { s with position := s.position + 1, mode := .verbatim, start := offset + 1,
                  span := s.span ++ [instruction] }

/-- The name of a list ends before the offset, where a slash is; its options follow. -/
def endList (line : Text) (s : LineScanner) (offset : Nat) : Except Halt LineScanner := do
  let name ← orMisplaced (slice? line (s.start + 1) offset)
  let (layout, close) ← scanOptions line s.position
  let (last, _) ← orMisplaced (places line)[close]?
  return { s with position := close + 1, mode := .verbatim, start := last + 1,
                  span := s.span ++ [.reference name layout] }

/-- Read the next character, which begins at the offset. -/
def step (line : Text) (s : LineScanner) (offset : Nat) (c : Char) : Except Halt LineScanner :=
  match s.mode with
  | .indentation =>
    if isBlank c then
      (addColumn s.columns).map fun columns => { s with position := s.position + 1, columns }
    else
      .ok { s with position := s.position + 1, mode := if c = '%' then .reference else .verbatim,
                   start := offset, span := s.span ++ Span.ofIndentation s.columns.toNat }
  | .verbatim =>
    if c = '%' then endText line s offset else .ok { s with position := s.position + 1 }
  | .reference =>
    if c = '%' then endReference line s offset
    else if c = '/' then endList line s offset
    else .ok { s with position := s.position + 1 }

/-! ### No character is read twice -/

theorem position_lt_of_endText {line : Text} {s s' : LineScanner} {offset : Nat}
    (h : endText line s offset = .ok s') : s.position < s'.position := by
  unfold endText at h
  split at h
  · obtain ⟨text, -, h⟩ := bind_eq_ok_iff.1 h
    obtain rfl := Except.ok.inj h
    exact Nat.lt_succ_self _
  · obtain rfl := Except.ok.inj h
    exact Nat.lt_succ_self _

theorem position_lt_of_endReference {line : Text} {s s' : LineScanner} {offset : Nat}
    (h : endReference line s offset = .ok s') : s.position < s'.position := by
  obtain ⟨name, -, h⟩ := bind_eq_ok_iff.1 h
  obtain ⟨instruction, -, h⟩ := bind_eq_ok_iff.1 h
  obtain rfl := Except.ok.inj h
  exact Nat.lt_succ_self _

theorem position_lt_of_endList {line : Text} {s s' : LineScanner} {offset : Nat}
    (h : endList line s offset = .ok s') : s.position < s'.position := by
  obtain ⟨name, -, h⟩ := bind_eq_ok_iff.1 h
  obtain ⟨⟨layout, close⟩, hoptions, h⟩ := bind_eq_ok_iff.1 h
  obtain ⟨⟨last, c⟩, -, h⟩ := bind_eq_ok_iff.1 h
  obtain rfl := Except.ok.inj h
  exact Nat.lt_succ_of_lt (lt_of_scanOptions hoptions)

theorem position_lt_of_step {line : Text} {s s' : LineScanner} {offset : Nat} {c : Char}
    (h : step line s offset c = .ok s') : s.position < s'.position := by
  unfold step at h
  split at h
  · split at h
    · obtain ⟨columns, -, rfl⟩ := map_eq_ok_iff.1 h
      exact Nat.lt_succ_self _
    · obtain rfl := Except.ok.inj h
      exact Nat.lt_succ_self _
  · split at h
    · exact position_lt_of_endText h
    · obtain rfl := Except.ok.inj h
      exact Nat.lt_succ_self _
  · split at h
    · exact position_lt_of_endReference h
    · split at h
      · exact position_lt_of_endList h
      · obtain rfl := Except.ok.inj h
        exact Nat.lt_succ_self _

/-- Read the line from where the scanner is. -/
def run (line : Text) (s : LineScanner) : Except Halt LineScanner :=
  match _hplace : (places line)[s.position]? with
  | none => .ok s
  | some (offset, c) =>
    match _hstep : step line s offset c with
    | .ok s' => run line s'
    | .error e => .error e
termination_by (places line).length - s.position
decreasing_by
  have hlt := (List.getElem?_eq_some_iff.1 _hplace).1
  have hnext := position_lt_of_step _hstep
  omega

theorem run_of_eq_none {line : Text} {s : LineScanner} (h : (places line)[s.position]? = none) :
    run line s = .ok s := by
  rw [run]
  split
  · rfl
  · rename_i hsome
    rw [h] at hsome
    cases hsome

theorem run_of_eq_some {line : Text} {s : LineScanner} {offset : Nat} {c : Char}
    (h : (places line)[s.position]? = some (offset, c)) :
    run line s = step line s offset c >>= run line := by
  rw [run]
  split
  · rename_i hnone
    rw [h] at hnone
    cases hnone
  · rename_i offset' c' hsome
    obtain ⟨rfl, rfl⟩ := Prod.mk.inj (Option.some.inj (hsome.symm.trans h))
    split
    · rename_i s' hstep
      rw [hstep, ok_bind]
    · rename_i e hstep
      rw [hstep, error_bind]

/-- The instructions for the line once all characters have been passed. -/
def finish (line : Text) (s : LineScanner) : Except Halt Span :=
  match s.mode with
  | .indentation => .ok (s.span ++ Span.ofIndentation s.columns.toNat)
  | .verbatim => do
    let text ← orMisplaced (slice? line s.start line.utf8Size)
    return s.span ++ Span.ofText text
  | .reference => .error (.fault (.unterminatedVariable line))

/-- The instructions for the line. -/
def scan (line : Text) : Except Halt Span := do
  finish line (← run line {})

end LineScanner

/-- The span that a piece of template text describes. -/
def Span.scan (source : Text) : Except Halt Span :=
  (source.lines.mapM LineScanner.scan).map [Instruction.lineBreak].intercalate

/-! ## Sections -/

/-- The state of a scanner that divides a text into sections. -/
structure SectionScanner where
  /-- The offset at which the next line begins. -/
  current : Nat := 0
  /-- The offset at which the section began that was opened last. -/
  start : Nat := 0
  /-- The section that is open. -/
  inside : Option Section := none
  /-- The bodies of the sections that have ended, in order. -/
  bodies : List (Section × Text) := []
  deriving DecidableEq, Repr

namespace SectionScanner

/-- Read the next line, which has its line ending still. -/
def step (source : Text) (s : SectionScanner) (raw : Text) : Except Halt SectionScanner :=
  let next := s.current + raw.utf8Size
  match Marker.ofLine? raw, s.inside with
  | none, _ => .ok { s with current := next }
  | some (.opening name), none =>
    match Section.ofName? name with
    | some opened => .ok { s with current := next, start := next, inside := some opened }
    | none => .error (.fault (.unknownSection name))
  | some (.opening name), some outer => .error (.fault (.nestedSection outer name))
  | some (.closing name), none => .error (.fault (.straySectionEnd name))
  | some (.closing name), some opened => do
    if name = opened.name then
      let body ← orMisplaced (slice? source s.start s.current)
      return { s with current := next, inside := none,
                      bodies := s.bodies ++ [(opened, strip isLineBreak body)] }
    else .error (.fault (.straySectionEnd name))

/-- The bodies of the sections once all lines have been read. -/
def finish (s : SectionScanner) : Except Halt (List (Section × Text)) :=
  match s.inside with
  | some opened => .error (.fault (.unclosedSection opened))
  | none => .ok s.bodies

end SectionScanner

/-- The bodies in the text of a template, in the order of the text. -/
def scanBodies (source : Text) : Except Halt (List (Section × Text)) := do
  SectionScanner.finish (← (rawLines source).foldlM (SectionScanner.step source) {})

end AstHierarchy
