import AstHierarchy.Hierarchy.Generator
import AstHierarchy.Proofs.Text.Words
import Mathlib.Logic.Relation

/-!
# The layout of grammar files

What a grammar file declares does not depend on its layout. `Relaid` lists the changes to the layout
of a text: lines that say nothing, blanks at the ends of lines, carriage returns before line feeds,
and the line feed at the end of the text.

The lines that declare something are found piece by piece between line feeds
(`declarationLines_append_newline`), and a blank at the end of a piece is trimmed, so no change
makes a difference. Conversely, every text can be changed into the one that consists of its
declarations alone (`eqvGen_relaid_unlines`). Texts with the same declarations are therefore those
that differ in layout only.

* `declarationLines_layout` is the main result.
-/

namespace AstHierarchy

open Text

/-! ## Lines that say nothing -/

/-- The line is blank, or a comment begins it after its leading blanks. -/
def SaysNothing (line : Text) : Prop :=
  (∀ c ∈ line, isBlank c) ∨
    ∃ blanks comment : Text, line = blanks ++ '/' :: '/' :: comment ∧ ∀ c ∈ blanks, isBlank c

theorem isIdleLine_iff {line : Text} : isIdleLine line ↔ line = [] ∨ ['/', '/'] <+: line := by
  unfold isIdleLine
  split
  · simp
  · simp
  · rename_i hnil hcomment
    simp only [Bool.false_eq_true, false_iff, not_or]
    exact ⟨hnil, fun ⟨rest, hrest⟩ => hcomment rest hrest.symm⟩

/-- Slashes at the beginning are not trimmed. -/
theorem isPrefix_trim_comment (comment : Text) : ['/', '/'] <+: trim ('/' :: '/' :: comment) := by
  have hfront : ('/' :: '/' :: comment).dropWhile isBlank = '/' :: '/' :: comment := rfl
  rw [trim, strip, hfront]
  obtain ⟨run, hrun, hblank⟩ := exists_stripEnd_append isBlank ('/' :: '/' :: comment)
  -- what is removed is blank, so it begins after both slashes
  generalize stripEnd isBlank ('/' :: '/' :: comment) = kept at hrun
  cases kept with
  | nil =>
    obtain rfl : '/' :: '/' :: comment = run := hrun
    cases hblank '/' List.mem_cons_self
  | cons c kept =>
    obtain ⟨rfl, hrest⟩ := List.cons.inj hrun
    cases kept with
    | nil =>
      obtain rfl : '/' :: comment = run := hrest
      cases hblank '/' List.mem_cons_self
    | cons d rest =>
      obtain ⟨rfl, -⟩ := List.cons.inj hrest
      exact ⟨rest, rfl⟩

theorem isIdleLine_trim_iff {line : Text} : isIdleLine (trim line) ↔ SaysNothing line := by
  rw [isIdleLine_iff, trim_eq_nil_iff]
  refine or_congr_right ⟨?_, ?_⟩
  · rintro ⟨rest, hrest⟩
    obtain ⟨before, after, hline, hbefore, -⟩ := exists_eq_append_trim line
    refine ⟨before, rest ++ after, ?_, hbefore⟩
    rw [hline, ← hrest]
    simp
  · rintro ⟨blanks, comment, rfl, hblanks⟩
    rw [trim_blanks_append hblanks]
    exact isPrefix_trim_comment comment

/-! ## Declarations piece by piece -/

/-- The pieces that declare something, trimmed. -/
def declarationsIn (pieces : List Text) : List Text :=
  (pieces.map trim).filter fun line => !isIdleLine line

theorem declarationsIn_append (ps qs : List Text) :
    declarationsIn (ps ++ qs) = declarationsIn ps ++ declarationsIn qs := by
  unfold declarationsIn
  rw [List.map_append, List.filter_append]

theorem declarationsIn_cons_of_saysNothing {p : Text} (h : SaysNothing p) (ps : List Text) :
    declarationsIn (p :: ps) = declarationsIn ps := by
  refine List.filter_cons_of_neg ?_
  rw [isIdleLine_trim_iff.2 h]
  decide

theorem declarationsIn_cons_of_not_saysNothing {p : Text} (h : ¬ SaysNothing p) (ps : List Text) :
    declarationsIn (p :: ps) = trim p :: declarationsIn ps := by
  refine List.filter_cons_of_pos ?_
  rw [← isIdleLine_trim_iff, Bool.not_eq_true] at h
  rw [h]
  decide

/-- The declarations are found between the line feeds: a carriage return at the end of a line is
trimmed, and an empty piece at the end declares nothing. -/
theorem declarationLines_eq (source : Text) :
    declarationLines source = declarationsIn (source.splitOn '\n') := by
  unfold declarationLines lines
  generalize source.splitOn '\n' = pieces
  fun_induction linesOfPieces pieces with
  | case1 => rfl
  | case2 last h =>
    obtain rfl := List.isEmpty_iff.1 h
    rfl
  | case3 last _ => rfl
  | case4 piece rest _ ih =>
    rw [List.map_cons, trim_dropReturn, List.filter_cons, ih]
    exact (List.filter_cons (p := fun line => !isIdleLine line)).symm

/-- **A line feed divides the declarations** of a text. -/
theorem declarationLines_append_newline (s t : Text) :
    declarationLines (s ++ '\n' :: t) = declarationLines s ++ declarationLines t := by
  rw [declarationLines_eq, List.splitOn_append_cons_self, declarationsIn_append,
    ← declarationLines_eq, ← declarationLines_eq]

theorem declarationLines_of_newline_not_mem {line : Text} (h : '\n' ∉ line) :
    declarationLines line = declarationsIn [line] := by
  rw [declarationLines_eq, List.splitOn_eq_singleton h]

/-! ## Changes of the layout -/

/-- Lines begin after the text. -/
def EndsLine (t : Text) : Prop := t = [] ∨ ∃ s : Text, t = s ++ ['\n']

/-- A line ends before the text. -/
def BeginsAfterLine (t : Text) : Prop := t = [] ∨ ∃ s : Text, t = '\n' :: s

/-- One change of the layout of a text. -/
inductive Relaid : Text → Text → Prop where
  /-- A line that says nothing comes in. -/
  | insert {before line after : Text} (hbefore : EndsLine before) (hline : '\n' ∉ line)
    (h : SaysNothing line) : Relaid (before ++ after) (before ++ (line ++ '\n' :: after))
  /-- Blanks come in at the beginning of a line. -/
  | padStart {before blanks after : Text} (hbefore : EndsLine before)
    (h : ∀ c ∈ blanks, isBlank c ∧ c ≠ '\n') : Relaid (before ++ after) (before ++ (blanks ++ after))
  /-- Blanks come in at the end of a line. -/
  | padEnd {before blanks after : Text} (h : ∀ c ∈ blanks, isBlank c ∧ c ≠ '\n')
    (hafter : BeginsAfterLine after) : Relaid (before ++ after) (before ++ (blanks ++ after))
  /-- A line feed becomes a carriage return and a line feed. -/
  | addReturn {before after : Text} :
    Relaid (before ++ '\n' :: after) (before ++ '\r' :: '\n' :: after)
  /-- A line feed comes in at the end. -/
  | endLast {t : Text} : Relaid t (t ++ ['\n'])

/-- What stands before a line adds its declarations. -/
theorem EndsLine.declarationLines_append {before : Text} (h : EndsLine before) (t : Text) :
    declarationLines (before ++ t) = declarationLines before ++ declarationLines t := by
  rcases h with rfl | ⟨s, rfl⟩
  · rfl
  · have hnil : declarationLines [] = [] := rfl
    rw [List.append_assoc, List.singleton_append, declarationLines_append_newline,
      declarationLines_append_newline, hnil, List.append_nil]

theorem BeginsAfterLine.declarationLines_append {after : Text} (h : BeginsAfterLine after)
    (t : Text) : declarationLines (t ++ after) = declarationLines t ++ declarationLines after := by
  rcases h with rfl | ⟨s, rfl⟩
  · rw [List.append_nil]
    exact (List.append_nil _).symm
  · have hnil : declarationLines ('\n' :: s) = declarationLines s :=
      declarationLines_append_newline [] s
    rw [declarationLines_append_newline, hnil]

/-- What a line declares depends on what is left of it after trimming. -/
theorem declarationLines_of_trim_eq {line line' : Text} (h : '\n' ∉ line) (h' : '\n' ∉ line')
    (htrim : trim line = trim line') : declarationLines line = declarationLines line' := by
  rw [declarationLines_of_newline_not_mem h, declarationLines_of_newline_not_mem h', declarationsIn,
    declarationsIn, List.map_singleton, List.map_singleton, htrim]

/-- Blanks before a text are trimmed from its first line. -/
theorem declarationLines_blanks_append {blanks : Text} (h : ∀ c ∈ blanks, isBlank c ∧ c ≠ '\n')
    (t : Text) : declarationLines (blanks ++ t) = declarationLines t := by
  have hblank : ∀ c ∈ blanks, isBlank c := fun c hc => (h c hc).1
  have hfeed : '\n' ∉ blanks := fun hmem => (h _ hmem).2 rfl
  have hline : ∀ line : Text, '\n' ∉ line →
      declarationLines (blanks ++ line) = declarationLines line := by
    intro line hfeed'
    refine declarationLines_of_trim_eq ?_ hfeed' (trim_blanks_append hblank line)
    rw [List.mem_append, not_or]
    exact ⟨hfeed, hfeed'⟩
  cases hcut : cutAt '\n' t with
  | none => exact hline t (cutAt_eq_none_iff.1 hcut)
  | some sides =>
    obtain ⟨rfl, hfirst⟩ := cutAt_eq_some_iff.1 hcut
    rw [← List.append_assoc, declarationLines_append_newline, declarationLines_append_newline,
      hline _ hfirst]

/-- Every text has a last line. -/
theorem exists_endsLine_append (t : Text) :
    ∃ before last, t = before ++ last ∧ EndsLine before ∧ '\n' ∉ last := by
  have hjoin : ['\n'].intercalate (t.splitOn '\n') = t := List.intercalate_splitOn '\n'
  rcases List.eq_nil_or_concat (t.splitOn '\n') with hnil | ⟨init, last, hpieces⟩
  · exact absurd hnil (List.splitOn_ne_nil _ _)
  · rw [hpieces, List.concat_eq_append, intercalate_append_cons, List.intercalate_singleton] at hjoin
    refine ⟨unlines init, last, hjoin.symm, ?_, ?_⟩
    · rcases List.eq_nil_or_concat init with rfl | ⟨front, l, rfl⟩
      · exact Or.inl rfl
      · refine Or.inr ⟨unlines front ++ l, ?_⟩
        rw [List.concat_eq_append, unlines_append]
        simp
    · exact not_mem_of_mem_splitOn (t := t) (by rw [hpieces]; simp)

/-- Blanks after a text are trimmed from its last line. -/
theorem declarationLines_append_blanks {blanks : Text} (h : ∀ c ∈ blanks, isBlank c ∧ c ≠ '\n')
    (t : Text) : declarationLines (t ++ blanks) = declarationLines t := by
  obtain ⟨before, last, rfl, hbefore, hlast⟩ := exists_endsLine_append t
  have hfeed : '\n' ∉ last ++ blanks := by
    rw [List.mem_append, not_or]
    exact ⟨hlast, fun hmem => (h _ hmem).2 rfl⟩
  rw [List.append_assoc, hbefore.declarationLines_append, hbefore.declarationLines_append,
    declarationLines_of_trim_eq hfeed hlast (trim_append_blanks (fun c hc => (h c hc).1) last)]

/-- **A change of the layout makes no difference** to what a text declares. -/
theorem Relaid.declarationLines_eq {s t : Text} (h : Relaid s t) :
    declarationLines t = declarationLines s := by
  cases h with
  | @insert before line after hbefore hline hidle =>
    have hnothing : declarationLines line = [] := by
      rw [declarationLines_of_newline_not_mem hline, declarationsIn_cons_of_saysNothing hidle]
      rfl
    rw [hbefore.declarationLines_append, hbefore.declarationLines_append,
      declarationLines_append_newline, hnothing, List.nil_append]
  | @padStart before blanks after hbefore hblanks =>
    rw [hbefore.declarationLines_append, hbefore.declarationLines_append,
      declarationLines_blanks_append hblanks]
  | @padEnd before blanks after hblanks hafter =>
    rw [← List.append_assoc, hafter.declarationLines_append, hafter.declarationLines_append,
      declarationLines_append_blanks hblanks]
  | @addReturn before after =>
    have hreturn : ∀ c ∈ ['\r'], isBlank c ∧ c ≠ '\n' := List.forall_mem_singleton.2 (by decide)
    have hsplit : before ++ '\r' :: '\n' :: after = (before ++ ['\r']) ++ '\n' :: after := by simp
    rw [hsplit, declarationLines_append_newline, declarationLines_append_newline,
      declarationLines_append_blanks hreturn]
  | endLast =>
    rw [declarationLines_append_newline]
    exact List.append_nil _

theorem declarationLines_eq_of_eqvGen_relaid {s t : Text} (h : Relation.EqvGen Relaid s t) :
    declarationLines t = declarationLines s := by
  induction h with
  | rel s t h => exact h.declarationLines_eq
  | refl s => rfl
  | symm s t _ ih => exact ih.symm
  | trans s t u _ _ ih ih' => exact ih'.trans ih

/-! ## Texts without layout -/

theorem EndsLine.append {s t : Text} (hs : EndsLine s) (ht : EndsLine t) : EndsLine (s ++ t) := by
  rcases ht with rfl | ⟨t, rfl⟩
  · rwa [List.append_nil]
  · exact Or.inr ⟨s ++ t, (List.append_assoc s t _).symm⟩

/-- The layout of the end of a text can be changed whatever stands before it. -/
theorem Relaid.append_left {before s t : Text} (hbefore : EndsLine before) (h : Relaid s t) :
    Relaid (before ++ s) (before ++ t) := by
  cases h with
  | insert hs hline hidle =>
    rw [← List.append_assoc, ← List.append_assoc]
    exact .insert (hbefore.append hs) hline hidle
  | padStart hs hblanks =>
    rw [← List.append_assoc, ← List.append_assoc]
    exact .padStart (hbefore.append hs) hblanks
  | padEnd hblanks hafter =>
    rw [← List.append_assoc, ← List.append_assoc]
    exact .padEnd hblanks hafter
  | addReturn =>
    rw [← List.append_assoc, ← List.append_assoc]
    exact .addReturn
  | endLast =>
    rw [← List.append_assoc]
    exact .endLast

theorem eqvGen_relaid_append_left {before s t : Text} (hbefore : EndsLine before)
    (h : Relation.EqvGen Relaid s t) : Relation.EqvGen Relaid (before ++ s) (before ++ t) := by
  induction h with
  | rel s t h => exact .rel _ _ (h.append_left hbefore)
  | refl s => exact .refl _
  | symm s t _ ih => exact .symm _ _ ih
  | trans s t u _ _ ih ih' => exact .trans _ _ _ ih ih'

/-- A line that declares something can be trimmed. -/
theorem eqvGen_relaid_trim {p : Text} (h : '\n' ∉ p) (rest : Text) :
    Relation.EqvGen Relaid (trim p ++ '\n' :: rest) (p ++ '\n' :: rest) := by
  obtain ⟨front, back, hp, hfront, hback⟩ := exists_eq_append_trim p
  have hblanks : ∀ blanks : Text, blanks ⊆ p → (∀ c ∈ blanks, isBlank c) →
      ∀ c ∈ blanks, isBlank c ∧ c ≠ '\n' := by
    intro blanks hsub hblank c hc
    refine ⟨hblank c hc, ?_⟩
    rintro rfl
    exact h (hsub hc)
  have hpad : p ++ '\n' :: rest = [] ++ (front ++ (trim p ++ (back ++ '\n' :: rest))) := by
    conv_lhs => rw [hp]
    simp
  rw [hpad]
  refine .trans _ (trim p ++ (back ++ '\n' :: rest)) _ (.rel _ _ ?_) (.rel _ _ ?_)
  · refine .padEnd (hblanks back ?_ hback) (Or.inr ⟨rest, rfl⟩)
    rw [hp]
    exact fun c hc => by simp [hc]
  · refine .padStart (Or.inl rfl) (hblanks front ?_ hfront)
    rw [hp]
    exact fun c hc => by simp [hc]

/-- Ended lines can be changed into their declarations. -/
theorem eqvGen_relaid_unlines_declarationsIn {pieces : List Text} (h : ∀ p ∈ pieces, '\n' ∉ p) :
    Relation.EqvGen Relaid (unlines (declarationsIn pieces)) (unlines pieces) := by
  induction pieces with
  | nil => exact .refl _
  | cons p rest ih =>
    have hp : '\n' ∉ p := h p List.mem_cons_self
    have hrest := ih fun q hq => h q (List.mem_cons_of_mem p hq)
    rw [unlines_cons]
    by_cases hidle : SaysNothing p
    · rw [declarationsIn_cons_of_saysNothing hidle]
      exact .trans _ _ _ hrest (.rel _ _ (.insert (Or.inl rfl) hp hidle))
    · rw [declarationsIn_cons_of_not_saysNothing hidle, unlines_cons]
      refine .trans _ (trim p ++ '\n' :: unlines rest) _ ?_ (eqvGen_relaid_trim hp _)
      have hline : EndsLine (trim p ++ ['\n']) := Or.inr ⟨trim p, rfl⟩
      simpa using eqvGen_relaid_append_left hline hrest

/-- **Every text can be changed into its declarations**, one on each line. -/
theorem eqvGen_relaid_unlines (source : Text) :
    Relation.EqvGen Relaid (unlines (declarationLines source)) source := by
  rw [declarationLines_eq]
  refine .trans _ _ _ (eqvGen_relaid_unlines_declarationsIn fun _ => not_mem_of_mem_splitOn) ?_
  rw [unlines_splitOn]
  exact .symm _ _ (.rel _ _ .endLast)

/-! ## Declarations are plain lines -/

theorem isTrimmed_of_mem_declarationLines {source line : Text} (h : line ∈ declarationLines source) :
    '\n' ∉ line ∧ line.IsTrimmed ∧ isIdleLine line = false := by
  rw [declarationLines_eq] at h
  obtain ⟨hmem, hidle⟩ := List.mem_filter.1 h
  obtain ⟨p, hp, rfl⟩ := List.mem_map.1 hmem
  refine ⟨fun hfeed => not_mem_of_mem_splitOn hp ?_, isTrimmed_trim p, by simpa using hidle⟩
  exact (trim_sublist p).subset hfeed

/-- Trimmed lines that say something are their own declarations. -/
theorem declarationsIn_eq_self {ls : List Text}
    (h : ∀ l ∈ ls, l.IsTrimmed ∧ isIdleLine l = false) : declarationsIn ls = ls := by
  have htrim : ls.map trim = ls.map id := by
    refine List.map_congr_left fun l hl => ?_
    have hself := trim_append_append (h l hl).1 (List.forall_mem_nil _) (List.forall_mem_nil _)
    rwa [List.nil_append, List.append_nil] at hself
  rw [declarationsIn, htrim, List.map_id, List.filter_eq_self]
  intro l hl
  rw [(h l hl).2]
  rfl

theorem declarationLines_intercalate (source : Text) :
    declarationLines (['\n'].intercalate (declarationLines source)) = declarationLines source := by
  have hlines : ∀ l ∈ declarationLines source, '\n' ∉ l ∧ l.IsTrimmed ∧ isIdleLine l = false :=
    fun _ hl => isTrimmed_of_mem_declarationLines hl
  generalize declarationLines source = ls at hlines
  by_cases hls : ls = []
  · subst hls
    rfl
  · rw [declarationLines_eq, List.splitOn_intercalate '\n' (fun l hl => (hlines l hl).1) hls]
    exact declarationsIn_eq_self fun l hl => (hlines l hl).2

/-- **What a grammar file declares does not depend on its layout.** The declarations are the trimmed
lines that are neither empty nor comments, in order. Two texts have the same ones exactly if each can
be changed into the other by changes of the layout; so whatever is made of the declarations, a
hierarchy or an error that names a line, is the same for both. Declarations that are joined by line
feeds are found again as they are, and none of them holds a line feed or has blanks around it. -/
theorem declarationLines_layout (source : Text) :
    declarationLines source =
      (source.lines.map trim).filter (fun l => l ≠ [] ∧ ¬ ['/', '/'] <+: l) ∧
    (∀ source', Relation.EqvGen Relaid source source' ↔
      declarationLines source' = declarationLines source) ∧
    (∀ source', Relation.EqvGen Relaid source source' →
      NodeType.ofLines (declarationLines source') = NodeType.ofLines (declarationLines source) ∧
      ∀ (g : Generator) base,
        g.file base (declarationLines source') = g.file base (declarationLines source)) ∧
    declarationLines (['\n'].intercalate (declarationLines source)) = declarationLines source ∧
    ∀ l ∈ declarationLines source, '\n' ∉ l ∧ l.IsTrimmed := by
  refine ⟨?_, fun source' => ⟨declarationLines_eq_of_eqvGen_relaid, fun h => ?_⟩, fun source' h => ?_,
    declarationLines_intercalate source, fun l hl => ?_⟩
  · refine List.filter_congr fun l _ => ?_
    rw [Bool.eq_iff_iff, Bool.not_eq_true', ← Bool.not_eq_true, isIdleLine_iff, not_or,
      decide_eq_true_iff]
  · refine .trans _ _ _ (.symm _ _ (eqvGen_relaid_unlines source)) ?_
    rw [← h]
    exact eqvGen_relaid_unlines source'
  · have hsame := declarationLines_eq_of_eqvGen_relaid h
    rw [hsame]
    exact ⟨rfl, fun _ _ => rfl⟩
  · exact ⟨(isTrimmed_of_mem_declarationLines hl).1, (isTrimmed_of_mem_declarationLines hl).2.1⟩

/-- Two declarations, one of which is wrong. -/
def plainFile : Text := "A : T x\nB".toList

/-- The same with another layout. -/
def dressedFile : Text := "// types\r\n\tA : T x\u3000\r\n\n \u00a0// last\n  B\n".toList

theorem declarationLines_layout_dressedFile :
    Relation.EqvGen Relaid plainFile dressedFile ∧
    NodeType.ofLines (declarationLines dressedFile) = .error (.malformedLine ['B']) := by
  obtain ⟨-, hiff, hread, -⟩ := declarationLines_layout plainFile
  have hrelaid : Relation.EqvGen Relaid plainFile dressedFile :=
    (hiff dressedFile).2 (by decide +kernel)
  refine ⟨hrelaid, (hread dressedFile hrelaid).1.trans ?_⟩
  decide +kernel

end AstHierarchy
