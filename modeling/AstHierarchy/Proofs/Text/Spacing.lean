import AstHierarchy.Proofs.Text.Lines
import AstHierarchy.Text.Spacing
import Mathlib.Data.List.TakeWhile

/-!
# Laws of tidy texts

Respacing works on the lines of a text without their trailing blanks. Everything here is derived
from one law about such lines, `tidyLines_append_cons`: where an empty line stands between two
groups of lines, each group is brought into tidy form by itself, and one empty line separates what
is left of the two unless nothing is left of one of them.

* `respace_append_newlines`: respacing distributes over an empty line.
* `respace_intercalate`: **respacing blocks that are separated by empty lines** is respacing each
  block and separating those that are not empty by one empty line.
* `filterMap_lines_respace`: what can be found in the lines that are not empty is found in the
  lines of the tidy text, in the same order.
-/

namespace AstHierarchy.Text

/-! ## Lines in tidy form -/

/-- The lines, none of which ends in a blank, in tidy form. -/
def tidyLines (ls : List Text) : List Text := (collapse ls).dropWhile List.isEmpty

/-- What stands between the line feeds of the text, without trailing blanks. -/
def rows (t : Text) : List Text := (t.splitOn '\n').map trimEnd

@[simp] theorem tidyLines_nil : tidyLines [] = [] := rfl

/-- An empty line at the end is no line. -/
theorem collapse_map_linesOfPieces (ps : List Text) :
    collapse ((linesOfPieces ps).map trimEnd) = collapse (ps.map trimEnd) := by
  fun_induction linesOfPieces ps with
  | case1 => rfl
  | case2 last h =>
    obtain rfl := List.isEmpty_iff.1 h
    rfl
  | case3 last _ => rfl
  | case4 piece rest _ ih =>
    rw [List.map_cons, List.map_cons, collapse_cons, collapse_cons, ih, trimEnd_dropReturn]

theorem spacedLines_eq_tidyLines (t : Text) : spacedLines t = tidyLines (rows t) := by
  rw [spacedLines, tidyLines, rows, lines, collapse_map_linesOfPieces]

/-- The first of tidy lines is not an empty one. -/
theorem ne_nil_of_head?_tidyLines {ls : List Text} {l : Text} (h : (tidyLines ls).head? = some l) :
    l ≠ [] := by
  have hnot := List.head?_dropWhile_not List.isEmpty (collapse ls)
  rw [← tidyLines, h] at hnot
  rintro rfl
  simp at hnot

/-- The last of tidy lines is not an empty one. -/
theorem ne_nil_of_getLast?_tidyLines {ls : List Text} {l : Text}
    (h : (tidyLines ls).getLast? = some l) : l ≠ [] := by
  obtain ⟨front, hfront⟩ := List.dropWhile_suffix (l := collapse ls) List.isEmpty
  have hlast : (collapse ls).getLast? = some l := by
    rw [← hfront, List.getLast?_append, ← tidyLines, h]
    rfl
  exact getLast?_collapse hlast

/-- Nothing is left of collapsed lines only if there is nothing in them. -/
theorem collapse_eq_nil_iff (ls : List Text) : collapse ls = [] ↔ tidyLines ls = [] := by
  constructor
  · intro h
    rw [tidyLines, h]
    rfl
  · intro h
    cases hlast : (collapse ls).getLast? with
    | none => exact List.getLast?_eq_none_iff.1 hlast
    | some l =>
      have hempty := List.dropWhile_eq_nil_iff.1 h l (List.mem_of_getLast? hlast)
      exact absurd (List.isEmpty_iff.1 hempty) (getLast?_collapse hlast)

/-- A line that comes first after collapsing came first before. -/
theorem eq_of_head?_collapse_cons {l m : Text} {ls : List Text}
    (h : (collapse (l :: ls)).head? = some m) : m = l := by
  rw [collapse_cons, consLine] at h
  split at h
  · -- `l` is an empty line that is left out, because what follows begins with an empty line too
    rename_i hempty
    rw [Bool.and_eq_true, List.isEmpty_iff, List.isEmpty_iff, List.headD_eq_head?_getD, h] at hempty
    exact hempty.2.trans hempty.1.symm
  · exact (Option.some.inj h).symm

/-- Lines that say something stay in front of what follows them. -/
theorem collapse_append {ls : List Text} (h : ∀ l ∈ ls, l ≠ []) (ms : List Text) :
    collapse (ls ++ ms) = ls ++ collapse ms := by
  induction ls with
  | nil => rfl
  | cons l rest ih =>
    obtain ⟨c, line, rfl⟩ := List.exists_cons_of_ne_nil (h l List.mem_cons_self)
    rw [List.cons_append, collapse_cons, ih fun m hm => h m (List.mem_cons_of_mem _ hm)]
    rfl

theorem tidyLines_append {ls : List Text} (hne : ls ≠ []) (h : ∀ l ∈ ls, l ≠ []) (ms : List Text) :
    tidyLines (ls ++ ms) = ls ++ collapse ms := by
  obtain ⟨l, rest, rfl⟩ := List.exists_cons_of_ne_nil hne
  obtain ⟨c, line, rfl⟩ := List.exists_cons_of_ne_nil (h l List.mem_cons_self)
  rw [tidyLines, collapse_append h]
  rfl

/-- Lines that say something are tidy. -/
theorem tidyLines_of_forall_ne_nil {ls : List Text} (h : ∀ l ∈ ls, l ≠ []) : tidyLines ls = ls := by
  cases ls with
  | nil => rfl
  | cons l rest =>
    have htidy := tidyLines_append (List.cons_ne_nil l rest) h []
    rwa [List.append_nil, collapse_nil, List.append_nil] at htidy

/-! ### An empty line between lines -/

theorem consLine_nil (kept : List Text) :
    consLine [] kept = if (kept.headD []).isEmpty then kept else [] :: kept := rfl

theorem consLine_cons (c : Char) (line : Text) (kept : List Text) :
    consLine (c :: line) kept = (c :: line) :: kept := rfl

/-- Putting an empty line in front of collapsed lines. They begin with at most one empty line, which
then stays the only one. -/
theorem consLine_nil_collapse (ls : List Text) :
    consLine [] (collapse ls) = if tidyLines ls = [] then [] else [] :: tidyLines ls := by
  induction ls with
  | nil => rfl
  | cons line rest ih =>
    cases line with
    | nil =>
      -- there is an empty line already, and a second one is not kept
      have hidem : consLine [] (consLine [] (collapse rest)) = consLine [] (collapse rest) := by
        rw [consLine_nil (collapse rest)]
        split
        · rename_i h
          rw [consLine_nil, if_pos h]
        · rfl
      have htidy : tidyLines ([] :: rest) = tidyLines rest := by
        rw [tidyLines, collapse_cons, consLine_nil]
        split
        · rfl
        · rfl
      rw [collapse_cons, hidem, ih, htidy]
    | cons c line =>
      have htidy : tidyLines ((c :: line) :: rest) = (c :: line) :: collapse rest := rfl
      rw [collapse_cons, consLine_cons, htidy, if_neg (by simp)]
      rfl

/-- Lines before an empty line that is kept do not see what comes after it. -/
theorem foldr_consLine_cons_nil (ls kept : List Text) :
    ls.foldr consLine ([] :: kept) =
      if collapse ls = [] then [] :: kept else collapse ls ++ [] :: kept := by
  induction ls with
  | nil => rfl
  | cons line rest ih =>
    rw [List.foldr_cons, ih, collapse_cons]
    cases line with
    | nil =>
      -- whether it is kept is decided by the line after it, which is the same on both sides
      cases collapse rest with
      | nil => rfl
      | cons next others => cases next <;> simp [consLine_nil]
    | cons c line =>
      rw [consLine_cons, consLine_cons]
      cases collapse rest with
      | nil => rfl
      | cons next others => simp

/-- **Two groups of lines with an empty line between them** are brought into tidy form each by
itself. -/
theorem tidyLines_append_cons (ls ms : List Text) :
    tidyLines (ls ++ [] :: ms) =
      if tidyLines ls = [] then tidyLines ms
      else if tidyLines ms = [] then tidyLines ls
      else tidyLines ls ++ [] :: tidyLines ms := by
  have hfold : collapse (ls ++ [] :: ms) = ls.foldr consLine (consLine [] (collapse ms)) :=
    List.foldr_append
  rw [tidyLines, hfold, consLine_nil_collapse]
  by_cases hms : tidyLines ms = []
  · rw [if_pos hms, if_pos hms, hms]
    show tidyLines ls = _
    split
    · assumption
    · rfl
  · rw [if_neg hms, if_neg hms, foldr_consLine_cons_nil]
    by_cases hls : tidyLines ls = []
    · -- the empty line comes first now, and is dropped from the beginning
      rw [if_pos ((collapse_eq_nil_iff ls).2 hls), if_pos hls]
      show (tidyLines ms).dropWhile List.isEmpty = _
      cases hm : tidyLines ms with
      | nil => rfl
      | cons l rest =>
        have hhead : (tidyLines ms).head? = some l := by rw [hm]; rfl
        have hl : l ≠ [] := ne_nil_of_head?_tidyLines hhead
        rw [List.dropWhile_cons, if_neg fun h => hl (List.isEmpty_iff.1 h)]
    · rw [if_neg fun h => hls ((collapse_eq_nil_iff ls).1 h), if_neg hls, List.dropWhile_append,
        ← tidyLines, if_neg fun h => hls (List.isEmpty_iff.1 h)]

/-- An empty line at the beginning is dropped. -/
theorem tidyLines_cons_nil (ls : List Text) : tidyLines ([] :: ls) = tidyLines ls := by
  have h := tidyLines_append_cons [] ls
  rwa [tidyLines_nil, if_pos rfl] at h

/-- A line that says something stays at the beginning. -/
theorem tidyLines_cons_of_ne_nil {l : Text} (h : l ≠ []) (ls : List Text) :
    tidyLines (l :: ls) = l :: collapse ls :=
  tidyLines_append (List.cons_ne_nil l []) (List.forall_mem_singleton.2 h) ls

/-- Lines that say something stay in front of an empty line that something follows. -/
theorem tidyLines_append_cons_of_forall_ne_nil {ls ms : List Text} (hne : ls ≠ [])
    (h : ∀ l ∈ ls, l ≠ []) (hms : tidyLines ms ≠ []) :
    tidyLines (ls ++ [] :: ms) = ls ++ [] :: tidyLines ms := by
  rw [tidyLines_append_cons, tidyLines_of_forall_ne_nil h, if_neg hne, if_neg hms]

/-- Two groups of lines that say something are tidy with an empty line between them. -/
theorem tidyLines_append_cons_eq_self {ls ms : List Text} (hls : ls ≠ []) (h : ∀ l ∈ ls, l ≠ [])
    (hms : ms ≠ []) (h' : ∀ m ∈ ms, m ≠ []) : tidyLines (ls ++ [] :: ms) = ls ++ [] :: ms := by
  have htidy : tidyLines ms = ms := tidyLines_of_forall_ne_nil h'
  rw [tidyLines_append_cons_of_forall_ne_nil hls h (htidy.symm ▸ hms), htidy]

/-! ## Tidy texts -/

/-- Two texts with an empty line between them, or one of them if the other one is empty. -/
def besides (s t : Text) : Text := if s = [] then t else if t = [] then s else s ++ '\n' :: t

/-- What stands beside a text is determined. -/
theorem besides_right_injective {s t t' : Text} (h : besides s t = besides s t') : t = t' := by
  have hadded : ∀ u : Text, s ≠ s ++ '\n' :: u := fun u hu => by simpa using congrArg List.length hu
  unfold besides at h
  split at h
  · exact h
  · split at h
    · split at h
      · rename_i ht ht'
        rw [ht, ht']
      · exact absurd h (hadded t')
    · split at h
      · exact absurd h.symm (hadded t)
      · exact (List.cons.inj (List.append_cancel_left h)).2

theorem unlines_eq_nil_iff (ls : List Text) : unlines ls = [] ↔ ls = [] := by
  cases ls with
  | nil => simp
  | cons l rest => simp

theorem respace_eq_nil_iff (t : Text) : respace t = [] ↔ tidyLines (rows t) = [] := by
  rw [respace, unlines_eq_nil_iff, spacedLines_eq_tidyLines]

theorem rows_append_newline (s t : Text) : rows (s ++ '\n' :: t) = rows s ++ rows t := by
  rw [rows, List.splitOn_append_cons_self, List.map_append]
  rfl

theorem rows_append_newlines (s t : Text) :
    rows (s ++ '\n' :: '\n' :: t) = rows s ++ [] :: rows t := by
  have h := rows_append_newline [] t
  rw [rows_append_newline, ← List.nil_append ('\n' :: t), h]
  rfl

/-- Lines that are put together are the rows of the text. -/
theorem rows_intercalate {ls : List Text} (h : ∀ l ∈ ls, '\n' ∉ l) (hne : ls ≠ []) :
    rows (['\n'].intercalate ls) = ls.map trimEnd := by
  rw [rows, List.splitOn_intercalate '\n' h hne]

/-- **Respacing distributes over an empty line.** -/
theorem respace_append_newlines (s t : Text) :
    respace (s ++ '\n' :: '\n' :: t) = besides (respace s) (respace t) := by
  simp only [besides, respace_eq_nil_iff]
  rw [respace, spacedLines_eq_tidyLines, rows_append_newlines, tidyLines_append_cons]
  split
  · rw [respace, spacedLines_eq_tidyLines]
  · split
    · rw [respace, spacedLines_eq_tidyLines]
    · rw [unlines_append, unlines_cons, respace, respace, spacedLines_eq_tidyLines,
        spacedLines_eq_tidyLines]
      rfl

/-- The texts that are not empty, with an empty line between two of them. -/
def stack (ts : List Text) : Text := ['\n'].intercalate (ts.filter fun t => !t.isEmpty)

@[simp] theorem stack_nil : stack [] = [] := rfl

theorem stack_cons (t : Text) (ts : List Text) : stack (t :: ts) = besides t (stack ts) := by
  have hnil : ∀ us : List Text, stack us = [] → us.filter (fun t => !t.isEmpty) = [] := by
    intro us h
    rw [stack] at h
    cases hf : us.filter (fun t => !t.isEmpty) with
    | nil => rfl
    | cons u rest =>
      have hu : u ≠ [] := by
        have hmem : u ∈ us.filter (fun t => !t.isEmpty) := by rw [hf]; exact List.mem_cons_self
        simpa using (List.mem_filter.1 hmem).2
      rw [hf, intercalate_cons] at h
      exact absurd (List.append_eq_nil_iff.1 h).1 hu
  cases t with
  | nil => rfl
  | cons c t =>
    have hfilter : (((c :: t) :: ts).filter fun t => !t.isEmpty)
        = (c :: t) :: ts.filter fun t => !t.isEmpty := rfl
    rw [besides, if_neg (by simp), stack, hfilter]
    split
    · rename_i h
      rw [hnil ts h]
      simp
    · rename_i h
      rw [List.intercalate_cons_of_ne_nil fun hf => h (by rw [stack, hf]; rfl), stack]
      simp

/-- **Respacing blocks that are separated by empty lines** is respacing each block, and then
separating the ones that are not empty by one empty line. -/
theorem respace_intercalate (blocks : List Text) :
    respace ("\n\n".toList.intercalate blocks) = stack (blocks.map respace) := by
  induction blocks with
  | nil => rfl
  | cons block rest ih =>
    cases rest with
    | nil =>
      rw [List.intercalate_singleton, List.map_singleton, stack_cons, stack_nil, besides]
      split
      · assumption
      · rfl
    | cons next others =>
      rw [List.intercalate_cons_cons, List.map_cons, stack_cons, ← ih, ← respace_append_newlines]
      simp

/-! ## The lines of a tidy text -/

theorem collapse_sublist (ls : List Text) : (collapse ls).Sublist ls := by
  induction ls with
  | nil => exact .slnil
  | cons line rest ih =>
    rw [collapse_cons, consLine]
    split
    · exact ih.cons line
    · exact ih.cons_cons line

theorem tidyLines_sublist (ls : List Text) : (tidyLines ls).Sublist ls :=
  (List.dropWhile_sublist List.isEmpty).trans (collapse_sublist ls)

/-- A line of a tidy text holds no line feed and does not end in a blank. -/
theorem newline_not_mem_of_mem_spacedLines {t l : Text} (h : l ∈ spacedLines t) :
    '\n' ∉ l ∧ ∀ c, l.getLast? = some c → isBlank c = false := by
  rw [spacedLines_eq_tidyLines] at h
  obtain ⟨piece, hpiece, rfl⟩ := List.mem_map.1 ((tidyLines_sublist _).subset h)
  refine ⟨fun hmem => not_mem_of_mem_splitOn hpiece ?_, fun c hc => ?_⟩
  · exact (isPrefix_trimEnd piece).subset hmem
  · exact getLast?_stripEnd isBlank piece hc

/-- Reading a tidy text gives its lines. -/
theorem lines_respace (t : Text) : lines (respace t) = spacedLines t := by
  have hlines : ∀ l ∈ spacedLines t, '\n' ∉ l ∧ ∀ c, l.getLast? = some c → isBlank c = false :=
    fun _ hl => newline_not_mem_of_mem_spacedLines hl
  refine lines_unlines_of_getLast?_ne (fun l hl => (hlines l hl).1) fun l hl h => ?_
  exact absurd ((hlines l hl).2 '\r' h) (by decide)

/-- **The lines of blocks that are put together** are the tidy lines of each block with an empty
line between two blocks. -/
theorem lines_stack_respace {blocks : List Text} (h : ∀ b ∈ blocks, tidyLines (rows b) ≠ []) :
    lines (stack (blocks.map respace)) =
      [[]].intercalate (blocks.map fun b => tidyLines (rows b)) := by
  rw [← respace_intercalate, lines_respace, spacedLines_eq_tidyLines]
  induction blocks with
  | nil => rfl
  | cons block rest ih =>
    have ih := ih fun b hb => h b (List.mem_cons_of_mem block hb)
    cases rest with
    | nil => rw [List.intercalate_singleton, List.map_singleton, List.intercalate_singleton]
    | cons next others =>
      have hjoin : "\n\n".toList.intercalate (block :: next :: others) =
          block ++ '\n' :: '\n' :: "\n\n".toList.intercalate (next :: others) := by
        rw [List.intercalate_cons_cons, List.append_assoc]
        rfl
      have hrest : [[]].intercalate ((next :: others).map fun b => tidyLines (rows b)) ≠ [] := by
        rw [List.map_cons, intercalate_cons]
        exact List.append_ne_nil_of_left_ne_nil (h next (by simp)) _
      rw [hjoin, rows_append_newlines, tidyLines_append_cons, if_neg (h block List.mem_cons_self),
        ih, if_neg hrest, List.map_cons, List.map_cons, List.map_cons, List.intercalate_cons_cons]
      simp

/-- A tidy text that is not empty ends in one line feed, and neither begins with a line feed nor
ends in two. -/
theorem respace_eq_nil_or (t : Text) :
    respace t = [] ∨ ∃ body : Text, respace t = body ++ ['\n'] ∧ body.head? ≠ some '\n' ∧
      ∃ c, body.getLast? = some c ∧ c ≠ '\n' := by
  rcases List.eq_nil_or_concat (spacedLines t) with hnil | ⟨init, last, hls⟩
  · exact Or.inl (by rw [respace, hnil]; rfl)
  · right
    rw [List.concat_eq_append] at hls
    have htidy : tidyLines (rows t) = init ++ [last] := by rw [← spacedLines_eq_tidyLines, hls]
    have hlast : last ≠ [] := by
      have hend : (tidyLines (rows t)).getLast? = some last := by rw [htidy]; simp
      exact ne_nil_of_getLast?_tidyLines hend
    have hfeed : ∀ l ∈ init ++ [last], '\n' ∉ l := fun l hl =>
      (newline_not_mem_of_mem_spacedLines (t := t) (by rw [hls]; exact hl)).1
    refine ⟨unlines init ++ last, ?_, ?_, ?_⟩
    · rw [respace, hls, unlines_append]
      simp
    · cases init with
      | nil =>
        intro hhead
        exact hfeed last (by simp) (List.mem_of_head? hhead)
      | cons first rest =>
        have hfirst : first ≠ [] := by
          have hbegin : (tidyLines (rows t)).head? = some first := by rw [htidy]; rfl
          exact ne_nil_of_head?_tidyLines hbegin
        obtain ⟨c, more, rfl⟩ := List.exists_cons_of_ne_nil hfirst
        intro hhead
        obtain rfl : c = '\n' := by simpa using hhead
        exact hfeed _ List.mem_cons_self List.mem_cons_self
    · obtain ⟨c, hc⟩ : ∃ c, last.getLast? = some c := ⟨_, List.getLast?_eq_some_getLast hlast⟩
      refine ⟨c, by rw [List.getLast?_append, hc]; rfl, ?_⟩
      rintro rfl
      exact hfeed last (by simp) (List.mem_of_getLast? hc)

/-- What is found in no empty line is found in tidy lines as before. -/
theorem filterMap_tidyLines {α : Type} {f : Text → Option α} (h : f [] = none) (ls : List Text) :
    (tidyLines ls).filterMap f = ls.filterMap f := by
  have hdrop : ∀ ms : List Text, (ms.dropWhile List.isEmpty).filterMap f = ms.filterMap f := by
    intro ms
    induction ms with
    | nil => rfl
    | cons m rest ih =>
      cases m with
      | nil => rw [List.dropWhile_cons_of_pos rfl, ih, List.filterMap_cons_none h]
      | cons c m => rfl
  have hfilter : ∀ ms : List Text,
      (ms.filter fun l => !l.isEmpty).filterMap f = ms.filterMap f := by
    intro ms
    rw [List.filterMap_filter]
    refine congrArg (ms.filterMap ·) (funext fun l => ?_)
    cases l with
    | nil => exact h.symm
    | cons c l => rfl
  rw [tidyLines, hdrop, ← hfilter, filter_collapse, hfilter]

/-- **What is found in no empty line** is found in the lines of the tidy text as in those of the
text. -/
theorem filterMap_lines_respace {α : Type} {f : Text → Option α} (h : f [] = none) (t : Text) :
    (lines (respace t)).filterMap f = (rows t).filterMap f := by
  rw [lines_respace, spacedLines_eq_tidyLines, filterMap_tidyLines h]

/-- Whether there are lines at all makes no difference to what is found in them. -/
theorem filterMap_rows_intercalate {α : Type} {f : Text → Option α} (h : f [] = none)
    {ls : List Text} (hls : ∀ l ∈ ls, '\n' ∉ l) :
    (rows (['\n'].intercalate ls)).filterMap f = (ls.map trimEnd).filterMap f := by
  cases ls with
  | nil => exact List.filterMap_cons_none h
  | cons l rest => rw [rows_intercalate hls (List.cons_ne_nil l rest)]

/-- What is found in no empty line is found in blocks that are put together as it is found in each
of them. -/
theorem filterMap_lines_stack {α : Type} {f : Text → Option α} (h : f [] = none)
    (blocks : List Text) :
    (lines (stack (blocks.map respace))).filterMap f =
      blocks.flatMap fun block => (rows block).filterMap f := by
  rw [← respace_intercalate, filterMap_lines_respace h]
  induction blocks with
  | nil => exact List.filterMap_cons_none h
  | cons block rest ih =>
    cases rest with
    | nil => simp
    | cons next others =>
      have hrows : rows ("\n\n".toList.intercalate (block :: next :: others)) =
          rows block ++ (rows [] ++ rows ("\n\n".toList.intercalate (next :: others))) := by
        rw [List.intercalate_cons_cons, ← rows_append_newline, ← rows_append_newline]
        simp
      have hempty : (rows []).filterMap f = [] := List.filterMap_cons_none h
      rw [hrows, List.filterMap_append, List.filterMap_append, hempty, List.nil_append, ih]
      exact (List.flatMap_cons (f := fun block => (rows block).filterMap f)).symm

end AstHierarchy.Text
