import AstHierarchy.Proofs.Text.Spacing
import Mathlib.Data.List.Destutter
import Mathlib.Data.List.DropRight

/-!
# Tidy form is a normal form

`IsTidy` says of a text alone that it is in tidy form, and `squeeze` says of lines what is left of
them in tidy form: the empty lines at both ends are gone, and every other run of empty lines is a
single one. Neither speaks of the way in which a text is brought into that form.

* `lines_respace_eq_squeeze`: the lines of a text that has been respaced are the squeezed lines of
  the text.
* `isTidy_respace` and `respace_eq_self_iff`: respacing makes a text tidy, and leaves exactly the
  tidy texts as they are.
* `exists_tidyLines_eq`: what stands around two lines that say something is respaced on its own,
  and of the empty lines between the two at most one is left.
* `respace_normal_form` is the main result.
-/

namespace AstHierarchy.Text

/-! ## Blank lines -/

/-- Whether there is nothing but blanks in the line. -/
def isBlankLine (l : Text) : Bool := l.all isBlank

theorem trimEnd_eq_nil_iff {l : Text} : trimEnd l = [] ↔ isBlankLine l := by
  unfold isBlankLine trimEnd stripEnd
  rw [List.reverse_eq_nil_iff, List.dropWhile_eq_nil_iff, List.all_eq_true]
  simp

theorem trimEnd_ne_nil_iff {l : Text} : trimEnd l ≠ [] ↔ isBlankLine l = false := by
  rw [Ne, trimEnd_eq_nil_iff, Bool.not_eq_true]

/-- The lines that are empty once their trailing blanks are gone are the blank ones. -/
theorem filter_map_trimEnd (ls : List Text) :
    (ls.map trimEnd).filter (fun l => !l.isEmpty) =
      (ls.filter fun l => !isBlankLine l).map trimEnd := by
  rw [List.filter_map]
  refine congrArg (List.map trimEnd) (List.filter_congr fun l _ => ?_)
  rw [Function.comp_apply, Bool.not_inj_iff, Bool.eq_iff_iff, List.isEmpty_iff, trimEnd_eq_nil_iff]

/-! ## Squeezed lines -/

/-- One of two lines in a row says something. -/
def Apart (l m : Text) : Prop := l ≠ [] ∨ m ≠ []

instance : DecidableRel Apart := fun l m => inferInstanceAs (Decidable (l ≠ [] ∨ m ≠ []))

theorem not_apart_iff {l m : Text} : ¬ Apart l m ↔ l = [] ∧ m = [] := by
  rw [Apart, not_or, not_not, not_not]

/-- The lines without the empty ones at both ends, and with one empty line in the place of each
other run of empty lines. -/
def squeeze (ls : List Text) : List Text :=
  ((ls.dropWhile List.isEmpty).rdropWhile List.isEmpty).destutter Apart

theorem squeeze_eq_self {ls : List Text} (hhead : ls.head? ≠ some [])
    (hlast : ls.getLast? ≠ some []) (hapart : ls.IsChain Apart) : squeeze ls = ls := by
  have hfront : ls.dropWhile List.isEmpty = ls := by
    cases ls with
    | nil => rfl
    | cons l rest =>
      refine List.dropWhile_cons_of_neg fun h => hhead ?_
      rw [List.isEmpty_iff.1 h]
      rfl
  have hback : ls.rdropWhile List.isEmpty = ls := by
    refine List.rdropWhile_eq_self_iff.2 fun hne h => hlast ?_
    rw [List.getLast?_eq_some_getLast hne, List.isEmpty_iff.1 h]
  rw [squeeze, hfront, hback, List.destutter_of_isChain _ ls hapart]

/-- An empty line at the end is not kept. -/
theorem collapse_rdropWhile (ls : List Text) :
    collapse (ls.rdropWhile List.isEmpty) = collapse ls := by
  induction ls using List.reverseRecOn with
  | nil => rfl
  | append_singleton ls l ih =>
    by_cases hl : l = []
    · subst hl
      have hdrop : collapse (ls ++ [[]]) = collapse ls := by
        unfold collapse
        rw [List.foldr_append]
        rfl
      rw [List.rdropWhile_concat_pos _ _ _ rfl, ih, hdrop]
    · rw [List.rdropWhile_concat_neg]
      rwa [List.isEmpty_iff]

/-- Where the last line says something, collapsing keeps the first line of every run of empty
ones. -/
theorem collapse_eq_destutter {ls : List Text} (h : ls.getLast? ≠ some []) :
    collapse ls = ls.destutter Apart := by
  induction ls with
  | nil => rfl
  | cons l rest ih =>
    cases rest with
    | nil =>
      have hl : l ≠ [] := by simpa using h
      obtain ⟨c, line, rfl⟩ := List.exists_cons_of_ne_nil hl
      rfl
    | cons m rest =>
      rw [List.getLast?_cons_cons] at h
      have hkept := ih h
      -- what is kept of the rest begins with the first line of it
      have hne : collapse (m :: rest) ≠ [] := by
        rw [hkept]
        exact List.destutter'_ne_nil _ _
      obtain ⟨x, others, hx⟩ := List.exists_cons_of_ne_nil hne
      have hm : x = m := eq_of_head?_collapse_cons (by rw [hx]; rfl)
      subst hm
      rw [collapse_cons, hx, List.destutter_cons']
      by_cases hapart : Apart l x
      · rw [List.destutter'_cons_pos _ hapart, ← List.destutter_cons', ← hkept, hx, consLine]
        refine if_neg fun hboth => not_apart_iff.2 ?_ hapart
        simpa using hboth
      · obtain ⟨rfl, rfl⟩ := not_apart_iff.1 hapart
        rw [List.destutter'_cons_neg _ hapart, ← List.destutter_cons', ← hkept, hx]
        rfl

theorem tidyLines_dropWhile (ls : List Text) :
    tidyLines (ls.dropWhile List.isEmpty) = tidyLines ls := by
  induction ls with
  | nil => rfl
  | cons l rest ih =>
    by_cases hl : l = []
    · subst hl
      rw [List.dropWhile_cons_of_pos rfl, ih, tidyLines_cons_nil]
    · rw [List.dropWhile_cons_of_neg (by rwa [List.isEmpty_iff])]

/-- **Tidy lines are squeezed lines.** -/
theorem tidyLines_eq_squeeze (ls : List Text) : tidyLines ls = squeeze ls := by
  unfold squeeze
  rw [← tidyLines_dropWhile]
  generalize hms : ls.dropWhile List.isEmpty = ms
  have hhead : ms.head? ≠ some [] := by
    intro h
    have hnot := List.head?_dropWhile_not List.isEmpty ls
    rw [hms, h] at hnot
    cases hnot
  have hlast : (ms.rdropWhile List.isEmpty).getLast? ≠ some [] := by
    intro h
    have hne : ms.rdropWhile List.isEmpty ≠ [] := fun hnil => by simp [hnil] at h
    refine List.rdropWhile_last_not List.isEmpty ms hne ?_
    rw [List.getLast?_eq_some_getLast hne] at h
    rw [Option.some.inj h]
    rfl
  rw [← collapse_eq_destutter hlast, collapse_rdropWhile]
  -- the first line says something, so that it is kept, and nothing is dropped before it
  cases ms with
  | nil => rfl
  | cons l rest =>
    have hl : l ≠ [] := fun hnil => hhead (congrArg some hnil)
    obtain ⟨c, line, rfl⟩ := List.exists_cons_of_ne_nil hl
    rfl

theorem lines_respace_eq_squeeze (t : Text) :
    lines (respace t) = squeeze (t.lines.map trimEnd) := by
  rw [lines_respace, ← tidyLines_eq_squeeze]
  rfl

theorem respace_eq_unlines (t : Text) : respace t = unlines (squeeze (t.lines.map trimEnd)) := by
  rw [← lines_respace_eq_squeeze, lines_respace, respace]

/-! ## Around two lines that say something -/

theorem filter_dropWhile_isEmpty (ls : List Text) :
    (ls.dropWhile List.isEmpty).filter (fun l => !l.isEmpty) = ls.filter fun l => !l.isEmpty := by
  induction ls with
  | nil => rfl
  | cons l rest ih =>
    by_cases hl : l = []
    · subst hl
      exact ih
    · rw [List.dropWhile_cons_of_neg (by rwa [List.isEmpty_iff])]

/-- All lines that say something are left, in order. -/
theorem filter_tidyLines (ls : List Text) :
    (tidyLines ls).filter (fun l => !l.isEmpty) = ls.filter fun l => !l.isEmpty := by
  rw [tidyLines, filter_dropWhile_isEmpty, filter_collapse]

theorem tidyLines_eq_nil_iff {ls : List Text} : tidyLines ls = [] ↔ ∀ l ∈ ls, l = [] := by
  have hfilter := filter_tidyLines ls
  constructor
  · intro hnil l hl
    rw [hnil, List.filter_nil, eq_comm, List.filter_eq_nil_iff] at hfilter
    simpa using hfilter l hl
  · intro hempty
    by_contra hne
    obtain ⟨l, rest, hls⟩ := List.exists_cons_of_ne_nil hne
    have hl : l ≠ [] := ne_nil_of_head?_tidyLines (by rw [hls]; rfl)
    exact hl (hempty l ((tidyLines_sublist ls).subset (by rw [hls]; exact List.mem_cons_self)))

/-- A line that says something is kept, and what comes before it does not change what is kept of
the lines after it. -/
theorem exists_collapse_append_cons {l : Text} (h : l ≠ []) (before after : List Text) :
    ∃ front, collapse (before ++ l :: after) = front ++ l :: collapse after ∧
      front.filter (fun m => !m.isEmpty) = before.filter fun m => !m.isEmpty := by
  induction before with
  | nil =>
    obtain ⟨c, line, rfl⟩ := List.exists_cons_of_ne_nil h
    exact ⟨[], rfl, rfl⟩
  | cons m before ih =>
    obtain ⟨front, hfront, hfilter⟩ := ih
    rw [List.cons_append, collapse_cons, hfront, consLine]
    split
    · rename_i hdropped
      obtain rfl : m = [] := by simp_all
      exact ⟨front, rfl, hfilter⟩
    · exact ⟨m :: front, rfl, by rw [List.filter_cons, List.filter_cons, hfilter]⟩

theorem collapse_append_of_forall_eq_nil {gap : List Text} (h : ∀ g ∈ gap, g = []) {l : Text}
    (hl : l ≠ []) (after : List Text) :
    collapse (gap ++ l :: after) = (if gap = [] then [] else [[]]) ++ l :: collapse after := by
  obtain ⟨c, line, rfl⟩ := List.exists_cons_of_ne_nil hl
  induction gap with
  | nil => rfl
  | cons g gap ih =>
    obtain rfl : g = [] := h g List.mem_cons_self
    rw [List.cons_append, collapse_cons, ih fun x hx => h x (List.mem_cons_of_mem _ hx)]
    by_cases hgap : gap = []
    · subst hgap
      rfl
    · rw [if_neg hgap, if_neg (List.cons_ne_nil _ _)]
      rfl

/-- **Of the empty lines between two lines that say something** at most one is left, and what stands
around the two lines stays around them. -/
theorem exists_tidyLines_eq (before after : List Text) {gap : List Text} {l m : Text} (hl : l ≠ [])
    (hgap : ∀ g ∈ gap, g = []) (hm : m ≠ []) :
    ∃ before' after',
      tidyLines (before ++ l :: (gap ++ m :: after)) =
        before' ++ l :: ((if gap = [] then [] else [[]]) ++ m :: after') ∧
      before'.filter (fun x => !x.isEmpty) = before.filter (fun x => !x.isEmpty) ∧
      after'.filter (fun x => !x.isEmpty) = after.filter fun x => !x.isEmpty := by
  obtain ⟨front, hfront, hfilter⟩ := exists_collapse_append_cons hl before (gap ++ m :: after)
  refine ⟨front.dropWhile List.isEmpty, collapse after, ?_, ?_, filter_collapse after⟩
  · rw [tidyLines, hfront, collapse_append_of_forall_eq_nil hgap hm, List.dropWhile_append]
    split
    · rename_i hnone
      rw [List.isEmpty_iff.1 hnone, List.dropWhile_cons_of_neg (by rwa [List.isEmpty_iff])]
      rfl
    · rfl
  · rw [filter_dropWhile_isEmpty, hfilter]

/-! ## Tidy texts -/

/-- The text is in tidy form. -/
structure IsTidy (t : Text) : Prop where
  /-- The first line, if there is one, says something. -/
  begins : ∀ l, t.lines.head? = some l → isBlankLine l = false
  /-- Exactly one line feed ends a text that is not empty. -/
  ends : t ≠ [] → ∃ body : Text, t = body ++ ['\n'] ∧ body.getLast? ≠ some '\n'
  /-- No line ends in a blank. -/
  trimmed : ∀ l ∈ t.splitOn '\n', ∀ c, l.getLast? = some c → isBlank c = false
  /-- There is nowhere more than one empty line. -/
  spaced : ¬ "\n\n\n".toList <:+: t

theorem isTidy_nil : IsTidy [] where
  begins _ h := by cases h
  ends h := absurd rfl h
  trimmed l hl c hc := by
    rw [List.splitOn_nil, List.mem_singleton] at hl
    rw [hl] at hc
    cases hc
  spaced h := by simp at h

/-- A line feed ends a text whose last piece is empty, unless the text is empty. -/
theorem getLast?_of_getLast?_splitOn {t : Text} (hne : t ≠ [])
    (h : (t.splitOn '\n').getLast? = some []) : t.getLast? = some '\n' := by
  obtain ⟨init, hinit⟩ := List.getLast?_eq_some_iff.1 h
  have ht : ['\n'].intercalate (t.splitOn '\n') = t := List.intercalate_splitOn '\n'
  rw [hinit, intercalate_append_cons, List.intercalate_singleton, List.append_nil] at ht
  rcases List.eq_nil_or_concat init with rfl | ⟨front, last, rfl⟩
  · exact absurd ht.symm hne
  · rw [← ht, List.concat_eq_append, unlines_append]
    simp

/-- The lines of a tidy text, all of which are ended, are squeezed. -/
theorem IsTidy.squeeze_splitOn {body : Text} (h : IsTidy (body ++ ['\n']))
    (hbody : body.getLast? ≠ some '\n') :
    lines (body ++ ['\n']) = body.splitOn '\n' ∧
      (body.splitOn '\n').map trimEnd = body.splitOn '\n' ∧
      squeeze (body.splitOn '\n') = body.splitOn '\n' := by
  have hunlines : body ++ ['\n'] = unlines (body.splitOn '\n') := (unlines_splitOn body).symm
  have hsplit : (body ++ ['\n']).splitOn '\n' = body.splitOn '\n' ++ [[]] :=
    List.splitOn_append_cons_self body []
  have htrimmed : ∀ l ∈ body.splitOn '\n', ∀ c, l.getLast? = some c → isBlank c = false :=
    fun l hl => h.trimmed l (by rw [hsplit]; exact List.mem_append_left _ hl)
  have hlines : lines (body ++ ['\n']) = body.splitOn '\n' := by
    rw [hunlines]
    refine lines_unlines_of_getLast?_ne (fun l hl => not_mem_of_mem_splitOn hl) fun l hl hc => ?_
    exact absurd (htrimmed l hl '\r' hc) (by decide)
  have hhead : (body.splitOn '\n').head? ≠ some [] := by
    intro hhead
    have hblank := h.begins [] (by rw [hlines, hhead])
    cases hblank
  refine ⟨hlines, ?_, squeeze_eq_self hhead (fun hlast => hbody ?_) ?_⟩
  · calc (body.splitOn '\n').map trimEnd
        = (body.splitOn '\n').map id := by
          refine List.map_congr_left fun l hl => ?_
          rcases List.eq_nil_or_concat l with rfl | ⟨init, c, rfl⟩
          · rfl
          · exact trimEnd_of_getLast? (by simp) (htrimmed _ hl c (by simp))
      _ = body.splitOn '\n' := List.map_id _
  · refine getLast?_of_getLast?_splitOn (fun hnil => hhead ?_) hlast
    rw [hnil, List.splitOn_nil]
    rfl
  · -- two empty lines in a row would stand after a line that says something
    refine List.isChain_iff_forall_rel_of_append_cons_cons.2 fun l m front back hpieces => ?_
    by_contra hapart
    obtain ⟨rfl, rfl⟩ := not_apart_iff.1 hapart
    rcases List.eq_nil_or_concat front with rfl | ⟨init, last, rfl⟩
    · exact hhead (by rw [hpieces]; rfl)
    · refine h.spaced ⟨unlines init ++ last, unlines back, ?_⟩
      rw [hunlines, hpieces, List.concat_eq_append, unlines_append, unlines_append]
      simp

/-- **A tidy text stays as it is.** -/
theorem IsTidy.respace_eq {t : Text} (h : IsTidy t) : respace t = t := by
  by_cases hne : t = []
  · subst hne
    rfl
  · obtain ⟨body, rfl, hbody⟩ := h.ends hne
    obtain ⟨hlines, htrim, hsqueeze⟩ := h.squeeze_splitOn hbody
    rw [respace_eq_unlines, hlines, htrim, hsqueeze, unlines_splitOn]

/-- **Respacing makes a text tidy.** -/
theorem isTidy_respace (t : Text) : IsTidy (respace t) := by
  rcases respace_eq_nil_or t with hnil | ⟨body, hbody, -, c, hc, hne⟩
  · rw [hnil]
    exact isTidy_nil
  have hpieces : (respace t).splitOn '\n' = spacedLines t ++ [[]] := by
    have hlines : ∀ l ∈ spacedLines t, '\n' ∉ l := fun _ hl =>
      (newline_not_mem_of_mem_spacedLines hl).1
    have hjoin : respace t = ['\n'].intercalate (spacedLines t ++ [[]]) := by
      rw [intercalate_append_cons, List.intercalate_singleton, List.append_nil, respace]
    rw [hjoin, List.splitOn_intercalate '\n' _ (by simp)]
    exact List.forall_mem_append.2 ⟨hlines, by simp⟩
  have htidy : spacedLines t = tidyLines (rows t) := spacedLines_eq_tidyLines t
  have htrimmed : ∀ l ∈ spacedLines t, ∀ c, l.getLast? = some c → isBlank c = false := fun _ hl =>
    (newline_not_mem_of_mem_spacedLines hl).2
  constructor
  · intro l hl
    rw [lines_respace] at hl
    have hlne : l ≠ [] := ne_nil_of_head?_tidyLines (htidy ▸ hl)
    refine List.all_eq_false.2 ⟨l.getLast hlne, List.getLast_mem hlne, ?_⟩
    simpa using htrimmed l (List.mem_of_head? hl) _ (List.getLast?_eq_some_getLast hlne)
  · intro _
    refine ⟨body, hbody, fun hfeed => hne ?_⟩
    exact Option.some.inj (hc.symm.trans hfeed)
  · intro l hl
    rw [hpieces] at hl
    rcases List.mem_append.1 hl with hl | hl
    · exact htrimmed l hl
    · rw [List.mem_singleton.1 hl]
      intro c hc
      cases hc
  · -- three line feeds in a row are two empty lines in a row, or one at the end of the lines
    rintro ⟨front, back, hinfix⟩
    have hsplit : (respace t).splitOn '\n' =
        front.splitOn '\n' ++ [] :: [] :: back.splitOn '\n' := by
      rw [← hinfix, List.append_assoc]
      show (front ++ '\n' :: ([] ++ '\n' :: ([] ++ '\n' :: back))).splitOn '\n' = _
      rw [List.splitOn_append_cons_self, List.splitOn_append_cons_self,
        List.splitOn_append_cons_self, List.splitOn_nil]
      rfl
    have hchain : (spacedLines t ++ [[]]).IsChain Apart := by
      refine List.isChain_append.2 ⟨?_, .singleton _, fun l hl m _ => Or.inl ?_⟩
      · rw [htidy, tidyLines_eq_squeeze]
        exact List.isChain_destutter _ _
      · rw [htidy] at hl
        exact ne_nil_of_getLast?_tidyLines hl
    rw [hpieces] at hsplit
    have hboth := List.isChain_iff_forall_rel_of_append_cons_cons.1 hchain hsplit
    exact not_apart_iff.2 ⟨rfl, rfl⟩ hboth

theorem respace_eq_self_iff (t : Text) : respace t = t ↔ IsTidy t :=
  ⟨fun h => h ▸ isTidy_respace t, IsTidy.respace_eq⟩

/-- **Tidy form is a normal form.** The lines of a text in tidy form are those of the text without
trailing blanks and with their empty lines squeezed. So the lines that say something are all there,
in order, and two of them that come one after the other are separated by one empty line if there
was any blank line between them. Nothing is left exactly if all lines are blank. Otherwise the first
line says something and exactly one line feed ends the text; no line ends in a blank, and there are
nowhere two empty lines in a row. Texts that are like this already stay as they are, and so does
every text in tidy form. -/
theorem respace_normal_form (t : Text) :
    lines (respace t) = squeeze (t.lines.map trimEnd) ∧
    (lines (respace t)).filter (fun l => !l.isEmpty) =
      (t.lines.filter fun l => !isBlankLine l).map trimEnd ∧
    (∀ before l gap m after, t.lines = before ++ l :: (gap ++ m :: after) →
      isBlankLine l = false → (∀ g ∈ gap, isBlankLine g) → isBlankLine m = false →
      ∃ before' after',
        lines (respace t) = before' ++
          trimEnd l :: ((if gap = [] then [] else [[]]) ++ trimEnd m :: after') ∧
        before'.filter (fun x => !x.isEmpty) =
          (before.filter fun x => !isBlankLine x).map trimEnd ∧
        after'.filter (fun x => !x.isEmpty) =
          (after.filter fun x => !isBlankLine x).map trimEnd) ∧
    (respace t = [] ↔ ∀ l ∈ t.lines, isBlankLine l) ∧
    IsTidy (respace t) ∧ (respace t = t ↔ IsTidy t) ∧ respace (respace t) = respace t := by
  have hlines : lines (respace t) = tidyLines (t.lines.map trimEnd) := lines_respace t
  refine ⟨lines_respace_eq_squeeze t, ?_, fun before l gap m after ht hl hgap hm => ?_, ?_,
    isTidy_respace t, respace_eq_self_iff t, (isTidy_respace t).respace_eq⟩
  · rw [hlines, filter_tidyLines, filter_map_trimEnd]
  · have hempty : ∀ g ∈ gap.map trimEnd, g = [] := by
      intro g hg
      obtain ⟨x, hx, rfl⟩ := List.mem_map.1 hg
      exact trimEnd_eq_nil_iff.2 (hgap x hx)
    have hrows : t.lines.map trimEnd =
        before.map trimEnd ++ trimEnd l :: (gap.map trimEnd ++ trimEnd m :: after.map trimEnd) := by
      rw [ht]
      simp
    have htidy := exists_tidyLines_eq (before.map trimEnd) (after.map trimEnd)
      (trimEnd_ne_nil_iff.2 hl) hempty (trimEnd_ne_nil_iff.2 hm)
    rw [← hrows, ← hlines] at htidy
    simpa only [List.map_eq_nil_iff, filter_map_trimEnd] using htidy
  · rw [respace, unlines_eq_nil_iff, ← lines_respace, hlines, tidyLines_eq_nil_iff]
    simp only [List.forall_mem_map, trimEnd_eq_nil_iff]

/-- Lines with other blanks than spaces, between them blank lines of several kinds, and no line feed
at the end. -/
def untidy : Text := " \r\n\ta\u3000\r\n\n \nb\nc\u0085\n\r".toList

theorem respace_normal_form_untidy :
    (∃ before' after',
      lines (respace untidy) = before' ++ "\ta".toList :: ([[]] ++ ['b'] :: after') ∧
      before'.filter (fun x => !x.isEmpty) = [] ∧
      after'.filter (fun x => !x.isEmpty) = [['c']]) ∧
    respace "a\n\nb\n".toList = "a\n\nb\n".toList ∧ respace " \n\u2003".toList = [] := by
  obtain ⟨-, -, hbetween, -⟩ := respace_normal_form untidy
  obtain ⟨-, -, -, -, -, hself, -⟩ := respace_normal_form "a\n\nb\n".toList
  obtain ⟨-, -, -, hnil, -⟩ := respace_normal_form " \n\u2003".toList
  have hpieces : "a\n\nb\n".toList.splitOn '\n' = [['a'], [], ['b'], []] := by decide
  have htrimmed : ∀ l ∈ "a\n\nb\n".toList.splitOn '\n', ∀ c, l.getLast? = some c →
      isBlank c = false := by
    intro l hl c hc
    rw [hpieces] at hl
    simp only [List.mem_cons, List.not_mem_nil, or_false] at hl
    rcases hl with rfl | rfl | rfl | rfl <;> cases hc <;> rfl
  refine ⟨?_, hself.2 ⟨by decide, fun _ => ⟨"a\n\nb".toList, rfl, by decide⟩, htrimmed,
    by decide⟩, hnil.2 (by decide)⟩
  exact hbetween [" ".toList] "\ta\u3000".toList [[], " ".toList] ['b'] ["c\u0085".toList, ['\r']]
    (by decide) (by decide) (by decide) (by decide)

end AstHierarchy.Text
