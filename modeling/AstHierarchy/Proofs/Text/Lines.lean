import AstHierarchy.Text.Blank
import AstHierarchy.Text.Lines

/-!
# Laws of lines

What a text has between its line feeds and what it has as lines differ in two ways only: a line
may lack the carriage return that ended it, and an empty piece at the end is no line. Neither
matters once trailing blanks are gone.
-/

namespace AstHierarchy.Text

/-! ## Joining -/

/-- Joined pieces are the first piece, and then every other piece after a separator. -/
theorem intercalate_cons {α : Type} (sep piece : List α) (rest : List (List α)) :
    sep.intercalate (piece :: rest) = piece ++ rest.flatMap (sep ++ ·) := by
  induction rest generalizing piece with
  | nil => simp
  | cons next rest ih =>
    rw [List.intercalate_cons_cons, ih, List.flatMap_cons]
    simp

/-- Pieces that are joined in groups are joined. -/
theorem intercalate_append {α : Type} (sep : List α) {xs ys : List (List α)} (hx : xs ≠ [])
    (hy : ys ≠ []) : sep.intercalate (xs ++ ys) = sep.intercalate xs ++ sep ++ sep.intercalate ys := by
  obtain ⟨x, xs, rfl⟩ := List.exists_cons_of_ne_nil hx
  obtain ⟨y, ys, rfl⟩ := List.exists_cons_of_ne_nil hy
  rw [List.cons_append, intercalate_cons, intercalate_cons, intercalate_cons, List.flatMap_append,
    List.flatMap_cons]
  simp

theorem intercalate_flatMap {α β : Type} (sep : List α) {xs : List β} {g : β → List (List α)}
    (h : ∀ x ∈ xs, g x ≠ []) :
    sep.intercalate (xs.flatMap g) = sep.intercalate (xs.map fun x => sep.intercalate (g x)) := by
  induction xs with
  | nil => rfl
  | cons x rest ih =>
    have hrest := ih fun y hy => h y (List.mem_cons_of_mem x hy)
    cases rest with
    | nil => simp
    | cons y rest =>
      have hy : (y :: rest).flatMap g ≠ [] := by
        rw [List.flatMap_cons]
        exact List.append_ne_nil_of_left_ne_nil (h y (by simp)) _
      rw [List.flatMap_cons, intercalate_append sep (h x List.mem_cons_self) hy, hrest,
        List.map_cons, List.map_cons, List.map_cons, List.intercalate_cons_cons]

theorem unlines_append (ls ms : List Text) : unlines (ls ++ ms) = unlines ls ++ unlines ms :=
  List.flatMap_append

/-- Lines before others are ended by line feeds. -/
theorem intercalate_append_cons (ls : List Text) (l : Text) (ms : List Text) :
    ['\n'].intercalate (ls ++ l :: ms) = unlines ls ++ ['\n'].intercalate (l :: ms) := by
  induction ls with
  | nil => rfl
  | cons m ls ih =>
    have hne : ls ++ l :: ms ≠ [] := by simp
    rw [List.cons_append, List.intercalate_cons_of_ne_nil hne, ih, unlines_cons]
    simp

/-- Lines that are all ended are the joined lines and one more line feed. -/
theorem unlines_eq_intercalate_append {ls : List Text} (h : ls ≠ []) :
    unlines ls = ['\n'].intercalate ls ++ ['\n'] := by
  rcases List.eq_nil_or_concat ls with rfl | ⟨init, last, rfl⟩
  · exact absurd rfl h
  · rw [List.concat_eq_append, intercalate_append_cons, List.intercalate_singleton,
      unlines_append]
    simp

theorem unlines_splitOn (t : Text) : unlines (t.splitOn '\n') = t ++ ['\n'] := by
  rw [unlines_eq_intercalate_append (List.splitOn_ne_nil _ _), List.intercalate_splitOn]

theorem not_mem_intercalate {c : Char} {sep : Text} {pieces : List Text} (hsep : c ∉ sep)
    (h : ∀ p ∈ pieces, c ∉ p) : c ∉ sep.intercalate pieces := by
  cases pieces with
  | nil => exact List.not_mem_nil
  | cons first rest =>
    rw [intercalate_cons, List.mem_append, not_or]
    refine ⟨h first List.mem_cons_self, fun hmem => ?_⟩
    obtain ⟨p, hp, hmem⟩ := List.mem_flatMap.1 hmem
    rcases List.mem_append.1 hmem with hmem | hmem
    · exact hsep hmem
    · exact h p (List.mem_cons_of_mem first hp) hmem

theorem mem_intercalate {c : Char} {sep p : Text} {pieces : List Text} (hp : p ∈ pieces)
    (hc : c ∈ p) : c ∈ sep.intercalate pieces := by
  obtain ⟨first, rest, rfl⟩ := List.exists_cons_of_ne_nil (List.ne_nil_of_mem hp)
  rw [intercalate_cons, List.mem_append]
  rcases List.mem_cons.1 hp with rfl | hp
  · exact Or.inl hc
  · exact Or.inr (List.mem_flatMap_of_mem hp (List.mem_append_right sep hc))

/-- The characters of a piece are characters of the text. -/
theorem mem_of_mem_splitOn {c d : Char} {piece t : Text} (h : piece ∈ t.splitOn c)
    (hd : d ∈ piece) : d ∈ t := by
  have hjoin : [c].intercalate (t.splitOn c) = t := List.intercalate_splitOn c
  rw [← hjoin]
  exact mem_intercalate h hd

/-- No piece holds the character that separates the pieces. -/
theorem not_mem_of_mem_splitOn {c : Char} {piece t : Text} (h : piece ∈ t.splitOn c) :
    c ∉ piece := by
  induction t generalizing piece with
  | nil =>
    rw [List.splitOn_nil, List.mem_singleton] at h
    simp [h]
  | cons d t ih =>
    rw [List.splitOn_cons_eq_if_modifyHead] at h
    split at h
    · rcases List.mem_cons.1 h with rfl | h
      · simp
      · exact ih h
    · rename_i hd
      cases hs : t.splitOn c with
      | nil => exact absurd hs (List.splitOn_ne_nil c t)
      | cons first rest =>
        rw [hs, List.modifyHead_cons] at h
        rcases List.mem_cons.1 h with rfl | h
        · have hfirst : c ∉ first := ih (by rw [hs]; exact List.mem_cons_self)
          have hne : c ≠ d := by
            rintro rfl
            simp at hd
          simp [hne, hfirst]
        · exact ih (by rw [hs]; exact List.mem_cons_of_mem first h)

/-- Where a character occurs first, and what follows it there, is determined. -/
theorem append_cons_inj_of_not_mem {c : Char} {before before' after after' : Text}
    (h : c ∉ before) (h' : c ∉ before') (heq : before ++ c :: after = before' ++ c :: after') :
    before = before' ∧ after = after' := by
  have hcut : cutAt c (before ++ c :: after) = some (before, after) :=
    cutAt_eq_some_iff.2 ⟨rfl, h⟩
  have hcut' : cutAt c (before ++ c :: after) = some (before', after') :=
    cutAt_eq_some_iff.2 ⟨heq, h'⟩
  exact Prod.mk.inj (Option.some.inj (hcut.symm.trans hcut'))

theorem getLast?_flatten {pieces : List Text} {last : Text} {c : Char}
    (h : pieces.getLast? = some last) (hc : last.getLast? = some c) :
    pieces.flatten.getLast? = some c := by
  obtain ⟨init, rfl⟩ := List.getLast?_eq_some_iff.1 h
  rw [List.flatten_append, List.flatten_singleton, List.getLast?_append, hc]
  rfl

/-! ## Carriage returns -/

/-- At most one carriage return is dropped, and nothing else. -/
theorem eq_dropReturn_or (l : Text) : l = dropReturn l ∨ l = dropReturn l ++ ['\r'] := by
  fun_induction dropReturn l with
  | case1 => exact Or.inl rfl
  | case2 => exact Or.inr rfl
  | case3 c rest _ ih =>
    rcases ih with ih | ih
    · exact Or.inl (congrArg (c :: ·) ih)
    · exact Or.inr (congrArg (c :: ·) ih)

@[simp] theorem dropReturn_append_return (l : Text) : dropReturn (l ++ ['\r']) = l := by
  induction l with
  | nil => rfl
  | cons c rest ih =>
    have hne : rest ++ ['\r'] ≠ [] := by simp
    rw [List.cons_append, dropReturn, ih]
    intro _ h
    exact hne h

/-- A line that does not end in a carriage return stays as it is. -/
theorem dropReturn_of_getLast?_ne {l : Text} (h : l.getLast? ≠ some '\r') : dropReturn l = l := by
  rcases eq_dropReturn_or l with heq | heq
  · exact heq.symm
  · rw [heq] at h
    simp at h

theorem dropReturn_of_return_not_mem {l : Text} (h : '\r' ∉ l) : dropReturn l = l :=
  dropReturn_of_getLast?_ne fun hlast => h (List.mem_of_getLast? hlast)

/-! ## Stripped ends -/

theorem stripEnd_append_of_forall {p : Char → Bool} {run : Text} (h : ∀ c ∈ run, p c) (t : Text) :
    stripEnd p (t ++ run) = stripEnd p t := by
  rw [stripEnd, List.reverse_append, List.dropWhile_append_of_pos, stripEnd]
  exact fun c hc => h c (List.mem_reverse.1 hc)

theorem stripEnd_append_of_getLast? {p : Char → Bool} {t : Text} {c : Char}
    (hlast : t.getLast? = some c) (hc : p c = false) {run : Text} (h : ∀ d ∈ run, p d) :
    stripEnd p (t ++ run) = t := by
  obtain ⟨init, rfl⟩ := List.getLast?_eq_some_iff.1 hlast
  rw [stripEnd_append_of_forall h, stripEnd, List.reverse_append, List.reverse_singleton,
    List.singleton_append, List.dropWhile_cons_of_neg (by simp [hc])]
  simp

/-! ## Trailing blanks -/

@[simp] theorem trimEnd_nil : trimEnd [] = [] := rfl

theorem trimEnd_replicate (n : Nat) : trimEnd (List.replicate n ' ') = [] := by
  rw [trimEnd, stripEnd, List.reverse_replicate, List.dropWhile_replicate]
  simp only [show isBlank ' ' = true from rfl, if_true, List.reverse_nil]

/-- Whether a text ends in a blank decides whether something is trimmed. -/
theorem trimEnd_append_singleton (t : Text) (c : Char) :
    trimEnd (t ++ [c]) = if isBlank c then trimEnd t else t ++ [c] := by
  unfold trimEnd stripEnd
  rw [List.reverse_append, List.reverse_singleton, List.singleton_append, List.dropWhile_cons]
  split <;> simp

/-- A text that ends in some other text which no trimming changes is not changed either. -/
theorem trimEnd_append_of_getLast? {t ending : Text} {c : Char} (h : ending.getLast? = some c)
    (hc : isBlank c = false) : trimEnd (t ++ ending) = t ++ ending := by
  obtain ⟨init, rfl⟩ : ∃ init, ending = init ++ [c] :=
    ⟨_, (List.getLast?_eq_some_iff.1 h).choose_spec⟩
  rw [← List.append_assoc, trimEnd_append_singleton, hc]
  rfl

theorem trimEnd_of_getLast? {t : Text} {c : Char} (h : t.getLast? = some c)
    (hc : isBlank c = false) : trimEnd t = t :=
  trimEnd_append_of_getLast? (t := []) h hc

/-- Trimming does not go back beyond what is left of the end. -/
theorem trimEnd_append {t : Text} (h : trimEnd t ≠ []) (s : Text) :
    trimEnd (s ++ t) = s ++ trimEnd t := by
  have hkept : ¬ (t.reverse.dropWhile isBlank).isEmpty := by
    rw [List.isEmpty_iff]
    exact fun hnil => h (congrArg List.reverse hnil)
  unfold trimEnd stripEnd
  rw [List.reverse_append, List.dropWhile_append, if_neg hkept, List.reverse_append,
    List.reverse_reverse]

/-- Something is left of a line that is not blank throughout. -/
theorem trimEnd_ne_nil {t : Text} {c : Char} (h : c ∈ t) (hc : isBlank c = false) :
    trimEnd t ≠ [] := by
  intro hnil
  obtain ⟨run, hrun, hblank⟩ := exists_stripEnd_append isBlank t
  rw [show stripEnd isBlank t = [] from hnil, List.nil_append] at hrun
  rw [hblank c (hrun ▸ h)] at hc
  cases hc

theorem isPrefix_trimEnd (t : Text) : trimEnd t <+: t := by
  obtain ⟨run, h, -⟩ := exists_stripEnd_append isBlank t
  exact ⟨run, h.symm⟩

/-- Something is left of a line if something is left of a piece of it. -/
theorem trimEnd_flatten_ne_nil {pieces : List Text} {p : Text} (h : p ∈ pieces)
    (hp : trimEnd p ≠ []) : trimEnd pieces.flatten ≠ [] := by
  have hlast : (trimEnd p).getLast? = some ((trimEnd p).getLast hp) :=
    List.getLast?_eq_some_getLast hp
  have hmem := (isPrefix_trimEnd p).subset (List.getLast_mem hp)
  exact trimEnd_ne_nil (List.mem_flatten_of_mem h hmem) (getLast?_stripEnd isBlank p hlast)

theorem trimEnd_dropReturn (l : Text) : trimEnd (dropReturn l) = trimEnd l := by
  rcases eq_dropReturn_or l with h | h
  · rw [← h]
  · rw [h, dropReturn_append_return, trimEnd_append_singleton]
    rfl

/-! ## The lines that were put together -/

/-- Lines that are ended are read one by one, and then the rest of the text. -/
theorem lines_unlines_append {ls : List Text} (h : ∀ l ∈ ls, '\n' ∉ l) (t : Text) :
    lines (unlines ls ++ t) = ls.map dropReturn ++ lines t := by
  induction ls with
  | nil => rfl
  | cons l rest ih =>
    have hrest := ih fun m hm => h m (List.mem_cons_of_mem l hm)
    rw [unlines_cons, List.append_assoc, List.cons_append,
      lines_append_newline (h l List.mem_cons_self), hrest]
    rfl

/-- Lines that hold no line feed are read again, each without the carriage return at its end. -/
theorem lines_unlines {ls : List Text} (h : ∀ l ∈ ls, '\n' ∉ l) :
    lines (unlines ls) = ls.map dropReturn := by
  have happend := lines_unlines_append h []
  rwa [List.append_nil, lines_nil, List.append_nil] at happend

theorem lines_of_newline_not_mem {l : Text} (h : '\n' ∉ l) (hne : l ≠ []) : lines l = [l] := by
  rw [lines, List.splitOn_eq_singleton h, linesOfPieces, if_neg]
  rwa [List.isEmpty_iff]

/-- When none of the lines ends in a carriage return, they are read again as they were. -/
theorem lines_unlines_of_getLast?_ne {ls : List Text} (h : ∀ l ∈ ls, '\n' ∉ l)
    (hreturn : ∀ l ∈ ls, l.getLast? ≠ some '\r') : lines (unlines ls) = ls := by
  rw [lines_unlines h]
  calc ls.map dropReturn
      = ls.map id := List.map_congr_left fun l hl => dropReturn_of_getLast?_ne (hreturn l hl)
    _ = ls := List.map_id ls

theorem newline_not_mem_of_mem_linesOfPieces {ps : List Text} (hps : ∀ p ∈ ps, '\n' ∉ p)
    {l : Text} (h : l ∈ linesOfPieces ps) : '\n' ∉ l := by
  fun_induction linesOfPieces ps with
  | case1 => simp at h
  | case2 last => simp at h
  | case3 last _ =>
    rw [List.mem_singleton.1 h]
    exact hps last List.mem_cons_self
  | case4 piece rest _ ih =>
    rcases List.mem_cons.1 h with rfl | h
    · intro hmem
      refine hps piece List.mem_cons_self ?_
      rcases eq_dropReturn_or piece with he | he
      · rw [he]; exact hmem
      · rw [he]; exact List.mem_append_left _ hmem
    · exact ih (fun p hp => hps p (List.mem_cons_of_mem piece hp)) h

/-- No line holds a line feed. -/
theorem newline_not_mem_of_mem_lines {l t : Text} (h : l ∈ lines t) : '\n' ∉ l :=
  newline_not_mem_of_mem_linesOfPieces (fun _ hp => not_mem_of_mem_splitOn hp) h

end AstHierarchy.Text
