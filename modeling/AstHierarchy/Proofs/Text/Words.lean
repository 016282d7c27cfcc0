import AstHierarchy.Proofs.Text.Lines
import Mathlib.Data.List.DropRight

/-!
# Words, runs and trimmed texts

A word is a text that is not empty and has no blanks. A text is trimmed when no blank begins or ends
it; words are trimmed, and so is what trimming leaves. Conversely, trimming removes nothing from
a trimmed text but the blanks that are put around it (`trim_append_append`).

Where a run of similar elements ends can be seen from the first element after it
(`append_inj_of_forall`); this goes for the characters of a text as well as for lines.
-/

namespace AstHierarchy.Text

/-! ## Texts without blanks -/

/-- No character of the text is blank. -/
def IsBlankFree (t : Text) : Prop := ∀ c ∈ t, isBlank c = false

/-- The text is not empty and has no blanks. -/
def IsWord (t : Text) : Prop := t ≠ [] ∧ t.IsBlankFree

theorem isBlankFree_iff_all {t : Text} : t.all (fun c => !isBlank c) = true ↔
    t.IsBlankFree := by
  rw [List.all_eq_true]
  constructor
  · intro h c hc
    simpa using h c hc
  · intro h c hc
    rw [h c hc]
    rfl

instance (t : Text) : Decidable t.IsBlankFree :=
  decidable_of_bool (t.all fun c => !isBlank c) isBlankFree_iff_all

theorem isWord_iff {t : Text} :
    (!t.isEmpty && t.all fun c => !isBlank c) = true ↔ t.IsWord := by
  rw [Bool.and_eq_true, isBlankFree_iff_all, Bool.not_eq_true', List.isEmpty_eq_false_iff]
  rfl

instance (t : Text) : Decidable t.IsWord :=
  decidable_of_bool (!t.isEmpty && t.all fun c => !isBlank c) isWord_iff

theorem IsBlankFree.not_mem {t : Text} (h : t.IsBlankFree) {c : Char} (hc : isBlank c) :
    c ∉ t := by
  intro hmem
  rw [h c hmem] at hc
  cases hc

theorem IsBlankFree.newline_not_mem {t : Text} (h : t.IsBlankFree) : '\n' ∉ t :=
  h.not_mem (by decide)

theorem IsWord.newline_not_mem {t : Text} (h : t.IsWord) : '\n' ∉ t := h.2.newline_not_mem

theorem IsWord.space_not_mem {t : Text} (h : t.IsWord) : ' ' ∉ t := h.2.not_mem (by decide)

/-! ## Runs -/

/-- What fulfils `p` is dropped up to the first element that does not. -/
theorem dropWhile_append_of_head? {α : Type} {p : α → Bool} {run rest : List α}
    (hrun : ∀ a ∈ run, p a) (hrest : ∀ a, rest.head? = some a → p a = false) :
    (run ++ rest).dropWhile p = rest := by
  rw [List.dropWhile_append_of_pos hrun]
  cases rest with
  | nil => rfl
  | cons a rest => rw [List.dropWhile_cons_of_neg (by simp [hrest a rfl])]

/-- Where a run of elements that fulfil `p` ends is determined. -/
theorem append_inj_of_forall {α : Type} {p : α → Bool} {run run' rest rest' : List α}
    (hrun : ∀ a ∈ run, p a) (hrun' : ∀ a ∈ run', p a)
    (hrest : ∀ a, rest.head? = some a → p a = false)
    (hrest' : ∀ a, rest'.head? = some a → p a = false) (h : run ++ rest = run' ++ rest') :
    run = run' ∧ rest = rest' := by
  obtain rfl : rest = rest' := by
    rw [← dropWhile_append_of_head? hrun hrest, h, dropWhile_append_of_head? hrun' hrest']
  exact ⟨List.append_cancel_right h, rfl⟩

/-- What is true of the first element of two lists is true of the first element of both together. -/
theorem forall_head?_append {α : Type} {p : α → Prop} {xs ys : List α}
    (hxs : ∀ a, xs.head? = some a → p a) (hys : ∀ a, ys.head? = some a → p a) :
    ∀ a, (xs ++ ys).head? = some a → p a := by
  cases xs with
  | nil => exact hys
  | cons x rest => exact hxs

/-! ## Trimmed texts -/

/-- No blank begins or ends the text. -/
structure IsTrimmed (t : Text) : Prop where
  head : ∀ c, t.head? = some c → isBlank c = false
  last : ∀ c, t.getLast? = some c → isBlank c = false

theorem isTrimmed_iff {t : Text} :
    ((t.head?.all fun c => !isBlank c) && t.getLast?.all fun c => !isBlank c) = true ↔
      t.IsTrimmed := by
  rw [Bool.and_eq_true, Option.all_eq_true, Option.all_eq_true]
  constructor
  · intro h
    exact ⟨fun c hc => by simpa using h.1 c hc, fun c hc => by simpa using h.2 c hc⟩
  · intro h
    exact ⟨fun c hc => by simp [h.head c hc], fun c hc => by simp [h.last c hc]⟩

instance (t : Text) : Decidable t.IsTrimmed := decidable_of_bool _ isTrimmed_iff

theorem IsTrimmed.nil : IsTrimmed [] where
  head _ h := by cases h
  last _ h := by cases h

theorem IsWord.isTrimmed {t : Text} (h : t.IsWord) : t.IsTrimmed where
  head c hc := h.2 c (List.mem_of_head? hc)
  last c hc := h.2 c (List.mem_of_getLast? hc)

/-- What begins and ends with a trimmed text that is not empty is trimmed. -/
theorem IsTrimmed.append {s t : Text} (hs : s.IsTrimmed) (ht : t.IsTrimmed) (hsne : s ≠ [])
    (htne : t ≠ []) (middle : Text) : IsTrimmed (s ++ (middle ++ t)) where
  head c hc := by
    obtain ⟨d, rest, rfl⟩ := List.exists_cons_of_ne_nil hsne
    exact hs.head c hc
  last c hc := by
    obtain ⟨d, hd⟩ : ∃ d, t.getLast? = some d := ⟨_, List.getLast?_eq_some_getLast htne⟩
    rw [← List.append_assoc, List.getLast?_append, hd] at hc
    exact ht.last c (hd.trans hc)

/-- Trimmed pieces that are not empty make a trimmed text, whatever separates them. -/
theorem IsTrimmed.intercalate {sep : Text} {pieces : List Text}
    (h : ∀ p ∈ pieces, p.IsTrimmed ∧ p ≠ []) : IsTrimmed (sep.intercalate pieces) := by
  induction pieces with
  | nil => exact .nil
  | cons p rest ih =>
    obtain ⟨hp, hpne⟩ := h p List.mem_cons_self
    have hrest := ih fun q hq => h q (List.mem_cons_of_mem p hq)
    cases rest with
    | nil =>
      rw [List.intercalate_singleton]
      exact hp
    | cons q rest =>
      have hne : sep.intercalate (q :: rest) ≠ [] := by
        rw [intercalate_cons]
        exact List.append_ne_nil_of_left_ne_nil (h q (by simp)).2 _
      rw [List.intercalate_cons_cons, List.append_assoc]
      exact hp.append hrest hpne hne sep

/-- What trimming leaves is trimmed. -/
theorem isTrimmed_trim (t : Text) : IsTrimmed (trim t) where
  head c hc := by
    -- only the end of what is left has been changed after the blanks at the beginning were gone
    obtain ⟨run, hrun, -⟩ := exists_stripEnd_append isBlank (t.dropWhile isBlank)
    have hhead : (t.dropWhile isBlank).head? = some c := by
      have htrim : (stripEnd isBlank (t.dropWhile isBlank)).head? = some c := hc
      rw [hrun, List.head?_append, htrim]
      rfl
    have hnot := List.head?_dropWhile_not isBlank t
    rw [hhead] at hnot
    exact hnot
  last _ hc := getLast?_stripEnd isBlank (t.dropWhile isBlank) hc

/-- **Trimming removes what is put around a trimmed text**, and nothing else. -/
theorem trim_append_append {before t after : Text} (ht : t.IsTrimmed)
    (hbefore : ∀ c ∈ before, isBlank c) (hafter : ∀ c ∈ after, isBlank c) :
    trim (before ++ (t ++ after)) = t := by
  rw [trim, strip]
  cases t with
  | nil =>
    -- there is nothing between the two, and both are dropped from the front
    have hall : ∀ c ∈ before ++ ([] ++ after), isBlank c := by
      rw [List.nil_append]
      exact List.forall_mem_append.2 ⟨hbefore, hafter⟩
    rw [List.dropWhile_eq_nil_iff.2 hall]
    rfl
  | cons c rest =>
    have hfront : (before ++ (c :: rest ++ after)).dropWhile isBlank = c :: rest ++ after :=
      dropWhile_append_of_head? hbefore fun d hd => ht.head d hd
    have hend : (after.reverse ++ (c :: rest).reverse).dropWhile isBlank = (c :: rest).reverse := by
      refine dropWhile_append_of_head? (fun d hd => hafter d (List.mem_reverse.1 hd)) fun d hd => ?_
      rw [List.head?_reverse] at hd
      exact ht.last d hd
    rw [hfront, stripEnd, List.reverse_append, hend, List.reverse_reverse]

/-- What trimming removes is blank. -/
theorem exists_eq_append_trim (t : Text) : ∃ before after : Text,
    t = before ++ (trim t ++ after) ∧ (∀ c ∈ before, isBlank c) ∧ ∀ c ∈ after, isBlank c := by
  obtain ⟨after, hafter, hblank⟩ := exists_stripEnd_append isBlank (t.dropWhile isBlank)
  refine ⟨t.takeWhile isBlank, after, ?_, List.all_eq_true.1 List.all_takeWhile, hblank⟩
  rw [trim, strip, ← hafter, List.takeWhile_append_dropWhile]

theorem trim_eq_nil_iff {t : Text} : trim t = [] ↔ ∀ c ∈ t, isBlank c := by
  constructor
  · intro h
    obtain ⟨before, after, ht, hbefore, hafter⟩ := exists_eq_append_trim t
    rw [h, List.nil_append] at ht
    rw [ht]
    exact List.forall_mem_append.2 ⟨hbefore, hafter⟩
  · intro h
    have htrim := trim_append_append .nil h (List.forall_mem_nil _)
    rwa [List.nil_append, List.append_nil] at htrim

/-- Blanks before a text are trimmed as if they were its own. -/
theorem trim_blanks_append {front : Text} (h : ∀ c ∈ front, isBlank c) (t : Text) :
    trim (front ++ t) = trim t := by
  obtain ⟨before, after, ht, hbefore, hafter⟩ := exists_eq_append_trim t
  calc trim (front ++ t)
      = trim ((front ++ before) ++ (trim t ++ after)) := by rw [List.append_assoc, ← ht]
    _ = trim t :=
      trim_append_append (isTrimmed_trim t) (List.forall_mem_append.2 ⟨h, hbefore⟩) hafter

/-- Blanks after a text are trimmed as if they were its own. -/
theorem trim_append_blanks {back : Text} (h : ∀ c ∈ back, isBlank c) (t : Text) :
    trim (t ++ back) = trim t := by
  obtain ⟨before, after, ht, hbefore, hafter⟩ := exists_eq_append_trim t
  calc trim (t ++ back)
      = trim ((before ++ (trim t ++ after)) ++ back) := by rw [← ht]
    _ = trim (before ++ (trim t ++ (after ++ back))) := by simp only [List.append_assoc]
    _ = trim t :=
      trim_append_append (isTrimmed_trim t) hbefore (List.forall_mem_append.2 ⟨hafter, h⟩)

theorem trim_dropReturn (l : Text) : trim (dropReturn l) = trim l := by
  rcases eq_dropReturn_or l with h | h
  · rw [← h]
  · conv_rhs => rw [h]
    rw [trim_append_blanks (List.forall_mem_singleton.2 rfl)]

/-- All characters that are left were there before. -/
theorem trim_sublist (t : Text) : (trim t).Sublist t :=
  (List.rdropWhile_prefix isBlank _).sublist.trans (List.dropWhile_sublist isBlank)

end AstHierarchy.Text
