import AstHierarchy.Text.Blank
import AstHierarchy.Text.Lowercase

/-!
# What lowercase introduces

Some characters stand in the lowercase of a text only where they stand in the text itself. For the
letters in the tables this is a fact about whole runs: the code points of a run's images lie in one
interval. No blank lies in any of these intervals, nor does the slash.
-/

namespace AstHierarchy.Text

/-! ## Characters that are no images -/

/-- No image of a run is the character, nor is it one of those that the rules beside the runs
give. -/
structure IsNoImage (d : Char) : Prop where
  not_run : ∀ run ∈ lowercaseRuns,
    d.toNat < run.image ∨ run.image + (run.last - run.first) < d.toNat
  not_rule : d ∉ ['\x00', 'i', '\u0307', 'ς', 'σ']

theorem IsNoImage.ne_ofNat_lower {d : Char} (hd : IsNoImage d) {run : CaseRun}
    (hrun : run ∈ lowercaseRuns) {n : Nat} (h : run.contains n) :
    d ≠ Char.ofNat (run.lower n) := by
  rintro rfl
  have hrange := hd.not_run run hrun
  simp only [CaseRun.contains, Bool.and_eq_true, decide_eq_true_eq] at h
  obtain ⟨⟨-, hlast⟩, -⟩ := h
  by_cases hvalid : (run.lower n).isValidChar
  · have hcode : (Char.ofNat (run.lower n)).toNat = run.image + (n - run.first) := by
      rw [Char.ofNat, dif_pos hvalid]
      rfl
    omega
  · -- what is no code point of a character gives the character zero
    have hzero : Char.ofNat (run.lower n) = '\x00' := by
      rw [Char.ofNat, dif_neg hvalid]
      rfl
    rw [hzero] at hd
    exact hd.not_rule List.mem_cons_self

/-- Only the character itself has it in its lowercase. -/
theorem IsNoImage.eq_of_mem_lowercaseChar {c d : Char} (hd : IsNoImage d)
    (h : d ∈ lowercaseChar c) : d = c := by
  unfold lowercaseChar at h
  split at h
  · exact absurd (List.mem_cons_of_mem _ (List.mem_append_left ['ς', 'σ'] h)) hd.not_rule
  · split at h
    · rename_i run hrun
      have hcontains : run.contains c.toNat := by simpa using List.find?_some hrun
      exact absurd (List.mem_singleton.1 h)
        (hd.ne_ofNat_lower (List.mem_of_find?_eq_some hrun) hcontains)
    · exact List.mem_singleton.1 h

theorem IsNoImage.mem_of_mem_lowercaseAfter {t : Text} (passed : Text) {d : Char}
    (hd : IsNoImage d) (h : d ∈ lowercaseAfter passed t) : d ∈ t := by
  induction t generalizing passed with
  | nil => cases h
  | cons c rest ih =>
    rw [lowercaseAfter, List.mem_append] at h
    rcases h with h | h
    · split at h
      · rw [List.mem_singleton.1 h] at hd
        have hrule := hd.not_rule
        split at hrule <;> simp at hrule
      · rw [hd.eq_of_mem_lowercaseChar h]
        exact List.mem_cons_self
    · exact List.mem_cons_of_mem c (ih _ h)

/-- **Lowercase introduces no character that is no image.** -/
theorem IsNoImage.mem_of_mem_lowercase {t : Text} {d : Char} (hd : IsNoImage d)
    (h : d ∈ lowercase t) : d ∈ t :=
  hd.mem_of_mem_lowercaseAfter [] h

/-! ## Slashes and blanks -/

theorem isNoImage_slash : IsNoImage '/' where
  not_run := by decide +kernel
  not_rule := by decide

/-- The code points of the blank characters. -/
def blankRanges : List (Nat × Nat) := [
  (0x09, 0x0D), (0x20, 0x20), (0x85, 0x85), (0xA0, 0xA0), (0x1680, 0x1680), (0x2000, 0x200A),
  (0x2028, 0x2029), (0x202F, 0x202F), (0x205F, 0x205F), (0x3000, 0x3000)]

theorem exists_blankRange_of_isBlank {c : Char} (h : isBlank c) :
    ∃ r ∈ blankRanges, r.1 ≤ c.toNat ∧ c.toNat ≤ r.2 := by
  simp only [isBlank, Bool.or_eq_true, Bool.and_eq_true, beq_iff_eq, decide_eq_true_eq] at h
  simp only [blankRanges, List.mem_cons, List.not_mem_nil, or_false, exists_eq_or_imp,
    exists_eq_left]
  omega

/-- No blank lies among the images of a run. -/
theorem blankRanges_disjoint_lowercaseRuns : ∀ run ∈ lowercaseRuns, ∀ r ∈ blankRanges,
    r.2 < run.image ∨ run.image + (run.last - run.first) < r.1 := by
  decide +kernel

theorem isNoImage_of_isBlank {d : Char} (h : isBlank d) : IsNoImage d where
  not_run := by
    intro run hrun
    obtain ⟨r, hr, hlo, hhi⟩ := exists_blankRange_of_isBlank h
    have hrange := blankRanges_disjoint_lowercaseRuns run hrun r hr
    omega
  not_rule := by
    intro hmem
    have hplain : ['\x00', 'i', '\u0307', 'ς', 'σ'].all (fun c => !isBlank c) := by decide
    have hd := List.all_eq_true.1 hplain d hmem
    rw [h] at hd
    cases hd

/-- **Lowercase introduces no blank.** -/
theorem mem_of_mem_lowercase {t : Text} {d : Char} (hd : isBlank d) (h : d ∈ lowercase t) :
    d ∈ t :=
  (isNoImage_of_isBlank hd).mem_of_mem_lowercase h

theorem isBlank_of_mem_lowercase {t : Text} (ht : ∀ c ∈ t, isBlank c = false) :
    ∀ c ∈ lowercase t, isBlank c = false := by
  intro c hc
  cases hblank : isBlank c with
  | false => rfl
  | true =>
    rw [ht c (mem_of_mem_lowercase hblank hc)] at hblank
    cases hblank

end AstHierarchy.Text
