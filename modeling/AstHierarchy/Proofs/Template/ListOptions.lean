import AstHierarchy.Proofs.Template.Line
import AstHierarchy.Template.Scanner

/-!
# How the options of a list are scanned

What stands between the slash of a list and the next percent sign are its options, whether they are
read as a piece of the line or scanned character by character. `scanOptions_eq` says that scanning
finds the layout that reading finds, and the place of that percent sign; where there is none, it
reports what reading reports.
-/

namespace AstHierarchy

open Text

/-! ## Layouts -/

/-- The layout with the flags added. -/
def ListLayout.withFlags (layout : ListLayout) (flags : Text) : ListLayout :=
  { layout with trailing := layout.trailing || flags.contains '+',
                oneLine := layout.oneLine || flags.contains '_' }

theorem ListLayout.ofText?_cons (delimiter : Char) (flags : Text) :
    ofText? (delimiter :: flags) =
      if flags.all isFlag then some (.ofFlags delimiter flags) else none := rfl

theorem ListLayout.withFlags_delimiter (delimiter : Char) (flags : Text) :
    withFlags { delimiter := some delimiter } flags = .ofFlags delimiter flags := by
  simp [withFlags, ofFlags]

theorem ListLayout.withFlags_nil (layout : ListLayout) : layout.withFlags [] = layout := by
  simp [withFlags]

theorem ListLayout.withFlags_cons (layout : ListLayout) (f : Char) (flags : Text) :
    (layout.withFlags [f]).withFlags flags = layout.withFlags (f :: flags) := by
  simp [withFlags, Bool.or_assoc]

/-! ## Flags -/

theorem scanFlags_of_eq_percent {line : Text} {i n : Nat} (h : (places line)[i]? = some (n, '%'))
    (layout : ListLayout) : scanFlags line layout i = .ok (layout, i) := by
  rw [scanFlags]
  split <;> simp_all

theorem scanFlags_of_isFlag {line : Text} {i n : Nat} {f : Char}
    (h : (places line)[i]? = some (n, f)) (hf : isFlag f) (layout : ListLayout) :
    scanFlags line layout i = scanFlags line (layout.withFlags [f]) (i + 1) := by
  rw [scanFlags]
  obtain rfl | rfl : f = '+' ∨ f = '_' := by simpa [isFlag] using hf
  · split <;> simp_all [ListLayout.withFlags]
  · split <;> simp_all [ListLayout.withFlags]

theorem scanFlags_of_forall {line : Text} {i : Nat}
    (h : ∀ n c, (places line)[i]? = some (n, c) → c ≠ '%' ∧ isFlag c = false)
    (layout : ListLayout) : scanFlags line layout i = .error (.fault (.badOptions line)) := by
  rw [scanFlags]
  split
  · rename_i n hplace
    exact absurd rfl (h n _ hplace).1
  · rename_i n hplace
    exact absurd (h n _ hplace).2 (by decide)
  · rename_i n hplace
    exact absurd (h n _ hplace).2 (by decide)
  · rfl

/-- Flags are read up to the next percent sign, which may be missing. -/
theorem scanFlags_eq (before : Text) {flags tail : Text} (hflags : '%' ∉ flags)
    (htail : ∀ c ∈ tail.head?, c = '%') (layout : ListLayout) :
    scanFlags (before ++ (flags ++ tail)) layout before.length =
      if flags.all isFlag ∧ tail ≠ [] then .ok (layout.withFlags flags, (before ++ flags).length)
      else .error (.fault (.badOptions (before ++ (flags ++ tail)))) := by
  induction flags generalizing before layout with
  | nil =>
    cases tail with
    | nil =>
      rw [if_neg fun h => h.2 rfl]
      refine scanFlags_of_forall (fun n c hc => ?_) layout
      obtain ⟨hlt, -⟩ := List.getElem?_eq_some_iff.1 hc
      rw [length_places, List.append_nil, List.append_nil] at hlt
      exact absurd hlt (Nat.lt_irrefl _)
    | cons c after =>
      obtain rfl := htail c rfl
      rw [if_pos ⟨rfl, List.cons_ne_nil _ _⟩, List.nil_append, List.append_nil,
        ListLayout.withFlags_nil]
      exact scanFlags_of_eq_percent (getElem?_places before '%' after) layout
  | cons f flags ih =>
    rw [List.mem_cons, not_or] at hflags
    obtain ⟨hf, hflags⟩ := hflags
    have hplace := getElem?_places before f (flags ++ tail)
    have hline : before ++ (f :: flags ++ tail) = before ++ [f] ++ (flags ++ tail) := by simp
    by_cases hflag : isFlag f
    · have hrest := ih (before ++ [f]) hflags (layout.withFlags [f])
      rw [← hline, List.length_append, List.length_singleton, ListLayout.withFlags_cons,
        List.append_assoc, List.singleton_append] at hrest
      rw [List.cons_append, scanFlags_of_isFlag hplace hflag, ← List.cons_append, hrest,
        List.all_cons, hflag, Bool.true_and]
    · rw [List.all_cons, if_neg fun h => hflag (Bool.and_eq_true_iff.1 h.1).1]
      refine scanFlags_of_forall (fun n c hc => ?_) layout
      obtain ⟨-, rfl⟩ := Prod.mk.inj (Option.some.inj (hc.symm.trans hplace))
      exact ⟨Ne.symm hf, by simpa using hflag⟩

/-! ## Options -/

theorem scanOptions_of_ne_percent {line : Text} {slash n : Nat} {delimiter : Char}
    (h : (places line)[slash + 1]? = some (n, delimiter)) (hd : delimiter ≠ '%') :
    scanOptions line slash = scanFlags line { delimiter := some delimiter } (slash + 2) := by
  rw [scanOptions]
  split
  · rename_i hplace
    exact absurd (Prod.mk.inj (Option.some.inj (h.symm.trans hplace))).2 hd
  · rename_i hplace
    cases h.symm.trans hplace
  · rename_i hplace
    rw [(Prod.mk.inj (Option.some.inj (h.symm.trans hplace))).2]

theorem scanOptions_of_forall {line : Text} {slash : Nat}
    (h : ∀ n c, (places line)[slash + 1]? = some (n, c) → c = '%') :
    scanOptions line slash = .error (.fault (.badOptions line)) := by
  rw [scanOptions]
  split
  · rfl
  · rfl
  · rename_i n c hne hplace
    exact absurd (h n c hplace) hne

/-- Options are read up to the next percent sign, which may be missing. -/
theorem scanOptions_eq (before : Text) {options : Text} (hoptions : '%' ∉ options) (tail : Text)
    (htail : ∀ c ∈ tail.head?, c = '%') :
    scanOptions (before ++ '/' :: (options ++ tail)) before.length =
      match ListLayout.ofText? options with
      | some layout =>
        if tail ≠ [] then .ok (layout, (before ++ '/' :: options).length)
        else .error (.fault (.badOptions (before ++ '/' :: (options ++ tail))))
      | none => .error (.fault (.badOptions (before ++ '/' :: (options ++ tail)))) := by
  have hslash : (before ++ ['/']).length = before.length + 1 := List.length_append
  cases options with
  | nil =>
    rw [List.nil_append]
    refine scanOptions_of_forall fun n c hc => ?_
    obtain ⟨front, after, htext, hfront, -⟩ := getElem?_places_eq_some_iff.1 hc
    have hsplit : before ++ ['/'] ++ tail = front ++ c :: after := by rw [← htext]; simp
    obtain ⟨rfl, rfl⟩ := List.append_inj hsplit (hslash.trans hfront.symm)
    exact htail c rfl
  | cons d flags =>
    rw [List.mem_cons, not_or] at hoptions
    obtain ⟨hd, hflags⟩ := hoptions
    have hplace := getElem?_places (before ++ ['/']) d (flags ++ tail)
    have hread := scanFlags_eq (before ++ ['/', d]) hflags htail { delimiter := some d }
    have hslashes : (before ++ ['/', d]).length = before.length + 2 := List.length_append
    have hline : before ++ '/' :: (d :: flags ++ tail) = before ++ ['/', d] ++ (flags ++ tail) := by
      simp
    have hline' : before ++ '/' :: (d :: flags ++ tail) =
        before ++ ['/'] ++ d :: (flags ++ tail) := by simp
    rw [hslash, ← hline'] at hplace
    rw [← hline, hslashes, ListLayout.withFlags_delimiter] at hread
    rw [scanOptions_of_ne_percent hplace (Ne.symm hd), hread, ListLayout.ofText?_cons]
    by_cases hall : flags.all isFlag
    · simp [hall]
    · simp [hall]

/-! ## The percent sign that ends the options -/

/-- The options of a list end with a percent sign. -/
theorem exists_place_of_scanFlags {line : Text} {layout layout' : ListLayout} {i close : Nat}
    (h : scanFlags line layout i = .ok (layout', close)) :
    ∃ offset, (places line)[close]? = some (offset, '%') := by
  fun_induction scanFlags line layout i with
  | case1 layout i offset hplace =>
    obtain ⟨-, rfl⟩ := Prod.mk.inj (Except.ok.inj h)
    exact ⟨offset, hplace⟩
  | case2 layout i _ _ ih => exact ih h
  | case3 layout i _ _ ih => exact ih h
  | case4 => cases h

theorem exists_place_of_scanOptions {line : Text} {layout : ListLayout} {slash close : Nat}
    (h : scanOptions line slash = .ok (layout, close)) :
    ∃ offset, (places line)[close]? = some (offset, '%') := by
  unfold scanOptions at h
  split at h
  · cases h
  · cases h
  · exact exists_place_of_scanFlags h

end AstHierarchy
