/-!
# Text

A text is the list of its characters. Everything in this library that reads or writes text works
on this view, because lists are what the proofs talk about; strings occur only where a program
meets the outside.

## What is here

* `Text.utf8Size`: how much room a text takes when it is written out.
* `Text.cutAt`: a text cut at the first occurrence of a character, with
  `Text.cutAt_eq_some_iff` and `Text.cutAt_eq_none_iff` saying when and where.
* `Text.splitOnPair`: the pieces between the occurrences of a two-character separator, read from
  left to right, with `Text.intercalate_splitOnPair` saying that nothing is lost.

Splitting at a single character is `List.splitOn`, joining is `List.intercalate`.
-/

namespace AstHierarchy

/-- A sequence of Unicode scalar values. -/
abbrev Text := List Char

namespace Text

/-! ## Size -/

/-- The number of bytes that the text takes in UTF-8. -/
def utf8Size : Text → Nat
  | [] => 0
  | c :: rest => c.utf8Size + utf8Size rest

@[simp] theorem utf8Size_nil : utf8Size [] = 0 := rfl

@[simp] theorem utf8Size_cons (c : Char) (t : Text) :
    utf8Size (c :: t) = c.utf8Size + utf8Size t := rfl

@[simp] theorem utf8Size_append (s t : Text) : utf8Size (s ++ t) = utf8Size s + utf8Size t := by
  induction s with
  | nil => simp
  | cons c s ih => simp [ih, Nat.add_assoc]

/-! ## Cutting at a character -/

/-- The text before and the text after the first occurrence of `c`, if there is one. -/
def cutAt (c : Char) : Text → Option (Text × Text)
  | [] => none
  | d :: rest => if d = c then some ([], rest) else (cutAt c rest).map (Prod.map (d :: ·) id)

theorem cutAt_eq_none_iff {c : Char} {t : Text} : cutAt c t = none ↔ c ∉ t := by
  induction t with
  | nil => simp [cutAt]
  | cons d t ih =>
    by_cases h : d = c
    · simp [cutAt, h]
    · simp [cutAt, h, ih, Ne.symm h]

/-- The cut is at the first occurrence and loses only the character itself. -/
theorem cutAt_eq_some_iff {c : Char} {t before after : Text} :
    cutAt c t = some (before, after) ↔ t = before ++ c :: after ∧ c ∉ before := by
  induction t generalizing before with
  | nil => simp [cutAt]
  | cons d t ih =>
    by_cases h : d = c
    · subst h
      cases before with
      | nil => simp [cutAt, eq_comm]
      | cons e before => simp [cutAt]; intro he _ hne; exact absurd he hne
    · cases before with
      | nil => simp [cutAt, h]
      | cons e before =>
        simp only [cutAt, h, if_false, Option.map_eq_some_iff, Prod.exists, Prod.map_apply, id_eq,
          Prod.mk.injEq, List.cons.injEq, List.cons_append, List.mem_cons, not_or]
        constructor
        · rintro ⟨b, a, hc, ⟨rfl, rfl⟩, rfl⟩
          obtain ⟨rfl, hb⟩ := ih.1 hc
          exact ⟨⟨rfl, rfl⟩, Ne.symm h, hb⟩
        · rintro ⟨⟨rfl, ht⟩, -, hb⟩
          exact ⟨before, after, ih.2 ⟨ht, hb⟩, ⟨rfl, rfl⟩, rfl⟩

/-! ## Splitting at a pair of characters -/

/-- The pieces of the text between the occurrences of `a` followed by `b`. Occurrences are looked
for from left to right and do not overlap. -/
def splitOnPair (a b : Char) : Text → List Text
  | [] => [[]]
  | [c] => [[c]]
  | c :: d :: rest =>
    if c = a ∧ d = b then [] :: splitOnPair a b rest
    else (splitOnPair a b (d :: rest)).modifyHead (c :: ·)

theorem splitOnPair_ne_nil (a b : Char) (t : Text) : splitOnPair a b t ≠ [] := by
  fun_induction splitOnPair a b t with
  | case1 => simp
  | case2 => simp
  | case3 => simp
  | case4 c d rest _ ih => cases h : splitOnPair a b (d :: rest) <;> simp_all

/-- Joining the pieces with the separator gives the text back. -/
theorem intercalate_splitOnPair (a b : Char) (t : Text) :
    [a, b].intercalate (splitOnPair a b t) = t := by
  fun_induction splitOnPair a b t with
  | case1 => rfl
  | case2 => rfl
  | case3 c d rest h ih =>
    obtain ⟨rfl, rfl⟩ := h
    cases hs : splitOnPair c d rest with
    | nil => exact absurd hs (splitOnPair_ne_nil c d rest)
    | cons p ps =>
      rw [hs] at ih
      simpa [List.intercalate] using ih
  | case4 c d rest _ ih =>
    cases hs : splitOnPair a b (d :: rest) with
    | nil => exact absurd hs (splitOnPair_ne_nil a b (d :: rest))
    | cons p ps =>
      rw [hs] at ih
      cases ps <;> simp_all [List.intercalate]

end Text

end AstHierarchy
