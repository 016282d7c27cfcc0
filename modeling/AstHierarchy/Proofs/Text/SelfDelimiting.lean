import AstHierarchy.Text.Quoted

/-!
# Written forms that end by themselves

When values are written one after the other, what has been written tells the values only if it is
known where each of them ends. A written form that says so itself, whatever follows it, is called
self-delimiting here. Fixed text in front, fixed text behind, and a second value with such a form
keep this property; a list of values keeps it when the next character tells whether there is
another item (`SelfDelimiting.flatMap_append_inj`).

A quoted string is such a list: its items are the written forms of its characters, and a quote, with
which none of them begins, ends it (`selfDelimiting_quote`).
-/

namespace AstHierarchy.Text

variable {α β γ : Type}

/-- What is written for a value ends where it says, whatever follows it. -/
def SelfDelimiting (write : α → Text) : Prop :=
  ∀ ⦃a b : α⦄ ⦃rest rest' : Text⦄, write a ++ rest = write b ++ rest' → a = b ∧ rest = rest'

namespace SelfDelimiting

variable {v : α → Text} {w : β → Text}

theorem injective (h : SelfDelimiting v) {a b : α} (heq : v a = v b) : a = b :=
  (@h a b [] [] (by rw [heq])).1

/-- Fixed text in front makes no difference. -/
theorem const_append (h : SelfDelimiting v) (t : Text) : SelfDelimiting fun a => t ++ v a := by
  intro a b rest rest' heq
  rw [List.append_assoc, List.append_assoc] at heq
  exact h (List.append_cancel_left heq)

/-- Fixed text behind makes no difference. -/
theorem append_const (h : SelfDelimiting v) (t : Text) : SelfDelimiting fun a => v a ++ t := by
  intro a b rest rest' heq
  rw [List.append_assoc, List.append_assoc] at heq
  obtain ⟨rfl, htail⟩ := h heq
  exact ⟨rfl, List.append_cancel_left htail⟩

/-- One value after the other. -/
theorem append (h : SelfDelimiting v) (h' : SelfDelimiting w) :
    SelfDelimiting fun p : α × β => v p.1 ++ w p.2 := by
  rintro ⟨a, b⟩ ⟨a', b'⟩ rest rest' heq
  rw [List.append_assoc, List.append_assoc] at heq
  obtain ⟨rfl, hsecond⟩ := h heq
  obtain ⟨rfl, hrest⟩ := h' hsecond
  exact ⟨rfl, hrest⟩

/-- The values may be parts that make up another value. -/
theorem comp (h : SelfDelimiting v) {f : γ → α} (hf : ∀ x y, f x = f y → x = y) :
    SelfDelimiting fun x => v (f x) := by
  intro x y rest rest' heq
  obtain ⟨hparts, hrest⟩ := h heq
  exact ⟨hf x y hparts, hrest⟩

/-- **Items one after the other** can be told from what is written, as long as the first character
of an item and that of the text after the last one are of different kinds. -/
theorem flatMap_append_inj (h : SelfDelimiting v) {p : Char → Prop}
    (hstart : ∀ a, ∃ c t, v a = c :: t ∧ p c) {xs ys : List α} {rest rest' : Text}
    (hrest : ∀ c, rest.head? = some c → ¬ p c) (hrest' : ∀ c, rest'.head? = some c → ¬ p c)
    (heq : xs.flatMap v ++ rest = ys.flatMap v ++ rest') : xs = ys ∧ rest = rest' := by
  have hmore {a : α} {t s : Text} (hs : ∀ c, s.head? = some c → ¬ p c) : v a ++ t ≠ s := by
    rintro rfl
    obtain ⟨c, t', hv, hc⟩ := hstart a
    exact hs c (by rw [hv]; rfl) hc
  induction xs generalizing ys with
  | nil =>
    cases ys with
    | nil => exact ⟨rfl, heq⟩
    | cons y ys =>
      rw [List.flatMap_cons, List.append_assoc] at heq
      exact absurd heq.symm (hmore hrest)
  | cons x xs ih =>
    cases ys with
    | nil =>
      rw [List.flatMap_cons, List.append_assoc] at heq
      exact absurd heq (hmore hrest')
    | cons y ys =>
      rw [List.flatMap_cons, List.flatMap_cons, List.append_assoc, List.append_assoc] at heq
      obtain ⟨rfl, hitems⟩ := h heq
      obtain ⟨rfl, htail⟩ := ih hitems
      exact ⟨rfl, htail⟩

end SelfDelimiting

/-! ## Quoted strings -/

/-- The number that a hexadecimal digit stands for. -/
def hexValue (c : Char) : Nat :=
  if c.toNat < 'a'.toNat then c.toNat - '0'.toNat else c.toNat - 'a'.toNat + 10

theorem hexValue_hexDigit {n : Nat} (h : n < 16) : hexValue (hexDigit n) = n := by
  have hall : ∀ m ∈ List.range 16, hexValue (hexDigit m) = m := by decide
  exact hall n (List.mem_range.2 h)

/-- The character whose written form the text begins with, and what follows it. -/
def unescapeChar : Text → Option (Char × Text)
  | '\\' :: 'u' :: '0' :: '0' :: high :: low :: rest =>
    some (Char.ofNat (16 * hexValue high + hexValue low), rest)
  | '\\' :: 'b' :: rest => some ('\x08', rest)
  | '\\' :: 'f' :: rest => some ('\x0C', rest)
  | '\\' :: 'n' :: rest => some ('\n', rest)
  | '\\' :: 'r' :: rest => some ('\r', rest)
  | '\\' :: 't' :: rest => some ('\t', rest)
  | '\\' :: c :: rest => some (c, rest)
  | c :: rest => some (c, rest)
  | [] => none

theorem unescapeChar_escapeChar_append (c : Char) (rest : Text) :
    unescapeChar (escapeChar c ++ rest) = some (c, rest) := by
  unfold escapeChar
  -- seven characters have an escape of their own
  iterate 7
    split
    · subst_vars
      rfl
  split
  · rename_i hcontrol
    have hhigh := hexValue_hexDigit (n := c.toNat / 16) (by omega)
    have hlow := hexValue_hexDigit (n := c.toNat % 16) (by omega)
    simp only [List.cons_append, List.nil_append, unescapeChar, hhigh, hlow, Nat.div_add_mod,
      Char.ofNat_toNat]
  · rename_i hbackslash _ _ _ _ _ _
    rw [List.cons_append, List.nil_append, unescapeChar.eq_def]
    split <;> simp_all

/-- Escapes say where they end. -/
theorem selfDelimiting_escapeChar : SelfDelimiting escapeChar := by
  intro c d rest rest' heq
  have hread := (unescapeChar_escapeChar_append c rest).symm.trans
    ((congrArg unescapeChar heq).trans (unescapeChar_escapeChar_append d rest'))
  exact Prod.mk.inj (Option.some.inj hread)

/-- No character between the quotes begins like the quote that ends the string. -/
theorem exists_escapeChar_eq_cons (c : Char) : ∃ d t, escapeChar c = d :: t ∧ d ≠ '"' := by
  unfold escapeChar
  split
  · exact ⟨_, _, rfl, by decide⟩
  repeat' split
  all_goals first | exact ⟨_, _, rfl, by decide⟩ | exact ⟨_, _, rfl, by assumption⟩

/-- **Quoted strings say where they end**, whatever characters are in them. -/
theorem selfDelimiting_quote : SelfDelimiting quote := by
  intro s t rest rest' heq
  simp only [quote, escape, List.cons_append, List.append_assoc, List.nil_append, List.cons.injEq,
    true_and] at heq
  have hquote {r : Text} : ∀ c, ('"' :: r).head? = some c → ¬ c ≠ '"' := by
    rintro c ⟨⟩
    simp
  obtain ⟨rfl, htail⟩ := selfDelimiting_escapeChar.flatMap_append_inj exists_escapeChar_eq_cons
    hquote hquote heq
  exact ⟨rfl, (List.cons.inj htail).2⟩

end AstHierarchy.Text
