import AstHierarchy.Text.Basic

/-!
# Byte offsets

A place in a text can be given by the number of characters before it or by the number of bytes
that these take in UTF-8. Only some numbers of bytes are places: a character can take up to four
bytes, and inside a character the text cannot be cut.

`Text.slice?` cuts a piece out of a text at byte offsets, `Text.places` lists the characters with
the offsets at which they begin.
-/

namespace AstHierarchy.Text

/-! ## Places -/

/-- The text can be cut at the offset. -/
def IsBoundary (t : Text) (n : Nat) : Prop :=
  ∃ before after, t = before ++ after ∧ before.utf8Size = n

/-- The character begins at the offset. -/
def BeginsAt (t : Text) (n : Nat) (c : Char) : Prop :=
  ∃ before after, t = before ++ c :: after ∧ before.utf8Size = n

/-- The characters of the text, which begins at the offset, with the offsets of their own. -/
def placesFrom (n : Nat) : Text → List (Nat × Char)
  | [] => []
  | c :: rest => (n, c) :: placesFrom (n + c.utf8Size) rest

/-- The characters of the text with their offsets. -/
def places (t : Text) : List (Nat × Char) := placesFrom 0 t

/-! ## Pieces -/

/-- The text before and the text after the offset, if it can be cut there. -/
def splitAtByte? : Nat → Text → Option (Text × Text)
  | 0, t => some ([], t)
  | _ + 1, [] => none
  | n + 1, c :: rest =>
    if c.utf8Size ≤ n + 1 then
      (splitAtByte? (n + 1 - c.utf8Size) rest).map (Prod.map (c :: ·) id)
    else none

/-- The text from one offset to another, if it can be cut at both and they are in order. -/
def slice? (t : Text) (start stop : Nat) : Option Text := do
  let (front, _) ← splitAtByte? stop t
  let (_, piece) ← splitAtByte? start front
  return piece

/-! ## Small laws -/

theorem length_placesFrom (n : Nat) (t : Text) : (placesFrom n t).length = t.length := by
  induction t generalizing n with
  | nil => rfl
  | cons c rest ih => simp [placesFrom, ih]

@[simp] theorem length_places (t : Text) : (places t).length = t.length := length_placesFrom 0 t

theorem placesFrom_append (n : Nat) (s t : Text) :
    placesFrom n (s ++ t) = placesFrom n s ++ placesFrom (n + s.utf8Size) t := by
  induction s generalizing n with
  | nil => simp [placesFrom]
  | cons c s ih => simp [placesFrom, ih, Nat.add_assoc]

/-- The character after `before` begins where `before` ends. -/
theorem getElem?_places (before : Text) (c : Char) (after : Text) :
    (places (before ++ c :: after))[before.length]? = some (before.utf8Size, c) := by
  have hlength := length_placesFrom 0 before
  rw [places, placesFrom_append, List.getElem?_append_right (Nat.le_of_eq hlength), hlength,
    Nat.sub_self, placesFrom, List.getElem?_cons_zero, Nat.zero_add]

/-- The places of a text are known from what stands before them. -/
theorem getElem?_places_eq_some_iff {t : Text} {i n : Nat} {c : Char} :
    (places t)[i]? = some (n, c) ↔
      ∃ before after, t = before ++ c :: after ∧ before.length = i ∧ before.utf8Size = n := by
  constructor
  · intro h
    have hlt := (List.getElem?_eq_some_iff.1 h).1
    rw [length_places] at hlt
    have hsplit : t = t.take i ++ t[i] :: t.drop (i + 1) := by
      rw [← List.drop_eq_getElem_cons hlt, List.take_append_drop]
    have hplace := getElem?_places (t.take i) t[i] (t.drop (i + 1))
    rw [← hsplit, List.length_take_of_le (Nat.le_of_lt hlt), h] at hplace
    obtain ⟨rfl, rfl⟩ := Prod.mk.inj (Option.some.inj hplace)
    exact ⟨t.take i, t.drop (i + 1), hsplit, List.length_take_of_le (Nat.le_of_lt hlt), rfl⟩
  · rintro ⟨before, after, rfl, rfl, rfl⟩
    exact getElem?_places before c after

/-- Only the empty text takes no bytes. -/
theorem eq_nil_of_utf8Size_eq_zero {t : Text} (h : t.utf8Size = 0) : t = [] := by
  cases t with
  | nil => rfl
  | cons c rest =>
    have hpos := c.utf8Size_pos
    rw [utf8Size_cons] at h
    omega

/-- Cutting loses nothing, and the first piece takes as many bytes as were asked for. -/
theorem splitAtByte?_eq_some_iff {n : Nat} {t before after : Text} :
    splitAtByte? n t = some (before, after) ↔ t = before ++ after ∧ before.utf8Size = n := by
  fun_induction splitAtByte? n t generalizing before with
  | case1 t =>
    constructor
    · rintro ⟨⟩
      exact ⟨rfl, rfl⟩
    · rintro ⟨rfl, hsize⟩
      rw [eq_nil_of_utf8Size_eq_zero hsize]
      rfl
  | case2 n =>
    constructor
    · intro h
      cases h
    · rintro ⟨hnil, hsize⟩
      rw [(List.append_eq_nil_iff.1 hnil.symm).1] at hsize
      cases hsize
  | case3 n c rest hc ih =>
    rw [Option.map_eq_some_iff]
    constructor
    · rintro ⟨⟨front, back⟩, hcut, hpair⟩
      obtain ⟨rfl, rfl⟩ := Prod.mk.inj hpair
      obtain ⟨rfl, hsize⟩ := ih.1 hcut
      refine ⟨rfl, ?_⟩
      rw [utf8Size_cons, hsize, Nat.add_sub_cancel' hc]
    · rintro ⟨htext, hsize⟩
      cases before with
      | nil => cases hsize
      | cons d front =>
        obtain ⟨rfl, rfl⟩ := List.cons.inj htext
        rw [utf8Size_cons] at hsize
        exact ⟨(front, after), ih.2 ⟨rfl, by omega⟩, rfl⟩
  | case4 n c rest hc =>
    constructor
    · intro h
      cases h
    · rintro ⟨htext, hsize⟩
      cases before with
      | nil => cases hsize
      | cons d front =>
        obtain ⟨rfl, rfl⟩ := List.cons.inj htext
        rw [utf8Size_cons] at hsize
        omega

/-- A slice is what stands between the two offsets. -/
theorem slice?_eq_some_iff {t piece : Text} {start stop : Nat} :
    slice? t start stop = some piece ↔ ∃ before after, t = before ++ (piece ++ after) ∧
      before.utf8Size = start ∧ start + piece.utf8Size = stop := by
  simp only [slice?, Option.bind_eq_bind, Option.bind_eq_some_iff, Prod.exists,
    splitAtByte?_eq_some_iff, Option.pure_def, Option.some.injEq]
  constructor
  · rintro ⟨_, after, ⟨rfl, hstop⟩, before, _, ⟨rfl, hstart⟩, rfl⟩
    rw [utf8Size_append, hstart] at hstop
    exact ⟨before, after, List.append_assoc .., hstart, hstop⟩
  · rintro ⟨before, after, rfl, hstart, hstop⟩
    refine ⟨before ++ piece, after, ⟨(List.append_assoc ..).symm, ?_⟩, before, piece,
      ⟨rfl, hstart⟩, rfl⟩
    rw [utf8Size_append, hstart, hstop]

/-- The slice that is known from what stands before and after it. -/
theorem slice?_append (before piece after : Text) :
    slice? (before ++ (piece ++ after)) before.utf8Size (before ++ piece).utf8Size =
      some piece :=
  slice?_eq_some_iff.2 ⟨before, after, rfl, rfl, (utf8Size_append before piece).symm⟩

/-- A slice is there exactly when the offsets are boundaries in order. -/
theorem isSome_slice?_iff (t : Text) (start stop : Nat) :
    (slice? t start stop).isSome ↔ start ≤ stop ∧ t.IsBoundary start ∧ t.IsBoundary stop := by
  rw [Option.isSome_iff_exists]
  constructor
  · rintro ⟨piece, h⟩
    obtain ⟨before, after, rfl, rfl, rfl⟩ := slice?_eq_some_iff.1 h
    refine ⟨Nat.le_add_right _ _, ⟨before, piece ++ after, rfl, rfl⟩, before ++ piece, after, ?_,
      utf8Size_append before piece⟩
    rw [List.append_assoc]
  · rintro ⟨hle, ⟨before, rest, rfl, rfl⟩, front, after, htext, rfl⟩
    rcases List.append_eq_append_iff.1 htext with ⟨piece, rfl, rfl⟩ | ⟨piece, rfl, rfl⟩
    · exact ⟨piece, slice?_append before piece after⟩
    · -- the piece between the offsets is empty
      rw [utf8Size_append] at hle
      obtain rfl := eq_nil_of_utf8Size_eq_zero (t := piece) (by omega)
      refine ⟨[], slice?_eq_some_iff.2 ⟨front, rest, ?_, ?_, ?_⟩⟩ <;> simp

end AstHierarchy.Text
