import AstHierarchy.Text.Basic

/-!
# Blank characters and trimming

A character is blank when it has the Unicode property `White_Space`; the 25 code points with that
property are listed here in full. Trimming removes blank characters from the ends of a text and
from nowhere else.
-/

namespace AstHierarchy.Text

/-! ## Blank characters -/

/-- The characters with the Unicode property `White_Space`. -/
def isBlank (c : Char) : Bool :=
  let n := c.toNat
  n == 0x20 || (0x09 ≤ n && n ≤ 0x0D) || n == 0x85 || n == 0xA0 || n == 0x1680 ||
    (0x2000 ≤ n && n ≤ 0x200A) || n == 0x2028 || n == 0x2029 || n == 0x202F || n == 0x205F ||
    n == 0x3000

/-! ## Removing characters from the ends -/

/-- The text without the longest run of `p`-characters that ends it. -/
def stripEnd (p : Char → Bool) (t : Text) : Text := (t.reverse.dropWhile p).reverse

/-- The text without the longest runs of `p`-characters that begin and end it. -/
def strip (p : Char → Bool) (t : Text) : Text := stripEnd p (t.dropWhile p)

/-- The text without its leading blank characters. -/
def trimStart (t : Text) : Text := t.dropWhile isBlank

/-- The text without its trailing blank characters. -/
def trimEnd (t : Text) : Text := stripEnd isBlank t

/-- The text without its leading and trailing blank characters. -/
def trim (t : Text) : Text := strip isBlank t

/-! ### What is left -/

/-- Only `p`-characters are removed from the end. -/
theorem exists_stripEnd_append (p : Char → Bool) (t : Text) :
    ∃ run : Text, t = stripEnd p t ++ run ∧ ∀ c ∈ run, p c := by
  refine ⟨(t.reverse.takeWhile p).reverse, ?_, fun c hc => ?_⟩
  · rw [stripEnd, ← List.reverse_append, List.takeWhile_append_dropWhile, List.reverse_reverse]
  · exact List.all_eq_true.1 (List.all_takeWhile) c (List.mem_reverse.1 hc)

/-- What is left does not end in a `p`-character. -/
theorem getLast?_stripEnd (p : Char → Bool) (t : Text) {c : Char}
    (h : (stripEnd p t).getLast? = some c) : p c = false := by
  rw [stripEnd, List.getLast?_reverse] at h
  have := List.head?_dropWhile_not p t.reverse
  rw [h] at this
  simpa using this

end AstHierarchy.Text
