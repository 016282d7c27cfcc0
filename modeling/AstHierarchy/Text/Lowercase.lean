import AstHierarchy.Text.CaseTables
import AstHierarchy.Text.Basic

/-!
# Lowercase

The full lowercase mapping of Unicode, without any locale. A character goes to its lowercase
counterpart if it has one and stays as it is otherwise, with two exceptions:

* `İ` becomes two characters, an `i` and a combining dot;
* `Σ` becomes `ς` where it ends a word and `σ` elsewhere. It ends a word when the nearest
  character before it that is not ignorable is a letter with case and the nearest one after it is
  not.

The mapping walks the text once and carries what it has passed, nearest character first, so that
both neighbourhoods of a `Σ` are read in the same way.
-/

namespace AstHierarchy.Text

/-! ## Single characters -/

/-- Whether the character has or is a case. -/
def isCased (c : Char) : Bool := inRanges casedRanges c.toNat

/-- Whether the character is passed over when one looks for the letters around another one. -/
def isCaseIgnorable (c : Char) : Bool := inRanges caseIgnorableRanges c.toNat

/-- The lowercase of a character, wherever it stands. -/
def lowercaseChar (c : Char) : Text :=
  if c = 'İ' then ['i', '\u0307']
  else
    match lowercaseRuns.find? (·.contains c.toNat) with
    | some run => [Char.ofNat (run.lower c.toNat)]
    | none => [c]

/-! ## Whole texts -/

/-- Whether the first character that is not ignorable has a case. -/
def startsCased (t : Text) : Bool :=
  match t.dropWhile isCaseIgnorable with
  | [] => false
  | c :: _ => isCased c

/-- The lowercase of a text that comes after `passed`, where `passed` has its last character
first. -/
def lowercaseAfter (passed : Text) : Text → Text
  | [] => []
  | c :: rest =>
    (if c = 'Σ' then [if startsCased passed && !startsCased rest then 'ς' else 'σ']
      else lowercaseChar c)
      ++ lowercaseAfter (c :: passed) rest

/-- The lowercase of a text. -/
def lowercase (t : Text) : Text := lowercaseAfter [] t

end AstHierarchy.Text
