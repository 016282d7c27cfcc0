import AstHierarchy.Text.Basic

/-!
# Quoted strings

The JSON form of a text: between double quotes, with a quote, a backslash and every control
character below a space written as an escape, and every other character written as it is. Five
control characters have a short escape; the others are written `\u00xx` with lowercase digits.
-/

namespace AstHierarchy.Text

/-- The lowercase hexadecimal digit of a number below sixteen. -/
def hexDigit (n : Nat) : Char :=
  if n < 10 then Char.ofNat ('0'.toNat + n) else Char.ofNat ('a'.toNat + (n - 10))

/-- The written form of one character between quotes. -/
def escapeChar (c : Char) : Text :=
  if c = '"' then ['\\', '"']
  else if c = '\\' then ['\\', '\\']
  else if c = '\x08' then ['\\', 'b']
  else if c = '\x0C' then ['\\', 'f']
  else if c = '\n' then ['\\', 'n']
  else if c = '\r' then ['\\', 'r']
  else if c = '\t' then ['\\', 't']
  else if c.toNat < 0x20 then
    ['\\', 'u', '0', '0', hexDigit (c.toNat / 16), hexDigit (c.toNat % 16)]
  else [c]

/-- The written form of the characters between the quotes. -/
def escape (t : Text) : Text := t.flatMap escapeChar

/-- The text between quotes. -/
def quote (t : Text) : Text := '"' :: escape t ++ ['"']

/-! ## Small laws -/

@[simp] theorem escape_nil : escape [] = [] := rfl

@[simp] theorem escape_cons (c : Char) (t : Text) : escape (c :: t) = escapeChar c ++ escape t :=
  rfl

end AstHierarchy.Text
