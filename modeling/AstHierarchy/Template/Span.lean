import AstHierarchy.Template.Error
import AstHierarchy.Text.Blank
import AstHierarchy.Text.Lines

/-!
# Spans

A span is the compiled form of a piece of template text: what to write, in order.

## How a line is read

The blank characters that begin a line are its indentation. In the rest of the line a reference to
a variable stands between two percent signs, so the percent signs divide it into pieces that are
text and reference by turns. A reference is one of

* nothing at all, which stands for a percent sign;
* the name of a variable;
* a name, a slash, the delimiter of a list and then any number of the flags `+` (the delimiter
  also follows the last item) and `_` (the items stay on one line).

A reference does not go beyond the end of its line. When several references of a line are faulty,
the first one is reported, and of several lines the first one.

`Span.read` reads text, `Span.toSource` writes it. `Span.compile` reads text as well, but it counts
the columns of an indentation in sixteen bits and halts at a line that has more of them. Lines that
are `Narrow` have no more, and for a text of such lines the two do the same.
-/

namespace AstHierarchy

/-! ## Instructions -/

/-- How the items of a list are put together. -/
structure ListLayout where
  /-- What stands between two items, apart from blanks. -/
  delimiter : Option Char := none
  /-- Whether the delimiter also follows the last item. -/
  trailing : Bool := false
  /-- Whether the items stand on one line rather than each on a line of its own. -/
  oneLine : Bool := false
  deriving DecidableEq, Repr, Inhabited

/-- A step of a span. -/
inductive Instruction where
  /-- Begin the next line. -/
  | lineBreak
  /-- Indent the line by a number of columns. -/
  | indentation (columns : Nat)
  /-- Write the text as it is. -/
  | verbatim (text : Text)
  /-- Write what the variable stands for, laid out so if it is a list. -/
  | reference (name : Text) (layout : ListLayout)
  deriving DecidableEq, Repr

/-- A compiled piece of template text. -/
abbrev Span := List Instruction

/-! ## Reading -/

/-- The layout that the text after the slash of a reference describes. -/
def ListLayout.ofText? : Text → Option ListLayout
  | [] => none
  | delimiter :: flags =>
    if flags.all fun c => c == '+' || c == '_' then
      some { delimiter := some delimiter, trailing := flags.contains '+',
             oneLine := flags.contains '_' }
    else none

/-- The instruction for a reference of the line, given what stands between its percent signs. -/
def Instruction.ofReference (line inner : Text) : Except TemplateError Instruction :=
  if inner.isEmpty then .ok (.verbatim ['%'])
  else
    match Text.cutAt '/' inner with
    | none => .ok (.reference inner {})
    | some (name, options) =>
      match ListLayout.ofText? options with
      | some layout => .ok (.reference name layout)
      | none => .error (.badOptions line)

/-- The instructions for text that refers to nothing. -/
def Span.ofText (t : Text) : Span := if t.isEmpty then [] else [.verbatim t]

/-- The instructions for the pieces of a line between its percent signs: text, then a reference,
and so on. A reference that is the last piece has no second percent sign. -/
def Span.ofPieces (line : Text) : List Text → Except TemplateError Span
  | [] => .ok []
  | [text] => .ok (Span.ofText text)
  | [_, inner] =>
    -- a slash makes it a list, and its options go on to the end of the line
    .error (if inner.contains '/' then .badOptions line else .unterminatedVariable line)
  | text :: inner :: rest => do
    let instruction ← Instruction.ofReference line inner
    let more ← Span.ofPieces line rest
    return Span.ofText text ++ instruction :: more

/-- The instructions for the indentation of a line. -/
def Span.ofIndentation (columns : Nat) : Span := if columns = 0 then [] else [.indentation columns]

/-- The instructions for a line. -/
def Span.ofLine (line : Text) : Except TemplateError Span :=
  (Span.ofPieces line ((Text.trimStart line).splitOn '%')).map
    (Span.ofIndentation (line.takeWhile Text.isBlank).length ++ ·)

/-- The span that a piece of template text describes. -/
def Span.read (source : Text) : Except TemplateError Span :=
  (source.lines.mapM Span.ofLine).map [Instruction.lineBreak].intercalate

/-! ## Compiling -/

/-- The blanks that begin the line can be counted in sixteen bits. -/
def Narrow (line : Text) : Prop := (line.takeWhile Text.isBlank).length < UInt16.size

instance : DecidablePred Narrow := fun line =>
  inferInstanceAs (Decidable ((line.takeWhile Text.isBlank).length < UInt16.size))

/-- The instructions for a line. Its blanks are counted before anything else is looked at. -/
def Span.compileLine (line : Text) : Except Halt Span :=
  if Narrow line then (Span.ofLine line).mapError .fault else .error .overflow

/-- The span that a piece of template text compiles to. -/
def Span.compile (source : Text) : Except Halt Span :=
  (source.lines.mapM Span.compileLine).map [Instruction.lineBreak].intercalate

/-! ## Writing -/

/-- The layout as it is written after the slash of a reference. -/
def ListLayout.toText (layout : ListLayout) : Text :=
  layout.delimiter.toList ++ (if layout.trailing then ['+'] else [])
    ++ (if layout.oneLine then ['_'] else [])

/-- The template text for an instruction. A line ending is a carriage return and a line feed. -/
def Instruction.toSource : Instruction → Text
  | lineBreak => ['\r', '\n']
  | indentation columns => List.replicate columns ' '
  | verbatim text => if text = ['%'] then ['%', '%'] else text
  | reference name layout =>
    '%' :: name ++ (if layout.delimiter.isSome then '/' :: layout.toText else []) ++ ['%']

/-- The template text for a span, with the last line ended as well. -/
def Span.toSource (span : Span) : Text := span.flatMap Instruction.toSource ++ ['\r', '\n']

/-! ## Small laws -/

@[simp] theorem Span.ofText_nil : Span.ofText [] = [] := rfl

theorem Span.ofText_of_ne_nil {t : Text} (h : t ≠ []) : Span.ofText t = [.verbatim t] := by
  cases t with
  | nil => exact absurd rfl h
  | cons => rfl

end AstHierarchy
