import AstHierarchy.Template.Error
import AstHierarchy.Text.Blank

/-!
# Section bodies

The text of a template is divided into sections by marker lines: a line that says `#node` opens
the section called `node`, and `#end/node` ends it. Blank characters around a marker do not count.
Markers come in pairs that are not nested, lines outside all pairs are ignored, and what stands
between the two lines of a pair, without the line breaks at its ends, is the body of the section.
A section may be given more than once; the last one counts.

`readBodies` walks the lines once. What it carries is the section that is open, if any, and the
lines of it seen so far, latest first.
-/

namespace AstHierarchy

/-! ## Markers -/

/-- A line that divides a template into sections. -/
inductive Marker where
  /-- The section with this name begins. -/
  | opening (name : Text)
  /-- The section with this name ends. -/
  | closing (name : Text)
  deriving DecidableEq, Repr

/-- The marker that a trimmed line is. -/
def Marker.ofText? : Text → Option Marker
  | '#' :: 'e' :: 'n' :: 'd' :: '/' :: name => some (.closing name)
  | '#' :: name => some (.opening name)
  | _ => none

/-- The marker that a line is, if it is one. -/
def Marker.ofLine? (line : Text) : Option Marker := Marker.ofText? (Text.trim line)

/-! ## Bodies -/

/-- Whether the character is part of a line ending. -/
def isLineBreak (c : Char) : Bool := c == '\n' || c == '\r'

/-- The body of a section that consists of the lines. -/
def sectionBody (lines : List Text) : Text := Text.strip isLineBreak (['\n'].intercalate lines)

/-- The bodies of the sections that end in the lines, in the order in which they end. The first
argument is the section that is open and its lines so far, latest first. -/
def readBodies : Option (Section × List Text) → List Text →
    Except TemplateError (List (Section × Text))
  | none, [] => .ok []
  | some (s, _), [] => .error (.unclosedSection s)
  | none, line :: rest =>
    match Marker.ofLine? line with
    | none => readBodies none rest
    | some (.opening name) =>
      match Section.ofName? name with
      | some s => readBodies (some (s, [])) rest
      | none => .error (.unknownSection name)
    | some (.closing name) => .error (.straySectionEnd name)
  | some (s, body), line :: rest =>
    match Marker.ofLine? line with
    | none => readBodies (some (s, line :: body)) rest
    -- whether a section has that name makes no difference here
    | some (.opening name) => .error (.nestedSection s name)
    | some (.closing name) =>
      if name = s.name then
        (readBodies none rest).map ((s, sectionBody body.reverse) :: ·)
      else .error (.straySectionEnd name)

/-- The bodies in the text of a template, in the order of the text. -/
def bodiesOf (source : Text) : Except TemplateError (List (Section × Text)) :=
  readBodies none (source.splitOn '\n')

/-- The body of the section that counts: the last one. -/
def lastBody? (bodies : List (Section × Text)) (s : Section) : Option Text :=
  bodies.reverse.lookup s

end AstHierarchy
