import AstHierarchy.Template.Section

/-!
# What can go wrong with a template

A template can be divided wrongly into sections, it can lack a section, a line of it can hold a
reference that is not well formed, it can refer to a variable that nothing is bound to, and the
place that the result is written to can refuse a write.

These are faults of the template, and they are reported. Compiling can also halt without a report,
because a count overflows or because something is asked for that is not there.
-/

namespace AstHierarchy

/-- Why a template does not compile or does not render. -/
inductive TemplateError where
  /-- A marker opens a section with a name that no section has. -/
  | unknownSection (name : Text)
  /-- A marker opens a section inside the section `outer`. -/
  | nestedSection (outer : Section) (inner : Text)
  /-- A marker ends a section that is not the open one. -/
  | straySectionEnd (name : Text)
  /-- The text ends inside a section. -/
  | unclosedSection (s : Section)
  /-- A required section is missing. -/
  | missingSection (s : Section)
  /-- The percent sign that ends a reference is missing. -/
  | unterminatedVariable (line : Text)
  /-- What follows the slash of a reference describes no list. -/
  | badOptions (line : Text)
  /-- Nothing is bound to the variable. -/
  | unknownVariable (name : Text)
  /-- There was no room for a write. -/
  | refusedWrite
  deriving DecidableEq, Repr

/-- The sentence that tells the author of the template. -/
def TemplateError.message : TemplateError → Text
  | unknownSection name => "unknown section `#".toList ++ name ++ "`".toList
  | nestedSection outer inner =>
    "section `#".toList ++ inner ++ "` opened inside `#".toList ++ outer.name ++ "`".toList
  | straySectionEnd name =>
    "`#end/".toList ++ name ++ "` does not close the open section".toList
  | unclosedSection s => "section `#".toList ++ s.name ++ "` is never closed".toList
  | missingSection s => "missing required section `#".toList ++ s.name ++ "`".toList
  | unterminatedVariable line => "unterminated variable in `".toList ++ line ++ "`".toList
  | badOptions line => "bad list options in `".toList ++ line ++ "`".toList
  | unknownVariable name => "unknown variable %".toList ++ name ++ "%".toList
  | refusedWrite => "an error occurred when formatting an argument".toList

/-- Why compiling stops before the end. -/
inductive Halt where
  /-- There is no such character, or the text cannot be cut at these offsets. -/
  | misplaced
  /-- The columns of an indentation do not fit in the sixteen bits in which they are counted. -/
  | overflow
  /-- The template is faulty. -/
  | fault (e : TemplateError)
  deriving DecidableEq, Repr

end AstHierarchy
