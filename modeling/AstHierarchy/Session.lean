import AstHierarchy.Hierarchy.Generator
import AstHierarchy.Language.Php

/-!
# Sessions

A session works with one of everything: an output that may be limited, a scope, a template, a
generator and a list of node types. A step uses or changes some of these and is answered. A step
that fails does not end the session, and what it has written until then stays.

Two rules hold the state together. Rendering uses up the scope, whether it succeeds or not; it does
not begin at all when the text to render does not compile, and then the scope stays as it is. The
output, on the other hand, is only ever added to, and only by the steps that write.
-/

namespace AstHierarchy

/-- What a session works with. -/
structure Session where
  /-- Where text is written to. -/
  output : Buffer := {}
  /-- The variables that are bound. -/
  scope : Scope := []
  /-- The template. -/
  template : Template := {}
  /-- The generator. -/
  generator : Generator := { language := Language.php }
  /-- The node types. -/
  types : List NodeType := []

namespace Session

/-- A session at its beginning, with room for so many bytes if that is limited. -/
def fresh (limit : Option Nat) : Session := { output := Buffer.empty limit }

/-- Something to do in a session. -/
inductive Step where
  /-- Take another generator. -/
  | useGenerator (g : Generator)
  /-- Ask for another namespace. -/
  | useNamespace (name : Text)
  /-- Add the node types that the lines declare, up to the first wrong one. -/
  | declare (lines : List Text)
  /-- Forget the node types. -/
  | forget
  /-- Make the text of the hierarchy of the node types. -/
  | hierarchy (base : Text)
  /-- Make the file for a grammar. -/
  | file (base : Text) (lines : List Text)
  /-- Take the template that a text describes. -/
  | readTemplate (source : Text)
  /-- Take the template with these texts as its sections. -/
  | buildTemplate (source : Section → Text)
  /-- Bind a variable. -/
  | bind (name : Text) (b : Binding)
  /-- Write what a variable stands for. -/
  | writeVariable (name : Text) (layout : ListLayout) (indent : Nat)
  /-- Render a piece of template text. -/
  | renderText (source : Text) (indent : Nat)
  /-- Render a section of the template. -/
  | renderSection (s : Section) (indent : Nat)
  /-- Write a text as one unit. -/
  | write (t : Text)
  /-- Write blanks. -/
  | writeBlanks (columns : Nat)

/-- The answer to a step. -/
inductive Reply where
  /-- It has been done. -/
  | done
  /-- It failed. -/
  | failed (e : TemplateError)
  /-- There are so many node types now, and this was wrong with a line. -/
  | declared (count : Nat) (e : Option GrammarError)
  /-- The text of a hierarchy. -/
  | hierarchy (contents : Logged (Except GenerateError Text))
  /-- The file of a hierarchy. -/
  | file (file : Logged (Except GenerateError GeneratedFile))

/-! ## Steps -/

/-- The answer to a step that has no more to say than whether it failed. -/
def Reply.ofResult : Except TemplateError Unit → Reply
  | .ok _ => .done
  | .error e => .failed e

/-- The session after the action on its output. -/
def perform (s : Session) (w : Writing Unit) : Session × Reply :=
  let (result, output) := w.perform s.output
  ({ s with output }, .ofResult result)

/-- The session after taking the template, if there is one. -/
def takeTemplate (s : Session) : Except TemplateError Template → Session × Reply
  | .ok template => ({ s with template }, .done)
  | .error e => (s, .failed e)

/-- The session after rendering the span with the variables of its scope, which are then used
up. -/
def renderSpan (s : Session) (span : Span) (indent : Nat) : Session × Reply :=
  { s with scope := [] }.perform (span.render s.template s.scope indent)

/-- The session after a step, and the answer. -/
def step (s : Session) : Step → Session × Reply
  | .useGenerator generator => ({ s with generator }, .done)
  | .useNamespace name => ({ s with generator := s.generator.inNamespace name }, .done)
  | .declare lines =>
    let (more, e) := NodeType.takeLines lines
    let types := s.types ++ more
    ({ s with types }, .declared types.length e)
  | .forget => ({ s with types := [] }, .done)
  | .hierarchy base => (s, .hierarchy (s.generator.hierarchy base s.types))
  | .file base lines => (s, .file (s.generator.file base lines))
  | .readTemplate source => s.takeTemplate (Template.read source)
  | .buildTemplate source => s.takeTemplate (Template.build fun sec => Span.read (source sec))
  | .bind name b => ({ s with scope := s.scope.bind name b }, .done)
  | .writeVariable name layout indent =>
    match s.scope.find? name with
    | some b => s.perform (b.write s.template layout indent)
    | none => (s, .failed (.unknownVariable name))
  | .renderText source indent =>
    match Span.read source with
    | .ok span => s.renderSpan span indent
    | .error e => (s, .failed e)
  | .renderSection sec indent => s.renderSpan (s.template.span sec) indent
  | .write t => s.perform (Writing.write t)
  | .writeBlanks columns => s.perform (Writing.writeBlanks columns)

/-- The session after the steps. -/
def after (s : Session) (steps : List Step) : Session :=
  steps.foldl (fun s next => (s.step next).1) s

/-- The answers to the steps, each with everything that has been written by then. -/
def run : Session → List Step → List (Reply × Text)
  | _, [] => []
  | s, next :: rest =>
    let (s', reply) := s.step next
    (reply, s'.output.content) :: run s' rest

/-! ## Small laws -/

@[simp] theorem after_nil (s : Session) : s.after [] = s := rfl

@[simp] theorem after_cons (s : Session) (next : Step) (rest : List Step) :
    s.after (next :: rest) = (s.step next).1.after rest := rfl

/-- Every step is answered. -/
@[simp] theorem length_run (s : Session) (steps : List Step) :
    (s.run steps).length = steps.length := by
  induction steps generalizing s with
  | nil => rfl
  | cons next rest ih => simp [run, ih]

end Session

end AstHierarchy
