import AstHierarchy.Render.Buffer
import AstHierarchy.Template.Error

/-!
# Writing

An action that writes to a buffer and may fail. Failure keeps what has been written until then,
and nothing is written after it: a refused write ends the action just as an error of its own does.

The unit of writing is what a buffer keeps or refuses as a whole. Indentation is written one blank
at a time.
-/

namespace AstHierarchy

/-- An action on a buffer. -/
abbrev Writing := ExceptT TemplateError (StateM Buffer)

namespace Writing

/-- The result of the action on a buffer, and the buffer after it. -/
def perform {α : Type} (w : Writing α) (b : Buffer) : Except TemplateError α × Buffer := w.run.run b

/-- Write the text as one unit. -/
def write (t : Text) : Writing Unit := do
  match (← get).push? t with
  | some b => set b
  | none => throw .refusedWrite

/-- Write so many blanks. -/
def writeBlanks : Nat → Writing Unit
  | 0 => pure ()
  | n + 1 => do
    write [' ']
    writeBlanks n

/-- The text that the action writes when nothing is refused, or the error it ends with. -/
def toText (w : Writing Unit) : Except TemplateError Text :=
  match w.perform Buffer.unlimited with
  | (.ok _, b) => .ok b.content
  | (.error e, _) => .error e

/-! ## Small laws -/

@[simp] theorem perform_pure {α : Type} (a : α) (b : Buffer) :
    (pure a : Writing α).perform b = (.ok a, b) := rfl

@[simp] theorem perform_throw {α : Type} (e : TemplateError) (b : Buffer) :
    (throw e : Writing α).perform b = (.error e, b) := rfl

/-- What follows an action happens if the action succeeds, on the buffer that it leaves. -/
theorem perform_bind {α β : Type} (w : Writing α) (f : α → Writing β) (b : Buffer) :
    (w >>= f).perform b =
      match w.perform b with
      | (.ok a, b') => (f a).perform b'
      | (.error e, b') => (.error e, b') := by
  change ExceptT.bindCont f (w.perform b).1 (w.perform b).2 = _
  rcases w.perform b with ⟨_ | _, _⟩ <;> rfl

/-- A write is kept or refused as the buffer decides. -/
theorem perform_write (t : Text) (b : Buffer) :
    (write t).perform b =
      match b.push? t with
      | some b' => (.ok (), b')
      | none => (.error .refusedWrite, b) := by
  change (match b.push? t with
    | some b => set b
    | none => throw .refusedWrite : Writing Unit).perform b = _
  cases b.push? t <;> rfl

end Writing

end AstHierarchy
