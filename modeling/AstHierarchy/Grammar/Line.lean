import AstHierarchy.Grammar.NodeType
import AstHierarchy.Text.Blank

/-!
# Grammar lines

One line of a grammar declares one node type: `Name : Type field, Type field`. Blank characters
around the name and around the list of fields do not count. Inside the list the form is strict:
fields are separated by a comma and one space, and a field is a type, one space and a name, where
the type holds no blank character and the name neither a blank character nor a comma. A list may
be empty.

A type is otherwise free text. It may hold colons, since the name ends at the first colon of the
line, and commas, as long as no space follows them.

`NodeType.ofLine` reads a line, `NodeType.toLine` writes one.
-/

namespace AstHierarchy

/-! ## What can be wrong -/

/-- Why a line declares no node type. -/
inductive GrammarError where
  /-- There is no colon in the line. -/
  | malformedLine (line : Text)
  /-- There is nothing before the first colon. -/
  | emptyTypeName (line : Text)
  /-- The piece `token` of the list of fields is no field. -/
  | malformedField (line token : Text)
  deriving DecidableEq, Repr

/-- The sentence that tells the author of the grammar. -/
def GrammarError.message : GrammarError → Text
  | malformedLine line =>
    "malformed grammar line `".toList ++ line
      ++ "`: expected `Name : Type field, ...`".toList
  | emptyTypeName line =>
    "grammar line `".toList ++ line ++ "` has an empty type name".toList
  | malformedField line token =>
    "malformed field `".toList ++ token ++ "` in grammar line `".toList ++ line
      ++ "`: expected `Type name`".toList

/-! ## Reading -/

/-- Whether the text can be the type of a field on a line. -/
def Field.isTypeText (t : Text) : Bool := !t.isEmpty && !t.any Text.isBlank

/-- Whether the text can be the name of a field on a line. -/
def Field.isNameText (t : Text) : Bool := !t.isEmpty && !t.any fun c => Text.isBlank c || c == ','

/-- The field that a piece of the list declares, if it is of the form `Type name`. -/
def Field.ofText? (token : Text) : Option Field :=
  match Text.cutAt ' ' token with
  | some (type, name) =>
    if Field.isTypeText type && Field.isNameText name then some { type, name } else none
  | none => none

/-- The fields that the pieces declare; the first piece that declares none is the error of the
whole line. -/
def Field.ofTokens (line : Text) : List Text → Except GrammarError (List Field)
  | [] => .ok []
  | token :: rest =>
    match Field.ofText? token with
    | none => .error (.malformedField line token)
    | some field => (Field.ofTokens line rest).map (field :: ·)

/-- The fields that a trimmed list declares. -/
def Field.ofList (line list : Text) : Except GrammarError (List Field) :=
  -- splitting the empty text would give one empty piece, which is no field
  if list.isEmpty then .ok [] else Field.ofTokens line (Text.splitOnPair ',' ' ' list)

/-- The node type that a line declares. -/
def NodeType.ofLine (line : Text) : Except GrammarError NodeType :=
  match Text.cutAt ':' line with
  | none => .error (.malformedLine line)
  | some (before, after) =>
    if (Text.trim before).isEmpty then .error (.emptyTypeName line)
    else
      (Field.ofList line (Text.trim after)).map fun fields =>
        { name := Text.trim before, fields }

/-! ## Writing -/

/-- The field as it stands in a line. -/
def Field.toText (f : Field) : Text := f.type ++ ' ' :: f.name

/-- The line that declares the node type. -/
def NodeType.toLine (t : NodeType) : Text :=
  t.name ++ " : ".toList ++ [',', ' '].intercalate (t.fields.map Field.toText)

/-! ## Small laws -/

/-- A piece that reads as a field is the written form of that field. -/
theorem Field.toText_of_ofText? {token : Text} {f : Field} (h : Field.ofText? token = some f) :
    f.toText = token := by
  unfold Field.ofText? at h
  split at h
  · rename_i type name hcut
    split at h
    · obtain rfl := Option.some.inj h
      exact (Text.cutAt_eq_some_iff.1 hcut).1.symm
    · cases h
  · cases h

end AstHierarchy
