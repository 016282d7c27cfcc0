import AstHierarchy.Grammar.NodeType
import AstHierarchy.Text.Quoted

/-!
# Node types as JSON

The written form in which other programs read a list of node types. A list or an object has its
members on lines of their own, two columns further in than the line that opens it, with a comma
after all but the last; an empty list is `[]`. Members of an object come in a fixed order.
-/

namespace AstHierarchy

namespace Dump

/-- A line feed and the blanks up to the column. -/
def newline (column : Nat) : Text := '\n' :: List.replicate column ' '

/-- Members between brackets; `column` is that of the line with the opening bracket. -/
def bracket (opening closing : Char) (column : Nat) (members : List Text) : Text :=
  match members with
  | [] => [opening, closing]
  | _ :: _ =>
    opening :: newline (column + 2) ++ (',' :: newline (column + 2)).intercalate members
      ++ newline column ++ [closing]

/-- A member of an object. -/
def member (key value : Text) : Text := Text.quote key ++ ": ".toList ++ value

/-- A field as an object that begins at the column. -/
def field (column : Nat) (f : Field) : Text :=
  bracket '{' '}' column
    [member "type_name".toList (Text.quote f.type), member "field_name".toList (Text.quote f.name)]

/-- A node type as an object that begins at the column. -/
def nodeType (column : Nat) (t : NodeType) : Text :=
  bracket '{' '}' column
    [member "name".toList (Text.quote t.name),
     member "fields".toList (bracket '[' ']' (column + 2) (t.fields.map (field (column + 4))))]

end Dump

/-- The list of node types as JSON text. -/
def dumpTypes (types : List NodeType) : Text :=
  Dump.bracket '[' ']' 0 (types.map (Dump.nodeType 2))

end AstHierarchy
