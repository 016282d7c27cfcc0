import AstHierarchy.Grammar.File
import AstHierarchy.Hierarchy.Event
import AstHierarchy.Hierarchy.Part
import AstHierarchy.Language.Basic
import AstHierarchy.Text.Spacing

/-!
# Generating a hierarchy

A generator writes hierarchies in one language, in a namespace if one is asked for. The text of a
hierarchy consists of its parts with an empty line between two of them, in tidy form.

The stages and what can stop each of them:

* reading the grammar, which a wrong line stops;
* checking that there is a node type at all;
* compiling the template of the language;
* rendering the parts, which a variable that is not bound stops.

A namespace in a language that declares none is no error. It is reported as soon as the template
has been compiled.
-/

namespace AstHierarchy

/-! ## What can be wrong -/

/-- Why no hierarchy is generated. -/
inductive GenerateError where
  /-- A line of the grammar is wrong. -/
  | grammar (e : GrammarError)
  /-- The grammar declares no node type. -/
  | emptyGrammar (base : Text)
  /-- The template of the language does not compile or does not render. -/
  | template (language : Text) (e : TemplateError)
  deriving DecidableEq, Repr

/-- The sentence that tells the user. -/
def GenerateError.message : GenerateError → Text
  | grammar e => e.message
  | emptyGrammar base =>
    "grammar for `".toList ++ base ++ "` declares no node types".toList
  | template language e =>
    "invalid ".toList ++ language ++ " template: ".toList ++ e.message

/-! ## Generators -/

/-- A file that has been generated. -/
structure GeneratedFile where
  /-- The name of the file. -/
  name : Text
  /-- What is in it. -/
  contents : Text
  deriving DecidableEq, Repr

/-- What writes hierarchies in a language. -/
structure Generator where
  /-- The language. -/
  language : Language
  /-- The namespace of the hierarchies, if one is asked for. -/
  namespaceName : Option Text := none

namespace Generator

/-- The same generator for another namespace. -/
def inNamespace (g : Generator) (name : Text) : Generator :=
  { g with namespaceName := some name }

@[simp] theorem inNamespace_language (g : Generator) (name : Text) :
    (g.inNamespace name).language = g.language := rfl

@[simp] theorem inNamespace_namespaceName (g : Generator) (name : Text) :
    (g.inNamespace name).namespaceName = some name := rfl

/-- The line that declares the namespace; nothing if none is asked for or the language declares
none. -/
def declaration (g : Generator) : Text :=
  (g.namespaceName.bind g.language.declareNamespace?).getD []

/-- What there is to report about the namespace. -/
def namespaceEvents (g : Generator) : List Event :=
  match g.namespaceName with
  | none => []
  | some name =>
    if (g.language.declareNamespace? name).isSome then []
    else [.namespaceIgnored g.language.id name]

/-- The text of the hierarchy of the node types, given the compiled template. -/
def render (g : Generator) (template : Template) (base : Text) (types : List NodeType) :
    Except TemplateError Text := do
  let blocks ← (Part.all g.declaration types).mapM (Part.render template base)
  return Text.respace ("\n\n".toList.intercalate blocks)

/-- The text of the hierarchy of the node types under the base type. -/
def hierarchy (g : Generator) (base : Text) (types : List NodeType) :
    Logged (Except GenerateError Text) :=
  if types.isEmpty then { events := [], result := .error (.emptyGrammar base) }
  else
    let begun := Event.hierarchyBegun g.language.id base types.length
    match Template.read g.language.template with
    | .error e => { events := [begun], result := .error (.template g.language.id e) }
    | .ok template =>
      { events := begun :: g.namespaceEvents,
        result := (g.render template base types).mapError (.template g.language.id) }

/-- The file with the hierarchy that the lines of a grammar declare. -/
def file (g : Generator) (base : Text) (lines : List Text) :
    Logged (Except GenerateError GeneratedFile) :=
  match NodeType.ofLines lines with
  | .error e => { events := [], result := .error (.grammar e) }
  | .ok types =>
    let made := g.hierarchy base types
    { events := .grammarRead types.length :: made.events,
      result := made.result.map fun contents =>
        { name := g.language.fileNameFor base, contents } }

end Generator

end AstHierarchy
