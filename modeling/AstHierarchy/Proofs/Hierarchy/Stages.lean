import AstHierarchy.Hierarchy.Generator
import AstHierarchy.Proofs.Outcome

/-!
# How far a run comes

Making a file from a grammar goes through stages: reading all of the lines, making sure that there
is a node type, compiling the template, and rendering. The first stage that fails is the end of the
run, whatever else is wrong, and the events tell which stages were reached before. Only a warning
about the namespace depends on more than that: it is given as soon as the template is compiled, so
it does not matter whether rendering succeeds.

* `Generator.Ends` lists the ways in which a run can end.
* `Generator.ends_iff_file_eq` says that a run ends in the one way that applies to it.
* `Generator.file_stops_at_first_failure` is the main result.
-/

namespace AstHierarchy.Generator

variable {g : Generator} {base : Text} {lines : List Text}

/-! ## Ways to end -/

/-- What is told about the namespace once the template is compiled. -/
inductive Warns (g : Generator) : List Event → Prop where
  /-- A namespace is asked for, be it the empty one, and the language declares none. -/
  | ignored {name : Text} (hname : g.namespaceName = some name)
    (hnone : g.language.declareNamespace? name = none) :
    Warns g [.namespaceIgnored g.language.id name]
  /-- No namespace is asked for, or it can be declared. -/
  | silent (h : ∀ name, g.namespaceName = some name → g.language.declareNamespace? name ≠ none) :
    Warns g []

/-- A way in which making a file from the lines ends: with these events and this result. -/
inductive Ends (g : Generator) (base : Text) (lines : List Text) :
    Logged (Except GenerateError GeneratedFile) → Prop where
  /-- A line is wrong, and none before it is. -/
  | misread {before after : List Text} {line : Text} {e : GrammarError}
    (hlines : lines = before ++ line :: after)
    (hbefore : ∀ l ∈ before, ∃ t, NodeType.ofLine l = .ok t)
    (hline : NodeType.ofLine line = .error e) :
    Ends g base lines { events := [], result := .error (.grammar e) }
  /-- There is no line. -/
  | empty (hlines : lines = []) :
    Ends g base lines { events := [.grammarRead 0], result := .error (.emptyGrammar base) }
  /-- The lines are read, and the template does not compile. -/
  | uncompiled {types : List NodeType} {e : TemplateError} (hne : lines ≠ [])
    (htypes : lines.map NodeType.ofLine = types.map .ok)
    (htemplate : Template.read g.language.template = .error e) :
    Ends g base lines
      { events := [.grammarRead lines.length, .hierarchyBegun g.language.id base lines.length],
        result := .error (.template g.language.id e) }
  /-- The lines are read and the template compiles; the rest is up to the text of the hierarchy. -/
  | compiled {types : List NodeType} {template : Template} {warnings : List Event}
    (hne : lines ≠ []) (htypes : lines.map NodeType.ofLine = types.map .ok)
    (htemplate : Template.read g.language.template = .ok template)
    (hwarnings : g.Warns warnings) :
    Ends g base lines
      { events := [.grammarRead lines.length, .hierarchyBegun g.language.id base lines.length]
          ++ warnings,
        result := (g.hierarchy base types).result.map fun contents =>
          { name := g.language.fileNameFor base, contents } }

theorem warns_namespaceEvents (g : Generator) : g.Warns g.namespaceEvents := by
  unfold namespaceEvents
  split
  · rename_i hname
    exact .silent fun name hsome => by rw [hname] at hsome; cases hsome
  · rename_i name hname
    split
    · rename_i hdeclare
      refine .silent fun name' hsome => ?_
      obtain rfl : name = name' := Option.some.inj (hname.symm.trans hsome)
      exact Option.isSome_iff_ne_none.1 hdeclare
    · rename_i hdeclare
      exact .ignored hname (by simpa using hdeclare)

theorem warns_iff {events : List Event} : g.Warns events ↔ events = g.namespaceEvents := by
  constructor
  · intro h
    unfold namespaceEvents
    cases h with
    | ignored hname hnone => simp [hname, hnone]
    | silent h =>
      cases hname : g.namespaceName with
      | none => rfl
      | some name => simp [Option.isSome_iff_ne_none.2 (h name hname)]
  · rintro rfl
    exact g.warns_namespaceEvents

/-! ## Stages -/

/-- A wrong line is the end, whatever the language. -/
theorem file_of_ofLines_eq_error {e : GrammarError} (h : NodeType.ofLines lines = .error e) :
    g.file base lines = { events := [], result := .error (.grammar e) } := by
  rw [file, h]

theorem file_nil : g.file base [] =
    { events := [.grammarRead 0], result := .error (.emptyGrammar base) } := rfl

theorem length_of_map_ofLine_eq {types : List NodeType}
    (h : lines.map NodeType.ofLine = types.map .ok) : types.length = lines.length := by
  simpa using (congrArg List.length h).symm

/-- With all lines read, the events are known from the template alone. -/
theorem file_of_ofLines_eq_ok {types : List NodeType} (hne : lines ≠ [])
    (h : lines.map NodeType.ofLine = types.map .ok) :
    g.file base lines =
      { events := [.grammarRead lines.length, .hierarchyBegun g.language.id base lines.length]
          ++ (match Template.read g.language.template with
            | .error _ => []
            | .ok _ => g.namespaceEvents),
        result := (g.hierarchy base types).result.map fun contents =>
          { name := g.language.fileNameFor base, contents } } := by
  have hread : NodeType.ofLines lines = .ok types := mapM_eq_ok_iff.2 h
  have hlength := length_of_map_ofLine_eq h
  have htypes : ¬ types.isEmpty = true := by
    rw [List.isEmpty_iff]
    rintro rfl
    exact hne (List.length_eq_zero_iff.1 hlength.symm)
  rw [file, hread]
  simp only [hierarchy, htypes, if_false, hlength, Bool.false_eq_true]
  cases Template.read g.language.template <;> rfl

theorem result_of_uncompiled {types : List NodeType} {e : TemplateError} (hne : types ≠ [])
    (h : Template.read g.language.template = .error e) :
    (g.hierarchy base types).result = .error (.template g.language.id e) := by
  rw [hierarchy, if_neg (by simpa using hne), h]

/-- **A run ends in the way that applies to it**, and in no other. -/
theorem ends_iff_file_eq {made : Logged (Except GenerateError GeneratedFile)} :
    g.Ends base lines made ↔ g.file base lines = made := by
  constructor
  · intro h
    cases h with
    | misread hlines hbefore hline =>
      exact file_of_ofLines_eq_error (mapM_eq_error_iff.2 ⟨_, _, _, hlines, hbefore, hline⟩)
    | empty hlines =>
      rw [hlines]
      exact file_nil
    | @uncompiled types e hne htypes htemplate =>
      have htypesNe : types ≠ [] := by
        rintro rfl
        exact hne (List.map_eq_nil_iff.1 htypes)
      rw [file_of_ofLines_eq_ok hne htypes, result_of_uncompiled htypesNe htemplate, htemplate]
      rfl
    | compiled hne htypes htemplate hwarnings =>
      rw [file_of_ofLines_eq_ok hne htypes, htemplate, warns_iff.1 hwarnings]
  · rintro rfl
    cases hread : NodeType.ofLines lines with
    | error e =>
      obtain ⟨before, line, after, hlines, hbefore, hline⟩ := mapM_eq_error_iff.1 hread
      rw [file_of_ofLines_eq_error hread]
      exact .misread hlines hbefore hline
    | ok types =>
      have htypes := mapM_eq_ok_iff.1 hread
      by_cases hne : lines = []
      · subst hne
        exact .empty rfl
      · have htypesNe : types ≠ [] := by
          rintro rfl
          exact hne (List.map_eq_nil_iff.1 htypes)
        rw [file_of_ofLines_eq_ok hne htypes]
        cases htemplate : Template.read g.language.template with
        | error e =>
          rw [result_of_uncompiled htypesNe htemplate]
          exact .uncompiled hne htypes htemplate
        | ok template => exact .compiled hne htypes htemplate g.warns_namespaceEvents

theorem ends_file (g : Generator) (base : Text) (lines : List Text) :
    g.Ends base lines (g.file base lines) := ends_iff_file_eq.2 rfl

/-! ## What the events tell -/

theorem exists_ofLine_eq_ok_of_map_eq {types : List NodeType}
    (h : lines.map NodeType.ofLine = types.map .ok) :
    ∀ line ∈ lines, ∃ t, NodeType.ofLine line = .ok t :=
  exists_mapM_eq_ok_iff.1 ⟨types, mapM_eq_ok_iff.2 h⟩

/-- Nothing is reported exactly when a line is wrong. -/
theorem events_file_eq_nil_iff :
    (g.file base lines).events = [] ↔ ∃ line ∈ lines, ∃ e, NodeType.ofLine line = .error e := by
  have hread {types : List NodeType} (htypes : lines.map NodeType.ofLine = types.map .ok) :
      ¬ ∃ line ∈ lines, ∃ e, NodeType.ofLine line = .error e := by
    rintro ⟨line, hline, e, he⟩
    obtain ⟨t, ht⟩ := exists_ofLine_eq_ok_of_map_eq htypes line hline
    rw [ht] at he
    cases he
  have hends := g.ends_file base lines
  generalize g.file base lines = made at hends
  cases hends with
  | misread hlines hbefore hline =>
    subst hlines
    exact ⟨fun _ => ⟨_, by simp, _, hline⟩, fun _ => rfl⟩
  | empty hlines =>
    subst hlines
    simp
  | uncompiled hne htypes htemplate => exact iff_of_false (List.cons_ne_nil _ _) (hread htypes)
  | compiled hne htypes htemplate hwarnings =>
    exact iff_of_false (List.cons_ne_nil _ _) (hread htypes)

/-- The warnings in a run. -/
theorem exists_isWarning_events_file_iff :
    (∃ event ∈ (g.file base lines).events, event.isWarning) ↔
      lines ≠ [] ∧ (∀ line ∈ lines, ∃ t, NodeType.ofLine line = .ok t) ∧
      (∃ template, Template.read g.language.template = .ok template) ∧
      ∃ name, g.namespaceName = some name ∧ g.language.declareNamespace? name = none := by
  have hends := g.ends_file base lines
  generalize g.file base lines = made at hends
  cases hends with
  | @misread before after line e hlines hbefore hline =>
    refine iff_of_false (by simp) ?_
    rintro ⟨-, hread, -⟩
    obtain ⟨t, ht⟩ := hread line (by simp [hlines])
    rw [ht] at hline
    cases hline
  | empty hlines => exact iff_of_false (by simp [Event.isWarning]) fun h => h.1 hlines
  | uncompiled hne htypes htemplate =>
    refine iff_of_false (by simp [Event.isWarning]) ?_
    rintro ⟨-, -, ⟨template, hread⟩, -⟩
    rw [hread] at htemplate
    cases htemplate
  | compiled hne htypes htemplate hwarnings =>
    cases hwarnings with
    | @ignored name hname hnone =>
      exact iff_of_true ⟨.namespaceIgnored g.language.id name, by simp, rfl⟩
        ⟨hne, exists_ofLine_eq_ok_of_map_eq htypes, ⟨_, htemplate⟩, _, hname, hnone⟩
    | silent h =>
      refine iff_of_false (by simp [Event.isWarning]) ?_
      rintro ⟨-, -, -, name, hname, hnone⟩
      exact h name hname hnone

/-- A file is made exactly from the text of a hierarchy. -/
theorem result_file_eq_ok_iff {made : GeneratedFile} :
    (g.file base lines).result = .ok made ↔
      ∃ types, lines.map NodeType.ofLine = types.map .ok ∧
        made.name = g.language.fileNameFor base ∧
        (g.hierarchy base types).result = .ok made.contents := by
  simp only [← mapM_eq_ok_iff]
  unfold file
  cases hread : NodeType.ofLines lines with
  | error e =>
    rw [NodeType.ofLines] at hread
    simp [hread]
  | ok types =>
    rw [NodeType.ofLines] at hread
    simp only [hread, map_eq_ok_iff, Except.ok.injEq, exists_eq_left']
    constructor
    · rintro ⟨contents, h, rfl⟩
      exact ⟨rfl, h⟩
    · rintro ⟨hname, h⟩
      exact ⟨made.contents, h, by rw [← hname]⟩

/-! ## Namespaces -/

/-- Only the namespace that is asked for last counts. -/
theorem foldl_inNamespace_inNamespace (g : Generator) (names : List Text) (name : Text) :
    (names.foldl inNamespace g).inNamespace name =
      { language := g.language, namespaceName := some name } := by
  induction names generalizing g with
  | nil => rfl
  | cons other rest ih =>
    rw [List.foldl_cons, ih, inNamespace_language]

/-- A namespace that is asked for and cannot be declared is warned of once the template is
compiled. -/
theorem exists_isWarning_events_file_inNamespace_iff (g : Generator) (name : Text) :
    (∃ event ∈ ((g.inNamespace name).file base lines).events, event.isWarning) ↔
      lines ≠ [] ∧ (∀ line ∈ lines, ∃ t, NodeType.ofLine line = .ok t) ∧
      (∃ template, Template.read g.language.template = .ok template) ∧
      g.language.declareNamespace? name = none := by
  rw [exists_isWarning_events_file_iff]
  simp only [inNamespace_language, inNamespace_namespaceName, Option.some.injEq,
    exists_eq_left']

/-- The result depends on the namespace only as far as it is declared. -/
theorem result_file_eq_of_declaration_eq {g' : Generator} (hlanguage : g'.language = g.language)
    (hdeclaration : g'.declaration = g.declaration) :
    (g'.file base lines).result = (g.file base lines).result := by
  have hhierarchy (types : List NodeType) :
      (g'.hierarchy base types).result = (g.hierarchy base types).result := by
    simp only [hierarchy, render, hlanguage, hdeclaration]
    split
    · rfl
    · cases Template.read g.language.template <;> rfl
  simp only [file, hlanguage]
  cases NodeType.ofLines lines with
  | error e => rfl
  | ok types => simp only [hhierarchy]

theorem filter_events_of_warns {warnings : List Event} (h : g.Warns warnings) :
    warnings.filter (! ·.isWarning) = [] := by
  cases h with
  | ignored hname hnone => rfl
  | silent h => rfl

/-- The namespace makes no difference to the events but for the warning. -/
theorem filter_events_file_eq {g' : Generator} (hlanguage : g'.language = g.language) :
    (g'.file base lines).events.filter (! ·.isWarning) =
      (g.file base lines).events.filter (! ·.isWarning) := by
  have hends := g.ends_file base lines
  generalize g.file base lines = made at hends
  cases hends with
  | misread hlines hbefore hline =>
    rw [ends_iff_file_eq.1 (.misread hlines hbefore hline)]
  | empty hlines => rw [ends_iff_file_eq.1 (.empty hlines)]
  | uncompiled hne htypes htemplate =>
    rw [← hlanguage] at htemplate ⊢
    rw [ends_iff_file_eq.1 (.uncompiled hne htypes htemplate)]
  | compiled hne htypes htemplate hwarnings =>
    rw [← hlanguage] at htemplate
    rw [ends_iff_file_eq.1 (.compiled hne htypes htemplate g'.warns_namespaceEvents)]
    simp only [List.filter_append, filter_events_of_warns hwarnings,
      filter_events_of_warns g'.warns_namespaceEvents, hlanguage]

/-- **A run ends at the first stage that fails**, and its events tell how far it came. Nothing is
reported exactly when a line is wrong, and a warning is given exactly when the template compiles and
the namespace, be it the empty one, cannot be declared. A file that is made has the name that the
language gives it and holds the text of the hierarchy of the node types that the lines declare.
Asking for a namespace sets it and keeps the language, so of several namespaces that are asked for
one after the other the last one counts, and it is warned of if the language cannot declare it; it
makes no difference to the result unless it changes what is declared, and none to the events but for
the warning. -/
theorem file_stops_at_first_failure (g : Generator) (base : Text) (lines : List Text) :
    (∀ made, g.file base lines = made ↔ g.Ends base lines made) ∧
    ((g.file base lines).events = [] ↔ ∃ line ∈ lines, ∃ e, NodeType.ofLine line = .error e) ∧
    ((∃ event ∈ (g.file base lines).events, event.isWarning) ↔
      lines ≠ [] ∧ (∀ line ∈ lines, ∃ t, NodeType.ofLine line = .ok t) ∧
      (∃ template, Template.read g.language.template = .ok template) ∧
      ∃ name, g.namespaceName = some name ∧ g.language.declareNamespace? name = none) ∧
    (∀ made : GeneratedFile, (g.file base lines).result = .ok made ↔
      ∃ types, lines.map NodeType.ofLine = types.map .ok ∧
        made.name = g.language.fileNameFor base ∧
        (g.hierarchy base types).result = .ok made.contents) ∧
    (∀ name : Text, (g.inNamespace name).namespaceName = some name ∧
      (g.inNamespace name).language = g.language) ∧
    (∀ name : Text, (∃ event ∈ ((g.inNamespace name).file base lines).events, event.isWarning) ↔
      lines ≠ [] ∧ (∀ line ∈ lines, ∃ t, NodeType.ofLine line = .ok t) ∧
      (∃ template, Template.read g.language.template = .ok template) ∧
      g.language.declareNamespace? name = none) ∧
    (∀ (names : List Text) (name : Text),
      ((names.foldl inNamespace g).inNamespace name).file base lines =
        file { language := g.language, namespaceName := some name } base lines) ∧
    ∀ g' : Generator, g'.language = g.language →
      (g'.file base lines).events.filter (! ·.isWarning) =
        (g.file base lines).events.filter (! ·.isWarning) ∧
      (g'.declaration = g.declaration →
        (g'.file base lines).result = (g.file base lines).result) := by
  refine ⟨fun made => ends_iff_file_eq.symm, events_file_eq_nil_iff,
    exists_isWarning_events_file_iff, fun made => result_file_eq_ok_iff,
    fun name => ⟨g.inNamespace_namespaceName name, g.inNamespace_language name⟩,
    fun name => g.exists_isWarning_events_file_inNamespace_iff name, fun names name => ?_,
    fun g' hlanguage => ⟨filter_events_file_eq hlanguage, fun hdeclaration => ?_⟩⟩
  · rw [foldl_inNamespace_inNamespace]
  · exact result_file_eq_of_declaration_eq hlanguage hdeclaration

/-- A language without namespaces whose preamble refers to a variable that is not bound. -/
def unbound : Language where
  id := "unbound".toList
  fileNameFor base := base
  template := Text.unlines ([
    "#prelude", "%nope%", "#end/prelude", "#base", "#end/base", "#visitor", "#end/visitor",
    "#visit_method", "#end/visit_method", "#node", "#end/node"].map String.toList)

theorem file_stops_at_first_failure_unbound :
    Ends { language := unbound, namespaceName := some [] } ['E'] ["A : T x".toList]
      { events := [.grammarRead 1, .hierarchyBegun "unbound".toList ['E'] 1,
          .namespaceIgnored "unbound".toList []],
        result := .error (.template "unbound".toList (.unknownVariable "nope".toList)) } ∧
    Ends { language := unbound, namespaceName := some [] } ['E'] ["A :".toList, ['B'], "::".toList]
      { events := [], result := .error (.grammar (.malformedLine ['B'])) } ∧
    (file { language := unbound } ['E'] ["A : T x".toList]).result =
      (file { language := unbound, namespaceName := some [] } ['E'] ["A : T x".toList]).result := by
  have hstages := file_stops_at_first_failure { language := unbound, namespaceName := some [] } ['E']
  exact ⟨((hstages _).1 _).1 (by rfl), ((hstages _).1 _).1 (by rfl),
    ((hstages _).2.2.2.2.2.2.2 { language := unbound } rfl).2 rfl⟩

end AstHierarchy.Generator
