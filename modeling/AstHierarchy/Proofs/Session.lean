import AstHierarchy.Proofs.Render.Capacity
import AstHierarchy.Session
import Mathlib.Data.List.Induction

/-!
# What holds throughout a session

The state of a session is known from its steps. The scope holds what has been bound since something
was rendered last, the node types are those declared since they were forgotten last, and template
and generator are the ones taken last. Only the output depends on more than that: it is what the
writing steps have added one after the other, within its limit.

* `transition_step` says what one step leaves alone and what it answers, for every session.
* `reached_after` says what the steps of a whole session come to. It is proved step by step, at the
  end of the list.
* `after_fresh_lawful` is the main result, both of these for sessions from their beginning.
-/

namespace AstHierarchy.Session

open Writing

/-! ## Kinds of steps -/

namespace Step

/-- Whether the step writes to the output. -/
def writes : Step → Bool
  | writeVariable .. | renderText .. | renderSection .. | write _ | writeBlanks _ => true
  | _ => false

/-- Whether the step only asks for the text of a hierarchy. -/
def asks : Step → Bool
  | hierarchy _ | file .. => true
  | _ => false

/-- Whether the step asks for another template. -/
def asksForTemplate : Step → Bool
  | readTemplate _ | buildTemplate _ => true
  | _ => false

/-- The template that the step takes. -/
def template? : Step → Option Template
  | readTemplate source => (Template.read source).toOption
  | buildTemplate source => (Template.build fun sec => Span.read (source sec)).toOption
  | _ => none

/-- Whether the step renders a span: a section, or a text that compiles. -/
def rendersSpan : Step → Bool
  | renderText source _ => (Span.read source).isOk
  | renderSection .. => true
  | _ => false

/-- What the step binds. -/
def binding? : Step → Option (Text × Binding)
  | bind name b => some (name, b)
  | _ => none

/-- The generator that the step takes. -/
def generator? : Step → Option Generator
  | useGenerator g => some g
  | _ => none

/-- The namespace that the step asks for. -/
def namespace? : Step → Option Text
  | useNamespace name => some name
  | _ => none

/-- Whether the step forgets the node types. -/
def forgets : Step → Bool
  | forget => true
  | _ => false

/-- The lines that the step reads as declarations. -/
def lines : Step → List Text
  | declare lines => lines
  | _ => []

/-- The node types that the step declares: those of the lines before the first wrong one. -/
def declared (next : Step) : List NodeType :=
  ((next.lines.map NodeType.ofLine).takeWhile Except.isOk).filterMap Except.toOption

/-- What is wrong with the first wrong line. -/
def wrong? (next : Step) : Option GrammarError :=
  next.lines.findSome? fun line =>
    match NodeType.ofLine line with
    | .error e => some e
    | .ok _ => none

end Step

/-! ## One step -/

theorem takeLines_eq (lines : List Text) :
    NodeType.takeLines lines = ((Step.declare lines).declared, (Step.declare lines).wrong?) := by
  unfold Step.declared Step.wrong? Step.lines
  induction lines with
  | nil => rfl
  | cons line rest ih =>
    rw [NodeType.takeLines, ih, List.map_cons, List.takeWhile_cons, List.findSome?_cons]
    cases NodeType.ofLine line with
    | error e => rfl
    | ok t => rfl

variable (s : Session)

/-- What the step does to the output. -/
def action? (next : Step) : Option (Writing Unit) :=
  match next with
  | .writeVariable name layout indent =>
    (s.scope.find? name).map (·.write s.template layout indent)
  | .renderText source indent =>
    (Span.read source).toOption.map (·.render s.template s.scope indent)
  | .renderSection sec indent => some ((s.template.span sec).render s.template s.scope indent)
  | .write t => some (Writing.write t)
  | .writeBlanks columns => some (Writing.writeBlanks columns)
  | _ => none

theorem onlyWrites_of_action? {next : Step} {w : Writing Unit} (h : s.action? next = some w) :
    OnlyWrites w := by
  cases next with
  | writeVariable name layout indent =>
    obtain ⟨b, -, rfl⟩ := Option.map_eq_some_iff.1 h
    exact b.onlyWrites_write s.template layout indent
  | renderText source indent =>
    obtain ⟨span, -, rfl⟩ := Option.map_eq_some_iff.1 h
    exact span.onlyWrites_render s.template s.scope indent
  | renderSection sec indent =>
    obtain rfl := Option.some.inj h
    exact Span.onlyWrites_render s.template s.scope indent _
  | write t =>
    obtain rfl := Option.some.inj h
    exact .write t
  | writeBlanks columns =>
    obtain rfl := Option.some.inj h
    exact .writeBlanks columns
  | _ => cases h

/-- **A step and the parts of the state.** -/
theorem step_eq (next : Step) :
    (s.step next).1 =
      { output := match s.action? next with
          | some w => (w.perform s.output).2
          | none => s.output
        scope := bif next.rendersSpan then [] else next.binding?.toList ++ s.scope
        template := next.template?.getD s.template
        generator := match next.generator?, next.namespace? with
          | some g, _ => g
          | none, some name => s.generator.inNamespace name
          | none, none => s.generator
        types := bif next.forgets then [] else s.types ++ next.declared } := by
  -- a step that declares nothing still adds what it declares
  have hnone : ∀ s : Session, s = { s with types := s.types ++ [] } := fun s => by
    rw [List.append_nil]
  cases next with
  | declare lines =>
    simp only [step, takeLines_eq]
    rfl
  | forget => rfl
  | readTemplate source =>
    simp only [step, Step.template?]
    cases Template.read source with
    | error e => exact hnone s
    | ok template => exact hnone { s with template }
  | buildTemplate source =>
    simp only [step, Step.template?]
    cases Template.build fun sec => Span.read (source sec) with
    | error e => exact hnone s
    | ok template => exact hnone { s with template }
  | writeVariable name layout indent =>
    simp only [step, action?]
    cases s.scope.find? name with
    | none => exact hnone s
    | some b => exact hnone (s.perform _).1
  | renderText source indent =>
    simp only [step, action?, Step.rendersSpan]
    cases Span.read source with
    | error e => exact hnone s
    | ok span => exact hnone (s.renderSpan span indent).1
  | renderSection sec indent => exact hnone (s.renderSpan (s.template.span sec) indent).1
  | write t => exact hnone (s.perform (Writing.write t)).1
  | writeBlanks columns => exact hnone (s.perform (Writing.writeBlanks columns)).1
  | useGenerator g => exact hnone { s with generator := g }
  | useNamespace name => exact hnone { s with generator := s.generator.inNamespace name }
  | bind name b => exact hnone { s with scope := s.scope.bind name b }
  | hierarchy base => exact hnone s
  | file base lines => exact hnone s

/-- A step only adds to the output, and leaves its limit as it is. -/
theorem output_step (next : Step) :
    s.output.content <+: (s.step next).1.output.content ∧
      (s.step next).1.output.limit = s.output.limit := by
  rw [step_eq]
  cases h : s.action? next with
  | none => exact ⟨List.prefix_refl _, rfl⟩
  | some w =>
    obtain ⟨⟨more, hmore⟩, hlimit⟩ := (onlyWrites_of_action? s h).extends s.output
    refine ⟨⟨more.flatten, ?_⟩, hlimit⟩
    simp only [Buffer.content]
    rw [← hmore, List.flatten_append]

/-- A step that does not write does nothing to the output. -/
theorem action?_eq_none {next : Step} (h : next.writes = false) : s.action? next = none := by
  cases next with
  | writeVariable | renderText | renderSection | write | writeBlanks => cases h
  | _ => rfl

/-- A step that writes is answered as its action ends. -/
theorem step_reply {next : Step} {w : Writing Unit} (h : s.action? next = some w) :
    (s.step next).2 = .ofResult (w.perform s.output).1 := by
  cases next with
  | writeVariable name layout indent =>
    obtain ⟨b, hb, rfl⟩ := Option.map_eq_some_iff.1 h
    rw [step, hb]
    rfl
  | renderText source indent =>
    obtain ⟨span, hspan, rfl⟩ := Option.map_eq_some_iff.1 h
    rw [step]
    cases hread : Span.read source with
    | error e =>
      rw [hread] at hspan
      cases hspan
    | ok span' =>
      rw [hread] at hspan
      cases hspan
      rfl
  | renderSection | write | writeBlanks =>
    obtain rfl := Option.some.inj h
    rfl
  | _ => cases h

/-- What a step changes and what it answers. -/
structure Transition (s : Session) (next : Step) (s' : Session) (reply : Reply) : Prop where
  /-- The output is only added to, within its limit. -/
  output_extends : s.output.content <+: s'.output.content ∧ s'.output.limit = s.output.limit
  /-- Only the steps that write add to it. -/
  output_eq : next.writes = false → s'.output = s.output
  /-- Such a step writes what there is to write, and is answered accordingly. -/
  output_written : ∀ w, s.action? next = some w →
    s'.output = (w.perform s.output).2 ∧ reply = .ofResult (w.perform s.output).1
  /-- To ask for the text of a hierarchy changes nothing. -/
  asks_eq : next.asks → s' = s
  /-- To ask for a template in vain changes nothing. -/
  template_failed : next.asksForTemplate → ∀ e, reply = .failed e → s' = s
  /-- A text that does not compile is not rendered, and nothing is changed. -/
  text_failed : ∀ source indent e, next = .renderText source indent → Span.read source = .error e →
    s' = s ∧ reply = .failed e
  /-- Nor is anything changed where a variable is to be written that is not bound. -/
  variable_failed : ∀ name layout indent, next = .writeVariable name layout indent →
    s.scope.find? name = none → s' = s ∧ reply = .failed (.unknownVariable name)
  /-- Rendering uses up the scope, whether it succeeds or not. -/
  scope_used_up : next.rendersSpan → s'.scope = []
  /-- Otherwise a variable stands for what it stood for before, unless it is bound anew. -/
  scope_kept : next.rendersSpan = false → ∀ name, (∀ b, next ≠ .bind name b) →
    s'.scope.find? name = s.scope.find? name
  /-- A variable that is bound stands for what it is bound to. -/
  scope_bound : ∀ name b, next = .bind name b → s'.scope.find? name = some b
  /-- The text of a hierarchy is that of the node types, written by the generator. -/
  hierarchy_reply : ∀ base, next = .hierarchy base →
    reply = .hierarchy (s.generator.hierarchy base s.types)
  /-- The file for a grammar depends on the generator only. -/
  file_reply : ∀ base lines, next = .file base lines →
    reply = .file (s.generator.file base lines)
  /-- The answer to a declaration tells what is wrong with the first wrong line. -/
  declare_reply : ∀ lines, next = .declare lines →
    reply = .declared s'.types.length next.wrong?

/-- **A step leaves alone what is not its own.** -/
theorem transition_step (next : Step) : Transition s next (s.step next).1 (s.step next).2 where
  output_extends := s.output_step next
  output_eq := by
    intro h
    rw [step_eq, action?_eq_none s h]
  output_written := by
    intro w h
    refine ⟨by rw [step_eq, h], s.step_reply h⟩
  asks_eq := by
    intro h
    cases next with
    | hierarchy | file => rfl
    | _ => cases h
  template_failed := by
    -- a template that is taken is answered by `done`
    have htaken : ∀ r e, (s.takeTemplate r).2 = .failed e → (s.takeTemplate r).1 = s := by
      rintro (_ | _) e ⟨⟩
      rfl
    intro h
    cases next with
    | readTemplate | buildTemplate => exact htaken _
    | _ => cases h
  text_failed := by
    rintro source indent e rfl h
    rw [step, h]
    exact ⟨rfl, rfl⟩
  variable_failed := by
    rintro name layout indent rfl h
    rw [step, h]
    exact ⟨rfl, rfl⟩
  scope_used_up := by
    intro h
    rw [step_eq, h]
    rfl
  scope_kept := by
    intro h name hname
    rw [step_eq, h]
    cases next with
    | bind other b =>
      have hne : name ≠ other := by
        rintro rfl
        exact hname b rfl
      exact s.scope.find?_bind_of_ne hne b
    | _ => rfl
  scope_bound := by
    rintro name b rfl
    exact s.scope.find?_bind_self name b
  hierarchy_reply := by
    rintro base rfl
    rfl
  file_reply := by
    rintro base lines rfl
    rfl
  declare_reply := by
    rintro lines rfl
    simp only [step, takeLines_eq]

/-! ## Many steps -/

/-- The steps after the last one of this kind. -/
def since (p : Step → Bool) (steps : List Step) : List Step :=
  (steps.reverse.takeWhile (!p ·)).reverse

theorem since_concat (p : Step → Bool) (steps : List Step) (next : Step) :
    since p (steps ++ [next]) = bif p next then [] else since p steps ++ [next] := by
  unfold since
  rw [List.reverse_concat, List.takeWhile_cons]
  cases p next with
  | true => rfl
  | false => exact List.reverse_cons

theorem after_concat (steps : List Step) (next : Step) :
    s.after (steps ++ [next]) = ((s.after steps).step next).1 :=
  List.foldl_append

theorem run_concat (steps : List Step) (next : Step) :
    s.run (steps ++ [next]) =
      s.run steps ++ [(((s.after steps).step next).2, (s.after (steps ++ [next])).output.content)] := by
  induction steps generalizing s with
  | nil => rfl
  | cons first rest ih =>
    simp only [List.cons_append, run, after_cons, ih]

/-- The generator that was taken last. -/
def lastGenerator (steps : List Step) : Generator :=
  (steps.filterMap Step.generator?).getLast?.getD { language := Language.php }

/-- The namespace that was asked for last, unless another generator was taken after that. -/
def lastNamespace? (steps : List Step) : Option Text :=
  ((since (·.generator?.isSome) steps).filterMap Step.namespace?).getLast?

theorem lastGenerator_concat (steps : List Step) (next : Step) :
    lastGenerator (steps ++ [next]) = next.generator?.getD (lastGenerator steps) := by
  unfold lastGenerator
  cases hgenerator : next.generator? <;> simp [hgenerator]

theorem lastNamespace?_concat (steps : List Step) (next : Step) :
    lastNamespace? (steps ++ [next]) =
      if next.generator?.isSome then none else next.namespace?.or (lastNamespace? steps) := by
  unfold lastNamespace?
  rw [since_concat]
  cases next.generator? with
  | some g => rfl
  | none => cases hnamespace : next.namespace? <;> simp [hnamespace]

/-- What the steps of a session come to. -/
structure Reached (limit : Option Nat) (steps : List Step) (s : Session) : Prop where
  /-- The output accepts as many bytes in total as at the beginning. -/
  limit_eq : s.output.limit = limit
  /-- The scope is what has been bound since something was rendered last, latest first. -/
  scope_eq : s.scope = ((since Step.rendersSpan steps).filterMap Step.binding?).reverse
  /-- The template is the last one that was taken. -/
  template_eq : s.template = (steps.filterMap Step.template?).getLast?.getD {}
  /-- The generator is the last one that was taken, for the last namespace asked for since. -/
  generator_eq : s.generator =
    { language := (lastGenerator steps).language
      namespaceName := (lastNamespace? steps).or (lastGenerator steps).namespaceName }
  /-- The node types are those that were declared since they were forgotten last. -/
  types_eq : s.types = (since Step.forgets steps).flatMap Step.declared

theorem reached_fresh (limit : Option Nat) : Reached limit [] (fresh limit) where
  limit_eq := Buffer.limit_empty limit
  scope_eq := rfl
  template_eq := rfl
  generator_eq := rfl
  types_eq := rfl

theorem Reached.step {limit : Option Nat} {steps : List Step} {s : Session}
    (h : Reached limit steps s) (next : Step) :
    Reached limit (steps ++ [next]) (s.step next).1 where
  limit_eq := (s.output_step next).2.trans h.limit_eq
  scope_eq := by
    rw [step_eq, since_concat, h.scope_eq]
    cases next.rendersSpan with
    | true => rfl
    | false => cases hbinding : next.binding? <;> simp [hbinding]
  template_eq := by
    rw [step_eq, h.template_eq]
    cases htemplate : next.template? <;> simp [htemplate]
  generator_eq := by
    rw [step_eq, h.generator_eq, lastGenerator_concat, lastNamespace?_concat]
    cases next.generator? with
    | some g => rfl
    | none => cases next.namespace? <;> rfl
  types_eq := by
    rw [step_eq, since_concat, h.types_eq]
    cases next.forgets with
    | true => rfl
    | false => simp

/-- **What the steps of a session come to**, whatever they are. -/
theorem reached_after (limit : Option Nat) (steps : List Step) :
    Reached limit steps ((fresh limit).after steps) := by
  -- the last step comes last
  induction steps using List.reverseRecOn with
  | nil => exact reached_fresh limit
  | append_singleton steps next ih =>
    rw [after_concat]
    exact ih.step next

/-- **What holds throughout a session.** Wherever a session stands, its state is what its steps come
to and its output is within the limit, and whatever comes next leaves alone what is not its own. The
answers come one by one, each with everything that has been written by then. -/
theorem after_fresh_lawful (limit : Option Nat) (steps : List Step) :
    Reached limit steps ((fresh limit).after steps) ∧
    (∀ bytes, limit = some bytes →
      ((fresh limit).after steps).output.content.utf8Size ≤ bytes) ∧
    ∀ next, ∃ reply,
      Transition ((fresh limit).after steps) next ((fresh limit).after (steps ++ [next])) reply ∧
      (fresh limit).run (steps ++ [next]) = (fresh limit).run steps ++
        [(reply, ((fresh limit).after (steps ++ [next])).output.content)] := by
  have hreached := reached_after limit steps
  refine ⟨hreached, fun bytes hbytes => ?_, fun next => ?_⟩
  · exact Buffer.utf8Size_content_le (hreached.limit_eq.trans hbytes)
  · refine ⟨(((fresh limit).after steps).step next).2, ?_, run_concat _ _ _⟩
    rw [after_concat]
    exact transition_step _ next

end AstHierarchy.Session
