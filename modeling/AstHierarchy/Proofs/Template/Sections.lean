import AstHierarchy.Proofs.Template.Bodies
import AstHierarchy.Template.Basic
import Mathlib.Data.List.Basic
import Mathlib.Logic.Relation

/-!
# Compiling the sections of a template

A template is compiled from the bodies that count, which are those of the last pair for each
section. Nothing else in its text makes a difference: the order in which different sections are
given, lines outside of them and bodies that are given again later can be changed at will.

* `build_eq_error_iff` says in which order sections fail.
* `Edit` lists the changes. Each of them rearranges bodies, or changes one that does not count, and
  reading goes over what stands before it either way (`Divides.readBodies_append`), so what is wrong
  with the rest of the lines is reported all the same (`Edit.agree`).
* `Template.read_last_bodies` is the main result.
-/

namespace AstHierarchy

open Text

/-! ## The order in which sections fail -/

namespace Template

/-- Building a template goes through all sections in order. -/
theorem map_span_build (f : Section → Except TemplateError Span) :
    (build f).map (fun t => Section.all.map t.span) = Section.all.mapM f := by
  show (fun t : Template => Section.all.map t.span) <$> build f = Section.all.mapM f
  simp only [build, Section.all, List.mapM_cons, List.mapM_nil, map_bind, map_pure, bind_assoc,
    pure_bind, List.map_cons, List.map_nil, span]

/-- **The first section that fails is reported.** -/
theorem build_eq_error_iff {f : Section → Except TemplateError Span} {e : TemplateError} :
    build f = .error e ↔ ∃ earlier s later, Section.all = earlier ++ s :: later ∧
      (∀ u ∈ earlier, ∃ span, f u = .ok span) ∧ f s = .error e := by
  rw [← mapM_eq_error_iff, ← map_span_build, map_eq_error_iff]

theorem exists_build_eq_ok_iff {f : Section → Except TemplateError Span} :
    (∃ t, build f = .ok t) ↔ ∀ s, ∃ span, f s = .ok span := by
  rw [← exists_map_eq_ok_iff, map_span_build, exists_mapM_eq_ok_iff]
  exact ⟨fun h s => h s s.mem_all, fun h s _ => h s⟩

end Template

/-! ## Sections and their bodies in the text -/

/-- The body of the section is this text: what stands strictly between the lines of its last pair,
without the line breaks at its ends. -/
def HasBody (source : Text) (s : Section) (body : Text) : Prop :=
  ∃ between, IsLastBetween source s between ∧ body = strip isLineBreak between

/-- What is wrong with the section alone: it is required and missing, or its body does not
compile. -/
def SectionFault (source : Text) (s : Section) (e : TemplateError) : Prop :=
  (s.isRequired ∧ (¬ ∃ body, HasBody source s body) ∧ e = .missingSection s) ∨
    ∃ body, HasBody source s body ∧ Span.read body = .error e

/-- Nothing is wrong with the section: it has a body that compiles, or it has none and may lack
it. -/
def SectionFits (source : Text) (s : Section) : Prop :=
  (∃ body span, HasBody source s body ∧ Span.read body = .ok span) ∨
    (¬ s.isRequired ∧ ¬ ∃ body, HasBody source s body)

section Bodies

variable {source : Text} {bodies : List (Section × Text)}

theorem hasBody_iff (h : bodiesOf source = .ok bodies) {s : Section} {body : Text} :
    HasBody source s body ↔ lastBody? bodies s = some body :=
  (lastBody?_eq_some_iff_exists_between h s body).symm

theorem not_exists_hasBody_iff (h : bodiesOf source = .ok bodies) {s : Section} :
    (¬ ∃ body, HasBody source s body) ↔ lastBody? bodies s = none := by
  simp only [hasBody_iff h, ← Option.isSome_iff_exists, Option.not_isSome_iff_eq_none]

/-- The span of a section is known from its body. -/
theorem readSection_eq_ok_iff (h : bodiesOf source = .ok bodies) {s : Section} {span : Span} :
    Template.readSection bodies s = .ok span ↔
      (∃ body, HasBody source s body ∧ Span.read body = .ok span) ∨
      (¬ s.isRequired ∧ (¬ ∃ body, HasBody source s body) ∧ span = []) := by
  rw [not_exists_hasBody_iff h, Template.readSection]
  simp only [hasBody_iff h]
  cases lastBody? bodies s with
  | some body => simp
  | none => cases s.isRequired <;> simp [eq_comm]

theorem HasBody.unique {s : Section} {body body' : Text} (h : bodiesOf source = .ok bodies)
    (hbody : HasBody source s body) (hbody' : HasBody source s body') : body = body' :=
  Option.some.inj (((hasBody_iff h).1 hbody).symm.trans ((hasBody_iff h).1 hbody'))

theorem exists_readSection_eq_ok_iff (h : bodiesOf source = .ok bodies) {s : Section} :
    (∃ span, Template.readSection bodies s = .ok span) ↔ SectionFits source s := by
  simp only [readSection_eq_ok_iff h, SectionFits]
  constructor
  · rintro ⟨span, ⟨body, hbody, hspan⟩ | ⟨hrequired, hnone, -⟩⟩
    · exact Or.inl ⟨body, span, hbody, hspan⟩
    · exact Or.inr ⟨hrequired, hnone⟩
  · rintro (⟨body, span, hbody, hspan⟩ | ⟨hrequired, hnone⟩)
    · exact ⟨span, Or.inl ⟨body, hbody, hspan⟩⟩
    · exact ⟨[], Or.inr ⟨hrequired, hnone, rfl⟩⟩

theorem isRequired_iff (s : Section) :
    s.isRequired ↔ s ∈ [Section.base, .visitor, .visitMethod, .node] := by
  cases s <;> decide

/-- Nothing is wrong with any section. -/
theorem forall_sectionFits_iff (h : bodiesOf source = .ok bodies) :
    (∀ s, SectionFits source s) ↔
      (∀ s ∈ [Section.base, .visitor, .visitMethod, .node], ∃ body, HasBody source s body) ∧
      ∀ s body, HasBody source s body → ∃ span, Span.read body = .ok span := by
  constructor
  · intro hall
    refine ⟨fun s hs => ?_, fun s body hbody => ?_⟩
    · rcases hall s with ⟨body, span, hbody, -⟩ | ⟨hrequired, -⟩
      · exact ⟨body, hbody⟩
      · exact absurd ((isRequired_iff s).2 hs) hrequired
    · rcases hall s with ⟨body', span, hbody', hspan⟩ | ⟨-, hnone⟩
      · rw [hbody.unique h hbody']
        exact ⟨span, hspan⟩
      · exact absurd ⟨body, hbody⟩ hnone
  · rintro ⟨hpresent, hcompiles⟩ s
    by_cases hbody : ∃ body, HasBody source s body
    · obtain ⟨body, hbody⟩ := hbody
      obtain ⟨span, hspan⟩ := hcompiles s body hbody
      exact Or.inl ⟨body, span, hbody, hspan⟩
    · exact Or.inr ⟨fun hrequired => hbody (hpresent s ((isRequired_iff s).1 hrequired)), hbody⟩

theorem readSection_eq_error_iff (h : bodiesOf source = .ok bodies) {s : Section}
    {e : TemplateError} :
    Template.readSection bodies s = .error e ↔ SectionFault source s e := by
  rw [SectionFault, not_exists_hasBody_iff h, Template.readSection]
  simp only [hasBody_iff h]
  cases lastBody? bodies s with
  | some body => simp
  | none => cases s.isRequired <;> simp [eq_comm]

end Bodies

/-! ## Changes that make no difference -/

/-- The lines are a pair of markers for the section and lines between them that are no markers. -/
inductive IsPair (s : Section) : List Text → Prop where
  | mk {opening closing : Text} {inner : List Text}
    (hopening : Marker.ofLine? opening = some (.opening s.name))
    (hinner : ∀ l ∈ inner, Marker.ofLine? l = none)
    (hclosing : Marker.ofLine? closing = some (.closing s.name)) :
    IsPair s (opening :: (inner ++ [closing]))

/-- One change to the lines of a template. -/
inductive Edit : List Text → List Text → Prop where
  /-- Two different sections change places. -/
  | move {before first gap second after : List Text} {s t : Section}
    (hbefore : Paired (markersIn before)) (hfirst : IsPair s first) (hsecond : IsPair t second)
    (hne : s ≠ t) (hgap : ∀ l ∈ gap, Marker.ofLine? l = none) :
    Edit (before ++ (first ++ (gap ++ (second ++ after))))
      (before ++ (second ++ (gap ++ (first ++ after))))
  /-- A line outside of all sections that is no marker comes in. -/
  | insert {before after : List Text} {line : Text} (hbefore : Paired (markersIn before))
    (hline : Marker.ofLine? line = none) : Edit (before ++ after) (before ++ line :: after)
  /-- A section that is given again later has another body. -/
  | supersede {before old new after : List Text} {s : Section} (hbefore : Paired (markersIn before))
    (hold : IsPair s old) (hnew : IsPair s new)
    (hlater : .opening s.name ∈ markersIn after) :
    Edit (before ++ (old ++ after)) (before ++ (new ++ after))

/-- Reading comes to the same twice: the bodies that count are the same, or the same is reported. -/
inductive Agree : Except TemplateError (List (Section × Text)) →
    Except TemplateError (List (Section × Text)) → Prop where
  | error (e : TemplateError) : Agree (.error e) (.error e)
  | ok {bs bs' : List (Section × Text)} (h : ∀ s, lastBody? bs s = lastBody? bs' s) :
    Agree (.ok bs) (.ok bs')

theorem Agree.refl (x : Except TemplateError (List (Section × Text))) : Agree x x := by
  cases x with
  | error e => exact .error e
  | ok bs => exact .ok fun _ => rfl

/-- A body counts unless there is a later one. -/
theorem lastBody?_append (bs cs : List (Section × Text)) (s : Section) :
    lastBody? (bs ++ cs) s = (lastBody? cs s).or (lastBody? bs s) := by
  rw [lastBody?, List.reverse_append, List.lookup_append]
  rfl

theorem lastBody?_singleton_of_ne {s u : Section} (h : s ≠ u) (b : Text) :
    lastBody? [(s, b)] u = none :=
  lastBody?_eq_none_iff.2 (List.forall_mem_singleton.2 h)

/-- Reading goes over a pair and finds one body. -/
theorem IsPair.exists_readBodies_append {s : Section} {ls : List Text} (h : IsPair s ls) :
    ∃ body, ∀ rest, readBodies none (ls ++ rest) = (readBodies none rest).map ([(s, body)] ++ ·) := by
  cases h with
  | @mk opening closing inner hopening hinner hclosing =>
    refine ⟨sectionBody inner, fun rest => ?_⟩
    have hpair := readBodies_pair hopening hinner hclosing rest
    have htext : opening :: (inner ++ [closing]) ++ rest = opening :: (inner ++ closing :: rest) := by
      simp
    rw [htext, hpair]
    rfl

/-- **A change makes no difference** to the bodies that count, nor to what is reported. -/
theorem Edit.agree {ls ls' : List Text} (h : Edit ls ls') :
    Agree (readBodies none ls) (readBodies none ls') := by
  cases h with
  | @move before first gap second after s t hbefore hfirst hsecond hne hgap =>
    obtain ⟨ps, hps⟩ := exists_divides hbefore
    obtain ⟨b, hb⟩ := hfirst.exists_readBodies_append
    obtain ⟨c, hc⟩ := hsecond.exists_readBodies_append
    simp only [hps.readBodies_append, hb, hc, readBodies_append_of_outside hgap]
    cases readBodies none after with
    | error e => exact .error e
    | ok bs =>
      refine .ok fun u => ?_
      simp only [← List.append_assoc, lastBody?_append]
      -- one of the two has no body for this section
      by_cases hu : s = u
      · rw [lastBody?_singleton_of_ne (hu ▸ hne.symm) c, Option.none_or, Option.none_or]
      · rw [lastBody?_singleton_of_ne hu b, Option.none_or, Option.none_or]
  | @insert before after line hbefore hline =>
    obtain ⟨ps, hps⟩ := exists_divides hbefore
    rw [hps.readBodies_append, hps.readBodies_append, readBodies, hline]
    exact .refl _
  | @supersede before old new after s hbefore hold hnew hlater =>
    obtain ⟨ps, hps⟩ := exists_divides hbefore
    obtain ⟨b, hb⟩ := hold.exists_readBodies_append
    obtain ⟨c, hc⟩ := hnew.exists_readBodies_append
    simp only [hps.readBodies_append, hb, hc]
    cases hafter : readBodies none after with
    | error e => exact .error e
    | ok bs =>
      refine .ok fun u => ?_
      simp only [lastBody?_append]
      by_cases hu : s = u
      · subst hu
        -- the later body counts
        have hsome : lastBody? bs s ≠ none := fun hnone =>
          (lastBody?_eq_none_iff_of_readBodies hafter s).1 hnone hlater
        obtain ⟨body, hbody⟩ := Option.ne_none_iff_exists'.1 hsome
        simp only [hbody, Option.some_or]
      · rw [lastBody?_singleton_of_ne hu b, lastBody?_singleton_of_ne hu c]

namespace Template

/-- One change to the text of a template. -/
def Edits (source source' : Text) : Prop := Edit (source.splitOn '\n') (source'.splitOn '\n')

/-- A template is compiled from the bodies that count. -/
theorem read_eq_of_agree {source source' : Text} (h : Agree (bodiesOf source) (bodiesOf source')) :
    read source = read source' := by
  rw [read, read]
  generalize bodiesOf source = x, bodiesOf source' = y at h
  cases h with
  | error e => rfl
  | @ok bs bs' h =>
    have hsections : readSection bs = readSection bs' := by
      funext s
      rw [readSection, readSection, h s]
    rw [ok_bind, ok_bind, hsections]

/-- **A template is compiled from the last body of each section**, in a fixed order. That its
sections do not come in pairs is reported before anything else. If they do, it compiles exactly when
the four required sections are there and the last body of every section compiles; the spans are
those of these bodies, and an optional section that is missing has an empty one. Otherwise the
first section that something is wrong with is reported. Different sections can change places, lines
outside of them can come and go, and a body that is given again later can be any other, and the
result is the same. -/
theorem read_last_bodies (source : Text) :
    (∀ e, Breaks (markersOf source) e → read source = .error e) ∧
    (Paired (markersOf source) →
      ((∃ t, read source = .ok t) ↔
        (∀ s ∈ [Section.base, .visitor, .visitMethod, .node], ∃ body, HasBody source s body) ∧
        ∀ s body, HasBody source s body → ∃ span, Span.read body = .ok span) ∧
      (∀ t, read source = .ok t → ∀ s,
        (∀ body, HasBody source s body → Span.read body = .ok (t.span s)) ∧
        ((¬ ∃ body, HasBody source s body) → t.span s = [])) ∧
      ∀ e, read source = .error e ↔ ∃ earlier s later,
        [.preamble, .base, .visitor, .visitMethod, .node, .field, .param, .init] =
          earlier ++ s :: later ∧
        (∀ u ∈ earlier, SectionFits source u) ∧ SectionFault source s e) ∧
    ∀ source', Relation.EqvGen Edits source source' → read source' = read source := by
  refine ⟨fun e he => ?_, fun hpaired => ?_, fun source' h => ?_⟩
  · rw [read, (bodiesOf_eq_error_iff source e).2 he]
    rfl
  · obtain ⟨bodies, hbodies⟩ := (exists_bodiesOf_iff source).2 hpaired
    have hread : read source = build (readSection bodies) := by
      rw [read, hbodies]
      rfl
    rw [hread]
    refine ⟨?_, fun t ht s => ?_, fun e => ?_⟩
    · rw [exists_build_eq_ok_iff]
      simp only [exists_readSection_eq_ok_iff hbodies]
      exact forall_sectionFits_iff hbodies
    · rcases (readSection_eq_ok_iff hbodies).1 (build_eq_ok_iff.1 ht s) with
        ⟨body, hbody, hspan⟩ | ⟨-, hnone, hspan⟩
      · refine ⟨fun body' hbody' => ?_, fun hnone => absurd ⟨body, hbody⟩ hnone⟩
        rwa [hbody'.unique hbodies hbody]
      · exact ⟨fun body hbody => absurd ⟨body, hbody⟩ hnone, fun _ => hspan⟩
    · rw [build_eq_error_iff]
      simp only [exists_readSection_eq_ok_iff hbodies, readSection_eq_error_iff hbodies]
      rfl
  · induction h with
    | rel source source' h => exact (read_eq_of_agree h.agree).symm
    | refl source => rfl
    | symm source source' _ ih => exact ih.symm
    | trans source source' source'' _ _ ih ih' => exact ih'.trans ih

/-- The lines of the required sections. -/
def required : List Text :=
  ["#node", "N", "#end/node", "#base", "B", "#end/base", "#visitor", "V", "#end/visitor",
    "#visit_method", "M", "#end/visit_method"].map String.toList

/-- Lines that give the base type twice, the first time with this body. -/
def twice (body : Text) : List Text := "#base".toList :: body :: "#end/base".toList :: required

/-- A base type that does not compile and is given again later. -/
def halfBroken : Text := ['\n'].intercalate (twice "%x".toList)

/-- The same with another body in its place. -/
def mended : Text := ['\n'].intercalate (twice ['A'])

theorem edits_halfBroken_mended : Edits halfBroken mended := by
  rw [Edits, halfBroken, mended, List.splitOn_intercalate '\n' (by decide) (by decide),
    List.splitOn_intercalate '\n' (by decide) (by decide)]
  exact @Edit.supersede [] _ _ required .base .nil
    (@IsPair.mk .base "#base".toList "#end/base".toList ["%x".toList] (by decide) (by decide)
      (by decide))
    (@IsPair.mk .base "#base".toList "#end/base".toList [['A']] (by decide) (by decide)
      (by decide))
    (by decide)

theorem read_last_bodies_halfBroken :
    Paired (markersOf halfBroken) ∧
    (∀ s ∈ [Section.base, .visitor, .visitMethod, .node], ∃ body, HasBody halfBroken s body) ∧
    read mended = read halfBroken ∧
    (∃ earlier s later, [.preamble, .base, .visitor, .visitMethod, .node, .field, .param, .init] =
        earlier ++ s :: later ∧ (∀ u ∈ earlier, SectionFits "#base\n%x\n#end/base".toList u) ∧
      SectionFault "#base\n%x\n#end/base".toList s (.unterminatedVariable "%x".toList)) ∧
    read "#end/base".toList = .error (.straySectionEnd "base".toList) := by
  have hread : read halfBroken = .ok ⟨[], [.verbatim ['B']], [.verbatim ['V']],
      [.verbatim ['M']], [.verbatim ['N']], [], [], []⟩ := by decide +kernel
  have hpaired : Paired (markersOf halfBroken) := (exists_bodiesOf_iff _).1
    ⟨[(.base, "%x".toList), (.node, ['N']), (.base, ['B']), (.visitor, ['V']),
      (.visitMethod, ['M'])], by decide +kernel⟩
  have hpair : Paired (markersOf "#base\n%x\n#end/base".toList) := (exists_bodiesOf_iff _).1
    ⟨[(.base, "%x".toList)], by decide +kernel⟩
  obtain ⟨-, hsections, hedits⟩ := read_last_bodies halfBroken
  refine ⟨hpaired, ((hsections hpaired).1.1 ⟨_, hread⟩).1,
    hedits mended (.rel _ _ edits_halfBroken_mended), ?_, ?_⟩
  · exact (((read_last_bodies _).2.1 hpair).2.2 _).1 (by decide +kernel)
  · exact (read_last_bodies _).1 _ ⟨[], _, rfl, .nil, .stray⟩

end Template

end AstHierarchy
