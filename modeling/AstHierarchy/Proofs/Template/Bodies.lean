import AstHierarchy.Proofs.Outcome
import AstHierarchy.Proofs.Text.Lines
import AstHierarchy.Template.Bodies

/-!
# Dividing a template into sections

A text is divided into sections exactly when its markers come in pairs, and then the body of a
section is what stands between the two lines of its last pair. Otherwise the first marker that is
out of place is reported.

`Paired` and `Misplaced` say this of the markers alone. `Divides` says of the lines where the pairs
are and what is between them. Reading goes over lines that are divided as if they were not there,
apart from the bodies that it finds in them (`Divides.readBodies_append`); everything else here
follows from that, because every sequence of markers begins with pairs, and either ends with them
or goes on with a marker that is out of place (`paired_or_misplaced`).

* `bodiesOf_pairs` is the main result.
-/

namespace AstHierarchy

open Text

/-! ## Markers -/

/-- The markers among the lines, in order. -/
def markersIn (lines : List Text) : List Marker := lines.filterMap Marker.ofLine?

/-- The markers of the text of a template, in order. -/
def markersOf (source : Text) : List Marker := markersIn (source.splitOn '\n')

theorem markersIn_append (ls ms : List Text) :
    markersIn (ls ++ ms) = markersIn ls ++ markersIn ms := List.filterMap_append

theorem markersIn_eq_nil_iff {ls : List Text} :
    markersIn ls = [] ↔ ∀ l ∈ ls, Marker.ofLine? l = none := List.filterMap_eq_nil_iff

theorem markersIn_cons_of_eq_some {l : Text} {m : Marker} (h : Marker.ofLine? l = some m)
    (ls : List Text) : markersIn (l :: ls) = m :: markersIn ls := List.filterMap_cons_some h

/-- The markers are pairs, each of which opens a section and ends the same section. -/
inductive Paired : List Marker → Prop where
  /-- There is no marker. -/
  | nil : Paired []
  /-- A pair, and the pairs after it. -/
  | pair (s : Section) {rest : List Marker} (h : Paired rest) :
    Paired (.opening s.name :: .closing s.name :: rest)

/-- No section is open before these markers, and the first or the second one of them is out of
place, for the reason that the error gives. -/
inductive Misplaced : List Marker → TemplateError → Prop where
  /-- No section has the name. -/
  | unknown {name : Text} {rest : List Marker} (h : ∀ s : Section, s.name ≠ name) :
    Misplaced (.opening name :: rest) (.unknownSection name)
  /-- There is no section to end. -/
  | stray {name : Text} {rest : List Marker} :
    Misplaced (.closing name :: rest) (.straySectionEnd name)
  /-- The section is not the one that is open. -/
  | otherEnd {s : Section} {name : Text} {rest : List Marker} (h : name ≠ s.name) :
    Misplaced (.opening s.name :: .closing name :: rest) (.straySectionEnd name)
  /-- There is a section open already. -/
  | nested {s : Section} {inner : Text} {rest : List Marker} :
    Misplaced (.opening s.name :: .opening inner :: rest) (.nestedSection s inner)
  /-- The section that is open does not end. -/
  | unclosed {s : Section} : Misplaced [.opening s.name] (.unclosedSection s)

/-- The markers begin with pairs, and the marker that is out of place comes right after these. -/
def Breaks (markers : List Marker) (e : TemplateError) : Prop :=
  ∃ pairs rest, markers = pairs ++ rest ∧ Paired pairs ∧ Misplaced rest e

theorem Breaks.pair (s : Section) {rest : List Marker} {e : TemplateError} (h : Breaks rest e) :
    Breaks (.opening s.name :: .closing s.name :: rest) e := by
  obtain ⟨pairs, tail, rfl, hpairs, htail⟩ := h
  exact ⟨_, tail, rfl, hpairs.pair s, htail⟩

theorem Misplaced.breaks {markers : List Marker} {e : TemplateError} (h : Misplaced markers e) :
    Breaks markers e := ⟨[], markers, rfl, .nil, h⟩

/-- **Markers are pairs, or one of them is out of place.** -/
theorem paired_or_breaks : ∀ markers : List Marker, Paired markers ∨ ∃ e, Breaks markers e
  | [] => Or.inl .nil
  | .closing _ :: _ => Or.inr ⟨_, Misplaced.stray.breaks⟩
  | .opening name :: rest => by
    by_cases hname : ∃ s : Section, s.name = name
    · obtain ⟨s, rfl⟩ := hname
      match rest with
      | [] => exact Or.inr ⟨_, Misplaced.unclosed.breaks⟩
      | .opening _ :: _ => exact Or.inr ⟨_, Misplaced.nested.breaks⟩
      | .closing other :: rest =>
        by_cases hother : other = s.name
        · subst hother
          rcases paired_or_breaks rest with h | ⟨e, h⟩
          · exact Or.inl (h.pair s)
          · exact Or.inr ⟨e, h.pair s⟩
        · exact Or.inr ⟨_, (Misplaced.otherEnd hother).breaks⟩
    · exact Or.inr ⟨_, (Misplaced.unknown fun s hs => hname ⟨s, hs⟩).breaks⟩

/-- What stands before and after a pair is paired. -/
theorem Paired.of_append_pair {s : Section} {ms rest : List Marker}
    (h : Paired (ms ++ .opening s.name :: .closing s.name :: rest)) : Paired ms ∧ Paired rest := by
  generalize hall : ms ++ .opening s.name :: .closing s.name :: rest = all at h
  induction h generalizing ms with
  | nil => simp at hall
  | pair t h ih =>
    match ms with
    | [] =>
      obtain ⟨-, hrest⟩ := List.cons.inj hall
      rw [(List.cons.inj hrest).2]
      exact ⟨.nil, h⟩
    | [m] =>
      -- the marker that opens `s` would have to end `t`
      have h := (List.cons.inj (List.cons.inj hall).2).1
      cases h
    | m :: n :: ms =>
      obtain ⟨hopening, hall⟩ := List.cons.inj hall
      obtain ⟨hclosing, hall⟩ := List.cons.inj hall
      obtain ⟨hms, hrest⟩ := ih hall
      rw [hopening, hclosing]
      exact ⟨hms.pair t, hrest⟩

/-! ## Where the pairs are -/

/-- The lines are divided by pairs of markers, which hold these lines of these sections. -/
inductive Divides : List Text → List (Section × List Text) → Prop where
  /-- There is no marker. -/
  | outside {ls : List Text} (h : ∀ l ∈ ls, Marker.ofLine? l = none) : Divides ls []
  /-- A pair with lines before, in and after it. -/
  | pair {gap inner rest : List Text} {opening closing : Text} {s : Section}
    {ps : List (Section × List Text)} (hgap : ∀ l ∈ gap, Marker.ofLine? l = none)
    (hopening : Marker.ofLine? opening = some (.opening s.name))
    (hinner : ∀ l ∈ inner, Marker.ofLine? l = none)
    (hclosing : Marker.ofLine? closing = some (.closing s.name)) (h : Divides rest ps) :
    Divides (gap ++ opening :: (inner ++ closing :: rest)) ((s, inner) :: ps)

/-- Lines whose markers are pairs are divided. -/
theorem exists_divides {ls : List Text} (h : Paired (markersIn ls)) : ∃ ps, Divides ls ps := by
  generalize hms : markersIn ls = ms at h
  induction h generalizing ls with
  | nil => exact ⟨[], .outside (markersIn_eq_nil_iff.1 hms)⟩
  | pair s _ ih =>
    obtain ⟨gap, opening, ls, rfl, hgap, hopening, hms⟩ := List.filterMap_eq_cons_iff.1 hms
    obtain ⟨inner, closing, rest, rfl, hinner, hclosing, hms⟩ := List.filterMap_eq_cons_iff.1 hms
    obtain ⟨ps, hps⟩ := ih hms
    exact ⟨_, .pair hgap hopening hinner hclosing hps⟩

/-- The markers of a pair and of what stands before and after it. -/
theorem markersIn_pair {s : Section} {before inner after : List Text} {opening closing : Text}
    (hopening : Marker.ofLine? opening = some (.opening s.name))
    (hinner : ∀ l ∈ inner, Marker.ofLine? l = none)
    (hclosing : Marker.ofLine? closing = some (.closing s.name)) :
    markersIn (before ++ opening :: (inner ++ closing :: after)) =
      markersIn before ++ .opening s.name :: .closing s.name :: markersIn after := by
  rw [markersIn_append, markersIn_cons_of_eq_some hopening, markersIn_append,
    markersIn_eq_nil_iff.2 hinner, markersIn_cons_of_eq_some hclosing, List.nil_append]

/-- The markers of divided lines. -/
theorem Divides.markersIn_eq {ls : List Text} {ps : List (Section × List Text)}
    (h : Divides ls ps) :
    markersIn ls = ps.flatMap fun p => [.opening p.1.name, .closing p.1.name] := by
  induction h with
  | outside h => exact markersIn_eq_nil_iff.2 h
  | pair hgap hopening hinner hclosing _ ih =>
    rw [markersIn_pair hopening hinner hclosing, markersIn_eq_nil_iff.2 hgap, ih]
    rfl

theorem Section.name_injective {s t : Section} (h : s.name = t.name) : s = t := by
  rw [← Option.some_inj, ← Section.ofName?_name s, ← Section.ofName?_name t, h]

/-- A section is among those that the lines hold if a marker opens it. -/
theorem Divides.opening_mem_iff {ls : List Text} {ps : List (Section × List Text)}
    (h : Divides ls ps) (s : Section) :
    Marker.opening s.name ∈ markersIn ls ↔ ∃ p ∈ ps, p.1 = s := by
  rw [h.markersIn_eq, List.mem_flatMap]
  constructor
  · rintro ⟨p, hp, hmem⟩
    refine ⟨p, hp, Section.name_injective ?_⟩
    simpa [eq_comm] using hmem
  · rintro ⟨p, hp, rfl⟩
    exact ⟨p, hp, List.mem_cons_self⟩

theorem Divides.forall_ne_opening_iff {ls : List Text} {ps : List (Section × List Text)}
    (h : Divides ls ps) (s : Section) :
    (∀ l ∈ ls, Marker.ofLine? l ≠ some (.opening s.name)) ↔ ∀ p ∈ ps, p.1 ≠ s := by
  have hmem := h.opening_mem_iff s
  rw [markersIn, List.mem_filterMap] at hmem
  constructor
  · intro hls p hp heq
    obtain ⟨l, hl, hopening⟩ := hmem.2 ⟨p, hp, heq⟩
    exact hls l hl hopening
  · intro hps l hl hopening
    obtain ⟨p, hp, heq⟩ := hmem.1 ⟨l, hl, hopening⟩
    exact hps p hp heq

/-- A pair of divided lines has its place in them. -/
theorem Divides.exists_of_append_cons {ls : List Text} {ps qs : List (Section × List Text)}
    {s : Section} {inner : List Text} (h : Divides ls (ps ++ (s, inner) :: qs)) :
    ∃ before opening closing after, ls = before ++ opening :: (inner ++ closing :: after) ∧
      Marker.ofLine? opening = some (.opening s.name) ∧
      (∀ l ∈ inner, Marker.ofLine? l = none) ∧
      Marker.ofLine? closing = some (.closing s.name) ∧ Divides after qs := by
  induction ps generalizing ls with
  | nil =>
    cases h with
    | pair hgap hopening hinner hclosing h =>
      exact ⟨_, _, _, _, rfl, hopening, hinner, hclosing, h⟩
  | cons p ps ih =>
    cases h with
    | @pair gap inner' rest opening' closing' s' _ hgap hopening' hinner' hclosing' h =>
      obtain ⟨before, opening, closing, after, rfl, hopening, hinner, hclosing, hafter⟩ := ih h
      refine ⟨gap ++ opening' :: (inner' ++ closing' :: before), opening, closing, after, ?_,
        hopening, hinner, hclosing, hafter⟩
      simp

/-! ## Reading goes over the pairs -/

theorem readBodies_append_of_outside {gap : List Text} (h : ∀ l ∈ gap, Marker.ofLine? l = none)
    (rest : List Text) : readBodies none (gap ++ rest) = readBodies none rest := by
  induction gap with
  | nil => rfl
  | cons l gap ih =>
    rw [List.cons_append, readBodies, h l List.mem_cons_self]
    exact ih fun m hm => h m (List.mem_cons_of_mem l hm)

theorem readBodies_append_of_inside {s : Section} {inner : List Text}
    (h : ∀ l ∈ inner, Marker.ofLine? l = none) (passed rest : List Text) :
    readBodies (some (s, passed)) (inner ++ rest) =
      readBodies (some (s, inner.reverse ++ passed)) rest := by
  induction inner generalizing passed with
  | nil => rfl
  | cons l inner ih =>
    rw [List.cons_append, readBodies, h l List.mem_cons_self]
    simp only
    rw [ih fun m hm => h m (List.mem_cons_of_mem l hm), List.reverse_cons, List.append_assoc]
    rfl

/-- A marker opens a section. -/
theorem readBodies_cons_opening {l : Text} {s : Section}
    (h : Marker.ofLine? l = some (.opening s.name)) (rest : List Text) :
    readBodies none (l :: rest) = readBodies (some (s, [])) rest := by
  rw [readBodies, h]
  simp only [Section.ofName?_name]

/-- A pair is read as one body. -/
theorem readBodies_pair {s : Section} {opening closing : Text} {inner : List Text}
    (hopening : Marker.ofLine? opening = some (.opening s.name))
    (hinner : ∀ l ∈ inner, Marker.ofLine? l = none)
    (hclosing : Marker.ofLine? closing = some (.closing s.name)) (rest : List Text) :
    readBodies none (opening :: (inner ++ closing :: rest)) =
      (readBodies none rest).map ((s, sectionBody inner) :: ·) := by
  rw [readBodies_cons_opening hopening, readBodies_append_of_inside hinner, readBodies, hclosing]
  simp

/-- **Reading goes over divided lines** and finds the bodies of their sections. -/
theorem Divides.readBodies_append {ls : List Text} {ps : List (Section × List Text)}
    (h : Divides ls ps) (rest : List Text) :
    readBodies none (ls ++ rest) =
      (readBodies none rest).map (ps.map (Prod.map id sectionBody) ++ ·) := by
  induction h with
  | outside h =>
    rw [readBodies_append_of_outside h]
    cases readBodies none rest <;> rfl
  | pair hgap hopening hinner hclosing _ ih =>
    rw [List.append_assoc, readBodies_append_of_outside hgap, List.cons_append, List.append_assoc,
      List.cons_append, readBodies_pair hopening hinner hclosing, ih]
    cases readBodies none rest <;> rfl

theorem Divides.readBodies_eq {ls : List Text} {ps : List (Section × List Text)}
    (h : Divides ls ps) : readBodies none ls = .ok (ps.map (Prod.map id sectionBody)) := by
  have hread := h.readBodies_append []
  rwa [List.append_nil, readBodies, map_ok, List.append_nil] at hread

/-- A marker out of place is reported. -/
theorem readBodies_of_misplaced {ls : List Text} {e : TemplateError}
    (h : Misplaced (markersIn ls) e) : readBodies none ls = .error e := by
  generalize hms : markersIn ls = ms at h
  -- the lines before the first marker, and in the last three cases those before the second one
  cases h with
  | @unknown name _ hname =>
    obtain ⟨gap, l, rest, rfl, hgap, hl, -⟩ := List.filterMap_eq_cons_iff.1 hms
    have hnone : Section.ofName? name = none := by
      cases hs : Section.ofName? name with
      | none => rfl
      | some s => exact absurd (Section.name_of_ofName? hs) (hname s)
    rw [readBodies_append_of_outside hgap, readBodies, hl]
    simp only [hnone]
  | stray =>
    obtain ⟨gap, l, rest, rfl, hgap, hl, -⟩ := List.filterMap_eq_cons_iff.1 hms
    rw [readBodies_append_of_outside hgap, readBodies, hl]
  | otherEnd hname =>
    obtain ⟨gap, l, ls, rfl, hgap, hl, hms⟩ := List.filterMap_eq_cons_iff.1 hms
    obtain ⟨inner, m, rest, rfl, hinner, hm, -⟩ := List.filterMap_eq_cons_iff.1 hms
    rw [readBodies_append_of_outside hgap, readBodies_cons_opening hl,
      readBodies_append_of_inside hinner, readBodies, hm]
    exact if_neg hname
  | nested =>
    obtain ⟨gap, l, ls, rfl, hgap, hl, hms⟩ := List.filterMap_eq_cons_iff.1 hms
    obtain ⟨inner, m, rest, rfl, hinner, hm, -⟩ := List.filterMap_eq_cons_iff.1 hms
    rw [readBodies_append_of_outside hgap, readBodies_cons_opening hl,
      readBodies_append_of_inside hinner, readBodies, hm]
  | unclosed =>
    obtain ⟨gap, l, inner, rfl, hgap, hl, hms⟩ := List.filterMap_eq_cons_iff.1 hms
    have hinner : ∀ m ∈ inner, Marker.ofLine? m = none := List.filterMap_eq_nil_iff.1 hms
    rw [readBodies_append_of_outside hgap, readBodies_cons_opening hl, ← List.append_nil inner,
      readBodies_append_of_inside hinner, readBodies]

theorem readBodies_of_breaks {ls : List Text} {e : TemplateError} (h : Breaks (markersIn ls) e) :
    readBodies none ls = .error e := by
  obtain ⟨pairs, rest, hms, hpairs, hrest⟩ := h
  obtain ⟨before, after, rfl, rfl, rfl⟩ := List.filterMap_eq_append_iff.1 hms
  obtain ⟨ps, hps⟩ := exists_divides hpairs
  rw [hps.readBodies_append, readBodies_of_misplaced hrest]
  rfl

theorem exists_readBodies_iff (ls : List Text) :
    (∃ bodies, readBodies none ls = .ok bodies) ↔ Paired (markersIn ls) := by
  constructor
  · rintro ⟨bodies, h⟩
    rcases paired_or_breaks (markersIn ls) with hpaired | ⟨e, hbreaks⟩
    · exact hpaired
    · rw [readBodies_of_breaks hbreaks] at h
      cases h
  · intro h
    obtain ⟨ps, hps⟩ := exists_divides h
    exact ⟨_, hps.readBodies_eq⟩

/-- **When a text is divided into sections.** -/
theorem exists_bodiesOf_iff (source : Text) :
    (∃ bodies, bodiesOf source = .ok bodies) ↔ Paired (markersOf source) :=
  exists_readBodies_iff (source.splitOn '\n')

/-- **What is reported** of a text that is not. -/
theorem bodiesOf_eq_error_iff (source : Text) (e : TemplateError) :
    bodiesOf source = .error e ↔ Breaks (markersOf source) e := by
  refine ⟨fun h => ?_, readBodies_of_breaks⟩
  rcases paired_or_breaks (markersOf source) with hpaired | ⟨e', hbreaks⟩
  · obtain ⟨bodies, hok⟩ := (exists_bodiesOf_iff source).2 hpaired
    rw [hok] at h
    cases h
  · have herror : bodiesOf source = .error e' := readBodies_of_breaks hbreaks
    rw [herror] at h
    rwa [← Except.error.inj h]

/-! ## Bodies -/

/-- The body that counts is that of the last section with the name. -/
theorem lastBody?_eq_some_iff {bodies : List (Section × Text)} {s : Section} {body : Text} :
    lastBody? bodies s = some body ↔
      ∃ before after, bodies = before ++ (s, body) :: after ∧ ∀ b ∈ after, b.1 ≠ s := by
  rw [lastBody?, List.lookup_eq_some_iff]
  constructor
  · rintro ⟨after, before, h, hafter⟩
    refine ⟨before.reverse, after.reverse, ?_, fun b hb => ?_⟩
    · rw [← List.reverse_reverse bodies, h]
      simp
    · have hne := hafter b (List.mem_reverse.1 hb)
      exact fun heq => (bne_iff_ne.1 hne) heq.symm
  · rintro ⟨before, after, rfl, hafter⟩
    refine ⟨after.reverse, before.reverse, by simp, fun b hb => bne_iff_ne.2 fun heq => ?_⟩
    exact hafter b (List.mem_reverse.1 hb) heq.symm

theorem lastBody?_eq_none_iff {bodies : List (Section × Text)} {s : Section} :
    lastBody? bodies s = none ↔ ∀ b ∈ bodies, b.1 ≠ s := by
  rw [lastBody?, List.lookup_eq_none_iff]
  constructor
  · intro h b hb heq
    exact bne_iff_ne.1 (h b (List.mem_reverse.2 hb)) heq.symm
  · intro h b hb
    exact bne_iff_ne.2 fun heq => h b (List.mem_reverse.1 hb) heq.symm

/-- A line break at the end of a text is stripped with those before it. -/
theorem strip_append_singleton {p : Char → Bool} {c : Char} (hc : p c) (t : Text) :
    strip p (t ++ [c]) = strip p t := by
  rw [strip, strip, List.dropWhile_append]
  split
  · rename_i hempty
    rw [List.isEmpty_iff.1 hempty, List.dropWhile_cons_of_pos hc, List.dropWhile_nil]
  · exact stripEnd_append_of_forall (List.forall_mem_singleton.2 hc) _

/-- The body of a section is made of all that stands between its two lines. -/
theorem sectionBody_eq (inner : List Text) :
    sectionBody inner = strip isLineBreak (unlines inner) := by
  by_cases h : inner = []
  · subst h
    rfl
  · rw [unlines_eq_intercalate_append h, strip_append_singleton rfl, sectionBody]

/-- `between` is the text strictly between the two marker lines of the last pair for the section. -/
def IsLastBetween (source : Text) (s : Section) (between : Text) : Prop :=
  ∃ (before : List Text) (opening : Text) (inner : List Text) (closing : Text) (after : List Text),
    source.splitOn '\n' = before ++ opening :: (inner ++ closing :: after) ∧
    source = unlines before ++ (opening ++ '\n' :: between) ++
      ['\n'].intercalate (closing :: after) ∧
    Marker.ofLine? opening = some (.opening s.name) ∧
    (∀ l ∈ inner, Marker.ofLine? l = none) ∧
    Marker.ofLine? closing = some (.closing s.name) ∧
    ∀ l ∈ after, Marker.ofLine? l ≠ some (.opening s.name)

/-- The text between two lines of a text. -/
theorem eq_unlines_append_of_splitOn {source : Text} {before inner after : List Text}
    {opening closing : Text}
    (h : source.splitOn '\n' = before ++ opening :: (inner ++ closing :: after)) :
    source = unlines before ++ (opening ++ '\n' :: unlines inner) ++
      ['\n'].intercalate (closing :: after) := by
  have hsource : ['\n'].intercalate (source.splitOn '\n') = source := List.intercalate_splitOn '\n'
  have hcons : opening :: (inner ++ closing :: after) = (opening :: inner) ++ closing :: after :=
    rfl
  rw [← hsource, h, intercalate_append_cons, hcons, intercalate_append_cons, unlines_cons]
  simp

/-- **The body of a section** is the text between the lines of its last pair, without the line
breaks at its ends. -/
theorem lastBody?_eq_some_iff_exists_between {source : Text} {bodies : List (Section × Text)}
    (h : bodiesOf source = .ok bodies) (s : Section) (body : Text) :
    lastBody? bodies s = some body ↔
      ∃ between, IsLastBetween source s between ∧ body = strip isLineBreak between := by
  have hpaired := (exists_bodiesOf_iff source).1 ⟨bodies, h⟩
  constructor
  · intro hbody
    obtain ⟨ps, hps⟩ := exists_divides hpaired
    obtain rfl : ps.map (Prod.map id sectionBody) = bodies :=
      Except.ok.inj (hps.readBodies_eq.symm.trans h)
    obtain ⟨firstBodies, lastBodies, hbodies, hlast⟩ := lastBody?_eq_some_iff.1 hbody
    obtain ⟨qs, rs, rfl, rfl, hrs⟩ := List.map_eq_append_iff.1 hbodies
    obtain ⟨⟨t, inner⟩, rs, rfl, hp, rfl⟩ := List.map_eq_cons_iff.1 hrs
    obtain ⟨rfl, rfl⟩ := Prod.mk.inj hp
    obtain ⟨before, opening, closing, after, hlines, hopening, hinner, hclosing, hafter⟩ :=
      hps.exists_of_append_cons
    refine ⟨unlines inner, ⟨before, opening, inner, closing, after, hlines,
      eq_unlines_append_of_splitOn hlines, hopening, hinner, hclosing, ?_⟩, sectionBody_eq inner⟩
    exact (hafter.forall_ne_opening_iff t).2 fun p hp =>
      hlast (Prod.map id sectionBody p) (List.mem_map_of_mem hp)
  · rintro ⟨between, ⟨before, opening, inner, closing, after, hlines, hsource, hopening, hinner,
      hclosing, hafter⟩, rfl⟩
    -- the text between the lines is determined by their place
    obtain rfl : unlines inner = between := by
      have hsame := (eq_unlines_append_of_splitOn hlines).symm.trans hsource
      have hsame := List.append_cancel_left (List.append_cancel_right hsame)
      exact (List.cons.inj (List.append_cancel_left hsame)).2
    rw [markersOf, hlines, markersIn_pair hopening hinner hclosing] at hpaired
    obtain ⟨qs, hqs⟩ := exists_divides hpaired.of_append_pair.1
    obtain ⟨rs, hrs⟩ := exists_divides hpaired.of_append_pair.2
    rw [bodiesOf, hlines, hqs.readBodies_append, readBodies_pair hopening hinner hclosing,
      hrs.readBodies_eq, sectionBody_eq] at h
    refine lastBody?_eq_some_iff.2 ⟨qs.map (Prod.map id sectionBody),
      rs.map (Prod.map id sectionBody), (Except.ok.inj h).symm, fun b hb => ?_⟩
    obtain ⟨p, hp, rfl⟩ := List.mem_map.1 hb
    exact (hrs.forall_ne_opening_iff s).1 hafter p hp

/-- A section has no body if no marker opens it. -/
theorem lastBody?_eq_none_iff_of_readBodies {ls : List Text} {bodies : List (Section × Text)}
    (h : readBodies none ls = .ok bodies) (s : Section) :
    lastBody? bodies s = none ↔ Marker.opening s.name ∉ markersIn ls := by
  obtain ⟨ps, hps⟩ := exists_divides ((exists_readBodies_iff ls).1 ⟨bodies, h⟩)
  obtain rfl : ps.map (Prod.map id sectionBody) = bodies :=
    Except.ok.inj (hps.readBodies_eq.symm.trans h)
  rw [lastBody?_eq_none_iff, hps.opening_mem_iff, List.forall_mem_map]
  simp only [Prod.map_fst, id_eq, ne_eq, not_exists, not_and]

theorem lastBody?_eq_none_iff_not_mem {source : Text} {bodies : List (Section × Text)}
    (h : bodiesOf source = .ok bodies) (s : Section) :
    lastBody? bodies s = none ↔ Marker.opening s.name ∉ markersOf source :=
  lastBody?_eq_none_iff_of_readBodies h s

/-- A line outside all pairs that is no marker can be left out. -/
theorem bodiesOf_intercalate_append {source : Text} {before after : List Text} {line : Text}
    (h : source.splitOn '\n' = before ++ line :: after) (hbefore : Paired (markersIn before))
    (hline : Marker.ofLine? line = none) :
    bodiesOf (['\n'].intercalate (before ++ after)) = bodiesOf source := by
  obtain ⟨ps, hps⟩ := exists_divides hbefore
  have hsource : bodiesOf source = readBodies none (before ++ after) := by
    rw [bodiesOf, h, hps.readBodies_append, hps.readBodies_append, readBodies, hline]
  rw [hsource]
  by_cases hne : before ++ after = []
  · -- no line at all is read like one empty line
    rw [hne]
    rfl
  · have hfeed : ∀ l ∈ before ++ after, '\n' ∉ l := by
      intro l hl
      refine not_mem_of_mem_splitOn (t := source) ?_
      rw [h]
      rcases List.mem_append.1 hl with hl | hl
      · exact List.mem_append_left _ hl
      · exact List.mem_append_right _ (List.mem_cons_of_mem line hl)
    rw [bodiesOf, List.splitOn_intercalate '\n' hfeed hne]

/-- **The bodies of a template's sections.** A text is divided into sections exactly when its
markers come in pairs. If they do not, the first one that is out of place is reported. If they do,
the body of a section is the text strictly between the lines of its last pair, without the line
breaks at its ends; a section without a pair has none, and a line outside all pairs might as well
not be there. -/
theorem bodiesOf_pairs (source : Text) :
    ((∃ bodies, bodiesOf source = .ok bodies) ↔ Paired (markersOf source)) ∧
    (∀ e, bodiesOf source = .error e ↔ Breaks (markersOf source) e) ∧
    (∀ bodies, bodiesOf source = .ok bodies → ∀ s : Section,
      (∀ body, lastBody? bodies s = some body ↔
        ∃ between, IsLastBetween source s between ∧ body = strip isLineBreak between) ∧
      (lastBody? bodies s = none ↔ Marker.opening s.name ∉ markersOf source)) ∧
    ∀ (before after : List Text) (line : Text), source.splitOn '\n' = before ++ line :: after →
      Paired (markersIn before) → Marker.ofLine? line = none →
      bodiesOf (['\n'].intercalate (before ++ after)) = bodiesOf source :=
  ⟨exists_bodiesOf_iff source, bodiesOf_eq_error_iff source,
    fun _ h s => ⟨lastBody?_eq_some_iff_exists_between h s, lastBody?_eq_none_iff_not_mem h s⟩,
    fun _ _ _ => bodiesOf_intercalate_append⟩

/-- A section that is given twice, with lines that end in different ways and blanks around the
markers. -/
def givenTwice : Text :=
  "#base\nold\n#end/base\nno marker\n  #base\r\n\r\nA %x%\r\n\n\t#end/base ".toList

theorem bodiesOf_pairs_givenTwice :
    bodiesOf givenTwice = .ok [(.base, "old".toList), (.base, "A %x%".toList)] ∧
    (∃ between, IsLastBetween givenTwice .base between ∧
      "A %x%".toList = strip isLineBreak between) ∧
    Marker.opening Section.node.name ∉ markersOf givenTwice ∧
    bodiesOf (['\n'].intercalate ["#base".toList, "old".toList, "#end/base".toList,
      "  #base\r".toList, ['\r'], "A %x%\r".toList, [], "\t#end/base ".toList]) =
      bodiesOf givenTwice := by
  have hread : bodiesOf givenTwice = .ok [(.base, "old".toList), (.base, "A %x%".toList)] := by
    rfl
  obtain ⟨-, -, hbodies, hlines⟩ := bodiesOf_pairs givenTwice
  refine ⟨hread, ((hbodies _ hread .base).1 _).1 rfl, (hbodies _ hread .node).2.1 rfl, ?_⟩
  exact hlines ["#base".toList, "old".toList, "#end/base".toList] _ "no marker".toList
    (by decide +kernel) (Paired.nil.pair .base) (by decide +kernel)

end AstHierarchy
