import AstHierarchy.Proofs.Grammar.RoundTrip

/-!
# Rejected grammar lines

Which lines declare a node type, and what is wrong with the others. A line is judged in three
stages: it needs a colon, something before the colon, and a list of fields after it. The first stage
that it fails is reported, and of a list the first piece that is no field.

`NodeType.Declares` and `NodeType.Rejects` say this of the characters of a line alone.
`NodeType.ofLine_classifies` is the main result: reading a line agrees with both.

A list is read piece by piece until one fails (`Field.ofTokens_eq_mapM`), so what is reported is
known from single pieces; and what the pieces are is known from how a list is put together.
-/

namespace AstHierarchy

open Text

/-! ## Lists -/

namespace Text

/-- The text is the list of the pieces, with a comma and a space between any two of them, and cannot
be divided further. -/
structure IsListOf (t : Text) (pieces : List Text) : Prop where
  ne_nil : pieces ≠ []
  joined : [',', ' '].intercalate pieces = t
  whole : ∀ p ∈ pieces, ¬ [',', ' '] <:+: p

/-- The pieces of a list are those between its separators. -/
theorem isListOf_iff {t : Text} {pieces : List Text} :
    t.IsListOf pieces ↔ splitOnPair ',' ' ' t = pieces := by
  constructor
  · rintro ⟨hne, rfl, hwhole⟩
    exact splitOnPair_intercalate (by decide) hne hwhole
  · rintro rfl
    exact ⟨splitOnPair_ne_nil _ _ t, intercalate_splitOnPair _ _ t,
      fun _ => not_infix_of_mem_splitOnPair⟩

end Text

/-! ## Fields -/

namespace Field

/-- The piece is a field: a word for the type, one space, and a word without commas for the name. -/
def IsFieldText (p : Text) : Prop :=
  ∃ type name : Text, p = type ++ ' ' :: name ∧ type.IsWord ∧ name.IsWord ∧ ',' ∉ name

theorem isFieldText_iff {p : Text} : IsFieldText p ↔ ∃ f, ofText? p = some f := by
  constructor
  · rintro ⟨type, name, rfl, htype, hname, hcomma⟩
    exact ⟨⟨type, name⟩, ofText?_eq_some_iff.2 ⟨rfl, htype, hname, hcomma⟩⟩
  · rintro ⟨f, h⟩
    obtain ⟨rfl, hf⟩ := ofText?_eq_some_iff.1 h
    exact ⟨f.type, f.name, rfl, hf.type, hf.name, hf.comma_not_mem_name⟩

/-- The space between type and name is the only blank of a field. -/
theorem filter_isBlank_toText {f : Field} (h : f.IsReadable) :
    f.toText.filter isBlank = [' '] := by
  have hword : ∀ {w : Text}, w.IsWord → w.filter isBlank = [] := fun {w} hw =>
    List.filter_eq_nil_iff.2 fun c hc => by simp [hw.2 c hc]
  rw [toText, List.filter_append, hword h.type, List.filter_cons_of_pos (by decide), hword h.name,
    List.nil_append]

/-- A piece is the written form of one field only. -/
theorem toText_injective {f g : Field} (hf : f.IsReadable) (hg : g.IsReadable)
    (h : f.toText = g.toText) : f = g := by
  have hread := (ofText?_eq_some_iff.2 ⟨rfl, hf⟩).symm.trans
    (ofText?_eq_some_iff.2 ⟨h, hg⟩)
  exact Option.some.inj hread

/-- The field that a piece declares, or the error of the line that it is a piece of. -/
def ofToken (line token : Text) : Except GrammarError Field :=
  match ofText? token with
  | some f => .ok f
  | none => .error (.malformedField line token)

theorem exists_ofToken_eq_ok_iff {line p : Text} :
    (∃ f, ofToken line p = .ok f) ↔ IsFieldText p := by
  rw [isFieldText_iff, ofToken]
  cases ofText? p with
  | none => simp
  | some f => simp

theorem ofToken_eq_error_iff {line p : Text} {e : GrammarError} :
    ofToken line p = .error e ↔ ¬ IsFieldText p ∧ e = .malformedField line p := by
  rw [isFieldText_iff, ofToken]
  cases ofText? p with
  | none => simp [eq_comm]
  | some f => simp

theorem ofTokens_eq_mapM (line : Text) (tokens : List Text) :
    ofTokens line tokens = tokens.mapM (ofToken line) := by
  induction tokens with
  | nil => rfl
  | cons token rest ih =>
    rw [ofTokens, List.mapM_cons, ← ih, ofToken]
    cases ofText? token with
    | none => rfl
    | some f => cases ofTokens line rest <;> rfl

/-- The first piece that is no field is reported. -/
theorem ofTokens_eq_error_iff {line : Text} {tokens : List Text} {e : GrammarError} :
    ofTokens line tokens = .error e ↔ ∃ passed token rest, tokens = passed ++ token :: rest ∧
      (∀ p ∈ passed, IsFieldText p) ∧ ¬ IsFieldText token ∧ e = .malformedField line token := by
  simp only [ofTokens_eq_mapM, mapM_eq_error_iff, exists_ofToken_eq_ok_iff, ofToken_eq_error_iff]

end Field

/-! ## Lines -/

/-- The same fault, found in another line. -/
def GrammarError.inLine (line : Text) : GrammarError → GrammarError
  | malformedLine _ => malformedLine line
  | emptyTypeName _ => emptyTypeName line
  | malformedField _ token => malformedField line token

namespace NodeType

/-- The line declares the node type. -/
inductive Declares : Text → NodeType → Prop where
  /-- There is nothing after the first colon, and the node type has no fields. -/
  | leaf {before after : Text} (hcolon : ':' ∉ before) (hname : ∃ c ∈ before, isBlank c = false)
    (hafter : trim after = []) : Declares (before ++ ':' :: after) ⟨trim before, []⟩
  /-- There is a list after the first colon, and every piece of it is a field. -/
  | listed {before after : Text} {pieces : List Text} {fields : List Field} (hcolon : ':' ∉ before)
    (hname : ∃ c ∈ before, isBlank c = false) (hafter : trim after ≠ [])
    (hlist : (trim after).IsListOf pieces) (hpieces : pieces = fields.map Field.toText)
    (hfields : ∀ f ∈ fields, f.IsReadable) :
    Declares (before ++ ':' :: after) ⟨trim before, fields⟩

/-- The line declares nothing, for the reason that the error gives. -/
inductive Rejects : Text → GrammarError → Prop where
  /-- There is no colon. -/
  | noColon {line : Text} (hcolon : ':' ∉ line) : Rejects line (.malformedLine line)
  /-- There are only blanks before the first colon, whatever is after it. -/
  | noName {before after : Text} (hcolon : ':' ∉ before) (hblank : ∀ c ∈ before, isBlank c) :
    Rejects (before ++ ':' :: after) (.emptyTypeName (before ++ ':' :: after))
  /-- There is a list after the first colon, and `token` is its first piece that is no field. -/
  | noField {before after token : Text} {passed rest : List Text} (hcolon : ':' ∉ before)
    (hname : ∃ c ∈ before, isBlank c = false) (hafter : trim after ≠ [])
    (hlist : (trim after).IsListOf (passed ++ token :: rest))
    (hpassed : ∀ p ∈ passed, Field.IsFieldText p) (htoken : ¬ Field.IsFieldText token) :
    Rejects (before ++ ':' :: after) (.malformedField (before ++ ':' :: after) token)

/-- A line with a colon and a name before it is judged by its list. -/
theorem ofLine_eq_of_name {before after : Text} (hcolon : ':' ∉ before)
    (hname : ∃ c ∈ before, isBlank c = false) :
    ofLine (before ++ ':' :: after) =
      (Field.ofList (before ++ ':' :: after) (trim after)).map fun fields =>
        ⟨trim before, fields⟩ := by
  have hcut : cutAt ':' (before ++ ':' :: after) = some (before, after) :=
    cutAt_eq_some_iff.2 ⟨rfl, hcolon⟩
  have hne : ¬ (trim before).isEmpty = true := by
    rw [List.isEmpty_iff, trim_eq_nil_iff]
    obtain ⟨c, hc, hblank⟩ := hname
    intro hall
    rw [hall c hc] at hblank
    cases hblank
  rw [ofLine, hcut]
  exact if_neg hne

theorem Declares.ofLine_eq {line : Text} {t : NodeType} (h : Declares line t) :
    ofLine line = .ok t := by
  cases h with
  | leaf hcolon hname hafter =>
    rw [ofLine_eq_of_name hcolon hname, hafter]
    rfl
  | listed hcolon hname hafter hlist hpieces hfields =>
    rw [ofLine_eq_of_name hcolon hname, Field.ofList, if_neg (by simpa using hafter),
      isListOf_iff.1 hlist, Field.ofTokens_eq_ok_iff.2 ⟨hpieces, hfields⟩]
    rfl

theorem Rejects.ofLine_eq {line : Text} {e : GrammarError} (h : Rejects line e) :
    ofLine line = .error e := by
  cases h with
  | noColon hcolon => rw [ofLine, cutAt_eq_none_iff.2 hcolon]
  | noName hcolon hblank =>
    rw [ofLine, cutAt_eq_some_iff.2 ⟨rfl, hcolon⟩]
    exact if_pos (List.isEmpty_iff.2 (trim_eq_nil_iff.2 hblank))
  | noField hcolon hname hafter hlist hpassed htoken =>
    rw [ofLine_eq_of_name hcolon hname, Field.ofList, if_neg (by simpa using hafter),
      isListOf_iff.1 hlist,
      Field.ofTokens_eq_error_iff.2 ⟨_, _, _, rfl, hpassed, htoken, rfl⟩]
    rfl

/-- **Every line is judged**: it declares a node type, or it is rejected. -/
theorem declares_or_rejects (line : Text) :
    (∃ t, Declares line t) ∨ ∃ e, Rejects line e := by
  cases hcut : cutAt ':' line with
  | none => exact Or.inr ⟨_, .noColon (cutAt_eq_none_iff.1 hcut)⟩
  | some sides =>
    obtain ⟨rfl, hcolon⟩ := cutAt_eq_some_iff.1 hcut
    by_cases hblank : ∀ c ∈ sides.1, isBlank c
    · exact Or.inr ⟨_, .noName hcolon hblank⟩
    · have hname : ∃ c ∈ sides.1, isBlank c = false := by simpa using hblank
      by_cases hafter : trim sides.2 = []
      · exact Or.inl ⟨_, .leaf hcolon hname hafter⟩
      · have hlist := isListOf_iff.2 (Eq.refl (splitOnPair ',' ' ' (trim sides.2)))
        cases hread : Field.ofTokens [] (splitOnPair ',' ' ' (trim sides.2)) with
        | ok fields =>
          obtain ⟨hpieces, hfields⟩ := Field.ofTokens_eq_ok_iff.1 hread
          exact Or.inl ⟨_, .listed hcolon hname hafter hlist hpieces hfields⟩
        | error e =>
          obtain ⟨passed, token, rest, hpieces, hpassed, htoken, -⟩ :=
            Field.ofTokens_eq_error_iff.1 hread
          rw [hpieces] at hlist
          exact Or.inr ⟨_, .noField hcolon hname hafter hlist hpassed htoken⟩

theorem ofLine_eq_ok_iff_declares {line : Text} {t : NodeType} :
    ofLine line = .ok t ↔ Declares line t := by
  refine ⟨fun h => ?_, Declares.ofLine_eq⟩
  rcases declares_or_rejects line with ⟨t', ht'⟩ | ⟨e, he⟩
  · obtain rfl : t' = t := Except.ok.inj (ht'.ofLine_eq.symm.trans h)
    exact ht'
  · rw [he.ofLine_eq] at h
    cases h

theorem ofLine_eq_error_iff {line : Text} {e : GrammarError} :
    ofLine line = .error e ↔ Rejects line e := by
  refine ⟨fun h => ?_, Rejects.ofLine_eq⟩
  rcases declares_or_rejects line with ⟨t, ht⟩ | ⟨e', he'⟩
  · rw [ht.ofLine_eq] at h
    cases h
  · obtain rfl : e' = e := Except.error.inj (he'.ofLine_eq.symm.trans h)
    exact he'

/-! ## Blanks at the ends of a line -/

section Blanks

variable {line front back : Text}

theorem colon_not_mem_of_blank {blanks : Text} (h : ∀ c ∈ blanks, isBlank c) : ':' ∉ blanks :=
  fun hmem => absurd (h ':' hmem) (by decide)

theorem colon_not_mem_append {before : Text} (hfront : ∀ c ∈ front, isBlank c)
    (hcolon : ':' ∉ before) : ':' ∉ front ++ before := by
  rw [List.mem_append, not_or]
  exact ⟨colon_not_mem_of_blank hfront, hcolon⟩

theorem append_sides (before after : Text) :
    front ++ (before ++ ':' :: after ++ back) = (front ++ before) ++ ':' :: (after ++ back) := by
  simp

theorem Declares.append_blanks {t : NodeType} (h : Declares line t)
    (hfront : ∀ c ∈ front, isBlank c) (hback : ∀ c ∈ back, isBlank c) :
    Declares (front ++ (line ++ back)) t := by
  cases h with
  | @leaf before after hcolon hname hafter =>
    obtain ⟨c, hc, hblank⟩ := hname
    rw [append_sides, ← trim_blanks_append hfront before]
    exact .leaf (colon_not_mem_append hfront hcolon) ⟨c, List.mem_append_right front hc, hblank⟩
      ((trim_append_blanks hback after).trans hafter)
  | @listed before after pieces fields hcolon hname hafter hlist hpieces hfields =>
    obtain ⟨c, hc, hblank⟩ := hname
    rw [append_sides, ← trim_blanks_append hfront before]
    rw [← trim_append_blanks hback after] at hafter hlist
    exact .listed (colon_not_mem_append hfront hcolon) ⟨c, List.mem_append_right front hc, hblank⟩
      hafter hlist hpieces hfields

theorem Rejects.append_blanks {e : GrammarError} (h : Rejects line e)
    (hfront : ∀ c ∈ front, isBlank c) (hback : ∀ c ∈ back, isBlank c) :
    Rejects (front ++ (line ++ back)) (e.inLine (front ++ (line ++ back))) := by
  cases h with
  | noColon hcolon =>
    refine .noColon ?_
    simp only [List.mem_append, not_or]
    exact ⟨colon_not_mem_of_blank hfront, hcolon, colon_not_mem_of_blank hback⟩
  | @noName before after hcolon hblank =>
    rw [append_sides]
    exact .noName (colon_not_mem_append hfront hcolon) (List.forall_mem_append.2 ⟨hfront, hblank⟩)
  | @noField before after token passed rest hcolon hname hafter hlist hpassed htoken =>
    obtain ⟨c, hc, hblank⟩ := hname
    rw [append_sides]
    rw [← trim_append_blanks hback after] at hafter hlist
    exact .noField (colon_not_mem_append hfront hcolon) ⟨c, List.mem_append_right front hc, hblank⟩
      hafter hlist hpassed htoken

/-- Blanks at the ends of a line change nothing but the line that an error shows. -/
theorem ofLine_append_blanks (line : Text) (hfront : ∀ c ∈ front, isBlank c)
    (hback : ∀ c ∈ back, isBlank c) :
    ofLine (front ++ (line ++ back)) =
      (ofLine line).mapError (GrammarError.inLine (front ++ (line ++ back))) := by
  rcases declares_or_rejects line with ⟨t, ht⟩ | ⟨e, he⟩
  · rw [ht.ofLine_eq, (ht.append_blanks hfront hback).ofLine_eq]
    rfl
  · rw [he.ofLine_eq, (he.append_blanks hfront hback).ofLine_eq]
    rfl

end Blanks

/-- **What a line declares, and why another one declares nothing.** A line is read as a node type
exactly when it declares that node type, and rejected exactly for the reason that it is wrong. The
pieces of its list are the written forms of fields in one way only, since the space between type and
name is the only blank of a piece. Blanks put around a line change nothing but the line that an
error shows. -/
theorem ofLine_classifies (line : Text) :
    (∀ t, ofLine line = .ok t ↔ Declares line t) ∧
    (∀ e, ofLine line = .error e ↔ Rejects line e) ∧
    (∀ p, Field.IsFieldText p → p.filter isBlank = [' '] ∧
      ∃! f : Field, p = f.toText ∧ f.IsReadable) ∧
    ∀ front back : Text, (∀ c ∈ front, isBlank c) → (∀ c ∈ back, isBlank c) →
      ofLine (front ++ (line ++ back)) =
        (ofLine line).mapError (GrammarError.inLine (front ++ (line ++ back))) := by
  refine ⟨fun t => ofLine_eq_ok_iff_declares, fun e => ofLine_eq_error_iff, fun p hp => ?_,
    fun front back => ofLine_append_blanks line⟩
  obtain ⟨f, hf⟩ := Field.isFieldText_iff.1 hp
  obtain ⟨rfl, hreadable⟩ := Field.ofText?_eq_some_iff.1 hf
  refine ⟨Field.filter_isBlank_toText hreadable, f, ⟨rfl, hreadable⟩, ?_⟩
  rintro g ⟨hg, hgreadable⟩
  exact Field.toText_injective hgreadable hreadable hg.symm

/-- A type with a comma and a space in it, which divide the list, and two spaces in a later piece. -/
def dividedType : Text := "Pair : Map<K, V> m, T  n".toList

theorem ofLine_classifies_dividedType :
    Rejects dividedType (.malformedField dividedType "Map<K".toList) ∧
    ofLine ("\u3000".toList ++ (dividedType ++ "\r".toList)) =
      .error (.malformedField "\u3000Pair : Map<K, V> m, T  n\r".toList "Map<K".toList) ∧
    Declares "Pair:,Map<K,V>: m, T n\t".toList
      ⟨"Pair".toList, [⟨",Map<K,V>:".toList, ['m']⟩, ⟨['T'], ['n']⟩]⟩ ∧
    ∃! f : Field, "T n".toList = f.toText ∧ f.IsReadable := by
  obtain ⟨-, hrejects, hpiece, hblanks⟩ := ofLine_classifies dividedType
  have hread : ofLine dividedType = .error (.malformedField dividedType "Map<K".toList) := by rfl
  refine ⟨(hrejects _).1 hread, ?_, ((ofLine_classifies _).1 _).1 (by rfl), (hpiece _ ?_).2⟩
  · rw [hblanks "\u3000".toList "\r".toList (List.forall_mem_singleton.2 rfl)
      (List.forall_mem_singleton.2 rfl), hread]
    rfl
  · exact ⟨['T'], ['n'], rfl, by decide, by decide, by decide⟩

end NodeType

end AstHierarchy
