import AstHierarchy.Proofs.Template.Line
import Mathlib.Logic.ExistsUnique

/-!
# Faulty template lines

Which template text compiles to a span, and what is reported of the other. After its blanks, a line
is a sequence of tokens: characters, escaped percent signs and references. A text whose lines do not
begin with too many blanks to be counted compiles exactly when every line of it is such a sequence.
Otherwise its first line that is none is reported, and what is wrong with it is known from the first
percent sign in it that begins no token.

* A token ends where its text says, whatever follows it (`LineToken.append_inj`). So a line is a
  sequence of tokens in one way only.
* Every line is a sequence of tokens, or is one up to a percent sign that begins none
  (`tokens_or_stop`). This is a fact about text, and its proof goes from token to token.
* Reading goes over tokens one by one as well, so that what comes of a line is decided where they
  end (`Span.exists_ofPieces_splitOn_eq_map`).
* `Span.compile_accepts_lines` is the main result, and `Span.compile_accepts_lines_deep` says why
  the blanks matter.
-/

namespace AstHierarchy

open Text

/-! ## Tokens -/

/-- What a template line consists of after its blanks. -/
inductive LineToken where
  /-- A character that stands for itself. -/
  | character (c : Char)
  /-- Two percent signs, which stand for one. -/
  | escape
  /-- A reference to a variable. -/
  | plain (name : Text)
  /-- A reference to a variable that is laid out as a list. -/
  | list (name : Text) (delimiter : Char) (flags : Text)
  deriving DecidableEq, Repr

namespace LineToken

/-- What stands between the percent signs of a reference. -/
def inner : LineToken → Text
  | character _ => []
  | escape => []
  | plain name => name
  | list name delimiter flags => name ++ '/' :: delimiter :: flags

/-- The token begins and ends with a percent sign. -/
def IsReference : LineToken → Prop
  | character _ => False
  | _ => True

/-- The text of the token. -/
def text : LineToken → Text
  | character c => [c]
  | t => '%' :: (t.inner ++ ['%'])

/-- The characters of the token are those that it may have. -/
def IsValid : LineToken → Prop
  | character c => c ≠ '%'
  | escape => True
  | plain name => name ≠ [] ∧ '%' ∉ name ∧ '/' ∉ name
  | list name delimiter flags =>
    '%' ∉ name ∧ '/' ∉ name ∧ delimiter ≠ '%' ∧ ∀ f ∈ flags, f = '+' ∨ f = '_'

/-- The text of tokens. -/
def textOf (tokens : List LineToken) : Text := tokens.flatMap text

@[simp] theorem textOf_nil : textOf [] = [] := rfl

@[simp] theorem textOf_cons (t : LineToken) (tokens : List LineToken) :
    textOf (t :: tokens) = t.text ++ textOf tokens := List.flatMap_cons

theorem textOf_append (ts us : List LineToken) : textOf (ts ++ us) = textOf ts ++ textOf us :=
  List.flatMap_append

theorem text_eq_of_isReference {t : LineToken} (h : t.IsReference) :
    t.text = '%' :: (t.inner ++ ['%']) := by
  cases t with
  | character c => exact h.elim
  | _ => rfl

theorem percent_not_mem_flags {flags : Text} (h : ∀ f ∈ flags, f = '+' ∨ f = '_') :
    '%' ∉ flags := by
  intro hmem
  rcases h '%' hmem with h | h <;> cases h

theorem percent_not_mem_inner {t : LineToken} (h : t.IsValid) : '%' ∉ t.inner := by
  cases t with
  | character c => exact List.not_mem_nil
  | escape => exact List.not_mem_nil
  | plain name => exact h.2.1
  | list name delimiter flags =>
    obtain ⟨hname, -, hdelimiter, hflags⟩ := h
    simp [inner, hname, Ne.symm hdelimiter, percent_not_mem_flags hflags]

/-- Tokens that are references are those whose text begins with a percent sign. -/
theorem isReference_iff {t : LineToken} (h : t.IsValid) :
    t.IsReference ↔ t.text.head? = some '%' := by
  cases t with
  | character c =>
    constructor
    · intro hr
      exact hr.elim
    · intro hc
      exact absurd (Option.some.inj hc) h
  | _ => exact ⟨fun _ => rfl, fun _ => trivial⟩

theorem text_ne_nil (t : LineToken) : t.text ≠ [] := by
  cases t <;> exact List.cons_ne_nil _ _

theorem head?_text_append (t : LineToken) (rest : Text) :
    (t.text ++ rest).head? = t.text.head? := by
  cases t <;> rfl

/-- The reference that stands between two percent signs. -/
def ofInner (inner : Text) : LineToken :=
  match cutAt '/' inner with
  | none => if inner = [] then escape else plain inner
  | some (name, delimiter :: flags) => list name delimiter flags
  | some (name, []) => plain name

/-- What stands between the percent signs determines the reference. -/
theorem ofInner_inner {t : LineToken} (h : t.IsValid) (href : t.IsReference) :
    ofInner t.inner = t := by
  cases t with
  | character c => exact href.elim
  | escape => rfl
  | plain name =>
    rw [inner, ofInner, cutAt_eq_none_iff.2 h.2.2]
    exact if_neg h.1
  | list name delimiter flags =>
    have hcut : cutAt '/' (name ++ '/' :: delimiter :: flags) = some (name, delimiter :: flags) :=
      cutAt_eq_some_iff.2 ⟨rfl, h.2.1⟩
    rw [inner, ofInner, hcut]

/-- **A token ends where its text says**, whatever follows it. -/
theorem append_inj {t u : LineToken} (ht : t.IsValid) (hu : u.IsValid) {rest rest' : Text}
    (h : t.text ++ rest = u.text ++ rest') : t = u ∧ rest = rest' := by
  have hhead : t.text.head? = u.text.head? := by
    rw [← t.head?_text_append rest, h, u.head?_text_append rest']
  have href : t.IsReference ↔ u.IsReference := by
    rw [isReference_iff ht, isReference_iff hu, hhead]
  by_cases htr : t.IsReference
  · have hur := href.1 htr
    rw [text_eq_of_isReference htr, text_eq_of_isReference hur] at h
    simp only [List.cons_append, List.append_assoc, List.nil_append, List.cons.injEq,
      true_and] at h
    obtain ⟨hinner, hrest⟩ :=
      append_cons_inj_of_not_mem (percent_not_mem_inner ht) (percent_not_mem_inner hu) h
    refine ⟨?_, hrest⟩
    rw [← ofInner_inner ht htr, hinner, ofInner_inner hu hur]
  · have hur : ¬ u.IsReference := fun hur => htr (href.2 hur)
    cases t with
    | character c =>
      cases u with
      | character d =>
        obtain ⟨rfl, hrest⟩ := List.cons.inj h
        exact ⟨rfl, hrest⟩
      | _ => exact absurd trivial hur
    | _ => exact absurd trivial htr

theorem textOf_eq_nil_iff {ts : List LineToken} : textOf ts = [] ↔ ts = [] := by
  cases ts with
  | nil => simp
  | cons t ts => simp [t.text_ne_nil]

/-- Tokens whose text begins with that of other tokens begin with these. -/
theorem exists_eq_append_of_textOf_eq {ts us : List LineToken} {rest : Text}
    (hts : ∀ t ∈ ts, t.IsValid) (hus : ∀ u ∈ us, u.IsValid) (h : textOf ts = textOf us ++ rest) :
    ∃ more, ts = us ++ more ∧ textOf more = rest := by
  induction us generalizing ts with
  | nil => exact ⟨ts, rfl, h⟩
  | cons u us ih =>
    obtain ⟨hu, husRest⟩ := List.forall_mem_cons.1 hus
    rw [textOf_cons, List.append_assoc] at h
    cases ts with
    | nil => exact absurd (List.append_eq_nil_iff.1 h.symm).1 u.text_ne_nil
    | cons t ts =>
      obtain ⟨ht, htsRest⟩ := List.forall_mem_cons.1 hts
      rw [textOf_cons] at h
      obtain ⟨rfl, hrest⟩ := append_inj ht hu h
      obtain ⟨more, rfl, hmore⟩ := ih htsRest husRest hrest
      exact ⟨more, rfl, hmore⟩

/-- Tokens are determined by their text. -/
theorem textOf_injective {ts us : List LineToken} (hts : ∀ t ∈ ts, t.IsValid)
    (hus : ∀ u ∈ us, u.IsValid) (h : textOf ts = textOf us) : ts = us := by
  have hprefix : textOf ts = textOf us ++ [] := by rw [List.append_nil, h]
  obtain ⟨more, rfl, hmore⟩ := exists_eq_append_of_textOf_eq hts hus hprefix
  rw [textOf_eq_nil_iff.1 hmore, List.append_nil]

end LineToken

open LineToken

/-! ## Lines -/

/-- The line consists of these blanks and these tokens. -/
structure IsReading (line blanks : Text) (tokens : List LineToken) : Prop where
  line_eq : line = blanks ++ textOf tokens
  blank : ∀ c ∈ blanks, isBlank c
  valid : ∀ t ∈ tokens, t.IsValid

/-- The line consists of blanks and tokens. -/
def Legible (line : Text) : Prop := ∃ blanks tokens, IsReading line blanks tokens

/-- The percent sign in front of the text begins a reference. -/
def Opens (rest : Text) : Prop :=
  ∃ t : LineToken, t.IsValid ∧ t.IsReference ∧ t.text <+: '%' :: rest

/-- What is reported of the line where the text follows a percent sign that begins no reference. -/
inductive Fault (line : Text) : Text → TemplateError → Prop where
  /-- A slash comes before any other percent sign, and what follows it describes no list. -/
  | options {name options : Text} (hname : '%' ∉ name) :
    Fault line (name ++ '/' :: options) (.badOptions line)
  /-- There is neither a slash nor a percent sign in the rest of the line. -/
  | unterminated {rest : Text} (hslash : '/' ∉ rest) (hpercent : '%' ∉ rest) :
    Fault line rest (.unterminatedVariable line)

/-- The line consists of blanks and tokens up to a percent sign that begins no reference. -/
def Faulty (line : Text) (e : TemplateError) : Prop :=
  ∃ blanks tokens rest, line = blanks ++ (textOf tokens ++ '%' :: rest) ∧
    (∀ c ∈ blanks, isBlank c) ∧ (∀ t ∈ tokens, t.IsValid) ∧ ¬ Opens rest ∧ Fault line rest e

/-- A name up to the next percent sign, or nothing, makes a reference. -/
theorem opens_of_slash_not_mem {inner : Text} (hpercent : '%' ∉ inner) (hslash : '/' ∉ inner)
    (more : Text) : Opens (inner ++ '%' :: more) := by
  cases inner with
  | nil => exact ⟨.escape, trivial, trivial, more, rfl⟩
  | cons c name =>
    refine ⟨.plain (c :: name), ⟨List.cons_ne_nil c name, hpercent, hslash⟩, trivial, more, ?_⟩
    simp [text, LineToken.inner]

/-- There is something to report where no reference begins. -/
theorem exists_fault_of_not_opens {rest : Text} (h : ¬ Opens rest) (line : Text) :
    ∃ e, Fault line rest e := by
  cases hpercent : cutAt '%' rest with
  | none =>
    have hpercent := cutAt_eq_none_iff.1 hpercent
    cases hslash : cutAt '/' rest with
    | none => exact ⟨_, .unterminated (cutAt_eq_none_iff.1 hslash) hpercent⟩
    | some sides =>
      obtain ⟨rfl, -⟩ := cutAt_eq_some_iff.1 hslash
      exact ⟨_, .options fun hname => hpercent (List.mem_append_left _ hname)⟩
  | some sides =>
    obtain ⟨inner, more⟩ := sides
    obtain ⟨rfl, hinner⟩ := cutAt_eq_some_iff.1 hpercent
    cases hslash : cutAt '/' inner with
    | none => exact absurd (opens_of_slash_not_mem hinner (cutAt_eq_none_iff.1 hslash) more) h
    | some sides =>
      obtain ⟨rfl, -⟩ := cutAt_eq_some_iff.1 hslash
      rw [List.append_assoc]
      exact ⟨_, .options fun hname => hinner (List.mem_append_left _ hname)⟩

/-- **Every text consists of tokens**, or it does so up to a percent sign that begins none. -/
theorem tokens_or_stop : ∀ t : Text,
    (∃ tokens, t = textOf tokens ∧ ∀ u ∈ tokens, u.IsValid) ∨
    ∃ tokens rest, t = textOf tokens ++ '%' :: rest ∧ (∀ u ∈ tokens, u.IsValid) ∧ ¬ Opens rest
  | [] => Or.inl ⟨[], rfl, List.forall_mem_nil _⟩
  | c :: rest => by
    by_cases hstop : c = '%' ∧ ¬ Opens rest
    · obtain ⟨rfl, hopens⟩ := hstop
      exact Or.inr ⟨[], rest, rfl, List.forall_mem_nil _, hopens⟩
    · obtain ⟨u, more, hu, htext⟩ : ∃ (u : LineToken) (more : Text), u.IsValid ∧
          u.text ++ more = c :: rest := by
        by_cases hc : c = '%'
        · obtain ⟨u, hu, -, more, htext⟩ : Opens rest :=
            Classical.not_not.1 fun hopens => hstop ⟨hc, hopens⟩
          exact ⟨u, more, hu, by rw [htext, hc]⟩
        · exact ⟨.character c, rest, hc, rfl⟩
      have hlength : more.length ≤ rest.length := by
        have hpos := List.length_pos_iff.2 u.text_ne_nil
        have hsum := congrArg List.length htext
        rw [List.length_append, List.length_cons] at hsum
        omega
      rw [← htext]
      rcases tokens_or_stop more with ⟨tokens, rfl, hvalid⟩ | ⟨tokens, stop, rfl, hvalid, hopens⟩
      · exact Or.inl ⟨u :: tokens, (textOf_cons u tokens).symm,
          List.forall_mem_cons.2 ⟨hu, hvalid⟩⟩
      · refine Or.inr ⟨u :: tokens, stop, ?_, List.forall_mem_cons.2 ⟨hu, hvalid⟩, hopens⟩
        rw [textOf_cons, List.append_assoc]
termination_by t => t.length

/-! ## Reading goes from token to token -/

namespace Span

/-- The text before the first reference of a line makes no difference to whether the line is read,
nor to what is reported of it. -/
theorem exists_ofPieces_cons_eq (line text text' : Text) (pieces : List Text) :
    ∃ f, ofPieces line (text' :: pieces) = (ofPieces line (text :: pieces)).map f := by
  match pieces with
  | [] => exact ⟨fun _ => ofText text', rfl⟩
  | [reference] => exact ⟨id, rfl⟩
  | reference :: piece :: rest =>
    -- the instructions for the text come first and are replaced
    refine ⟨fun s => ofText text' ++ s.drop (ofText text).length, ?_⟩
    simp only [ofPieces]
    cases Instruction.ofReference line reference with
    | error e => rfl
    | ok i =>
      cases ofPieces line (piece :: rest) with
      | error e => rfl
      | ok more => simp

theorem all_isFlag_iff {flags : Text} :
    flags.all isFlag = true ↔ ∀ f ∈ flags, f = '+' ∨ f = '_' := by
  simp [isFlag]

/-- Reading what stands between two percent signs succeeds exactly for references. -/
theorem exists_ofReference_eq_ok_iff (line : Text) {inner : Text} (hinner : '%' ∉ inner) :
    (∃ i, Instruction.ofReference line inner = .ok i) ↔
      ∃ t : LineToken, t.IsValid ∧ t.IsReference ∧ t.inner = inner := by
  constructor
  · rintro ⟨i, hi⟩
    rcases of_ofReference_eq_ok hinner hi with ⟨rfl, -⟩ | ⟨name, layout, href, -⟩
    · exact ⟨.escape, trivial, trivial, rfl⟩
    · cases href with
      | plain hne hname => exact ⟨.plain inner, ⟨hne, hname⟩, trivial, rfl⟩
      | @list name flags delimiter hname hd hflags =>
        exact ⟨.list name delimiter flags, ⟨hname.1, hname.2, hd, all_isFlag_iff.1 hflags⟩, trivial,
          rfl⟩
  · rintro ⟨t, ht, href, rfl⟩
    cases t with
    | character c => exact href.elim
    | escape => exact ⟨_, ofReference_nil line⟩
    | plain name => exact ⟨_, (Refers.plain ht.1 ht.2).ofReference_eq line⟩
    | list name delimiter flags =>
      obtain ⟨hpercent, hslash, hd, hflags⟩ := ht
      exact ⟨_, (Refers.list ⟨hpercent, hslash⟩ hd (all_isFlag_iff.2 hflags)).ofReference_eq line⟩

/-- There is only one thing that can be wrong between two percent signs. -/
theorem eq_badOptions_of_ofReference_eq_error {line inner : Text} {e : TemplateError}
    (h : Instruction.ofReference line inner = .error e) : e = .badOptions line := by
  rw [Instruction.ofReference] at h
  split at h
  · cases h
  · split at h
    · cases h
    · split at h
      · cases h
      · exact (Except.error.inj h).symm

/-- **Reading goes over a token** and is done with it. -/
theorem exists_ofPieces_splitOn_text_append_eq (line : Text) {u : LineToken} (hu : u.IsValid)
    (t : Text) :
    ∃ f, ofPieces line ((u.text ++ t).splitOn '%') = (ofPieces line (t.splitOn '%')).map f := by
  by_cases href : u.IsReference
  · obtain ⟨i, hi⟩ := (exists_ofReference_eq_ok_iff line (percent_not_mem_inner hu)).2
      ⟨u, hu, href, rfl⟩
    have hsplit := ofPieces_splitOn_reference line List.not_mem_nil (percent_not_mem_inner hu) t
    have htext : u.text ++ t = [] ++ '%' :: (u.inner ++ '%' :: t) := by
      rw [text_eq_of_isReference href]
      simp
    refine ⟨fun more => i :: more, ?_⟩
    rw [htext, hsplit, hi]
    cases ofPieces line (t.splitOn '%') <;> rfl
  · cases u with
    | character c =>
      obtain ⟨piece, pieces, hpieces⟩ := List.exists_cons_of_ne_nil (List.splitOn_ne_nil '%' t)
      have hsplit : (c :: t).splitOn '%' = (c :: piece) :: pieces := by
        have hc : ¬ (c == '%') = true := fun hc => hu (beq_iff_eq.1 hc)
        rw [List.splitOn_cons_eq_if_modifyHead, if_neg hc, hpieces, List.modifyHead_cons]
      have htext : (LineToken.character c).text ++ t = c :: t := rfl
      rw [htext, hsplit, hpieces]
      exact exists_ofPieces_cons_eq line piece (c :: piece) pieces
    | _ => exact absurd trivial href

theorem exists_ofPieces_splitOn_textOf_append_eq (line : Text) {tokens : List LineToken}
    (h : ∀ u ∈ tokens, u.IsValid) (t : Text) :
    ∃ f, ofPieces line ((textOf tokens ++ t).splitOn '%') =
      (ofPieces line (t.splitOn '%')).map f := by
  induction tokens with
  | nil =>
    refine ⟨id, ?_⟩
    rw [textOf_nil, List.nil_append]
    cases ofPieces line (t.splitOn '%') <;> rfl
  | cons u tokens ih =>
    obtain ⟨hu, htokens⟩ := List.forall_mem_cons.1 h
    obtain ⟨f, hf⟩ := ih htokens
    obtain ⟨g, hg⟩ := exists_ofPieces_splitOn_text_append_eq line hu (textOf tokens ++ t)
    refine ⟨g ∘ f, ?_⟩
    rw [textOf_cons, List.append_assoc, hg, hf]
    cases ofPieces line (t.splitOn '%') <;> rfl

/-- What is reported where no reference begins. -/
theorem ofPieces_splitOn_percent_of_fault {line rest : Text} {e : TemplateError}
    (hopens : ¬ Opens rest) (h : Fault line rest e) :
    ofPieces line (('%' :: rest).splitOn '%') = .error e := by
  cases hcut : cutAt '%' rest with
  | none =>
    -- the rest of the line is one piece
    have hpercent := cutAt_eq_none_iff.1 hcut
    have hsplit : ('%' :: rest).splitOn '%' = [[], rest] := by
      have hfirst := List.splitOn_append_cons_self_of_not_mem (List.not_mem_nil (a := '%')) rest
      rw [List.nil_append, List.splitOn_eq_singleton hpercent] at hfirst
      exact hfirst
    rw [hsplit, ofPieces]
    cases h with
    | options hname => rw [if_pos (by simp)]
    | unterminated hslash _ => rw [if_neg (by simpa using hslash)]
  | some sides =>
    obtain ⟨inner, more⟩ := sides
    obtain ⟨hrest, hinner⟩ := cutAt_eq_some_iff.1 hcut
    have he : e = .badOptions line := by
      cases h with
      | options _ => rfl
      | unterminated _ hpercent =>
        rw [hrest] at hpercent
        exact absurd (by simp) hpercent
    subst hrest
    have hsplit := ofPieces_splitOn_reference line List.not_mem_nil hinner more
    rw [List.nil_append] at hsplit
    rw [hsplit, he]
    cases hread : Instruction.ofReference line inner with
    | ok i =>
      obtain ⟨t, ht, href, rfl⟩ := (exists_ofReference_eq_ok_iff line hinner).1 ⟨i, hread⟩
      refine absurd ⟨t, ht, href, more, ?_⟩ hopens
      rw [text_eq_of_isReference href]
      simp
    | error e' =>
      rw [eq_badOptions_of_ofReference_eq_error hread]
      rfl

/-! ## Lines and texts -/

/-- Blanks are characters that stand for themselves. -/
theorem exists_tokens_of_blank {blanks : Text} (h : ∀ c ∈ blanks, isBlank c) :
    ∃ tokens, blanks = textOf tokens ∧ ∀ u ∈ tokens, u.IsValid := by
  refine ⟨blanks.map .character, ?_, List.forall_mem_map.2 fun c hc => ?_⟩
  · rw [textOf, List.flatMap_map]
    exact (List.flatMap_singleton' blanks).symm
  · rintro rfl
    exact absurd (h '%' hc) (by decide)

/-- Whether a line is read, and what is reported of it, is known from what follows any blanks and
tokens that it begins with. -/
theorem exists_ofPieces_splitOn_eq_map {line blanks t : Text} {tokens : List LineToken}
    (hline : line = blanks ++ (textOf tokens ++ t)) (hblank : ∀ c ∈ blanks, isBlank c)
    (hvalid : ∀ u ∈ tokens, u.IsValid) :
    ∃ f, ofPieces line (line.splitOn '%') = (ofPieces line (t.splitOn '%')).map f := by
  obtain ⟨front, hfront, hfrontValid⟩ := exists_tokens_of_blank hblank
  have hall : ∀ u ∈ front ++ tokens, u.IsValid :=
    List.forall_mem_append.2 ⟨hfrontValid, hvalid⟩
  obtain ⟨f, hf⟩ := exists_ofPieces_splitOn_textOf_append_eq line hall t
  rw [textOf_append, List.append_assoc, ← hfront, ← hline] at hf
  exact ⟨f, hf⟩

theorem exists_ofPieces_splitOn_eq_map_trimStart (line : Text) :
    ∃ f, ofPieces line (line.splitOn '%') =
      (ofPieces line ((trimStart line).splitOn '%')).map f := by
  have hline : line = line.takeWhile isBlank ++ (textOf [] ++ trimStart line) := by
    rw [textOf_nil, List.nil_append, trimStart, List.takeWhile_append_dropWhile]
  exact exists_ofPieces_splitOn_eq_map hline (List.all_eq_true.1 List.all_takeWhile)
    (List.forall_mem_nil _)

theorem exists_ofLine_eq_ok_iff (line : Text) :
    (∃ s, ofLine line = .ok s) ↔ ∃ s, ofPieces line (line.splitOn '%') = .ok s := by
  obtain ⟨f, hf⟩ := exists_ofPieces_splitOn_eq_map_trimStart line
  rw [ofLine, hf, exists_map_eq_ok_iff, exists_map_eq_ok_iff]

theorem ofLine_eq_error_iff {line : Text} {e : TemplateError} :
    ofLine line = .error e ↔ ofPieces line (line.splitOn '%') = .error e := by
  obtain ⟨f, hf⟩ := exists_ofPieces_splitOn_eq_map_trimStart line
  rw [ofLine, hf, map_eq_error_iff, map_eq_error_iff]

end Span

theorem IsReading.exists_ofLine_eq_ok {line blanks : Text} {tokens : List LineToken}
    (h : IsReading line blanks tokens) : ∃ s, Span.ofLine line = .ok s := by
  have hline : line = blanks ++ (textOf tokens ++ []) := by rw [List.append_nil, h.line_eq]
  obtain ⟨f, hf⟩ := Span.exists_ofPieces_splitOn_eq_map hline h.blank h.valid
  exact (Span.exists_ofLine_eq_ok_iff line).2 ⟨f [], hf⟩

theorem Faulty.ofLine_eq {line : Text} {e : TemplateError} (h : Faulty line e) :
    Span.ofLine line = .error e := by
  obtain ⟨blanks, tokens, rest, hline, hblank, hvalid, hopens, hfault⟩ := h
  obtain ⟨f, hf⟩ := Span.exists_ofPieces_splitOn_eq_map hline hblank hvalid
  rw [Span.ofPieces_splitOn_percent_of_fault hopens hfault] at hf
  exact Span.ofLine_eq_error_iff.2 hf

/-- **Every line is legible or faulty.** If it is legible, its blanks are all those that it begins
with. -/
theorem reading_or_faulty (line : Text) :
    (∃ tokens, IsReading line (line.takeWhile isBlank) tokens) ∨ ∃ e, Faulty line e := by
  have hline : line = line.takeWhile isBlank ++ trimStart line :=
    List.takeWhile_append_dropWhile.symm
  have hblank : ∀ c ∈ line.takeWhile isBlank, isBlank c := List.all_eq_true.1 List.all_takeWhile
  rcases tokens_or_stop (trimStart line) with ⟨tokens, ht, hvalid⟩ | ⟨tokens, rest, ht, hvalid, hopens⟩
  · exact Or.inl ⟨tokens, by rw [← ht]; exact hline, hblank, hvalid⟩
  · obtain ⟨e, he⟩ := exists_fault_of_not_opens hopens line
    exact Or.inr ⟨e, _, tokens, rest, by rw [← ht]; exact hline, hblank, hvalid, hopens, he⟩

theorem exists_ofLine_eq_ok_iff_legible {line : Text} :
    (∃ s, Span.ofLine line = .ok s) ↔ Legible line := by
  constructor
  · rintro ⟨s, hs⟩
    rcases reading_or_faulty line with ⟨tokens, h⟩ | ⟨e, he⟩
    · exact ⟨_, tokens, h⟩
    · rw [he.ofLine_eq] at hs
      cases hs
  · rintro ⟨blanks, tokens, h⟩
    exact h.exists_ofLine_eq_ok

theorem ofLine_eq_error_iff_faulty {line : Text} {e : TemplateError} :
    Span.ofLine line = .error e ↔ Faulty line e := by
  refine ⟨fun h => ?_, Faulty.ofLine_eq⟩
  rcases reading_or_faulty line with ⟨tokens, hreading⟩ | ⟨e', he'⟩
  · obtain ⟨s, hs⟩ := hreading.exists_ofLine_eq_ok
    rw [hs] at h
    cases h
  · obtain rfl : e' = e := Except.error.inj (he'.ofLine_eq.symm.trans h)
    exact he'

theorem Faulty.not_legible {line : Text} {e : TemplateError} (h : Faulty line e) :
    ¬ Legible line := by
  intro hlegible
  obtain ⟨s, hs⟩ := exists_ofLine_eq_ok_iff_legible.2 hlegible
  rw [h.ofLine_eq] at hs
  cases hs

/-- The tokens of a line are determined by the blanks before them. -/
theorem IsReading.unique {line blanks : Text} {ts us : List LineToken}
    (h : IsReading line blanks ts) (h' : IsReading line blanks us) : ts = us :=
  textOf_injective h.valid h'.valid (List.append_cancel_left (h.line_eq.symm.trans h'.line_eq))

/-- A legible line has one reading in which the blanks are all those that it begins with. -/
theorem Legible.existsUnique_tokens {line : Text} (h : Legible line) :
    ∃! tokens, IsReading line (line.takeWhile isBlank) tokens := by
  rcases reading_or_faulty line with ⟨tokens, htokens⟩ | ⟨e, he⟩
  · exact ⟨tokens, htokens, fun us hus => hus.unique htokens⟩
  · exact absurd h he.not_legible

/-- Tokens that a line begins with are the first ones of its reading, and a percent sign after them
begins a reference. -/
theorem IsReading.exists_reference {line blanks rest : Text} {tokens before : List LineToken}
    (h : IsReading line blanks tokens) (hbefore : ∀ u ∈ before, u.IsValid)
    (hline : line = blanks ++ (textOf before ++ '%' :: rest)) :
    ∃ next after, tokens = before ++ next :: after ∧ next.IsReference := by
  obtain ⟨more, rfl, hmore⟩ := exists_eq_append_of_textOf_eq h.valid hbefore
    (List.append_cancel_left (h.line_eq.symm.trans hline))
  cases more with
  | nil => cases hmore
  | cons next after =>
    refine ⟨next, after, rfl, (isReference_iff (h.valid next (by simp))).2 ?_⟩
    rw [← next.head?_text_append (textOf after), ← textOf_cons, hmore]
    rfl

/-- In a legible line no token goes on in another line, and a percent sign right after tokens that
end in a reference begins another reference. -/
theorem IsReading.one_line {source line blanks : Text} {tokens : List LineToken}
    (h : IsReading line blanks tokens) (hline : line ∈ source.lines) :
    (∀ t ∈ tokens, '\n' ∉ t.text) ∧
    ∀ (before : List LineToken) (t : LineToken) (rest : Text), (∀ u ∈ before, u.IsValid) →
      t.IsValid → t.IsReference → line = blanks ++ (textOf before ++ (t.text ++ '%' :: rest)) →
      ∃ next after, tokens = before ++ t :: next :: after ∧ next.IsReference := by
  refine ⟨fun t ht hfeed => newline_not_mem_of_mem_lines hline ?_, ?_⟩
  · rw [h.line_eq]
    exact List.mem_append_right _ (List.mem_flatMap_of_mem ht hfeed)
  · intro before t rest hbefore ht _ htext
    have hall : ∀ u ∈ before ++ [t], u.IsValid :=
      List.forall_mem_append.2 ⟨hbefore, List.forall_mem_singleton.2 ht⟩
    have hfirst : line = blanks ++ (textOf (before ++ [t]) ++ '%' :: rest) := by
      rw [htext, textOf_append]
      simp
    obtain ⟨next, after, rfl, href⟩ := h.exists_reference hall hfirst
    exact ⟨next, after, by simp, href⟩

namespace Span

theorem exists_compileLine_eq_ok_iff {line : Text} :
    (∃ s, compileLine line = .ok s) ↔ Narrow line ∧ Legible line := by
  simp only [compileLine_eq_ok_iff, exists_and_left, exists_ofLine_eq_ok_iff_legible]

/-- The first line that does not compile halts the whole text. -/
theorem compile_eq_error_iff {source : Text} {halt : Halt} :
    compile source = .error halt ↔ ∃ before line after, source.lines = before ++ line :: after ∧
      (∀ l ∈ before, Narrow l ∧ Legible l) ∧ compileLine line = .error halt := by
  rw [compile, map_eq_error_iff, mapM_eq_error_iff]
  simp only [exists_compileLine_eq_ok_iff]

/-- **Which texts compile to a span, and what is reported of the others.** A text compiles exactly
when all of its lines are narrow and legible. Otherwise the first line that is not both decides: if
it is narrow, it is reported for the fault that it has, and if not, counting its blanks halts. A
legible line is read in one way: no token of it goes on in another line, and a percent sign right
after tokens that end in a reference begins another reference. -/
theorem compile_accepts_lines (source : Text) :
    ((∃ s, compile source = .ok s) ↔ ∀ line ∈ source.lines, Narrow line ∧ Legible line) ∧
    (∀ e, compile source = .error (.fault e) ↔
      ∃ before line after, source.lines = before ++ line :: after ∧
        (∀ l ∈ before, Narrow l ∧ Legible l) ∧ Narrow line ∧ ¬ Legible line ∧ Faulty line e) ∧
    (compile source = .error .overflow ↔
      ∃ before line after, source.lines = before ++ line :: after ∧
        (∀ l ∈ before, Narrow l ∧ Legible l) ∧ ¬ Narrow line) ∧
    compile source ≠ .error .misplaced ∧
    ∀ line ∈ source.lines,
      (Legible line → ∃! tokens, IsReading line (line.takeWhile isBlank) tokens) ∧
      ∀ blanks tokens, IsReading line blanks tokens →
        (∀ t ∈ tokens, '\n' ∉ t.text) ∧
        ∀ (before : List LineToken) (t : LineToken) (rest : Text), (∀ u ∈ before, u.IsValid) →
          t.IsValid → t.IsReference → line = blanks ++ (textOf before ++ (t.text ++ '%' :: rest)) →
          ∃ next after, tokens = before ++ t :: next :: after ∧ next.IsReference := by
  refine ⟨?_, fun e => ?_, ?_, compile_ne_misplaced source,
    fun line hline => ⟨Legible.existsUnique_tokens, fun _ _ h => h.one_line hline⟩⟩
  · rw [compile, exists_map_eq_ok_iff, exists_mapM_eq_ok_iff]
    simp only [exists_compileLine_eq_ok_iff]
  · rw [compile_eq_error_iff]
    simp only [compileLine_eq_fault_iff, ofLine_eq_error_iff_faulty]
    constructor
    · rintro ⟨before, line, after, hlines, hbefore, hnarrow, hfaulty⟩
      exact ⟨before, line, after, hlines, hbefore, hnarrow, hfaulty.not_legible, hfaulty⟩
    · rintro ⟨before, line, after, hlines, hbefore, hnarrow, -, hfaulty⟩
      exact ⟨before, line, after, hlines, hbefore, hnarrow, hfaulty⟩
  · rw [compile_eq_error_iff]
    simp only [compileLine_eq_overflow_iff]

/-- A list whose delimiter is a slash, right before another reference; then two faulty lines. -/
def tricky : Text := "\t%x//+_%%y%\n%%%\n%a/%".toList

theorem compile_accepts_lines_tricky :
    compile tricky = .error (.fault (.unterminatedVariable "%%%".toList)) ∧
    (∃! tokens, IsReading "\t%x//+_%%y%".toList ['\t'] tokens) ∧
    ∃ next after, [LineToken.list ['x'] '/' ['+', '_'], .plain ['y']] =
      [] ++ .list ['x'] '/' ['+', '_'] :: next :: after ∧ next.IsReference := by
  obtain ⟨-, herror, -, -, hlines⟩ := compile_accepts_lines tricky
  have hlist : (LineToken.list ['x'] '/' ['+', '_']).IsValid :=
    ⟨by decide, by decide, by decide, by simp⟩
  have hplain : (LineToken.plain ['y']).IsValid := ⟨by decide, by decide, by decide⟩
  have hreading : IsReading "\t%x//+_%%y%".toList ['\t']
      [.list ['x'] '/' ['+', '_'], .plain ['y']] :=
    ⟨by rfl, List.forall_mem_singleton.2 rfl, by simp [hlist, hplain]⟩
  have hopens : ¬ Opens [] := by
    rintro ⟨t, -, href, hprefix⟩
    have hlength := hprefix.length_le
    rw [text_eq_of_isReference href] at hlength
    simp at hlength
  have hfaulty : Faulty "%%%".toList (.unterminatedVariable "%%%".toList) :=
    ⟨[], [.escape], [], by rfl, List.forall_mem_nil _, by simp [LineToken.IsValid], hopens,
      .unterminated (by decide) (by decide)⟩
  have hfirst := hlines "\t%x//+_%%y%".toList (by decide)
  refine ⟨(herror _).2 ⟨["\t%x//+_%%y%".toList], "%%%".toList, ["%a/%".toList], by decide, ?_,
    by decide, hfaulty.not_legible, hfaulty⟩, hfirst.1 ⟨_, _, hreading⟩, ?_⟩
  · exact List.forall_mem_singleton.2 ⟨by decide, _, _, hreading⟩
  · exact (hfirst.2 _ _ hreading).2 [] _ "y%".toList (List.forall_mem_nil _) hlist trivial (by rfl)

/-- A line of nothing but blanks, one more than can be counted. -/
def deep : Text := List.replicate UInt16.size ' '

/-- It is not enough that the lines are legible. -/
theorem compile_accepts_lines_deep :
    (∀ line ∈ deep.lines, Legible line) ∧ compile deep = .error .overflow ∧
    ¬ ((∃ s, compile deep = .ok s) ↔ ∀ line ∈ deep.lines, Legible line) := by
  have hspace {c : Char} (hc : c ∈ deep) : c = ' ' := List.eq_of_mem_replicate hc
  have hblank : ∀ c ∈ deep, isBlank c := fun c hc => by rw [hspace hc]; rfl
  have hfeed : '\n' ∉ deep := fun h => absurd (hspace h) (by decide)
  have hlength : UInt16.size ≤ deep.length := Nat.le_of_eq List.length_replicate.symm
  have hlegible : ∀ line ∈ deep.lines, Legible line := by
    have hne : deep ≠ [] := List.ne_nil_of_length_pos (Nat.lt_of_lt_of_le (by decide) hlength)
    rw [lines_of_newline_not_mem hfeed hne]
    exact List.forall_mem_singleton.2 ⟨deep, [], by rw [textOf_nil, List.append_nil], hblank,
      List.forall_mem_nil _⟩
  have hoverflow : compile (deep ++ []) = .error .overflow :=
    compile_eq_overflow hblank hlength (by rwa [List.append_nil])
  rw [List.append_nil] at hoverflow
  refine ⟨hlegible, hoverflow, fun h => ?_⟩
  obtain ⟨s, hs⟩ := h.2 hlegible
  cases hs.symm.trans hoverflow

end Span

end AstHierarchy
