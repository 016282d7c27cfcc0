import AstHierarchy.Hierarchy.Generator
import AstHierarchy.Proofs.Outcome
import AstHierarchy.Proofs.Text.Lines
import AstHierarchy.Proofs.Text.Words

/-!
# Grammar lines and node types

Reading a line and writing a line are inverse to each other on the printable node types, and these
are the only ones that a line can declare.

The one thing that could go wrong is the list of fields. A comma and a space separate two fields,
and a type may hold commas, so a field could fall apart at a comma of its own. It does not, because
the space in a field comes right after its type and a printable type does not end in a comma
(`Field.not_infix_toText_iff`). For the same reason no field that has been read has such a type: the
list would have been split there.

* `Field.ofList_eq_ok_iff` and `NodeType.ofLine_eq_ok_iff` say exactly what is read.
* `NodeType.ofLine_toLine_round_trip` is the round trip for lines and for whole grammars.
-/

namespace AstHierarchy

open Text

/-! ## Splitting is the inverse of joining -/

namespace Text

variable {a b : Char}

/-- The first occurrence of a separator ends the first piece. -/
theorem splitOnPair_append_pair (hab : a ≠ b) {p : Text} (hp : ¬ [a, b] <:+: p) (t : Text) :
    splitOnPair a b (p ++ a :: b :: t) = p :: splitOnPair a b t := by
  induction p with
  | nil => rw [List.nil_append, splitOnPair, if_pos ⟨rfl, rfl⟩]
  | cons c p ih =>
    have hrest := ih fun h => hp (List.infix_cons h)
    cases p with
    | nil =>
      -- the separator does not begin with the last character of the piece
      have hne : ¬ (c = a ∧ a = b) := fun h => hab h.2
      rw [List.nil_append] at hrest
      rw [List.cons_append, List.nil_append, splitOnPair, if_neg hne, hrest, List.modifyHead_cons]
    | cons d p =>
      have hne : ¬ (c = a ∧ d = b) := by
        rintro ⟨rfl, rfl⟩
        exact hp ⟨[], p, rfl⟩
      rw [List.cons_append] at hrest
      rw [List.cons_append, List.cons_append, splitOnPair, if_neg hne, hrest, List.modifyHead_cons]

theorem splitOnPair_of_not_infix {p : Text} (hp : ¬ [a, b] <:+: p) : splitOnPair a b p = [p] := by
  induction p with
  | nil => rfl
  | cons c p ih =>
    cases p with
    | nil => rfl
    | cons d p =>
      have hne : ¬ (c = a ∧ d = b) := by
        rintro ⟨rfl, rfl⟩
        exact hp ⟨[], p, rfl⟩
      rw [splitOnPair, if_neg hne, ih fun h => hp (List.infix_cons h), List.modifyHead_cons]

/-- **Splitting is the inverse of joining** where no piece holds the separator. -/
theorem splitOnPair_intercalate (hab : a ≠ b) {pieces : List Text} (hne : pieces ≠ [])
    (h : ∀ p ∈ pieces, ¬ [a, b] <:+: p) : splitOnPair a b ([a, b].intercalate pieces) = pieces := by
  induction pieces with
  | nil => exact absurd rfl hne
  | cons p rest ih =>
    have hp := h p List.mem_cons_self
    cases rest with
    | nil => rw [List.intercalate_singleton, splitOnPair_of_not_infix hp]
    | cons q rest =>
      have hjoin : [a, b].intercalate (p :: q :: rest) =
          p ++ a :: b :: [a, b].intercalate (q :: rest) := by
        rw [List.intercalate_cons_cons, List.append_assoc]
        rfl
      rw [hjoin, splitOnPair_append_pair hab hp,
        ih (List.cons_ne_nil q rest) fun r hr => h r (List.mem_cons_of_mem p hr)]

/-- A text whose first piece is not empty begins like that piece. -/
theorem head?_of_splitOnPair_eq_cons {d : Char} {t p : Text} {ps : List Text}
    (h : splitOnPair a b (d :: t) = p :: ps) : p = [] ∨ p.head? = some d := by
  cases t with
  | nil =>
    obtain rfl := (List.cons.inj h).1
    exact Or.inr rfl
  | cons e t =>
    rw [splitOnPair] at h
    split at h
    · exact Or.inl (List.cons.inj h).1.symm
    · obtain ⟨q, qs, hq⟩ := List.exists_cons_of_ne_nil (splitOnPair_ne_nil a b (e :: t))
      rw [hq, List.modifyHead_cons] at h
      rw [← (List.cons.inj h).1]
      exact Or.inr rfl

/-- No piece holds the separator. -/
theorem not_infix_of_mem_splitOnPair {p t : Text} (h : p ∈ splitOnPair a b t) :
    ¬ [a, b] <:+: p := by
  fun_induction splitOnPair a b t generalizing p with
  | case1 =>
    rw [List.mem_singleton.1 h, List.infix_nil]
    exact List.cons_ne_nil a [b]
  | case2 c =>
    rw [List.mem_singleton.1 h]
    exact fun hinfix => absurd hinfix.length_le (by simp)
  | case3 c d rest _ ih =>
    rcases List.mem_cons.1 h with rfl | h
    · rw [List.infix_nil]
      exact List.cons_ne_nil a [b]
    · exact ih h
  | case4 c d rest hne ih =>
    obtain ⟨q, qs, hq⟩ := List.exists_cons_of_ne_nil (splitOnPair_ne_nil a b (d :: rest))
    rw [hq, List.modifyHead_cons] at h
    rcases List.mem_cons.1 h with rfl | h
    · rw [List.infix_cons_iff, not_or]
      refine ⟨fun hbegin => ?_, ih (by rw [hq]; exact List.mem_cons_self)⟩
      -- what comes after `c` in its piece is the next character of the text
      obtain ⟨rfl, hb⟩ := List.cons_prefix_cons.1 hbegin
      rcases head?_of_splitOnPair_eq_cons hq with rfl | hd
      · exact absurd (List.prefix_nil.1 hb) (List.cons_ne_nil b [])
      · obtain ⟨more, rfl⟩ := hb
        exact hne ⟨rfl, (Option.some.inj hd).symm⟩
    · exact ih (by rw [hq]; exact List.mem_cons_of_mem q h)

end Text

/-! ## Fields -/

namespace Field

/-- The field can be read: its type is a word, and its name is a word without commas. -/
structure IsReadable (f : Field) : Prop where
  type : f.type.IsWord
  name : f.name.IsWord
  comma_not_mem_name : ',' ∉ f.name

/-- The field can be written into a list: it can be read, and its type does not end in a comma. -/
structure IsPrintable (f : Field) : Prop extends f.IsReadable where
  getLast?_type : f.type.getLast? ≠ some ','

instance (f : Field) : Decidable f.IsReadable :=
  decidable_of_iff (f.type.IsWord ∧ f.name.IsWord ∧ ',' ∉ f.name)
    ⟨fun h => ⟨h.1, h.2.1, h.2.2⟩, fun h => ⟨h.type, h.name, h.comma_not_mem_name⟩⟩

instance (f : Field) : Decidable f.IsPrintable :=
  decidable_of_iff (f.IsReadable ∧ f.type.getLast? ≠ some ',')
    ⟨fun h => ⟨h.1, h.2⟩, fun h => ⟨h.toIsReadable, h.getLast?_type⟩⟩

theorem isTypeText_iff {t : Text} : isTypeText t = true ↔ t.IsWord := by
  rw [← isWord_iff, isTypeText, List.not_any_eq_all_not]

theorem isNameText_iff {t : Text} : isNameText t = true ↔ t.IsWord ∧ ',' ∉ t := by
  rw [isNameText, List.not_any_eq_all_not, Bool.and_eq_true, List.all_eq_true]
  simp only [Bool.not_or, Bool.and_eq_true, Bool.not_eq_true', beq_eq_false_iff_ne]
  constructor
  · rintro ⟨hne, hall⟩
    exact ⟨⟨List.isEmpty_eq_false_iff.1 hne, fun c hc => (hall c hc).1⟩,
      fun hc => (hall ',' hc).2 rfl⟩
  · rintro ⟨⟨hne, hblank⟩, hcomma⟩
    refine ⟨List.isEmpty_eq_false_iff.2 hne, fun c hc => ⟨hblank c hc, ?_⟩⟩
    rintro rfl
    exact hcomma hc

/-- A piece of a list reads as a field exactly when it is the written form of one that can be
read. -/
theorem ofText?_eq_some_iff {token : Text} {f : Field} :
    ofText? token = some f ↔ token = f.toText ∧ f.IsReadable := by
  constructor
  · intro h
    refine ⟨(toText_of_ofText? h).symm, ?_⟩
    unfold ofText? at h
    split at h
    · split at h
      · rename_i hwords
        obtain rfl := Option.some.inj h
        rw [Bool.and_eq_true, isTypeText_iff, isNameText_iff] at hwords
        exact ⟨hwords.1, hwords.2.1, hwords.2.2⟩
      · cases h
    · cases h
  · rintro ⟨rfl, h⟩
    have hcut : cutAt ' ' f.toText = some (f.type, f.name) :=
      cutAt_eq_some_iff.2 ⟨rfl, h.type.space_not_mem⟩
    have hwords : (isTypeText f.type && isNameText f.name) = true := by
      rw [Bool.and_eq_true, isTypeText_iff, isNameText_iff]
      exact ⟨h.type, h.name, h.comma_not_mem_name⟩
    rw [ofText?, hcut]
    exact if_pos hwords

/-- **A field falls apart in a list** exactly when its type ends in a comma. -/
theorem not_infix_toText_iff {f : Field} (h : f.IsReadable) :
    ¬ [',', ' '] <:+: f.toText ↔ f.type.getLast? ≠ some ',' := by
  rw [not_iff_not, List.getLast?_eq_some_iff]
  constructor
  · rintro ⟨before, after, heq⟩
    -- the only space of the field is the one after its type
    have hspace : (before ++ [',']) ++ ' ' :: after = f.type ++ ' ' :: f.name := by
      rw [← toText, ← heq]
      simp
    rcases List.append_eq_append_iff.1 hspace with ⟨more, htype, hmore⟩ | ⟨more, hbefore, hmore⟩
    · cases more with
      | nil => exact ⟨before, by rw [htype, List.append_nil]⟩
      | cons c more =>
        -- the type goes on with the space
        obtain rfl := (List.cons.inj hmore).1
        exact absurd (by rw [htype]; simp) h.type.space_not_mem
    · cases more with
      | nil => exact ⟨before, by rw [hbefore, List.append_nil]⟩
      | cons c more =>
        -- the space is one of the name
        exact absurd (by rw [(List.cons.inj hmore).2]; simp) h.name.space_not_mem
  · rintro ⟨init, hinit⟩
    refine ⟨init, f.name, ?_⟩
    rw [toText, hinit]
    simp

/-- What the pieces of a list read as. -/
theorem ofTokens_eq_ok_iff {line : Text} {tokens : List Text} {fs : List Field} :
    ofTokens line tokens = .ok fs ↔ tokens = fs.map toText ∧ ∀ f ∈ fs, f.IsReadable := by
  induction tokens generalizing fs with
  | nil =>
    constructor
    · intro h
      obtain rfl := Except.ok.inj h
      exact ⟨rfl, List.forall_mem_nil _⟩
    · rintro ⟨h, -⟩
      rw [List.map_eq_nil_iff.1 h.symm]
      rfl
  | cons token rest ih =>
    constructor
    · intro h
      rw [ofTokens] at h
      split at h
      · cases h
      · rename_i f hf
        obtain ⟨more, hmore, rfl⟩ := map_eq_ok_iff.1 h
        obtain ⟨rfl, hreadable⟩ := ofText?_eq_some_iff.1 hf
        obtain ⟨rfl, hall⟩ := ih.1 hmore
        exact ⟨rfl, List.forall_mem_cons.2 ⟨hreadable, hall⟩⟩
    · rintro ⟨htokens, hall⟩
      obtain ⟨f, more, rfl, rfl, hrest⟩ := List.map_eq_cons_iff.1 htokens.symm
      have hf : ofText? f.toText = some f :=
        ofText?_eq_some_iff.2 ⟨rfl, hall f List.mem_cons_self⟩
      have hmore : ofTokens line rest = .ok more :=
        ih.2 ⟨hrest.symm, fun g hg => hall g (List.mem_cons_of_mem f hg)⟩
      rw [ofTokens, hf]
      simp only [hmore, map_ok]

/-- **What a trimmed list of fields reads as.** -/
theorem ofList_eq_ok_iff {line list : Text} {fs : List Field} :
    ofList line list = .ok fs ↔
      list = [',', ' '].intercalate (fs.map toText) ∧ ∀ f ∈ fs, f.IsPrintable := by
  rw [ofList]
  constructor
  · intro h
    split at h
    · rename_i hempty
      obtain rfl := Except.ok.inj h
      exact ⟨List.isEmpty_iff.1 hempty, List.forall_mem_nil _⟩
    · obtain ⟨htokens, hall⟩ := ofTokens_eq_ok_iff.1 h
      refine ⟨by rw [← htokens, intercalate_splitOnPair], fun f hf => ⟨hall f hf, ?_⟩⟩
      have hpiece : f.toText ∈ splitOnPair ',' ' ' list := by
        rw [htokens]
        exact List.mem_map_of_mem hf
      exact (not_infix_toText_iff (hall f hf)).1 (not_infix_of_mem_splitOnPair hpiece)
  · rintro ⟨rfl, hall⟩
    cases fs with
    | nil => rfl
    | cons f rest =>
      have hpieces : ∀ p ∈ (f :: rest).map toText, ¬ [',', ' '] <:+: p := by
        intro p hp
        obtain ⟨g, hg, rfl⟩ := List.mem_map.1 hp
        exact (not_infix_toText_iff (hall g hg).toIsReadable).2 (hall g hg).getLast?_type
      have hne : ¬ ([',', ' '].intercalate ((f :: rest).map toText)).isEmpty = true := by
        simp [intercalate_cons, toText]
      have hpiecesne : (f :: rest).map toText ≠ [] := List.cons_ne_nil _ _
      rw [if_neg hne, splitOnPair_intercalate (by decide) hpiecesne hpieces]
      exact ofTokens_eq_ok_iff.2 ⟨rfl, fun g hg => (hall g hg).toIsReadable⟩

end Field

/-! ## Lines -/

namespace NodeType

/-- The node type can be written as a line: its name is trimmed and has no colon, and its fields can
be written into a list. -/
structure IsPrintable (t : NodeType) : Prop where
  name_ne_nil : t.name ≠ []
  colon_not_mem_name : ':' ∉ t.name
  name : t.name.IsTrimmed
  fields : ∀ f ∈ t.fields, f.IsPrintable

instance (t : NodeType) : Decidable t.IsPrintable :=
  decidable_of_iff (t.name ≠ [] ∧ ':' ∉ t.name ∧ t.name.IsTrimmed ∧ ∀ f ∈ t.fields, f.IsPrintable)
    ⟨fun h => ⟨h.1, h.2.1, h.2.2.1, h.2.2.2⟩,
      fun h => ⟨h.name_ne_nil, h.colon_not_mem_name, h.name, h.fields⟩⟩

/-- The list of fields as it stands in a line. -/
def listText (t : NodeType) : Text := [',', ' '].intercalate (t.fields.map Field.toText)

theorem isTrimmed_listText {t : NodeType} (h : ∀ f ∈ t.fields, f.IsPrintable) :
    t.listText.IsTrimmed := by
  refine IsTrimmed.intercalate fun p hp => ?_
  obtain ⟨f, hf, rfl⟩ := List.mem_map.1 hp
  have hf := (h f hf).toIsReadable
  refine ⟨hf.type.isTrimmed.append hf.name.isTrimmed hf.type.1 hf.name.1 [' '], ?_⟩
  exact List.append_ne_nil_of_left_ne_nil hf.type.1 _

/-- **What a line reads as.** -/
theorem ofLine_eq_ok_iff {line : Text} {t : NodeType} :
    ofLine line = .ok t ↔ ∃ before after, line = before ++ ':' :: after ∧ ':' ∉ before ∧
      trim before = t.name ∧ t.name ≠ [] ∧ trim after = t.listText ∧
      ∀ f ∈ t.fields, f.IsPrintable := by
  rw [ofLine]
  constructor
  · intro h
    split at h
    · cases h
    · rename_i before after hcut
      obtain ⟨hline, hbefore⟩ := cutAt_eq_some_iff.1 hcut
      split at h
      · cases h
      · rename_i hne
        obtain ⟨fs, hfs, rfl⟩ := map_eq_ok_iff.1 h
        obtain ⟨hlist, hall⟩ := Field.ofList_eq_ok_iff.1 hfs
        exact ⟨before, after, hline, hbefore, rfl, fun hnil => hne (List.isEmpty_iff.2 hnil), hlist,
          hall⟩
  · rintro ⟨before, after, rfl, hbefore, hname, hne, hlist, hall⟩
    have hcut : cutAt ':' (before ++ ':' :: after) = some (before, after) :=
      cutAt_eq_some_iff.2 ⟨rfl, hbefore⟩
    have hfields : ∀ line, Field.ofList line (trim after) = .ok t.fields := fun _ =>
      Field.ofList_eq_ok_iff.2 ⟨hlist, hall⟩
    rw [hcut]
    simp only [hname, hfields]
    rw [if_neg fun hempty => hne (List.isEmpty_iff.1 hempty)]
    rfl

/-- What has been read can be written. -/
theorem isPrintable_of_ofLine_eq_ok {line : Text} {t : NodeType} (h : ofLine line = .ok t) :
    t.IsPrintable := by
  obtain ⟨before, after, -, hbefore, hname, hne, -, hall⟩ := ofLine_eq_ok_iff.1 h
  refine ⟨hne, fun hmem => ?_, ?_, hall⟩
  · rw [← hname] at hmem
    exact hbefore ((trim_sublist before).subset hmem)
  · rw [← hname]
    exact isTrimmed_trim before

/-- What is written reads as what it was written for. -/
theorem ofLine_toLine {t : NodeType} (h : t.IsPrintable) : ofLine t.toLine = .ok t := by
  have hspace : ∀ c ∈ [' '], isBlank c := List.forall_mem_singleton.2 rfl
  refine ofLine_eq_ok_iff.2
    ⟨t.name ++ [' '], ' ' :: t.listText, ?_, ?_, ?_, h.name_ne_nil, ?_, h.fields⟩
  · rw [toLine, ← listText]
    simp
  · simp [h.colon_not_mem_name]
  · exact trim_append_append h.name (List.forall_mem_nil _) hspace
  · have htrim : trim ([' '] ++ (t.listText ++ [])) = t.listText :=
      trim_append_append (isTrimmed_listText h.fields) hspace (List.forall_mem_nil _)
    rwa [List.append_nil] at htrim

/-! ## Grammars -/

/-- **Reading and writing a grammar are inverse to each other.** A line that is written for a
printable node type reads as that node type; a line that can be read declares a printable node type,
and the line that is written for it reads as the same one. A grammar that is written line by line
therefore reads as the list of its node types, and generating a file from it gives the hierarchy of
these node types, or the error that they lead to. -/
theorem ofLine_toLine_round_trip :
    (∀ t : NodeType, t.IsPrintable → ofLine t.toLine = .ok t) ∧
    (∀ (line : Text) (t : NodeType), ofLine line = .ok t →
      t.IsPrintable ∧ ofLine t.toLine = .ok t) ∧
    ∀ types : List NodeType, (∀ t ∈ types, t.IsPrintable) →
      ofLines (types.map toLine) = .ok types ∧
      ∀ (g : Generator) (base : Text), (g.file base (types.map toLine)).result =
        (g.hierarchy base types).result.map fun contents =>
          { name := g.language.fileNameFor base, contents } := by
  refine ⟨fun t => ofLine_toLine, fun line t h => ?_, fun types h => ?_⟩
  · have ht := isPrintable_of_ofLine_eq_ok h
    exact ⟨ht, ofLine_toLine ht⟩
  · have hread : ofLines (types.map toLine) = .ok types := by
      have hlines : ∀ t ∈ types, (ofLine ∘ toLine) t = .ok (id t) := fun t ht =>
        ofLine_toLine (h t ht)
      rw [ofLines, List.mapM_map, mapM_eq_ok_of_forall hlines, List.map_id]
    refine ⟨hread, fun g base => ?_⟩
    rw [Generator.file, hread]

/-- Node types whose lines are full of separators that separate nothing. -/
def crowded : List NodeType :=
  [⟨"a ,b".toList, [⟨",Map<K,V>::T".toList, "x:y".toList⟩, ⟨"::".toList, "//".toList⟩]⟩,
    ⟨"//".toList, []⟩]

theorem ofLine_toLine_round_trip_crowded :
    crowded.map toLine = ["a ,b : ,Map<K,V>::T x:y, :: //".toList, "// : ".toList] ∧
    (∀ t ∈ crowded, ofLine t.toLine = .ok t) ∧
    ofLine "N\t:x y, ,z: w ".toList =
      .ok ⟨['N'], [⟨['x'], ['y']⟩, ⟨",z:".toList, ['w']⟩]⟩ ∧
    ofLine (toLine ⟨['N'], [⟨['x'], ['y']⟩, ⟨",z:".toList, ['w']⟩]⟩) =
      .ok ⟨['N'], [⟨['x'], ['y']⟩, ⟨",z:".toList, ['w']⟩]⟩ ∧
    ofLines (crowded.map toLine) = .ok crowded := by
  have hcrowded : ∀ t ∈ crowded, t.IsPrintable := by decide
  have hline : ofLine "N\t:x y, ,z: w ".toList =
      .ok ⟨['N'], [⟨['x'], ['y']⟩, ⟨",z:".toList, ['w']⟩]⟩ := by rfl
  obtain ⟨hprint, hread, hgrammar⟩ := ofLine_toLine_round_trip
  exact ⟨by rfl, fun t ht => hprint t (hcrowded t ht), hline, (hread _ _ hline).2,
    (hgrammar crowded hcrowded).1⟩

end NodeType

end AstHierarchy
