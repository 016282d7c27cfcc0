import AstHierarchy.CommandLine.Arguments
import AstHierarchy.Proofs.Outcome

/-!
# What arguments say

Options can be put together and their values can be written in several ways, but in the end an
argument vector raises flags, gives values to settings and names an output directory. These are its
sayings, one after the other, and what a vector says does not depend on what has been said before
it. So a law of reading is a law of single sayings (`Arguments.say`), carried along a list of them
(`Arguments.sayAll`).

* `Arguments.wellSaid_of_read`: the output directory is not the empty path and the language is one
  of those at hand.
* `Arguments.read_cons_stdout`: asking for the file on standard output changes nothing else.
-/

namespace AstHierarchy.CommandLine

/-- One thing that is said on the command line. -/
inductive Saying where
  /-- A flag is raised. -/
  | raise (f : Flag)
  /-- A setting is given a value. -/
  | give (value : Text) (s : Setting)
  /-- The output directory is named. -/
  | place (value : Text)

namespace Arguments

/-- What has been said, and one thing more. -/
def say (a : Arguments) : Saying → Except Refusal Arguments
  | .raise f => a.raise f
  | .give value s => a.give value s
  | .place value => a.place value

/-- What has been said, and more of it, from left to right. -/
def sayAll (a : Arguments) : List Saying → Except Refusal Arguments
  | [] => .ok a
  | x :: rest => a.say x >>= fun b => b.sayAll rest

@[simp] theorem sayAll_nil (a : Arguments) : a.sayAll [] = .ok a := rfl

theorem sayAll_cons_eq_ok_iff {a c : Arguments} {x : Saying} {rest : List Saying} :
    a.sayAll (x :: rest) = .ok c ↔ ∃ b, a.say x = .ok b ∧ b.sayAll rest = .ok c :=
  bind_eq_ok_iff

theorem sayAll_singleton_eq_ok_iff {a b : Arguments} {x : Saying} :
    a.sayAll [x] = .ok b ↔ a.say x = .ok b := by
  unfold sayAll
  cases a.say x <;> rfl

theorem sayAll_append_eq_ok_iff {a c : Arguments} {xs ys : List Saying} :
    a.sayAll (xs ++ ys) = .ok c ↔ ∃ b, a.sayAll xs = .ok b ∧ b.sayAll ys = .ok c := by
  induction xs generalizing a with
  | nil => simp
  | cons x xs ih =>
    rw [List.cons_append, sayAll_cons_eq_ok_iff]
    constructor
    · rintro ⟨b, hx, h⟩
      obtain ⟨d, hxs, hys⟩ := ih.1 h
      exact ⟨d, sayAll_cons_eq_ok_iff.2 ⟨b, hx, hxs⟩, hys⟩
    · rintro ⟨d, h, hys⟩
      obtain ⟨b, hx, hxs⟩ := sayAll_cons_eq_ok_iff.1 h
      exact ⟨b, hx, ih.2 ⟨d, hxs, hys⟩⟩

/-! ## Reading is saying -/

/-- Wherever the things can be said, the reading succeeds and says them. -/
def Says {α : Type} (xs : List Saying) (reading : Arguments → Except Refusal α)
    (result : Arguments → α) : Prop :=
  ∀ {a b : Arguments}, a.sayAll xs = .ok b → reading a = .ok (result b)

/-- Where a reading succeeds by saying nothing. -/
theorem exists_says_nothing {a b : Arguments} {left left' : Option Setting}
    (h : (.ok (a, left) : Except Refusal (Arguments × Option Setting)) = .ok (b, left')) :
    ∃ xs, a.sayAll xs = .ok b ∧ Says xs (fun a => .ok (a, left)) (·, left') := by
  obtain ⟨rfl, rfl⟩ := Prod.mk.inj (Except.ok.inj h)
  exact ⟨[], rfl, fun h' => by rw [Except.ok.inj h']⟩

/-- Where a reading succeeds by saying one thing. -/
theorem exists_says_of_say {a b : Arguments} {x : Saying} {left left' : Option Setting}
    (h : (a.say x).map (·, left) = .ok (b, left')) :
    ∃ xs, a.sayAll xs = .ok b ∧ Says xs (fun a => (a.say x).map (·, left)) (·, left') := by
  obtain ⟨c, hx, hpair⟩ := map_eq_ok_iff.1 h
  obtain ⟨rfl, rfl⟩ := Prod.mk.inj hpair
  exact ⟨[x], sayAll_singleton_eq_ok_iff.2 hx,
    fun {a' b'} h' => map_eq_ok_iff.2 ⟨b', sayAll_singleton_eq_ok_iff.1 h', rfl⟩⟩

theorem exists_says_of_readLong {a b : Arguments} {option : Text} {left : Option Setting}
    (h : a.readLong option = .ok (b, left)) :
    ∃ xs, a.sayAll xs = .ok b ∧ Says xs (·.readLong option) (·, left) := by
  cases hcut : Text.cutAt '=' option with
  | none =>
    cases hkey : Key.ofName? option with
    | none =>
      simp only [readLong, hcut, hkey] at h
      cases h
    | some key =>
      cases key with
      | flag f =>
        have hread (a : Arguments) : a.readLong option = (a.say (.raise f)).map (·, none) := by
          simp only [readLong, hcut, hkey, say]
        simp only [hread] at h ⊢
        exact exists_says_of_say h
      | setting s =>
        have hread (a : Arguments) : a.readLong option = .ok (a, some s) := by
          simp only [readLong, hcut, hkey]
        simp only [hread] at h ⊢
        exact exists_says_nothing h
  | some cut =>
    obtain ⟨name, value⟩ := cut
    cases hkey : Key.ofName? name with
    | none =>
      simp only [readLong, hcut, hkey] at h
      cases h
    | some key =>
      cases key with
      | flag f =>
        simp only [readLong, hcut, hkey] at h
        cases h
      | setting s =>
        have hread (a : Arguments) :
            a.readLong option = (a.say (.give value s)).map (·, none) := by
          simp only [readLong, hcut, hkey, say]
        simp only [hread] at h ⊢
        exact exists_says_of_say h

/-- A reading that goes on as `rest` once some things have been said says these and then what
`rest` says. -/
theorem exists_says_append {α : Type} {a b c : Arguments} {xs : List Saying}
    {reading rest : Arguments → Except Refusal α} {result : Arguments → α}
    (hxs : a.sayAll xs = .ok b) (hreading : ∀ {a b}, a.sayAll xs = .ok b → reading a = rest b)
    (h : ∃ ys, b.sayAll ys = .ok c ∧ Says ys rest result) :
    ∃ zs, a.sayAll zs = .ok c ∧ Says zs reading result := by
  obtain ⟨ys, hys, hsays⟩ := h
  refine ⟨xs ++ ys, sayAll_append_eq_ok_iff.2 ⟨b, hxs, hys⟩, fun h' => ?_⟩
  obtain ⟨d, hd, hrest⟩ := sayAll_append_eq_ok_iff.1 h'
  rw [hreading hd, hsays hrest]

theorem exists_says_of_readLetters {a b : Arguments} {letters : Text} {left : Option Setting}
    (h : a.readLetters letters = .ok (b, left)) :
    ∃ xs, a.sayAll xs = .ok b ∧ Says xs (·.readLetters letters) (·, left) := by
  induction letters generalizing a with
  | nil => exact exists_says_nothing h
  | cons letter rest ih =>
    cases hkey : Key.ofLetter? letter with
    | none =>
      simp only [readLetters, hkey] at h
      cases h
    | some key =>
      cases key with
      | flag f =>
        cases hraise : a.raise f with
        | error e =>
          simp only [readLetters, hkey, hraise] at h
          cases h
        | ok c =>
          simp only [readLetters, hkey, hraise] at h
          have hsay : a.sayAll [.raise f] = .ok c := sayAll_singleton_eq_ok_iff.2 hraise
          refine exists_says_append hsay (fun {a b} hx => ?_) (ih h)
          have hx : a.raise f = .ok b := sayAll_singleton_eq_ok_iff.1 hx
          simp only [readLetters, hkey, hx]
      | setting s =>
        -- what follows the letter is its value, without the equals sign if there is one
        have hread : (∀ a : Arguments, a.readLetters (letter :: rest) = .ok (a, some s)) ∨
            ∃ value, ∀ a : Arguments,
              a.readLetters (letter :: rest) = (a.say (.give value s)).map (·, none) := by
          simp only [readLetters, hkey, say]
          split
          · exact .inl fun a => rfl
          · exact .inr ⟨_, fun a => rfl⟩
          · exact .inr ⟨_, fun a => rfl⟩
        rcases hread with hread | ⟨value, hread⟩
        · simp only [hread] at h ⊢
          exact exists_says_nothing h
        · simp only [hread] at h ⊢
          exact exists_says_of_say h

theorem exists_says_of_readValues {a b : Arguments} {values : List Text}
    (h : a.readValues values = .ok b) :
    ∃ xs, a.sayAll xs = .ok b ∧ Says xs (·.readValues values) id := by
  induction values generalizing a with
  | nil => exact ⟨[], h, fun h' => h'⟩
  | cons value rest ih =>
    cases hplace : a.place value with
    | error e =>
      simp only [readValues, hplace] at h
      cases h
    | ok c =>
      simp only [readValues, hplace] at h
      have hsay : a.sayAll [.place value] = .ok c := sayAll_singleton_eq_ok_iff.2 hplace
      refine exists_says_append hsay (fun {a b} hx => ?_) (ih h)
      have hx : a.place value = .ok b := sayAll_singleton_eq_ok_iff.1 hx
      simp only [readValues, hx]

/-- How one argument is read when no value is left open: the arguments after it are all values, or
it says something of its own. -/
theorem readAll_cons_cases (argument : Text) (rest : List Text) :
    (∀ a, readAll a none (argument :: rest) = a.readValues rest) ∨
      ∃ reading : Arguments → Except Refusal (Arguments × Option Setting),
        (∀ a, readAll a none (argument :: rest) =
          reading a >>= fun read => readAll read.1 read.2 rest) ∧
        ∀ {a b left}, reading a = .ok (b, left) →
          ∃ xs, a.sayAll xs = .ok b ∧ Says xs reading (·, left) := by
  simp only [readAll]
  split
  · exact .inl fun a => rfl
  · rename_i option _
    refine .inr ⟨(·.readLong option), fun a => ?_, exists_says_of_readLong⟩
    show _ = a.readLong option >>= _
    cases a.readLong option <;> rfl
  · rename_i letter letters _ _
    refine .inr ⟨(·.readLetters (letter :: letters)), fun a => ?_, exists_says_of_readLetters⟩
    show _ = a.readLetters (letter :: letters) >>= _
    cases a.readLetters (letter :: letters) <;> rfl
  · refine .inr ⟨fun a => (a.say (.place argument)).map (·, none), fun a => ?_, exists_says_of_say⟩
    show _ = (a.place argument).map (·, none) >>= _
    cases a.place argument <;> rfl

/-- **Arguments that can be read amount to sayings**, which do not depend on what has been said
before. -/
theorem exists_says_of_readAll {a b : Arguments} {left : Option Setting} {arguments : List Text}
    (h : readAll a left arguments = .ok b) :
    ∃ xs, a.sayAll xs = .ok b ∧ Says xs (readAll · left arguments) id := by
  induction arguments generalizing a left with
  | nil =>
    cases left with
    | none => exact ⟨[], h, fun h' => h'⟩
    | some s => cases h
  | cons argument rest ih =>
    cases left with
    | some s =>
      by_cases hoption : isOption argument
      · simp only [readAll, hoption, if_true] at h
        cases h
      · cases hgive : a.give argument s with
        | error e =>
          simp only [readAll, hoption, hgive] at h
          cases h
        | ok c =>
          simp only [readAll, hoption, hgive] at h
          have hsay : a.sayAll [.give argument s] = .ok c := sayAll_singleton_eq_ok_iff.2 hgive
          refine exists_says_append hsay (fun {a b} hx => ?_) (ih h)
          have hx : a.give argument s = .ok b := sayAll_singleton_eq_ok_iff.1 hx
          simp only [readAll, hoption, hx]
          rfl
    | none =>
      rcases readAll_cons_cases argument rest with hread | ⟨reading, hread, hsays⟩
      · simp only [hread] at h ⊢
        exact exists_says_of_readValues h
      · simp only [hread] at h ⊢
        obtain ⟨⟨c, left⟩, hfirst, hrest⟩ := bind_eq_ok_iff.1 h
        obtain ⟨xs, hxs, hsaid⟩ := hsays hfirst
        exact exists_says_append hxs (fun {a b} hx => by rw [hsaid hx, ok_bind]) (ih hrest)

/-! ## The rules of saying -/

/-- What can be said, with what has been said before and after it. -/
inductive Said : Arguments → Saying → Arguments → Prop
  | stdout {a} (h : a.stdout = false) : Said a (.raise .stdout) { a with stdout := true }
  | dumpTypes {a} (h : a.dumpTypes = false) :
      Said a (.raise .dumpTypes) { a with dumpTypes := true }
  | verbose {a} (h : a.verbose = false) : Said a (.raise .verbose) { a with verbose := true }
  | base {a} (h : a.base = none) (value : Text) :
      Said a (.give value .base) { a with base := some value }
  | grammar {a} (h : a.grammar = none) {value : Text} (hvalue : value ≠ []) :
      Said a (.give value .grammar) { a with grammar := some value }
  | language {a} (h : a.language = none) {value : Text} {l : Language}
      (hvalue : Language.ofId? value = some l) :
      Said a (.give value .language) { a with language := some l }
  | namespaceName {a} (h : a.namespaceName = none) (value : Text) :
      Said a (.give value .namespaceName) { a with namespaceName := some value }
  | outputDirectory {a} (h : a.outputDirectory = none) {value : Text} (hvalue : value ≠ []) :
      Said a (.place value) { a with outputDirectory := some value }

theorem said_of_raise {a b : Arguments} {f : Flag} (h : a.raise f = .ok b) :
    Said a (.raise f) b := by
  cases f with
  | help => cases h
  | stdout =>
    cases hflag : a.stdout <;> simp only [raise, hflag] at h <;> cases h
    exact .stdout hflag
  | dumpTypes =>
    cases hflag : a.dumpTypes <;> simp only [raise, hflag] at h <;> cases h
    exact .dumpTypes hflag
  | verbose =>
    cases hflag : a.verbose <;> simp only [raise, hflag] at h <;> cases h
    exact .verbose hflag

theorem said_of_give {a b : Arguments} {value : Text} {s : Setting} (h : a.give value s = .ok b) :
    Said a (.give value s) b := by
  cases s with
  | base =>
    cases hbase : a.base <;> simp only [give, hbase] at h <;> cases h
    exact .base hbase value
  | grammar =>
    cases value with
    | nil => simp [give] at h
    | cons c rest =>
      cases hgrammar : a.grammar <;> simp only [give, hgrammar] at h <;> cases h
      exact .grammar hgrammar (List.cons_ne_nil c rest)
  | language =>
    cases hvalue : Language.ofId? value with
    | none => simp [give, hvalue] at h
    | some l =>
      cases hlanguage : a.language <;> simp only [give, hlanguage, hvalue] at h <;> cases h
      exact .language hlanguage hvalue
  | namespaceName =>
    cases hname : a.namespaceName <;> simp only [give, hname] at h <;> cases h
    exact .namespaceName hname value

theorem said_of_place {a b : Arguments} {value : Text} (h : a.place value = .ok b) :
    Said a (.place value) b := by
  cases value with
  | nil => simp [place] at h
  | cons c rest =>
    cases hplace : a.outputDirectory <;> simp only [place, hplace] at h <;> cases h
    exact .outputDirectory hplace (List.cons_ne_nil c rest)

theorem Said.say {a b : Arguments} {x : Saying} (h : Said a x b) : a.say x = .ok b := by
  cases h with
  | stdout h | dumpTypes h | verbose h => simp [Arguments.say, raise, h]
  | base h value | namespaceName h value => simp [Arguments.say, give, h]
  | grammar h hvalue => simp [Arguments.say, give, h, hvalue]
  | language h hvalue => simp [Arguments.say, give, h, hvalue]
  | outputDirectory h hvalue => simp [Arguments.say, place, h, hvalue]

/-- The rules are those by which the program takes down what is said. -/
theorem say_eq_ok_iff {a b : Arguments} {x : Saying} : a.say x = .ok b ↔ Said a x b := by
  refine ⟨fun h => ?_, Said.say⟩
  cases x with
  | raise f => exact said_of_raise h
  | give value s => exact said_of_give h
  | place value => exact said_of_place h

/-- What is given is what is asked for. -/
theorem asked_of_give {a b : Arguments} {value : Text} :
    (a.give value .language = .ok b → Language.ofId? value = some b.generator.language) ∧
    (a.give value .namespaceName = .ok b → b.generator.namespaceName = some value) ∧
    (a.give value .base = .ok b → b.baseName = value) := by
  refine ⟨fun h => ?_, fun h => ?_, fun h => ?_⟩
  · cases said_of_give h with
    | language _ hvalue => exact hvalue
  · cases said_of_give h with
    | namespaceName => rfl
  · cases said_of_give h with
    | base => rfl

/-! ## What is well said -/

/-- What holds of the arguments however they are said: the output directory is no empty path and the
language is one of those at hand. -/
structure WellSaid (a : Arguments) : Prop where
  outputDirectory : ∀ d, a.outputDirectory = some d → d ≠ []
  language : ∀ l, a.language = some l → l ∈ Language.builtIn

theorem wellSaid_nothing : WellSaid {} where
  outputDirectory := by
    intro d h
    cases h
  language := by
    intro l h
    cases h

theorem WellSaid.of_said {a b : Arguments} {x : Saying} (h : a.WellSaid) (hx : Said a x b) :
    b.WellSaid := by
  cases hx with
  | stdout | dumpTypes | verbose | base | grammar | namespaceName => exact ⟨h.1, h.2⟩
  | language _ hvalue =>
    refine ⟨h.1, fun l hl => ?_⟩
    obtain rfl := Option.some.inj hl
    exact List.mem_of_find?_eq_some hvalue
  | outputDirectory _ hvalue =>
    refine ⟨fun d hd => ?_, h.2⟩
    obtain rfl := Option.some.inj hd
    exact hvalue

theorem WellSaid.of_sayAll {a b : Arguments} {xs : List Saying} (h : a.WellSaid)
    (hxs : a.sayAll xs = .ok b) : b.WellSaid := by
  induction xs generalizing a with
  | nil =>
    obtain rfl := Except.ok.inj hxs
    exact h
  | cons x rest ih =>
    obtain ⟨c, hx, hrest⟩ := sayAll_cons_eq_ok_iff.1 hxs
    exact ih (h.of_said (say_eq_ok_iff.1 hx)) hrest

/-- What is complete and can be read. -/
theorem read_eq_ok_iff {arguments : List Text} {a : Arguments} :
    read arguments = .ok a ↔ readAll {} none arguments = .ok a ∧ a.isComplete := by
  unfold read
  cases hread : readAll {} none arguments with
  | error e => simp
  | ok b =>
    by_cases hcomplete : b.isComplete
    · simp only [hcomplete, if_true]
      constructor
      · intro h
        obtain rfl := Except.ok.inj h
        exact ⟨rfl, hcomplete⟩
      · exact And.left
    · simp only [hcomplete]
      constructor
      · intro h
        cases h
      · rintro ⟨h, ha⟩
        rw [Except.ok.inj h] at hcomplete
        exact absurd ha hcomplete

/-- The language that is asked for is at hand. -/
theorem WellSaid.language_mem {a : Arguments} (h : a.WellSaid) :
    a.language.getD Language.php ∈ Language.builtIn := by
  cases hlanguage : a.language with
  | none => exact List.mem_cons_self
  | some l => exact h.language l hlanguage

/-- Arguments that are accepted: they are well said, and an output directory is among them unless
something is to be printed. -/
structure Accepted (a : Arguments) : Prop extends a.WellSaid where
  outputDirectory_isSome : a.stdout = false → a.dumpTypes = false → a.outputDirectory.isSome

/-- Arguments that can be read are accepted. -/
theorem accepted_of_read {arguments : List Text} {a : Arguments} (h : read arguments = .ok a) :
    a.Accepted := by
  obtain ⟨hread, hcomplete⟩ := read_eq_ok_iff.1 h
  obtain ⟨xs, hxs, -⟩ := exists_says_of_readAll hread
  refine ⟨wellSaid_nothing.of_sayAll hxs, fun hstdout hdump => ?_⟩
  simpa only [isComplete, hstdout, hdump, Bool.or_false] using hcomplete

/-- Where nothing is printed instead, there is a directory to save the file in. -/
theorem Accepted.exists_outputDirectory {a : Arguments} (h : a.Accepted)
    (hstdout : a.stdout = false) (hdump : a.dumpTypes = false) :
    ∃ d, a.outputDirectory = some d ∧ d ≠ [] := by
  obtain ⟨d, hd⟩ := Option.isSome_iff_exists.1 (h.outputDirectory_isSome hstdout hdump)
  exact ⟨d, hd, h.outputDirectory d hd⟩

/-! ## Asking for standard output -/

/-- The arguments with the file asked for on standard output. -/
def toStdout (a : Arguments) : Arguments := { a with stdout := true }

/-- They are accepted as well: there is no need for a directory then. -/
theorem Accepted.toStdout {a : Arguments} (h : a.Accepted) : a.toStdout.Accepted where
  outputDirectory := h.outputDirectory
  language := h.language
  outputDirectory_isSome hstdout := nomatch hstdout

theorem Said.toStdout {a b : Arguments} {x : Saying} (h : Said a x b) (hb : b.stdout = false) :
    a.stdout = false ∧ Said a.toStdout x b.toStdout := by
  cases h with
  | stdout h => cases hb
  | dumpTypes h => exact ⟨hb, .dumpTypes (a := a.toStdout) h⟩
  | verbose h => exact ⟨hb, .verbose (a := a.toStdout) h⟩
  | base h value => exact ⟨hb, .base (a := a.toStdout) h value⟩
  | grammar h hvalue => exact ⟨hb, .grammar (a := a.toStdout) h hvalue⟩
  | language h hvalue => exact ⟨hb, .language (a := a.toStdout) h hvalue⟩
  | namespaceName h value => exact ⟨hb, .namespaceName (a := a.toStdout) h value⟩
  | outputDirectory h hvalue => exact ⟨hb, .outputDirectory (a := a.toStdout) h hvalue⟩

theorem sayAll_toStdout {a b : Arguments} {xs : List Saying} (h : a.sayAll xs = .ok b)
    (hb : b.stdout = false) : a.stdout = false ∧ a.toStdout.sayAll xs = .ok b.toStdout := by
  induction xs generalizing a with
  | nil =>
    obtain rfl := Except.ok.inj h
    exact ⟨hb, rfl⟩
  | cons x rest ih =>
    obtain ⟨c, hx, hrest⟩ := sayAll_cons_eq_ok_iff.1 h
    obtain ⟨hc, hrest⟩ := ih hrest
    obtain ⟨ha, hx⟩ := (say_eq_ok_iff.1 hx).toStdout hc
    exact ⟨ha, sayAll_cons_eq_ok_iff.2 ⟨c.toStdout, say_eq_ok_iff.2 hx, hrest⟩⟩

/-- **Asking for standard output first changes nothing else** that the arguments say. -/
theorem read_cons_stdout {arguments : List Text} {a : Arguments} (h : read arguments = .ok a)
    (ha : a.stdout = false) : read ("--stdout".toList :: arguments) = .ok a.toStdout := by
  obtain ⟨xs, hxs, hsays⟩ := exists_says_of_readAll (read_eq_ok_iff.1 h).1
  have hrest := hsays (sayAll_toStdout hxs ha).2
  exact read_eq_ok_iff.2 ⟨hrest, by simp [isComplete, toStdout]⟩

end Arguments

end AstHierarchy.CommandLine
