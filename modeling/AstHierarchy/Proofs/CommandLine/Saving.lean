import AstHierarchy.Hierarchy.Generator
import AstHierarchy.Proofs.CommandLine.Paths

/-!
# Making directories and saving files in a tree

What can be seen of a tree is what is at each location. Making directories changes it in one way
only (`FileTree.Grown`): where there was nothing on the path there may be a directory now, whether
the operation succeeds or fails half-way. If it succeeds, the path leads from directory to
directory. Writing a text then changes one location more.

* `FileTree.grown_makeDirectories` and `FileTree.isDirectory_of_makeDirectories`: making a directory
  with those above it.
* `FileTree.saved_of_writeText`: saving a file in a directory that is made first.
-/

namespace AstHierarchy.CommandLine.FileTree

variable {tree tree' : FileTree} {path : Text}

/-! ## Running actions on a tree -/

theorem run_bind {α β : Type} (x : StateM FileTree α) (f : α → StateM FileTree β)
    (tree : FileTree) : (x >>= f).run tree = (f (x.run tree).1).run (x.run tree).2 := rfl

theorem run_readText (path : Text) (tree : FileTree) :
    (FileSystem.readText path : StateM FileTree (Except FileError Text)).run tree =
      (tree.readText path, tree) := rfl

theorem run_isDirectory (path : Text) (tree : FileTree) :
    (FileSystem.isDirectory path : StateM FileTree Bool).run tree =
      (tree.isDirectory path, tree) := rfl

theorem run_writeText (path text : Text) (tree : FileTree) :
    (FileSystem.writeText path text : StateM FileTree (Except FileError Unit)).run tree =
      match tree.writeText path text with
      | .ok changed => (.ok (), changed)
      | .error e => (.error e, tree) := rfl

theorem run_makeDirectory (path : Text) (tree : FileTree) :
    (FileSystem.makeDirectory path : StateM FileTree (Except FileError Unit)).run tree =
      match tree.makeDirectory path with
      | .ok changed => (.ok (), changed)
      | .error e => (.error e, tree) := rfl

/-! ## Single operations -/

theorem find?_destination_of_absent {l : Location} (h : tree.target path = .ok (.absent l)) :
    l = tree.destination path ∧ tree.find? (tree.destination path) = none := by
  have hlook := (target_eq_ok h).1
  unfold look at hlook
  split at hlook
  · cases hlook
  · rename_i hnone
    exact ⟨Target.absent.inj hlook, hnone⟩

theorem find?_destination_of_found {l : Location} {e : Entry}
    (h : tree.target path = .ok (.found l e)) :
    l = tree.destination path ∧ tree.find? (tree.destination path) = some e := by
  have hlook := (target_eq_ok h).1
  unfold look at hlook
  split at hlook
  · rename_i hsome
    obtain ⟨hl, he⟩ := Target.found.inj hlook
    exact ⟨hl, by rw [hsome, he]⟩
  · cases hlook

theorem isDirectory_iff :
    tree.isDirectory path ↔ ∃ l, tree.target path = .ok (.found l .directory) := by
  unfold isDirectory
  split
  · rename_i l h
    simp [h]
  · rename_i h
    constructor
    · intro hfalse
      cases hfalse
    · rintro ⟨l, hl⟩
      exact absurd hl (h l)

/-- All that the path of a directory passes are directories. -/
theorem find?_of_isDirectory (h : tree.isDirectory path) :
    ∀ l ∈ tree.passed path, tree.find? l = some .directory := by
  obtain ⟨d, hd⟩ := isDirectory_iff.1 h
  intro l hl
  rcases (target_eq_ok hd).2 l hl with rfl | hl
  · exact (find?_destination_of_found hd).2
  · exact hl

/-- A new directory is made where there was nothing. -/
theorem makeDirectory_eq_ok (h : tree.makeDirectory path = .ok tree') :
    tree.find? (tree.destination path) = none ∧
      tree' = tree.insert (tree.destination path) .directory ∧ tree'.isDirectory path := by
  unfold makeDirectory at h
  split at h
  · cases h
  · cases h
  · rename_i l htarget
    obtain ⟨rfl, hnone⟩ := find?_destination_of_absent htarget
    obtain rfl := Except.ok.inj h
    have hfound := target_insert .directory htarget (by simp [hnone])
    exact ⟨hnone, rfl, isDirectory_iff.2 ⟨_, hfound⟩⟩

/-- A text is written where there is no directory. -/
theorem writeText_eq_ok {text : Text} (h : tree.writeText path text = .ok tree') :
    tree.find? (tree.destination path) ≠ some .directory ∧
      tree' = tree.insert (tree.destination path) (.file (some text)) ∧
      tree'.target path = .ok (.found (tree.destination path) (.file (some text))) := by
  obtain ⟨t, htarget⟩ : ∃ t, tree.target path = .ok t := by
    cases htarget : tree.target path with
    | error e =>
      simp only [writeText, htarget] at h
      cases h
    | ok t => exact ⟨t, rfl⟩
  have hplain : tree.find? (tree.destination path) ≠ some .directory ∧
      tree' = tree.insert (tree.destination path) (.file (some text)) := by
    simp only [writeText, htarget] at h
    cases t with
    | found l e =>
      obtain ⟨rfl, hfind⟩ := find?_destination_of_found htarget
      cases e with
      | directory => cases h
      | file text' => exact ⟨by simp [hfind], (Except.ok.inj h).symm⟩
    | absent l =>
      obtain ⟨rfl, hnone⟩ := find?_destination_of_absent htarget
      exact ⟨by simp [hnone], (Except.ok.inj h).symm⟩
  refine ⟨hplain.1, hplain.2, ?_⟩
  rw [hplain.2]
  exact target_insert _ htarget hplain.1

/-- What has been written can be read. -/
theorem readText_of_writeText {text : Text} (h : tree.writeText path text = .ok tree')
    (hpath : path.getLast? ≠ some '/') : tree'.readText path = .ok text := by
  simp only [readText, (writeText_eq_ok h).2.2, if_neg hpath]

/-! ## New directories -/

/-- Directories have been made at some of the locations where there was nothing, and nothing else
has changed. -/
structure Grown (locations : List Location) (tree tree' : FileTree) : Prop where
  workingDirectory : tree'.workingDirectory = tree.workingDirectory
  find? : ∀ l, tree'.find? l = tree.find? l ∨
    l ∈ locations ∧ tree.find? l = none ∧ tree'.find? l = some .directory

theorem Grown.refl (locations : List Location) (tree : FileTree) : Grown locations tree tree :=
  ⟨rfl, fun _ => .inl rfl⟩

theorem Grown.mono {few many : List Location} (h : Grown few tree tree') (hsub : few ⊆ many) :
    Grown many tree tree' := by
  refine ⟨h.1, fun l => ?_⟩
  rcases h.2 l with hsame | ⟨hl, hnone, hdir⟩
  · exact .inl hsame
  · exact .inr ⟨hsub hl, hnone, hdir⟩

theorem Grown.trans {tree'' : FileTree} {locations : List Location}
    (h : Grown locations tree tree') (h' : Grown locations tree' tree'') :
    Grown locations tree tree'' := by
  refine ⟨h'.1.trans h.1, fun l => ?_⟩
  rcases h.2 l with hsame | ⟨hl, hnone, hdir⟩
  · rw [← hsame]
    exact h'.2 l
  · rcases h'.2 l with hsame' | ⟨-, hnone', -⟩
    · exact .inr ⟨hl, hnone, hsame'.trans hdir⟩
    · rw [hdir] at hnone'
      cases hnone'

theorem grown_insert {l : Location} (h : tree.find? l = none) :
    Grown [l] tree (tree.insert l .directory) := by
  refine ⟨rfl, fun other => ?_⟩
  by_cases hother : other = l
  · subst hother
    have hne : other ≠ [] := by
      rintro rfl
      cases h
    exact .inr ⟨List.mem_cons_self, h, find?_insert_self tree hne _⟩
  · exact .inl (find?_insert_of_ne tree hother _)

/-! ## Making a directory after those above it -/

/-- The result of an action and the tree that it leaves. -/
abbrev After : Type := Except FileError Unit × FileTree

/-- How an attempt to make a directory ends. -/
inductive Attempted (path : Text) (tree : FileTree) : After → Prop
  /-- There is a new directory. -/
  | made {tree' : FileTree} (h : tree.makeDirectory path = .ok tree') :
      Attempted path tree (.ok (), tree')
  /-- There was a directory before. -/
  | there (h : tree.isDirectory path) : Attempted path tree (.ok (), tree)
  /-- There is no directory, nor any change. -/
  | refused (e : FileError) : Attempted path tree (.error e, tree)

/-- How making a directory ends that may need some `above` it. -/
inductive MadeAfter (path : Text) (above : StateM FileTree (Except FileError Unit))
    (tree : FileTree) : After → Prop
  /-- It does not need them. -/
  | atOnce {after : After} (h : Attempted path tree after) : MadeAfter path above tree after
  /-- They cannot be made. -/
  | blocked {e : FileError} {tree' : FileTree} (h : above.run tree = (.error e, tree')) :
      MadeAfter path above tree (.error e, tree')
  /-- They are made first. -/
  | later {tree' : FileTree} {after : After} (h : above.run tree = (.ok (), tree'))
      (h' : Attempted path tree' after) : MadeAfter path above tree after

theorem attempted_settle (path : Text) (e : FileError) (tree : FileTree) :
    Attempted path tree ((settle path e : StateM FileTree _).run tree) := by
  unfold settle
  rw [run_bind, run_isDirectory]
  cases hdirectory : tree.isDirectory path with
  | false => exact .refused e
  | true => exact .there hdirectory

theorem madeAfter_makeAfter (path : Text) (above : StateM FileTree (Except FileError Unit))
    (tree : FileTree) : MadeAfter path above tree ((makeAfter path above).run tree) := by
  unfold makeAfter
  rw [run_bind, run_makeDirectory]
  cases hfirst : tree.makeDirectory path with
  | ok tree' => exact .atOnce (.made hfirst)
  | error e =>
    cases e with
    | notFound =>
      show MadeAfter path above tree (StateT.run (m := Id) (above >>= _) tree)
      rw [run_bind]
      cases habove : above.run tree with
      | mk result tree' =>
        cases result with
        | error e => exact .blocked habove
        | ok _ =>
          refine .later habove ?_
          show Attempted path tree' (StateT.run (m := Id) (FileSystem.makeDirectory path >>= _) tree')
          rw [run_bind, run_makeDirectory]
          cases hsecond : tree'.makeDirectory path with
          | ok tree'' => exact .made hsecond
          | error e => exact attempted_settle path e tree'
    | alreadyExists | notDirectory | isDirectory | nameTooLong | notText | other reason =>
      exact .atOnce (attempted_settle path _ tree)

theorem Attempted.grown {after : After} (h : Attempted path tree after) :
    Grown (tree.passed path) tree after.2 := by
  cases h with
  | made h =>
    obtain ⟨hnone, rfl, -⟩ := makeDirectory_eq_ok h
    refine (grown_insert hnone).mono fun l hl => ?_
    rw [List.mem_singleton.1 hl]
    exact destination_mem_passed
  | there h => exact .refl _ tree
  | refused e => exact .refl _ tree

theorem Attempted.isDirectory (h : Attempted path tree (.ok (), tree')) :
    tree'.isDirectory path := by
  cases h with
  | made h => exact (makeDirectory_eq_ok h).2.2
  | there h => exact h

/-- The action makes directories on the way to `path` and nothing else, however it ends. -/
def MakesOn (path : Text) (action : StateM FileTree (Except FileError Unit)) : Prop :=
  ∀ tree : FileTree, Grown (tree.passed path) tree (action.run tree).2

theorem MakesOn.makeAfter {whole : Text} {above : StateM FileTree (Except FileError Unit)}
    (hpath : ∀ tree : FileTree, tree.passed path ⊆ tree.passed whole) (h : MakesOn whole above) :
    MakesOn whole (makeAfter path above) := by
  intro tree
  have hmade := madeAfter_makeAfter path above tree
  generalize (CommandLine.makeAfter path above).run tree = after at hmade ⊢
  cases hmade with
  | atOnce hattempt => exact hattempt.grown.mono (hpath tree)
  | blocked habove =>
    have hgrown := h tree
    rwa [habove] at hgrown
  | @later tree' _ habove hattempt =>
    have hgrown := h tree
    rw [habove] at hgrown
    have hagain := hattempt.grown.mono (hpath tree')
    rw [passed_congr hgrown.workingDirectory] at hagain
    exact hgrown.trans hagain

theorem makesOn_makeEach {whole : Text} {paths : List Text}
    (h : ∀ path ∈ paths, ∀ tree : FileTree, tree.passed path ⊆ tree.passed whole) :
    MakesOn whole (makeEach paths) := by
  induction paths with
  | nil => exact fun tree => .refl _ tree
  | cons path above ih =>
    exact .makeAfter (h path List.mem_cons_self)
      (ih fun other hother => h other (List.mem_cons_of_mem path hother))

/-- **Making a directory changes nothing but what is missing on its path**, also where it fails. -/
theorem grown_makeDirectories (path : Text) (tree : FileTree) :
    Grown (tree.passed path) tree ((makeDirectories path : StateM FileTree _).run tree).2 :=
  MakesOn.makeAfter (fun _ => List.Subset.refl _)
    (makesOn_makeEach fun _ habove _ => passed_subset_of_mem_directoriesAbove habove) tree

/-- **Where making a directory succeeds, there is one.** -/
theorem isDirectory_of_makeDirectories
    (h : (makeDirectories path : StateM FileTree _).run tree = (.ok (), tree')) :
    tree'.isDirectory path := by
  have hmade : MadeAfter path (makeEach (directoriesAbove path)) tree (.ok (), tree') := by
    rw [← h]
    exact madeAfter_makeAfter _ _ tree
  cases hmade with
  | atOnce hattempt => exact hattempt.isDirectory
  | later _ hattempt => exact hattempt.isDirectory

/-! ## Saving a file -/

/-- The file has been saved in the directory: it is there with its contents, whatever was there
before, on the path of the directory there are directories where something was missing, and nothing
else has changed. -/
structure Saved (directory : Text) (file : GeneratedFile) (tree tree' : FileTree) : Prop where
  workingDirectory : tree'.workingDirectory = tree.workingDirectory
  directories : ∀ l ∈ tree.passed directory, tree'.find? l = some .directory
  found : tree'.find? (tree.destination directory ++ [file.name]) =
    some (.file (some file.contents))
  readText : tree'.readText (joinPath directory file.name) = .ok file.contents
  others : ∀ l, l ≠ tree.destination directory ++ [file.name] →
    tree'.find? l = tree.find? l ∨
      l ∈ tree.passed directory ∧ tree.find? l = none ∧ tree'.find? l = some .directory

theorem saved_of_writeText {directory : Text} {file : GeneratedFile} {made : FileTree}
    (hdirectory : directory ≠ []) (hname : IsName file.name) (hlength : 2 < file.name.length)
    (hmake : (makeDirectories directory : StateM FileTree _).run tree = (.ok (), made))
    (hwrite : made.writeText (joinPath directory file.name) file.contents = .ok tree') :
    Saved directory file tree tree' := by
  have hgrown := grown_makeDirectories directory tree
  rw [hmake] at hgrown
  have hpassed : ∀ l ∈ tree.passed directory, made.find? l = some .directory := by
    rw [← passed_congr hgrown.workingDirectory]
    exact find?_of_isDirectory (isDirectory_of_makeDirectories hmake)
  have hplace : made.destination (joinPath directory file.name) =
      tree.destination directory ++ [file.name] := by
    rw [destination_joinPath hdirectory hname hlength,
      destination_congr hgrown.workingDirectory]
  obtain ⟨hnot, rfl, -⟩ := writeText_eq_ok hwrite
  rw [hplace] at hnot ⊢
  have hread := readText_of_writeText hwrite (getLast?_joinPath_ne_slash hname)
  rw [hplace] at hread
  refine ⟨hgrown.workingDirectory, fun l hl => ?_, ?_, hread, fun l hl => ?_⟩
  · -- the file does not take the place of a directory
    have hne : l ≠ tree.destination directory ++ [file.name] := by
      rintro rfl
      exact hnot (hpassed _ hl)
    rw [find?_insert_of_ne made hne, hpassed l hl]
  · exact find?_insert_self made (by simp) _
  · rw [find?_insert_of_ne made hl]
    exact hgrown.find? l

end AstHierarchy.CommandLine.FileTree
