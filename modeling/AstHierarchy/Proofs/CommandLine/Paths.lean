import AstHierarchy.CommandLine.FileTree
import AstHierarchy.Proofs.Text.Lines

/-!
# Where paths lead

A path leads from location to location, one for each of its names, whatever is there: `.` stays,
`..` goes back up and any other name goes one further down (`enter`). `FileTree.passed` lists the
locations that a path passes, the one it leads to included, and `FileTree.destination` is that last
one. Both depend on the tree only through its working directory.

* `FileTree.passed_subset_of_mem_directoriesAbove`: the paths of the directories above a path pass
  nothing that the path does not pass.
* `FileTree.destination_joinPath`: a file in a directory is one further down than the directory.
* `FileTree.target_eq_ok`: a path that can be followed leads to its destination, and all that it
  passes on the way are directories.
-/

namespace AstHierarchy.CommandLine

/-! ## Names -/

/-- What can be a name on a path. -/
def IsName (name : Text) : Prop := name ≠ [] ∧ '/' ∉ name

theorem isName_of_mem_namesOf {path name : Text} (h : name ∈ namesOf path) : IsName name := by
  obtain ⟨hmem, hne⟩ := List.mem_filter.1 h
  exact ⟨by simpa using hne, Text.not_mem_of_mem_splitOn hmem⟩

theorem namesOf_append_slash (s t : Text) : namesOf (s ++ '/' :: t) = namesOf s ++ namesOf t := by
  rw [namesOf, List.splitOn_append_cons_self, List.filter_append]
  rfl

theorem namesOf_slash (t : Text) : namesOf ('/' :: t) = namesOf t := namesOf_append_slash [] t

/-- Joining names and taking the path apart again gives the names. -/
theorem namesOf_intercalate {names : List Text} (h : ∀ name ∈ names, IsName name) :
    namesOf (['/'].intercalate names) = names := by
  by_cases hnil : names = []
  · rw [hnil]
    rfl
  · rw [namesOf, List.splitOn_intercalate '/' (fun name hname => (h name hname).2) hnil]
    refine List.filter_eq_self.2 fun name hname => ?_
    simpa using (h name hname).1

theorem namesOf_of_isName {name : Text} (h : IsName name) : namesOf name = [name] := by
  have hjoin : namesOf (['/'].intercalate [name]) = [name] :=
    namesOf_intercalate (by simpa using h)
  rwa [List.intercalate_singleton] at hjoin

/-- Names do not begin with a slash, nor does what they are joined to. -/
theorem head?_intercalate_ne_slash {names : List Text} (h : ∀ name ∈ names, IsName name) :
    (['/'].intercalate names).head? ≠ some '/' := by
  cases names with
  | nil => simp
  | cons name rest =>
    obtain ⟨hne, hslash⟩ := h name List.mem_cons_self
    obtain ⟨c, more, rfl⟩ := List.exists_cons_of_ne_nil hne
    rw [Text.intercalate_cons]
    intro hhead
    obtain rfl : c = '/' := Option.some.inj hhead
    exact hslash List.mem_cons_self

/-! ## Paths made from others -/

theorem namesOf_pathLike {path : Text} {names : List Text} (h : ∀ name ∈ names, IsName name) :
    namesOf (pathLike path names) = names := by
  unfold pathLike
  split
  · rw [List.singleton_append, namesOf_slash, namesOf_intercalate h]
  · rw [List.nil_append, namesOf_intercalate h]

theorem head?_pathLike {path : Text} {names : List Text} (h : ∀ name ∈ names, IsName name) :
    (pathLike path names).head? = some '/' ↔ path.head? = some '/' := by
  unfold pathLike
  split
  · rename_i hpath
    simp [hpath]
  · rename_i hpath
    simpa [hpath] using head?_intercalate_ne_slash h

theorem namesOf_joinPath {directory file : Text} (h : IsName file) :
    namesOf (joinPath directory file) = namesOf directory ++ [file] := by
  obtain ⟨hne, hslash⟩ := h
  unfold joinPath
  split
  · simp at hslash
  · split
    · rename_i hlast
      -- the slash at the end of the directory has an empty name after it, which does not count
      obtain ⟨before, rfl⟩ := List.getLast?_eq_some_iff.1 hlast
      rw [List.append_assoc, List.singleton_append, namesOf_append_slash, namesOf_append_slash,
        namesOf_of_isName ⟨hne, hslash⟩]
      show _ = namesOf before ++ [] ++ [file]
      rw [List.append_nil]
    · rw [namesOf_append_slash, namesOf_of_isName ⟨hne, hslash⟩]

theorem head?_joinPath {directory file : Text} (hdirectory : directory ≠ []) (h : IsName file) :
    (joinPath directory file).head? = directory.head? := by
  obtain ⟨c, rest, rfl⟩ := List.exists_cons_of_ne_nil hdirectory
  unfold joinPath
  split
  · exact absurd List.mem_cons_self h.2
  · split <;> rfl

/-- The path of a file does not end in a slash. -/
theorem getLast?_joinPath_ne_slash {directory file : Text} (h : IsName file) :
    (joinPath directory file).getLast? ≠ some '/' := by
  have hlast : (joinPath directory file).getLast? = file.getLast? := by
    obtain ⟨c, hc⟩ := Option.ne_none_iff_exists'.1 (mt List.getLast?_eq_none_iff.1 h.1)
    unfold joinPath
    split
    · rfl
    · split <;> simp [List.getLast?_append, List.getLast?_cons, hc]
  rw [hlast]
  exact fun hslash => h.2 (List.mem_of_getLast? hslash)

namespace FileTree

variable {tree : FileTree} {path : Text}

/-! ## Locations on a path -/

/-- Where a name leads from a location. -/
def enter (l : Location) (name : Text) : Location :=
  if name = ['.'] then l else if name = ['.', '.'] then l.dropLast else l ++ [name]

/-- The locations that names pass from a location on. -/
def passedFrom (l : Location) : List Text → List Location
  | [] => [l]
  | name :: rest => l :: passedFrom (enter l name) rest

/-- The locations that a path passes, from its start to the one it leads to. -/
def passed (tree : FileTree) (path : Text) : List Location :=
  passedFrom (tree.startOf path) (namesOf path)

/-- The location that a path leads to. -/
def destination (tree : FileTree) (path : Text) : Location :=
  (namesOf path).foldl enter (tree.startOf path)

theorem foldl_enter_mem_passedFrom (l : Location) (names : List Text) :
    names.foldl enter l ∈ passedFrom l names := by
  induction names generalizing l with
  | nil => exact List.mem_cons_self
  | cons name rest ih => exact List.mem_cons_of_mem l (ih (enter l name))

theorem destination_mem_passed : tree.destination path ∈ tree.passed path :=
  foldl_enter_mem_passedFrom _ _

theorem passedFrom_take_subset (l : Location) (names : List Text) (n : Nat) :
    passedFrom l (names.take n) ⊆ passedFrom l names := by
  induction names generalizing l n with
  | nil => simp
  | cons name rest ih =>
    cases n with
    | zero => simp [passedFrom]
    | succ n => exact List.cons_subset_cons l (ih (enter l name) n)

/-- A `.` passes nothing new. -/
theorem passedFrom_filter_subset (l : Location) (names : List Text) :
    passedFrom l (names.filter fun name => name != ['.']) ⊆ passedFrom l names := by
  induction names generalizing l with
  | nil => simp
  | cons name rest ih =>
    by_cases hname : name = ['.']
    · rw [List.filter_cons_of_neg (by simpa using hname)]
      have hstay : enter l name = l := if_pos hname
      have hrest := ih (enter l name)
      rw [hstay] at hrest
      exact List.subset_cons_of_subset l (by rwa [hstay])
    · rw [List.filter_cons_of_pos (by simpa using hname)]
      exact List.cons_subset_cons l (ih (enter l name))

theorem startOf_congr {tree' : FileTree} {path' : Text}
    (htree : tree'.workingDirectory = tree.workingDirectory)
    (hpath : path'.head? = some '/' ↔ path.head? = some '/') :
    tree'.startOf path' = tree.startOf path := by
  simp only [startOf, htree, hpath]

theorem passed_congr {tree' : FileTree} (h : tree'.workingDirectory = tree.workingDirectory)
    (path : Text) : tree'.passed path = tree.passed path := by
  rw [passed, passed, startOf_congr h Iff.rfl]

theorem destination_congr {tree' : FileTree} (h : tree'.workingDirectory = tree.workingDirectory)
    (path : Text) : tree'.destination path = tree.destination path := by
  rw [destination, destination, startOf_congr h Iff.rfl]

/-- **The paths of the directories above a path pass nothing that the path does not pass.** -/
theorem passed_subset_of_mem_directoriesAbove {above : Text} (h : above ∈ directoriesAbove path) :
    tree.passed above ⊆ tree.passed path := by
  obtain ⟨n, -, rfl⟩ := List.mem_map.1 h
  have hnames : ∀ name ∈ ((namesOf path).filter fun name => name != ['.']).take (n + 1),
      IsName name := fun name hname =>
    isName_of_mem_namesOf (List.mem_filter.1 (List.mem_of_mem_take hname)).1
  rw [passed, namesOf_pathLike hnames, startOf_congr rfl (head?_pathLike hnames)]
  exact List.Subset.trans (passedFrom_take_subset _ _ _) (passedFrom_filter_subset _ _)

/-- **A file in a directory is one further down than the directory.** -/
theorem destination_joinPath {directory file : Text} (hdirectory : directory ≠ [])
    (hfile : IsName file) (hlength : 2 < file.length) :
    tree.destination (joinPath directory file) = tree.destination directory ++ [file] := by
  have hstart : tree.startOf (joinPath directory file) = tree.startOf directory :=
    startOf_congr rfl (by rw [head?_joinPath hdirectory hfile])
  have hdot : file ≠ ['.'] := by
    rintro rfl
    simp at hlength
  have hdots : file ≠ ['.', '.'] := by
    rintro rfl
    simp at hlength
  rw [destination, hstart, namesOf_joinPath hfile, List.foldl_append, List.foldl_cons,
    List.foldl_nil, enter, if_neg hdot, if_neg hdots]
  rfl

/-! ## Following a path -/

/-- What is at a location, as what a path leads to. -/
def look (tree : FileTree) (l : Location) : Target :=
  match tree.find? l with
  | some e => .found l e
  | none => .absent l

theorem follow_nil (l : Location) : tree.follow l [] = .ok (tree.look l) := by
  unfold follow look
  cases tree.find? l <;> rfl

/-- A name is followed from a directory, if it is not too long. -/
theorem follow_cons_eq_ok_iff {l : Location} {name : Text} {rest : List Text} {t : Target} :
    tree.follow l (name :: rest) = .ok t ↔
      tree.find? l = some .directory ∧ name.utf8Size ≤ 255 ∧
        tree.follow (enter l name) rest = .ok t := by
  rw [follow]
  split
  · rename_i hfind
    simp [hfind]
  · rename_i hfind
    simp [hfind]
  · rename_i hfind
    simp only [hfind, true_and]
    by_cases hdot : name = ['.']
    · rw [enter, if_pos hdot, if_pos hdot, hdot]
      exact (and_iff_right (by decide)).symm
    · by_cases hdots : name = ['.', '.']
      · rw [enter, if_neg hdot, if_neg hdot, if_pos hdots, if_pos hdots, hdots]
        exact (and_iff_right (by decide)).symm
      · rw [enter, if_neg hdot, if_neg hdot, if_neg hdots, if_neg hdots]
        by_cases hlong : 255 < name.utf8Size
        · rw [if_pos hlong]
          constructor
          · intro h
            cases h
          · rintro ⟨hsize, -⟩
            omega
        · rw [if_neg hlong]
          exact (and_iff_right (Nat.le_of_not_lt hlong)).symm

theorem follow_eq_ok {l : Location} {names : List Text} {t : Target}
    (h : tree.follow l names = .ok t) :
    t = tree.look (names.foldl enter l) ∧
      ∀ p ∈ passedFrom l names, p = names.foldl enter l ∨ tree.find? p = some .directory := by
  induction names generalizing l with
  | nil =>
    rw [follow_nil] at h
    exact ⟨(Except.ok.inj h).symm, fun p hp => .inl (List.mem_singleton.1 hp)⟩
  | cons name rest ih =>
    obtain ⟨hfind, -, hrest⟩ := follow_cons_eq_ok_iff.1 h
    obtain ⟨ht, hpassed⟩ := ih hrest
    refine ⟨ht, fun p hp => ?_⟩
    rcases List.mem_cons.1 hp with rfl | hp
    · exact .inr hfind
    · exact hpassed p hp

/-- Putting something where names lead does not bar the way there, unless there is a directory. -/
theorem follow_insert {l : Location} {names : List Text} {t : Target} (e : Entry)
    (h : tree.follow l names = .ok t)
    (hdest : tree.find? (names.foldl enter l) ≠ some .directory) :
    (tree.insert (names.foldl enter l) e).follow l names =
      .ok (.found (names.foldl enter l) e) := by
  induction names generalizing l with
  | nil =>
    have hne : l ≠ [] := by
      rintro rfl
      exact hdest rfl
    rw [follow_nil, look, List.foldl_nil, find?_insert_self tree hne]
  | cons name rest ih =>
    obtain ⟨hfind, hsize, hrest⟩ := follow_cons_eq_ok_iff.1 h
    have hne : l ≠ (name :: rest).foldl enter l := by
      intro heq
      rw [← heq] at hdest
      exact hdest hfind
    refine follow_cons_eq_ok_iff.2 ⟨?_, hsize, ih hrest hdest⟩
    rw [find?_insert_of_ne tree hne, hfind]

/-- **A path that can be followed leads to its destination**, and all that it passes on the way are
directories. -/
theorem target_eq_ok {t : Target} (h : tree.target path = .ok t) :
    t = tree.look (tree.destination path) ∧
      ∀ p ∈ tree.passed path, p = tree.destination path ∨ tree.find? p = some .directory := by
  unfold target at h
  split at h
  · cases h
  · exact follow_eq_ok h

theorem target_insert {t : Target} (e : Entry) (h : tree.target path = .ok t)
    (hdest : tree.find? (tree.destination path) ≠ some .directory) :
    (tree.insert (tree.destination path) e).target path =
      .ok (.found (tree.destination path) e) := by
  unfold target at h ⊢
  split at h
  · cases h
  · rename_i hsize
    rw [if_neg hsize]
    exact follow_insert e h hdest

end FileTree

end AstHierarchy.CommandLine
