import JavadocRepair.Files.Tree

/-!
# File trees after a file is written

Writing to a file that is there changes the bytes at its location and nothing else: every path
leads where it led before, and all other locations hold what they held.
-/

namespace JavadocRepair

/-- Where a path leads after the file at a location is overwritten. -/
def Target.overwrite (location : Location) (bytes : List UInt8) : Target → Target
  | .file place old => .file place (if place = location then bytes else old)
  | target => target

namespace FileTree

variable {tree : FileTree} {location place : Location} {path : String}
  {steps : List Path.Step} {old bytes : List UInt8}

/-! ## Looking at locations -/

theorem lookup_map_overwrite (entries : List (Location × Entry)) (location other : Location)
    (bytes : List UInt8) :
    (entries.map fun entry =>
      if entry.1 = location then (location, Entry.file bytes) else entry).lookup other =
      if other = location then (entries.lookup location).map fun _ => .file bytes
      else entries.lookup other := by
  induction entries with
  | nil => simp
  | cons entry entries ih =>
    rcases entry with ⟨name, content⟩
    rw [List.map_cons]
    by_cases here : name = location
    · subst here
      rw [if_pos rfl, List.lookup_cons, List.lookup_cons, List.lookup_cons, ih]
      by_cases same : other = name
      · simp [same]
      · rw [beq_eq_false_iff_ne.2 same, if_neg same, if_neg same]
    · rw [if_neg here, List.lookup_cons, List.lookup_cons, List.lookup_cons, ih]
      by_cases same : other = location
      · rw [same, beq_eq_false_iff_ne.2 (Ne.symm here), if_pos rfl]
      · rw [if_neg same, if_neg same]

/-- Overwriting a file changes its own bytes and nothing else. -/
theorem entryAt?_setFile (there : tree.entryAt? location = some (.file old))
    (other : Location) :
    (tree.setFile location bytes).entryAt? other =
      if other = location then some (.file bytes) else tree.entryAt? other := by
  have notRoot : location ≠ [] := by
    rintro rfl
    simp [entryAt?] at there
  rw [entryAt?, if_neg notRoot] at there
  simp only [setFile, there, Option.isSome_some, if_true, entryAt?, lookup_map_overwrite,
    Option.map_some]
  by_cases root : other = []
  · simp [root, notRoot.symm]
  · simp [root]

theorem start_setFile (path : String) :
    (tree.setFile location bytes).start path = tree.start path := by
  have directory : (tree.setFile location bytes).workingDirectory = tree.workingDirectory := by
    unfold setFile
    split <;> rfl
  rw [start, start, directory]

/-! ## Following paths -/

theorem follow_setFile (there : tree.entryAt? location = some (.file old)) :
    (tree.setFile location bytes).follow place steps =
      (tree.follow place steps).map (Target.overwrite location bytes) := by
  induction steps generalizing place with
  | nil =>
    simp only [follow, entryAt?_setFile there]
    by_cases same : place = location
    · subst same
      simp [there, Except.map, Target.overwrite]
    · rw [if_neg same]
      cases entry : tree.entryAt? place with
      | none => rfl
      | some content => cases content <;> simp [Except.map, Target.overwrite, same]
  | cons step steps ih =>
    simp only [follow, entryAt?_setFile there]
    by_cases same : place = location
    · subst same
      simp [there, Except.map]
    · rw [if_neg same]
      cases entry : tree.entryAt? place with
      | none => rfl
      | some content =>
        cases content with
        | file bytes => rfl
        | directory =>
          cases step with
          | here => exact ih
          | up => exact ih
          | down name =>
            dsimp only
            by_cases long : Path.maxNameBytes < name.utf8ByteSize
            · simp [long, Except.map]
            · simp only [if_neg long]
              by_cases next : place ++ [name] = location
              · simp [next, there, ih]
              · rw [if_neg next]
                cases tree.entryAt? (place ++ [name]) with
                | some _ => exact ih
                | none =>
                  dsimp only
                  split <;> rfl

/-- Steps that lead to a file do so from the place to which the first of them leads. -/
theorem follow_of_follow_cons {step : Path.Step}
    (followed : tree.follow place (step :: steps) = .ok (.file location bytes)) :
    ∃ next, tree.follow next steps = .ok (.file location bytes) := by
  simp only [follow] at followed
  split at followed
  · cases step with
    | here => exact ⟨_, followed⟩
    | up => exact ⟨_, followed⟩
    | down name =>
      dsimp only at followed
      split at followed
      · cases followed
      · split at followed
        · exact ⟨_, followed⟩
        · split at followed <;> cases followed
  · cases followed

/-- Where steps lead to a file, the file is there. -/
theorem entryAt?_of_follow (followed : tree.follow place steps = .ok (.file location bytes)) :
    tree.entryAt? location = some (.file bytes) := by
  induction steps generalizing place with
  | nil =>
    simp only [follow] at followed
    split at followed
    · cases followed
    · next there =>
      cases followed
      exact there
    · cases followed
  | cons step steps ih =>
    rcases follow_of_follow_cons followed with ⟨next, later⟩
    exact ih later

/-- Steps that have to stay in a directory lead to a directory. -/
theorem eq_directory_of_follow_here {target : Target}
    (followed : tree.follow place (steps ++ [.here]) = .ok target) : target = .directory := by
  induction steps generalizing place with
  | nil =>
    cases entry : tree.entryAt? place with
    | none => simp [follow, entry] at followed
    | some content =>
      cases content with
      | file bytes => simp [follow, entry] at followed
      | directory =>
        simp only [List.nil_append, follow, entry, Except.ok.injEq] at followed
        exact followed.symm
  | cons step steps ih =>
    simp only [List.cons_append, follow] at followed
    split at followed
    · cases step with
      | here => exact ih followed
      | up => exact ih followed
      | down name =>
        dsimp only at followed
        split at followed
        · cases followed
        · split at followed
          · exact ih followed
          · simp at followed
    · cases followed

/-! ## The file that a path names -/

/-- The location of the file that a path leads to. -/
def locate? (tree : FileTree) (path : String) : Option Location :=
  match tree.resolve path with
  | .ok (.file location _) => some location
  | _ => none

theorem resolve_of_locate? (named : tree.locate? path = some location) :
    ∃ bytes, tree.resolve path = .ok (.file location bytes) ∧
      tree.entryAt? location = some (.file bytes) := by
  unfold locate? at named
  split at named
  · next place bytes resolved =>
    cases named
    refine ⟨bytes, resolved, ?_⟩
    unfold resolve at resolved
    split at resolved
    · cases resolved
    · exact entryAt?_of_follow resolved
  · cases named

/-- A path can be read if and only if it names a file, and gives the bytes of that file. -/
theorem read_eq_ok_iff :
    tree.read path = .ok bytes ↔
      ∃ location, tree.locate? path = some location ∧
        tree.entryAt? location = some (.file bytes) := by
  constructor
  · intro readable
    unfold read at readable
    split at readable
    · cases readable
    · cases readable
    · cases readable
    · next location content resolved =>
      cases readable
      have named : tree.locate? path = some location := by simp [locate?, resolved]
      rcases resolve_of_locate? named with ⟨bytes, again, there⟩
      rw [resolved] at again
      cases again
      exact ⟨location, named, there⟩
  · intro found
    rcases found with ⟨location, named, there⟩
    rcases resolve_of_locate? named with ⟨content, resolved, again⟩
    rw [there] at again
    cases again
    simp [read, resolved]

/-- A path leads to a file, or to a new name in a directory that exists. -/
def Writable (tree : FileTree) (path : String) : Prop :=
  ∃ target, tree.resolve path = .ok target ∧ target ≠ .directory

theorem writable_of_locate? (named : tree.locate? path = some location) : tree.Writable path := by
  rcases resolve_of_locate? named with ⟨bytes, resolved, _⟩
  exact ⟨_, resolved, nofun⟩

theorem Writable.pathFault? (writable : tree.Writable path) : pathFault? path = none := by
  rcases writable with ⟨target, resolved, _⟩
  unfold resolve at resolved
  split at resolved
  · cases resolved
  · assumption

/-- A path that can be written does not end with a slash behind a name. -/
theorem Writable.slashFault? (writable : tree.Writable path) : tree.slashFault? path = none := by
  have noFault := writable.pathFault?
  rcases writable with ⟨target, resolved, other⟩
  unfold FileTree.slashFault?
  split
  · split
    · next slash =>
      rw [resolve, noFault] at resolved
      dsimp only at resolved
      rw [Path.allSteps, if_pos slash] at resolved
      exact absurd (eq_directory_of_follow_here resolved) other
    · rfl
  · rfl

/-- Bytes can be written to every path that names a file. -/
theorem write_of_locate? (named : tree.locate? path = some location) (bytes : List UInt8) :
    tree.write path bytes = .ok (tree.setFile location bytes) := by
  have writable := writable_of_locate? named
  rcases resolve_of_locate? named with ⟨old, resolved, _⟩
  simp [write, writable.pathFault?, writable.slashFault?, resolved]

/-- After a file is overwritten, every path names the file that it named before. -/
theorem locate?_setFile (there : tree.entryAt? location = some (.file old)) (path : String) :
    (tree.setFile location bytes).locate? path = tree.locate? path := by
  have resolved : (tree.setFile location bytes).resolve path =
      (tree.resolve path).map (Target.overwrite location bytes) := by
    unfold resolve
    split
    · rfl
    · rw [start_setFile, follow_setFile there]
  unfold locate?
  rw [resolved]
  cases tree.resolve path with
  | error fault => rfl
  | ok target => cases target <;> rfl

/-! ## Files that are written -/

theorem entryAt?_of_follow_absent (followed : tree.follow place steps = .ok (.absent location)) :
    tree.entryAt? location = none := by
  induction steps generalizing place with
  | nil =>
    simp only [follow] at followed
    split at followed <;> cases followed
  | cons step steps ih =>
    simp only [follow] at followed
    split at followed
    · cases step with
      | here => exact ih followed
      | up => exact ih followed
      | down name =>
        dsimp only at followed
        split at followed
        · cases followed
        · split at followed
          · exact ih followed
          · next free =>
            split at followed
            · cases followed
              exact free
            · cases followed
    · cases followed

/-- A new file is at its own location, and all others hold what they held. -/
theorem entryAt?_setFile_of_absent (free : tree.entryAt? location = none) (other : Location) :
    (tree.setFile location bytes).entryAt? other =
      if other = location then some (.file bytes) else tree.entryAt? other := by
  have notRoot : location ≠ [] := by
    rintro rfl
    simp [entryAt?] at free
  rw [entryAt?, if_neg notRoot] at free
  simp only [setFile, free, Option.isSome_none, Bool.false_eq_true, if_false, entryAt?,
    List.lookup_append]
  by_cases same : other = location
  · simp [same, notRoot, free]
  · simp [same, beq_eq_false_iff_ne.2 same, List.lookup_cons]

/-- Steps to a new name lead to the file that is written there. -/
theorem follow_setFile_of_absent
    (followed : tree.follow place steps = .ok (.absent location)) :
    (tree.setFile location bytes).follow place steps = .ok (.file location bytes) := by
  have free := entryAt?_of_follow_absent followed
  have kept {other : Location} {content : Entry} (there : tree.entryAt? other = some content) :
      (tree.setFile location bytes).entryAt? other = some content := by
    have away : other ≠ location := by
      rintro rfl
      rw [free] at there
      cases there
    rw [entryAt?_setFile_of_absent free, if_neg away, there]
  induction steps generalizing place with
  | nil =>
    simp only [follow] at followed
    split at followed <;> cases followed
  | cons step steps ih =>
    simp only [follow] at followed ⊢
    split at followed
    · next directory =>
      rw [kept directory]
      cases step with
      | here => exact ih followed
      | up => exact ih followed
      | down name =>
        dsimp only at followed ⊢
        split at followed
        · cases followed
        · next short =>
          rw [if_neg short]
          split at followed
          · next there =>
            rw [kept there]
            exact ih followed
          · split at followed
            · next last =>
              cases followed
              have new : (tree.setFile (place ++ [name]) bytes).entryAt? (place ++ [name]) =
                  some (.file bytes) := by rw [entryAt?_setFile_of_absent free, if_pos rfl]
              simp [last, new, follow]
            · cases followed
    · cases followed

/-- Bytes can be written to every path that leads to a file or to a new name, and then the path
    gives these bytes. -/
theorem exists_write (writable : tree.Writable path) (bytes : List UInt8) :
    ∃ after, tree.write path bytes = .ok after ∧ after.read path = .ok bytes := by
  have noFault := writable.pathFault?
  have noSlash := writable.slashFault?
  rcases writable with ⟨target, resolved, other⟩
  cases target with
  | directory => exact absurd rfl other
  | file location old =>
    have named : tree.locate? path = some location := by simp [locate?, resolved]
    rcases resolve_of_locate? named with ⟨content, _, there⟩
    refine ⟨_, write_of_locate? named bytes, read_eq_ok_iff.2 ⟨location, ?_, ?_⟩⟩
    · rw [locate?_setFile there, named]
    · rw [entryAt?_setFile there, if_pos rfl]
  | absent location =>
    refine ⟨tree.setFile location bytes, by simp [write, noFault, noSlash, resolved], ?_⟩
    simp only [resolve, noFault] at resolved
    simp only [read, resolve, noFault, start_setFile, follow_setFile_of_absent resolved]

/-- Overwriting a file once more with the same bytes changes nothing. -/
theorem setFile_setFile (there : tree.entryAt? location = some (.file old)) :
    (tree.setFile location bytes).setFile location bytes = tree.setFile location bytes := by
  have notRoot : location ≠ [] := by
    rintro rfl
    simp [entryAt?] at there
  rw [entryAt?, if_neg notRoot] at there
  simp only [setFile, there, Option.isSome_some, if_true, lookup_map_overwrite, Option.map_some,
    List.map_map]
  congr 1
  apply List.map_congr_left
  intro entry _
  by_cases here : entry.1 = location <;> simp [here]

end FileTree

end JavadocRepair
