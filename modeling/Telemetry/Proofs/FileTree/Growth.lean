import Telemetry.FileTree

/-!
# Trees of files that grow

Nothing is ever taken out of a tree of files. Making directories adds directories and nothing else,
opening a file to append to it adds it at most, and appending makes one file longer. What was found
at a path is therefore found there again, at the same place.

Main statements: `Grows.walk` (walks end where they ended), `addsDirectories_makeDirectories`,
`openAppend_cases` and `grows_append` (what is done to trees makes them grow).
-/

namespace Telemetry

namespace FileTree

variable {tree later last : FileTree}

/-! ## Growth -/

/-- What may become of what stands at a path: a directory stays one, a file gets longer at its
end. -/
inductive Entry.Grows : Entry → Entry → Prop where
  | directory : Grows .directory .directory
  | file (content added : String) : Grows (.file content) (.file (content ++ added))

theorem Entry.Grows.refl (entry : Entry) : entry.Grows entry := by
  cases entry with
  | directory => exact .directory
  | file content => simpa using Entry.Grows.file content ""

theorem Entry.Grows.trans {first second third : Entry} (h : first.Grows second)
    (h' : second.Grows third) : first.Grows third := by
  cases h with
  | directory => exact h'
  | file content added =>
      cases h' with
      | file _ more =>
          rw [String.append_assoc]
          exact .file content (added ++ more)

/-- Whatever stood in a tree stands in it still. -/
def Grows (tree later : FileTree) : Prop :=
  ∀ path entry, tree.entry? path = some entry →
    ∃ grown, later.entry? path = some grown ∧ entry.Grows grown

theorem Grows.refl (tree : FileTree) : tree.Grows tree :=
  fun _ entry h => ⟨entry, h, .refl entry⟩

theorem Grows.trans (h : tree.Grows later) (h' : later.Grows last) : tree.Grows last := by
  intro path entry hentry
  obtain ⟨grown, hgrown, hgrows⟩ := h path entry hentry
  obtain ⟨full, hfull, hgrows'⟩ := h' path grown hgrown
  exact ⟨full, hfull, hgrows.trans hgrows'⟩

theorem content?_eq_some_iff {path : Path} {content : String} :
    tree.content? path = some content ↔ tree.entry? path = some (.file content) := by
  rw [content?]
  split
  · next held hheld => simp [hheld]
  · next hother =>
    constructor
    · intro h
      cases h
    · intro h
      exact absurd h (hother content)

/-- A file of a tree that grows keeps what is in it. -/
theorem Grows.content? (h : tree.Grows later) {path : Path} {content : String}
    (hcontent : tree.content? path = some content) :
    ∃ added, later.content? path = some (content ++ added) := by
  obtain ⟨grown, hgrown, hgrows⟩ := h path _ (content?_eq_some_iff.mp hcontent)
  cases hgrows with
  | file _ added => exact ⟨added, content?_eq_some_iff.mpr hgrown⟩

/-! ## Walks -/

/-- A walk along a path with a first name: the rest only matters if that name leads somewhere. -/
theorem walkFrom_cons (tree : FileTree) (here : Path) (name : String) (rest : Path) :
    tree.walkFrom here (name :: rest) = match tree.entry? here with
      | some .directory =>
        if Path.nameLimit < name.utf8ByteSize then .tooLong
        else match tree.entry? (step here name) with
          | none => if rest = [] then .missing (step here name) else .lost
          | some _ => tree.walkFrom (step here name) rest
      | some (.file _) => .blocked
      | none => .lost := by
  conv =>
    lhs
    unfold walkFrom
  cases tree.entry? here with
  | none => rfl
  | some entry =>
      cases entry with
      | file content => rfl
      | directory =>
          cases tree.entry? (step here name) with
          | some there => rfl
          | none => cases rest <;> rfl

theorem walkFrom_cons_eq_found_iff {here place : Path} {name : String} {rest : Path}
    {entry : Entry} :
    tree.walkFrom here (name :: rest) = .found place entry ↔
      tree.entry? here = some .directory ∧ name.utf8ByteSize ≤ Path.nameLimit ∧
        tree.entry? (step here name) ≠ none ∧
        tree.walkFrom (step here name) rest = .found place entry := by
  rw [walkFrom_cons]
  split
  · next hhere =>
    split
    · next hlong => simp [Nat.not_le.mpr hlong]
    · next hshort =>
      split
      · next hnone => split <;> simp [hnone]
      · next there hsome => simp [hhere, Nat.not_lt.mp hshort, hsome]
  · next hhere => simp [hhere]
  · next hhere => simp [hhere]

theorem walkFrom_cons_eq_missing_iff {here place : Path} {name : String} {rest : Path} :
    tree.walkFrom here (name :: rest) = .missing place ↔
      tree.entry? here = some .directory ∧ name.utf8ByteSize ≤ Path.nameLimit ∧
        if tree.entry? (step here name) = none then rest = [] ∧ place = step here name
        else tree.walkFrom (step here name) rest = .missing place := by
  rw [walkFrom_cons]
  split
  · next hhere =>
    split
    · next hlong => simp [Nat.not_le.mpr hlong]
    · next hshort =>
      split
      · split
        · next hrest => simp [hhere, Nat.not_lt.mp hshort, hrest, eq_comm]
        · next hrest => simp [hrest]
      · next there hsome => simp [hhere, Nat.not_lt.mp hshort, hsome]
  · next hhere => simp [hhere]
  · next hhere => simp [hhere]

/-- A walk of a path that is not too long goes name by name. -/
theorem walk_eq_iff {path : Path} {result : Walk} (h : result ≠ .tooLong) :
    tree.walk path = result ↔
      path.text.utf8ByteSize ≤ Path.textLimit ∧ tree.walkFrom [] path = result := by
  rw [walk]
  split
  · next hlong => simp [Nat.not_le.mpr hlong, h.symm]
  · next hshort => simp [Nat.not_lt.mp hshort]

/-- What a walk finds stands where it ends. -/
theorem entry?_of_walkFrom {here place : Path} {names : Path} {entry : Entry}
    (h : tree.walkFrom here names = .found place entry) : tree.entry? place = some entry := by
  induction names generalizing here with
  | nil =>
      rw [walkFrom] at h
      split at h
      · next hentry =>
        cases h
        exact hentry
      · cases h
  | cons name rest ih => exact ih (walkFrom_cons_eq_found_iff.mp h).2.2.2

theorem Grows.walkFrom (hgrows : tree.Grows later) {here place : Path} {names : Path}
    {entry : Entry} (h : tree.walkFrom here names = .found place entry) :
    ∃ grown, later.walkFrom here names = .found place grown ∧ entry.Grows grown := by
  induction names generalizing here with
  | nil =>
      rw [FileTree.walkFrom] at h
      split at h
      · next hentry =>
        cases h
        obtain ⟨grown, hgrown, hgrows⟩ := hgrows _ _ hentry
        exact ⟨grown, by rw [FileTree.walkFrom, hgrown], hgrows⟩
      · cases h
  | cons name rest ih =>
      obtain ⟨hhere, hshort, hnext, hrest⟩ := walkFrom_cons_eq_found_iff.mp h
      obtain ⟨grown, hwalk, hgrown⟩ := ih hrest
      obtain ⟨there, hthere, hdirectory⟩ := hgrows _ _ hhere
      cases hdirectory
      obtain ⟨next, hnext⟩ := Option.ne_none_iff_exists'.mp hnext
      obtain ⟨after, hafter, -⟩ := hgrows _ _ hnext
      have hsome : later.entry? (step here name) ≠ none := by
        rw [hafter]
        exact Option.some_ne_none after
      exact ⟨grown, walkFrom_cons_eq_found_iff.mpr ⟨hthere, hshort, hsome, hwalk⟩, hgrown⟩

/-- **A walk ends where it ended before** in a tree that has only grown. -/
theorem Grows.walk (hgrows : tree.Grows later) {path place : Path} {entry : Entry}
    (h : tree.walk path = .found place entry) :
    ∃ grown, later.walk path = .found place grown ∧ entry.Grows grown := by
  obtain ⟨hshort, hfrom⟩ := (walk_eq_iff Walk.noConfusion).mp h
  obtain ⟨grown, hlater, hgrown⟩ := hgrows.walkFrom hfrom
  exact ⟨grown, (walk_eq_iff Walk.noConfusion).mpr ⟨hshort, hlater⟩, hgrown⟩

theorem entry?_of_walk {path place : Path} {entry : Entry}
    (h : tree.walk path = .found place entry) : tree.entry? place = some entry := by
  obtain ⟨-, hfrom⟩ := (walk_eq_iff Walk.noConfusion).mp h
  exact entry?_of_walkFrom hfrom

/-! ## Directories and files that are added -/

theorem entry?_create (tree : FileTree) (place : Path) (entry : Entry) (path : Path) :
    FileTree.entry? (tree.create place entry) path =
      if tree.entry? path = none ∧ place = path then some entry else tree.entry? path := by
  unfold entry? create
  split
  · simp
  · rw [List.find?_append]
    cases tree.entries.find? (·.1 = path) with
    | some held => simp
    | none =>
        by_cases h : place = path
        · simp [h]
        · simp [h]

theorem entry?_create_of_some {path : Path} {held : Entry} (h : tree.entry? path = some held)
    (place : Path) (entry : Entry) :
    FileTree.entry? (tree.create place entry) path = some held := by
  rw [entry?_create, if_neg (by simp [h]), h]

theorem entry?_create_self {place : Path} (h : tree.entry? place = none) (entry : Entry) :
    FileTree.entry? (tree.create place entry) place = some entry := by
  rw [entry?_create, if_pos ⟨h, rfl⟩]

/-- All that may have been added are directories. -/
def AddsDirectories (tree later : FileTree) : Prop :=
  ∀ path, later.entry? path = tree.entry? path ∨
    tree.entry? path = none ∧ later.entry? path = some .directory

theorem AddsDirectories.refl (tree : FileTree) : tree.AddsDirectories tree := fun _ => .inl rfl

theorem AddsDirectories.trans (h : tree.AddsDirectories later) (h' : later.AddsDirectories last) :
    tree.AddsDirectories last := by
  intro path
  rcases h' path with hsame | ⟨hnone, hadded⟩
  · rw [hsame]
    exact h path
  · rcases h path with hsame | ⟨-, hdirectory⟩
    · rw [← hsame]
      exact .inr ⟨hnone, hadded⟩
    · rw [hdirectory] at hnone
      cases hnone

theorem AddsDirectories.grows (h : tree.AddsDirectories later) : tree.Grows later := by
  intro path entry hentry
  rcases h path with hsame | ⟨hnone, -⟩
  · exact ⟨entry, hsame.trans hentry, .refl entry⟩
  · rw [hnone] at hentry
    cases hentry

theorem AddsDirectories.content? (h : tree.AddsDirectories later) (path : Path) :
    later.content? path = tree.content? path := by
  rw [FileTree.content?, FileTree.content?]
  rcases h path with hsame | ⟨hnone, hdirectory⟩
  · rw [hsame]
  · rw [hnone, hdirectory]

/-- What was found is found as it was. -/
theorem AddsDirectories.walk (h : tree.AddsDirectories later) {path place : Path} {entry : Entry}
    (hwalk : tree.walk path = .found place entry) : later.walk path = .found place entry := by
  obtain ⟨grown, hlater, -⟩ := h.grows.walk hwalk
  have hgrown := entry?_of_walk hlater
  rcases h place with hsame | ⟨hnone, -⟩
  · rw [hsame, entry?_of_walk hwalk] at hgrown
    rw [hlater, Option.some.inj hgrown]
  · rw [entry?_of_walk hwalk] at hnone
    cases hnone

theorem addsDirectories_create (tree : FileTree) (place : Path) :
    tree.AddsDirectories (tree.create place .directory) := by
  intro path
  rw [entry?_create]
  split
  · next hadded => exact .inr ⟨hadded.1, rfl⟩
  · exact .inl rfl

theorem addsDirectories_makeDirectory {path : Path} {made : FileTree}
    (h : tree.makeDirectory path = .ok made) : tree.AddsDirectories made := by
  obtain ⟨-, -, h⟩ := Fault.bind_eq_ok.mp h
  split at h
  · cases h
    exact .refl tree
  · cases h
  · cases h
    exact tree.addsDirectories_create _
  all_goals cases h

theorem addsDirectories_finish (tree : FileTree) (path : Path) :
    tree.AddsDirectories (makeDirectories.finish path tree).2 := by
  rw [makeDirectories.finish]
  split
  · next made hmade => exact addsDirectories_makeDirectory hmade
  · exact .refl tree

/-- **Making directories adds directories**, whether all of them could be made or not. -/
theorem addsDirectories_makeDirectories (tree : FileTree) (path : Path) :
    tree.AddsDirectories (tree.makeDirectories path).2 := by
  fun_induction makeDirectories tree path with
  | case1 path _ fault made hfailed ih =>
      rw [hfailed] at ih
      exact ih
  | case2 path _ made hmade ih =>
      rw [hmade] at ih
      exact ih.trans (made.addsDirectories_finish path)
  | case3 path _ => exact tree.addsDirectories_finish path

/-! ## Files that are opened -/

theorem not_missing_nil {here place : Path} : tree.walkFrom here [] ≠ .missing place := by
  rw [walkFrom]
  split <;> exact Walk.noConfusion

theorem entry?_of_missingFrom {here place : Path} {names : Path}
    (h : tree.walkFrom here names = .missing place) : tree.entry? place = none := by
  induction names generalizing here with
  | nil => exact absurd h not_missing_nil
  | cons name rest ih =>
      obtain ⟨-, -, hnext⟩ := walkFrom_cons_eq_missing_iff.mp h
      split at hnext
      · next hnone =>
        obtain ⟨-, rfl⟩ := hnext
        exact hnone
      · exact ih hnext

/-- What is created where a walk missed it is found by that walk. -/
theorem walkFrom_create {here place : Path} {names : Path} (entry : Entry)
    (h : tree.walkFrom here names = .missing place) :
    (tree.create place entry).walkFrom here names = .found place entry := by
  induction names generalizing here with
  | nil => exact absurd h not_missing_nil
  | cons name rest ih =>
      obtain ⟨hhere, hshort, hnext⟩ := walkFrom_cons_eq_missing_iff.mp h
      refine walkFrom_cons_eq_found_iff.mpr ⟨entry?_create_of_some hhere place entry, hshort, ?_⟩
      split at hnext
      · next hnone =>
        obtain ⟨rfl, rfl⟩ := hnext
        have hthere := entry?_create_self hnone entry
        exact ⟨by simp [hthere], by rw [walkFrom, hthere]⟩
      · next hsome =>
        obtain ⟨held, hheld⟩ := Option.ne_none_iff_exists'.mp hsome
        have hthere := entry?_create_of_some hheld place entry
        exact ⟨by simp [hthere], ih hnext⟩

theorem walk_create {path place : Path} (entry : Entry) (h : tree.walk path = .missing place) :
    (tree.create place entry).walk path = .found place entry := by
  obtain ⟨hshort, hfrom⟩ := (walk_eq_iff Walk.noConfusion).mp h
  exact (walk_eq_iff Walk.noConfusion).mpr ⟨hshort, walkFrom_create entry hfrom⟩

theorem entry?_of_missing {path place : Path} (h : tree.walk path = .missing place) :
    tree.entry? place = none := by
  obtain ⟨-, hfrom⟩ := (walk_eq_iff Walk.noConfusion).mp h
  exact entry?_of_missingFrom hfrom

theorem grows_create {place : Path} (entry : Entry) : tree.Grows (tree.create place entry) := by
  intro path held hheld
  exact ⟨held, entry?_create_of_some hheld place entry, .refl held⟩

/-- **A file that was opened was there or is new**, and a new one is empty. -/
theorem openAppend_cases {path place : Path} {opened : FileTree}
    (h : tree.openAppend path = .ok (place, opened)) :
    (∃ content, tree.walk path = .found place (.file content) ∧ opened = tree) ∨
      tree.walk path = .missing place ∧ opened = tree.create place (.file "") := by
  obtain ⟨-, -, h⟩ := Fault.bind_eq_ok.mp h
  split at h
  · next content hwalk =>
    cases h
    exact .inl ⟨content, hwalk, rfl⟩
  · cases h
  · next hwalk =>
    cases h
    exact .inr ⟨hwalk, rfl⟩
  all_goals cases h

theorem grows_openAppend {path place : Path} {opened : FileTree}
    (h : tree.openAppend path = .ok (place, opened)) : tree.Grows opened := by
  rcases openAppend_cases h with ⟨content, -, rfl⟩ | ⟨-, rfl⟩
  · exact .refl _
  · exact grows_create _

/-- A file that was opened is found, with what was in it before. -/
theorem walk_openAppend {path place : Path} {opened : FileTree}
    (h : tree.openAppend path = .ok (place, opened)) :
    opened.walk path = .found place (.file ((tree.content? place).getD "")) := by
  rcases openAppend_cases h with ⟨content, hwalk, rfl⟩ | ⟨hwalk, rfl⟩
  · rw [content?_eq_some_iff.mpr (entry?_of_walk hwalk)]
    exact hwalk
  · rw [walk_create _ hwalk, content?, entry?_of_missing hwalk]
    rfl

/-! ## Files that are appended to -/

theorem entry?_append (tree : FileTree) (place : Path) (added : String) (path : Path) :
    FileTree.entry? (tree.append place added) path = match tree.entry? path with
      | some (.file content) => some (.file (if path = place then content ++ added else content))
      | other => other := by
  unfold entry? append
  split
  · rfl
  · induction tree.entries with
    | nil => rfl
    | cons pair rest ih =>
        obtain ⟨held, entry⟩ := pair
        by_cases hheld : held = path
        · subst hheld
          cases entry <;> simp
        · cases entry <;> simpa [hheld] using ih

theorem grows_append (tree : FileTree) (place : Path) (added : String) :
    tree.Grows (tree.append place added) := by
  intro path entry hentry
  rw [entry?_append, hentry]
  cases entry with
  | directory => exact ⟨.directory, rfl, .directory⟩
  | file content =>
      by_cases hplace : path = place
      · exact ⟨.file (content ++ added), by simp [hplace], .file content added⟩
      · exact ⟨.file content, by simp [hplace], .refl _⟩

/-- A file that is found is found with what was appended to it. -/
theorem walk_append {path place : Path} {content : String}
    (h : tree.walk path = .found place (.file content)) (added : String) :
    (tree.append place added).walk path = .found place (.file (content ++ added)) := by
  obtain ⟨grown, hwalk, -⟩ := (tree.grows_append place added).walk h
  have hgrown := entry?_of_walk hwalk
  rw [entry?_append, entry?_of_walk h] at hgrown
  rw [hwalk, ← Option.some.inj hgrown]
  simp

/-! ## Files that are read -/

theorem read_eq_ok_iff {path : Path} {content : String} :
    tree.read path = .ok content ↔
      path.requireNoNull = .ok () ∧ ∃ place, tree.walk path = .found place (.file content) := by
  rw [read, Fault.bind_eq_ok]
  constructor
  · rintro ⟨_, hnull, h⟩
    split at h
    · next place held hwalk =>
      cases h
      exact ⟨hnull, place, hwalk⟩
    all_goals cases h
  · rintro ⟨hnull, place, hwalk⟩
    refine ⟨(), hnull, ?_⟩
    rw [hwalk]
    rfl

end FileTree

end Telemetry
