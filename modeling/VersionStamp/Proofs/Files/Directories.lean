import VersionStamp.Proofs.Files.Writing

/-! Directories made on the way to a file.

Nothing that is there is lost when directories are made, and each new one is what a path
leads to from then on, whatever is made or written later.
-/

namespace VersionStamp.Files.FileSystem

variable {files middle after : FileSystem} {here location : Location} {path : Path}
  {paths : List Path} {content : ByteArray}

/-- The second file system has further directories, and is otherwise the first. -/
def GainsDirectories (files after : FileSystem) : Prop :=
  ∀ location, after.stored? location = files.stored? location ∨
    files.stored? location = none ∧ after.stored? location = some (.directory .full)

theorem node?_of_stored?_directory (stored : files.stored? location = some (.directory .full)) :
    files.node? location = some (.directory .full) := by
  rw [node?]
  split
  · rfl
  · exact stored

theorem makeDirectory_eq_ok (made : files.makeDirectory here path = .ok after) :
    ∃ directory name slash, files.resolve here .kept path = .ok (.entry directory name slash) ∧
      files.lookUp directory name = .ok none ∧
      after = files.set (name :: directory) (.directory .full) := by
  obtain ⟨place, resolved, made⟩ := bind_eq_ok.mp made
  cases place with
  | directory location => cases made
  | entry directory name slash =>
      obtain ⟨there, looked, made⟩ := bind_eq_ok.mp made
      cases there with
      | some entry => cases made
      | none => exact ⟨directory, name, slash, resolved, looked, (add_eq_ok made).2⟩

theorem find_after_makeDirectory (made : files.makeDirectory here path = .ok after) :
    ∃ location, files.stored? location = none ∧
      after = files.set location (.directory .full) ∧
      after.find here path = .ok (location, .directory .full) := by
  obtain ⟨directory, name, slash, resolved, vacant, rfl⟩ := makeDirectory_eq_ok made
  have node := (lookUp_eq_ok.mp vacant).2.2
  have grows : Grows files (files.set (name :: directory) (.directory .full)) :=
    .set (node ▸ .free) (.directory (by decide))
  have looked := lookUp_set_self vacant (.directory .full)
  have leads := resolve_followed_of_entry (grows.resolve resolved) looked (by simp)
  refine ⟨name :: directory, (node?_cons ..).symm.trans node, rfl, ?_⟩
  simp [find, leads, looked, bind, Except.bind, pure, Except.pure]

/-- With at most one location left out, which is written to, every entry is kept, and one
that is new is a directory that one of the paths leads to. -/
structure MakesWay (files : FileSystem) (here : Location) (paths : List Path)
    (written : Option Location) (after : FileSystem) : Prop where
  kept : ∀ location entry, written ≠ some location → files.stored? location = some entry →
    after.stored? location = some entry
  made : ∀ location, written ≠ some location → files.stored? location = none →
    after.stored? location ≠ none → after.stored? location = some (.directory .full) ∧
      ∃ path ∈ paths, after.find here path = .ok (location, .directory .full)

namespace MakesWay

theorem refl (files : FileSystem) (here : Location) (paths : List Path) :
    files.MakesWay here paths none files where
  kept _ _ _ stored := stored
  made _ _ vacant stored := absurd vacant stored

theorem gains (makes : files.MakesWay here paths none after) : GainsDirectories files after := by
  intro location
  cases before : files.stored? location with
  | some entry => exact .inl (makes.kept location entry (by simp) before)
  | none =>
      by_cases still : after.stored? location = none
      · exact .inl still
      · exact .inr ⟨rfl, (makes.made location (by simp) before still).1⟩

theorem grows (makes : files.MakesWay here paths none after) : Grows files after := by
  intro location
  by_cases root : location = []
  · exact .inl (by simp [node?, root])
  · have node (files : FileSystem) : files.node? location = files.stored? location := if_neg root
    rw [node, node]
    rcases makes.gains location with same | ⟨vacant, made⟩
    · exact .inl same
    · exact .inr ⟨vacant ▸ .free, .directory .full, .directory (by decide), made⟩

/-- A directory on the way is found as before in a file system that has grown. -/
theorem found_after (makes : files.MakesWay here paths none middle) (grows : Grows middle after)
    (vacant : files.stored? location = none) (stored : middle.stored? location ≠ none) :
    middle.stored? location = some (.directory .full) ∧
      ∃ path ∈ paths, after.find here path = .ok (location, .directory .full) := by
  obtain ⟨directory, path, member, found⟩ := makes.made location (by simp) vacant stored
  exact ⟨directory, path, member,
    grows.find_directory (node?_of_stored?_directory directory) found⟩

theorem trans (first : files.MakesWay here paths none middle)
    (second : middle.MakesWay here paths none after) : files.MakesWay here paths none after where
  kept location entry apart stored :=
    second.kept location entry apart (first.kept location entry apart stored)
  made location apart vacant stored := by
    by_cases before : middle.stored? location = none
    · exact second.made location apart before stored
    · obtain ⟨directory, found⟩ := first.found_after second.grows vacant before
      exact ⟨second.kept location _ apart directory, found⟩

theorem makeDirectory (member : path ∈ paths)
    (made : files.makeDirectory here path = .ok after) : files.MakesWay here paths none after := by
  obtain ⟨location, vacant, rfl, found⟩ := find_after_makeDirectory made
  constructor
  · intro other entry _ stored
    have apart : location ≠ other := by
      rintro rfl
      rw [vacant] at stored
      cases stored
    rwa [stored?_set, if_neg apart]
  · intro other _ before stored
    rw [stored?_set] at stored ⊢
    split at stored
    · rename_i same
      subst same
      exact ⟨if_pos rfl, path, member, found⟩
    · exact absurd before stored

/-- Once there is a way, writing changes what is at one location, where there was nothing or
a file, and where the path has led if it led anywhere. -/
theorem write (makes : files.MakesWay here paths none middle)
    (written : middle.write here path content = .ok after) :
    ∃ location, files.MakesWay here paths (some location) after ∧
      (files.stored? location = none ∨ ∃ old, files.stored? location = some (.file old .full)) ∧
      (∀ found entry, files.find here path = .ok (found, entry) → found = location) ∧
      after.find here path = .ok (location, .file content .full) := by
  obtain ⟨location, rfl, grows, replaceable, found⟩ := find_after_write written
  have elsewhere (other : Location) (apart : some location ≠ some other) :
      (middle.set location (.file content .full)).stored? other = middle.stored? other := by
    rw [stored?_set, if_neg fun same => apart (congrArg some same)]
  refine ⟨location, ⟨?_, ?_⟩, ?_, ?_, found⟩
  · intro other entry apart stored
    rw [elsewhere other apart]
    exact makes.kept other entry (by simp) stored
  · intro other apart vacant stored
    rw [elsewhere other apart] at stored ⊢
    exact makes.found_after grows vacant stored
  · cases before : files.stored? location with
    | none => exact .inl rfl
    | some entry =>
        rw [makes.kept location entry (by simp) before] at replaceable
        simpa using replaceable
  · intro place entry before
    obtain ⟨_, still, _⟩ := makes.grows.find before
    obtain ⟨_, later, _⟩ := grows.find still
    exact (Prod.mk.inj (Except.ok.inj (later.symm.trans found))).1

end MakesWay

end VersionStamp.Files.FileSystem
