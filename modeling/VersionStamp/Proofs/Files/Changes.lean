import VersionStamp.Proofs.Files.Outline
import VersionStamp.Proofs.Outcome

/-! Where the operations on files change a file system.

Writing and creating set one entry, removing erases one, and which entry that is
follows from the outline of the file system.
-/

namespace VersionStamp.Files.FileSystem

variable {files others : FileSystem} {here directory location : Location} {path : Path}
  {content : ByteArray} {name : Name} {entry : Entry}

theorem stored?_set (files : FileSystem) (location : Location) (entry : Entry)
    (other : Location) :
    (files.set location entry).stored? other =
      if location = other then some entry else files.stored? other := by
  simp [stored?, set, Std.ExtTreeMap.getElem?_insert]

theorem stored?_erase (files : FileSystem) (location other : Location) :
    (files.erase location).stored? other =
      if location = other then none else files.stored? other := by
  simp [stored?, erase, Std.ExtTreeMap.getElem?_erase]

theorem ext_stored
    (same : ∀ location : Location, files.stored? location = others.stored? location) :
    files = others := by
  cases files
  cases others
  congr
  exact Std.ExtTreeMap.ext_getElem? (fun location => same location)

/-- Of two entries that are put at one location the second one stays. -/
@[simp] theorem set_set (files : FileSystem) (location : Location) (first second : Entry) :
    (files.set location first).set location second = files.set location second := by
  refine ext_stored fun other => ?_
  simp only [stored?_set]
  split <;> rfl

theorem node?_cons (files : FileSystem) (name : Name) (directory : Location) :
    files.node? (name :: directory) = files.stored? (name :: directory) := by
  simp [node?, stored?]

theorem stored?_of_node?_file {access : Access}
    (found : files.node? location = some (.file content access)) :
    files.stored? location = some (.file content access) := by
  rw [node?] at found
  split at found
  · cases found
  · exact found

theorem stored?_of_find {access : Access}
    (found : files.find here path = .ok (location, .file content access)) :
    files.stored? location = some (.file content access) := by
  obtain ⟨place, _, found⟩ := bind_eq_ok.mp found
  cases place with
  | directory there =>
      cases node : files.node? there with
      | none => simp [node, pure, Except.pure] at found
      | some entry =>
          simp only [node, Option.getD_some, pure, Except.pure, Except.ok.injEq,
            Prod.mk.injEq] at found
          obtain ⟨rfl, rfl⟩ := found
          exact stored?_of_node?_file node
  | entry directory name slash =>
      obtain ⟨entry, looked, found⟩ := bind_eq_ok.mp found
      have there := (lookUp_eq_ok.mp looked).2.2
      match entry, slash, found with
      | none, _, found => cases found
      | some (.directory _), _, found => cases found
      | some (.file _ _), true, found => cases found
      | some (.link _), true, found => cases found
      | some (.file _ _), false, found =>
          cases found
          exact there
      | some (.link _), false, found => cases found

theorem read_eq_ok :
    files.read here path = .ok content ↔ ∃ location access,
      files.find here path = .ok (location, .file content access) ∧ access ≠ .none := by
  constructor
  · intro done
    obtain ⟨⟨location, entry⟩, found, done⟩ := bind_eq_ok.mp done
    match entry, done with
    | .file _ .full, done => cases done; exact ⟨location, .full, found, by decide⟩
    | .file _ .readOnly, done => cases done; exact ⟨location, .readOnly, found, by decide⟩
  · rintro ⟨location, access, found, readable⟩
    cases access <;> simp_all [read, bind, Except.bind, pure, Except.pure]

theorem room_eq_ok (found : files.room directory name = .ok location) :
    files.node? directory = some (.directory .full) ∧ location = name :: directory := by
  rw [room] at found
  split at found
  · rename_i full
    cases found
    exact ⟨full, rfl⟩
  · cases found
  · cases found

theorem add_eq_ok {after : FileSystem} (added : files.add directory name entry = .ok after) :
    files.node? directory = some (.directory .full) ∧
      after = files.set (name :: directory) entry := by
  obtain ⟨location, found, added⟩ := bind_eq_ok.mp added
  obtain ⟨full, rfl⟩ := room_eq_ok found
  cases added
  exact ⟨full, rfl⟩

theorem write_eq_ok_iff {after : FileSystem} :
    files.write here path content = .ok after ↔ ∃ location,
      files.writable here path = .ok location ∧ after = files.set location (.file content .full) := by
  rw [write, bind_eq_ok]
  simp [pure, Except.pure, eq_comm]

theorem create_eq_ok_iff {after : FileSystem} :
    files.create here path content = .ok after ↔ ∃ location,
      files.creatable here path = .ok location ∧
        after = files.set location (.file content .full) := by
  rw [create, bind_eq_ok]
  simp [pure, Except.pure, eq_comm]

/-- A file is opened for writing where a path leads to one or to nothing. -/
theorem writable_eq_ok (opened : files.writable here path = .ok location) :
    ∃ directory name there,
      files.resolve here .followedUnlessSlash path = .ok (.entry directory name false) ∧
        files.lookUp directory name = .ok there ∧
        (there = none ∨ ∃ old, there = some (.file old .full)) ∧
        location = name :: directory := by
  obtain ⟨place, resolved, opened⟩ := bind_eq_ok.mp opened
  match place, opened with
  | .directory _, opened => cases opened
  | .entry _ _ true, opened => cases opened
  | .entry directory name false, opened =>
      obtain ⟨there, looked, opened⟩ := bind_eq_ok.mp opened
      match there, opened with
      | some (.file old .full), opened =>
          cases opened
          exact ⟨directory, name, _, resolved, looked, .inr ⟨old, rfl⟩, rfl⟩
      | some (.file _ .readOnly), opened => cases opened
      | some (.file _ .none), opened => cases opened
      | some (.directory _), opened => cases opened
      | some (.link _), opened => cases opened
      | none, opened =>
          exact ⟨directory, name, none, resolved, looked, .inl rfl, (room_eq_ok opened).2⟩

/-- The file that is opened for writing is the one that the path finds, if it finds any. -/
theorem find_of_writable {found : Location} (opened : files.writable here path = .ok location)
    (at_ : files.find here path = .ok (found, entry)) :
    found = location ∧ ∃ old, entry = .file old .full := by
  obtain ⟨directory, name, there, resolved, looked, replaceable, rfl⟩ := writable_eq_ok opened
  simp only [find, resolve_followed resolved, looked, bind, Except.bind] at at_
  rcases replaceable with rfl | ⟨old, rfl⟩
  · cases at_
  · cases at_
    exact ⟨rfl, old, rfl⟩

theorem creatable_eq_ok (created : files.creatable here path = .ok location) :
    ∃ directory name, files.resolve here .kept path = .ok (.entry directory name false) ∧
      files.lookUp directory name = .ok none ∧
      files.node? directory = some (.directory .full) ∧ location = name :: directory := by
  obtain ⟨place, resolved, created⟩ := bind_eq_ok.mp created
  match place, created with
  | .directory _, created => cases created
  | .entry _ _ true, created => cases created
  | .entry directory name false, created =>
      obtain ⟨there, looked, created⟩ := bind_eq_ok.mp created
      cases there with
      | some entry => cases created
      | none =>
          obtain ⟨full, rfl⟩ := room_eq_ok created
          exact ⟨directory, name, resolved, looked, full, rfl⟩

theorem erased_of_removal {slash : Bool} {after : FileSystem}
    (removed : (if slash then .error FileFailure.notADirectory
      else if files.releasable directory then .ok (files.erase location)
      else .error .permissionDenied) = Except.ok after) :
    slash = false ∧ files.releasable directory = true ∧ after = files.erase location := by
  cases slash with
  | true => cases removed
  | false =>
      simp only [Bool.false_eq_true, if_false] at removed
      split at removed
      · rename_i releasable
        cases removed
        exact ⟨rfl, releasable, rfl⟩
      · cases removed

theorem remove_eq_ok {after : FileSystem} (removed : files.remove here path = .ok after) :
    ∃ directory name entry, files.resolve here .kept path = .ok (.entry directory name false) ∧
      files.lookUp directory name = .ok (some entry) ∧
      (∀ access, entry ≠ .directory access) ∧ files.releasable directory = true ∧
      after = files.erase (name :: directory) := by
  obtain ⟨place, resolved, removed⟩ := bind_eq_ok.mp removed
  cases place with
  | directory location => cases removed
  | entry directory name slash =>
      obtain ⟨there, looked, removed⟩ := bind_eq_ok.mp removed
      match there, removed with
      | none, removed => cases removed
      | some (.directory access), removed =>
          dsimp only at removed
          split at removed <;> cases removed
      | some (.file old access), removed =>
          obtain ⟨rfl, releasable, rfl⟩ := erased_of_removal removed
          exact ⟨directory, name, .file old access, resolved, looked, by simp, releasable, rfl⟩
      | some (.link target), removed =>
          obtain ⟨rfl, releasable, rfl⟩ := erased_of_removal removed
          exact ⟨directory, name, .link target, resolved, looked, by simp, releasable, rfl⟩

theorem remove_of_entry
    (resolved : files.resolve here .kept path = .ok (.entry directory name false))
    (there : files.lookUp directory name = .ok (some entry))
    (other : ∀ access, entry ≠ .directory access) (releasable : files.releasable directory = true) :
    files.remove here path = .ok (files.erase (name :: directory)) := by
  cases entry with
  | directory access => exact absurd rfl (other access)
  | file _ _ | link _ =>
      simp [remove, resolved, there, releasable, bind, Except.bind, pure, Except.pure]

def readText (files : FileSystem) (here : Location) (path : Path) : Except FileFailure String :=
  files.read here path >>= Host.decode

theorem readText_eq_ok {text : String} (done : files.readText here path = .ok text) :
    ∃ location access, files.find here path = .ok (location, .file text.toUTF8 access) := by
  obtain ⟨content, read, decoded⟩ := bind_eq_ok.mp done
  obtain ⟨location, access, found, _⟩ := read_eq_ok.mp read
  exact ⟨location, access, by rw [found, eq_toUTF8_of_decode decoded]⟩

namespace Alike

theorem set_text (alike : Alike files others) (location : Location) (text otherText : String)
    (access : Access) : Alike (files.set location (.file text.toUTF8 access))
      (others.set location (.file otherText.toUTF8 access)) := by
  intro other
  rw [stored?_set, stored?_set]
  split
  · simp only [Option.map_some, Entry.outline_text]
  · exact alike other

theorem of_set {text : String} {access : Access}
    (there : files.stored? location = some (.file text.toUTF8 access)) (otherText : String) :
    Alike (files.set location (.file otherText.toUTF8 access)) files := by
  intro other
  rw [stored?_set]
  split
  · rename_i same
    subst same
    simp only [there, Option.map_some, Entry.outline_text]
  · rfl

theorem find (alike : Alike files others) (here : Location) (path : Path) :
    files.find here path = others.find here path ∨ ∃ location text otherText access,
      files.find here path = .ok (location, .file (String.toUTF8 text) access) ∧
        others.find here path = .ok (location, .file (String.toUTF8 otherText) access) := by
  rw [FileSystem.find, FileSystem.find, alike.resolve]
  cases others.resolve here .followed path with
  | error failure => exact .inl rfl
  | ok place =>
      cases place with
      | directory location =>
          rcases alike.node? location with same | ⟨text, otherText, access, first, second⟩
          · exact .inl (by simp only [same, bind, Except.bind])
          · exact .inr ⟨location, text, otherText, access,
              by simp [first, bind, Except.bind, pure, Except.pure],
              by simp [second, bind, Except.bind, pure, Except.pure]⟩
      | entry directory name slash =>
          rcases alike.lookUp directory name with same | ⟨text, otherText, access, first, second⟩
          · exact .inl (by simp only [same, bind, Except.bind])
          · cases slash with
            | true => exact .inl (by simp only [first, second, bind, Except.bind])
            | false => exact .inr ⟨name :: directory, text, otherText, access,
                by simp [first, bind, Except.bind, pure, Except.pure],
                by simp [second, bind, Except.bind, pure, Except.pure]⟩

theorem find_text (alike : Alike files others) {text : String} {access : Access}
    (found : files.find here path = .ok (location, .file text.toUTF8 access)) :
    ∃ otherText : String,
      others.find here path = .ok (location, .file otherText.toUTF8 access) := by
  rcases alike.find here path with same | ⟨there, one, otherText, _, first, second⟩
  · exact ⟨text, same.symm.trans found⟩
  · obtain ⟨rfl, contents⟩ := Prod.mk.inj (Except.ok.inj (first.symm.trans found))
    obtain ⟨_, rfl⟩ := Entry.file.inj contents
    exact ⟨otherText, second⟩

theorem readText (alike : Alike files others) (here : Location) (path : Path) :
    (∃ failure, files.readText here path = .error failure ∧
      others.readText here path = .error failure) ∨
    ∃ text otherText, files.readText here path = .ok text ∧
      others.readText here path = .ok otherText := by
  unfold FileSystem.readText FileSystem.read
  rcases alike.find here path with same | ⟨location, text, otherText, access, first, second⟩
  · rw [same]
    cases outcome : (others.read here path >>= Host.decode) with
    | error failure => exact .inl ⟨failure, outcome, outcome⟩
    | ok text => exact .inr ⟨text, text, outcome, outcome⟩
  · rw [first, second]
    cases access with
    | none => exact .inl ⟨.permissionDenied, rfl, rfl⟩
    | full | readOnly => exact .inr ⟨text, otherText, decode_toUTF8 text, decode_toUTF8 otherText⟩

theorem room (alike : Alike files others) (directory : Location) (name : Name) :
    files.room directory name = others.room directory name := by
  rw [FileSystem.room, FileSystem.room]
  rcases alike.node? directory with same | ⟨text, otherText, access, first, second⟩
  · rw [same]
  · rw [first, second]

/-- Which file is opened for writing does not depend on any text. -/
theorem writable (alike : Alike files others) (here : Location) (path : Path) :
    files.writable here path = others.writable here path := by
  rw [FileSystem.writable, FileSystem.writable, alike.resolve]
  match others.resolve here .followedUnlessSlash path with
  | .error failure => rfl
  | .ok (.directory _) | .ok (.entry _ _ true) => rfl
  | .ok (.entry directory name false) =>
      simp only [bind, Except.bind]
      rcases alike.lookUp directory name with same | ⟨text, otherText, access, first, second⟩
      · rw [same, alike.room]
      · rw [first, second]
        cases access <;> rfl

theorem creatable (alike : Alike files others) (here : Location) (path : Path) :
    files.creatable here path = others.creatable here path := by
  rw [FileSystem.creatable, FileSystem.creatable, alike.resolve]
  match others.resolve here .kept path with
  | .error failure => rfl
  | .ok (.directory _) | .ok (.entry _ _ true) => rfl
  | .ok (.entry directory name false) =>
      simp only [bind, Except.bind]
      rcases alike.lookUp directory name with same | ⟨text, otherText, access, first, second⟩
      · rw [same, alike.room]
      · rw [first, second]
        rfl

end Alike

end VersionStamp.Files.FileSystem
