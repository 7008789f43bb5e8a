import VersionStamp.Proofs.Files.Occupancy

/-! What a removal finds out about its path.

Where it finds nothing to remove, a creation finds nothing in its way. A path that names a
directory is never found free, may the directories on the way be searched or not.
-/

namespace VersionStamp.Files

/-- An entry that may be searched if it is a directory. -/
def Entry.opened : Entry → Entry
  | .directory _ => .directory .full
  | entry => entry

namespace FileSystem

variable {files : FileSystem} {here : Location} {path : Path}

/-- The same entries, with all directories open. -/
def opened (files : FileSystem) : FileSystem :=
  ⟨files.entries.map fun _ entry => entry.opened⟩

theorem node?_opened (files : FileSystem) (location : Location) :
    files.opened.node? location = (files.node? location).map Entry.opened := by
  rw [node?, node?]
  split
  · rfl
  · simp [opened]

theorem isClosed_opened (files : FileSystem) (directory : Location) :
    files.opened.isClosed directory = false := by
  rw [isClosed, node?_opened]
  rcases files.node? directory with _ | (⟨content, access⟩ | ⟨access⟩ | ⟨target⟩) <;> rfl

theorem lookUp_opened (files : FileSystem) (directory : Location) (name : Name) :
    files.opened.lookUp directory name =
      (files.lookUp directory name).map (Option.map Entry.opened) := by
  rw [lookUp, lookUp, node?_opened, node?_opened, Option.isNone_map]
  split
  · rfl
  · split <;> rfl

theorem stride_opened (files : FileSystem) (lastLink : LastLink) (directory : Location)
    (name : Name) (rest : List Name) (slash : Bool) :
    files.stride lastLink directory name rest slash = .stop (.error .permissionDenied) ∨
      files.stride lastLink directory name rest slash =
        files.opened.stride lastLink directory name rest slash := by
  rw [stride, stride, isClosed_opened, lookUp_opened]
  split
  · exact .inl rfl
  · refine .inr ?_
    rcases files.lookUp directory name with failure | _ | (⟨content, access⟩ | ⟨access⟩ | ⟨target⟩) <;>
      rfl

/-- A path leads where it leads with all directories open, or to a closed one. -/
theorem resolve_opened (files : FileSystem) (here : Location) (lastLink : LastLink) (path : Path) :
    files.resolve here lastLink path = .error .permissionDenied ∨
      files.resolve here lastLink path = files.opened.resolve here lastLink path := by
  refine resolve_related (fun one other => one = .error .permissionDenied ∨ one = other)
    (fun _ => .inr rfl) (fun directory name rest slash => ?_) here path
  rcases files.stride_opened lastLink directory name rest slash with closed | same
  · rw [closed]
    exact .left (fun _ => .inl rfl) _
  · rw [same]
    exact .same _

/-- A path names a directory itself, not a link to one, be it allowed to follow the path
or not. -/
def NamesDirectory (files : FileSystem) (here : Location) (path : Path) : Prop :=
  ∃ place directory, files.opened.resolve here .kept path = .ok place ∧
    files.opened.IsDirectory directory place

theorem remove_of_namesDirectory (names : files.NamesDirectory here path) :
    ∃ cause, files.remove here path = .error cause ∧ cause ≠ .notFound := by
  obtain ⟨place, directory, resolved, reached⟩ := names
  rcases files.resolve_opened here .kept path with closed | same
  · exact ⟨.permissionDenied, by simp [remove, closed, bind, Except.bind], by decide⟩
  · rw [resolved] at same
    cases place with
    | directory location =>
        exact ⟨.isADirectory, by simp [remove, same, bind, Except.bind], by decide⟩
    | entry outer name slash =>
        obtain ⟨_, access, looked⟩ := reached
        rw [lookUp_opened] at looked
        rcases found : files.lookUp outer name with
          failure | _ | (⟨content, other⟩ | ⟨other⟩ | ⟨target⟩)
        all_goals rw [found] at looked
        · cases looked
        · cases looked
        · cases looked
        · by_cases releasable : (slash || files.releasable outer) = true
          · exact ⟨.isADirectory, by simp_all [remove, bind, Except.bind], by decide⟩
          · exact ⟨.permissionDenied, by simp_all [remove, bind, Except.bind], by decide⟩
        · cases looked

theorem remove_eq_notFound (missing : files.remove here path = .error .notFound) :
    files.resolve here .kept path = .error .notFound ∨
    ∃ directory name slash, files.resolve here .kept path = .ok (.entry directory name slash) ∧
      (files.lookUp directory name = .error .notFound ∨
        files.lookUp directory name = .ok none) := by
  rcases resolved : files.resolve here .kept path with
    failure | (⟨location⟩ | ⟨directory, name, slash⟩)
  all_goals simp only [remove, resolved, bind, Except.bind] at missing
  · exact .inl (congrArg Except.error (Except.error.inj missing))
  · cases missing
  · refine .inr ⟨directory, name, slash, rfl, ?_⟩
    rcases looked : files.lookUp directory name with
      failure | _ | (⟨content, access⟩ | ⟨access⟩ | ⟨target⟩)
    all_goals simp only [looked] at missing
    · exact .inl (congrArg Except.error (Except.error.inj missing))
    · exact .inr rfl
    -- what is there is removed, or the removal fails for another reason
    · split at missing
      · cases missing
      · split at missing <;> cases missing
    · split at missing <;> cases missing
    · split at missing
      · cases missing
      · split at missing <;> cases missing

theorem room_ne_alreadyExists (files : FileSystem) (directory : Location) (name : Name) :
    files.room directory name ≠ .error .alreadyExists := by
  rw [room]
  split <;> simp

/-- What a removal does not find is not in the way of a creation at the same path. -/
theorem creatable_of_missing (missing : files.remove here path = .error .notFound) :
    files.creatable here path ≠ .error .alreadyExists := by
  rcases remove_eq_notFound missing with nowhere | ⟨directory, name, slash, resolved, free⟩
  · simp [creatable, nowhere, bind, Except.bind]
  · cases slash with
    | true => simp [creatable, resolved, bind, Except.bind]
    | false =>
        rcases free with gone | vacant
        · simp [creatable, resolved, gone, bind, Except.bind]
        · simpa [creatable, resolved, vacant, bind, Except.bind] using
            room_ne_alreadyExists files directory name

end FileSystem

end VersionStamp.Files
