import VersionStamp.Proofs.Files.Changes

/-! File systems that have grown.

Where nothing or a file was, there may be a file or an open directory afterwards. Neither
leads a path on that ended there, so that every path still leads to where it led.
-/

namespace VersionStamp.Files

inductive Entry.IsReplaceable : Option Entry → Prop where
  | free : IsReplaceable none
  | file (content : ByteArray) (access : Access) : IsReplaceable (some (.file content access))

inductive Entry.IsPlain : Entry → Prop where
  | file (content : ByteArray) (access : Access) : IsPlain (.file content access)
  | directory {access : Access} (searchable : access ≠ .none) : IsPlain (.directory access)

namespace FileSystem

variable {files after : FileSystem} {here directory location : Location} {path : Path}
  {name : Name} {entry : Entry} {access : Access} {place : Place}

def Grows (files after : FileSystem) : Prop :=
  ∀ location, after.node? location = files.node? location ∨
    Entry.IsReplaceable (files.node? location) ∧
      ∃ entry : Entry, entry.IsPlain ∧ after.node? location = some entry

namespace Grows

theorem set (replaceable : Entry.IsReplaceable (files.node? location)) (plain : entry.IsPlain) :
    Grows files (files.set location entry) := by
  intro other
  by_cases root : other = []
  · exact .inl (by simp [node?, root])
  · by_cases same : location = other
    · subst same
      exact .inr ⟨replaceable, entry, plain, by simp [node?_set, root]⟩
    · exact .inl (by simp [node?_set, root, same])

theorem isClosed (grows : Grows files after) (directory : Location) :
    after.isClosed directory = files.isClosed directory := by
  rw [FileSystem.isClosed, FileSystem.isClosed]
  rcases grows directory with same | ⟨replaceable, entry, plain, new⟩
  · rw [same]
  · rw [new]
    generalize files.node? directory = there at replaceable
    cases replaceable <;> cases plain with
    | file content access => rfl
    | directory searchable => split <;> simp_all

theorem lookUp (grows : Grows files after) {found : Option Entry}
    (looked : files.lookUp directory name = .ok found) :
    after.lookUp directory name = .ok found ∨ Entry.IsReplaceable found ∧
      ∃ entry : Entry, entry.IsPlain ∧ after.lookUp directory name = .ok (some entry) := by
  obtain ⟨there, short, node⟩ := lookUp_eq_ok.mp looked
  have still : after.node? directory ≠ none := by
    rcases grows directory with same | ⟨_, entry, _, new⟩
    · rwa [same]
    · simp [new]
  rcases grows (name :: directory) with same | ⟨replaceable, entry, plain, new⟩
  · exact .inl (lookUp_eq_ok.mpr ⟨still, short, same.trans node⟩)
  · exact .inr ⟨node ▸ replaceable, entry, plain, lookUp_eq_ok.mpr ⟨still, short, new⟩⟩

theorem resolve (grows : Grows files after) {lastLink : LastLink}
    (resolved : files.resolve here lastLink path = .ok place) :
    after.resolve here lastLink path = .ok place := by
  have strides (start : Location) (next : Name) (rest : List Name) (slash : Bool) :
      Related (fun one other => one = .ok place → other = .ok place)
        (files.stride lastLink start next rest slash)
        (after.stride lastLink start next rest slash) := by
    rw [stride, stride, grows.isClosed]
    split
    · exact .same _
    · split
      · exact .same _
      · split
        · exact .same _
        · split
          · exact .same _
          · cases looked : files.lookUp start next with
            | error failure => exact .left (fun _ reached => by cases reached) _
            | ok found =>
                rcases grows.lookUp looked with same | ⟨replaceable, entry, plain, new⟩
                · rw [same]
                  exact .same _
                · rw [new]
                  cases rest with
                  -- the path ends here, and neither entry is a link
                  | nil => cases replaceable <;> cases plain <;> exact .same _
                  -- the path has led nowhere before
                  | cons further rest =>
                      cases replaceable <;> exact .left (fun _ reached => by cases reached) _
  exact resolve_related _ (fun _ => id) strides here path resolved

/-- What a path finds stays where it is, and stays what it is unless it can be replaced. -/
theorem find (grows : Grows files after) (found : files.find here path = .ok (location, entry)) :
    ∃ other, after.find here path = .ok (location, other) ∧
      (other = entry ∨ Entry.IsReplaceable (files.node? location)) := by
  obtain ⟨place, resolved, found⟩ := bind_eq_ok.mp found
  cases place with
  | directory there =>
      cases found
      refine ⟨_, by simp only [FileSystem.find, grows.resolve resolved, bind, Except.bind]; rfl, ?_⟩
      rcases grows location with same | ⟨replaceable, _⟩
      · exact .inl (by rw [same])
      · exact .inr replaceable
  | entry directory name slash =>
      obtain ⟨looked?, looked, found⟩ := bind_eq_ok.mp found
      have leads := grows.resolve resolved
      have node := (lookUp_eq_ok.mp looked).2.2
      rcases grows.lookUp looked with same | ⟨replaceable, new, plain, other⟩
      · have outcome : after.find here path = .ok (location, entry) := by
          simpa [FileSystem.find, leads, same, bind, Except.bind] using found
        exact ⟨entry, outcome, .inl rfl⟩
      · cases replaceable with
        | free => cases found
        | file content access =>
            cases slash with
            | true => cases found
            | false =>
                cases found
                refine ⟨new, ?_, .inr (node ▸ .file content access)⟩
                cases plain <;>
                  simp [FileSystem.find, leads, other, bind, Except.bind, pure, Except.pure]

theorem find_directory (grows : Grows files after)
    (there : files.node? location = some (.directory access))
    (found : files.find here path = .ok (location, .directory access)) :
    after.find here path = .ok (location, .directory access) := by
  obtain ⟨other, outcome, rfl | replaceable⟩ := grows.find found
  · exact outcome
  · rw [there] at replaceable
    cases replaceable

end Grows

end FileSystem

end VersionStamp.Files
