import VersionStamp.Proofs.Files.Growth

/-! A file that comes or goes.

A file that is put into a free place is what its path leads to. Once a file or a link is
gone, its path leads to the free place or nowhere.
-/

namespace VersionStamp.Files.FileSystem

variable {files : FileSystem} {here directory location : Location} {path : Path}
  {content : ByteArray} {access : Access} {name : Name} {entry : Entry} {place : Place}

theorem lookUp_set_self {found : Option Entry} (looked : files.lookUp directory name = .ok found)
    (entry : Entry) :
    (files.set (name :: directory) entry).lookUp directory name = .ok (some entry) := by
  obtain ⟨there, short, _⟩ := lookUp_eq_ok.mp looked
  refine lookUp_eq_ok.mpr ⟨?_, short, by simp [node?_set]⟩
  rw [node?_set]
  split
  · simp
  · rw [if_neg (List.cons_ne_self name directory)]
    exact there

theorem isClosed_erase (there : files.node? location = some entry)
    (other : ∀ access, entry ≠ .directory access) (directory : Location) :
    (files.erase location).isClosed directory = files.isClosed directory := by
  by_cases root : directory = []
  · simp [isClosed, node?, root]
  · by_cases same : location = directory
    · subst same
      cases entry with
      | directory access => exact absurd rfl (other access)
      | file content access => simp [isClosed, node?_erase, root, there]
      | link target => simp [isClosed, node?_erase, root, there]
    · simp [isClosed, node?_erase, root, same]

theorem lookUp_erase (files : FileSystem) (location directory : Location) (name : Name) :
    (files.erase location).lookUp directory name = files.lookUp directory name ∨
      (files.erase location).lookUp directory name = .error .notFound ∨
      (files.erase location).lookUp directory name = .ok none := by
  by_cases gone : directory ≠ [] ∧ location = directory
  · refine .inr (.inl ?_)
    simp [lookUp, node?_erase, gone]
  · have same : (files.erase location).node? directory = files.node? directory := by
      rw [node?_erase]
      by_cases root : directory = []
      · simp [root, node?]
      · rw [if_neg root, if_neg (fun equal => gone ⟨root, equal⟩)]
    rw [lookUp, lookUp, same]
    split
    · exact .inl rfl
    · split
      · exact .inl rfl
      · by_cases erased : location = name :: directory
        · exact .inr (.inr (by simp [node?_erase, erased]))
        · exact .inl (by simp [node?_erase, erased])

/-- Without a file or a link, a path leads where it led or nowhere. -/
theorem resolve_erase (there : files.node? location = some entry)
    (other : ∀ access, entry ≠ .directory access)
    (resolved : files.resolve here .kept path = .ok place) :
    (files.erase location).resolve here .kept path = .ok place ∨
      (files.erase location).resolve here .kept path = .error .notFound := by
  have strides (start : Location) (next : Name) (rest : List Name) (slash : Bool) :
      Related (fun one other => one = .ok place → other = .ok place ∨ other = .error .notFound)
        (files.stride .kept start next rest slash)
        ((files.erase location).stride .kept start next rest slash) := by
    have nowhere : ∀ one : Except FileFailure Place, one = .ok place →
        (Except.error FileFailure.notFound : Except FileFailure Place) = .ok place ∨
          (Except.error FileFailure.notFound : Except FileFailure Place) = .error .notFound :=
      fun _ _ => .inr rfl
    rw [stride, stride, isClosed_erase there other]
    split
    · exact .same _
    · split
      · exact .same _
      · split
        · exact .same _
        · cases rest with
          | nil => exact .same _
          | cons further rest =>
              simp only [List.isEmpty_cons, Bool.false_and, Bool.false_eq_true, if_false]
              rcases lookUp_erase files location start next with same | missing | free
              · rw [same]
                exact .same _
              · rw [missing]
                exact .right nowhere _
              · rw [free]
                exact .right nowhere _
  exact resolve_related _ (fun _ => .inl) strides here path resolved

theorem remove_after_remove {after : FileSystem} (removed : files.remove here path = .ok after) :
    after.remove here path = .error .notFound := by
  obtain ⟨directory, name, entry, resolved, looked, other, releasable, rfl⟩ := remove_eq_ok removed
  obtain ⟨there, short, node⟩ := lookUp_eq_ok.mp looked
  rcases resolve_erase node other resolved with still | nowhere
  · have free : (files.erase (name :: directory)).lookUp directory name = .ok none := by
      refine lookUp_eq_ok.mpr ⟨?_, short, by simp [node?_erase]⟩
      rw [node?_erase]
      split
      · simp
      · rw [if_neg (List.cons_ne_self name directory)]
        exact there
    simp [remove, still, free, bind, Except.bind]
  · simp [remove, nowhere, bind, Except.bind]

/-- A path that leads to an entry other than a link leads there as well when links at its
end are followed. -/
theorem resolve_followed_of_entry {slash : Bool}
    (resolved : files.resolve here .kept path = .ok (.entry directory name slash))
    (looked : files.lookUp directory name = .ok (some entry))
    (other : ∀ target, entry ≠ .link target) :
    files.resolve here .followed path = .ok (.entry directory name slash) := by
  have strides (start : Location) (next : Name) (rest : List Name) (ends : Bool) :
      Related (fun one other => one = .ok (.entry directory name slash) →
          other = .ok (.entry directory name slash))
        (files.stride .kept start next rest ends)
        (files.stride .followed start next rest ends) := by
    cases rest with
    | cons further rest => exact .same _
    | nil =>
        rw [stride, stride]
        split
        · exact .same _
        · split
          · exact .same _
          · split
            · exact .same _
            · by_cases arrived : start = directory ∧ next = name ∧ ends = slash
              · obtain ⟨rfl, rfl, rfl⟩ := arrived
                simp only [looked]
                cases entry with
                | link target => exact absurd rfl (other target)
                | file _ _ | directory _ => exact .same _
              · refine .left (fun _ reached => ?_) _
                cases reached
                exact absurd ⟨rfl, rfl, rfl⟩ arrived
  exact resolve_related _ (fun _ => id) strides here path resolved

theorem find_of_entry
    (resolved : files.resolve here .followed path = .ok (.entry directory name false))
    (looked : files.lookUp directory name = .ok (some (.file content access))) :
    files.find here path = .ok (name :: directory, .file content access) := by
  simp [find, resolved, looked, bind, Except.bind, pure, Except.pure]

theorem find_of_named
    (resolved : files.resolve here .kept path = .ok (.entry directory name false))
    (looked : files.lookUp directory name = .ok (some (.file content access))) :
    files.find here path = .ok (name :: directory, .file content access) :=
  find_of_entry (resolve_followed_of_entry resolved looked (by simp)) looked

section Created

variable (resolved : files.resolve here .kept path = .ok (.entry directory name false))
  (vacant : files.lookUp directory name = .ok none)
  (full : files.node? directory = some (.directory .full))

include full in
theorem parent_of_created (entry : Entry) :
    (files.set (name :: directory) entry).node? directory = some (.directory .full) := by
  rw [node?_set]
  split
  · rfl
  · rw [if_neg (List.cons_ne_self name directory)]
    exact full

include resolved vacant in
theorem resolve_created (content : ByteArray) (access : Access) :
    (files.set (name :: directory) (.file content access)).resolve here .kept path =
      .ok (.entry directory name false) :=
  Grows.resolve (.set ((lookUp_eq_ok.mp vacant).2.2 ▸ .free) (.file content access)) resolved

end Created

theorem alike_erase {left : FileSystem} (free : files.stored? location = none)
    (alike : left.Alike (files.set location entry)) : (left.erase location).Alike files := by
  intro other
  rw [stored?_erase]
  by_cases same : location = other
  · subst same
    rw [if_pos rfl, free]
  · rw [if_neg same, alike other, stored?_set, if_neg same]

theorem vacant_of_creatable (created : files.creatable here path = .ok location) :
    files.stored? location = none := by
  obtain ⟨directory, name, _, vacant, _, rfl⟩ := creatable_eq_ok created
  rw [← node?_cons]
  exact (lookUp_eq_ok.mp vacant).2.2

theorem find_after_create (created : files.creatable here path = .ok location)
    (content : ByteArray) :
    (files.set location (.file content .full)).find here path =
      .ok (location, .file content .full) := by
  obtain ⟨directory, name, resolved, vacant, full, rfl⟩ := creatable_eq_ok created
  exact find_of_named (resolve_created resolved vacant content .full) (lookUp_set_self vacant _)

/-- A file that was created can be removed, whatever has become of the texts, and created
again in the same place. -/
theorem create_after_remove {left : FileSystem}
    (created : files.creatable here path = .ok location)
    (alike : left.Alike (files.set location (.file content .full))) :
    left.remove here path = .ok (left.erase location) ∧
      (left.erase location).creatable here path = .ok location := by
  have free := vacant_of_creatable created
  refine ⟨?_, ((alike_erase free alike).creatable here path).trans created⟩
  obtain ⟨directory, name, resolved, vacant, full, rfl⟩ := creatable_eq_ok created
  have leads := (alike.resolve here .kept path).trans
    (resolve_created resolved vacant content .full)
  have releasable := alike.releasable directory
  rw [FileSystem.releasable, FileSystem.releasable, parent_of_created full] at releasable
  rcases alike.lookUp directory name with same | ⟨text, otherText, access, first, second⟩
  · rw [lookUp_set_self vacant] at same
    exact remove_of_entry leads same (by simp) releasable
  · exact remove_of_entry leads first (by simp) releasable

end VersionStamp.Files.FileSystem
