import Std.Data.ExtTreeMap
import VersionStamp.Files.Path

/-! File systems.

A file system is a finite map from locations to entries. Two file systems with
the same entries are equal, so a statement that nothing else changed can be an
equation.
-/

namespace VersionStamp.Files

abbrev Name := List UInt8

/-- The names on the way to an entry, innermost first. The root is the empty list. -/
abbrev Location := List Name

/-- What may be done with an entry. A directory that is read-only can be searched
but gains and loses no entries. There is no access for writing alone, so every file that
can be written can be read. -/
inductive Access where
  | full
  | readOnly
  | none
deriving Repr, DecidableEq

inductive Entry where
  | file (content : ByteArray) (access : Access)
  | directory (access : Access)
  | link (target : Path)

structure FileSystem where
  entries : Std.ExtTreeMap Location Entry

namespace FileSystem

def empty : FileSystem := ⟨∅⟩

/-- The root is always there. -/
def node? (files : FileSystem) (location : Location) : Option Entry :=
  if location = [] then some (.directory .full) else files.entries[location]?

/-- What is recorded at a location, be there a directory around it or not. -/
def stored? (files : FileSystem) (location : Location) : Option Entry :=
  files.entries[location]?

def set (files : FileSystem) (location : Location) (entry : Entry) : FileSystem :=
  ⟨files.entries.insert location entry⟩

def erase (files : FileSystem) (location : Location) : FileSystem :=
  ⟨files.entries.erase location⟩

theorem node?_set (files : FileSystem) {location other : Location} (entry : Entry) :
    (files.set location entry).node? other =
      if other = [] then some (.directory .full)
      else if location = other then some entry else files.node? other := by
  by_cases root : other = []
  · simp [node?, root]
  · by_cases same : location = other
    · subst same
      simp [node?, set, root]
    · simp [node?, set, root, same, Std.ExtTreeMap.getElem?_insert]

theorem node?_erase (files : FileSystem) {location other : Location} :
    (files.erase location).node? other =
      if other = [] then some (.directory .full)
      else if location = other then none else files.node? other := by
  by_cases root : other = []
  · simp [node?, root]
  · by_cases same : location = other
    · subst same
      simp [node?, erase, root]
    · simp [node?, erase, root, same, Std.ExtTreeMap.getElem?_erase]

end FileSystem

end VersionStamp.Files
