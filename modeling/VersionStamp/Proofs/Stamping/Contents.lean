import VersionStamp.Proofs.Artifact.ReleaseLines
import VersionStamp.Proofs.Stamping.Targets

/-! What stamping targets leaves in the files.

Several paths may lead to one file. Stamped targets apply to every file the lines of
those targets that lead to it, in their order, and leave everything else as it is. Two
file systems whose texts the lines make equal are equal after stamping.
-/

namespace VersionStamp

open VersionStamp.Artifact VersionStamp.Files

theorem Files.toUTF8_inj {text otherText : String} (same : text.toUTF8 = otherText.toUTF8) :
    text = otherText := by
  have decoded := decode_toUTF8 text
  rw [same, decode_toUTF8] at decoded
  exact (Except.ok.inj decoded).symm

namespace Files.FileSystem

variable {files others : FileSystem} {here location : Location} {path : Path} {entry : Entry}

def leads (files : FileSystem) (here : Location) (path : Path) (location : Location) : Bool :=
  match files.find here path with
  | .ok (found, _) => found == location
  | .error _ => false

theorem leads_of_find (found : files.find here path = .ok (location, entry)) (other : Location) :
    files.leads here path other = (location == other) := by
  simp [leads, found]

theorem Alike.leads (alike : Alike files others) (here : Location) (path : Path)
    (location : Location) : files.leads here path location = others.leads here path location := by
  rw [FileSystem.leads, FileSystem.leads]
  rcases alike.find here path with same | ⟨there, text, otherText, access, first, second⟩
  · rw [same]
  · rw [first, second]

end Files.FileSystem

namespace Stamping

variable {world other after : World} {target : Target} {chosen others : List Target}
  {location : Location}

/-- The lines of the targets that lead to a location, in the order of the targets. -/
def linesAt (files : FileSystem) (here : Location) (chosen : List Target)
    (location : Location) : List TaggedLine :=
  (chosen.filter fun target => files.leads here target.path location).map (·.line)

theorem linesAt_alike {files otherFiles : FileSystem} (alike : files.Alike otherFiles)
    (here : Location) (chosen : List Target) :
    linesAt files here chosen = linesAt otherFiles here chosen := by
  funext location
  simp only [linesAt, alike.leads]

theorem linesAt_cons_of_leads {files : FileSystem} {here : Location}
    (leads : files.leads here target.path location = true) :
    linesAt files here (target :: others) location =
      target.line :: linesAt files here others location := by
  simp [linesAt, leads]

theorem linesAt_cons_of_not_leads {files : FileSystem} {here : Location}
    (leads : files.leads here target.path location = false) :
    linesAt files here (target :: others) location = linesAt files here others location := by
  simp [linesAt, leads]

theorem mem_linesAt {files : FileSystem} {here : Location} {tagged : TaggedLine} :
    tagged ∈ linesAt files here chosen location ↔ ∃ target ∈ chosen,
      files.leads here target.path location = true ∧ target.line = tagged := by
  simp [linesAt, and_assoc]

theorem separate_linesAt {release : Release} (numeric : release.IsNumeric)
    {locate : SourceFile → Path} {chosen : List Target}
    (inOrder : chosen.Sublist (targets locate release)) (files : FileSystem) (here : Location)
    (location : Location) : Separate (linesAt files here chosen location) :=
  (separate_targets numeric locate).sublist ((List.filter_sublist.trans inOrder).map _)

/-- Lines are stamped into the text of a file. Whatever else an entry is, it stays. -/
def stampEntry (lines : List TaggedLine) : Entry → Entry
  | .file content access =>
      match Host.decode content with
      | .ok text => .file (stampEach lines text).1.toUTF8 access
      | .error _ => .file content access
  | entry => entry

theorem stampEntry_text (lines : List TaggedLine) (text : String) (access : Access) :
    stampEntry lines (.file text.toUTF8 access) =
      .file (stampEach lines text).1.toUTF8 access := by
  rw [stampEntry, decode_toUTF8]

theorem stampEntry_cases (lines : List TaggedLine) (entry : Option Entry) :
    entry.map (stampEntry lines) = entry ∨ ∃ text access,
      entry = some (.file (String.toUTF8 text) access) ∧
      entry.map (stampEntry lines) = some (.file (stampEach lines text).1.toUTF8 access) := by
  match entry with
  | none | some (.directory _) | some (.link _) => exact .inl rfl
  | some (.file content access) =>
      cases decoded : Host.decode content with
      | error failure => exact .inl (by simp [stampEntry, decoded])
      | ok text =>
          obtain rfl := eq_toUTF8_of_decode decoded
          exact .inr ⟨text, access, rfl, by rw [Option.map_some, stampEntry_text]⟩

theorem map_stampEntry_nil (entry : Option Entry) : entry.map (stampEntry []) = entry := by
  rcases stampEntry_cases [] entry with kept | ⟨text, access, found, left⟩
  · exact kept
  · rw [left, found]
    rfl

theorem stored?_stampTargets {counts : List Nat}
    (done : world.perform (stampTargets chosen) = (.ok counts, after)) (location : Location) :
    after.files.stored? location = (world.files.stored? location).map
      (stampEntry (linesAt world.files world.directory chosen location)) := by
  induction chosen generalizing world counts with
  | nil =>
      cases done
      exact (map_stampEntry_nil _).symm
  | cons target others ih =>
      obtain ⟨_, _, middle, first, rest, _⟩ := stampTargets_cons_ok done
      obtain ⟨here, place, text, found, changed, _⟩ := stampTarget_ok first
      rw [ih rest, here, linesAt_alike (stampTarget_ok_alike first).2, changed,
        FileSystem.stored?_set]
      by_cases reached : place = location
      · subst reached
        rw [linesAt_cons_of_leads (by simp [FileSystem.leads_of_find found]), if_pos rfl,
          FileSystem.stored?_of_find found, Option.map_some, Option.map_some, stampEntry_text,
          stampEntry_text]
        rfl
      · rw [linesAt_cons_of_not_leads (by simp [FileSystem.leads_of_find found, reached]),
          if_neg reached]

theorem find_of_stampTargets {counts : List Nat}
    (done : world.perform (stampTargets chosen) = (.ok counts, after)) :
    ∀ target ∈ chosen, ∃ location text, world.files.find world.directory target.path =
      .ok (location, .file (String.toUTF8 text) .full) :=
  fun target member =>
    ((exists_stampTargets_ok_iff.mp ⟨counts, after, done⟩).1 target member).find

/-- File systems that differ at most in texts which the given lines make equal, with
equal counts. -/
def Settles (lines : Location → List TaggedLine) (files others : FileSystem) : Prop :=
  ∀ location : Location, files.stored? location = others.stored? location ∨
    ∃ text otherText access, files.stored? location = some (.file (String.toUTF8 text) access) ∧
      others.stored? location = some (.file (String.toUTF8 otherText) access) ∧
      stampEach (lines location) text = stampEach (lines location) otherText

theorem Settles.alike {lines : Location → List TaggedLine} {files others : FileSystem}
    (settles : Settles lines files others) : files.Alike others := by
  intro location
  rcases settles location with same | ⟨text, otherText, access, first, second, _⟩
  · rw [same]
  · simp only [first, second, Option.map_some, Entry.outline_text]

theorem Settles.stampEach_eq {lines : Location → List TaggedLine} {files others : FileSystem}
    (settles : Settles lines files others) {text otherText : String} {access : Access}
    (first : files.stored? location = some (.file text.toUTF8 access))
    (second : others.stored? location = some (.file otherText.toUTF8 access)) :
    stampEach (lines location) text = stampEach (lines location) otherText := by
  rcases settles location with same | ⟨one, otherOne, _, found, otherFound, equal⟩
  · have contents := Entry.file.inj (Option.some.inj ((first.symm.trans same).trans second))
    rw [toUTF8_inj contents.1]
  · have contents := Entry.file.inj (Option.some.inj (first.symm.trans found))
    have otherContents := Entry.file.inj (Option.some.inj (second.symm.trans otherFound))
    rw [toUTF8_inj contents.1, toUTF8_inj otherContents.1]
    exact equal

theorem Settles.eq {files others : FileSystem} (settles : Settles (fun _ => []) files others) :
    files = others := by
  apply FileSystem.ext_stored
  intro location
  rcases settles location with same | ⟨text, otherText, access, first, second, equal⟩
  · exact same
  · rw [first, second, show text = otherText from congrArg Prod.fst equal]

theorem stampTarget_settles {replaced : Nat}
    (settles : Settles (linesAt world.files world.directory (target :: others))
      world.files other.files)
    (here : world.directory = other.directory)
    (interruptions : world.interruptions = other.interruptions)
    (done : world.perform (stampTarget target) = (.ok replaced, after)) :
    ∃ otherAfter, other.perform (stampTarget target) = (.ok replaced, otherAfter) ∧
      Settles (linesAt after.files after.directory others) after.files otherAfter.files ∧
      after.directory = otherAfter.directory ∧ after.interruptions = otherAfter.interruptions := by
  obtain ⟨stampable, next⟩ := exists_stampTarget_ok_iff.mp ⟨replaced, after, done⟩
  rw [isStampable_alike settles.alike, here] at stampable
  rw [interruptions] at next
  obtain ⟨otherReplaced, otherAfter, otherDone⟩ :=
    exists_stampTarget_ok_iff.mpr ⟨stampable, next⟩
  obtain ⟨afterHere, place, text, found, changed, rfl⟩ := stampTarget_ok done
  obtain ⟨otherHere, otherPlace, otherText, otherFound, otherChanged, rfl⟩ :=
    stampTarget_ok otherDone
  have samePlace : place = otherPlace := by
    have leads := settles.alike.leads world.directory target.path otherPlace
    rw [FileSystem.leads_of_find found, FileSystem.leads_of_find (here ▸ otherFound)] at leads
    simpa using leads
  subst samePlace
  have equal := settles.stampEach_eq (FileSystem.stored?_of_find found)
    (FileSystem.stored?_of_find otherFound)
  rw [linesAt_cons_of_leads (by simp [FileSystem.leads_of_find found])] at equal
  simp only [stampEach, Prod.mk.injEq, List.cons.injEq] at equal
  obtain ⟨texts, replaced, counts⟩ := equal
  refine ⟨otherAfter, by rw [otherDone, replaced], ?_, by rw [afterHere, here, otherHere], ?_⟩
  · rw [afterHere, linesAt_alike (stampTarget_ok_alike done).2]
    intro location
    rw [changed, otherChanged, FileSystem.stored?_set, FileSystem.stored?_set]
    by_cases reached : place = location
    · subst reached
      rw [if_pos rfl, if_pos rfl]
      exact .inr ⟨_, _, .full, rfl, rfl, Prod.ext texts counts⟩
    · have unled : world.files.leads world.directory target.path location = false := by
        simp [FileSystem.leads_of_find found, reached]
      rw [if_neg reached, if_neg reached, ← linesAt_cons_of_not_leads unled]
      exact settles location
  · rw [(stampTarget_ok_interruptions done).2, (stampTarget_ok_interruptions otherDone).2]
    exact congrArg (fun later count => later (count + 1)) interruptions

/-- Targets leave one file system where their lines settle the difference. -/
theorem stampTargets_settles {counts : List Nat}
    (settles : Settles (linesAt world.files world.directory chosen) world.files other.files)
    (here : world.directory = other.directory)
    (interruptions : world.interruptions = other.interruptions)
    (done : world.perform (stampTargets chosen) = (.ok counts, after)) :
    ∃ otherAfter, other.perform (stampTargets chosen) = (.ok counts, otherAfter) ∧
      after.SameFiles otherAfter := by
  induction chosen generalizing world other counts with
  | nil =>
      cases done
      exact ⟨other, rfl, Settles.eq settles, here, interruptions⟩
  | cons target others ih =>
      obtain ⟨replaced, rest, middle, first, remaining, rfl⟩ := stampTargets_cons_ok done
      obtain ⟨otherMiddle, otherFirst, settled, otherHere, later⟩ :=
        stampTarget_settles settles here interruptions first
      obtain ⟨otherAfter, otherRemaining, same⟩ := ih settled otherHere later remaining
      refine ⟨otherAfter, ?_, same⟩
      rw [perform_stampTargets_cons, otherFirst]
      simp only [otherRemaining]

end Stamping

end VersionStamp
