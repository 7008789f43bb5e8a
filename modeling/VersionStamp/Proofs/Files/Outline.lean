import VersionStamp.Files.Operations
import VersionStamp.Host
import VersionStamp.Proofs.Files.Walking

/-! What paths and failures depend on.

Two file systems are alike when they differ in the content of text files alone. A path
leads to the same place in both, and the same operations fail for the same reason.
-/

namespace VersionStamp.Files

theorem decode_toUTF8 (text : String) : Host.decode text.toUTF8 = .ok text := by
  simp [Host.decode, String.fromUTF8?, String.fromUTF8, text.isValidUTF8]

theorem eq_toUTF8_of_decode {content : ByteArray} {text : String}
    (decoded : Host.decode content = .ok text) : content = text.toUTF8 := by
  unfold Host.decode String.fromUTF8? at decoded
  split at decoded
  · rename_i found
    split at found
    · cases found
      cases decoded
      rfl
    · contradiction
  · contradiction

/-- An entry without its content, if that is text. -/
def Entry.outline : Entry → Entry
  | .file content access => .file (if content.IsValidUTF8 then .empty else content) access
  | entry => entry

theorem Entry.outline_text (text : String) (access : Access) :
    (Entry.file text.toUTF8 access).outline = .file .empty access := by
  simp [outline, text.isValidUTF8]

theorem exists_text {content : ByteArray} (valid : content.IsValidUTF8) :
    ∃ text : String, content = text.toUTF8 :=
  ⟨String.fromUTF8 content valid, rfl⟩

theorem Entry.outline_cases {one other : Entry} (same : one.outline = other.outline) :
    one = other ∨ ∃ text otherText access,
      one = .file (String.toUTF8 text) access ∧ other = .file (String.toUTF8 otherText) access := by
  match one, other with
  | .directory _, .directory _ | .link _, .link _ => exact .inl same
  | .directory _, .file _ _ | .directory _, .link _ | .link _, .file _ _ | .link _, .directory _
  | .file _ _, .directory _ | .file _ _, .link _ => cases same
  | .file content access, .file otherContent otherAccess =>
      simp only [outline, file.injEq] at same
      obtain ⟨contents, rfl⟩ := same
      have empty : ByteArray.IsValidUTF8 .empty := by decide
      by_cases valid : content.IsValidUTF8 <;> by_cases otherValid : otherContent.IsValidUTF8
      · obtain ⟨text, rfl⟩ := exists_text valid
        obtain ⟨otherText, rfl⟩ := exists_text otherValid
        exact .inr ⟨text, otherText, access, rfl, rfl⟩
      · rw [if_pos valid, if_neg otherValid] at contents
        exact absurd (contents ▸ empty) otherValid
      · rw [if_neg valid, if_pos otherValid] at contents
        exact absurd (contents ▸ empty) valid
      · rw [if_neg valid, if_neg otherValid] at contents
        exact .inl (by rw [contents])

theorem Entry.outline_cases? {one other : Option Entry}
    (same : one.map outline = other.map outline) :
    one = other ∨ ∃ text otherText access, one = some (.file (String.toUTF8 text) access) ∧
      other = some (.file (String.toUTF8 otherText) access) := by
  match one, other with
  | none, none => exact .inl rfl
  | none, some _ | some _, none => cases same
  | some one, some other =>
      rcases outline_cases (Option.some.inj same) with equal | ⟨text, otherText, access, rfl, rfl⟩
      · exact .inl (by rw [equal])
      · exact .inr ⟨text, otherText, access, rfl, rfl⟩

namespace FileSystem

/-- File systems that differ in the content of text files alone. -/
def Alike (files others : FileSystem) : Prop :=
  ∀ location : Location, (files.stored? location).map Entry.outline =
    (others.stored? location).map Entry.outline

namespace Alike

variable {files others further : FileSystem}

theorem refl (files : FileSystem) : Alike files files := fun _ => rfl

theorem symm (alike : Alike files others) : Alike others files :=
  fun location => (alike location).symm

theorem trans (first : Alike files others) (second : Alike others further) :
    Alike files further :=
  fun location => (first location).trans (second location)

theorem node? (alike : Alike files others) (location : Location) :
    files.node? location = others.node? location ∨ ∃ text otherText access,
      files.node? location = some (.file (String.toUTF8 text) access) ∧
        others.node? location = some (.file (String.toUTF8 otherText) access) := by
  rw [FileSystem.node?, FileSystem.node?]
  split
  · exact .inl rfl
  · exact Entry.outline_cases? (alike location)

theorem isClosed (alike : Alike files others) (directory : Location) :
    files.isClosed directory = others.isClosed directory := by
  rcases alike.node? directory with same | ⟨text, otherText, access, first, second⟩
  · simp [FileSystem.isClosed, same]
  · simp [FileSystem.isClosed, first, second]

theorem releasable (alike : Alike files others) (directory : Location) :
    files.releasable directory = others.releasable directory := by
  rcases alike.node? directory with same | ⟨text, otherText, access, first, second⟩
  · simp [FileSystem.releasable, same]
  · simp [FileSystem.releasable, first, second]

theorem lookUp (alike : Alike files others) (directory : Location) (name : Name) :
    files.lookUp directory name = others.lookUp directory name ∨ ∃ text otherText access,
      files.lookUp directory name = .ok (some (.file (String.toUTF8 text) access)) ∧
        others.lookUp directory name = .ok (some (.file (String.toUTF8 otherText) access)) := by
  have there : (files.node? directory).isNone = (others.node? directory).isNone := by
    rcases alike.node? directory with same | ⟨text, otherText, access, first, second⟩
    · rw [same]
    · simp [first, second]
  rw [FileSystem.lookUp, FileSystem.lookUp, there]
  split
  · exact .inl rfl
  · split
    · exact .inl rfl
    · rcases alike.node? (name :: directory) with same | ⟨text, otherText, access, first, second⟩
      · exact .inl (by rw [same])
      · exact .inr ⟨text, otherText, access, by rw [first], by rw [second]⟩

theorem stride (alike : Alike files others) (lastLink : LastLink) (directory : Location)
    (name : Name) (rest : List Name) (slash : Bool) :
    files.stride lastLink directory name rest slash =
      others.stride lastLink directory name rest slash := by
  rw [FileSystem.stride, FileSystem.stride, alike.isClosed directory]
  rcases alike.lookUp directory name with same | ⟨text, otherText, access, first, second⟩
  · rw [same]
  · simp only [first, second]

theorem resolve (alike : Alike files others) (here : Location) (lastLink : LastLink)
    (path : Path) : files.resolve here lastLink path = others.resolve here lastLink path := by
  refine resolve_related Eq (fun _ => rfl) (fun directory name rest slash => ?_) here path
  rw [alike.stride]
  exact .same _

end Alike

end FileSystem

end VersionStamp.Files
