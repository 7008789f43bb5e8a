import VersionStamp.Proofs.Files.Vacancy

/-! Reading what was written.

Writing puts a file where there was one or where nothing was. Either way the path that it
was written to leads to it afterwards.
-/

namespace VersionStamp.Files.FileSystem

variable {files after : FileSystem} {here : Location} {path : Path} {content : ByteArray}

theorem find_after_write (written : files.write here path content = .ok after) :
    ∃ location, after = files.set location (.file content .full) ∧ Grows files after ∧
      (files.stored? location = none ∨ ∃ old, files.stored? location = some (.file old .full)) ∧
      after.find here path = .ok (location, .file content .full) := by
  obtain ⟨_, opened, rfl⟩ := write_eq_ok_iff.mp written
  obtain ⟨directory, name, there, resolved, looked, replaceable, rfl⟩ := writable_eq_ok opened
  have node := (lookUp_eq_ok.mp looked).2.2
  have grows : Grows files (files.set (name :: directory) (.file content .full)) := by
    refine .set ?_ (.file content .full)
    rw [node]
    rcases replaceable with rfl | ⟨old, rfl⟩
    · exact .free
    · exact .file old .full
  rw [← node, node?_cons] at replaceable
  exact ⟨name :: directory, rfl, grows, replaceable,
    find_of_entry (grows.resolve (resolve_followed resolved)) (lookUp_set_self looked _)⟩

theorem read_after_write (written : files.write here path content = .ok after) :
    after.read here path = .ok content := by
  obtain ⟨location, _, _, _, found⟩ := find_after_write written
  exact read_eq_ok.mpr ⟨location, .full, found, by decide⟩

theorem readText_after_write {text : String}
    (written : files.write here path text.toUTF8 = .ok after) :
    after.readText here path = .ok text := by
  rw [readText, read_after_write written]
  exact decode_toUTF8 text

theorem isPresent_after_write (written : files.write here path content = .ok after) :
    after.isPresent here path = true := by
  obtain ⟨location, _, _, _, found⟩ := find_after_write written
  rw [isPresent, found]

end VersionStamp.Files.FileSystem
