import VersionStamp.Proofs.Files.Outline
import VersionStamp.Proofs.Toml.Assignments
import VersionStamp.Settings.Document

/-! Settings read back from the document that is written of them.

The document has the base directory, if there is one, and the four file names as its own
texts, and the scheme and the prefix as the texts of one table.
-/

namespace VersionStamp

open VersionStamp.Files VersionStamp.Release VersionStamp.Toml

namespace Files.Path

theorem ofString_of_toString? {path : Path} {text : String} (valid : path.toString? = some text) :
    Path.ofString text = path := by
  have decoded : Host.decode ⟨path.bytes.toArray⟩ = .ok text := by
    rw [toString?] at valid
    rw [Host.decode, valid]
  have bytes := eq_toUTF8_of_decode decoded
  rw [ofString, ← bytes]

end Files.Path

namespace Settings

variable {settings : Settings} {text : String}

/-- The base directory as a text of the document. -/
def baseFields? (settings : Settings) : Option (List (String × String)) :=
  match settings.baseDirectory with
  | none => some []
  | some base => base.toString?.map fun text => [("base_dir", text)]

def fileFields (settings : Settings) : List (String × String) :=
  [("metadata_file", settings.metadataFile), ("header_file", settings.headerFile),
    ("primary_rc", settings.primaryResource), ("updater_rc", settings.updaterResource)]

def buildNumberFields (settings : BuildNumberSettings) : List (String × String) :=
  [("scheme", settings.scheme.name), ("prefix", settings.lead)]

theorem baseFields?_cases {base : List (String × String)}
    (known : settings.baseFields? = some base) :
    (settings.baseDirectory = none ∧ base = []) ∨
      ∃ directory text, settings.baseDirectory = some directory ∧
        directory.toString? = some text ∧ base = [("base_dir", text)] := by
  rw [baseFields?] at known
  split at known
  · rename_i absent
    cases known
    exact .inl ⟨absent, rfl⟩
  · rename_i directory present
    obtain ⟨text, valid, rfl⟩ := Option.map_eq_some_iff.mp known
    exact .inr ⟨directory, text, present, valid, rfl⟩

def names : List String :=
  ["base_dir", "metadata_file", "header_file", "primary_rc", "updater_rc"]

theorem names_fields {base : List (String × String)} (known : settings.baseFields? = some base) :
    ((base ++ settings.fileFields).map Prod.fst).Sublist names := by
  rcases baseFields?_cases known with ⟨_, rfl⟩ | ⟨_, _, _, _, rfl⟩
  · exact List.sublist_cons_self _ _
  · exact List.Sublist.refl _

theorem toList_assignmentLine (name value : String) :
    (assignmentLine name value).toList = assignmentText name value := by
  simp [assignmentLine, assignmentText]

theorem toDocument?_eq (settings : Settings) :
    settings.toDocument? = settings.baseFields?.map fun base =>
      String.ofList ((writtenDocument (base ++ settings.fileFields) "build_number"
        (buildNumberFields settings.buildNumber)).flatMap (·.2)) := by
  rw [toDocument?, baseFields?]
  cases settings.baseDirectory with
  | none =>
      refine congrArg some (String.toList_injective ?_)
      simp [toList_assignmentLine, writtenDocument, writtenAssignments, fileFields,
        buildNumberFields, headerText]
  | some directory =>
      simp only
      cases directory.toString? with
      | none => rfl
      | some base =>
          refine congrArg some (String.toList_injective ?_)
          simp [toList_assignmentLine, writtenDocument, writtenAssignments, fileFields,
            buildNumberFields, headerText]

theorem ofEntries?_texts {base : List (String × String)}
    (known : settings.baseFields? = some base) :
    ofEntries? (textEntries (base ++ settings.fileFields) ++
      [("build_number", .table .header (textEntries (buildNumberFields settings.buildNumber)))]) =
        some settings := by
  obtain ⟨baseDirectory, metadataFile, headerFile, primary, updater, ⟨scheme, lead⟩⟩ := settings
  have number : BuildNumberSettings.ofValue?
      (.table .header (textEntries (buildNumberFields ⟨scheme, lead⟩))) = some ⟨scheme, lead⟩ := by
    simp [BuildNumberSettings.ofValue?, BuildNumberSettings.ofParts?, textEntries,
      buildNumberFields, List.lookup_cons, setting, schemeOf?, textOf?]
  generalize Value.table .header (textEntries (buildNumberFields ⟨scheme, lead⟩)) = table
    at number ⊢
  rcases baseFields?_cases known with ⟨absent, rfl⟩ | ⟨directory, text, present, valid, rfl⟩
  · obtain rfl : baseDirectory = none := absent
    simp [ofEntries?, textEntries, fileFields, Entries.get?, List.lookup_cons, setting, textOf?,
      number]
  · obtain rfl : baseDirectory = some directory := present
    simp [ofEntries?, textEntries, fileFields, Entries.get?, List.lookup_cons, setting, textOf?,
      number, Path.ofString_of_toString? valid]

theorem ofDocument?_of_toDocument? (written : settings.toDocument? = some text) :
    ofDocument? text = some settings := by
  rw [toDocument?_eq] at written
  obtain ⟨base, known, rfl⟩ := Option.map_eq_some_iff.mp written
  have named := names_fields known
  have bare : ∀ name ∈ names, IsBareKey name := by decide
  have bareFields (field : String × String) (member : field ∈ base ++ settings.fileFields) :
      IsBareKey field.1 :=
    bare field.1 (named.subset (List.mem_map_of_mem member))
  have bareNumber : ∀ name ∈ (buildNumberFields settings.buildNumber).map Prod.fst,
      IsBareKey name := by
    simp only [buildNumberFields, List.map_cons, List.map_nil]
    decide
  have distinctNumber : ((buildNumberFields settings.buildNumber).map Prod.fst).Nodup := by
    simp only [buildNumberFields, List.map_cons, List.map_nil]
    decide
  have absent : "build_number" ∉ (base ++ settings.fileFields).map Prod.fst := fun member =>
    absurd (named.subset member) (by decide)
  have read := document?_writtenDocument bareFields (by decide)
    (fun field member => bareNumber field.1 (List.mem_map_of_mem member))
    (named.nodup (by decide)) absent distinctNumber
  rw [ofDocument?, read]
  exact ofEntries?_texts known

theorem isSome_toDocument? (settings : Settings) :
    settings.toDocument?.isSome = true ↔
      ∀ base, settings.baseDirectory = some base → base.toString?.isSome = true := by
  rw [toDocument?_eq, Option.isSome_map, baseFields?]
  cases settings.baseDirectory with
  | none => simp
  | some base => simp

end Settings

end VersionStamp
