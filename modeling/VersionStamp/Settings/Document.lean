import VersionStamp.Settings.Basic
import VersionStamp.Toml.Document
import VersionStamp.Toml.Quotation

/-! Settings as a TOML document.

A key that is present must have a value of its kind; one that is absent has its
default. Keys that mean nothing here are passed over.
-/

namespace VersionStamp

open VersionStamp.Files VersionStamp.Release VersionStamp.Toml

/-- The value of a setting that may be absent. -/
def setting {α : Type} (value : Option Value) (standard : α) (read : Value → Option α) :
    Option α :=
  match value with
  | none => some standard
  | some value => read value

def textOf? : Value → Option String
  | .string text => some text
  | _ => none

def isEmptyValue : Value → Bool
  | .array items => items.isEmpty
  | .table _ entries => entries.isEmpty
  | .tables items => items.isEmpty
  | _ => false

/-- A scheme is given by its name, or by a table with the name as only key and nothing
in it. -/
def schemeOf? : Value → Option Scheme
  | .string name => Scheme.ofName? name
  | .table _ [(name, value)] => if isEmptyValue value then Scheme.ofName? name else none
  | _ => none

namespace BuildNumberSettings

def ofParts? (scheme lead : Option Value) : Option BuildNumberSettings := do
  let standard : BuildNumberSettings := {}
  return {
    scheme := ← setting scheme standard.scheme schemeOf?
    lead := ← setting lead standard.lead textOf? }

/-- The two settings are found by name in a table and by position in an array. -/
def ofValue? : Value → Option BuildNumberSettings
  | .table _ entries => ofParts? (entries.lookup "scheme") (entries.lookup "prefix")
  | .array items => ofParts? items[0]? items[1]?
  | .tables items =>
      ofParts? (items[0]?.map (Value.table .header)) (items[1]?.map (Value.table .header))
  | .plain .dateTime => some {}
  | _ => none

end BuildNumberSettings

namespace Settings

def ofEntries? (entries : Entries) : Option Settings := do
  let standard : Settings := {}
  return {
    baseDirectory := ← setting (entries.get? "base_dir") standard.baseDirectory
      fun value => (textOf? value).map fun text => some (Path.ofString text)
    metadataFile := ← setting (entries.get? "metadata_file") standard.metadataFile textOf?
    headerFile := ← setting (entries.get? "header_file") standard.headerFile textOf?
    primaryResource := ← setting (entries.get? "primary_rc") standard.primaryResource textOf?
    updaterResource := ← setting (entries.get? "updater_rc") standard.updaterResource textOf?
    buildNumber := ← setting (entries.get? "build_number") standard.buildNumber
      BuildNumberSettings.ofValue? }

def ofDocument? (text : String) : Option Settings := do
  ofEntries? (← document? text)

def assignmentLine (key value : String) : String := key ++ " = " ++ quote value ++ "\n"

/-- The document that reads back as the settings. A base directory that is no text
cannot be written. -/
def toDocument? (settings : Settings) : Option String := do
  let base ←
    match settings.baseDirectory with
    | none => some ""
    | some base => base.toString?.map (assignmentLine "base_dir")
  return base ++
    assignmentLine "metadata_file" settings.metadataFile ++
    assignmentLine "header_file" settings.headerFile ++
    assignmentLine "primary_rc" settings.primaryResource ++
    assignmentLine "updater_rc" settings.updaterResource ++
    "\n[build_number]\n" ++
    assignmentLine "scheme" settings.buildNumber.scheme.name ++
    assignmentLine "prefix" settings.buildNumber.lead

end Settings

end VersionStamp
