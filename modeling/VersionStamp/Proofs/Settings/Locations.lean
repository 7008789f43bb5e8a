import Mathlib.Data.List.Forall2
import VersionStamp.Proofs.Files.Joining
import VersionStamp.Proofs.Text.Encoding
import VersionStamp.Proofs.Worlds
import VersionStamp.Settings.File

/-! Where the files of a run are found.

Every configured name is joined to one base, so bases can be put together before or after
that. A backslash in a name is as good as a slash. In the base directory it is not: the base
is taken as it is spelled, and only names that begin with a separator do without it.
-/

namespace VersionStamp

open VersionStamp.Artifact VersionStamp.Files

/-- A spelling in which some occurrences of one sign have become another sign. -/
def IsRespelling {α : Type} (sign changed : α) : List α → List α → Prop :=
  List.Forall₂ fun before after => after = before ∨ before = sign ∧ after = changed

instance {α : Type} [DecidableEq α] (sign changed : α) (before after : List α) :
    Decidable (IsRespelling sign changed before after) :=
  inferInstanceAs (Decidable (List.Forall₂ _ _ _))

theorem map_eq_of_forall₂ {α β : Type} {related : α → α → Prop} {change : α → β}
    (alike : ∀ one other, related one other → change one = change other) {list others : List α}
    (each : List.Forall₂ related list others) : list.map change = others.map change := by
  induction each with
  | nil => rfl
  | cons first _ ih => rw [List.map_cons, List.map_cons, alike _ _ first, ih]

namespace Artifact.Locations

def map (change : Path → Path) (locations : Locations) : Locations where
  metadata := change locations.metadata
  header := change locations.header
  primaryResource := change locations.primaryResource
  updaterResource := change locations.updaterResource

def toList (locations : Locations) : List Path :=
  [locations.metadata, locations.header, locations.primaryResource, locations.updaterResource]

theorem toList_inj {one other : Locations} : one.toList = other.toList ↔ one = other := by
  cases one
  cases other
  simp [toList]

theorem toList_map (change : Path → Path) (locations : Locations) :
    (locations.map change).toList = locations.toList.map change := rfl

end Artifact.Locations

namespace Settings

/-- The configured names of files, in the order of the locations. -/
def fileNames (settings : Settings) : List String :=
  [settings.metadataFile, settings.headerFile, settings.primaryResource, settings.updaterResource]

/-- Settings with slashes for some backslashes of the base directory and the names. -/
structure Respelled (settings other : Settings) : Prop where
  baseDirectory : Option.Rel
    (fun base changed => IsRespelling 92 Path.slash base.bytes changed.bytes)
    settings.baseDirectory other.baseDirectory
  fileNames : List.Forall₂
    (fun name changed => IsRespelling '\\' '/' name.toList changed.toList)
    settings.fileNames other.fileNames

variable {settings other : Settings} {base changed : Path}

theorem toList_locationsIn (settings : Settings) (base : Path) :
    (settings.locationsIn base).toList =
      settings.fileNames.map fun name => base.join (.ofConfigured name) := rfl

theorem perform_locations (settings : Settings) (world : World) :
    world.perform settings.locations =
      (match settings.baseDirectory with
        | some base => .ok (settings.locationsIn base)
        | none => ((world.files.currentPath world.directory).mapError .noCurrentDirectory).map
            settings.locationsIn, world) := by
  rw [locations]
  cases settings.baseDirectory with
  | some base => rfl
  | none =>
      have asked : world.perform Host.currentDirectory =
          (world.files.currentPath world.directory, world) := rfl
      simp only [World.perform_bind, World.perform_attempt, asked]
      cases world.files.currentPath world.directory with
      | error failure => rfl
      | ok here => rfl

section Separators

theorem isAbsolute_ofConfigured (name : String) :
    (Path.ofConfigured name).isAbsolute = true ↔
      name.toList.head? = some '/' ∨ name.toList.head? = some '\\' := by
  rw [Path.ofConfigured, Path.isAbsolute, beq_iff_eq, Path.ofString, Path.slash,
    Text.head?_toUTF8_slash, String.toList_ofList, List.head?_map]
  cases name.toList.head? with
  | none => simp
  | some c =>
      rw [Option.map_some]
      split
      next backslash => simp [backslash]
      next other => simp [other]

theorem ofConfigured_of_respelled {name changed : String}
    (respelled : IsRespelling '\\' '/' name.toList changed.toList) :
    Path.ofConfigured name = Path.ofConfigured changed := by
  rw [Path.ofConfigured, Path.ofConfigured]
  congr 2
  refine map_eq_of_forall₂ (fun before after sign => ?_) respelled
  rcases sign with rfl | ⟨rfl, rfl⟩
  · rfl
  · rfl

theorem locationsIn_of_respelled (respelled : settings.Respelled other) (base : Path) :
    settings.locationsIn base = other.locationsIn base := by
  rw [← Locations.toList_inj, toList_locationsIn, toList_locationsIn]
  refine map_eq_of_forall₂ (fun name changed sign => ?_) respelled.fileNames
  rw [ofConfigured_of_respelled sign]

/-- Starting from different bases of one length, only names with a separator in front are
found in the same place. -/
theorem locationsIn_eq_iff (differ : base ≠ changed)
    (length : base.bytes.length = changed.bytes.length) :
    settings.locationsIn base = settings.locationsIn changed ↔
      ∀ name ∈ settings.fileNames,
        name.toList.head? = some '/' ∨ name.toList.head? = some '\\' := by
  rw [← Locations.toList_inj, toList_locationsIn, toList_locationsIn, List.map_inj_left]
  refine forall₂_congr fun name _ => ?_
  rw [← isAbsolute_ofConfigured]
  constructor
  · intro same
    by_contra relative
    exact differ ((Path.join_left_inj (by simpa using relative) length).mp same)
  · intro absolute
    rw [Path.join_of_absolute base absolute, Path.join_of_absolute changed absolute]

/-- Slashes for backslashes in the names make no difference. In the base directory they do,
unless every name begins with a separator. -/
theorem locations_of_respelled (respelled : settings.Respelled other) (world : World) :
    world.perform settings.locations = world.perform other.locations ↔
      settings.baseDirectory = other.baseDirectory ∨
        ∀ name ∈ settings.fileNames,
          name.toList.head? = some '/' ∨ name.toList.head? = some '\\' := by
  have names := locationsIn_of_respelled respelled
  have bases := respelled.baseDirectory
  rw [perform_locations, perform_locations]
  generalize settings.baseDirectory = base at bases ⊢
  generalize other.baseDirectory = changed at bases ⊢
  cases bases with
  | none => simp [funext names]
  | @some base changed spelled =>
      simp only [← names, Prod.mk.injEq, Except.ok.injEq, and_true, Option.some.injEq]
      by_cases same : base = changed
      · simp [same]
      · rw [locationsIn_eq_iff same (List.Forall₂.length_eq spelled), or_iff_right same]

/-- Names with separators of both kinds are found alike. In a base directory they lead apart
as soon as one name is relative. -/
theorem locations_of_mixed_separators :
    let settings : Settings :=
      { baseDirectory := some (.ofString "w\\b")
        metadataFile := "\\out\\v"
        headerFile := "C:\\a\\\\b/c"
        primaryResource := ""
        updaterResource := "..\\" }
    let other : Settings :=
      { settings with
        metadataFile := "/out\\v"
        headerFile := "C:\\a/\\b/c"
        updaterResource := "../" }
    let moved : Settings := { other with baseDirectory := some (.ofString "w/b") }
    let world : World := { files := .empty, directory := [] }
    settings.Respelled other ∧ world.perform settings.locations = world.perform other.locations ∧
      settings.Respelled moved ∧
      world.perform settings.locations ≠ world.perform moved.locations := by
  intro settings other moved world
  have names : List.Forall₂ (fun name changed =>
      IsRespelling '\\' '/' name.toList changed.toList) settings.fileNames other.fileNames := by
    decide +kernel
  have respelled : settings.Respelled other := ⟨.some (by decide +kernel), names⟩
  have elsewhere : settings.Respelled moved := ⟨.some (by decide +kernel), names⟩
  refine ⟨respelled, (locations_of_respelled respelled world).mpr (.inl rfl), elsewhere, ?_⟩
  rw [Ne, locations_of_respelled elsewhere world]
  decide +kernel

/-- A base directory with backslashes leads elsewhere than the same one with slashes. -/
theorem locations_of_backslash_base :
    let settings : Settings := { baseDirectory := some (.ofString "..\\build") }
    let other : Settings := { baseDirectory := some (.ofString "../build") }
    settings.Respelled other ∧
      ∀ world : World, world.perform settings.locations ≠ world.perform other.locations := by
  intro settings other
  refine ⟨⟨.some (by decide +kernel), by decide +kernel⟩, fun world same => ?_⟩
  rw [perform_locations, perform_locations] at same
  have found : settings.locationsIn (.ofString "..\\build") =
      other.locationsIn (.ofString "../build") := Except.ok.inj (Prod.mk.inj same).1
  exact absurd found (by decide +kernel)

end Separators

/-- The locations from a base that is joined to another are those from the base itself, joined
to the other. A name that is absolute is its own location from every base, and from an
absolute base every location is absolute. So where the base directory is set, joining a
directory to the locations is the same as joining it to the base directory. -/
theorem locationsIn_composed (settings : Settings) :
    (∀ base middle : Path, settings.locationsIn (base.join middle) =
      (settings.locationsIn middle).map base.join) ∧
    (∀ base : Path, List.Forall₂
      (fun name path =>
        (Path.ofConfigured name).isAbsolute = true → path = Path.ofConfigured name)
      settings.fileNames (settings.locationsIn base).toList) ∧
    (∀ base : Path, base.isAbsolute = true →
      ∀ path ∈ (settings.locationsIn base).toList, path.isAbsolute = true) ∧
    ∀ (world : World) (here directory : Path), settings.baseDirectory = some directory →
      ∃ found, world.perform settings.locations = (.ok found, world) ∧
        found.map here.join = settings.locationsIn (here.join directory) := by
  have composed (base middle : Path) : settings.locationsIn (base.join middle) =
      (settings.locationsIn middle).map base.join := by
    rw [← Locations.toList_inj, Locations.toList_map, toList_locationsIn, toList_locationsIn,
      List.map_map]
    exact List.map_congr_left fun name _ => Path.join_join base middle _
  refine ⟨composed, fun base => ?_, fun base rooted path member => ?_,
    fun world here directory set => ⟨settings.locationsIn directory, ?_, (composed _ _).symm⟩⟩
  · rw [toList_locationsIn, List.forall₂_map_right_iff, List.forall₂_same]
    exact fun name _ absolute => Path.join_of_absolute base absolute
  · rw [toList_locationsIn] at member
    obtain ⟨name, _, rfl⟩ := List.mem_map.mp member
    rw [Path.isAbsolute_join, rooted, Bool.or_true]
  · rw [perform_locations, set]

/-- One name is absolute with a backslash in front, one is empty, and the base directory ends
in a slash. -/
theorem locationsIn_composed_of_separators :
    let settings : Settings :=
      { baseDirectory := some (.ofString "d//")
        metadataFile := "\\v"
        headerFile := ""
        primaryResource := "..\\r"
        updaterResource := "u/" }
    let here := Path.ofString "/w"
    let world : World := { files := .empty, directory := [] }
    (settings.locationsIn (here.join (.ofString "d//"))).toList =
        ["/v", "/w/d//", "/w/d//../r", "/w/d//u/"].map Path.ofString ∧
      (settings.locationsIn here).metadata = Path.ofConfigured "\\v" ∧
      (∀ path ∈ (settings.locationsIn here).toList, path.isAbsolute = true) ∧
      ∃ found, world.perform settings.locations = (.ok found, world) ∧
        found.map here.join = settings.locationsIn (here.join (.ofString "d//")) := by
  intro settings here world
  obtain ⟨_, absolute, rooted, found⟩ := locationsIn_composed settings
  have first := (List.forall₂_cons.mp (absolute here)).1
  exact ⟨by decide +kernel, first (by decide +kernel), rooted here (by decide +kernel),
    found world here (.ofString "d//") rfl⟩

end Settings

end VersionStamp
