import Mathlib.Logic.Relation
import Mathlib.Tactic.ByContra
import Mathlib.Tactic.Choose
import VersionStamp.Proofs.Settings.Saving
import VersionStamp.Proofs.Settings.Values

/-! Settings of a document that gives only some of them.

Each key stands for itself. The value that a document gives it has to be of the right kind
and is the setting; without a value the setting has its default. So what else is in the
document and in which order makes no difference, and a build number in an array is as good
as one in a table.
-/

namespace VersionStamp

open VersionStamp.Files VersionStamp.Release VersionStamp.Toml

namespace Settings

open BuildNumberSettings

/-- What a document can say of settings. -/
inductive Known where
  | baseDirectory
  | metadataFile
  | headerFile
  | primaryResource
  | updaterResource
  | scheme
  | lead

namespace Known

def Given (entries : Entries) : Known → Value → Prop
  | .baseDirectory, value => ("base_dir", value) ∈ entries
  | .metadataFile, value => ("metadata_file", value) ∈ entries
  | .headerFile, value => ("header_file", value) ∈ entries
  | .primaryResource, value => ("primary_rc", value) ∈ entries
  | .updaterResource, value => ("updater_rc", value) ∈ entries
  | .scheme, value =>
      ∃ number, ("build_number", number) ∈ entries ∧ HasItem "scheme" 0 number value
  | .lead, value =>
      ∃ number, ("build_number", number) ∈ entries ∧ HasItem "prefix" 1 number value

def Accepts : Known → Value → Prop
  | .scheme, value => ∃ scheme, NamesScheme value scheme
  | _, value => ∃ text, value = .string text

/-- The settings are as the value says. -/
def IsSet (settings : Settings) : Known → Value → Prop
  | .baseDirectory, value =>
      ∃ text, value = .string text ∧ settings.baseDirectory = some (.ofString text)
  | .metadataFile, value => value = .string settings.metadataFile
  | .headerFile, value => value = .string settings.headerFile
  | .primaryResource, value => value = .string settings.primaryResource
  | .updaterResource, value => value = .string settings.updaterResource
  | .scheme, value => NamesScheme value settings.buildNumber.scheme
  | .lead, value => value = .string settings.buildNumber.lead

def IsDefault (settings : Settings) : Known → Prop
  | .baseDirectory => settings.baseDirectory = none
  | .metadataFile => settings.metadataFile = "version"
  | .headerFile => settings.headerFile = "../SourceFiles/core/version.h"
  | .primaryResource => settings.primaryResource = "../Resources/winrc/Telegram.rc"
  | .updaterResource => settings.updaterResource = "../Resources/winrc/Updater.rc"
  | .scheme => settings.buildNumber.scheme = .zeroPadded
  | .lead => settings.buildNumber.lead = "5010000"

theorem accepts_of_isSet {settings : Settings} {known : Known} {value : Value}
    (set : known.IsSet settings value) : known.Accepts value := by
  cases known with
  | baseDirectory =>
      obtain ⟨text, isText, _⟩ := set
      exact ⟨text, isText⟩
  | _ => exact ⟨_, set⟩

/-- Settings of one text. -/
def ofText (text : String) : Settings where
  baseDirectory := some (.ofString text)
  metadataFile := text
  headerFile := text
  primaryResource := text
  updaterResource := text
  buildNumber := { lead := text }

theorem exists_isSet {known : Known} {value : Value} (accepted : known.Accepts value) :
    ∃ settings, known.IsSet settings value := by
  cases known with
  | scheme =>
      obtain ⟨scheme, named⟩ := accepted
      exact ⟨{ buildNumber := { scheme } }, named⟩
  | baseDirectory =>
      obtain ⟨text, rfl⟩ := accepted
      exact ⟨ofText text, text, rfl, rfl⟩
  | _ =>
      obtain ⟨text, rfl⟩ := accepted
      exact ⟨ofText text, rfl⟩

end Known

/-- The document gives a value that its key does not accept. -/
def IsRefused (entries : Entries) : Prop :=
  (∃ number, ("build_number", number) ∈ entries ∧ ¬ IsCollection number) ∨
    ∃ (known : Known) (value : Value), known.Given entries value ∧ ¬ known.Accepts value

/-- The settings are those of the document, with defaults for all that it does not give. -/
structure Completes (entries : Entries) (settings : Settings) : Prop where
  number : ∀ number, ("build_number", number) ∈ entries → IsCollection number
  given : ∀ (known : Known) (value : Value), known.Given entries value →
    known.IsSet settings value
  absent : ∀ known : Known, (∀ value, ¬ known.Given entries value) → known.IsDefault settings

variable {entries others : Entries} {settings : Settings} {known : Known} {value : Value}

section Reading

def Known.find? (entries : Entries) : Known → Option Value
  | .baseDirectory => entries.get? "base_dir"
  | .metadataFile => entries.get? "metadata_file"
  | .headerFile => entries.get? "header_file"
  | .primaryResource => entries.get? "primary_rc"
  | .updaterResource => entries.get? "updater_rc"
  | .scheme => (entries.get? "build_number").bind (item? "scheme" 0)
  | .lead => (entries.get? "build_number").bind (item? "prefix" 1)

theorem find?_eq_some_iff (distinct : entries.IsDistinct) :
    known.find? entries = some value ↔ known.Given entries value := by
  have item {name : String} {position : Nat} :
      (entries.get? "build_number").bind (item? name position) = some value ↔
        ∃ number, ("build_number", number) ∈ entries ∧ HasItem name position number value := by
    rw [Option.bind_eq_some_iff]
    refine exists_congr fun number => ?_
    rw [Entries.get?_eq_some_iff distinct.names]
    refine and_congr_right fun member => ?_
    exact item?_eq_some_iff (distinct.values _ member)
  cases known with
  | scheme => exact item
  | lead => exact item
  | _ => exact Entries.get?_eq_some_iff distinct.names

theorem setting_number_iff {number : Option Value} {settings : BuildNumberSettings} :
    setting number {} ofValue? = some settings ↔
      (∀ given, number = some given → IsCollection given) ∧
        setting (number.bind (item? "scheme" 0)) .zeroPadded schemeOf? = some settings.scheme ∧
        setting (number.bind (item? "prefix" 1)) "5010000" textOf? = some settings.lead := by
  cases number with
  | none =>
      obtain ⟨scheme, lead⟩ := settings
      simp [setting]
  | some number => simpa [setting] using ofValue?_eq_some_iff

theorem ofEntries?_eq_some_iff_settings : ofEntries? entries = some settings ↔
    setting (entries.get? "base_dir") none
        (fun value => (textOf? value).map fun text => some (Path.ofString text)) =
      some settings.baseDirectory ∧
    setting (entries.get? "metadata_file") "version" textOf? = some settings.metadataFile ∧
    setting (entries.get? "header_file") "../SourceFiles/core/version.h" textOf? =
      some settings.headerFile ∧
    setting (entries.get? "primary_rc") "../Resources/winrc/Telegram.rc" textOf? =
      some settings.primaryResource ∧
    setting (entries.get? "updater_rc") "../Resources/winrc/Updater.rc" textOf? =
      some settings.updaterResource ∧
    setting (entries.get? "build_number") {} ofValue? = some settings.buildNumber := by
  obtain ⟨base, metadata, header, primary, updater, number⟩ := settings
  simp only [ofEntries?, Option.bind_eq_bind, Option.bind_eq_some_iff, Option.pure_def,
    Option.some.injEq, Settings.mk.injEq]
  constructor
  · rintro ⟨_, one, _, two, _, three, _, four, _, five, _, six, rfl, rfl, rfl, rfl, rfl, rfl⟩
    exact ⟨one, two, three, four, five, six⟩
  · rintro ⟨one, two, three, four, five, six⟩
    exact ⟨_, one, _, two, _, three, _, four, _, five, _, six, rfl, rfl, rfl, rfl, rfl, rfl⟩

theorem ofEntries?_eq_some_iff : ofEntries? entries = some settings ↔
    (∀ number, entries.get? "build_number" = some number → IsCollection number) ∧
      ∀ known : Known,
        (∀ value, known.find? entries = some value → known.IsSet settings value) ∧
          (known.find? entries = none → known.IsDefault settings) := by
  rw [ofEntries?_eq_some_iff_settings, setting_number_iff]
  simp only [setting_eq_some_iff, textOf?_eq_some_iff, schemeOf?_eq_some_iff,
    baseOf?_eq_some_iff]
  constructor
  · rintro ⟨base, metadata, header, primary, updater, number, scheme, lead⟩
    refine ⟨number, fun known => ?_⟩
    cases known with
    | baseDirectory => exact base
    | metadataFile => exact metadata
    | headerFile => exact header
    | primaryResource => exact primary
    | updaterResource => exact updater
    | scheme => exact scheme
    | lead => exact lead
  · rintro ⟨number, each⟩
    exact ⟨each .baseDirectory, each .metadataFile, each .headerFile, each .primaryResource,
      each .updaterResource, number, each .scheme, each .lead⟩

theorem ofEntries?_iff_completes (distinct : entries.IsDistinct) :
    ofEntries? entries = some settings ↔ Completes entries settings := by
  have absent (known : Known) :
      known.find? entries = none ↔ ∀ value, ¬ known.Given entries value := by
    simp only [← find?_eq_some_iff distinct]
    exact Option.eq_none_iff_forall_ne_some
  simp only [ofEntries?_eq_some_iff, Entries.get?_eq_some_iff distinct.names, absent,
    find?_eq_some_iff distinct]
  constructor
  · rintro ⟨number, each⟩
    exact ⟨number, fun known => (each known).1, fun known => (each known).2⟩
  · rintro ⟨number, given, default⟩
    exact ⟨number, fun known => ⟨given known, default known⟩⟩

theorem exists_settings (distinct : entries.IsDistinct)
    (accepted : ∀ value, known.Given entries value → known.Accepts value) :
    ∃ settings, (∀ value, known.Given entries value → known.IsSet settings value) ∧
      ((∀ value, ¬ known.Given entries value) → known.IsDefault settings) := by
  cases found : known.find? entries with
  | none =>
      have absent (value : Value) : ¬ known.Given entries value := by
        rw [← find?_eq_some_iff distinct, found]
        exact nofun
      refine ⟨{}, fun value given => absurd given (absent value), fun _ => ?_⟩
      cases known <;> rfl
  | some value =>
      have given := (find?_eq_some_iff distinct).mp found
      obtain ⟨settings, set⟩ := Known.exists_isSet (accepted value given)
      refine ⟨settings, fun other givenToo => ?_, fun absent => absurd given (absent value)⟩
      have same := found.symm.trans ((find?_eq_some_iff distinct).mpr givenToo)
      rw [← Option.some.inj same]
      exact set

theorem exists_completes (distinct : entries.IsDistinct) (accepted : ¬ IsRefused entries) :
    ∃ settings, Completes entries settings := by
  simp only [IsRefused, not_or, not_exists, not_and, not_not] at accepted
  obtain ⟨number, accepted⟩ := accepted
  -- Every key has a part of the settings to itself, so each part is chosen for its key alone.
  choose chosen given default using fun known => exists_settings distinct (accepted known)
  let settings : Settings :=
    { baseDirectory := (chosen .baseDirectory).baseDirectory
      metadataFile := (chosen .metadataFile).metadataFile
      headerFile := (chosen .headerFile).headerFile
      primaryResource := (chosen .primaryResource).primaryResource
      updaterResource := (chosen .updaterResource).updaterResource
      buildNumber.scheme := (chosen .scheme).buildNumber.scheme
      buildNumber.lead := (chosen .lead).buildNumber.lead }
  refine ⟨settings, number, fun known value member => ?_, fun known absent => ?_⟩
  · have set := given known value member
    cases known <;> exact set
  · have standard := default known absent
    cases known <;> exact standard

end Reading

section Rewriting

/-- Ways to write a document that leave its meaning as it is. Keys without a meaning are
added and the keys put in another order, in the document or in the table of its build number,
or an array takes the place of that table. -/
inductive Rewritten : Entries → Entries → Prop
  | around {entries added others : Entries}
      (unknown : ∀ entry ∈ added, entry.1 ∉ "build_number" :: names)
      (ordered : others.Perm (entries ++ added)) : Rewritten entries others
  | within {before after inner added others : Entries} {origin otherOrigin : Origin}
      (unknown : ∀ entry ∈ added, entry.1 ∉ ["scheme", "prefix"])
      (ordered : others.Perm (inner ++ added)) :
      Rewritten (before ++ ("build_number", .table origin inner) :: after)
        (before ++ ("build_number", .table otherOrigin others) :: after)
  | placed {before after inner : Entries} {origin : Origin} {number : Value}
      {items : List Value} (array : items? number = some items)
      (scheme : ∀ item, ("scheme", item) ∈ inner ↔ items[0]? = some item)
      (lead : ∀ item, ("prefix", item) ∈ inner ↔ items[1]? = some item) :
      Rewritten (before ++ ("build_number", .table origin inner) :: after)
        (before ++ ("build_number", number) :: after)

/-- Nothing is given by one document that is not given by the other. -/
structure GivesSame (one other : Entries) : Prop where
  given : ∀ (known : Known) (value : Value), known.Given one value ↔ known.Given other value
  number : (∃ number, ("build_number", number) ∈ one ∧ ¬ IsCollection number) ↔
    ∃ number, ("build_number", number) ∈ other ∧ ¬ IsCollection number

theorem GivesSame.refl (entries : Entries) : GivesSame entries entries :=
  ⟨fun _ _ => .rfl, .rfl⟩

theorem GivesSame.symm {one other : Entries} (same : GivesSame one other) : GivesSame other one :=
  ⟨fun known value => (same.given known value).symm, same.number.symm⟩

theorem GivesSame.trans {one other third : Entries} (first : GivesSame one other)
    (second : GivesSame other third) : GivesSame one third :=
  ⟨fun known value => (first.given known value).trans (second.given known value),
    first.number.trans second.number⟩

theorem GivesSame.isRefused_iff (same : GivesSame entries others) :
    IsRefused entries ↔ IsRefused others := by
  simp only [IsRefused, same.number, same.given]

theorem GivesSame.completes_iff (same : GivesSame entries others) :
    Completes entries settings ↔ Completes others settings := by
  have number := not_congr same.number
  simp only [not_exists, not_and, not_not] at number
  have parts (entries : Entries) : Completes entries settings ↔
      (∀ number, ("build_number", number) ∈ entries → IsCollection number) ∧
        (∀ (known : Known) (value : Value), known.Given entries value →
          known.IsSet settings value) ∧
        ∀ known : Known, (∀ value, ¬ known.Given entries value) → known.IsDefault settings :=
    ⟨fun ⟨number, given, absent⟩ => ⟨number, given, absent⟩,
      fun ⟨number, given, absent⟩ => ⟨number, given, absent⟩⟩
  rw [parts, parts, number]
  simp only [same.given]

theorem mem_iff_of_ordered {added : Entries} {allowed : List String} {name : String}
    (unknown : ∀ entry ∈ added, entry.1 ∉ allowed) (ordered : others.Perm (entries ++ added))
    (known : name ∈ allowed) (value : Value) :
    (name, value) ∈ others ↔ (name, value) ∈ entries := by
  rw [ordered.mem_iff, List.mem_append, or_iff_left]
  exact fun member => unknown _ member known

theorem GivesSame.of_mem_iff (same : ∀ name ∈ "build_number" :: names, ∀ value,
    (name, value) ∈ entries ↔ (name, value) ∈ others) : GivesSame entries others := by
  have number := same "build_number" List.mem_cons_self
  constructor
  · intro known value
    cases known with
    | scheme => simp only [Known.Given, number]
    | lead => simp only [Known.Given, number]
    | _ => exact same _ (by decide) value
  · simp only [number]

theorem GivesSame.of_hasItem_iff {before after : Entries} {number changed : Value}
    (scheme : ∀ item, HasItem "scheme" 0 number item ↔ HasItem "scheme" 0 changed item)
    (lead : ∀ item, HasItem "prefix" 1 number item ↔ HasItem "prefix" 1 changed item)
    (kept : IsCollection number) (keptToo : IsCollection changed) :
    GivesSame (before ++ ("build_number", number) :: after)
      (before ++ ("build_number", changed) :: after) := by
  constructor
  · intro known value
    cases known with
    | scheme => simp [Known.Given, or_and_right, exists_or, scheme]
    | lead => simp [Known.Given, or_and_right, exists_or, lead]
    | _ => simp [Known.Given]
  · simp [or_and_right, exists_or, kept, keptToo]

theorem GivesSame.of_rewritten (rewritten : Rewritten entries others) :
    GivesSame entries others := by
  cases rewritten with
  | around unknown ordered =>
      refine .of_mem_iff fun name known value => ?_
      exact (mem_iff_of_ordered unknown ordered known value).symm
  | within unknown ordered =>
      refine .of_hasItem_iff (fun item => ?_) (fun item => ?_) trivial trivial
      all_goals
        rw [hasItem_table, hasItem_table]
        exact (mem_iff_of_ordered unknown ordered (by simp) item).symm
  | placed array scheme lead =>
      refine .of_hasItem_iff (fun item => ?_) (fun item => ?_) trivial
        (isCollection_of_items? array)
      · rw [hasItem_table, hasItem_array array]
        exact scheme item
      · rw [hasItem_table, hasItem_array array]
        exact lead item

theorem GivesSame.of_eqvGen (rewritten : Relation.EqvGen Rewritten entries others) :
    GivesSame entries others := by
  induction rewritten with
  | rel _ _ step => exact .of_rewritten step
  | refl entries => exact .refl entries
  | symm _ _ _ ih => exact ih.symm
  | trans _ _ _ _ _ first second => exact first.trans second

end Rewriting

variable {world : World} {path : Path} {text : String}

theorem perform_load (read : world.files.readText world.directory path = .ok text)
    (valid : document? text = some entries) : world.perform (load path) =
      (match ofEntries? entries with
        | some settings => .ok settings
        | none => .error (.malformed path), world) := by
  rw [load, World.perform_bind, World.perform_attempt, World.perform_readText, read]
  simp only [mapError_ok, ofDocument?, valid, Option.bind_eq_bind, Option.bind_some]
  cases ofEntries? entries with
  | none => rfl
  | some settings => rfl

theorem Completes.not_isRefused (completes : Completes entries settings) :
    ¬ IsRefused entries := by
  rintro (⟨number, member, other⟩ | ⟨known, value, given, unaccepted⟩)
  · exact other (completes.number number member)
  · exact unaccepted (Known.accepts_of_isSet (completes.given known value given))

theorem load_eq_ok_iff (read : world.files.readText world.directory path = .ok text)
    (valid : document? text = some entries) :
    (world.perform (load path)).1 = .ok settings ↔ Completes entries settings := by
  rw [← ofEntries?_iff_completes (isDistinct_document? valid), perform_load read valid]
  cases ofEntries? entries with
  | none => simp
  | some found => simp

theorem load_eq_error_iff (read : world.files.readText world.directory path = .ok text)
    (valid : document? text = some entries) {failure : SettingsFailure} :
    (world.perform (load path)).1 = .error failure ↔
      failure = .malformed path ∧ IsRefused entries := by
  have distinct := isDistinct_document? valid
  rw [perform_load read valid]
  cases meant : ofEntries? entries with
  | none =>
      have refused : IsRefused entries := by
        by_contra accepted
        obtain ⟨settings, completes⟩ := exists_completes distinct accepted
        rw [(ofEntries?_iff_completes distinct).mpr completes] at meant
        cases meant
      simp [refused, eq_comm]
  | some settings =>
      have completes := (ofEntries?_iff_completes distinct).mp meant
      simp [completes.not_isRefused]

/-- Loading a document fails if and only if it gives some key a value that the key does not
accept, and otherwise gives the settings of the document, completed by defaults. A document
that is the other one rewritten loads alike. -/
theorem load_of_document (read : world.files.readText world.directory path = .ok text)
    (valid : document? text = some entries) :
    (∀ failure, (world.perform (load path)).1 = .error failure ↔
      failure = .malformed path ∧ IsRefused entries) ∧
    (∀ settings, (world.perform (load path)).1 = .ok settings ↔ Completes entries settings) ∧
    ∀ (other : World) (changed : String) (others : Entries),
      other.files.readText other.directory path = .ok changed →
      document? changed = some others → Relation.EqvGen Rewritten entries others →
        (other.perform (load path)).1 = (world.perform (load path)).1 := by
  refine ⟨fun failure => load_eq_error_iff read valid, fun settings => load_eq_ok_iff read valid,
    fun other changed others readToo validToo rewritten => ?_⟩
  have same := GivesSame.of_eqvGen rewritten
  cases outcome : (world.perform (load path)).1 with
  | error failure =>
      rw [load_eq_error_iff read valid, same.isRefused_iff] at outcome
      exact (load_eq_error_iff readToo validToo).mpr outcome
  | ok settings =>
      rw [load_eq_ok_iff read valid, same.completes_iff] at outcome
      exact (load_eq_ok_iff readToo validToo).mpr outcome

/-- One document has a table, another one an array with an item too many, a key that is not
known and another order. A number for a name is refused, whatever else there is. -/
theorem load_of_table_and_array :
    let path := Path.ofString "/c"
    let holding (text : String) : World :=
      { files := FileSystem.empty.set ["c".toUTF8.toList] (.file text.toUTF8 .full)
        directory := [] }
    let table := "header_file = 'h'\n[build_number]\nprefix = '7'\nscheme = 'prefixed'\n"
    let array := "k = 1\nbuild_number = ['prefixed', '7', true]\nheader_file = 'h'\n"
    let refused := "metadata_file = 3\nbuild_number = []\n"
    let settings : Settings :=
      { headerFile := "h", buildNumber := { scheme := .prefixed, lead := "7" } }
    ((holding table).perform (load path)).1 = .ok settings ∧
      ((holding array).perform (load path)).1 = .ok settings ∧
      ((holding refused).perform (load path)).1 = .error (.malformed path) := by
  intro path holding table array refused settings
  have readTable : (holding table).files.readText (holding table).directory path = .ok table := by
    decide +kernel
  have readArray : (holding array).files.readText (holding array).directory path = .ok array := by
    decide +kernel
  have readRefused :
      (holding refused).files.readText (holding refused).directory path = .ok refused := by
    decide +kernel
  let header : String × Value := ("header_file", .string "h")
  let named : String × Value :=
    ("build_number", .table .header [("prefix", .string "7"), ("scheme", .string "prefixed")])
  let listed : String × Value :=
    ("build_number", .array [.string "prefixed", .string "7", .plain .boolean])
  let unknown : String × Value := ("k", .plain .integer)
  have validTable : document?
      "header_file = 'h'\n[build_number]\nprefix = '7'\nscheme = 'prefixed'\n" =
        some [header, named] := by
    with_unfolding_all rfl
  have validArray : document?
      "k = 1\nbuild_number = ['prefixed', '7', true]\nheader_file = 'h'\n" =
        some [unknown, listed, header] := by
    with_unfolding_all rfl
  have validRefused : document? "metadata_file = 3\nbuild_number = []\n" =
      some [("metadata_file", .plain .integer), ("build_number", .array [])] := by
    with_unfolding_all rfl
  have added : Rewritten [header, named] [unknown, named, header] :=
    @Rewritten.around _ [unknown] _ (by simp [unknown, names])
      (List.reverse_perm [header, named, unknown])
  have placed : Rewritten [unknown, named, header] [unknown, listed, header] :=
    @Rewritten.placed [unknown] [header] _ _ _ _ rfl (by simp [eq_comm]) (by simp [eq_comm])
  have rewritten := Relation.EqvGen.trans _ _ _ (.rel _ _ added) (.rel _ _ placed)
  have completes : Completes [header, named] settings :=
    (ofEntries?_iff_completes (isDistinct_document? validTable)).mp rfl
  have number : IsRefused [("metadata_file", .plain .integer), ("build_number", .array [])] :=
    .inr ⟨.metadataFile, .plain .integer, List.mem_cons_self, fun ⟨_, text⟩ => by cases text⟩
  obtain ⟨_, completed, alike⟩ := load_of_document readTable validTable
  have loaded := (completed settings).mpr completes
  have again := alike _ _ _ readArray validArray rewritten
  have failed := (load_of_document readRefused validRefused).1 (.malformed path)
  exact ⟨loaded, again.trans loaded, failed.mpr ⟨rfl, number⟩⟩

/-- A date is neither a table nor an array, and a build number that is one has the defaults. -/
theorem load_of_date :
    let path := Path.ofString "/c"
    let text := "build_number = 1979-05-27\n"
    let world : World :=
      { files := FileSystem.empty.set ["c".toUTF8.toList] (.file text.toUTF8 .full)
        directory := [] }
    world.files.readText world.directory path = .ok text ∧
      document? text = some [("build_number", .plain .dateTime)] ∧
      (world.perform (load path)).1 = .ok {} := by
  intro path text world
  have read : world.files.readText world.directory path = .ok text := by decide +kernel
  have valid : document? "build_number = 1979-05-27\n" =
      some [("build_number", .plain .dateTime)] := by
    with_unfolding_all rfl
  refine ⟨read, valid, ?_⟩
  rw [perform_load read valid]
  rfl

end Settings

end VersionStamp
