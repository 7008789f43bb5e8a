import VersionStamp.Proofs.Toml.Distinct
import VersionStamp.Settings.Document

/-! Values of settings.

A setting is read from its value alone. The settings of a build number are the items of one
value, a table or an array.
-/

namespace VersionStamp

open VersionStamp.Files VersionStamp.Release VersionStamp.Toml

theorem textOf?_eq_some_iff {value : Value} {text : String} :
    textOf? value = some text ↔ value = .string text := by
  cases value <;> simp [textOf?]

theorem baseOf?_eq_some_iff {value : Value} {base : Option Path} :
    ((textOf? value).map fun text => some (Path.ofString text)) = some base ↔
      ∃ text, value = .string text ∧ base = some (.ofString text) := by
  rw [Option.map_eq_some_iff]
  refine exists_congr fun text => and_congr textOf?_eq_some_iff ?_
  rw [eq_comm]

/-- Without a value it is the default, and otherwise it is what the value is read as. -/
theorem setting_eq_some_iff {α : Type} {value : Option Value} {standard result : α}
    {read : Value → Option α} :
    setting value standard read = some result ↔
      (∀ given, value = some given → read given = some result) ∧
        (value = none → result = standard) := by
  cases value with
  | none => simp [setting, eq_comm]
  | some value => simp [setting]

namespace BuildNumberSettings

variable {name : String} {position : Nat} {number item value : Value} {scheme : Scheme}
  {settings : BuildNumberSettings}

/-- A scheme is named by a text, or by the only key of a table that has nothing in it. -/
inductive NamesScheme : Value → Scheme → Prop
  | text (scheme : Scheme) : NamesScheme (.string scheme.name) scheme
  | key (origin : Origin) (scheme : Scheme) {value : Value} (empty : isEmptyValue value = true) :
      NamesScheme (.table origin [(scheme.name, value)]) scheme

/-- Tables and arrays. A date-time counts as a table that has no key of a build number. -/
def IsCollection : Value → Prop
  | .array _ | .table _ _ | .tables _ | .plain .dateTime => True
  | _ => False

/-- The items of an array, be it written as a value or by the headers of its tables. -/
def items? : Value → Option (List Value)
  | .array items => some items
  | .tables items => some (items.map (.table .header))
  | _ => none

/-- An item is found by its name in a table and by its position in an array. -/
inductive HasItem (name : String) (position : Nat) : Value → Value → Prop
  | named {origin : Origin} {entries : Entries} {item : Value} (member : (name, item) ∈ entries) :
      HasItem name position (.table origin entries) item
  | placed {number item : Value} {items : List Value} (array : items? number = some items)
      (found : items[position]? = some item) : HasItem name position number item

theorem ofName?_eq_some_iff {text : String} :
    Scheme.ofName? text = some scheme ↔ text = scheme.name := by
  constructor
  · intro found
    have same := List.find?_some found
    exact (beq_iff_eq.mp same).symm
  · rintro rfl
    exact Scheme.ofName?_name scheme

theorem schemeOf?_eq_some_iff : schemeOf? value = some scheme ↔ NamesScheme value scheme := by
  constructor
  · intro named
    unfold schemeOf? at named
    split at named
    · rw [ofName?_eq_some_iff.mp named]
      exact .text scheme
    · split at named
      next empty =>
        rw [ofName?_eq_some_iff.mp named]
        exact .key _ scheme empty
      next => cases named
    · cases named
  · rintro (_ | ⟨origin, scheme, empty⟩)
    · exact Scheme.ofName?_name scheme
    · rw [schemeOf?, if_pos empty]
      exact Scheme.ofName?_name scheme

theorem hasItem_table {origin : Origin} {entries : Entries} :
    HasItem name position (.table origin entries) item ↔ (name, item) ∈ entries := by
  constructor
  · rintro (member | ⟨array, _⟩)
    · exact member
    · cases array
  · exact .named

theorem hasItem_array {items : List Value} (array : items? number = some items) :
    HasItem name position number item ↔ items[position]? = some item := by
  constructor
  · rintro (_ | ⟨again, found⟩)
    · cases array
    · cases array.symm.trans again
      exact found
  · exact .placed array

theorem isCollection_of_items? {items : List Value}
    (array : items? number = some items) : IsCollection number := by
  cases number with
  | array _ | tables _ => trivial
  | _ => cases array

def item? (name : String) (position : Nat) : Value → Option Value
  | .table _ entries => Entries.get? entries name
  | number => (items? number).bind (·[position]?)

theorem item?_eq_some_iff (distinct : number.IsDistinct) :
    item? name position number = some item ↔ HasItem name position number item := by
  cases number with
  | table origin entries =>
      rw [hasItem_table, item?]
      exact Entries.get?_eq_some_iff (Value.isDistinct_table.mp distinct).names
  | array items =>
      rw [hasItem_array rfl]
      rfl
  | tables items =>
      rw [hasItem_array rfl]
      rfl
  | _ =>
      constructor
      · rintro ⟨⟩
      · rintro (_ | ⟨⟨⟩, _⟩)

theorem ofParts?_eq_some_iff {schemeItem leadItem : Option Value} :
    ofParts? schemeItem leadItem = some settings ↔
      setting schemeItem .zeroPadded schemeOf? = some settings.scheme ∧
        setting leadItem "5010000" textOf? = some settings.lead := by
  obtain ⟨scheme, lead⟩ := settings
  simp [ofParts?, Option.bind_eq_some_iff]

theorem ofValue?_eq_some_iff : ofValue? number = some settings ↔
    IsCollection number ∧
      setting (item? "scheme" 0 number) .zeroPadded schemeOf? = some settings.scheme ∧
        setting (item? "prefix" 1 number) "5010000" textOf? = some settings.lead := by
  rw [← ofParts?_eq_some_iff]
  cases number with
  | string text => simp [ofValue?, IsCollection]
  | plain kind =>
      cases kind with
      | dateTime => exact (and_iff_right trivial).symm
      | _ => simp [ofValue?, IsCollection]
  | array items => exact (and_iff_right trivial).symm
  | table origin entries => exact (and_iff_right trivial).symm
  | tables items => simp [ofValue?, IsCollection, item?, items?]

end BuildNumberSettings

end VersionStamp
