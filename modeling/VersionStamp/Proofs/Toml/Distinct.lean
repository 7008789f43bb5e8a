import VersionStamp.Proofs.Toml.Assignments

/-! Names in the tables of a document.

A name is only given a value where nothing has that name, so no table of a document has two
entries of one name, however it was put together. What a table says of a name then does not
depend on the order of its entries.
-/

namespace VersionStamp.Toml

/-- No table within the value has two entries of one name. -/
inductive Value.IsDistinct : Value → Prop
  | string (text : String) : IsDistinct (.string text)
  | plain (kind : Kind) : IsDistinct (.plain kind)
  | array {items : List Value} (each : ∀ item ∈ items, IsDistinct item) :
      IsDistinct (.array items)
  | table {origin : Origin} {entries : Entries} (names : (entries.map Prod.fst).Nodup)
      (values : ∀ entry ∈ entries, IsDistinct entry.2) : IsDistinct (.table origin entries)
  | tables {items : List Entries} (names : ∀ entries ∈ items, (entries.map Prod.fst).Nodup)
      (values : ∀ entries ∈ items, ∀ entry ∈ entries, IsDistinct entry.2) :
      IsDistinct (.tables items)

structure Entries.IsDistinct (entries : Entries) : Prop where
  names : (entries.map Prod.fst).Nodup
  values : ∀ entry ∈ entries, entry.2.IsDistinct

theorem Value.isDistinct_table {origin : Origin} {entries : Entries} :
    (Value.table origin entries).IsDistinct ↔ entries.IsDistinct :=
  ⟨fun | .table names values => ⟨names, values⟩, fun distinct => .table distinct.1 distinct.2⟩

theorem Value.isDistinct_tables {items : List Entries} :
    (Value.tables items).IsDistinct ↔ ∀ entries ∈ items, Entries.IsDistinct entries :=
  ⟨fun
    | .tables names values => fun entries member => ⟨names entries member, values entries member⟩,
    fun distinct => .tables (fun entries member => (distinct entries member).1)
      fun entries member => (distinct entries member).2⟩

namespace Entries

variable {entries changed : Entries} {name : String} {value : Value} {path : List String}
  {origin : Origin}

theorem mem_of_get? (found : entries.get? name = some value) : (name, value) ∈ entries := by
  obtain ⟨before, after, rfl, _⟩ := List.lookup_eq_some_iff.mp found
  simp

theorem get?_eq_some_iff (distinct : (entries.map Prod.fst).Nodup) :
    entries.get? name = some value ↔ (name, value) ∈ entries := by
  refine ⟨mem_of_get?, fun member => ?_⟩
  obtain ⟨before, after, rfl⟩ := List.append_of_mem member
  rw [List.map_append, List.map_cons] at distinct
  refine List.lookup_eq_some_iff.mpr ⟨before, after, rfl, fun entry earlier => ?_⟩
  have differs : entry.1 ≠ name :=
    (List.nodup_append.mp distinct).2.2 _ (List.mem_map_of_mem earlier) _ List.mem_cons_self
  simpa using differs.symm

theorem isDistinct_nil : IsDistinct [] := ⟨List.nodup_nil, by simp⟩

theorem IsDistinct.get? (distinct : entries.IsDistinct)
    (found : entries.get? name = some value) : value.IsDistinct :=
  distinct.values _ (mem_of_get? found)

theorem IsDistinct.add (distinct : entries.IsDistinct) (fresh : entries.get? name = none)
    (added : value.IsDistinct) : (entries.add name value).IsDistinct := by
  have differs (entry : String × Value) (member : entry ∈ entries) : entry.1 ≠ name := by
    rintro rfl
    rw [(get?_eq_some_iff distinct.names).mpr member] at fresh
    cases fresh
  constructor
  · rw [Entries.add, List.map_append, List.map_singleton]
    refine List.nodup_append.mpr ⟨distinct.names, List.pairwise_singleton _ _, ?_⟩
    intro other member only isName
    obtain ⟨entry, inEntries, rfl⟩ := List.mem_map.mp member
    rw [List.mem_singleton.mp isName]
    exact differs entry inEntries
  · intro entry member
    rcases List.mem_append.mp member with old | new
    · exact distinct.values entry old
    · rw [List.mem_singleton.mp new]
      exact added

theorem IsDistinct.replace (distinct : entries.IsDistinct) (replaced : value.IsDistinct) :
    (entries.replace name value).IsDistinct := by
  constructor
  · rw [Entries.replace, List.map_map]
    exact distinct.names
  · intro entry member
    obtain ⟨⟨other, old⟩, inEntries, rfl⟩ := List.mem_map.mp member
    dsimp only
    split
    · exact replaced
    · exact distinct.values _ inEntries

/-- What is done to the table at the end of a path is done to one of many tables, and the
others stay as they are. -/
theorem IsDistinct.alter {dotted : Bool} {change : Origin → Entries → Option Entries}
    (keeps : ∀ {origin entries changed}, entries.IsDistinct →
      change origin entries = some changed → changed.IsDistinct)
    (distinct : entries.IsDistinct)
    (altered : Entries.alter dotted change path origin entries = some changed) :
    changed.IsDistinct := by
  induction path generalizing origin entries changed with
  | nil => exact keeps distinct altered
  | cons name path ih =>
      rw [Entries.alter] at altered
      split at altered
      next absent =>
        obtain ⟨made, inner, equal⟩ := Option.bind_eq_some_iff.mp altered
        cases equal
        exact distinct.add absent (Value.isDistinct_table.mpr (ih isDistinct_nil inner))
      next found =>
        split at altered
        · cases altered
        · obtain ⟨made, inner, equal⟩ := Option.bind_eq_some_iff.mp altered
          cases equal
          have entered := Value.isDistinct_table.mp (distinct.get? found)
          exact distinct.replace (Value.isDistinct_table.mpr (ih entered inner))
      next items found =>
        obtain ⟨last, lastItem, rest⟩ := Option.bind_eq_some_iff.mp altered
        obtain ⟨made, inner, equal⟩ := Option.bind_eq_some_iff.mp rest
        cases equal
        have entered := Value.isDistinct_tables.mp (distinct.get? found)
        have changedLast := ih (entered last (List.mem_of_getLast? lastItem)) inner
        refine distinct.replace (Value.isDistinct_tables.mpr fun item member => ?_)
        rcases List.mem_append.mp member with earlier | new
        · exact entered item (List.dropLast_subset items earlier)
        · rw [List.mem_singleton.mp new]
          exact changedLast
      next => cases altered

theorem IsDistinct.assign (distinct : entries.IsDistinct) (assigned : value.IsDistinct)
    (carried : Entries.assign path name value origin entries = some changed) :
    changed.IsDistinct := by
  refine distinct.alter (fun kept added => ?_) carried
  split at added
  · cases added
  · split at added
    · cases added
    next absent =>
      cases added
      exact kept.add (by simpa using absent) assigned

theorem IsDistinct.openTable (distinct : entries.IsDistinct)
    (opened : Entries.openTable path name origin entries = some changed) :
    changed.IsDistinct := by
  refine distinct.alter (fun kept added => ?_) opened
  split at added
  next absent =>
    cases added
    exact kept.add absent (Value.isDistinct_table.mpr isDistinct_nil)
  next found =>
    cases added
    have inner := Value.isDistinct_table.mp (kept.get? found)
    exact kept.replace (Value.isDistinct_table.mpr inner)
  next => cases added

theorem IsDistinct.openElement (distinct : entries.IsDistinct)
    (opened : Entries.openElement path name origin entries = some changed) :
    changed.IsDistinct := by
  refine distinct.alter (fun kept added => ?_) opened
  split at added
  next absent =>
    cases added
    exact kept.add absent (Value.isDistinct_tables.mpr (by simp [isDistinct_nil]))
  next items found =>
    cases added
    have inner := Value.isDistinct_tables.mp (kept.get? found)
    refine kept.replace (Value.isDistinct_tables.mpr fun item member => ?_)
    rcases List.mem_append.mp member with old | new
    · exact inner item old
    · rw [List.mem_singleton.mp new]
      exact isDistinct_nil
  next => cases added

end Entries

namespace Reader

variable {α β : Type} {property : α → Prop} {after : β → Prop} {reader : Reader α}

/-- Whatever is read has the property. -/
def Yields (reader : Reader α) (property : α → Prop) : Prop :=
  ∀ (text : List Char) (value : α) (rest : List Char),
    reader.read text = some (value, rest) → property value

theorem Yields.map {change : α → β} (yields : reader.Yields fun value => after (change value)) :
    (reader.map change).Yields after := by
  intro text value rest found
  obtain ⟨⟨first, left⟩, read, equal⟩ := Option.map_eq_some_iff.mp found
  cases equal
  exact yields text first _ read

theorem Yields.followed {next : α → List Char → Option (β × List Char)}
    {keeps : ∀ {value : α} {text : List Char} {result : β} {rest : List Char},
      next value text = some (result, rest) → rest.length ≤ text.length}
    (yields : reader.Yields property)
    (goesOn : ∀ value text result rest, property value →
      next value text = some (result, rest) → after result) :
    (reader.followed next keeps).Yields after := by
  intro text result rest found
  obtain ⟨⟨value, left⟩, read, last⟩ := Option.bind_eq_some_iff.mp found
  exact goesOn value left result rest (yields text value left read) last

theorem Yields.chain {piece : Reader (α × Bool)}
    (yields : piece.Yields fun item => property item.1) :
    (Reader.chain piece).Yields fun items => ∀ item ∈ items, property item := by
  intro text items rest found
  change readChain piece text = some (items, rest) at found
  fun_induction readChain piece text generalizing items rest with
  | case1 => cases found
  | case2 text item left step =>
      cases found
      simpa using yields text _ left step
  | case3 text item left step ih =>
      obtain ⟨⟨others, last⟩, tail, equal⟩ := Option.map_eq_some_iff.mp found
      cases equal
      exact List.forall_mem_cons.mpr ⟨yields text _ left step, ih others _ tail⟩

end Reader

section Values

variable {α : Type} {property : α → Prop} {reader : Reader α} {inner : Reader Value}

theorem yields_items {brackets : Brackets} (yields : reader.Yields property) :
    (items brackets reader).Yields fun values => ∀ value ∈ values, property value := by
  have piece : (reader.followed (afterItem brackets) afterItem_keeps).Yields
      fun item => property item.1 := by
    refine Reader.Yields.followed yields fun value text result rest holds next => ?_
    have same : result.1 = value := by
      unfold afterItem at next
      grind
    rw [same]
    exact holds
  intro text values rest found
  unfold items readItems at found
  dsimp only at found
  split at found
  next => cases found
  next =>
    split at found
    · cases found
      simp
    · exact Reader.Yields.chain piece _ values rest found

theorem yields_assignment (yields : inner.Yields Value.IsDistinct) :
    (assignment inner).Yields fun assigned => assigned.2.IsDistinct := by
  have name : key.Yields fun _ => True := fun _ _ _ _ => trivial
  refine Reader.Yields.followed name fun key text result rest _ next => ?_
  obtain ⟨left, _, read⟩ := Option.bind_eq_some_iff.mp next
  obtain ⟨⟨value, last⟩, found, equal⟩ := Option.map_eq_some_iff.mp read
  cases equal
  exact yields _ value _ found

theorem foldlM_keeps {σ : Type} {step : σ → α → Option σ} {items : List α} {first last : σ}
    (holds : σ → Prop) (keeps : ∀ state item next, item ∈ items → holds state →
      step state item = some next → holds next)
    (begins : holds first) (run : items.foldlM step first = some last) : holds last := by
  induction items generalizing first with
  | nil =>
      cases run
      exact begins
  | cons item items ih =>
      rw [List.foldlM_cons] at run
      obtain ⟨next, made, others⟩ := Option.bind_eq_some_iff.mp run
      refine ih (fun state item next member => ?_) ?_ others
      · exact keeps state item next (List.mem_cons_of_mem _ member)
      · exact keeps first item next List.mem_cons_self begins made

theorem isDistinct_assignAll {assignments : List (Key × Value)} {entries : Entries}
    (each : ∀ assigned ∈ assignments, assigned.2.IsDistinct)
    (carried : assignAll assignments = some entries) : entries.IsDistinct := by
  refine foldlM_keeps Entries.IsDistinct (fun entries assigned next member distinct made => ?_)
    Entries.isDistinct_nil carried
  exact distinct.assign (each assigned member) made

theorem yields_flatValue : flatValue.Yields Value.IsDistinct := by
  intro text value rest found
  change readFlatValue text = some (value, rest) at found
  unfold readFlatValue at found
  split at found
  · cases found
    exact .string _
  · obtain ⟨⟨kind, last⟩, _, equal⟩ := Option.map_eq_some_iff.mp found
    cases equal
    exact .plain kind

theorem yields_value (depth : Nat) : (value depth).Yields Value.IsDistinct := by
  induction depth with
  | zero => exact yields_flatValue
  | succ depth ih =>
      intro text result rest found
      change readValue (value depth) text = some (result, rest) at found
      unfold readValue at found
      split at found
      · refine Reader.Yields.map (fun text items rest read => .array ?_) _ result rest found
        exact yields_items ih text items rest read
      · obtain ⟨⟨assignments, left⟩, read, assigned⟩ := Option.bind_eq_some_iff.mp found
        obtain ⟨entries, carried, equal⟩ := Option.map_eq_some_iff.mp assigned
        cases equal
        have each := yields_items (yields_assignment ih) _ assignments _ read
        exact Value.isDistinct_table.mpr (isDistinct_assignAll each carried)
      · exact yields_flatValue _ result rest found

end Values

section Documents

/-- A value that the line assigns has no name twice in a table. -/
def Line.IsDistinct : Line → Prop
  | .assignment _ value => value.IsDistinct
  | _ => True

theorem isDistinct_of_readLineContent {text rest : List Char} {content : Line}
    (found : readLineContent text = some (content, rest)) : content.IsDistinct := by
  unfold readLineContent at found
  split at found
  · obtain ⟨_, _, found⟩ := Option.bind_eq_some_iff.mp found
    obtain ⟨_, _, found⟩ := Option.bind_eq_some_iff.mp found
    obtain ⟨_, _, equal⟩ := Option.bind_eq_some_iff.mp found
    cases equal
    trivial
  · obtain ⟨_, _, found⟩ := Option.bind_eq_some_iff.mp found
    obtain ⟨_, _, equal⟩ := Option.bind_eq_some_iff.mp found
    cases equal
    trivial
  · split at found
    · cases found
      trivial
    · have assigned : (assignment lineValue).Yields fun assigned => assigned.2.IsDistinct :=
        yields_assignment (yields_value _)
      obtain ⟨⟨⟨key, value⟩, left⟩, read, equal⟩ := Option.map_eq_some_iff.mp found
      cases equal
      exact assigned text (key, value) _ read

theorem yields_line : line.Yields fun content => content.1.IsDistinct := by
  intro text content rest found
  change readLine text = some (content, rest) at found
  unfold readLine at found
  split at found
  · cases found
  · obtain ⟨⟨first, left⟩, read, found⟩ := Option.bind_eq_some_iff.mp found
    obtain ⟨_, _, equal⟩ := Option.bind_eq_some_iff.mp found
    cases equal
    exact isDistinct_of_readLineContent read

theorem isDistinct_of_lines? {text : List Char} {contents : List Line}
    (found : lines? text = some contents) : ∀ content ∈ contents, content.IsDistinct := by
  unfold lines? at found
  split at found
  · cases found
    simp
  · obtain ⟨⟨read, left⟩, chained, equal⟩ := Option.map_eq_some_iff.mp found
    cases equal
    exact Reader.Yields.chain yields_line _ read left chained

theorem isDistinct_carryOut {draft next : Draft} {content : Line}
    (distinct : draft.entries.IsDistinct) (assigned : content.IsDistinct)
    (carried : draft.carryOut content = some next) : next.entries.IsDistinct := by
  cases content with
  | blank =>
      cases carried
      exact distinct
  | table key =>
      obtain ⟨entries, opened, equal⟩ := Option.bind_eq_some_iff.mp carried
      cases equal
      exact distinct.openTable opened
  | element key =>
      obtain ⟨entries, opened, equal⟩ := Option.bind_eq_some_iff.mp carried
      cases equal
      exact distinct.openElement opened
  | assignment key value =>
      obtain ⟨entries, altered, equal⟩ := Option.bind_eq_some_iff.mp carried
      cases equal
      exact distinct.alter (fun kept => kept.assign assigned) altered

theorem isDistinct_document? {text : String} {entries : Entries}
    (found : document? text = some entries) : entries.IsDistinct := by
  obtain ⟨contents, read, carried⟩ := Option.bind_eq_some_iff.mp found
  obtain ⟨draft, run, equal⟩ := Option.bind_eq_some_iff.mp carried
  cases equal
  have lines := isDistinct_of_lines? read
  refine foldlM_keeps (fun draft : Draft => draft.entries.IsDistinct)
    (fun draft content next member distinct made => ?_) Entries.isDistinct_nil run
  exact isDistinct_carryOut distinct (lines content member) made

end Documents

end VersionStamp.Toml
