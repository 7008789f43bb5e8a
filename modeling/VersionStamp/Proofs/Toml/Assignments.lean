import VersionStamp.Proofs.Toml.Lines

/-! Documents of texts with one table of texts.

Each line adds its value where nothing has its name, first to the document itself and
then to the table that was opened last. So a written document reads back as its names and
texts in their order.
-/

namespace VersionStamp.Toml

/-- Lines with their written forms are read one after another, up to the end of the text. -/
theorem chain_lines {contents : List (Line × List Char)} (some_line : contents ≠ [])
    (read : ∀ content ∈ contents, ∀ rest, line.read (content.2 ++ rest) =
      some ((content.1, !rest.isEmpty), rest)) :
    (Reader.chain line).read (contents.flatMap (·.2)) = some (contents.map (·.1), []) := by
  induction contents with
  | nil => exact absurd rfl some_line
  | cons content contents ih =>
      have first := read content List.mem_cons_self (contents.flatMap (·.2))
      cases contents with
      | nil => exact Reader.readChain_last first
      | cons next contents =>
          have more : (next :: contents).flatMap (·.2) ≠ [] := by
            intro empty
            have none_left := read next (by simp) (contents.flatMap (·.2))
            rw [← List.flatMap_cons, empty] at none_left
            cases none_left
          have others := ih (List.cons_ne_nil _ _) fun content member =>
            read content (List.mem_cons_of_mem _ member)
          have announced : (!((next :: contents).flatMap (·.2)).isEmpty) = true := by
            simpa using more
          rw [announced] at first
          refine (Reader.readChain_more first).trans ?_
          have rest : Reader.readChain line ((next :: contents).flatMap (·.2)) = _ := others
          rw [rest]
          rfl

variable {entries inner : Entries} {name table : String} {value : Value}

theorem get?_eq_none (fresh : name ∉ entries.map Prod.fst) : entries.get? name = none := by
  rw [Entries.get?, List.lookup_eq_none_iff]
  intro entry member
  have differs : name ≠ entry.1 := fun same => fresh (same ▸ List.mem_map_of_mem member)
  simpa using differs

theorem assign_fresh (fresh : name ∉ entries.map Prod.fst) :
    Entries.assign [] name value .header entries = some (entries.add name value) := by
  simp [Entries.assign, Entries.alter, get?_eq_none fresh]

theorem carryOut_assignment (fresh : name ∉ entries.map Prod.fst) :
    Draft.carryOut ⟨entries, []⟩ (.assignment ⟨[], name⟩ value) =
      some ⟨entries ++ [(name, value)], []⟩ := by
  simp [Draft.carryOut, Entries.alter, assign_fresh fresh, Entries.add]

theorem get?_last (fresh : table ∉ entries.map Prod.fst) :
    Entries.get? (entries ++ [(table, value)]) table = some value := by
  have before := get?_eq_none fresh
  rw [Entries.get?] at before ⊢
  simp [List.lookup_append, before]

theorem replace_last (fresh : table ∉ entries.map Prod.fst) (other : Value) :
    Entries.replace (entries ++ [(table, value)]) table other = entries ++ [(table, other)] := by
  have kept : Entries.replace entries table other = entries := by
    rw [Entries.replace]
    refine (List.map_congr_left fun entry member => ?_).trans (List.map_id' entries)
    have differs : entry.1 ≠ table := fun same => fresh (same ▸ List.mem_map_of_mem member)
    simp [differs]
  rw [Entries.replace] at kept ⊢
  simp [kept]

theorem carryOut_in_table (absent : table ∉ entries.map Prod.fst)
    (fresh : name ∉ inner.map Prod.fst) :
    Draft.carryOut ⟨entries ++ [(table, .table .header inner)], [table]⟩
        (.assignment ⟨[], name⟩ value) =
      some ⟨entries ++ [(table, .table .header (inner ++ [(name, value)]))], [table]⟩ := by
  simp [Draft.carryOut, Entries.alter, get?_last absent, assign_fresh fresh, Entries.add,
    replace_last absent]

theorem carryOut_header (absent : table ∉ entries.map Prod.fst) :
    Draft.carryOut ⟨entries, []⟩ (.table ⟨[], table⟩) =
      some ⟨entries ++ [(table, .table .header [])], [table]⟩ := by
  simp [Draft.carryOut, Entries.openTable, Entries.alter, get?_eq_none absent, Entries.add,
    Key.parts]

/-- Names with their texts, as values of a table. -/
def textEntries (fields : List (String × String)) : Entries :=
  fields.map fun field => (field.1, .string field.2)

/-- The lines that assign texts, with their written forms. -/
def writtenAssignments (fields : List (String × String)) : List (Line × List Char) :=
  fields.map fun field =>
    (.assignment ⟨[], field.1⟩ (.string field.2), assignmentText field.1 field.2)

/-- The lines of a document that has texts and, after a blank line, a table of texts. -/
def writtenDocument (fields : List (String × String)) (table : String)
    (inner : List (String × String)) : List (Line × List Char) :=
  writtenAssignments fields ++
    (.blank, ['\n']) :: (.table ⟨[], table⟩, headerText table) :: writtenAssignments inner

/-- Assignments add their texts in order wherever one of them adds its own. -/
theorem carryOut_assignments (draft : Entries → Draft) {fields : List (String × String)}
    (step : ∀ entries name value, name ∉ entries.map Prod.fst →
      (draft entries).carryOut (.assignment ⟨[], name⟩ value) =
        some (draft (entries ++ [(name, value)])))
    (distinct : (entries.map Prod.fst ++ fields.map Prod.fst).Nodup) :
    ((writtenAssignments fields).map (·.1)).foldlM Draft.carryOut (draft entries) =
      some (draft (entries ++ textEntries fields)) := by
  induction fields generalizing entries with
  | nil => simp [writtenAssignments, textEntries]
  | cons field fields ih =>
      have fresh : field.1 ∉ entries.map Prod.fst := fun member =>
        (List.nodup_append.mp distinct).2.2 field.1 member field.1 List.mem_cons_self rfl
      have moved := @ih (entries ++ [(field.1, .string field.2)]) (by simpa using distinct)
      simp only [writtenAssignments, List.map_cons, List.foldlM_cons, step _ _ _ fresh] at moved ⊢
      simpa [textEntries] using moved

theorem skipMark_writtenDocument {fields : List (String × String)}
    (bareFields : ∀ field ∈ fields, IsBareKey field.1) (table : String)
    (inner : List (String × String)) :
    skipMark ((writtenDocument fields table inner).flatMap (·.2)) =
      (writtenDocument fields table inner).flatMap (·.2) := by
  have unmarked {text : List Char} (head : text.head? ≠ some '\ufeff') : skipMark text = text := by
    unfold skipMark
    split
    · exact absurd rfl head
    · rfl
  apply unmarked
  cases fields with
  | nil => simp [writtenDocument, writtenAssignments]
  | cons field fields =>
      obtain ⟨nonempty, chars⟩ := bareFields field List.mem_cons_self
      cases name : field.1.toList with
      | nil => exact absurd name nonempty
      | cons c others =>
          have bare : isBareKeyChar c = true := chars c (by simp [name])
          have mark : isBareKeyChar '\ufeff' = false := by decide
          have differs : c ≠ '\ufeff' := by
            rintro rfl
            rw [bare] at mark
            contradiction
          simpa [writtenDocument, writtenAssignments, assignmentText, name] using differs

theorem lines?_writtenDocument {fields inner : List (String × String)}
    (bareFields : ∀ field ∈ fields, IsBareKey field.1) (bareTable : IsBareKey table)
    (bareInner : ∀ field ∈ inner, IsBareKey field.1) :
    lines? ((writtenDocument fields table inner).flatMap (·.2)) =
      some ((writtenDocument fields table inner).map (·.1)) := by
  have assigned {fields : List (String × String)} (bare : ∀ field ∈ fields, IsBareKey field.1)
      (content : Line × List Char) (member : content ∈ writtenAssignments fields)
      (rest : List Char) :
      line.read (content.2 ++ rest) = some ((content.1, !rest.isEmpty), rest) := by
    obtain ⟨field, inFields, rfl⟩ := List.mem_map.mp member
    exact line_assignment (bare field inFields) field.2 rest
  have read := @chain_lines (writtenDocument fields table inner) (by simp [writtenDocument])
    fun content member rest => by
      rcases List.mem_append.mp member with before | after
      · exact assigned bareFields content before rest
      · rcases List.mem_cons.mp after with rfl | after
        · exact line_blank rest
        · rcases List.mem_cons.mp after with rfl | after
          · exact line_header bareTable rest
          · exact assigned bareInner content after rest
  rw [lines?, skipMark_writtenDocument bareFields table inner]
  cases text : (writtenDocument fields table inner).flatMap (·.2) with
  | nil => simp [writtenDocument] at text
  | cons c rest =>
      rw [text] at read
      simp [read]

theorem document?_writtenDocument {fields inner : List (String × String)}
    (bareFields : ∀ field ∈ fields, IsBareKey field.1) (bareTable : IsBareKey table)
    (bareInner : ∀ field ∈ inner, IsBareKey field.1)
    (distinct : (fields.map Prod.fst).Nodup) (absent : table ∉ fields.map Prod.fst)
    (distinctInner : (inner.map Prod.fst).Nodup) :
    document? (String.ofList ((writtenDocument fields table inner).flatMap (·.2))) =
      some (textEntries fields ++ [(table, .table .header (textEntries inner))]) := by
  have absentText : table ∉ (textEntries fields).map Prod.fst := by
    simpa [textEntries] using absent
  have outer : ((writtenAssignments fields).map (·.1)).foldlM Draft.carryOut ⟨[], []⟩ =
      some ⟨textEntries fields, []⟩ :=
    carryOut_assignments (fun entries => ⟨entries, []⟩)
      (fun _ _ _ fresh => carryOut_assignment fresh) (by simpa using distinct)
  have within : ((writtenAssignments inner).map (·.1)).foldlM Draft.carryOut
      ⟨textEntries fields ++ [(table, .table .header [])], [table]⟩ =
        some ⟨textEntries fields ++ [(table, .table .header (textEntries inner))], [table]⟩ :=
    carryOut_assignments
      (fun entries => ⟨textEntries fields ++ [(table, .table .header entries)], [table]⟩)
      (fun _ _ _ fresh => carryOut_in_table absentText fresh) (by simpa using distinctInner)
  have blank (draft : Draft) : draft.carryOut .blank = some draft := rfl
  rw [document?, String.toList_ofList, lines?_writtenDocument bareFields bareTable bareInner]
  simp [writtenDocument, outer, within, blank, carryOut_header absentText]

end VersionStamp.Toml
