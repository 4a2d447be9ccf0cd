import SourceIndex.Proofs.Dataset.Writing

/-! # The rows of records

Each record with a text is a row of the table, in order (`namedRows_of_tableOf`), and the table is made
as soon as the numbers of the records fit their columns (`tableOf_ok`). -/
set_option autoImplicit false
namespace SourceIndex

theorem ColumnType.fitAll_of_fits {type : ColumnType} {values : List Value}
    (fits : ∀ v ∈ values, type.fit v = .ok v) : type.fitAll values = .ok values := by
  have same : eachFitted type.fit (values.map id) = .ok (values.map id) := eachFitted_map fits
  rwa [List.map_id] at same

def Unsigned64 (n : Int) : Prop := 0 ≤ n ∧ n < IntegerWidth.bits64.values

theorem ColumnType.fit_unsigned {n : Int} (inside : Unsigned64 n) :
    fit (.unsigned .bits64) (.integer n) = .ok (.integer n) := by
  rw [fit]
  exact if_pos inside

namespace Record

structure Fits (record : Record) : Prop where
  startLine : Unsigned64 record.startLine
  stopLine : Unsigned64 record.stopLine
  size : Unsigned64 record.size

def rowWith (record : Record) (text : String) : Entries :=
  [("file_path", .text record.filePath), ("file_name", .text record.fileName),
    ("start_line", .integer record.startLine), ("end_line", .integer record.stopLine),
    ("text", .text text), ("size", .integer record.size)]

def row? (record : Record) : Option Entries := record.text.map record.rowWith

end Record

namespace RecordColumns

def ofTexts (kept : List (Record × String)) : RecordColumns where
  filePaths := kept.map (·.1.filePath)
  fileNames := kept.map (·.1.fileName)
  startLines := kept.map (·.1.startLine)
  stopLines := kept.map (·.1.stopLine)
  texts := kept.map (·.2)
  sizes := kept.map (·.1.size)

theorem extend_ofTexts (records : List Record) : ∀ kept, (ofTexts kept).extend records =
    ofTexts (kept ++ records.filterMap fun record => record.text.map (record, ·)) := by
  induction records with
  | nil =>
      intro kept
      rw [List.filterMap_nil, List.append_nil]
      rfl
  | cons record rest ih =>
      intro kept
      have step : (ofTexts kept).extend (record :: rest) =
          ((ofTexts kept).append record).2.extend rest := rfl
      rw [step]
      cases text : record.text with
      | none => simp [append, text, ih]
      | some shown =>
          have pushed : (ofTexts kept).push record shown = ofTexts (kept ++ [(record, shown)]) := by
            simp [push, ofTexts]
          simp only [append, text, pushed, ih]
          simp [text]

theorem even_ofTexts (kept : List (Record × String)) : (ofTexts kept).Even := by
  constructor <;> simp [ofTexts, count]

theorem namedRows_ofTexts (kept : List (Record × String)) :
    (ofTexts kept).table.namedRows = kept.map fun entry => entry.1.rowWith entry.2 := by
  rw [(even_ofTexts kept).namedRows_table]
  refine List.ext_getElem (by simp [ofTexts, count]) ?_
  intro i _ inside
  have within : i < kept.length := by simpa using inside
  simp [Table.entriesAt, table, chunkSchema, values, columnOf, ofTexts, Record.rowWith, within]

theorem assemble_of_fits {schema : List (String × ColumnType)} : ∀ {lists : List (List Value)},
    (∀ pair ∈ schema.zip lists, ∀ v ∈ pair.2, pair.1.2.fit v = .ok v) →
      assemble schema lists = .ok (List.zipWith columnOf schema lists) := by
  induction schema with
  | nil => exact fun _ => rfl
  | cons named schema ih =>
      intro lists fits
      cases lists with
      | nil => rfl
      | cons values others =>
          obtain ⟨here, behind⟩ := List.forall_mem_cons.mp fits
          rw [assemble, Column.ofValues, ColumnType.fitAll_of_fits here, ih behind]
          rfl

theorem toTable_of_fits {columns : RecordColumns}
    (startLines : ∀ n ∈ columns.startLines, Unsigned64 n)
    (stopLines : ∀ n ∈ columns.stopLines, Unsigned64 n)
    (sizes : ∀ n ∈ columns.sizes, Unsigned64 n) : columns.toTable = .ok columns.table := by
  have texts (each : List String) : ∀ v ∈ each.map Value.text, ColumnType.text.fit v = .ok v := by
    intro v among
    obtain ⟨text, _, rfl⟩ := List.mem_map.mp among
    rfl
  have numbers {each : List Int} (inside : ∀ n ∈ each, Unsigned64 n) :
      ∀ v ∈ each.map Value.integer, (ColumnType.unsigned .bits64).fit v = .ok v := by
    intro v among
    obtain ⟨n, member, rfl⟩ := List.mem_map.mp among
    exact ColumnType.fit_unsigned (inside n member)
  have fits : assemble chunkSchema columns.values =
      .ok (List.zipWith columnOf chunkSchema columns.values) := by
    refine assemble_of_fits ?_
    simp only [chunkSchema, values, List.zip_cons_cons, List.zip_nil_left, List.forall_mem_cons]
    exact ⟨texts _, texts _, numbers startLines, numbers stopLines, texts _, numbers sizes,
      fun pair impossible => by cases impossible⟩
  rw [toTable, fits]
  rfl

end RecordColumns

theorem tableOf_eq (records : List Record) :
    tableOf records = (RecordColumns.ofTexts
      (records.filterMap fun record => record.text.map (record, ·))).toTable :=
  congrArg RecordColumns.toTable (RecordColumns.extend_ofTexts records [])

theorem namedRows_of_tableOf {records : List Record} {table : Table}
    (made : tableOf records = .ok table) : table.namedRows = records.filterMap Record.row? := by
  rw [tableOf_eq] at made
  rw [RecordColumns.eq_table_of_toTable made, RecordColumns.namedRows_ofTexts, List.map_filterMap]
  congr 1
  funext record
  rw [Option.map_map]
  rfl

theorem tableOf_ok {records : List Record} (fits : ∀ record ∈ records, record.Fits) :
    ∃ table, tableOf records = .ok table := by
  have each {entry : Record × String}
      (among : entry ∈ records.filterMap fun record => record.text.map (record, ·)) :
      entry.1.Fits := by
    obtain ⟨record, member, shows⟩ := List.mem_filterMap.mp among
    obtain ⟨text, _, rfl⟩ := Option.map_eq_some_iff.mp shows
    exact fits record member
  refine ⟨_, (tableOf_eq records).trans (RecordColumns.toTable_of_fits ?_ ?_ ?_)⟩
  · intro n member
    obtain ⟨entry, among, rfl⟩ := List.mem_map.mp member
    exact (each among).startLine
  · intro n member
    obtain ⟨entry, among, rfl⟩ := List.mem_map.mp member
    exact (each among).stopLine
  · intro n member
    obtain ⟨entry, among, rfl⟩ := List.mem_map.mp member
    exact (each among).size

end SourceIndex
