import SourceIndex.Dataset.Columns
import SourceIndex.Proofs.Table.Rows

/-! # The table of gathered records

The texts of records fit their columns as they are, and so do the numbers that fit at all: a table
that is made holds what was gathered (`eq_table_of_toTable`), and it is read back as it was written
(`stored_table`).  All its columns have one length (`Even.extend`). -/
set_option autoImplicit false
namespace SourceIndex

namespace ColumnType

theorem map_of_eachFitted {fitOne : Value → Except Failure Value} {values : List Value} :
    ∀ {fitted : List Value}, eachFitted fitOne values = .ok fitted →
      values.map fitOne = fitted.map .ok := by
  induction values with
  | nil =>
      intro fitted fits
      cases fits
      rfl
  | cons v rest ih =>
      intro fitted fits
      rw [eachFitted] at fits
      cases first : fitOne v with
      | error failure => simp [first] at fits
      | ok made =>
          cases others : eachFitted fitOne rest with
          | error failure => simp [first, others] at fits
          | ok more =>
              simp only [first, others, Except.ok.injEq] at fits
              rw [← fits, List.map_cons, first, ih others]
              rfl

theorem eachFitted_map {α : Type} {fitOne : Value → Except Failure Value} {given kept : α → Value}
    {items : List α} (fits : ∀ item ∈ items, fitOne (given item) = .ok (kept item)) :
    eachFitted fitOne (items.map given) = .ok (items.map kept) := by
  induction items with
  | nil => rfl
  | cons item rest ih =>
      obtain ⟨here, others⟩ := List.forall_mem_cons.mp fits
      rw [List.map_cons, eachFitted, here, ih others]
      rfl

theorem exists_of_eachFitted_error {fitOne : Value → Except Failure Value} {values : List Value}
    {failure : Failure} (refused : eachFitted fitOne values = .error failure) :
    ∃ v ∈ values, fitOne v = .error failure := by
  induction values with
  | nil => cases refused
  | cons v rest ih =>
      rw [eachFitted] at refused
      cases first : fitOne v with
      | error failed =>
          simp only [first, Except.error.injEq] at refused
          exact ⟨v, List.mem_cons_self, first.trans (congrArg Except.error refused)⟩
      | ok fitted =>
          cases others : eachFitted fitOne rest with
          | error failed =>
              simp only [first, others, Except.error.injEq] at refused
              obtain ⟨late, among, fails⟩ := ih (others.trans (congrArg Except.error refused))
              exact ⟨late, List.mem_cons_of_mem _ among, fails⟩
          | ok more => simp [first, others] at refused

theorem text_fit_error {v : Value} {failure : Failure}
    (refused : ColumnType.text.fit v = .error failure) : failure = .badCell := by
  cases v <;> cases refused <;> rfl

theorem unsigned_fit_error {width : IntegerWidth} {v : Value} {failure : Failure}
    (refused : (ColumnType.unsigned width).fit v = .error failure) : failure = .badCell := by
  cases v with
  | integer n =>
      rw [ColumnType.fit] at refused
      split at refused <;> cases refused
      rfl
  | _ => cases refused <;> rfl

/-- What fits into the type at all fits as it is. -/
def Keeps (type : ColumnType) (values : List Value) : Prop :=
  ∀ v ∈ values, ∀ fitted, type.fit v = .ok fitted → fitted = v

theorem Keeps.eq_of_fitAll {type : ColumnType} {values fitted : List Value}
    (keeps : type.Keeps values) (fits : type.fitAll values = .ok fitted) : fitted = values := by
  have each := map_of_eachFitted fits
  have long : fitted.length = values.length := by
    simpa using (congrArg List.length each).symm
  refine List.ext_getElem long ?_
  intro i inFitted inValues
  have here : type.fit values[i] = .ok fitted[i] := by
    have both := congrArg (·[i]?) each
    simpa [inFitted, inValues] using both
  exact keeps values[i] (List.getElem_mem inValues) fitted[i] here

theorem keeps_text (texts : List String) : Keeps .text (texts.map .text) := by
  intro v member fitted fits
  obtain ⟨text, _, rfl⟩ := List.mem_map.mp member
  exact (Except.ok.inj fits).symm

theorem keeps_unsigned (width : IntegerWidth) (numbers : List Int) :
    Keeps (.unsigned width) (numbers.map .integer) := by
  intro v member fitted fits
  obtain ⟨n, _, rfl⟩ := List.mem_map.mp member
  rw [fit] at fits
  split at fits
  · exact (Except.ok.inj fits).symm
  · cases fits

end ColumnType

namespace RecordColumns

def columnOf (named : String × ColumnType) (values : List Value) : Column :=
  ⟨named.1, named.2, values⟩

/-- The table that holds gathered records as they are. -/
def table (columns : RecordColumns) : Table := ⟨List.zipWith columnOf chunkSchema columns.values⟩

section
variable {named : String × ColumnType} {schema : List (String × ColumnType)} {values : List Value}
  {others : List (List Value)}

theorem assemble_cons_ok {assembled : List Column}
    (made : assemble (named :: schema) (values :: others) = .ok assembled) :
    ∃ fitted more, named.2.fitAll values = .ok fitted ∧ assemble schema others = .ok more ∧
      assembled = columnOf named fitted :: more := by
  rw [assemble, Column.ofValues] at made
  cases fits : named.2.fitAll values with
  | error failure => simp [fits] at made
  | ok fitted =>
      cases rest : assemble schema others with
      | error failure => simp [fits, rest] at made
      | ok more =>
          simp only [fits, rest, Except.ok.injEq] at made
          exact ⟨fitted, more, rfl, rfl, made.symm⟩

theorem assemble_cons_error {failure : Failure}
    (refused : assemble (named :: schema) (values :: others) = .error failure) :
    named.2.fitAll values = .error failure ∨ assemble schema others = .error failure := by
  rw [assemble, Column.ofValues] at refused
  cases fits : named.2.fitAll values with
  | error failed =>
      simp only [fits, Except.error.injEq] at refused
      exact .inl (congrArg Except.error refused)
  | ok fitted =>
      cases rest : assemble schema others with
      | error failed =>
          simp only [fits, rest] at refused
          exact .inr refused
      | ok more => simp [fits, rest] at refused

end

theorem eq_zipWith_of_assemble {schema : List (String × ColumnType)} : ∀ {lists : List (List Value)}
    {columns : List Column}, (∀ pair ∈ schema.zip lists, pair.1.2.Keeps pair.2) →
      assemble schema lists = .ok columns → columns = List.zipWith columnOf schema lists := by
  induction schema with
  | nil =>
      intro lists columns _ assembled
      cases assembled
      rfl
  | cons named schema ih =>
      intro lists columns keeps assembled
      cases lists with
      | nil =>
          cases assembled
          rfl
      | cons values others =>
          obtain ⟨fitted, more, fits, rest, rfl⟩ := assemble_cons_ok assembled
          have same := (keeps (named, values) List.mem_cons_self).eq_of_fitAll fits
          have behind := ih (fun pair among => keeps pair (List.mem_cons_of_mem _ among)) rest
          rw [same, behind, List.zipWith_cons_cons]

theorem keeps_values (columns : RecordColumns) :
    ∀ pair ∈ chunkSchema.zip columns.values, pair.1.2.Keeps pair.2 := by
  simp only [chunkSchema, values, List.zip_cons_cons, List.zip_nil_left, List.forall_mem_cons]
  exact ⟨ColumnType.keeps_text _, ColumnType.keeps_text _, ColumnType.keeps_unsigned _ _,
    ColumnType.keeps_unsigned _ _, ColumnType.keeps_text _, ColumnType.keeps_unsigned _ _,
    fun pair impossible => by cases impossible⟩

/-- A table that is made of gathered records holds them as they are. -/
theorem eq_table_of_toTable {columns : RecordColumns} {made : Table}
    (ok : columns.toTable = .ok made) : made = columns.table := by
  unfold toTable at ok
  cases assembled : assemble chunkSchema columns.values with
  | error failure => simp [assembled] at ok
  | ok inner =>
      simp only [assembled, Except.ok.injEq] at ok
      rw [← ok, eq_zipWith_of_assemble columns.keeps_values assembled]
      rfl

theorem stored_table (columns : RecordColumns) : columns.table.stored = columns.table := rfl

/-- The columns have one length. -/
structure Even (columns : RecordColumns) : Prop where
  filePaths : columns.filePaths.length = columns.count
  fileNames : columns.fileNames.length = columns.count
  startLines : columns.startLines.length = columns.count
  stopLines : columns.stopLines.length = columns.count
  sizes : columns.sizes.length = columns.count

theorem Even.push {columns : RecordColumns} (even : columns.Even) (record : Record)
    (text : String) : (columns.push record text).Even := by
  have count : (columns.push record text).count = columns.count + 1 := List.length_append
  -- each list grows by one value, and so does the count of the texts
  constructor <;> rw [count, RecordColumns.push]
  · rw [List.length_append, even.filePaths]
    rfl
  · rw [List.length_append, even.fileNames]
    rfl
  · rw [List.length_append, even.startLines]
    rfl
  · rw [List.length_append, even.stopLines]
    rfl
  · rw [List.length_append, even.sizes]
    rfl

theorem Even.extend (records : List Record) : ∀ {columns : RecordColumns}, columns.Even →
    (columns.extend records).Even := by
  induction records with
  | nil => exact fun even => even
  | cons record rest ih =>
      intro columns even
      have grown : (columns.append record).2.Even := by
        unfold append
        split
        · exact even
        · exact even.push record _
      exact ih grown

section
variable {columns : RecordColumns}

theorem columnNames_table (columns : RecordColumns) :
    columns.table.columnNames =
      ["file_path", "file_name", "start_line", "end_line", "text", "size"] := rfl

theorem nodup_columnNames_table (columns : RecordColumns) : columns.table.columnNames.Nodup := by
  rw [columnNames_table]
  decide

theorem Even.rowCount_table (even : columns.Even) : columns.table.rowCount = columns.count :=
  (List.length_map _).trans even.filePaths

theorem Even.table (even : columns.Even) : columns.table.Even := by
  intro column among
  rw [even.rowCount_table]
  simp only [RecordColumns.table, chunkSchema, values, columnOf, List.zipWith_cons_cons,
    List.zipWith_nil_left, List.mem_cons, List.not_mem_nil, or_false] at among
  rcases among with rfl | rfl | rfl | rfl | rfl | rfl
  · exact (List.length_map _).trans even.filePaths
  · exact (List.length_map _).trans even.fileNames
  · exact (List.length_map _).trans even.startLines
  · exact (List.length_map _).trans even.stopLines
  · exact List.length_map _
  · exact (List.length_map _).trans even.sizes

theorem Even.namedRows_table (even : columns.Even) :
    columns.table.namedRows = (List.range columns.count).map columns.table.entriesAt := by
  rw [Table.namedRows_eq_of_nodup even.table columns.nodup_columnNames_table, even.rowCount_table]

end

end RecordColumns

end SourceIndex
