import SourceIndex.Proofs.Table.Entries
import SourceIndex.Table

/-! # Rows of tables

Where all columns of a table have one value for each row, the rows are cut across the columns, and a
name that is repeated is kept once, with the value of the last of its columns (`namedRows_eq`).  A
column behind all others adds an entry to each row, and the rows do not depend on the types of the
columns. -/
set_option autoImplicit false
namespace SourceIndex

namespace Table

theorem named_eq (names : List String) (row : List Value) :
    named names row = Value.lastValues (names.zip row) :=
  (Value.lastValues_eq_foldl _).symm

/-- The columns have one value for each row. -/
def Even (table : Table) : Prop :=
  ∀ column ∈ table.columns, column.values.length = table.rowCount

/-- A row by its position: its values by the names of the columns. -/
def entriesAt (table : Table) (i : Nat) : Entries :=
  table.columns.map fun column => (column.name, column.values.getD i .null)

theorem map_fst_entriesAt (table : Table) (i : Nat) :
    (table.entriesAt i).map Prod.fst = table.columnNames := by
  simp [entriesAt, columnNames]

theorem lookup_entriesAt (table : Table) (name : String) (i : Nat) :
    Value.lookup name (table.entriesAt i) =
      (table.column? name).map fun column => column.values.getD i .null := by
  rw [Value.lookup, entriesAt, List.find?_map, column?, Option.map_map]
  rfl

theorem foldr_consColumn {count : Nat} {columns : List Column}
    (even : ∀ column ∈ columns, column.values.length = count) :
    columns.foldr consColumn (List.replicate count []) =
      (List.range count).map fun i => columns.map fun column => column.values.getD i .null := by
  induction columns with
  | nil => simp [List.map_const']
  | cons column rest ih =>
      have long := even column List.mem_cons_self
      have values : column.values = (List.range count).map fun i => column.values.getD i .null := by
        refine List.ext_getElem (by simp [long]) ?_
        intro i inside _
        simp [inside]
      have others := ih fun other among => even other (List.mem_cons_of_mem _ among)
      rw [List.foldr_cons, others, consColumn]
      refine (congrArg (List.zipWith List.cons · _) values).trans ?_
      rw [List.zipWith_map, List.zipWith_self]
      rfl

theorem namedRows_eq {table : Table} (even : table.Even) :
    table.namedRows =
      (List.range table.rowCount).map fun i => Value.lastValues (table.entriesAt i) := by
  rw [namedRows, rows, foldr_consColumn even, List.map_map]
  refine List.map_congr_left ?_
  intro i _
  rw [Function.comp_apply, named_eq, columnNames, List.zip_map', entriesAt]

/-- A row keeps its values in their order under names that are distinct. -/
theorem namedRows_eq_of_nodup {table : Table} (even : table.Even)
    (distinct : table.columnNames.Nodup) :
    table.namedRows = (List.range table.rowCount).map table.entriesAt := by
  rw [namedRows_eq even]
  refine List.map_congr_left ?_
  intro i _
  exact Value.lastValues_of_nodup (by rw [map_fst_entriesAt]; exact distinct)

/-- The names in a row are distinct, whether those of the columns are or not. -/
theorem nodup_of_mem_namedRows {table : Table} {row : Entries} (among : row ∈ table.namedRows) :
    (row.map Prod.fst).Nodup := by
  obtain ⟨values, _, rfl⟩ := List.mem_map.mp among
  rw [named_eq]
  exact Value.nodup_lastValues _

theorem length_namedRows {table : Table} (even : table.Even) :
    table.namedRows.length = table.rowCount := by
  rw [namedRows, rows, foldr_consColumn even, List.length_map, List.length_map, List.length_range]

/-! ## What is read back -/

theorem columnNames_stored (table : Table) : table.stored.columnNames = table.columnNames := by
  simp [stored, columnNames]

theorem rowCount_stored (table : Table) : table.stored.rowCount = table.rowCount := by
  obtain ⟨columns⟩ := table
  cases columns <;> rfl

theorem Even.stored {table : Table} (even : table.Even) : table.stored.Even := by
  intro column among
  obtain ⟨made, member, rfl⟩ := List.mem_map.mp among
  rw [rowCount_stored]
  exact even made member

theorem namedRows_stored (table : Table) : table.stored.namedRows = table.namedRows := by
  have rows : table.stored.rows = table.rows := by
    rw [Table.rows, Table.rows, rowCount_stored, Table.stored, List.foldr_map]
    rfl
  rw [namedRows, namedRows, columnNames_stored, rows]

/-! ## One more column -/

def push (table : Table) (column : Column) : Table := ⟨table.columns ++ [column]⟩

theorem setColumn_eq_push {table : Table} {column : Column}
    (new : column.name ∉ table.columnNames) : table.setColumn column = table.push column := by
  rw [setColumn, if_neg (by simpa using new)]
  rfl

section
variable {table : Table} {column : Column}

theorem entriesAt_push (i : Nat) :
    (table.push column).entriesAt i =
      table.entriesAt i ++ [(column.name, column.values.getD i .null)] := by
  simp [push, entriesAt]

theorem rowCount_push (some : table.columns ≠ []) :
    (table.push column).rowCount = table.rowCount := by
  obtain ⟨columns⟩ := table
  cases columns with
  | nil => exact absurd rfl some
  | cons => rfl

theorem Even.push (even : table.Even) (some : table.columns ≠ [])
    (long : column.values.length = table.rowCount) : (table.push column).Even := by
  intro other among
  rw [rowCount_push some]
  rcases List.mem_append.mp among with old | new
  · exact even other old
  · exact List.mem_singleton.mp new ▸ long

end

end Table

end SourceIndex
