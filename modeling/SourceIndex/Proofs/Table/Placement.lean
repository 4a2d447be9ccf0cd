import Mathlib.Data.List.Nodup
import SourceIndex.Proofs.Table.Rows

/-! # A column put into a table

A column takes the place of the one of its name, or stands behind all others (`placed_setColumn`).  The
other columns are left as they are, and so is the number of rows if the column has as many. -/
set_option autoImplicit false
namespace SourceIndex.Table

/-- Where a column is put. -/
inductive Placed (table : Table) (column : Column) : Prop where
  | replaces {front back : List Column} {old : Column} (columns : table.columns = front ++ old :: back)
      (name : old.name = column.name) (first : ∀ other ∈ front, other.name ≠ column.name)
      (made : table.setColumn column = ⟨front ++ column :: back⟩)
  | follows (new : column.name ∉ table.columnNames) (made : table.setColumn column = table.push column)

theorem placed_setColumn (table : Table) (column : Column) : table.Placed column := by
  by_cases there : column.name ∈ table.columnNames
  · obtain ⟨before, behind, names, absent⟩ := List.eq_append_cons_of_mem there
    obtain ⟨front, rest, columns, rfl, others⟩ := List.map_eq_append_iff.mp names
    obtain ⟨old, back, rfl, name, rfl⟩ := List.map_eq_cons_iff.mp others
    refine .replaces columns name ?_ ?_
    · intro other among same
      exact absent (same ▸ List.mem_map_of_mem among)
    · have place : table.columnNames.idxOf column.name = front.length := by
        rw [names, List.idxOf_append_of_notMem absent, List.idxOf_cons_self, List.length_map,
          Nat.add_zero]
      rw [setColumn, if_pos (List.contains_iff_mem.mpr there)]
      simp [place, columns]
  · exact .follows there (setColumn_eq_push there)

section
variable (table : Table) (column : Column)

theorem columnNames_setColumn : (table.setColumn column).columnNames =
    if column.name ∈ table.columnNames then table.columnNames
    else table.columnNames ++ [column.name] := by
  cases table.placed_setColumn column with
  | replaces columns name first made =>
      have there : column.name ∈ table.columnNames := by
        rw [columnNames, columns, ← name]
        simp
      rw [if_pos there, made, columnNames, columnNames, columns]
      simp [name]
  | follows new made =>
      rw [if_neg new, made, columnNames, push, List.map_append]
      rfl

variable {table} in
theorem nodup_columnNames_setColumn (distinct : table.columnNames.Nodup) :
    (table.setColumn column).columnNames.Nodup := by
  rw [columnNames_setColumn]
  split
  · exact distinct
  · rename_i new
    rw [List.nodup_append]
    refine ⟨distinct, List.pairwise_singleton _ _, ?_⟩
    intro name among other last same
    exact new (List.mem_singleton.mp last ▸ same ▸ among)

theorem count_columnNames {table : Table} {column : Column} (distinct : table.columnNames.Nodup)
    {name : String} (found : table.column? name = some column) :
    table.columnNames.count name = 1 := by
  refine List.count_eq_one_of_mem distinct (List.mem_map.mpr ⟨column, ?_, ?_⟩)
  · exact List.mem_of_find?_eq_some found
  · simpa using List.find?_some found

theorem column?_eq_of_split {front back : List Column} {column : Column}
    (first : ∀ other ∈ front, other.name ≠ column.name) :
    (Table.mk (front ++ column :: back)).column? column.name = some column := by
  have before : ∀ other ∈ front, ¬(other.name == column.name) = true :=
    fun other among same => first other among (eq_of_beq same)
  rw [column?, List.find?_append, List.find?_eq_none.mpr before]
  simp

theorem column?_setColumn_self : (table.setColumn column).column? column.name = some column := by
  cases table.placed_setColumn column with
  | replaces columns name first made =>
      rw [made]
      exact column?_eq_of_split first
  | follows new made =>
      rw [made]
      apply column?_eq_of_split
      intro other among same
      exact new (same ▸ List.mem_map_of_mem among)

theorem column?_setColumn_of_ne {name : String} (other : name ≠ column.name) :
    (table.setColumn column).column? name = table.column? name := by
  have passed (each : Column) (same : each.name = column.name) (back : List Column) :
      (each :: back).find? (fun each => each.name == name) =
        back.find? fun each => each.name == name :=
    List.find?_cons_of_neg fun hit => other ((eq_of_beq hit).symm.trans same)
  cases table.placed_setColumn column with
  | replaces columns same first made =>
      rw [made, column?, column?, columns, List.find?_append, List.find?_append, passed column rfl,
        passed _ same]
  | follows new made =>
      rw [made, column?, column?, push, List.find?_append, passed column rfl, List.find?_nil,
        Option.or_none]

variable {table column} in
/-- A column that is there already is put where it is. -/
theorem setColumn_of_column? (there : table.column? column.name = some column) :
    table.setColumn column = table := by
  cases table.placed_setColumn column with
  | @replaces front back old columns name first made =>
      have same : table.column? old.name = some old := by
        have whole : table = ⟨front ++ old :: back⟩ := congrArg Table.mk columns
        rw [whole]
        exact column?_eq_of_split fun other among => name ▸ first other among
      rw [name, there] at same
      cases same
      rw [made, ← columns]
  | follows new made =>
      have among := List.mem_of_find?_eq_some there
      exact absurd (List.mem_map_of_mem among) new

/-- The other columns are as they were, in their order. -/
theorem filter_setColumn :
    (table.setColumn column).columns.filter (fun other => other.name != column.name) =
      table.columns.filter fun other => other.name != column.name := by
  cases table.placed_setColumn column with
  | replaces columns name first made =>
      rw [made, columns]
      simp [name]
  | follows new made =>
      rw [made, push]
      simp

end

section
variable {table : Table} {column : Column} (long : column.values.length = table.rowCount)
include long

theorem rowCount_setColumn (some : table.columns ≠ []) :
    (table.setColumn column).rowCount = table.rowCount := by
  cases table.placed_setColumn column with
  | follows new made => rw [made, rowCount_push some]
  | @replaces front back old columns name first made =>
      rw [made]
      cases front with
      | nil => exact long
      | cons head rest => rw [rowCount, rowCount, columns, List.cons_append, List.cons_append]

theorem Even.setColumn (even : table.Even) (some : table.columns ≠ []) :
    (table.setColumn column).Even := by
  have count := rowCount_setColumn long some
  intro other among
  rw [count]
  cases table.placed_setColumn column with
  | replaces columns name first made =>
      rw [made, List.mem_append, List.mem_cons] at among
      rcases among with before | rfl | behind
      · exact even other (columns ▸ List.mem_append_left _ before)
      · exact long
      · exact even other (columns ▸ List.mem_append_right _ (List.mem_cons_of_mem _ behind))
  | follows new made =>
      rw [made, Table.push, List.mem_append, List.mem_singleton] at among
      rcases among with old | rfl
      · exact even other old
      · exact long

end

end SourceIndex.Table
