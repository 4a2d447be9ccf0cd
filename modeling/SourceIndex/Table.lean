import SourceIndex.Table.ColumnType

/-! # Tables

A table is a list of named columns of one length.  It is built column by column and looked at
row by row. -/
set_option autoImplicit false
namespace SourceIndex

structure Column where
  name : String
  type : ColumnType
  values : List Value
  deriving Inhabited

namespace Column

def ofValues (name : String) (type : ColumnType) (values : List Value) : Except Failure Column :=
  match type.fitAll values with
  | .error failure => .error failure
  | .ok fitted => .ok ⟨name, type, fitted⟩

end Column

structure Table where
  columns : List Column
  deriving Inhabited

namespace Table

def columnNames (table : Table) : List String := table.columns.map Column.name

def rowCount (table : Table) : Nat :=
  match table.columns with
  | [] => 0
  | column :: _ => column.values.length

def column? (table : Table) (name : String) : Option Column :=
  table.columns.find? fun column => column.name == name

def consColumn (column : Column) (rows : List (List Value)) : List (List Value) :=
  List.zipWith List.cons column.values rows

def rows (table : Table) : List (List Value) :=
  table.columns.foldr consColumn (List.replicate table.rowCount [])

def named (names : List String) (row : List Value) : Entries :=
  (names.zip row).foldl (fun entries entry => Value.insert entry.1 entry.2 entries) []

def namedRows (table : Table) : List Entries :=
  table.rows.map (named table.columnNames)

/-- Put a column where one of its name stands, or behind all others. -/
def setColumn (table : Table) (column : Column) : Table :=
  if table.columnNames.contains column.name then
    let place := table.columnNames.idxOf column.name
    ⟨table.columns.set place column⟩
  else ⟨table.columns ++ [column]⟩

def stored (table : Table) : Table :=
  ⟨table.columns.map fun column => { column with type := column.type.stored }⟩

end Table

end SourceIndex
