import SourceIndex.Table

/-! # Schemas of vector collections

A collection has a field for each column of the table it is made from, behind a primary key of
its own.  Texts, truth values, numbers and vectors can be kept; any other column is refused,
and so is a table without vectors. -/
set_option autoImplicit false
namespace SourceIndex

def primaryKey : String := "id"

def textLimit : Nat := 65535

inductive FieldType where
  | text (maxBytes : Nat)
  | bool
  | integer
  | real
  | vector (dimension : Nat)
  deriving DecidableEq, Repr

structure Field where
  name : String
  type : FieldType
  isPrimary : Bool := false
  deriving DecidableEq, Repr

/-- The schema of a collection.  The primary key is given by the collection, and there are no
fields beside those of the schema. -/
structure CollectionSchema where
  fields : List Field
  deriving DecidableEq, Repr

def Value.lengthIfAny : Value → Option Nat
  | .list [] => none
  | .list items => some items.length
  | _ => none

/-- The number of components of the vectors in a column: as its type tells, or else as many as
the first vector has that has any. -/
def Column.dimension? (column : Column) : Option Nat :=
  match column.type with
  | .list (.fixed length) _ _ => some length
  | _ => column.values.findSome? Value.lengthIfAny

/-- The field that keeps a column of a table with these names.  Vectors are looked up by the name of
their column, which therefore has to be the only one of that name. -/
def Column.field (names : List String) (column : Column) : Except Failure Field :=
  if column.type.isText then .ok { name := column.name, type := .text textLimit }
  else if column.type = .bool then .ok { name := column.name, type := .bool }
  else if column.type.isInteger then .ok { name := column.name, type := .integer }
  else if column.type.isFloat then .ok { name := column.name, type := .real }
  else if column.type.isVector then
    if names.count column.name = 1 then
      match column.dimension? with
      | some dimension => .ok { name := column.name, type := .vector dimension }
      | none => .error (.noDimension column.name)
    else .error (.ambiguousColumn column.name)
  else .error (.unsupportedColumn column.name column.type.name)

def fieldsOf (names : List String) : List Column → Except Failure (List Field)
  | [] => .ok []
  | column :: rest =>
    match column.field names with
    | .error failure => .error failure
    | .ok field =>
      match fieldsOf names rest with
      | .error failure => .error failure
      | .ok fields => .ok (field :: fields)

namespace Table

def vectorColumns (table : Table) : List String :=
  (table.columns.filter fun column => column.type.isVector).map Column.name

def textColumns (table : Table) : List String :=
  (table.columns.filter fun column => column.type.isText).map Column.name

def collectionSchema (table : Table) : Except Failure CollectionSchema :=
  if table.columnNames.contains primaryKey then .error (.reservedColumn primaryKey)
  else
    match fieldsOf table.columnNames table.columns with
    | .error failure => .error failure
    | .ok fields =>
      if table.vectorColumns.isEmpty then .error .noVectorColumn
      else .ok ⟨{ name := primaryKey, type := .integer, isPrimary := true } :: fields⟩

end Table

end SourceIndex
