import SourceIndex.Record
import SourceIndex.Table

/-! # Records as columns

Records are gathered into six columns of one length.  A record without text is left out. -/
set_option autoImplicit false
namespace SourceIndex

structure RecordColumns where
  filePaths : List String := []
  fileNames : List String := []
  startLines : List Int := []
  stopLines : List Int := []
  texts : List String := []
  sizes : List Int := []
  deriving DecidableEq, Repr, Inhabited

/-- Records that are handed out one at a time, up to the end or to a failure. -/
inductive RecordSupply where
  | done
  | fails (failure : Failure)
  | gives (record : Record) (rest : RecordSupply)
  deriving DecidableEq, Repr

def chunkSchema : List (String × ColumnType) :=
  [("file_path", .text), ("file_name", .text), ("start_line", .unsigned .bits64),
    ("end_line", .unsigned .bits64), ("text", .text), ("size", .unsigned .bits64)]

namespace RecordColumns

def count (columns : RecordColumns) : Nat := columns.texts.length

def push (columns : RecordColumns) (record : Record) (text : String) : RecordColumns where
  filePaths := columns.filePaths ++ [record.filePath]
  fileNames := columns.fileNames ++ [record.fileName]
  startLines := columns.startLines ++ [record.startLine]
  stopLines := columns.stopLines ++ [record.stopLine]
  texts := columns.texts ++ [text]
  sizes := columns.sizes ++ [record.size]

/-- Add a record if it has a text, and tell whether it was added. -/
def append (columns : RecordColumns) (record : Record) : Bool × RecordColumns :=
  match record.text with
  | none => (false, columns)
  | some text => (true, columns.push record text)

def extend (columns : RecordColumns) (records : List Record) : RecordColumns :=
  records.foldl (fun columns record => (columns.append record).2) columns

/-- Add records as they are handed out.  Those in front of a failure stay added. -/
def absorb (columns : RecordColumns) : RecordSupply → Option Failure × RecordColumns
  | .done => (none, columns)
  | .fails failure => (some failure, columns)
  | .gives record rest => (columns.append record).2.absorb rest

def values (columns : RecordColumns) : List (List Value) :=
  [columns.filePaths.map .text, columns.fileNames.map .text, columns.startLines.map .integer,
    columns.stopLines.map .integer, columns.texts.map .text, columns.sizes.map .integer]

/-- Columns of a schema, one for each list of values; the first that does not fit ends it. -/
def assemble : List (String × ColumnType) → List (List Value) → Except Failure (List Column)
  | (name, type) :: schema, values :: others =>
    match Column.ofValues name type values with
    | .error failure => .error failure
    | .ok column =>
      match assemble schema others with
      | .error failure => .error failure
      | .ok columns => .ok (column :: columns)
  | _, _ => .ok []

/-- The failure that one of assembling gives: a value that fits into no row is told of as such, and
any other failure is passed on. -/
def assemblyFailure (failure : Failure) : Failure :=
  match failure.kind with
  | .badCell => .cannotAssemble
  | .mistypedCell => .cannotAssemble
  | .overflow => .cannotAssemble
  | _ => failure

def toTable (columns : RecordColumns) : Except Failure Table :=
  match assemble chunkSchema columns.values with
  | .error failure => .error (assemblyFailure failure)
  | .ok assembled => .ok ⟨assembled⟩

end RecordColumns

end SourceIndex
