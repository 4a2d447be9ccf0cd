import SourceIndex.Dataset
import SourceIndex.Embedding.Batches
import SourceIndex.Value.Conversion

/-! # The embedding dataset

The embedding dataset is the chunk dataset with a column of vectors, one for the text of each
row.  As with the chunk dataset, the output file is opened first and removed again when
anything goes wrong behind that; the input has been read by then. -/
set_option autoImplicit false
namespace SourceIndex

def vectorType : ColumnType := .list .short .item (.float .single)

abbrev ValueClient := EmbeddingClient Value Value

/-- What is embedded for a value: the value itself, and an empty text where it is missing. -/
def textToEmbed : Value → Value
  | .null => .text ""
  | v => v

abbrev QueryClient := String → Except Failure Value

def embedQuery (client : Except Failure QueryClient) (text : String) :
    Except Failure (List Value) :=
  client.bind fun answer => (answer text).bind Value.items

namespace Table

def addVectors (table : Table) (client : ValueClient) (size : Nat) :
    Except Failure Table × EmbeddingTrace Value :=
  match table.column? "text" with
  | none => (.error .noTextColumn, {})
  | some texts =>
    let times := table.columnNames.count "text"
    if times = 1 then
      match embedTexts client size (texts.values.map textToEmbed) with
      | (.error failure, trace) => (.error failure, trace)
      | (.ok vectors, trace) =>
        ((Column.ofValues "embedding" vectorType vectors).map table.setColumn, trace)
    else (.error (.repeatedColumn "text" times), {})

end Table

namespace FileStore

def embedInto (store : FileStore) (place : Place) (source : String) (output : Path)
    (client : Except Failure ValueClient × List Event) (size : Nat) (fault : Option WriteFault)
    (table : Table) : Except Failure (FileStore × Nat) × EmbeddingTrace Value × List Event :=
  match client with
  | (.error failure, events) => (.error failure, {}, events)
  | (.ok client, events) =>
    let told := events ++
      [.info "embedding_dataset" [("source", .text source), ("rows", .ofNat table.rowCount)]]
    match table.addVectors client size with
    | (.error failure, trace) => (.error failure, trace, told)
    | (.ok embedded, trace) =>
      ((store.writeTable place .embedding output fault embedded).map
        fun after => (after, embedded.rowCount), trace, told)

def embedDataset (store : FileStore) (source : String) (output : Path)
    (client : Except Failure ValueClient × List Event) (size : Nat) (faults : SinkFaults) :
    Except Failure Nat × FileStore × EmbeddingTrace Value × List Event :=
  match store.readDataset source with
  | .error failure => (.error failure, store, {}, [])
  | .ok table =>
    match store.create output with
    | .error cause => (.error (.cannotCreate output cause), store, {}, [])
    | .ok (place, opened) =>
      let (given, trace, events) :=
        opened.embedInto place source output client size faults.write table
      match faults.closing given with
      | .error failure =>
        let (after, more) := opened.discard output
        (.error failure, after, trace, events ++ more)
      | .ok (after, rows) =>
        (.ok rows, after, trace,
          events ++ [.info "embedding_dataset_written"
            [("path", .text output.text), ("rows", .ofNat rows)]])

end FileStore

end SourceIndex
