import SourceIndex.Dataset.Columns
import SourceIndex.FileStore
import SourceIndex.Stream

/-! # The chunk dataset

The records of a directory tree are gathered into a table and stored.  The output file is
opened before the tree is walked, so that an unusable path is noticed at once, and it is removed
again when anything goes wrong behind that.  The tree is given as the walk finds it, with the
opened output where that stands in it. -/
set_option autoImplicit false
namespace SourceIndex

inductive WriteFault where
  | fileSystem (cause : OsError)
  | format (reason : String)
  | other (failure : Failure)
  deriving DecidableEq, Repr

def WriteFault.failure (dataset : DatasetName) (path : Path) : WriteFault → Failure
  | .fileSystem cause => .cannotWrite dataset path cause.message
  | .format reason => .cannotWrite dataset path reason
  | .other failure => failure

/-- What goes wrong with an open output: when the table is written into it, and when it is closed. -/
structure SinkFaults where
  write : Option WriteFault := none
  close : Option OsError := none
  deriving DecidableEq, Repr

/-- Close an output behind what was done with it.  An error there is passed on as it is, in place
of whatever was given before. -/
def SinkFaults.closing {α : Type} (faults : SinkFaults) (given : Except Failure α) :
    Except Failure α :=
  match faults.close with
  | some cause => .error (.fileSystem cause)
  | none => given

def collectedEvent (columns : RecordColumns) (stats : StreamStats) : Event :=
  .info "chunks_collected"
    [("rows", .ofNat columns.count), ("chunks", .ofNat stats.chunksEmitted),
      ("files", .ofNat stats.filesSeen), ("files_chunked", .ofNat stats.filesChunked),
      ("files_unsupported", .ofNat stats.filesUnsupported),
      ("files_failed", .ofNat stats.filesFailed),
      ("directories_skipped", .ofNat stats.directoriesSkipped)]

namespace Stream

/-- Gather all the records of a stream, which is closed whatever happens. -/
def collect (stream : Stream) : Except Failure RecordColumns × Stream × List Event :=
  let (records, failure, last, events) := stream.drain
  let closed := last.close
  match failure with
  | some failure => (.error failure, closed, events)
  | none =>
    let columns := RecordColumns.extend {} records
    (.ok columns, closed, events ++ [collectedEvent columns closed.stats])

def extract (stream : Stream) : Except Failure Table × Stream × List Event :=
  match stream.collect with
  | (.error failure, last, events) => (.error failure, last, events)
  | (.ok columns, last, events) => (columns.toTable, last, events)

end Stream

namespace FileStore

/-- Remove an output file.  That it cannot be removed is only told of. -/
def discard (store : FileStore) (path : Path) : FileStore × List Event :=
  match store.remove path with
  | .ok after => (after, [])
  | .error cause =>
    (store,
      [.warning "output_cleanup_failed"
        [("path", .text path.text), ("error", .text cause.message)]])

def writeTable (store : FileStore) (place : Place) (dataset : DatasetName) (path : Path)
    (fault : Option WriteFault) (table : Table) : Except Failure FileStore :=
  match fault with
  | some fault => .error (fault.failure dataset path)
  | none => .ok (store.put place (.dataset table))

def writeChunks (store : FileStore) (stream : Stream) (output : Path) (faults : SinkFaults) :
    Except Failure Nat × FileStore × Stream × List Event :=
  match store.create output with
  | .error cause => (.error (.cannotCreate output cause), store, stream, [])
  | .ok (place, opened) =>
    let (extracted, last, events) := stream.extract
    -- the output is open by now, so each failure from here on removes it
    match faults.closing (extracted.bind fun table =>
        (opened.writeTable place .chunk output faults.write table).map fun after => (table, after)) with
    | .error failure =>
      let (after, more) := opened.discard output
      (.error failure, after, last, events ++ more)
    | .ok (table, after) =>
      (.ok table.rowCount, after, last,
        events ++ [.info "dataset_written"
          [("path", .text output.text), ("rows", .ofNat table.rowCount)]])

end FileStore

end SourceIndex
