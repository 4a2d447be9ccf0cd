import SourceIndex.Proofs.Dataset.ChunkTable
import SourceIndex.Proofs.Dataset.Places
import SourceIndex.Proofs.Stream.Pulls
import SourceIndex.Text.Glob

/-! # Writing the chunk dataset

The chunk dataset is written as a whole or not at all (`writeChunks_all_or_nothing`): what is read
back is the table of all records, and nothing stays behind when anything went wrong. -/
set_option autoImplicit false
namespace SourceIndex

def tableOf (records : List Record) : Except Failure Table :=
  (RecordColumns.extend {} records).toTable

namespace Stream

theorem extract_eq (stream : Stream) :
    stream.extract.1 = match stream.drain.2.1 with
      | some failure => .error failure
      | none => tableOf stream.drain.1 := by
  unfold extract collect tableOf
  cases failed : stream.drain.2.1 <;> simp [failed]

/-- Whatever an extraction gives, the stream is closed behind it. -/
theorem extract_last (stream : Stream) : stream.extract.2.1 = stream.drain.2.2.1.close := by
  unfold extract collect
  cases stream.drain with
  | mk records rest =>
      obtain ⟨failure, last, events⟩ := rest
      cases failure <;> rfl

/-- A table that is extracted is that of all records in the directory tree, whatever the callback. -/
theorem extract_start {root : Folder} {ignored : String → Bool} {shelf : LanguageShelf}
    {onSkip : Option SkipCallback} {table : Table}
    (extracted : (start root ignored shelf onSkip).extract.1 = .ok table) :
    tableOf ((root.visit ignored).flatMap fun file => (FileOutcome.of shelf.opened file).records) =
      .ok table := by
  rw [extract_eq] at extracted
  cases whole : (start root ignored shelf onSkip).drain.2.1 with
  | some failure => simp [whole] at extracted
  | none =>
      have records := (drain_of_none rfl whole).1
      have files : (start root ignored shelf onSkip).walker.filesLeft = root.visit ignored :=
        Walker.filesLeft_start root ignored
      rw [files] at records
      rw [whole, records] at extracted
      exact extracted

theorem exists_columns_of_extract {stream : Stream} {table : Table}
    (extracted : stream.extract.1 = .ok table) :
    ∃ columns : RecordColumns, columns.Even ∧ table = columns.table := by
  rw [extract_eq] at extracted
  cases whole : stream.drain.2.1 with
  | some failure => simp [whole] at extracted
  | none =>
      rw [whole] at extracted
      have fresh : RecordColumns.Even {} := by constructor <;> rfl
      exact ⟨_, fresh.extend _, RecordColumns.eq_table_of_toTable extracted⟩

theorem nodup_of_extract {stream : Stream} {table : Table}
    (extracted : stream.extract.1 = .ok table) : table.columnNames.Nodup := by
  obtain ⟨columns, _, rfl⟩ := exists_columns_of_extract extracted
  exact columns.nodup_columnNames_table

theorem stored_of_extract {stream : Stream} {table : Table}
    (extracted : stream.extract.1 = .ok table) : table.stored = table := by
  obtain ⟨columns, _, rfl⟩ := exists_columns_of_extract extracted
  exact columns.stored_table

end Stream

/-- Behind an extraction the callback has been told of all files that cannot be chunked, in the order
of the walk. -/
theorem Stream.reported_extract {root : Folder} {ignored : String → Bool} {shelf : LanguageShelf}
    {onSkip : Option SkipCallback} {table : Table}
    (extracted : (start root ignored shelf onSkip).extract.1 = .ok table) :
    (start root ignored shelf onSkip).extract.2.1.reported =
      if onSkip.isSome then
        (root.visit ignored).filterMap fun file => (FileOutcome.of shelf.opened file).skipped?
      else [] := by
  rw [extract_eq] at extracted
  rw [extract_last]
  cases whole : (start root ignored shelf onSkip).drain.2.1 with
  | some failure => simp [whole] at extracted
  | none =>
      have reported := (drain_of_none rfl whole).2.reported
      have files : (start root ignored shelf onSkip).walker.filesLeft = root.visit ignored :=
        Walker.filesLeft_start root ignored
      rw [files] at reported
      exact reported

/-- How a fault surfaces: as a failure of the dataset, unless it is of no known kind. -/
def WriteFault.SurfacesAs (failure : Failure) : WriteFault → Prop
  | .fileSystem _ => failure.kind = .dataset
  | .format _ => failure.kind = .dataset
  | .other inner => failure = inner

theorem WriteFault.surfacesAs_failure (fault : WriteFault) (dataset : DatasetName) (path : Path) :
    fault.SurfacesAs (fault.failure dataset path) := by
  cases fault <;> rfl

/-- Why records are not stored behind an opened output: it cannot be closed, the table of them cannot
be had, or it cannot be written. -/
inductive WritingFails (extracted : Except Failure Table) (faults : SinkFaults) (failure : Failure) :
    Prop where
  | notClosed {cause : OsError} (faulty : faults.close = some cause)
      (passed : failure = .fileSystem cause)
  | noTable (closes : faults.close = none) (fails : extracted = .error failure)
  | notWritten {table : Table} {wrong : WriteFault} (closes : faults.close = none)
      (given : extracted = .ok table) (faulty : faults.write = some wrong)
      (surfaces : wrong.SurfacesAs failure)

namespace SinkFaults

variable {α : Type} {faults : SinkFaults}

theorem closing_of_some {cause : OsError} (faulty : faults.close = some cause)
    (given : Except Failure α) : faults.closing given = .error (.fileSystem cause) := by
  rw [closing, faulty]

theorem closing_of_none (closes : faults.close = none) (given : Except Failure α) :
    faults.closing given = given := by
  rw [closing, closes]

end SinkFaults

namespace FileStore

theorem writeChunks_of_create_error {files : FileStore} {output : Path} {cause : OsError}
    (shut : files.create output = .error cause) (stream : Stream) (faults : SinkFaults) :
    files.writeChunks stream output faults =
      (.error (.cannotCreate output cause), files, stream, []) := by
  simp [writeChunks, shut]

/-- The table of a stream, written into an open output that is then closed. -/
def tableWritten (opened : FileStore) (place : Place) (stream : Stream) (output : Path)
    (faults : SinkFaults) : Except Failure (Table × FileStore) :=
  faults.closing (stream.extract.1.bind fun table =>
    (opened.writeTable place .chunk output faults.write table).map fun after => (table, after))

theorem tableWritten_cases (opened : FileStore) (place : Place) (stream : Stream) (output : Path)
    (faults : SinkFaults) :
    (∃ failure, opened.tableWritten place stream output faults = .error failure ∧
      WritingFails stream.extract.1 faults failure) ∨
    ∃ table, opened.tableWritten place stream output faults =
        .ok (table, opened.put place (.dataset table)) ∧
      stream.extract.1 = .ok table ∧ faults.write = none ∧ faults.close = none := by
  unfold tableWritten
  cases closes : faults.close with
  | some cause => exact .inl ⟨_, SinkFaults.closing_of_some closes _, .notClosed closes rfl⟩
  | none =>
      rw [SinkFaults.closing_of_none closes]
      cases extracted : stream.extract.1 with
      | error failure => exact .inl ⟨failure, rfl, .noTable closes rfl⟩
      | ok table =>
          cases faulty : faults.write with
          | none => exact .inr ⟨table, rfl, rfl, rfl, rfl⟩
          | some wrong =>
              have surfaces := wrong.surfacesAs_failure .chunk output
              exact .inl ⟨_, rfl, .notWritten closes rfl faulty surfaces⟩

section
variable {files opened : FileStore} {output : Path} {place : Place} (stream : Stream)
  (faults : SinkFaults) (created : files.create output = .ok (place, opened))
include created

theorem writeChunks_of_tableWritten_error {failure : Failure}
    (fails : opened.tableWritten place stream output faults = .error failure) :
    (files.writeChunks stream output faults).1 = .error failure ∧
      (files.writeChunks stream output faults).2.1.find? output = none := by
  obtain ⟨⟨file, _⟩, rfl⟩ := create_eq_ok.mp created
  unfold tableWritten at fails
  simp [writeChunks, created, fails, file.find?_discard]

theorem writeChunks_of_tableWritten {table : Table} {after : FileStore}
    (writes : opened.tableWritten place stream output faults = .ok (table, after)) :
    (files.writeChunks stream output faults).1 = .ok table.rowCount ∧
      (files.writeChunks stream output faults).2.1 = after ∧
      (files.writeChunks stream output faults).2.2.1 = stream.extract.2.1 := by
  unfold tableWritten at writes
  simp [writeChunks, created, writes]

end

theorem writeChunks_ok {files after : FileStore} {output : Path} {stream last : Stream}
    {faults : SinkFaults} {rows : Nat} {events : List Event}
    (written : files.writeChunks stream output faults = (.ok rows, after, last, events)) :
    ∃ place opened table, files.create output = .ok (place, opened) ∧
      stream.extract.1 = .ok table ∧ rows = table.rowCount ∧
      after = opened.put place (.dataset table) ∧ last = stream.extract.2.1 := by
  cases created : files.create output with
  | error cause =>
      rw [writeChunks_of_create_error created] at written
      cases written
  | ok opening =>
      obtain ⟨place, opened⟩ := opening
      rcases opened.tableWritten_cases place stream output faults with
        ⟨failure, fails, _⟩ | ⟨table, writes, extracted, _⟩
      · have failed := (writeChunks_of_tableWritten_error stream faults created fails).1
        rw [written] at failed
        cases failed
      · obtain ⟨rows, files, ended⟩ := writeChunks_of_tableWritten stream faults created writes
        rw [written] at rows files ended
        exact ⟨place, opened, table, rfl, extracted, Except.ok.inj rows, files, ended⟩

/-- Writing the chunk dataset leaves the whole dataset or nothing behind.  An output that cannot be
opened is told of before any directory is listed, and stays as it was.  Behind that a failure is that
of closing the output, the one that extracting the table gives or the one that the fault of the
write surfaces as, and nothing stands at the output any more; without one, the table that is read
back is the extracted one. -/
theorem writeChunks_all_or_nothing (files : FileStore) (root : Folder) (patterns : List String)
    (shelf : LanguageShelf) (onSkip : Option SkipCallback) (target : String) (faults : SinkFaults) :
    let ignored := Glob.anyAccepts patterns
    let stream := Stream.start root ignored shelf onSkip
    let output := Path.ofString target
    let (result, after, last, _) := files.writeChunks stream output faults
    match files.create output with
    | .error _ =>
      (∀ place, ¬files.Openable output place) ∧
        (∃ failure, result = .error failure ∧ failure.kind = .dataset) ∧
        last.walker.opened = 0 ∧ last.reads = [] ∧ after = files
    | .ok (place, _) =>
      files.Openable output place ∧
      match result with
      | .ok rows =>
        ∃ table, stream.extract.1 = .ok table ∧ after.readDataset output.text = .ok table ∧
          rows = table.rowCount ∧ faults.write = none ∧ faults.close = none ∧
          ∀ other gathered, (Stream.start root ignored shelf other).extract.1 = .ok gathered →
            gathered = table
      | .error failure =>
        after.find? output = none ∧ WritingFails stream.extract.1 faults failure := by
  intro ignored stream output
  cases created : files.create output with
  | error cause =>
      rw [writeChunks_of_create_error created]
      exact ⟨not_openable_of_create_error created, ⟨_, rfl, rfl⟩, rfl, rfl, rfl⟩
  | ok opening =>
      obtain ⟨place, opened⟩ := opening
      have openable := (create_eq_ok.mp created).1
      rcases opened.tableWritten_cases place stream output faults with
        ⟨failure, fails, wrong⟩ | ⟨table, writes, extracted, unspoilt, closes⟩
      · obtain ⟨failed, gone⟩ := writeChunks_of_tableWritten_error stream faults created fails
        simp only [failed]
        exact ⟨openable, gone, wrong⟩
      · obtain ⟨written, after, _⟩ := writeChunks_of_tableWritten stream faults created writes
        have distinct := Stream.nodup_of_extract extracted
        have back := (holds_of_create created table).readDataset distinct
          (Path.normal_ofString target)
        rw [Stream.stored_of_extract extracted] at back
        simp only [written, after]
        refine ⟨openable, table, extracted, back, rfl, unspoilt, closes, ?_⟩
        -- another callback is told of files, but does not change what is gathered
        intro other gathered too
        have same := (Stream.extract_start too).symm.trans (Stream.extract_start extracted)
        exact Except.ok.inj same

end FileStore

end SourceIndex
