import SourceIndex.Proofs.Dataset.Writing
import SourceIndex.Proofs.Embedding.Vectors
import SourceIndex.Proofs.Table.Placement

/-! # Writing the embedding dataset

The embedding dataset is written as a whole or not at all (`embedDataset_all_or_nothing`).  The input
has been read when the output is opened, so a dataset can be embedded in its place; but then a run
that fails leaves nothing of it (`input_is_lost_in_place`).  A dataset that stands at another place
than the output stays as it was (`embedDataset_failed_input`). -/
set_option autoImplicit false
namespace SourceIndex

/-! ## What is read back -/

namespace ColumnType

/-- The type with the items of its lists named as in a stored dataset. -/
def withElements : ColumnType → ColumnType
  | .list shape _ inner => .list shape .element inner.withElements
  | .group inner => .group inner.withElements
  | .dictionary inner => .dictionary inner.withElements
  | other => other

theorem stored_stored (type : ColumnType) :
    type.stored.stored = type.stored ∧ type.stored.withElements = type.stored := by
  induction type with
  | list shape items inner ih => simp [stored, withElements, ih]
  | group inner ih => simp [stored, withElements, ih]
  | dictionary inner ih => cases inner <;> simp_all [stored, withElements]
  | _ => exact ⟨rfl, rfl⟩

end ColumnType

namespace Table

/-- The table with the items of all lists named as in a stored dataset. -/
def withElements (table : Table) : Table :=
  ⟨table.columns.map fun column => { column with type := column.type.withElements }⟩

theorem mem_setColumn {table : Table} {column other : Column}
    (among : other ∈ (table.setColumn column).columns) : other ∈ table.columns ∨ other = column := by
  unfold setColumn at among
  split at among
  · exact List.mem_or_eq_of_mem_set among
  · simpa using among

def Read (table : Table) : Prop := ∀ column ∈ table.columns, column.type.stored = column.type

theorem read_stored (table : Table) : table.stored.Read := by
  intro column among
  obtain ⟨made, _, rfl⟩ := List.mem_map.mp among
  exact (ColumnType.stored_stored made.type).1

/-- A table that was read and then given its vectors is read back with other names of the items. -/
theorem stored_setColumn {table : Table} (read : table.Read) {column : Column}
    (vectors : column.type = vectorType) :
    (table.setColumn column).stored = (table.setColumn column).withElements := by
  refine congrArg Table.mk (List.map_congr_left ?_)
  intro other among
  have same : other.type.stored = other.type.withElements := by
    rcases mem_setColumn among with old | rfl
    · rw [← read other old, (ColumnType.stored_stored other.type).1,
        (ColumnType.stored_stored other.type).2]
    · rw [vectors]
      rfl
  rw [same]

theorem stored_of_addVectors {table embedded : Table} {client : ValueClient} {size : Nat}
    (read : table.Read) (ok : (table.addVectors client size).1 = .ok embedded) :
    embedded.stored = embedded.withElements := by
  obtain ⟨texts, vectors, kept, _, _, _, rfl⟩ := addVectors_ok ok
  exact stored_setColumn read rfl

theorem nodup_of_addVectors {table embedded : Table} {client : ValueClient} {size : Nat}
    (distinct : table.columnNames.Nodup) (ok : (table.addVectors client size).1 = .ok embedded) :
    embedded.columnNames.Nodup := by
  obtain ⟨texts, vectors, kept, _, _, _, rfl⟩ := addVectors_ok ok
  exact nodup_columnNames_setColumn _ distinct

end Table

namespace FileStore

/-- What is read has been stored, and its columns have names of their own. -/
theorem of_readDataset_ok {store : FileStore} {source : String} {table : Table}
    (read : store.readDataset source = .ok table) : table.Read ∧ table.columnNames.Nodup := by
  obtain ⟨_, made, _, _, _, distinct, rfl⟩ := readDataset_eq_ok.mp read
  exact ⟨made.read_stored, made.columnNames_stored ▸ distinct⟩

theorem error_of_readDataset {store : FileStore} {source : String} {failure : Failure}
    (unread : store.readDataset source = .error failure) : failure = .cannotRead source := by
  unfold readDataset at unread
  split at unread
  · exact (Except.error.inj unread).symm
  · split at unread
    · split at unread
      · cases unread
      · exact (Except.error.inj unread).symm
    · exact (Except.error.inj unread).symm

/-! ## Runs that get to the output -/

/-- Why a table that was read is not stored with its vectors behind an opened output: the output cannot
be closed, there is no client, the vectors cannot be had, or the table cannot be written. -/
inductive EmbeddingFails (client : Except Failure ValueClient) (size : Nat) (faults : SinkFaults)
    (table : Table) (failure : Failure) : Prop where
  | notClosed {cause : OsError} (faulty : faults.close = some cause)
      (passed : failure = .fileSystem cause)
  | noClient (closes : faults.close = none) (unmade : client = .error failure)
  | noVectors {embedder : ValueClient} (closes : faults.close = none) (made : client = .ok embedder)
      (fails : (table.addVectors embedder size).1 = .error failure)
  | notWritten {embedder : ValueClient} {embedded : Table} {wrong : WriteFault}
      (closes : faults.close = none) (made : client = .ok embedder)
      (embeds : (table.addVectors embedder size).1 = .ok embedded)
      (faulty : faults.write = some wrong) (surfaces : wrong.SurfacesAs failure)

/-- The table with its vectors, written into an open output that is then closed. -/
def embeddingWritten (opened : FileStore) (place : Place) (source : String) (output : Path)
    (client : Except Failure ValueClient × List Event) (size : Nat) (faults : SinkFaults)
    (table : Table) : Except Failure (FileStore × Nat) :=
  faults.closing (opened.embedInto place source output client size faults.write table).1

theorem embeddingWritten_cases (opened : FileStore) (place : Place) (source : String) (output : Path)
    (client : Except Failure ValueClient × List Event) (size : Nat) (faults : SinkFaults)
    (table : Table) :
    (∃ failure, opened.embeddingWritten place source output client size faults table =
        .error failure ∧ EmbeddingFails client.1 size faults table failure) ∨
    ∃ embedder embedded, opened.embeddingWritten place source output client size faults table =
        .ok (opened.put place (.dataset embedded), embedded.rowCount) ∧
      client.1 = .ok embedder ∧ (table.addVectors embedder size).1 = .ok embedded ∧
      faults.write = none ∧ faults.close = none := by
  unfold embeddingWritten
  cases closes : faults.close with
  | some cause => exact .inl ⟨_, SinkFaults.closing_of_some closes _, .notClosed closes rfl⟩
  | none =>
      rw [SinkFaults.closing_of_none closes]
      obtain ⟨client, events⟩ := client
      cases client with
      | error cause => exact .inl ⟨cause, rfl, .noClient closes rfl⟩
      | ok embedder =>
          cases adds : table.addVectors embedder size with
          | mk result trace =>
              have first : (table.addVectors embedder size).1 = result := congrArg Prod.fst adds
              cases result with
              | error cause =>
                  refine .inl ⟨cause, ?_, .noVectors closes rfl first⟩
                  simp only [embedInto, adds]
              | ok embedded =>
                  cases faulty : faults.write with
                  | none =>
                      refine .inr ⟨embedder, embedded, ?_, rfl, first, rfl, rfl⟩
                      simp only [embedInto, adds]
                      rfl
                  | some wrong =>
                      have surfaces := wrong.surfacesAs_failure .embedding output
                      refine .inl ⟨_, ?_, .notWritten closes rfl first faulty surfaces⟩
                      simp only [embedInto, adds]
                      rfl

section
variable {store : FileStore} {source : String} {output : Path}
  {client : Except Failure ValueClient × List Event} {size : Nat} {faults : SinkFaults}
  {table : Table}

section
variable {place : Place} {opened : FileStore} (read : store.readDataset source = .ok table)
  (created : store.create output = .ok (place, opened))
include read created

theorem embedDataset_of_embeddingWritten_error {failure : Failure}
    (fails : opened.embeddingWritten place source output client size faults table =
      .error failure) :
    (store.embedDataset source output client size faults).1 = .error failure ∧
      (store.embedDataset source output client size faults).2.1 = (opened.discard output).1 := by
  unfold embeddingWritten at fails
  simp [embedDataset, read, created, fails]

theorem embedDataset_of_embeddingWritten {after : FileStore} {rows : Nat}
    (writes : opened.embeddingWritten place source output client size faults table =
      .ok (after, rows)) :
    (store.embedDataset source output client size faults).1 = .ok rows ∧
      (store.embedDataset source output client size faults).2.1 = after := by
  unfold embeddingWritten at writes
  simp [embedDataset, read, created, writes]

end

theorem embedDataset_of_unread {failure : Failure}
    (unread : store.readDataset source = .error failure) :
    store.embedDataset source output client size faults = (.error failure, store, {}, []) := by
  simp [embedDataset, unread]

theorem embedDataset_of_create_error (read : store.readDataset source = .ok table) {cause : OsError}
    (shut : store.create output = .error cause) :
    store.embedDataset source output client size faults =
      (.error (.cannotCreate output cause), store, {}, []) := by
  simp [embedDataset, read, shut]

/-- An embedding dataset that is written holds the table of its source with the column of vectors. -/
theorem embedDataset_ok {rows : Nat} (read : store.readDataset source = .ok table)
    (ok : (store.embedDataset source output client size faults).1 = .ok rows) :
    ∃ place opened embedder embedded, store.create output = .ok (place, opened) ∧
      client.1 = .ok embedder ∧ (table.addVectors embedder size).1 = .ok embedded ∧
      (store.embedDataset source output client size faults).2.1 =
        opened.put place (.dataset embedded) := by
  cases created : store.create output with
  | error cause => simp [embedDataset, read, created] at ok
  | ok opening =>
      obtain ⟨place, opened⟩ := opening
      rcases opened.embeddingWritten_cases place source output client size faults table with
        ⟨failure, fails, _⟩ | ⟨embedder, embedded, writes, made, adds, _⟩
      · rw [(embedDataset_of_embeddingWritten_error read created fails).1] at ok
        cases ok
      · exact ⟨place, opened, embedder, embedded, rfl, made, adds,
          (embedDataset_of_embeddingWritten read created writes).2⟩

end

/-- Embedding a dataset leaves the whole embedding dataset or nothing at its output.  A run that gives
a number has written the table that was read, with its vectors, and the number is that of the rows.  A
run that fails behind an opened output leaves nothing there.  A run that cannot read its input or open
its output calls no client and leaves all files as they were. -/
theorem embedDataset_all_or_nothing (store : FileStore) (source target : String)
    (client : Except Failure ValueClient × List Event) (size : Nat) (faults : SinkFaults) :
    let output := Path.ofString target
    let (result, after, trace, events) := store.embedDataset source output client size faults
    match store.readDataset source, store.create output with
    | .ok table, .ok (place, _) =>
      store.Openable output place ∧
      match result with
      | .ok rows =>
        ∃ embedder embedded, client.1 = .ok embedder ∧
          (table.addVectors embedder size).1 = .ok embedded ∧
          faults.write = none ∧ faults.close = none ∧
          after.readDataset output.text = .ok embedded.withElements ∧ rows = embedded.rowCount
      | .error failure =>
        after.find? output = none ∧ EmbeddingFails client.1 size faults table failure
    | unread, _ =>
      ((∃ failure, unread = .error failure) ∨ ∀ place, ¬store.Openable output place) ∧
        (∃ failure, result = .error failure ∧ failure.kind = .dataset) ∧
        trace.batches = [] ∧ events = [] ∧ after = store := by
  intro output
  cases read : store.readDataset source with
  | error failure =>
      rw [embedDataset_of_unread read]
      exact ⟨.inl ⟨failure, rfl⟩, ⟨failure, rfl, error_of_readDataset read ▸ rfl⟩, rfl, rfl, rfl⟩
  | ok table =>
      cases created : store.create output with
      | error cause =>
          rw [embedDataset_of_create_error read created]
          exact ⟨.inr (not_openable_of_create_error created), ⟨_, rfl, rfl⟩, rfl, rfl, rfl⟩
      | ok opening =>
          obtain ⟨place, opened⟩ := opening
          have openable := (create_eq_ok.mp created).1
          rcases opened.embeddingWritten_cases place source output client size faults table with
            ⟨failure, fails, wrong⟩ | ⟨embedder, embedded, writes, made, adds, unspoilt, closes⟩
          · obtain ⟨failed, after⟩ := embedDataset_of_embeddingWritten_error read created fails
            obtain ⟨_, rfl⟩ := create_eq_ok.mp created
            simp only [failed, after]
            exact ⟨openable, openable.find?_discard Stored.noConfusion, wrong⟩
          · obtain ⟨result, after⟩ := embedDataset_of_embeddingWritten read created writes
            obtain ⟨stored, distinct⟩ := of_readDataset_ok read
            have back := (holds_of_create created embedded).readDataset
              (Table.nodup_of_addVectors distinct adds) (Path.normal_ofString target)
            rw [Table.stored_of_addVectors stored adds] at back
            simp only [result, after]
            exact ⟨openable, embedder, embedded, made, adds, unspoilt, closes, back, rfl⟩

/-! ## The input of a run that fails -/

section
variable {store : FileStore} {source : String} {output : Path}
  {client : Except Failure ValueClient × List Event} {size : Nat} {faults : SinkFaults}
  {failure : Failure}

/-- A run that fails has left all files as they were, or opened its output and discarded it. -/
theorem embedDataset_error_cases
    (fails : (store.embedDataset source output client size faults).1 = .error failure) :
    (store.embedDataset source output client size faults).2.1 = store ∨
      ∃ table target opened, store.readDataset source = .ok table ∧
        store.create output = .ok (target, opened) ∧
        (store.embedDataset source output client size faults).2.1 = (opened.discard output).1 := by
  cases read : store.readDataset source with
  | error unread =>
      rw [embedDataset_of_unread read]
      exact .inl rfl
  | ok table =>
      cases created : store.create output with
      | error cause =>
          rw [embedDataset_of_create_error read created]
          exact .inl rfl
      | ok opening =>
          obtain ⟨target, opened⟩ := opening
          rcases opened.embeddingWritten_cases target source output client size faults table with
            ⟨cause, stops, _⟩ | ⟨embedder, embedded, writes, _⟩
          · have after := (embedDataset_of_embeddingWritten_error read created stops).2
            exact .inr ⟨table, target, opened, rfl, rfl, after⟩
          · rw [(embedDataset_of_embeddingWritten read created writes).1] at fails
            cases fails

end

/-- Opening the output empties nothing at the place of a dataset, and none of the part files below
it. -/
def Spares (store : FileStore) (source : String) (output : Path) : Prop :=
  ∀ place target opened, store.resolve (.ofString source) = .ok place →
    store.create output = .ok (target, opened) → place <+: target → store.at? target = none

/-- A dataset is read back as it was behind a run that failed to embed it, unless the output could be
opened at the place of the dataset or of one of its part files. -/
theorem embedDataset_failed_input (store : FileStore) (source target : String)
    (client : Except Failure ValueClient × List Event) (size : Nat) (faults : SinkFaults)
    {failure : Failure}
    (fails : (store.embedDataset source (.ofString target) client size faults).1 = .error failure)
    (spares : store.Spares source (.ofString target)) :
    (store.embedDataset source (.ofString target) client size faults).2.1.readDataset source =
      store.readDataset source := by
  rcases embedDataset_error_cases fails with same | ⟨table, place, opened, read, created, after⟩
  · rw [same]
  · obtain ⟨input, _, _, leads, _⟩ := readDataset_eq_ok.mp read
    obtain ⟨⟨file, _⟩, rfl⟩ := create_eq_ok.mp created
    have isFile : Stored.bytes [] ≠ .directory := Stored.noConfusion
    have parts : ((store.put place (.bytes [])).discard (.ofString target)).1.parts? =
        store.parts? := by
      rw [file.discard_put isFile]
      rfl
    rw [after]
    refine readDataset_of_sameDirectories (file.sameDirectories_discard isFile) parts leads ?_
    intro below
    refine file.at?_discard isFile ?_
    intro here
    exact spares input place _ leads created (here ▸ List.prefix_append input below)

def oneChunk : Table :=
  RecordColumns.table
    { filePaths := ["src/a.rs"], fileNames := ["a.rs"], startLines := [0], stopLines := [1],
      texts := ["a"], sizes := [1] }

def oneDataset : FileStore := empty.put ["work", "chunks.parquet"] (.dataset oneChunk)

def deadClient : ValueClient := fun _ _ => .error (.foreign .runtime "embedding service down")

theorem readDataset_oneDataset : oneDataset.readDataset "chunks.parquet" = .ok oneChunk := rfl

theorem addVectors_deadClient : (oneChunk.addVectors deadClient 32).1 =
    .error (.foreign .runtime "embedding service down") := by
  have texts : oneChunk.column? "text" = some ⟨"text", .text, [.text "a"]⟩ := rfl
  have once : oneChunk.columnNames.count "text" = 1 := by decide
  simp [Table.addVectors, texts, once, embedTexts, batchesOf, embedBatches, deadClient]

theorem embeddingWritten_deadClient (opened : FileStore) (place : Place) (output : Path) :
    opened.embeddingWritten place "chunks.parquet" output (.ok deadClient, []) 32 {} oneChunk =
      .error (.foreign .runtime "embedding service down") := by
  have dead := addVectors_deadClient
  rcases opened.embeddingWritten_cases place "chunks.parquet" output (.ok deadClient, []) 32 {}
      oneChunk with ⟨failure, fails, wrong⟩ | ⟨embedder, embedded, _, made, adds, _⟩
  · rw [fails]
    cases wrong with
    | notClosed faulty => cases faulty
    | noClient _ unmade => cases unmade
    | noVectors _ made adds =>
        cases made
        rw [dead] at adds
        exact congrArg Except.error (Except.error.inj adds).symm
    | notWritten _ _ _ faulty => cases faulty
  · cases made
    rw [dead] at adds
    cases adds

theorem embedDataset_deadClient {target : String} {place : Place} {opened : FileStore}
    (created : oneDataset.create (.ofString target) = .ok (place, opened)) :
    let run := oneDataset.embedDataset "chunks.parquet" (.ofString target) (.ok deadClient, []) 32 {}
    run.1 = .error (.foreign .runtime "embedding service down") ∧
      run.2.1 = (opened.discard (.ofString target)).1 :=
  embedDataset_of_embeddingWritten_error readDataset_oneDataset created
    (embeddingWritten_deadClient opened place (.ofString target))

theorem oneDataset_failed_input :
    let run := oneDataset.embedDataset "chunks.parquet" (.ofString "embeddings.parquet")
      (.ok deadClient, []) 32 {}
    run.1 = .error (.foreign .runtime "embedding service down") ∧
    oneDataset.Spares "chunks.parquet" (.ofString "embeddings.parquet") ∧
    oneDataset.readDataset "chunks.parquet" = .ok oneChunk ∧
    run.2.1.readDataset "chunks.parquet" = oneDataset.readDataset "chunks.parquet" := by
  intro run
  have fails : run.1 = .error (.foreign .runtime "embedding service down") :=
    (embedDataset_deadClient rfl).1
  have spares : oneDataset.Spares "chunks.parquet" (.ofString "embeddings.parquet") := by
    intro place target opened leads created _
    cases leads
    cases created
    rfl
  exact ⟨fails, spares, rfl, embedDataset_failed_input oneDataset "chunks.parquet"
    "embeddings.parquet" (.ok deadClient, []) 32 {} fails spares⟩

/-- A dataset that is embedded in its own place is lost when the client fails. -/
theorem input_is_lost_in_place :
    let run := oneDataset.embedDataset "chunks.parquet" (.ofString "chunks.parquet")
      (.ok deadClient, []) 32 {}
    oneDataset.readDataset "chunks.parquet" = .ok oneChunk ∧
    run.1 = .error (.foreign .runtime "embedding service down") ∧
    run.2.1.readDataset "chunks.parquet" = .error (.cannotRead "chunks.parquet") := by
  intro run
  have created : oneDataset.create (.ofString "chunks.parquet") =
      .ok (["work", "chunks.parquet"], oneDataset.put ["work", "chunks.parquet"] (.bytes [])) := rfl
  obtain ⟨fails, after⟩ := embedDataset_deadClient created
  refine ⟨rfl, fails, ?_⟩
  rw [show run.2.1 = _ from after]
  exact readDataset_of_find?_eq_none
    ((create_eq_ok.mp created).1.find?_discard Stored.noConfusion)

end FileStore

end SourceIndex
