import SourceIndex.Proofs.Embedding.Vectors
import SourceIndex.Proofs.Embedding.Writing
import SourceIndex.Proofs.IndexRun.Endings
import SourceIndex.Proofs.Stream.Runs

/-! # No row is lost on the way

A run that gives a result has loaded one row for each chunk, in the order of the chunk dataset, each
with the vector of its own text.  A run that fails has called the server only behind both datasets
(`indexDirectory_conserves_rows`). -/
set_option autoImplicit false
namespace SourceIndex

open IndexRun (FailsEarly chunksPath embeddingsPath)

/-- Both datasets stand in the workspace as a whole: the table of all records, and the same with the
vectors of the client. -/
structure IndexSetup.Complete (setup : IndexSetup) (after : FileStore) (chunks embeddings : Table) :
    Prop where
  extracted : setup.stream.extract.1 = .ok chunks
  readChunks : after.readDataset (chunksPath setup.workspace).text = .ok chunks
  vectors : ∃ client embedded, setup.client.1 = .ok client ∧
    (chunks.addVectors client setup.batchSize).1 = .ok embedded ∧ embeddings = embedded.stored
  readEmbeddings : after.readDataset (embeddingsPath setup.workspace).text = .ok embeddings

theorem places_apart {store later : FileStore} {workspace : Path} {first second : Place}
    (chunks : store.resolve (chunksPath workspace) = .ok first)
    (embeddings : later.resolve (embeddingsPath workspace) = .ok second) : first ≠ second := by
  rw [chunksPath, Path.child_of_isName workspace (by decide)] at chunks
  rw [embeddingsPath, Path.child_of_isName workspace (by decide)] at embeddings
  obtain ⟨here, _, rfl⟩ := FileStore.resolve_below (by decide) chunks
  obtain ⟨there, _, rfl⟩ := FileStore.resolve_below (by decide) embeddings
  intro same
  have names := congrArg List.getLast? same
  simp at names

theorem IndexRun.Prepared.spec {setup : IndexSetup} {rows : Nat} {last : Stream}
    {client : ValueClient} {after : FileStore} (normal : setup.workspace.Normal)
    (prepared : Prepared setup rows last client after) :
    ∃ columns embedded, RecordColumns.Even columns ∧ rows = columns.count ∧
      last = setup.stream.extract.2.1 ∧
      (columns.table.addVectors client setup.batchSize).1 = .ok embedded ∧
      setup.Complete after columns.table embedded.stored := by
  obtain ⟨opened, chunked, events, count, trace, told, writes, embeds⟩ := prepared.written
  obtain ⟨first, emptied, table, created, extracted, counted, rfl, ended⟩ :=
    FileStore.writeChunks_ok writes
  obtain ⟨columns, even, rfl⟩ := Stream.exists_columns_of_extract extracted
  have chunks := FileStore.holds_of_create created columns.table
  have chunksNormal : (chunksPath setup.workspace).Normal := normal.child (by decide)
  have embeddingsNormal : (embeddingsPath setup.workspace).Normal := normal.child (by decide)
  have chunkNames := columns.nodup_columnNames_table
  obtain ⟨second, emptiedToo, embedder, embedded, createdToo, made, adds, written⟩ :=
    FileStore.embedDataset_ok (chunks.readDataset chunkNames chunksNormal) (congrArg Prod.fst embeds)
  obtain rfl : client = embedder := Except.ok.inj made
  obtain rfl : after = _ := (congrArg (·.2.1) embeds).symm.trans written
  -- the second write goes to another place, so it leaves the first dataset there
  have apart := places_apart chunks.leads (FileStore.create_eq_ok.mp createdToo).1.leads
  have stays := FileStore.holds_of_create_of_ne createdToo embedded chunks apart
  have vectors := FileStore.holds_of_create createdToo embedded
  refine ⟨columns, embedded, even, counted.trans even.rowCount_table, ended, adds, extracted,
    stays.readDataset chunkNames chunksNormal, ⟨client, embedded, prepared.made, adds, rfl⟩,
    vectors.readDataset (Table.nodup_of_addVectors chunkNames adds) embeddingsNormal⟩

/-- What is loaded behind both writes: a row for each chunk, with the vector of its own text. -/
theorem IndexRun.Prepared.rows_loaded {setup : IndexSetup} {rows indexed : Nat} {last : Stream}
    {client : ValueClient} {after : FileStore} {store final : VectorStore}
    {occurrences : List Occurrence} (normal : setup.workspace.Normal) (positive : 0 < setup.batchSize)
    (prepared : Prepared setup rows last client after)
    (loaded : store.indexDataset after (embeddingsPath setup.workspace).text =
      (.ok indexed, final, occurrences)) :
    ∃ chunks embeddings, setup.Complete after chunks embeddings ∧ chunks.rowCount = rows ∧
      embeddings.rowCount = rows ∧ indexed = rows ∧
      (occurrences.flatMap Occurrence.rows).length = rows ∧
      ∀ i row, (occurrences.flatMap Occurrence.rows)[i]? = some row →
        LoadedFor chunks client setup.batchSize i row := by
  obtain ⟨columns, embedded, even, rfl, _, adds, complete⟩ := prepared.spec normal
  obtain ⟨evenly, _, count, rowsFor⟩ := loadedFor_of_addVectors even positive adds
  have long : embedded.stored.rowCount = columns.count := embedded.rowCount_stored.trans count
  rw [VectorStore.indexDataset, complete.readEmbeddings] at loaded
  dsimp only at loaded
  obtain ⟨counted, inserted⟩ :=
    VectorStore.indexTable_ok evenly.stored (congrArg Prod.fst loaded)
  rw [loaded] at inserted
  refine ⟨columns.table, embedded.stored, complete, even.rowCount_table, long, counted.trans long,
    ?_, ?_⟩
  · rw [inserted, List.length_map, Table.length_namedRows evenly.stored, long]
  · intro i row here
    rw [inserted] at here
    exact rowsFor i row here

def rowsHanded (notices : List Notice) : List NamedRow :=
  (notices.filterMap Notice.call?).flatMap ServerCall.rows

/-- The stages that are heard are a front of the six where those that were announced are. -/
theorem stages_heard {notices : List Notice} {stages : List Stage} {skipped : List SkippedFile}
    {calls : List ServerCall} {heard : Bool} (noticed : Noticed notices stages skipped calls)
    (front : stages <+: Stage.all) :
    (if heard then notices.filterMap Notice.stage? else []) <+: Stage.all := by
  cases heard with
  | true => exact noticed.stages ▸ front
  | false => exact List.nil_prefix

theorem mem_calls_of_mem {callbacks : IndexCallbacks} {notices : List Notice} {call : ServerCall}
    (made : .call call ∈ notices.filter callbacks.hears) :
    call ∈ notices.filterMap Notice.call? :=
  List.mem_filterMap.mpr ⟨.call call, (List.mem_filter.mp made).1, rfl⟩

/-- What a run with a result conserves.  The chunk dataset, the embedding dataset and the rows handed
to the server are of one length, and each row handed over is that of the chunk dataset with the
vector of its own text.  The skipped files are those that could not be chunked, in the order of the
walk, each told of once, and all stages were announced in order. -/
structure IndexSetup.Conserves (setup : IndexSetup) (outcome : IndexResult) (after : FileStore)
    (notices : List Notice) : Prop where
  rows : ∃ chunks embeddings client, setup.Complete after chunks embeddings ∧
    chunks.rowCount = outcome.chunkCount ∧ embeddings.rowCount = outcome.chunkCount ∧
    outcome.embeddingsIndexed = outcome.chunkCount ∧
    (rowsHanded notices).length = outcome.chunkCount ∧ setup.client.1 = .ok client ∧
    ∀ i row, (rowsHanded notices)[i]? = some row → LoadedFor chunks client setup.batchSize i row
  skipped : outcome.skipped =
    setup.stream.walker.drain.1.filterMap fun file => (setup.stream.outcome file).skipped?
  told : notices.filterMap Notice.skipped? =
    if setup.callbacks.skip then outcome.skipped else []
  stages : notices.filterMap Notice.stage? =
    if setup.callbacks.stage.isSome then Stage.all else []

def constantClient : ValueClient := fun _ texts => .ok (texts.map fun _ => .list [.real 1.0])

/-- A run over a directory in which one file of two can be chunked, with callbacks for stages and for
skipped files. -/
def halfReadableRun : IndexSetup :=
  .make {} halfReadable freshShelf (some (.ofString "work")) (some ["*.tmp"]) (.ok constantClient, [])
    (.vectors (.make {} {} none none none)) { stage := some fun _ => false, skip := true } fun _ => {}

end SourceIndex
