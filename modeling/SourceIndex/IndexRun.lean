import SourceIndex.Collection
import SourceIndex.Embedding
import SourceIndex.Text.Glob

/-! # Indexing a directory tree

An index run chunks a directory tree, embeds the chunks and loads them into a store.  It keeps
both datasets in a workspace, and announces each stage when it begins and when it ends. -/
set_option autoImplicit false
namespace SourceIndex

inductive Stage where
  | chunkStarted
  | chunkCompleted
  | embeddingStarted
  | embeddingCompleted
  | insertStarted
  | insertCompleted
  deriving DecidableEq, Repr

def Stage.text : Stage → String
  | .chunkStarted => "chunk_started"
  | .chunkCompleted => "chunk_completed"
  | .embeddingStarted => "embedding_started"
  | .embeddingCompleted => "embedding_completed"
  | .insertStarted => "insert_started"
  | .insertCompleted => "insert_completed"

inductive Notice where
  | stage (stage : Stage)
  | skipped (file : SkippedFile)
  | embedded (done total : Nat)
  | inserted (done total : Nat)
  | handedOver (table : Table)
  | event (event : Event)
  | call (call : ServerCall)

def Occurrence.notice : Occurrence → Notice
  | .event happened => .event happened
  | .call made => .call made
  | .progress done total => .inserted done total

/-- The callbacks of a run.  The one for stages may give up at a stage. -/
structure IndexCallbacks where
  stage : Option (Stage → Bool) := none
  skip : Bool := false
  embed : Bool := false
  insert : Bool := false

/-- There is a callback for a notice, or it needs none. -/
def IndexCallbacks.hears (callbacks : IndexCallbacks) : Notice → Bool
  | .stage _ => callbacks.stage.isSome
  | .skipped _ => callbacks.skip
  | .embedded .. => callbacks.embed
  | .inserted .. => callbacks.insert
  | _ => true

inductive IndexTarget where
  | vectors (store : VectorStore)
  /-- A store that takes the table as a whole. -/
  | whole (collection : String)

def IndexTarget.collection : IndexTarget → String
  | .vectors store => store.collection
  | .whole collection => collection

structure IndexSetup where
  root : Path
  workspace : Path
  stream : Stream
  client : Except Failure ValueClient × List Event
  batchSize : Nat
  target : IndexTarget
  callbacks : IndexCallbacks
  faults : DatasetName → SinkFaults

/-- What a run is given, where the settings tell all that is not given: the workspace, the names
that are left out, the number of texts in a batch, and the vector store to load into. -/
def IndexSetup.make (settings : Settings) (root : Folder) (shelf : LanguageShelf)
    (workspace : Option Path) (ignored : Option (List String))
    (client : Except Failure ValueClient × List Event) (target : IndexTarget)
    (callbacks : IndexCallbacks) (faults : DatasetName → SinkFaults) : IndexSetup where
  root := root.path
  workspace := workspace.getD settings.workspaceRoot
  stream :=
    Stream.start root (Glob.anyAccepts (ignored.getD settings.ignorePatterns)) shelf
      (some fun _ => false)
  client
  batchSize := settings.embeddingBatch none
  target
  callbacks
  faults

structure IndexResult where
  root : Path
  chunkCount : Nat
  embeddingsIndexed : Nat
  collection : String
  chunksPath : Path
  embeddingsPath : Path
  skipped : List SkippedFile
  deriving DecidableEq, Repr

structure IndexProgress where
  files : FileStore
  notices : List Notice := []

abbrev IndexRun := ExceptT Failure (StateM IndexProgress)

namespace IndexRun

def tell (notices : List Notice) : IndexRun Unit :=
  modify fun progress => { progress with notices := progress.notices ++ notices }

def announce (callbacks : IndexCallbacks) (stage : Stage) : IndexRun Unit := do
  tell [.stage stage]
  match callbacks.stage with
  | some givesUp => if givesUp stage then throw .stageCallback
  | none => pure ()

def chunksPath (workspace : Path) : Path := workspace.child "chunks.parquet"

def embeddingsPath (workspace : Path) : Path := workspace.child "embeddings.parquet"

def openWorkspace (workspace : Path) : IndexRun Unit := do
  match (← get).files.ensureDirectory workspace with
  | .error cause => throw (.fileSystem cause)
  | .ok files => modify fun progress => { progress with files }

def chunk (setup : IndexSetup) : IndexRun (Nat × List SkippedFile) := do
  let (result, files, last, events) :=
    (← get).files.writeChunks setup.stream (chunksPath setup.workspace) (setup.faults .chunk)
  modify fun progress => { progress with files }
  tell (events.map .event ++ last.reported.map .skipped)
  -- files and notices are kept by now, also where the failure is passed on
  let rows ← result
  return (rows, last.reported)

/-- Embed the chunks in the workspace.  The client is made before any file is touched. -/
def embed (setup : IndexSetup) : IndexRun Unit := do
  let (client, made) := setup.client
  tell (made.map .event)
  let client ← client
  let (result, files, trace, events) :=
    (← get).files.embedDataset (chunksPath setup.workspace).text (embeddingsPath setup.workspace)
      (.ok client, []) setup.batchSize (setup.faults .embedding)
  modify fun progress => { progress with files }
  tell (events.map .event ++ trace.progress.map fun (done, total) => .embedded done total)
  let _ ← result
  return ()

def load (setup : IndexSetup) : IndexRun Nat := do
  let files := (← get).files
  let source := (embeddingsPath setup.workspace).text
  match setup.target with
  | .vectors store =>
    let (result, _, occurrences) := store.indexDataset files source
    tell (occurrences.map Occurrence.notice)
    result
  | .whole _ =>
    let table ← files.readDataset source
    tell [.handedOver table, .inserted table.rowCount table.rowCount]
    return table.rowCount

def finished (result : IndexResult) : Event :=
  .info "directory_indexed"
    [("root", .text result.root.text), ("chunks", .ofNat result.chunkCount),
      ("inserted", .ofNat result.embeddingsIndexed), ("skipped", .ofNat result.skipped.length),
      ("collection", .text result.collection)]

def stages (setup : IndexSetup) : IndexRun IndexResult := do
  openWorkspace setup.workspace
  announce setup.callbacks .chunkStarted
  let (rows, skipped) ← chunk setup
  announce setup.callbacks .chunkCompleted
  announce setup.callbacks .embeddingStarted
  embed setup
  announce setup.callbacks .embeddingCompleted
  announce setup.callbacks .insertStarted
  let inserted ← load setup
  announce setup.callbacks .insertCompleted
  let result : IndexResult :=
    { root := setup.root, chunkCount := rows, embeddingsIndexed := inserted,
      collection := setup.target.collection, chunksPath := chunksPath setup.workspace,
      embeddingsPath := embeddingsPath setup.workspace, skipped }
  tell [.event (finished result)]
  return result

end IndexRun

/-- Index a directory tree: the result, the files afterwards, and what was noticed. -/
def indexDirectory (files : FileStore) (setup : IndexSetup) :
    Except Failure IndexResult × FileStore × List Notice :=
  let (result, progress) := StateT.run (ExceptT.run (IndexRun.stages setup)) { files }
  (result, progress.files, progress.notices.filter setup.callbacks.hears)

end SourceIndex
