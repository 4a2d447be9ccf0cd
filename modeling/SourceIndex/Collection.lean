import SourceIndex.Collection.Server
import SourceIndex.Embedding.Batches
import SourceIndex.FileStore
import SourceIndex.Settings
import SourceIndex.Value.Conversion

/-! # The vector store

The vector store loads tables into one collection of a server.  The collection is made from the
first table with rows if it is not there; later tables are appended to it.  Rows are inserted
in batches, and the texts in them are cut to the limit of the collection. -/
set_option autoImplicit false
namespace SourceIndex

structure VectorStore where
  server : Server
  address : String
  collection : String
  metric : String
  user : String
  password : String
  batchSize : Nat
  connection : Option Connection := none

namespace VectorStore

def make (server : Server) (settings : Settings) (address collection metric : Option String) :
    VectorStore where
  server
  address := orElseText address settings.milvusUri
  collection := orElseText collection settings.milvusCollection
  metric := metric.getD "IP"
  user := settings.milvusUsername.getD ""
  password := settings.milvusPassword.getD ""
  batchSize := atLeastOne settings.milvusInsertBatchSize

def collectionField (store : VectorStore) : String × Value := ("collection", .text store.collection)

def connect (store : VectorStore) : Except Failure Connection × VectorStore × List Occurrence :=
  match store.connection with
  | some connection => (.ok connection, store, [])
  | none =>
    let occurrences : List Occurrence :=
      [.event (.info "connecting_milvus" [("uri", .text store.address)]),
        .call (.connect store.address store.user store.password)]
    if store.server.reachable then
      let connection : Connection := { hasCollection := store.server.hasCollection }
      (.ok connection, { store with connection := some connection }, occurrences)
    else (.error (.foreign .runtime "connect failed"), store, occurrences)

def connected (store : VectorStore) : Except Failure Connection :=
  match store.connection with
  | some connection => .ok connection
  | none => .error .notConnected

/-- Ask whether the collection exists.  A refusal to tell counts as no. -/
def probe (store : VectorStore) (connection : Connection) : Except Failure Bool × List Occurrence :=
  let call : Occurrence := .call (.probe store.collection)
  match store.server.probe with
  | .truthful => (.ok connection.hasCollection, [call])
  | .always answer => (.ok answer, [call])
  | .refused =>
    (.ok false,
      [call, .event (.warning "milvus_collection_probe_failed"
        [store.collectionField, ("error", .text refusalText)])])
  | .crashes => (.error (.foreign .runtime "probe crashed"), [call])

def collectionExists (store : VectorStore) : Except Failure Bool × List Occurrence :=
  match store.connected with
  | .error failure => (.error failure, [])
  | .ok connection => store.probe connection

def createCollection (store : VectorStore) (connection : Connection) (table : Table) :
    Except Failure Connection × List Occurrence :=
  match table.collectionSchema with
  | .error failure => (.error failure, [])
  | .ok schema =>
    (.ok { connection with hasCollection := true },
      [.event (.info "creating_milvus_collection"
          [store.collectionField, ("fields", .list (table.columnNames.map .text))]),
        .call (.create store.collection schema table.vectorColumns store.metric)])

def prepareCollection (store : VectorStore) (connection : Connection) (table : Table) :
    Except Failure Connection × List Occurrence :=
  match store.probe connection with
  | (.error failure, occurrences) => (.error failure, occurrences)
  | (.ok true, occurrences) =>
    (.ok connection,
      occurrences ++ [.event (.info "appending_to_milvus_collection" [store.collectionField])])
  | (.ok false, occurrences) =>
    let (result, more) := store.createCollection connection table
    (result, occurrences ++ more)

/-- Insert batches in order, with `inserted` of `total` rows before them.  A batch that fails
ends it, and is not kept. -/
def insertBatches (store : VectorStore) (total : Nat) (inserted : Nat) (connection : Connection) :
    List (List NamedRow) → Except Failure Nat × Connection × List Occurrence
  | [] => (.ok inserted, connection, [])
  | batch :: rest =>
    let counted := { connection with inserts := connection.inserts + 1 }
    -- an insert that fails has its number too, but neither a call nor a report is seen of it
    if store.server.insertFails counted.inserts then
      (.error (.foreign .runtime "insert failed"), counted, [])
    else
      let (result, last, more) := insertBatches store total (inserted + batch.length) counted rest
      (result, last,
        .call (.insert store.collection batch) :: .progress (inserted + batch.length) total :: more)

/-- Insert the rows of a table, cut to the limit of texts.  Where they cannot be cut, none is
inserted. -/
def insertRows (store : VectorStore) (connection : Connection) (table : Table) :
    Except Failure Nat × Connection × List Occurrence :=
  let fitted := fitRows table.textColumns table.namedRows
  match fitted.failure with
  | some failure => (.error failure, connection, fitted.events.map .event)
  | none =>
    let rows := fitted.value
    let (result, last, more) :=
      store.insertBatches rows.length 0 connection (batchesOf store.batchSize rows)
    (result, last,
      fitted.events.map .event
        ++ .event (.info "inserting_rows" [store.collectionField, ("count", .ofNat rows.length)])
          :: .progress 0 rows.length :: more)

/-- Load a table into the collection, and give the number of rows inserted.  A table without
rows changes nothing, since it does not tell how long its vectors are. -/
def indexTable (store : VectorStore) (table : Table) :
    Except Failure Nat × VectorStore × List Occurrence :=
  match store.connect with
  | (.error failure, after, occurrences) => (.error failure, after, occurrences)
  | (.ok connection, after, occurrences) =>
    if table.rowCount = 0 then
      (.ok 0, after,
        occurrences ++ [.event (.info "no_rows_to_index" [store.collectionField]), .progress 0 0])
    else
      match after.prepareCollection connection table with
      | (.error failure, more) => (.error failure, after, occurrences ++ more)
      | (.ok prepared, more) =>
        let (result, last, rest) := after.insertRows prepared table
        -- what was inserted before a failure stays inserted
        (result, { after with connection := some last }, occurrences ++ more ++ rest)

def indexDataset (store : VectorStore) (files : FileStore) (source : String) :
    Except Failure Nat × VectorStore × List Occurrence :=
  match files.readDataset source with
  | .error failure => (.error failure, store, [])
  | .ok table => store.indexTable table

/-- The number of rows that an answer of the server tells of; none if the answer is empty. -/
def countOf (answer : Value) : Except Failure Int :=
  if !answer.isTrue then .ok 0
  else
    match answer with
    | .list (.table entries :: _) =>
      match Value.lookup "count(*)" entries with
      | some v => v.toInteger
      | none => .error (.missingEntry "count(*)")
    | .table _ => .error (.missingEntry "0")
    | _ => .error .badType

def count (store : VectorStore) : Except Failure Int × List Occurrence :=
  match store.connected with
  | .error failure => (.error failure, [])
  | .ok _ => (countOf store.server.queryAnswer, [.call (.query store.collection)])

def search (store : VectorStore) (vector : Value) (field : String) (limit : Int) :
    Except Failure Value × List Occurrence :=
  match store.connected with
  | .error failure => (.error failure, [])
  | .ok _ =>
    (.ok store.server.searchAnswer, [.call (.search store.collection vector field limit)])

def close (store : VectorStore) : VectorStore × List Occurrence :=
  match store.connection with
  | none => (store, [])
  | some _ => ({ store with connection := none }, [.call .close])

end VectorStore

end SourceIndex
