import SourceIndex.Embedding.Provider
import SourceIndex.IndexRun
import SourceIndex.Logging

/-! # Reports

What the library gives is told as values, which can be written down in any format. -/
set_option autoImplicit false
namespace SourceIndex

namespace Value

def ofTexts (texts : List String) : Value := .list (texts.map .text)

def ofText? : Option String → Value
  | some s => .text s
  | none => .null

def ofPath (path : Path) : Value := .text path.text

def ofPairs (pairs : List (Nat × Nat)) : Value :=
  .list (pairs.map fun (a, b) => .list [.ofNat a, .ofNat b])

end Value

open Value (ofNat ofTexts ofText? ofPath)

def Level.text : Level → String
  | .debug => "debug"
  | .info => "info"
  | .warning => "warning"
  | .error => "error"

def Event.toValue (event : Event) : Value :=
  .list [.text event.level.text, .text event.name, .table event.fields]

def Chunk.toValue (chunk : Chunk) : Value :=
  .list [ofNat chunk.start, ofNat chunk.stop, ofNat chunk.startRow, ofNat chunk.stopRow,
    ofNat chunk.size]

def Record.toValue (record : Record) : Value :=
  .list [.text record.filePath, .text record.fileName, .integer record.startLine,
    .integer record.stopLine, ofText? record.text, .integer record.size]

def Language.toValue (language : Language) : Value :=
  .list [.text language.name, ofTexts (language.extensions.mergeSort fun a b => decide (a ≤ b)),
    ofNat language.splitter.budget]

def SkippedFile.toValue (skipped : SkippedFile) : Value :=
  ofTexts [skipped.path.text, skipped.reason]

def StreamStats.toValue (stats : StreamStats) : Value :=
  .table
    [("files_seen", ofNat stats.filesSeen), ("files_chunked", ofNat stats.filesChunked),
      ("files_unsupported", ofNat stats.filesUnsupported),
      ("files_failed", ofNat stats.filesFailed),
      ("directories_skipped", ofNat stats.directoriesSkipped),
      ("chunks_emitted", ofNat stats.chunksEmitted)]

/-- A cell of a column: a binary value is told of as the text of its bytes. -/
def ColumnType.cell : ColumnType → Value → Value
  | .binary, .list bytes =>
    let given := bytes.filterMap fun byte =>
      match byte with
      | .integer n => some (UInt8.ofNat n.toNat)
      | _ => none
    .text (String.ofList (Utf8.decode given))
  | .list _ _ inner, .list items => .list (items.map inner.cell)
  | .group inner, .table entries => .table (entries.map fun (key, v) => (key, inner.cell v))
  | .dictionary inner, v => inner.cell v
  | _, v => v

def Table.toValue (table : Table) : Value :=
  let told : Table :=
    ⟨table.columns.map fun column => { column with values := column.values.map column.type.cell }⟩
  .table
    [("schema", .list (table.columns.map fun column => ofTexts [column.name, column.type.name])),
      ("rows", .list (told.rows.map .list))]

def FieldType.toValues : FieldType → Value × Value
  | .text n => (.text "VARCHAR", .table [("max_length", ofNat n)])
  | .bool => (.text "BOOL", .table [])
  | .integer => (.text "INT64", .table [])
  | .real => (.text "DOUBLE", .table [])
  | .vector n => (.text "FLOAT_VECTOR", .table [("dim", ofNat n)])

def Field.toValue (field : Field) : Value :=
  .list [.text field.name, field.type.toValues.1, .bool field.isPrimary, field.type.toValues.2]

def CollectionSchema.toValue (schema : CollectionSchema) : Value :=
  .table
    [("auto_id", .bool true), ("dynamic", .bool false),
      ("fields", .list (schema.fields.map Field.toValue))]

def searchedColumns : List String := ["file_path", "file_name", "start_line", "end_line", "text"]

def ServerCall.toValue : ServerCall → Value
  | .connect address user password =>
    .list [.text "MilvusClient",
      .table [("uri", .text address), ("user", .text user), ("password", .text password)]]
  | .probe collection => ofTexts ["has_collection", collection]
  | .create collection schema indexed metric =>
    .list [.text "create_collection",
      .table
        [("collection_name", .text collection), ("schema", schema.toValue),
          ("index_params", .list (indexed.map fun name =>
            .table [("field_name", .text name), ("index_type", .text "AUTOINDEX"),
              ("metric_type", .text metric)])),
          ("consistency_level", .text "Strong")]]
  | .insert collection rows =>
    .list [.text "insert", .text collection, .list (rows.map .table)]
  | .query collection =>
    .list [.text "query",
      .table [("collection_name", .text collection), ("filter", .text ""),
        ("output_fields", ofTexts ["count(*)"])]]
  | .search collection vector name limit =>
    .list [.text "search",
      .table [("collection_name", .text collection), ("data", .list [vector]),
        ("anns_field", .text name), ("limit", .integer limit),
        ("output_fields", ofTexts searchedColumns)]]
  | .close => ofTexts ["close"]

def optionalEntry (key : String) : Option String → Entries
  | some s => [(key, .text s)]
  | none => []

def ClientPlan.toValue : ClientPlan → Value
  | .localModel model size =>
    .table [("class", .text "FastEmbedEmbeddings"),
      ("kwargs", .table [("model_name", .text model), ("batch_size", ofNat size)])]
  | .service model address key countsTokens =>
    .table [("class", .text "OpenAIEmbeddings"),
      ("kwargs", .table
        ([("model", .text model), ("encoding_format", .text "float")]
          ++ optionalEntry "base_url" address ++ optionalEntry "api_key" key
          ++ if countsTokens then [] else [("tiktoken_enabled", .bool false)]))]

def IndexResult.toValue (result : IndexResult) : Value :=
  .table
    [("root", ofPath result.root), ("chunk_count", ofNat result.chunkCount),
      ("embeddings_indexed", ofNat result.embeddingsIndexed),
      ("collection", .text result.collection), ("chunks_path", ofPath result.chunksPath),
      ("embeddings_path", ofPath result.embeddingsPath),
      ("skipped", .list (result.skipped.map SkippedFile.toValue))]

def Settings.toValue (s : Settings) : Value :=
  .table
    [("workspace_root", ofPath s.workspaceRoot),
      ("splitter_max_size", .integer s.splitterMaxSize),
      ("ignore_patterns", ofTexts s.ignorePatterns),
      ("embedding_provider", .text s.embeddingProvider),
      ("embedding_model", .text s.embeddingModel),
      ("embedding_batch_size", .integer s.embeddingBatchSize),
      ("embedding_api_base", ofText? s.embeddingApiBase),
      ("embedding_api_key", ofText? s.embeddingApiKey), ("milvus_uri", .text s.milvusUri),
      ("milvus_collection", .text s.milvusCollection),
      ("milvus_username", ofText? s.milvusUsername),
      ("milvus_password", ofText? s.milvusPassword),
      ("milvus_insert_batch_size", .integer s.milvusInsertBatchSize),
      ("log_level", .text s.logLevel), ("log_json", .bool s.logJson)]

def LogLayout.toValue : LogLayout → Value
  | .object => .text "JSONRenderer"
  | .console => .text "ConsoleRenderer"

def LogSink.toValue : LogSink → Value
  | .nowhere => .list [.text "NullHandler", ofNat 0, .null]
  | .console threshold layout =>
    .list [.text "StreamHandler", threshold.toValue, layout.toValue]
  | .file _ layout => .list [.text "FileHandler", ofNat 0, layout.toValue]

def Logging.toValue (logging : Logging) : Value :=
  .list [logging.threshold.toValue, .list (logging.sink.toList.map LogSink.toValue)]

/-- A line of a log: an object is told apart from a text. -/
def LogLine.toValue : LogLine → Value
  | .object entries => .list [.bool true, .table entries]
  | .text s => .text s

end SourceIndex
