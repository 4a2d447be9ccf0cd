import SourceIndex.FileStore
import SourceIndex.Settings.Acceptance
import SourceIndex.Settings.Environment
import SourceIndex.Text.Utf8
import SourceIndex.Value.Json
import SourceIndex.Value.Toml

/-! # Where the settings come from

A setting is taken from the configuration document, and else from an environment variable, and
else it has the value that holds unless others are given.  The document is the one that a
variable names, if it is there, and otherwise the one of the usual name. -/
set_option autoImplicit false
namespace SourceIndex

def documentVariable : String := "CODESPLIT_CONFIG_PATH"

def usualDocument : String := "codesplit_settings.toml"

def variableFront : String := "codesplit_"

def documentBytes? (files : FileStore) (environment : Environment) : Option (List UInt8) :=
  let named := (nonEmpty (environment.value? documentVariable)).bind fun name =>
    files.bytes? (Path.ofString name)
  match named with
  | some bytes => some bytes
  | none => files.bytes? (Path.ofString usualDocument)

/-- The configuration document; an empty one if there is none. -/
def readDocument (files : FileStore) (environment : Environment) : Except Failure Entries :=
  match documentBytes? files environment with
  | none => .ok []
  | some bytes =>
    match Utf8.decodeStrict? bytes with
    | none => .error .undecodableDocument
    | some text =>
      match Toml.read text with
      | .ok document => .ok document
      | .error .malformed => .error .malformedDocument
      | .error (.tooManyDigits digits) => .error (.tooManyDigits digits)

namespace Environment

/-- The value of a variable by its name in small letters; of several, the last. -/
def lowered? (environment : Environment) (name : String) : Option String :=
  (environment.reverse.find? fun entry => Text.lower entry.1 == name).map Prod.snd

def plainSettings : List String :=
  ["workspace_root", "splitter_max_size", "embedding_provider", "embedding_model",
    "embedding_batch_size", "embedding_api_base", "embedding_api_key", "milvus_uri",
    "milvus_collection", "milvus_username", "milvus_password", "milvus_insert_batch_size",
    "log_level", "log_json"]

def plainEntries (environment : Environment) : Entries :=
  plainSettings.filterMap fun setting =>
    (environment.lowered? (variableFront ++ setting)).map fun text => (setting, .text text)

def hasPatternPart (environment : Environment) : Bool :=
  environment.any fun entry =>
    (variableFront ++ "ignore_patterns__").toList.isPrefixOf (Text.lower entry.1).toList

/-- The ignored patterns that variables give.  The text of the variable has to be a value; a
missing value gives none, and variables for parts give a table. -/
def patternEntries (environment : Environment) : Except Failure Entries :=
  match environment.lowered? (variableFront ++ "ignore_patterns") with
  | none => .ok (if environment.hasPatternPart then [("ignore_patterns", .table [])] else [])
  | some text =>
    match Json.read? text with
    | none => .error .badSource
    | some .null => .ok []
    | some v => .ok [("ignore_patterns", v)]

def entries (environment : Environment) : Except Failure Entries :=
  environment.patternEntries.map (environment.plainEntries ++ ·)

end Environment

/-- The settings that a document and variables give.  The document comes first. -/
def Settings.ofSources (document : Entries) (environment : Environment) : Except Failure Settings :=
  match Document.flatten document with
  | .error failure => .error failure
  | .ok flattened =>
    match environment.entries with
    | .error failure => .error failure
    | .ok others => Acceptance.settings (flattened ++ others)

def Settings.load (files : FileStore) (environment : Environment) :
    Except Failure Settings × Environment :=
  match readDocument files environment with
  | .error failure => (.error failure, environment)
  | .ok document =>
    match environment.override document with
    | (some failure, after) => (.error failure, after)
    | (none, after) => (Settings.ofSources document after, after)

end SourceIndex
