import SourceIndex.Path
import SourceIndex.Text.Quoted

/-! # Failures

A failure is kept as its cause.  `Failure.kind` says of what kind it is and `Failure.message`
how it reads. -/
set_option autoImplicit false
namespace SourceIndex

inductive OsError where
  | numbered (code : Int) (reason : String) (path : Option String)
  | described (text : String)
  deriving DecidableEq, Repr

namespace OsError

def message : OsError → String
  | .numbered code reason none => "[Errno " ++ toString code ++ "] " ++ reason
  | .numbered code reason (some path) =>
    "[Errno " ++ toString code ++ "] " ++ reason ++ ": " ++ Text.quoted path
  | .described text => text

def notFound (path : String) : OsError := .numbered 2 "No such file or directory" (some path)

def alreadyThere (path : String) : OsError := .numbered 17 "File exists" (some path)

def notADirectory (path : String) : OsError := .numbered 20 "Not a directory" (some path)

def isADirectory (path : String) : OsError := .numbered 21 "Is a directory" (some path)

/-- The number of the error, zero where it has none. -/
def code : OsError → Int
  | .numbered code _ _ => code
  | .described _ => 0

end OsError

inductive FailureKind where
  | chunking
  | splitting
  | dataset
  | badValue
  | badText
  | badType
  | badAttribute
  | badKey
  | overflow
  | runtime
  | unsupported
  | recursion
  | missingModule
  | fileSystem (code : Int)
  | callback
  | badCell
  | mistypedCell
  | malformedDocument
  | undecodable
  | badSource
  | invalidSettings
  /-- Of a kind that only its name is known of. -/
  | other (name : String)
  deriving DecidableEq, Repr

inductive DatasetName where
  | chunk
  | embedding
  deriving DecidableEq, Repr

def DatasetName.text : DatasetName → String
  | .chunk => "chunk"
  | .embedding => "embedding"

inductive Failure where
  | unchunkable (path : Path) (reason : String)
  | noSyntaxTree
  | budgetNotPositive (budget : Int)
  | unknownLanguage (name : String)
  | missingEntry (key : String)
  | grammarsMissing
  | grammarBroken (name : String)
  | skipCallback
  | stageCallback
  | cannotCreate (path : Path) (cause : OsError)
  | cannotRead (source : String)
  | cannotAssemble
  | cannotWrite (dataset : DatasetName) (path : Path) (reason : String)
  | noTextColumn
  | vectorCount (answered asked : Nat)
  /-- A vector holds what is not a number. -/
  | badCell
  /-- Something else stands where a vector is expected. -/
  | mistypedCell
  /-- An integer is too large for any fixed width. -/
  | wideCell
  | unknownProvider (name : String)
  | localProviderMissing
  | remoteProviderMissing
  | reservedColumn (name : String)
  | unsupportedColumn (name typeName : String)
  | noDimension (name : String)
  /-- Several columns have the name that one is looked up by. -/
  | ambiguousColumn (name : String)
  | repeatedColumn (name : String) (times : Nat)
  | noVectorColumn
  | notConnected
  /-- An error of a collaborator, passed on as it came. -/
  | foreign (kind : FailureKind) (text : String)
  | fileSystem (cause : OsError)
  /-- A value of a configuration has no such operation. -/
  | badType
  | badAttribute
  | notAnInteger (text : String)
  | tooManyDigits (digits : Nat)
  | integerOfNaN
  | integerOfInfinity
  | nulInVariable
  | malformedDocument
  | undecodableDocument
  | badSource
  /-- Settings that are not accepted, each place with what is wrong there. -/
  | invalidSettings (faults : List (String × String))
  | unknownLevel (text : String)
  deriving DecidableEq, Repr

namespace Failure

def kind : Failure → FailureKind
  | unchunkable .. => .chunking
  | noSyntaxTree => .splitting
  | budgetNotPositive _ => .badValue
  | unknownLanguage _ => .badKey
  | missingEntry _ => .badKey
  | grammarsMissing => .runtime
  | grammarBroken _ => .runtime
  | skipCallback => .callback
  | stageCallback => .callback
  | cannotCreate .. => .dataset
  | cannotRead _ => .dataset
  | cannotAssemble => .dataset
  | cannotWrite .. => .dataset
  | noTextColumn => .dataset
  | vectorCount .. => .badValue
  | badCell => .badCell
  | mistypedCell => .mistypedCell
  | wideCell => .overflow
  | unknownProvider _ => .unsupported
  | localProviderMissing => .runtime
  | remoteProviderMissing => .missingModule
  | reservedColumn _ => .badValue
  | unsupportedColumn .. => .badValue
  | noDimension _ => .badValue
  | ambiguousColumn _ => .badKey
  | repeatedColumn .. => .badKey
  | noVectorColumn => .badValue
  | notConnected => .runtime
  | foreign kind _ => kind
  | fileSystem cause => .fileSystem cause.code
  | badType => .badType
  | badAttribute => .badAttribute
  | notAnInteger _ => .badValue
  | tooManyDigits _ => .badValue
  | integerOfNaN => .badValue
  | integerOfInfinity => .overflow
  | nulInVariable => .badValue
  | malformedDocument => .malformedDocument
  | undecodableDocument => .undecodable
  | badSource => .badSource
  | invalidSettings _ => .invalidSettings
  | unknownLevel _ => .badValue

def shownLiteral : Nat := 200

/-- How a failure reads.  Failures that only their kind is told of read empty. -/
def message : Failure → String
  | unchunkable path reason => path.text ++ ": " ++ reason
  | noSyntaxTree => "tree-sitter returned no syntax tree"
  | budgetNotPositive budget => "max_size must be positive, got " ++ toString budget
  | unknownLanguage name => "Unknown language: " ++ name
  | missingEntry key => key
  | grammarsMissing =>
    "tree_sitter_language_pack is required for prebuilt grammars. "
      ++ "Install it via `pip install tree-sitter-language-pack`."
  | grammarBroken name => "Unable to load tree-sitter grammar: " ++ name
  | skipCallback => "skip callback failed"
  | stageCallback => "stage callback failed"
  | cannotCreate path cause =>
    "Unable to create output file " ++ path.text ++ ": " ++ cause.message
  | cannotRead source => "Unable to read dataset " ++ source
  | cannotAssemble => "Unable to assemble chunk table"
  | cannotWrite dataset path reason =>
    "Unable to write " ++ dataset.text ++ " dataset " ++ path.text ++ ": " ++ reason
  | noTextColumn => "Dataset has no 'text' column to embed"
  | vectorCount answered asked =>
    "Embedding provider returned " ++ toString answered ++ " vectors for " ++ toString asked
      ++ " texts"
  | unknownProvider name => "Embedding provider not yet supported: " ++ name
  | localProviderMissing =>
    "fastembed is required for local embeddings. "
      ++ "Install it or select a different embedding provider."
  | reservedColumn name => "Column name '" ++ name ++ "' is reserved for the primary key"
  | unsupportedColumn name typeName =>
    "Unsupported column type for '" ++ name ++ "': " ++ typeName
  | noDimension name => "Cannot infer vector dimension: column '" ++ name ++ "' has no values"
  | ambiguousColumn name => "Column " ++ name ++ " does not exist in schema"
  | repeatedColumn name times =>
    "Field \"" ++ name ++ "\" exists " ++ toString times ++ " times in schema"
  | noVectorColumn => "A Milvus collection needs at least one float list column"
  | notConnected => "Milvus client is not initialized. Call connect() first."
  | foreign _ text => text
  | fileSystem cause => cause.message
  | notAnInteger text =>
    "invalid literal for int() with base 10: "
      ++ String.ofList ((Text.quoted text).toList.take shownLiteral)
  | tooManyDigits digits =>
    "Exceeds the limit (4300 digits) for integer string conversion: value has " ++ toString digits
      ++ " digits; use sys.set_int_max_str_digits() to increase the limit"
  | integerOfNaN => "cannot convert float NaN to integer"
  | nulInVariable => "embedded null byte"
  | unknownLevel text => "Unknown log level: " ++ Text.quoted text
  | _ => ""

def concernsOneFile (failure : Failure) : Bool :=
  match failure.kind with
  | .splitting => true
  | .badValue => true
  | .badText => true
  | .recursion => true
  | _ => false

end Failure

end SourceIndex
