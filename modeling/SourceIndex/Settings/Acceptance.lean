import SourceIndex.Number.Integer
import SourceIndex.Settings
import SourceIndex.Settings.Document

/-! # Which values a setting accepts

Each setting accepts values of its own kind, and some others that mean the same.  What is not
accepted is told by its place and by what is wrong there. -/
set_option autoImplicit false
namespace SourceIndex.Acceptance

abbrev Fault := String × String

/-- A value that is accepted, or what is wrong with it below a place. -/
abbrev Accepted (α : Type) := Except (List Fault) α

def reject {α : Type} (place fault : String) : Accepted α := .error [(place, fault)]

def text (place : String) : Value → Accepted String
  | .text s => .ok s
  | _ => reject place "string_type"

def optionalText (place : String) : Value → Accepted (Option String)
  | .null => .ok none
  | v => (text place v).map some

def path (place : String) : Value → Accepted Path
  | .text s => .ok (Path.ofString s)
  | _ => reject place "path_type"

def wholeNumber (place : String) (x : Float) : Accepted Int :=
  match Binary.parts x with
  | .notANumber => reject place "finite_number"
  | .infinite _ => reject place "finite_number"
  | .finite negative magnitude exponent =>
    if Binary.hasFraction magnitude exponent then reject place "int_from_float"
    else
      let size := Binary.wholePart magnitude exponent
      if size < powTwo 63 then .ok (if negative then -(size : Int) else size)
      else reject place "int_parsing_size"

def integer (place : String) : Value → Accepted Int
  | .integer n => .ok n
  | .bool b => .ok (if b then 1 else 0)
  | .real x => wholeNumber place x
  | .text s =>
    match Integer.readLenient s with
    | .value n => .ok n
    | .malformed => reject place "int_parsing"
    | .tooLong _ => reject place "int_parsing_size"
  | _ => reject place "int_type"

def truthWords : List (String × Bool) :=
  [("0", false), ("off", false), ("f", false), ("false", false), ("n", false), ("no", false),
    ("1", true), ("on", true), ("t", true), ("true", true), ("y", true), ("yes", true)]

def zeroOrOne (place : String) (n : Int) : Accepted Bool :=
  if n = 0 then .ok false else if n = 1 then .ok true else reject place "bool_parsing"

def truth (place : String) : Value → Accepted Bool
  | .bool b => .ok b
  | .integer n => zeroOrOne place n
  | .real x =>
    match wholeNumber place x with
    | .ok n => zeroOrOne place n
    | .error _ => reject place "bool_type"
  | .text s =>
    match truthWords.find? fun word => word.1 == String.ofList (s.toList.map Char.toLower) with
    | some word => .ok word.2
    | none => reject place "bool_parsing"
  | _ => reject place "bool_type"

/-- Texts of a list, counted from `index`; all faults are told. -/
def textsFrom (place : String) (index : Nat) : List Value → Accepted (List String)
  | [] => .ok []
  | v :: rest =>
    match text (place ++ "." ++ toString index) v, textsFrom place (index + 1) rest with
    | .ok s, .ok others => .ok (s :: others)
    | .ok _, .error faults => .error faults
    | .error faults, .ok _ => .error faults
    | .error faults, .error more => .error (faults ++ more)

def texts (place : String) : Value → Accepted (List String)
  | .list items => textsFrom place 0 items
  | _ => reject place "list_type"

/-- Let a setting take an accepted value.  Faults are gathered, and the setting stays as it is
then. -/
def take {α : Type} (given : Entries) (place : String) (accept : String → Value → Accepted α)
    (assign : Settings → α → Settings) (state : Settings × List Fault) : Settings × List Fault :=
  match Value.lookup place given with
  | none => state
  | some v =>
    match accept place v with
    | .ok accepted => (assign state.1 accepted, state.2)
    | .error faults => (state.1, state.2 ++ faults)

def takeAll (given : Entries) : Settings × List Fault :=
  let take {α : Type} := @take α given
  let state : Settings × List Fault := ({}, [])
  let state := take "workspace_root" path (fun s v => { s with workspaceRoot := v }) state
  let state := take "splitter_max_size" integer (fun s v => { s with splitterMaxSize := v }) state
  let state := take "ignore_patterns" texts (fun s v => { s with ignorePatterns := v }) state
  let state := take "embedding_provider" text (fun s v => { s with embeddingProvider := v }) state
  let state := take "embedding_model" text (fun s v => { s with embeddingModel := v }) state
  let state :=
    take "embedding_batch_size" integer (fun s v => { s with embeddingBatchSize := v }) state
  let state :=
    take "embedding_api_base" optionalText (fun s v => { s with embeddingApiBase := v }) state
  let state :=
    take "embedding_api_key" optionalText (fun s v => { s with embeddingApiKey := v }) state
  let state := take "milvus_uri" text (fun s v => { s with milvusUri := v }) state
  let state := take "milvus_collection" text (fun s v => { s with milvusCollection := v }) state
  let state :=
    take "milvus_username" optionalText (fun s v => { s with milvusUsername := v }) state
  let state :=
    take "milvus_password" optionalText (fun s v => { s with milvusPassword := v }) state
  let state :=
    take "milvus_insert_batch_size" integer (fun s v => { s with milvusInsertBatchSize := v }) state
  let state := take "log_level" text (fun s v => { s with logLevel := v }) state
  take "log_json" truth (fun s v => { s with logJson := v }) state

def settings (given : Entries) : Except Failure Settings :=
  match takeAll given with
  | (accepted, []) => .ok accepted
  | (_, faults) => .error (.invalidSettings faults)

end SourceIndex.Acceptance
