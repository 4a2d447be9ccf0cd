import SourceIndex.Path

/-! # Settings

The settings that the parts of the library are configured by, with the values that hold unless
others are given. -/
set_option autoImplicit false
namespace SourceIndex

structure Settings where
  workspaceRoot : Path := Path.ofString "./workspace"
  splitterMaxSize : Int := 512
  ignorePatterns : List String := []
  embeddingProvider : String := "fastembed"
  embeddingModel : String := "sentence-transformers/all-MiniLM-L6-v2"
  embeddingBatchSize : Int := 32
  embeddingApiBase : Option String := none
  embeddingApiKey : Option String := none
  milvusUri : String := "./codesplit_milvus.db"
  milvusCollection : String := "codebases"
  milvusUsername : Option String := none
  milvusPassword : Option String := none
  milvusInsertBatchSize : Int := 128
  logLevel : String := "INFO"
  logJson : Bool := false
  deriving DecidableEq, Repr, Inhabited

def atLeastOne (size : Int) : Nat := (max 1 size).toNat

/-- The first text unless it is missing or empty, otherwise the second. -/
def orElseText (given : Option String) (otherwise : String) : String :=
  match given with
  | some text => if text = "" then otherwise else text
  | none => otherwise

def nonEmpty (text : Option String) : Option String := text.filter (· ≠ "")

/-- The number of texts in a batch for the embedding client: as asked, and otherwise as the
settings tell. -/
def Settings.embeddingBatch (settings : Settings) (asked : Option Int) : Nat :=
  atLeastOne (asked.getD settings.embeddingBatchSize)

end SourceIndex
