import SourceIndex.Settings.Document
import SourceIndex.Text.Case

/-! # Environment variables

A document can set two environment variables that other libraries look at. -/
set_option autoImplicit false
namespace SourceIndex

abbrev Environment := List (String × String)

namespace Environment

def value? (environment : Environment) (name : String) : Option String :=
  (environment.find? fun entry => entry.1 == name).map Prod.snd

/-- Give a variable a value, which must not contain the character zero. -/
def set (environment : Environment) (name value : String) : Except Failure Environment :=
  if value.toList.contains (Char.ofNat 0) then .error .nulInVariable
  else .ok ((name, value) :: environment.filter fun entry => entry.1 != name)

def entryOf (key : String) : Value → Except Failure (Option Value)
  | .table entries => .ok (Value.lookup key entries)
  | _ => .error .badAttribute

def setParallelism (environment : Environment) (document : Entries) : Except Failure Environment :=
  match entryOf "tokenizers_parallelism" (Document.sectionOf "environment" document) with
  | .error failure => .error failure
  | .ok none => .ok environment
  | .ok (some .null) => .ok environment
  | .ok (some v) => environment.set "TOKENIZERS_PARALLELISM" (Text.lower v.plain)

/-- Set the variable for the key of the provider as a document says.  A value that counts as
false sets nothing, and any other has to be a text. -/
def setProviderKey (environment : Environment) (document : Entries) : Except Failure Environment :=
  match entryOf "openai_api_key" (Document.sectionOf "providers" document) with
  | .error failure => .error failure
  | .ok none => .ok environment
  | .ok (some v) =>
    if !v.isTrue then .ok environment
    else
      match v with
      | .text s => environment.set "OPENAI_API_KEY" s
      | _ => .error .badType

/-- Set the variables as a document says.  What was set before a failure stays set. -/
def override (environment : Environment) (document : Entries) : Option Failure × Environment :=
  match environment.setParallelism document with
  | .error failure => (some failure, environment)
  | .ok after =>
    match after.setProviderKey document with
    | .error failure => (some failure, after)
    | .ok last => (none, last)

end Environment

end SourceIndex
