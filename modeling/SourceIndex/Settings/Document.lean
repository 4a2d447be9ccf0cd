import SourceIndex.Text.Blank
import SourceIndex.Value.Conversion

/-! # Settings in a document

A configuration document groups the settings into sections.  `flatten` lists the settings that
a document gives by their own names.  Some values are made into the kind that is expected, the
others are left as they are. -/
set_option autoImplicit false
namespace SourceIndex

namespace Document

def sectionOf (name : String) (document : Entries) : Value :=
  (Value.lookup name document).getD (.table [])

def occursIn (part : List Char) : List Char → Bool
  | [] => part.isEmpty
  | c :: rest => part.isPrefixOf (c :: rest) || occursIn part rest

/-- The entry of a section.  A section that is no table has none, unless it seems to have
it: then the document is refused, and so is a section that cannot have entries at all. -/
def entry? (key : String) : Value → Except Failure (Option Value)
  | .table entries => .ok (Value.lookup key entries)
  | .text s => if occursIn key.toList s.toList then .error .badType else .ok none
  | .list items =>
    if items.any (fun item => match item with | .text s => s == key | _ => false) then
      .error .badType
    else .ok none
  | _ => .error .badType

def blankToNull : Value → Value
  | .text s => if Text.allBlank s.toList then .null else .text s
  | v => v

inductive Treatment where
  | asGiven
  | integer
  | list
  | text
  | truth
  /-- As given, but a text of blanks counts as missing. -/
  | blankIsNull
  deriving DecidableEq, Repr

def Treatment.apply : Treatment → Value → Except Failure Value
  | .asGiven, v => .ok v
  | .integer, v => v.toInteger.map .integer
  | .list, v => v.items.map .list
  | .text, v => .ok (.text v.plain)
  | .truth, v => .ok (.bool v.isTrue)
  | .blankIsNull, v => .ok (blankToNull v)

structure KnownKey where
  key : String
  setting : String
  treatment : Treatment
  deriving DecidableEq, Repr

structure KnownSection where
  name : String
  /-- A section that counts as false is not looked into. -/
  mayBeFalse : Bool := false
  keys : List KnownKey
  deriving DecidableEq, Repr

def knownSections : List KnownSection :=
  [{ name := "workspace", keys := [⟨"root", "workspace_root", .asGiven⟩] },
   { name := "splitter", keys := [⟨"max_size", "splitter_max_size", .integer⟩] },
   { name := "ingestion", keys := [⟨"ignore_patterns", "ignore_patterns", .list⟩] },
   { name := "embedding", mayBeFalse := true,
     keys := [⟨"provider", "embedding_provider", .asGiven⟩, ⟨"model", "embedding_model", .asGiven⟩,
       ⟨"batch_size", "embedding_batch_size", .asGiven⟩,
       ⟨"api_base", "embedding_api_base", .blankIsNull⟩,
       ⟨"api_key", "embedding_api_key", .blankIsNull⟩] },
   { name := "milvus",
     keys := [⟨"uri", "milvus_uri", .asGiven⟩, ⟨"collection", "milvus_collection", .asGiven⟩,
       ⟨"username", "milvus_username", .blankIsNull⟩,
       ⟨"password", "milvus_password", .blankIsNull⟩,
       ⟨"insert_batch_size", "milvus_insert_batch_size", .asGiven⟩] },
   { name := "logging",
     keys := [⟨"level", "log_level", .text⟩, ⟨"json", "log_json", .truth⟩] }]

/-- The settings that a section gives for some keys; the first failure ends it. -/
def readKeys (content : Value) : List KnownKey → Except Failure Entries
  | [] => .ok []
  | known :: rest =>
    match entry? known.key content with
    | .error failure => .error failure
    | .ok none => readKeys content rest
    | .ok (some v) =>
      match known.treatment.apply v with
      | .error failure => .error failure
      | .ok treated => (readKeys content rest).map ((known.setting, treated) :: ·)

def readSections (document : Entries) : List KnownSection → Except Failure Entries
  | [] => .ok []
  | known :: rest =>
    let content := sectionOf known.name document
    if known.mayBeFalse && !content.isTrue then readSections document rest
    else
      match readKeys content known.keys with
      | .error failure => .error failure
      | .ok found => (readSections document rest).map (found ++ ·)

def flatten (document : Entries) : Except Failure Entries := readSections document knownSections

end Document

end SourceIndex
