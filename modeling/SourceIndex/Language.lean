import SourceIndex.Chunk
import SourceIndex.Event
import SourceIndex.Text.Case

/-! # The languages that files are written in

A language is known by its name and by the extensions of its files.  The registry lists the
languages with a splitter for each; it is built when it is first asked for, and building it
fails while a grammar is missing or the budget is not positive. -/
set_option autoImplicit false
namespace SourceIndex

/-- What is known of a language before its grammar is loaded. -/
structure LanguageEntry where
  name : String
  grammar : String
  extensions : List String
  deriving DecidableEq, Repr

def languageTable : List LanguageEntry :=
  [⟨"javascript", "javascript", ["js", "mjs", "cjs", "jsx"]⟩,
   ⟨"rust", "rust", ["rs"]⟩,
   ⟨"python", "python", ["py", "pyi"]⟩,
   ⟨"typescript", "typescript", ["ts", "mts", "cts"]⟩,
   ⟨"tsx", "tsx", ["tsx"]⟩]

structure Language where
  name : String
  extensions : List String
  splitter : Splitter
  deriving Repr

structure Grammars where
  installed : Bool := true
  broken : List String := []
  deriving DecidableEq, Repr, Inhabited

def Grammars.load (grammars : Grammars) (grammar : String) : Except Failure Unit :=
  if !grammars.installed then .error .grammarsMissing
  else if grammars.broken.contains grammar then .error (.grammarBroken grammar)
  else .ok ()

abbrev Registry := List Language

namespace Registry

def ready (grammars : Grammars) (budget : Int) (entry : LanguageEntry) : Except Failure Language :=
  match grammars.load entry.grammar with
  | .error failure => .error failure
  | .ok _ =>
    match Splitter.ofBudget .words budget with
    | .error failure => .error failure
    | .ok splitter => .ok ⟨entry.name, entry.extensions, splitter⟩

def readyAll (grammars : Grammars) (budget : Int) : List LanguageEntry → Except Failure Registry
  | [] => .ok []
  | entry :: rest =>
    match ready grammars budget entry with
    | .error failure => .error failure
    | .ok language =>
      match readyAll grammars budget rest with
      | .error failure => .error failure
      | .ok languages => .ok (language :: languages)

def build (grammars : Grammars) (budget : Int) : Except Failure Registry :=
  readyAll grammars budget languageTable

def built (registry : Registry) : Event :=
  .debug "language_registry_built" [("languages", .list (registry.map fun l => .text l.name))]

def named (registry : Registry) (name : String) : Except Failure Language :=
  match registry.find? fun language => language.name == name with
  | some language => .ok language
  | none => .error (.unknownLanguage name)

/-- The language of an extension in its normal form; of several, the first registered. -/
def ofExtension (registry : Registry) (extension : String) : Option Language :=
  registry.find? fun language => language.extensions.contains extension

end Registry

/-- The normal form of an extension: without leading dots and in lower case. -/
def normalExtension (extension : String) : String :=
  Text.lower (String.ofList (extension.toList.dropWhile (· = '.')))

/-- A registry that is built on first use: what it is built from, and what was built. -/
structure LanguageShelf where
  grammars : Grammars
  budget : Int
  registry : Option Registry := none
  deriving Repr

namespace LanguageShelf

/-- The registry, built now if it was not before.  A failure is not kept, so the next use tries
again. -/
def open? (shelf : LanguageShelf) : Except Failure Registry × LanguageShelf × List Event :=
  match shelf.registry with
  | some registry => (.ok registry, shelf, [])
  | none =>
    match Registry.build shelf.grammars shelf.budget with
    | .error failure => (.error failure, shelf, [])
    | .ok registry => (.ok registry, { shelf with registry := some registry }, [registry.built])

/-- The language of an extension.  An empty extension needs no registry. -/
def ofExtension (shelf : LanguageShelf) (extension : String) :
    Except Failure (Option Language) × LanguageShelf × List Event :=
  let key := normalExtension extension
  if key = "" then (.ok none, shelf, [])
  else
    match shelf.open? with
    | (.error failure, after, events) => (.error failure, after, events)
    | (.ok registry, after, events) => (.ok (registry.ofExtension key), after, events)

/-- The language of a path by the suffix of its last name.  A path without one has no
language. -/
def ofPath (shelf : LanguageShelf) (path : Path) :
    Except Failure (Option Language) × LanguageShelf × List Event :=
  if path.suffix = "" then (.ok none, shelf, []) else shelf.ofExtension path.suffix

end LanguageShelf

end SourceIndex
