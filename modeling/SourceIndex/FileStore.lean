import SourceIndex.Failure
import SourceIndex.Table

/-! # Stored files

What is stored lies below one root, and relative paths begin at the working directory.  A path
leads to a place through directories that exist; what stands at the place is a directory, a
dataset or other bytes.  Opening a file for writing empties it, unless the store refuses to have
anything opened or made at its place: then what stands there stays.

There are no links, so each place has one name and two dots lead to the directory above.  A file
that could be opened can be removed again.  How a directory of part files is read as one table is
a part of the store.  No name holds a null character, and no source names another file system. -/
set_option autoImplicit false
namespace SourceIndex

inductive Stored where
  | directory
  | dataset (table : Table)
  | bytes (bytes : List UInt8)

/-- The names that lead from the root to a place. -/
abbrev Place := List String

/-- Why nothing can be opened for writing, or made, at a place. -/
structure Refusal where
  code : Int
  reason : String
  deriving DecidableEq, Repr

def Refusal.error (path : Path) (refusal : Refusal) : OsError :=
  .numbered refusal.code refusal.reason (some path.text)

structure FileStore where
  at? : Place → Option Stored
  here : Place
  refusal? : Place → Option Refusal := fun _ => none
  /-- The table of a directory of part files, by what stands below it. -/
  parts? : (Place → Option Stored) → Option Table := fun _ => some ⟨[]⟩

inductive Astray where
  | missing
  | blocked
  deriving DecidableEq, Repr

def Astray.error (path : Path) : Astray → OsError
  | .missing => .notFound path.text
  | .blocked => .notADirectory path.text

namespace FileStore

/-- A store with nothing in it but the working directory, which is not the root. -/
def empty : FileStore where
  at? place := if place.isPrefixOf ["work"] then some .directory else none
  here := ["work"]

def put (store : FileStore) (place : Place) (what : Stored) : FileStore :=
  { store with at? := fun other => if other = place then some what else store.at? other }

def clear (store : FileStore) (place : Place) : FileStore :=
  { store with at? := fun other => if other = place then none else store.at? other }

/-- The place that names lead to from a place.  Above the root there is the root itself. -/
def follow (store : FileStore) (here : Place) : List String → Except Astray Place
  | [] => .ok here
  | name :: rest =>
    match store.at? here with
    | none => .error .missing
    | some .directory =>
      if name = ".." then follow store here.dropLast rest else follow store (here ++ [name]) rest
    | some _ => .error .blocked

/-- Where a path begins.  The root is the same place however it is written. -/
def base (store : FileStore) : Anchor → Place
  | .relative => store.here
  | .root => []
  | .doubleRoot => []

def resolve (store : FileStore) (path : Path) : Except Astray Place :=
  store.follow (store.base path.anchor) path.names

def find? (store : FileStore) (path : Path) : Option Stored :=
  match store.resolve path with
  | .ok place => store.at? place
  | .error _ => none

/-- Open a file for writing: it is made if it is not there and emptied if it is. -/
def create (store : FileStore) (path : Path) : Except OsError (Place × FileStore) :=
  match store.resolve path with
  | .error astray => .error (astray.error path)
  | .ok place =>
    match store.at? place, store.refusal? place with
    | some .directory, _ => .error (.isADirectory path.text)
    | _, some refusal => .error (refusal.error path)
    | _, none => .ok (place, store.put place (.bytes []))

/-- Remove a file.  A file that is not there is no error. -/
def remove (store : FileStore) (path : Path) : Except OsError FileStore :=
  match store.resolve path with
  | .error .missing => .ok store
  | .error .blocked => .error (.notADirectory path.text)
  | .ok place =>
    match store.at? place with
    | some .directory => .error (.isADirectory path.text)
    | some _ => .ok (store.clear place)
    | none => .ok store

def makeDirectory (store : FileStore) (path : Path) : Except OsError FileStore :=
  match store.resolve path with
  | .error astray => .error (astray.error path)
  | .ok place =>
    match store.at? place, store.refusal? place with
    | some .directory, _ => .ok store
    | some _, _ => .error (.alreadyThere path.text)
    | none, some refusal => .error (refusal.error path)
    | none, none => .ok (store.put place .directory)

/-- Make a directory and those that lead to it, as far as they are missing. -/
def makeDirectories (store : FileStore) (path : Path) : List String → Except OsError FileStore
  | [] => store.makeDirectory path
  | _ :: above =>
    match store.makeDirectory path with
    -- a directory on the way is missing
    | .error (.numbered 2 _ _) =>
      match makeDirectories store path.parent above with
      | .error cause => .error cause
      | .ok after => after.makeDirectory path
    | result => result

def ensureDirectory (store : FileStore) (path : Path) : Except OsError FileStore :=
  store.makeDirectories path path.names

/-- The table at a place: a dataset, or the part files in a directory as one. -/
def tableAt? (store : FileStore) (place : Place) : Option Table :=
  match store.at? place with
  | some (.dataset table) => some table
  | some .directory => store.parts? fun below => store.at? (place ++ below)
  | _ => none

/-- Read a dataset, which was named by `source`.  An empty name names nothing, and columns that share
a name cannot be told apart. -/
def readDataset (store : FileStore) (source : String) : Except Failure Table :=
  match if source = "" then .error .missing else store.resolve (Path.ofString source) with
  | .error _ => .error (.cannotRead source)
  | .ok place =>
    match store.tableAt? place with
    | some table =>
      if table.columnNames.Nodup then .ok table.stored else .error (.cannotRead source)
    | none => .error (.cannotRead source)

def bytes? (store : FileStore) (path : Path) : Option (List UInt8) :=
  match store.find? path with
  | some (.bytes bytes) => some bytes
  | _ => none

end FileStore

end SourceIndex
