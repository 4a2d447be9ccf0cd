import SourceIndex.Record

/-! # Directory trees

A directory lists its entries in an order of its own.  Listing it can fail at once or on the
way, and an entry may fail to say what it is. -/
set_option autoImplicit false
namespace SourceIndex

inductive Leaf where
  | file (content : FileContent)
  | linkedFile (content : FileContent)
  | linkedDirectory
  | brokenLink
  /-- Neither a file nor a directory. -/
  | special
  /-- It fails to say whether it is a directory. -/
  | unknown
  /-- It is no directory, but fails to say whether it is a file. -/
  | unknownFile

def Leaf.content? : Leaf → Option FileContent
  | .file content => some content
  | .linkedFile content => some content
  | _ => none

structure Conduct where
  opens : Bool := true
  /-- Its listing fails behind so many entries. -/
  breaksAfter : Option Nat := none
  releases : Bool := true
  deriving DecidableEq, Repr, Inhabited

inductive Entry where
  | directory (name : String) (conduct : Conduct) (entries : List Entry)
  | leaf (name : String) (kind : Leaf)

def Entry.name : Entry → String
  | .directory name _ _ => name
  | .leaf name _ => name

mutual
def Entry.weight : Entry → Nat
  | .directory _ _ entries => Entry.totalWeight entries + 3
  | .leaf .. => 1

def Entry.totalWeight : List Entry → Nat
  | [] => 0
  | entry :: rest => entry.weight + Entry.totalWeight rest
end

theorem Entry.weight_pos (entry : Entry) : 0 < entry.weight := by
  cases entry <;> simp [Entry.weight]

structure Folder where
  path : Path
  conduct : Conduct
  entries : List Entry

def Folder.weight (folder : Folder) : Nat := Entry.totalWeight folder.entries + 2

def Folder.totalWeight : List Folder → Nat
  | [] => 0
  | folder :: rest => folder.weight + Folder.totalWeight rest

def Folder.absent (path : Path) : Folder := ⟨path, { opens := false }, []⟩

namespace Folder

/-- The directory that the names lead to; nothing if one of them is not a directory. -/
def descend (conduct : Conduct) (entries : List Entry) : List String → Option (Conduct × List Entry)
  | [] => some (conduct, entries)
  | name :: rest =>
    match entries.find? fun entry => entry.name == name with
    | some (.directory _ inner below) => descend inner below rest
    | _ => none

def locate (folder : Folder) (path : Path) : Folder :=
  if path.anchor = folder.path.anchor ∧ folder.path.names <+: path.names then
    match descend folder.conduct folder.entries (path.names.drop folder.path.names.length) with
    | some (conduct, entries) => ⟨path, conduct, entries⟩
    | none => absent path
  else absent path

end Folder

end SourceIndex
