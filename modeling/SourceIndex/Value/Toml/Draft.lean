import SourceIndex.Value.Toml.Key

/-! # Tables inside tables

Keys lead through tables into tables, which are made on the way.  What may not happen to a key
any more is kept as marks: a table that has a header of its own gets no second one, and what is
written as one value gets no further parts. -/
set_option autoImplicit false
namespace SourceIndex.Toml

/-- Change the table behind a key, making the tables on the way that are not there yet.  On the
way a list stands for its last element where `throughLists` holds. -/
def atTable (throughLists : Bool) (change : Entries → Option Entries) :
    Key → Entries → Option Entries
  | [], entries => change entries
  | k :: ks, entries =>
    match Value.lookup k entries with
    | none => (atTable throughLists change ks []).map fun t => Value.insert k (.table t) entries
    | some (.table t) =>
      (atTable throughLists change ks t).map fun t => Value.insert k (.table t) entries
    | some (.list items) =>
      match throughLists, items.getLast? with
      | true, some (.table t) =>
        (atTable throughLists change ks t).map
          fun t => Value.insert k (.list (items.dropLast ++ [.table t])) entries
      | _, _ => none
    | some _ => none

def addEntry (k : String) (v : Value) (entries : Entries) : Option Entries :=
  if (Value.lookup k entries).isSome then none else some (entries ++ [(k, v)])

def addElement (k : String) (entries : Entries) : Option Entries :=
  match Value.lookup k entries with
  | none => some (entries ++ [(k, .list [.table []])])
  | some (.list items) => some (Value.insert k (.list (items ++ [.table []])) entries)
  | some _ => none

def orMalformed {α : Type} : Option α → Except Fault α
  | some a => .ok a
  | none => .error .malformed

inductive Mark where
  /-- It has a header, or was reached by a dotted key, and gets no header any more. -/
  | opened (key : Key)
  /-- It is one value, and neither it nor anything below it changes any more. -/
  | closed (key : Key)
  deriving DecidableEq, Repr

def isOpened (marks : List Mark) (k : Key) : Bool := marks.contains (.opened k)

def isClosed (marks : List Mark) (k : Key) : Bool :=
  marks.any fun
    | .closed c => !c.isEmpty && c.isPrefixOf k
    | .opened _ => false

def forget (k : Key) (marks : List Mark) : List Mark :=
  marks.filter fun
    | .opened o => !k.isPrefixOf o
    | .closed c => !k.isPrefixOf c

def isCollection : Value → Bool
  | .list _ => true
  | .table _ => true
  | _ => false

/-- A document on its way: what it holds, the marks on its keys, the marks that take effect at
the next header, and the header in force. -/
structure Draft where
  entries : Entries := []
  marks : List Mark := []
  pending : List Mark := []
  header : Key := []

def Draft.settle (draft : Draft) : Draft :=
  { draft with marks := draft.pending ++ draft.marks, pending := [] }

end SourceIndex.Toml
