import SourceIndex.Collection.Schema
import SourceIndex.Collection.TextLimit

/-! # The vector server

The server keeps collections.  Here it is a script: what it answers, and where it fails.  What
changes on it is kept with the connection, and a new connection finds it as it was at first. -/
set_option autoImplicit false
namespace SourceIndex

inductive Probe where
  | truthful
  | always (answer : Bool)
  | refused
  | crashes
  deriving DecidableEq, Repr

structure Server where
  reachable : Bool := true
  hasCollection : Bool := false
  probe : Probe := .truthful
  /-- Whether the n-th insert of a connection fails, counted from one. -/
  insertFails : Nat → Bool := fun _ => false
  queryAnswer : Value := .list []
  searchAnswer : Value := .list []

structure Connection where
  hasCollection : Bool
  inserts : Nat := 0
  deriving DecidableEq, Repr

inductive ServerCall where
  | connect (address user password : String)
  | probe (collection : String)
  | create (collection : String) (schema : CollectionSchema) (indexed : List String)
      (metric : String)
  | insert (collection : String) (rows : List NamedRow)
  | query (collection : String)
  | search (collection : String) (vector : Value) (field : String) (limit : Int)
  | close

/-- What happens while the library works with the server: events, calls on the server, and
reports of how many rows of how many are inserted. -/
inductive Occurrence where
  | event (event : Event)
  | call (call : ServerCall)
  | progress (inserted total : Nat)

def refusalText : String := "<MilvusException: (code=1, message=probe failed)>"

end SourceIndex
