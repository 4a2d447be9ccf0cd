import SourceIndex.Moment
import SourceIndex.Text.Quoted

/-! # Values of documents and events

A configuration document, a request to the vector server and a log event hold values of one
shape.  `Value.plain` shows a value on its own and `Value.shown` inside a collection; the two
differ for texts, which are quoted inside a collection, and for moments. -/
set_option autoImplicit false
namespace SourceIndex

/-- A value.  Tables keep the order in which their keys were given. -/
inductive Value where
  | null
  | bool (b : Bool)
  | integer (n : Int)
  | real (x : Float)
  | text (s : String)
  | moment (m : Moment)
  | list (items : List Value)
  | table (entries : List (String × Value))
  deriving Inhabited

abbrev Entries := List (String × Value)

namespace Value

/-- How numbers with a fraction are written: positional from `0.0001` up to sixteen digits
before the point, whole numbers with a zero behind it. -/
def realLayout : Decimal.Layout where
  positionalAbove := -4
  positionalUpTo := 16
  wholeMark := ['.', '0']
  exponentWidth := 2
  infinity := "inf"
  notANumber := "nan"

mutual
def shown : Value → String
  | .null => "None"
  | .bool b => if b then "True" else "False"
  | .integer n => toString n
  | .real x => realLayout.text x
  | .text s => Text.quoted s
  | .moment m => m.shown
  | .list items => "[" ++ String.intercalate ", " (shownAll items) ++ "]"
  | .table entries => "\x7b" ++ String.intercalate ", " (shownEntries entries) ++ "\x7d"

def shownAll : List Value → List String
  | [] => []
  | v :: rest => v.shown :: shownAll rest

def shownEntries : List (String × Value) → List String
  | [] => []
  | (key, v) :: rest => (Text.quoted key ++ ": " ++ v.shown) :: shownEntries rest
end

def plain : Value → String
  | .text s => s
  | .moment m => m.text
  | v => v.shown

/-- The value of a key; of a key given twice, the first. -/
def lookup (key : String) (entries : Entries) : Option Value :=
  (entries.find? fun entry => entry.1 == key).map Prod.snd

def field (key : String) : Value → Value
  | .table entries => (lookup key entries).getD .null
  | _ => .null

/-- Give a key a value: in its place if the key is there, otherwise at the end. -/
def insert (key : String) (v : Value) : Entries → Entries
  | [] => [(key, v)]
  | (k, old) :: rest => if k = key then (k, v) :: rest else (k, old) :: insert key v rest

end Value

end SourceIndex
