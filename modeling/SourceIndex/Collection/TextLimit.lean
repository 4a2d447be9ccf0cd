import SourceIndex.Collection.Schema
import SourceIndex.Event
import SourceIndex.Text.Utf8

/-! # Texts cut to a limit

A collection keeps texts up to a number of bytes.  A longer text is cut, and a character that
the cut falls into is dropped as a whole. -/
set_option autoImplicit false
namespace SourceIndex

/-- As much of a text as fits into so many bytes. -/
def cutText (limit : Nat) (text : String) : String :=
  String.ofList (Utf8.decodeDropping ((Utf8.encode text.toList).take limit))

abbrev NamedRow := Entries

/-- The event that tells of a text that was cut, by the row with the cut text. -/
def cutEvent (row : NamedRow) (index : Nat) (column : String) (size : Nat) : Event :=
  .warning "milvus_value_truncated"
    [("column", .text column), ("row", .ofNat index),
      ("file", (Value.lookup "file_path" row).getD .null), ("size", .ofNat size),
      ("limit", .ofNat textLimit)]

/-- What is left when texts were cut: how many were, the events that tell of them, and the failure
that ended it, if one did. -/
structure Fitted (α : Type) where
  value : α
  shortened : Nat := 0
  events : List Event := []
  failure : Option Failure := none

/-- Cut the text in one column of a row if it is too long.  A value that is no text has no bytes to
be counted. -/
def fitCell (index : Nat) (column : String) (row : NamedRow) : Fitted NamedRow :=
  match Value.lookup column row with
  | none => { value := row }
  | some .null => { value := row }
  | some (.text s) =>
    let size := Utf8.byteCount s.toList
    if size ≤ textLimit then { value := row }
    else
      let fitted := Value.insert column (.text (cutText textLimit s)) row
      { value := fitted, shortened := 1, events := [cutEvent fitted index column size] }
  | some _ => { value := row, failure := some .badAttribute }

/-- Go on with what is left, unless a failure has ended it: then `halted` is what is left. -/
def Fitted.andThen {α β : Type} (first : Fitted α) (halted : α → β) (next : α → Fitted β) :
    Fitted β :=
  match first.failure with
  | some failure => ⟨halted first.value, first.shortened, first.events, some failure⟩
  | none =>
    let others := next first.value
    ⟨others.value, first.shortened + others.shortened, first.events ++ others.events, others.failure⟩

/-- Cut the texts in several columns of a row.  A column that is named again finds its text cut. -/
def fitRow (index : Nat) : List String → NamedRow → Fitted NamedRow
  | [], row => { value := row }
  | column :: rest, row => (fitCell index column row).andThen id (fitRow index rest)

/-- Cut the texts in several columns of rows that are counted from `index` on.  The rows behind a
failure stay as they are. -/
def fitRowsFrom (columns : List String) (index : Nat) : List NamedRow → Fitted (List NamedRow)
  | [] => { value := [] }
  | row :: rest =>
    (fitRow index columns row).andThen (· :: rest) fun cut =>
      let others := fitRowsFrom columns (index + 1) rest
      { others with value := cut :: others.value }

def fitRows (columns : List String) (rows : List NamedRow) : Fitted (List NamedRow) :=
  fitRowsFrom columns 0 rows

end SourceIndex
