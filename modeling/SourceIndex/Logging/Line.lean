import SourceIndex.Text.Lines
import SourceIndex.Text.Quoted
import SourceIndex.Value

/-! # Lines of a log

An entry of a log is written as one object, or as a line for reading.  Such a line tells the
time, the level, the event, the logger and the fields in the order of their names. -/
set_option autoImplicit false
namespace SourceIndex

inductive LogLayout where
  | object
  | console
  deriving DecidableEq, Repr

structure LogEntry where
  event : Value
  level : String
  logger : String
  fields : Entries

inductive LogLine where
  | object (entries : Entries)
  | text (text : String)

def timeMark : String := "<time>"

namespace LogEntry

def reserved : List String := ["timestamp", "level", "event", "logger"]

def ownFields (entry : LogEntry) : Entries :=
  entry.fields.filter fun field => !reserved.contains field.1

def toObject (entry : LogEntry) : Entries :=
  entry.ownFields
    ++ [("event", entry.event), ("level", .text entry.level), ("logger", .text entry.logger)]

def padTo (width : Nat) (text : String) : String :=
  text ++ String.ofList (List.replicate (width - text.length) ' ')

def needsQuotes (c : Char) : Bool :=
  c = ' ' || c = '\t' || c = '=' || c = '\r' || c = '\n' || c = '"' || c = '\''

def fieldText : Value → String
  | .text s => if s.toList.any needsQuotes then Text.quoted s else s
  | v => v.shown

def sorted (fields : Entries) : Entries := fields.mergeSort fun a b => decide (a.1 ≤ b.1)

def toText (entry : LogEntry) : String :=
  let fields := (sorted entry.ownFields).map fun field => field.1 ++ "=" ++ fieldText field.2
  timeMark ++ " [" ++ padTo 9 entry.level ++ "] " ++ padTo 30 entry.event.plain ++ " ["
    ++ entry.logger ++ "] " ++ String.intercalate " " fields

/-- The lines of an entry, without the blanks at their ends. -/
def lines (layout : LogLayout) (entry : LogEntry) : List LogLine :=
  match layout with
  | .object => [.object entry.toObject]
  | .console =>
    (Text.splitLines entry.toText.toList).map fun line =>
      .text (String.ofList (Text.trimRight Text.isBlank line))

end LogEntry

end SourceIndex
