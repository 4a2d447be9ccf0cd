import SourceIndex.Failure
import SourceIndex.Text.Blank
import SourceIndex.Text.Case
import SourceIndex.Value

/-! # Thresholds of logging

What matters less than a threshold is not logged.  A threshold is a number, or the name of
one. -/
set_option autoImplicit false
namespace SourceIndex

def thresholdNames : List (String × Int) :=
  [("CRITICAL", 50), ("FATAL", 50), ("ERROR", 40), ("WARN", 30), ("WARNING", 30), ("INFO", 20),
    ("DEBUG", 10), ("NOTSET", 0)]

/-- A threshold as it was given: a number, or a truth value that counts as one. -/
inductive Threshold where
  | number (n : Int)
  | truth (b : Bool)
  deriving DecidableEq, Repr

namespace Threshold

def toInt : Threshold → Int
  | .number n => n
  | .truth b => if b then 1 else 0

def toValue : Threshold → Value
  | .number n => .integer n
  | .truth b => .bool b

def ofName (name : String) : Except Failure Threshold :=
  match thresholdNames.find? fun entry => entry.1 == Text.asciiCapitals (Text.trim name) with
  | some entry => .ok (.number entry.2)
  | none => .error (.unknownLevel name)

/-- The threshold that a value stands for; a missing one stands for the usual name. -/
def ofValue (usual : String) : Value → Except Failure Threshold
  | .null => ofName usual
  | .integer n => .ok (.number n)
  | .bool b => .ok (.truth b)
  | .text s => ofName s
  | _ => .error .badAttribute

end Threshold

end SourceIndex
