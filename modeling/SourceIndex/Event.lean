import SourceIndex.Value

/-! # Log events

What the library reports while it works is a list of events in the order in which they
happened.  An event has a level, a name and fields. -/
set_option autoImplicit false
namespace SourceIndex

inductive Level where
  | debug
  | info
  | warning
  | error
  deriving DecidableEq, Repr, Inhabited

structure Event where
  level : Level
  name : String
  fields : Entries
  deriving Inhabited

namespace Event

def debug (name : String) (fields : Entries) : Event := ⟨.debug, name, fields⟩

def info (name : String) (fields : Entries) : Event := ⟨.info, name, fields⟩

def warning (name : String) (fields : Entries) : Event := ⟨.warning, name, fields⟩

end Event

def Value.ofNat (n : Nat) : Value := .integer n

end SourceIndex
