import SourceIndex.Text.Blank
import SourceIndex.Text.Pieces

/-! # Lines as a syntax tree counts rows

Rows end at line feeds and at nothing else.  A line feed at the very end opens no further
line, and a carriage return before the end of a line does not belong to it. -/
set_option autoImplicit false
namespace SourceIndex.Text

section Rows
variable {α : Type} [DecidableEq α]

/-- The rows of a buffer or text: its pieces, less an empty one at the end. -/
def rows (separator : α) (items : List α) : List (List α) :=
  let all := pieces separator items
  if all.getLast? = some [] then all.dropLast else all

end Rows

def dropReturn (line : List Char) : List Char :=
  if line.getLast? = some '\r' then line.dropLast else line

def splitLines (text : List Char) : List (List Char) := (rows '\n' text).map dropReturn

/-- The lines from `start` up to but not including `stop`, joined by line feeds; nothing when
they hold no word. -/
def joinLines (lines : List (List Char)) (start stop : Nat) : Option (List Char) :=
  let text := List.intercalate ['\n'] ((lines.drop start).take (stop - start))
  if allBlank text then none else some text

end SourceIndex.Text
