import SourceIndex.Logging.Placeholder.Shown

/-! # Templates

A template is a text with placeholders.  Values are put into it in order, one for each
placeholder, or the entries of a table by their keys. -/
set_option autoImplicit false
namespace SourceIndex.Template

open Placeholder

def incomplete : Failure := .foreign .badValue "incomplete format"

def unknownLetter (letter : Char) (index : Nat) : Failure :=
  let shown := if 31 < letter.toNat ∧ letter.toNat < 128 then letter else '?'
  .foreign .badValue
    ("unsupported format character '" ++ shown.toString ++ "' (0x"
      ++ String.ofList (Nat.toDigits 16 letter.toNat) ++ ") at index " ++ toString index)

/-- Read a placeholder behind its percent sign, and show a value in its place: what is shown,
what is left to be put in, and what follows. -/
def fillOne (total : Nat) (supply : Supply) (text : List Char) :
    Except Failure (List Char × Supply × List Char) := do
  let (supply, text) ← lookKeyUp supply text
  let (marks, text) := readMarks {} text
  let (request, supply, text) ← readWidth { marks } supply text
  let (request, supply, text) ← readPrecision request supply text
  match skipLength text with
  | [] => .error incomplete
  | letter :: rest =>
    let (v, supply) ← supply.next
    match showAs request letter v with
    | none => .error (unknownLetter letter (total - rest.length - 1))
    | some shown => .ok (place request (← shown), supply, rest)

/-- Fill a text of at most `fuel` more parts.  Two percent signs stand for one. -/
def fillFrom (total : Nat) : Nat → Supply → List Char → Except Failure (List Char × Supply)
  | 0, supply, _ => .ok ([], supply)
  | fuel + 1, supply, text =>
    match text with
    | [] => .ok ([], supply)
    | '%' :: '%' :: rest => do
      let (others, last) ← fillFrom total fuel supply rest
      return ('%' :: others, last)
    | '%' :: rest => do
      let (shown, after, behind) ← fillOne total supply rest
      let (others, last) ← fillFrom total fuel after behind
      return (shown ++ others, last)
    | c :: rest => do
      let (others, last) ← fillFrom total fuel supply rest
      return (c :: others, last)

def fill (template : String) (values : List Value) : Except Failure String := do
  let text := template.toList
  let (filled, left) ← fillFrom text.length (text.length + 1) { values } text
  if left.values.isEmpty then return String.ofList filled else throw .badType

/-- Put the entries of a table into a text.  A placeholder without a key stands for the whole
table, and what is not asked for is left out. -/
def fillEntries (template : String) (entries : Entries) : Except Failure String := do
  let text := template.toList
  let (filled, _) ←
    fillFrom text.length (text.length + 1)
      { values := [.table entries], entries := some entries } text
  return String.ofList filled

end SourceIndex.Template
