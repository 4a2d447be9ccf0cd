import SourceIndex.Value.Toml.Draft
import SourceIndex.Value.Toml.Scalar

/-! # Configuration documents in TOML

`read` takes a whole document.  A document is a sequence of statements: `key = value`, the
header of a table and the header of an element of a list of tables. -/
set_option autoImplicit false
namespace SourceIndex.Toml

/-! ## Values -/

mutual
/-- A value at the front of a text; `fuel` is at least twice the length of the text. -/
def value : Nat → List Char → Except Fault (Taken Value)
  | 0, _ => .error .malformed
  | fuel + 1, text =>
    match text with
    | '"' :: rest =>
      (if startsWith rest "\"\"" then linesString '"' (rest.drop 2) else lineString rest).map
        fun (s, after) => (.text s, after)
    | '\'' :: rest =>
      (if startsWith rest "''" then linesString '\'' (rest.drop 2) else literalString rest).map
        fun (s, after) => (.text s, after)
    | '[' :: rest => do
      match ← skipFiller rest.length rest with
      | ']' :: after => .ok (.list [], after)
      | inner => items fuel inner []
    | '\x7b' :: rest =>
      match skipSpace rest with
      | '\x7d' :: after => .ok (.table [], after)
      | inner => inlineEntries fuel inner [] []
    | _ => scalar text

def items : Nat → List Char → List Value → Except Fault (Taken Value)
  | 0, _, _ => .error .malformed
  | fuel + 1, text, found => do
    let (v, rest) ← value fuel text
    match ← skipFiller rest.length rest with
    | ']' :: after => .ok (.list (v :: found).reverse, after)
    | ',' :: more =>
      match ← skipFiller more.length more with
      | ']' :: after => .ok (.list (v :: found).reverse, after)
      | next => items fuel next (v :: found)
    | _ => .error .malformed

def inlineEntries : Nat → List Char → Entries → List Mark → Except Fault (Taken Value)
  | 0, _, _, _ => .error .malformed
  | fuel + 1, text, found, marks => do
    let (k, rest) ← key text
    match rest with
    | '=' :: more =>
      let (v, rest) ← value fuel (skipSpace more)
      if isClosed marks k then .error .malformed
      else
        let found ← orMalformed (atTable false (addEntry (k.getLast?.getD "") v) k.dropLast found)
        match skipSpace rest with
        | '\x7d' :: after => .ok (.table found, after)
        | ',' :: next =>
          inlineEntries fuel (skipSpace next) found
            (if isCollection v then .closed k :: marks else marks)
        | _ => .error .malformed
    | _ => .error .malformed
end

/-! ## Documents -/

def tableHeader (draft : Draft) (text : List Char) : Except Fault (Taken Draft) := do
  let (k, rest) ← key (skipSpace text)
  if isOpened draft.marks k || isClosed draft.marks k then .error .malformed
  else
    let entries ← orMalformed (atTable true some k draft.entries)
    match rest with
    | ']' :: after =>
      .ok ({ draft with entries := entries, marks := .opened k :: draft.marks, header := k }, after)
    | _ => .error .malformed

def elementHeader (draft : Draft) (text : List Char) : Except Fault (Taken Draft) := do
  let (k, rest) ← key (skipSpace text)
  if isClosed draft.marks k then .error .malformed
  else
    let entries ←
      orMalformed (atTable true (addElement (k.getLast?.getD "")) k.dropLast draft.entries)
    match rest with
    | ']' :: ']' :: after =>
      .ok ({ draft with
              entries := entries, marks := .opened k :: forget k draft.marks, header := k },
        after)
    | _ => .error .malformed

/-- The proper beginnings of a key that have at least one part. -/
def beginnings (k : Key) : List Key :=
  (List.range (k.length - 1)).map fun n => k.take (n + 1)

def assignment (draft : Draft) (text : List Char) : Except Fault (Taken Draft) := do
  let (k, rest) ← key text
  match rest with
  | '=' :: more =>
    let more := skipSpace more
    let (v, after) ← value (2 * more.length + 2) more
    let onTheWay := (beginnings k).map (draft.header ++ ·)
    if onTheWay.any (isOpened draft.marks) then .error .malformed
    else
      let parent := draft.header ++ k.dropLast
      if isClosed draft.marks parent then .error .malformed
      else
        let entries ←
          orMalformed (atTable true (addEntry (k.getLast?.getD "") v) parent draft.entries)
        .ok ({ draft with
            entries := entries
            pending := onTheWay.map .opened ++ draft.pending
            marks := if isCollection v then .closed (draft.header ++ k) :: draft.marks
              else draft.marks },
          after)
  | _ => .error .malformed

/-- One statement; a text that begins with none is left as it is. -/
def statement (draft : Draft) (text : List Char) : Except Fault (Taken Draft) :=
  match text with
  | '[' :: '[' :: rest => elementHeader draft.settle rest
  | '[' :: rest => tableHeader draft.settle rest
  | '#' :: _ => .ok (draft, text)
  | c :: _ =>
    if isBare c ∨ c = '"' ∨ c = '\'' then assignment draft text else .error .malformed
  | [] => .ok (draft, text)

def statements : Nat → Draft → List Char → Except Fault Draft
  | 0, _, _ => .error .malformed
  | fuel + 1, draft, text =>
    match skipSpace text with
    | [] => .ok draft
    | '\n' :: rest => statements fuel draft rest
    | front => do
      let (draft, rest) ← statement draft front
      match ← skipComment (skipSpace rest) with
      | [] => .ok draft
      | '\n' :: after => statements fuel draft after
      | _ => .error .malformed

def unifyLineEnds : List Char → List Char
  | [] => []
  | c :: rest =>
    if c = '\r' ∧ rest.head? = some '\n' then unifyLineEnds rest else c :: unifyLineEnds rest

def read (text : List Char) : Except Fault Entries :=
  let text := unifyLineEnds text
  (statements (text.length + 1) {} text).map Draft.entries

end SourceIndex.Toml
