import SourceIndex.Value.Json
import SourceIndex.Value.Toml.Filler

/-! # Strings of a document

A string stands between single or double quotes, on one line or on several.  Only double quotes
know escapes. -/
set_option autoImplicit false
namespace SourceIndex.Toml

def literalString (text : List Char) : Except Fault (Taken String) :=
  let inside := text.takeWhile (· ≠ '\'')
  match text.dropWhile (· ≠ '\'') with
  | _ :: rest =>
    if inside.any isIllegal then .error .malformed else .ok (String.ofList inside, rest)
  | [] => .error .malformed

def hexNumber : Nat → Nat → List Char → Except Fault (Taken Nat)
  | 0, n, text => .ok (n, text)
  | count + 1, n, text =>
    match text with
    | c :: rest =>
      match Json.hexValue? c with
      | some d => hexNumber count (n * 16 + d) rest
      | none => .error .malformed
    | [] => .error .malformed

def hexCharacter (count : Nat) (text : List Char) : Except Fault (Taken (List Char)) := do
  let (n, rest) ← hexNumber count 0 text
  if n < 0xD800 ∨ (0xDFFF < n ∧ n < 0x110000) then .ok ([Char.ofNat n], rest)
  else .error .malformed

/-- What follows a backslash in a string between double quotes.  In a string of several lines a
backslash at the end of a line takes all white space behind it away. -/
def escape (manyLines : Bool) (text : List Char) : Except Fault (Taken (List Char)) :=
  match text with
  | [] => .error .malformed
  | c :: rest =>
    if manyLines && c = '\n' then .ok ([], skipLines rest)
    else if manyLines && isSpace c then
      match skipSpace rest with
      | [] => .ok ([], [])
      | '\n' :: after => .ok ([], skipLines after)
      | _ => .error .malformed
    else
      match c with
      | 'b' => .ok ([Char.ofNat 8], rest)
      | 't' => .ok (['\t'], rest)
      | 'n' => .ok (['\n'], rest)
      | 'f' => .ok ([Char.ofNat 12], rest)
      | 'r' => .ok (['\r'], rest)
      | '"' => .ok (['"'], rest)
      | '\\' => .ok (['\\'], rest)
      | 'u' => hexCharacter 4 rest
      | 'U' => hexCharacter 8 rest
      | _ => .error .malformed

def basicString (manyLines : Bool) : Nat → List Char → List Char → Except Fault (Taken (List Char))
  | 0, _, _ => .error .malformed
  | fuel + 1, found, text =>
    match text with
    | [] => .error .malformed
    | '"' :: rest =>
      if !manyLines then .ok (found.reverse, rest)
      else if startsWith rest "\"\"" then .ok (found.reverse, rest.drop 2)
      else basicString manyLines fuel ('"' :: found) rest
    | '\\' :: rest => do
      let (characters, after) ← escape manyLines rest
      basicString manyLines fuel (characters.reverse ++ found) after
    | c :: rest =>
      if (if manyLines then isIllegalInLines c else isIllegal c) then .error .malformed
      else basicString manyLines fuel (c :: found) rest

def literalLines : List Char → List Char → Except Fault (Taken (List Char))
  | _, [] => .error .malformed
  | found, c :: rest =>
    if c = '\'' && startsWith rest "''" then .ok (found.reverse, rest.drop 2)
    else if isIllegalInLines c then .error .malformed
    else literalLines (c :: found) rest

/-- Up to two more quotes at the end of a string of several lines belong to it. -/
def trailingQuotes (quote : Char) (inside : List Char) (rest : List Char) : String × List Char :=
  match rest with
  | a :: b :: after =>
    if a = quote ∧ b = quote then (String.ofList (inside ++ [quote, quote]), after)
    else if a = quote then (String.ofList (inside ++ [quote]), b :: after)
    else (String.ofList inside, rest)
  | [a] =>
    if a = quote then (String.ofList (inside ++ [quote]), []) else (String.ofList inside, rest)
  | [] => (String.ofList inside, rest)

def dropLineFeed : List Char → List Char
  | '\n' :: rest => rest
  | text => text

def linesString (quote : Char) (text : List Char) : Except Fault (Taken String) := do
  let text := dropLineFeed text
  let (inside, rest) ←
    if quote = '"' then basicString true (text.length + 1) [] text else literalLines [] text
  .ok (trailingQuotes quote inside rest)

def lineString (text : List Char) : Except Fault (Taken String) := do
  let (inside, rest) ← basicString false (text.length + 1) [] text
  .ok (String.ofList inside, rest)

end SourceIndex.Toml
