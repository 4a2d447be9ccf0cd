import SourceIndex.Value.Toml.Quoted

/-! # Keys of a document

A key is a sequence of parts with dots between them.  A part is a run of plain characters or a
string of one line. -/
set_option autoImplicit false
namespace SourceIndex.Toml

abbrev Key := List String

def keyPart (text : List Char) : Except Fault (Taken String) :=
  match text with
  | '\'' :: rest => literalString rest
  | '"' :: rest => lineString rest
  | c :: _ =>
    if isBare c then .ok (String.ofList (text.takeWhile isBare), text.dropWhile isBare)
    else .error .malformed
  | [] => .error .malformed

def keyParts : Nat → Key → List Char → Except Fault (Taken Key)
  | 0, _, _ => .error .malformed
  | fuel + 1, found, text => do
    let (part, rest) ← keyPart text
    match skipSpace rest with
    | '.' :: more => keyParts fuel (found ++ [part]) (skipSpace more)
    | after => .ok (found ++ [part], after)

def key (text : List Char) : Except Fault (Taken Key) := keyParts (text.length + 1) [] text

end SourceIndex.Toml
