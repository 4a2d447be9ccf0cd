import SourceIndex.Failure
import SourceIndex.Text.Blank
import SourceIndex.Text.Utf8

/-! # The version

The version is the one that was installed, and else the one that a bundled file tells. -/
set_option autoImplicit false
namespace SourceIndex

def plainLineEnds : List Char → List Char
  | '\r' :: '\n' :: rest => '\n' :: plainLineEnds rest
  | '\r' :: rest => '\n' :: plainLineEnds rest
  | c :: rest => c :: plainLineEnds rest
  | [] => []

/-- The version, by the installed one and the bytes of the bundled file, of which either may
be missing. -/
def version (installed : Option String) (bundled : Option (List UInt8)) : Except Failure String :=
  match installed, bundled with
  | some text, _ => .ok text
  | none, none => .ok "unknown"
  | none, some bytes =>
    match Utf8.decodeStrict? bytes with
    | some text => .ok (Text.trim (String.ofList (plainLineEnds text)))
    | none => .error .undecodableDocument

end SourceIndex
