/-! # Characters and filler of a document

White space, line feeds and comments stand between the parts of a document and mean nothing.
Control characters are refused in comments as they are in strings. -/
set_option autoImplicit false
namespace SourceIndex.Toml

inductive Fault where
  | malformed
  | tooManyDigits (digits : Nat)
  deriving DecidableEq, Repr

/-- What a reader took from the front of a text, and what follows it. -/
abbrev Taken (α : Type) := α × List Char

def isSpace (c : Char) : Bool := c = ' ' || c = '\t'

def isBare (c : Char) : Bool := c.isAlphanum || c = '-' || c = '_'

def isIllegal (c : Char) : Bool := (c.toNat < 0x20 && c ≠ '\t') || c.toNat = 0x7F

def isIllegalInLines (c : Char) : Bool := isIllegal c && c ≠ '\n'

def skipSpace (text : List Char) : List Char := text.dropWhile isSpace

def skipLines (text : List Char) : List Char := text.dropWhile fun c => isSpace c || c = '\n'

/-- The text behind a comment that may stand at its front. -/
def skipComment (text : List Char) : Except Fault (List Char) :=
  match text with
  | '#' :: rest =>
    if (rest.takeWhile (· ≠ '\n')).any isIllegal then .error .malformed
    else .ok (rest.dropWhile (· ≠ '\n'))
  | _ => .ok text

def skipFiller : Nat → List Char → Except Fault (List Char)
  | 0, text => .ok text
  | fuel + 1, text =>
    match skipLines text with
    | '#' :: rest => (skipComment ('#' :: rest)).bind (skipFiller fuel)
    | rest => .ok rest

def startsWith (text : List Char) (front : String) : Bool := front.toList.isPrefixOf text

end SourceIndex.Toml
