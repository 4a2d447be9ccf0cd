import SourceIndex.Text.Pieces

/-! # Path names

A path is kept in its normal form: how it is anchored and the names it passes through.  Empty
names and single dots are dropped when a path is read; two dots stay, because a link may stand
before them. -/
set_option autoImplicit false
namespace SourceIndex

inductive Anchor where
  | relative
  | root
  /-- At the root, written with exactly two slashes. -/
  | doubleRoot
  deriving DecidableEq, Repr, Inhabited

structure Path where
  anchor : Anchor := .relative
  names : List String := []
  deriving DecidableEq, Repr, Inhabited

namespace Path

def anchorOf : List Char → Anchor
  | '/' :: '/' :: '/' :: _ => .root
  | '/' :: '/' :: _ => .doubleRoot
  | '/' :: _ => .root
  | _ => .relative

def ofString (text : String) : Path :=
  let kept := (Text.pieces '/' text.toList).filter fun name => !name.isEmpty && name != ['.']
  ⟨anchorOf text.toList, kept.map String.ofList⟩

def anchorText : Anchor → String
  | .relative => ""
  | .root => "/"
  | .doubleRoot => "//"

/-- The text of a path; the working directory itself is a dot. -/
def text (path : Path) : String :=
  if path.anchor = .relative ∧ path.names = [] then "."
  else anchorText path.anchor ++ String.intercalate "/" path.names

instance : ToString Path := ⟨text⟩

/-- The entry `name` of a directory.  A name that is itself anchored stands for itself. -/
def child (path : Path) (name : String) : Path :=
  let below := ofString name
  if below.anchor = .relative then { path with names := path.names ++ below.names } else below

def name (path : Path) : String := path.names.getLast?.getD ""

def parent (path : Path) : Path := { path with names := path.names.dropLast }

/-- What follows the last dot of a text, the dot included, and what stands before it. -/
def cutLastDot (text : List Char) : Option (List Char × List Char) :=
  match text.reverse.span (· ≠ '.') with
  | (after, _ :: before) => some (before.reverse, '.' :: after.reverse)
  | (_, []) => none

/-- The suffix of the last name: from its last dot, unless the dot is the first or the last
character. -/
def suffix (path : Path) : String :=
  match cutLastDot path.name.toList with
  | some (before, dotted) =>
    if before.isEmpty ∨ dotted.length = 1 then "" else String.ofList dotted
  | none => ""

end Path

end SourceIndex
