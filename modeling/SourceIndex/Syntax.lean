/-! # Syntax trees

A parser describes a buffer as a tree of nodes.  Of a node only its extent matters here: the
bytes it covers, and the rows and columns where it begins and ends. -/
set_option autoImplicit false
namespace SourceIndex

/-- A place in a buffer by its row and its column in bytes, both counted from zero. -/
structure Point where
  row : Nat
  column : Nat
  deriving DecidableEq, Repr, Inhabited

/-- What a node covers: the bytes from `start` up to but not including `stop`, and the same two
places as points. -/
structure Extent where
  start : Nat
  stop : Nat
  startPoint : Point
  stopPoint : Point
  deriving DecidableEq, Repr, Inhabited

inductive SyntaxNode where
  | node (extent : Extent) (children : List SyntaxNode)
  deriving Repr, Inhabited

namespace SyntaxNode

def extent : SyntaxNode → Extent
  | .node extent _ => extent

def children : SyntaxNode → List SyntaxNode
  | .node _ children => children

end SyntaxNode

/-- The row behind the last one that the extent touches: where it stops at the front of a row,
that row is not touched. -/
def Extent.rowBehind (extent : Extent) : Nat :=
  if extent.stopPoint.column > 0 then extent.stopPoint.row + 1 else extent.stopPoint.row

end SourceIndex
