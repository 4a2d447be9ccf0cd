import SourceIndex.Failure
import SourceIndex.Syntax
import SourceIndex.Text.Blank
import SourceIndex.Text.Utf8

/-! # Splitting a buffer into chunks

A chunk is a span of a buffer that follows the syntax tree and fits a budget.  A node whose
text fits becomes one chunk, and so does a leaf that does not.  Any other node is split into
its children, whose chunks are joined again from left to right as long as the joined span
fits.  A node without weight gives no chunk.

Trees of any depth are split: that the stack of calls can run out is left out, so `recursion` is a
kind of failure that only a foreign splitter gives. -/
set_option autoImplicit false
namespace SourceIndex

inductive Measure where
  | words
  | characters
  deriving DecidableEq, Repr, Inhabited

def Measure.weigh : Measure → List Char → Nat
  | .words, text => Text.wordCount text
  | .characters, text => text.length

def slice (code : List UInt8) (start stop : Nat) : List UInt8 :=
  (code.drop start).take (stop - start)

def weight (measure : Measure) (code : List UInt8) (start stop : Nat) : Nat :=
  measure.weigh (Utf8.decode (slice code start stop))

/-- A span of a buffer: its bytes, the rows it touches and its weight.  `stopRow` is the row
behind the last one it touches. -/
structure Chunk where
  start : Nat
  stop : Nat
  startRow : Nat
  stopRow : Nat
  size : Nat
  deriving DecidableEq, Repr, Inhabited

/-- The budget that chunks are split by.  It is never zero. -/
structure Splitter where
  measure : Measure := .words
  budget : Nat
  budget_pos : 0 < budget
  deriving Repr

namespace Splitter

def ofBudget (measure : Measure) (budget : Int) : Except Failure Splitter :=
  if h : 0 < budget then .ok ⟨measure, budget.toNat, by omega⟩
  else .error (.budgetNotPositive budget)

section
variable (splitter : Splitter) (code : List UInt8)

def sizeOf (start stop : Nat) : Nat := weight splitter.measure code start stop

def chunkOf (extent : Extent) : Chunk where
  start := extent.start
  stop := extent.stop
  startRow := extent.startPoint.row
  stopRow := extent.rowBehind
  size := splitter.sizeOf code extent.start extent.stop

def join (left right : Chunk) : Chunk where
  start := left.start
  stop := right.stop
  startRow := left.startRow
  stopRow := max left.stopRow right.stopRow
  size := splitter.sizeOf code left.start right.stop

/-- Join the chunks behind an open one to it as long as the joined span fits. -/
def mergeInto (current : Chunk) : List Chunk → List Chunk
  | [] => [current]
  | piece :: rest =>
    if splitter.sizeOf code current.start piece.stop ≤ splitter.budget then
      mergeInto (splitter.join code current piece) rest
    else current :: mergeInto piece rest

def merge : List Chunk → List Chunk
  | [] => []
  | piece :: rest => splitter.mergeInto code piece rest

mutual
def splitNode : SyntaxNode → List Chunk
  | .node extent children =>
    let size := splitter.sizeOf code extent.start extent.stop
    -- without a word there is no chunk, and a node without children cannot be split any further
    if size = 0 then []
    else if size ≤ splitter.budget ∨ children.isEmpty then [splitter.chunkOf code extent]
    else splitter.merge code (splitNodes children)

/-- The chunks of several nodes in order, before any are joined. -/
def splitNodes : List SyntaxNode → List Chunk
  | [] => []
  | node :: rest => splitNode node ++ splitNodes rest
end

end

/-- The chunks of a buffer by its syntax tree, which the parser may have failed to give. -/
def split (splitter : Splitter) (code : List UInt8) (tree : Option SyntaxNode) :
    Except Failure (List Chunk) :=
  match tree with
  | some root => .ok (splitter.splitNode code root)
  | none => .error .noSyntaxTree

end Splitter

end SourceIndex
