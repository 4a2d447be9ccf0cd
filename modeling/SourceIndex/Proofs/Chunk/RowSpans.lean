import SourceIndex.Proofs.Chunk.Alignment
import SourceIndex.Proofs.Text.LineFeeds

/-! # Rows of chunks

The row of an offset is the number of line feeds in front of it.  Where a tree gives its points
so, every chunk runs from the row of its first byte to the row of its last byte, however often it
was joined. -/
set_option autoImplicit false
namespace SourceIndex

open Utf8 (lineFeed)

/-- The row of an offset. -/
def rowOf (code : List UInt8) (offset : Nat) : Nat := (code.take offset).count lineFeed

/-- The bytes between an offset and the line feed in front of it. -/
def columnOf (code : List UInt8) (offset : Nat) : Nat :=
  ((code.take offset).reverse.takeWhile (· ≠ lineFeed)).length

/-- The place of an offset. -/
def Point.ofOffset (code : List UInt8) (offset : Nat) : Point :=
  ⟨rowOf code offset, columnOf code offset⟩

theorem rowOf_add_count (code : List UInt8) {low high : Nat} (order : low ≤ high) :
    rowOf code low + (slice code low high).count lineFeed = rowOf code high := by
  rw [rowOf, rowOf, Utf8.take_append_slice code order, List.count_append]

theorem rowOf_mono (code : List UInt8) {low high : Nat} (order : low ≤ high) :
    rowOf code low ≤ rowOf code high := by
  rw [← rowOf_add_count code order]
  exact Nat.le_add_right _ _

/-- The row behind the last one touched is the one behind the row of the last byte. -/
theorem Extent.rowBehind_eq {code : List UInt8} {extent : Extent} {last : Nat}
    (located : extent.stopPoint = Point.ofOffset code extent.stop) (ends : extent.stop = last + 1)
    (inside : last < code.length) : extent.rowBehind = rowOf code last + 1 := by
  obtain ⟨byte, whole⟩ : ∃ byte, code.take (last + 1) = code.take last ++ [byte] :=
    ⟨code[last], by simp⟩
  rw [Extent.rowBehind, located, ends]
  simp only [Point.ofOffset, rowOf, columnOf, whole]
  by_cases breaks : byte = lineFeed
  · simp [breaks]
  · simp [breaks]

/-- The points of the tree are the places of its offsets. -/
def SyntaxNode.Located (code : List UInt8) (root : SyntaxNode) : Prop :=
  ∀ node, root.Contains node → node.extent.startPoint = Point.ofOffset code node.extent.start ∧
    node.extent.stopPoint = Point.ofOffset code node.extent.stop

instance (code : List UInt8) (root : SyntaxNode) : Decidable (root.Located code) :=
  decidable_of_iff (∀ node ∈ root.nodes,
      node.extent.startPoint = Point.ofOffset code node.extent.start ∧
      node.extent.stopPoint = Point.ofOffset code node.extent.stop)
    (by simp only [SyntaxNode.mem_nodes_iff, SyntaxNode.Located])

/-- The rows of the chunk are those of its bytes, of which there is at least one. -/
structure Chunk.OnRows (code : List UInt8) (chunk : Chunk) : Prop where
  nonempty : chunk.start < chunk.stop
  startRow : chunk.startRow = rowOf code chunk.start
  stopRow : chunk.stopRow = rowOf code (chunk.stop - 1) + 1

namespace Splitter

open SyntaxNode (Nested Located)

variable {splitter : Splitter} {code : List UInt8}

theorem chunkOf_onRows {root node : SyntaxNode} (nested : Nested code root)
    (located : Located code root) (within : root.Contains node)
    (keeps : splitter.Keeps code node) : (splitter.chunkOf code node.extent).OnRows code := by
  have nonempty : node.extent.start < node.extent.stop := lt_of_weight_pos splitter.measure keeps.1
  have inBuffer := (nested.aligned node within).2.1
  have points := located node within
  have first : node.extent.startPoint.row = rowOf code node.extent.start := by
    rw [points.1]
    rfl
  have behind : node.extent.rowBehind = rowOf code (node.extent.stop - 1) + 1 :=
    Extent.rowBehind_eq points.2 (by omega) (by omega)
  exact ⟨nonempty, first, behind⟩

theorem join_onRows {left right : Chunk} (first : left.OnRows code) (second : right.OnRows code)
    (order : left.stop ≤ right.start) : (splitter.join code left right).OnRows code where
  nonempty := Nat.lt_trans first.nonempty (Nat.lt_of_le_of_lt order second.nonempty)
  startRow := first.startRow
  stopRow := by
    have ahead := second.nonempty
    have rows : rowOf code (left.stop - 1) ≤ rowOf code (right.stop - 1) :=
      rowOf_mono code (by omega)
    simp only [join]
    rw [first.stopRow, second.stopRow]
    omega

/-- The rows of every chunk of a tree are those of its bytes. -/
theorem splitNode_onRows {root : SyntaxNode} (nested : Nested code root)
    (located : Located code root) :
    ∀ chunk ∈ splitter.splitNode code root, chunk.OnRows code := by
  refine splitNode_forall (P := Chunk.OnRows code) ?_ root nested ?_
  · intro left right first second _ order _ _
    exact join_onRows first second order
  · intro node within keeps
    exact chunkOf_onRows nested located within keeps

/-- Each chunk of a tree holds a byte, starts in the row of its first byte, and stops behind the row of
its last byte: the row of a byte is the number of line feeds in front of it. -/
theorem split_row_spans (splitter : Splitter) (code : List UInt8) (root : SyntaxNode)
    (nested : Nested code root) (located : Located code root) :
    ∃ chunks, splitter.split code (some root) = .ok chunks ∧
      ∀ chunk ∈ chunks, chunk.start < chunk.stop ∧
        chunk.startRow = (code.take chunk.start).count lineFeed ∧
        chunk.stopRow = 1 + (code.take (chunk.stop - 1)).count lineFeed := by
  refine ⟨splitter.splitNode code root, rfl, ?_⟩
  intro chunk member
  obtain ⟨nonempty, startRow, stopRow⟩ := splitNode_onRows nested located chunk member
  exact ⟨nonempty, startRow, stopRow.trans (Nat.add_comm _ 1)⟩

/-- The buffer `a`, `b`, `c` in rows of their own, and a comment that goes on in a fourth row. -/
def fourRows : List UInt8 := [0x61, 0x0A, 0x62, 0x0A, 0x63, 0x23, 0x0A, 0x23]

/-- Two nodes that take in the line feed behind them, one that stops before a comment of two rows. -/
def fourRowsTree : SyntaxNode :=
  .node ⟨0, 8, ⟨0, 0⟩, ⟨3, 1⟩⟩
    [.node ⟨0, 2, ⟨0, 0⟩, ⟨1, 0⟩⟩ [], .node ⟨2, 4, ⟨1, 0⟩, ⟨2, 0⟩⟩ [],
      .node ⟨4, 5, ⟨2, 0⟩, ⟨2, 1⟩⟩ [], .node ⟨5, 8, ⟨2, 1⟩, ⟨3, 1⟩⟩ []]

def fourCharacters : Splitter := ⟨.characters, 4, by decide⟩

theorem fourRows_row_spans : Nested fourRows fourRowsTree ∧ Located fourRows fourRowsTree ∧
    ∃ chunks, fourCharacters.split fourRows (some fourRowsTree) = .ok chunks ∧
      ∀ chunk ∈ chunks, chunk.start < chunk.stop ∧
        chunk.startRow = (fourRows.take chunk.start).count lineFeed ∧
        chunk.stopRow = 1 + (fourRows.take (chunk.stop - 1)).count lineFeed := by
  have nested : Nested fourRows fourRowsTree := by decide
  have located : Located fourRows fourRowsTree := by decide
  exact ⟨nested, located, split_row_spans fourCharacters fourRows fourRowsTree nested located⟩

/-- The first chunk stops at the front of a row, which it does not touch. -/
example : fourCharacters.splitNode fourRows fourRowsTree =
    [⟨0, 4, 0, 2, 4⟩, ⟨4, 8, 2, 4, 4⟩] := by decide

end Splitter

end SourceIndex
