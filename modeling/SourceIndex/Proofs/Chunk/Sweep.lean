import SourceIndex.Proofs.Chunk.OwnText
import SourceIndex.Proofs.Chunk.Records

/-! # Records go forward through their file

Chunks share no byte, but two of them may share a row: the one in which the first stops and the
second starts.  So the records of a file go through its lines without turning back, and a line that
a record shares with one behind it is its last line (`chunkFile_sweeps`). -/
set_option autoImplicit false
namespace SourceIndex

/-- The second record starts and stops no earlier than the first, and of the lines of the first only
the last can be one of its own. -/
structure Record.Before (first second : Record) : Prop where
  starts : first.startLine ≤ second.startLine
  stops : first.stopLine ≤ second.stopLine
  shares : first.stopLine - 1 ≤ second.startLine

theorem SourceFile.recordOf_before (file : SourceFile) {code : List UInt8} {left right : Chunk}
    (first : left.OnRows code) (second : right.OnRows code) (apart : left.stop ≤ right.start) :
    (file.recordOf left).Before (file.recordOf right) := by
  obtain ⟨ahead, startRow, stopRow⟩ := first
  obtain ⟨beyond, startRow', stopRow'⟩ := second
  -- the first byte and the last byte of the one chunk, then those of the other
  have within : rowOf code left.start ≤ rowOf code (left.stop - 1) := rowOf_mono code (by omega)
  have between : rowOf code (left.stop - 1) ≤ rowOf code right.start := rowOf_mono code (by omega)
  have behind : rowOf code right.start ≤ rowOf code (right.stop - 1) := rowOf_mono code (by omega)
  constructor <;> simp only [recordOf] <;> omega

namespace Splitter

open SyntaxNode (Nested Located)

/-- The records of the chunks of a tree go forward. -/
theorem records_before (splitter : Splitter) (file : SourceFile) {code : List UInt8}
    {root : SyntaxNode} (nested : Nested code root) (located : Located code root) :
    ((splitter.splitNode code root).map file.recordOf).Pairwise Record.Before := by
  have rows : ∀ chunk ∈ splitter.splitNode code root, chunk.OnRows code :=
    splitNode_onRows nested located
  have order : Chunk.InOrder root.extent.start root.extent.stop (splitter.splitNode code root) :=
    splitNode_inOrder root nested
  rw [List.pairwise_map]
  refine order.pairwise.imp_of_mem ?_
  intro left right inFront inBack apart
  exact file.recordOf_before (rows left inFront) (rows right inBack) apart

end Splitter

/-- The records of a file start and stop in the order of its lines, and of the lines of a record none
but the last is one of a later record.  This holds for every measure and every budget. -/
theorem chunkFile_sweeps (path : Path) (language : String) (splitter : Splitter) (code : List UInt8)
    (root : SyntaxNode) (nested : root.Nested code) (located : root.Located code) :
    ∃ records events,
      chunkFile path (.ok code) language (fun bytes => splitter.split bytes (some root)) =
        .ok (records, events) ∧
      records.Pairwise fun first second =>
        first.startLine ≤ second.startLine ∧ first.stopLine ≤ second.stopLine ∧
          first.stopLine - 1 ≤ second.startLine := by
  refine ⟨_, _, rfl, ?_⟩
  refine (splitter.records_before (.ofBytes path code) nested located).imp ?_
  intro first second before
  exact ⟨before.starts, before.stops, before.shares⟩

/-- The words `a` and `b` in a row that ends with a carriage return, and `c` in the next one. -/
def sharedRow : List UInt8 := [0x61, 0x20, 0x62, 0x0D, 0x0A, 0x63]

/-- Three words; the second node takes in the end of its row. -/
def sharedRowTree : SyntaxNode :=
  .node ⟨0, 6, ⟨0, 0⟩, ⟨1, 1⟩⟩
    [.node ⟨0, 1, ⟨0, 0⟩, ⟨0, 1⟩⟩ [], .node ⟨2, 5, ⟨0, 2⟩, ⟨1, 0⟩⟩ [],
      .node ⟨5, 6, ⟨1, 0⟩, ⟨1, 1⟩⟩ []]

theorem sharedRow_sweeps :
    sharedRowTree.Nested sharedRow ∧ sharedRowTree.Located sharedRow ∧
    ∃ records events,
      chunkFile (.ofString "a.rs") (.ok sharedRow) "rust"
        (fun bytes => Splitter.wordByWord.split bytes (some sharedRowTree)) =
        .ok (records, events) ∧
      records.Pairwise fun first second =>
        first.startLine ≤ second.startLine ∧ first.stopLine ≤ second.stopLine ∧
          first.stopLine - 1 ≤ second.startLine := by
  have nested : sharedRowTree.Nested sharedRow := by decide
  have located : sharedRowTree.Located sharedRow := by decide
  exact ⟨nested, located, chunkFile_sweeps (.ofString "a.rs") "rust" Splitter.wordByWord sharedRow
    sharedRowTree nested located⟩

/-- The first two chunks share the row that both stand in; the third has one of its own. -/
example : Splitter.wordByWord.splitNode sharedRow sharedRowTree =
    [⟨0, 1, 0, 1, 1⟩, ⟨2, 5, 0, 1, 1⟩, ⟨5, 6, 1, 2, 1⟩] := by decide

end SourceIndex
