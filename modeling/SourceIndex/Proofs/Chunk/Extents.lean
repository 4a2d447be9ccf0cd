import SourceIndex.Proofs.Chunk.Splitting

/-! # The numbers in a chunk

What holds of the chunk of each node and of every two chunks that are joined holds of all chunks of a
tree, whether it fits its buffer or not (`splitNode_closed`).  So the rows and the weight of a chunk are
as small as the extents of the nodes (`splitNode_narrow`). -/
set_option autoImplicit false
namespace SourceIndex

/-- The extent is counted in 32 bits, as parsers count bytes and rows. -/
structure Extent.Narrow (extent : Extent) : Prop where
  stop : extent.stop < 4294967296
  startRow : extent.startPoint.row < 4294967296
  stopRow : extent.stopPoint.row < 4294967296

def SyntaxNode.Narrow (root : SyntaxNode) : Prop :=
  ∀ node, root.Contains node → node.extent.Narrow

/-- What follows for a chunk: the row behind the last one may be one more. -/
structure Chunk.Narrow (chunk : Chunk) : Prop where
  stop : chunk.stop < 4294967296
  startRow : chunk.startRow < 4294967296
  stopRow : chunk.stopRow ≤ 4294967296
  size : chunk.size ≤ chunk.stop

namespace Splitter

variable {splitter : Splitter} {code : List UInt8}

theorem mergeInto_closed {P : Chunk → Prop}
    (joins : ∀ left right, P left → P right → P (splitter.join code left right))
    (rest : List Chunk) : ∀ {current : Chunk}, P current → (∀ piece ∈ rest, P piece) →
      ∀ chunk ∈ splitter.mergeInto code current rest, P chunk := by
  induction rest with
  | nil =>
      intro current own _ chunk member
      exact List.mem_singleton.mp member ▸ own
  | cons next rest ih =>
      intro current own others
      obtain ⟨first, later⟩ := List.forall_mem_cons.mp others
      rw [mergeInto]
      split
      · exact ih (joins current next own first) later
      · exact List.forall_mem_cons.mpr ⟨own, ih first later⟩

theorem splitNode_closed {P : Chunk → Prop}
    (joins : ∀ left right, P left → P right → P (splitter.join code left right))
    (root : SyntaxNode) : (∀ node, root.Contains node → P (splitter.chunkOf code node.extent)) →
      ∀ chunk ∈ splitter.splitNode code root, P chunk := by
  induction root using SyntaxNode.children_induction with
  | node extent children ih =>
      intro kept
      rcases node_cases splitter code (.node extent children) with empty | keeps | opens
      · rw [splitNode_of_size_eq_zero empty]
        simp
      · rw [splitNode_of_keeps keeps]
        simpa using kept _ (.self _)
      · have each : ∀ piece ∈ splitter.pieces code (.node extent children), P piece := by
          intro piece member
          obtain ⟨child, among, member⟩ := mem_pieces.mp member
          exact ih child among (fun node within => kept node (.deeper among within)) piece member
        rw [splitNode_of_opens opens]
        cases pieces : splitter.pieces code (.node extent children) with
        | nil =>
            intro chunk impossible
            cases impossible
        | cons first rest =>
            rw [pieces] at each
            obtain ⟨own, others⟩ := List.forall_mem_cons.mp each
            exact mergeInto_closed joins rest own others

theorem chunkOf_narrow {extent : Extent} (narrow : extent.Narrow) :
    (splitter.chunkOf code extent).Narrow where
  stop := narrow.stop
  startRow := narrow.startRow
  stopRow := by
    have row := narrow.stopRow
    simp only [chunkOf, Extent.rowBehind]
    split <;> omega
  size := weight_le splitter.measure _ _

theorem splitNode_narrow {root : SyntaxNode} (narrow : root.Narrow) :
    ∀ chunk ∈ splitter.splitNode code root, chunk.Narrow := by
  refine splitNode_closed ?_ root fun node within => chunkOf_narrow (narrow node within)
  intro left right first second
  exact ⟨second.stop, first.startRow, Nat.max_le.mpr ⟨first.stopRow, second.stopRow⟩,
    weight_le splitter.measure _ _⟩

end Splitter

end SourceIndex
