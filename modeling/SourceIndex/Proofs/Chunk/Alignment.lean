import SourceIndex.Proofs.Chunk.Splitting

/-! # Chunks follow the tree

Chunks begin and end where nodes do, and a node that fits, or that cannot be split, is never cut:
all of it lies in one chunk. -/
set_option autoImplicit false
namespace SourceIndex.Splitter

open Chunk (InOrder)
open SyntaxNode (Contains Nested)

variable {splitter : Splitter} {code : List UInt8}

/-- What a chunk of a tree is: it runs from the front of a node to the end of a node, it carries
the weight of its own span, and only a leaf makes it larger than the budget. -/
structure OfTree (splitter : Splitter) (code : List UInt8) (root : SyntaxNode) (chunk : Chunk) :
    Prop where
  starts : ∃ node, root.Contains node ∧ node.extent.start = chunk.start
  ends : ∃ node, root.Contains node ∧ node.extent.stop = chunk.stop
  heavy : 0 < chunk.size
  exact_size : chunk.size = splitter.measure.weigh (Utf8.decode (slice code chunk.start chunk.stop))
  oversized : splitter.budget < chunk.size → ∃ leaf, root.Contains leaf ∧ leaf.children = [] ∧
    leaf.extent.start = chunk.start ∧ leaf.extent.stop = chunk.stop

theorem OfTree.startBoundary {root : SyntaxNode} {chunk : Chunk} (nested : Nested code root)
    (ofTree : splitter.OfTree code root chunk) : Utf8.Boundary code chunk.start := by
  obtain ⟨node, within, same⟩ := ofTree.starts
  exact same ▸ (nested.aligned node within).1

theorem OfTree.stopBoundary {root : SyntaxNode} {chunk : Chunk} (nested : Nested code root)
    (ofTree : splitter.OfTree code root chunk) : Utf8.Boundary code chunk.stop := by
  obtain ⟨node, within, same⟩ := ofTree.ends
  exact same ▸ (nested.aligned node within).2

theorem chunkOf_ofTree {root node : SyntaxNode} (within : root.Contains node)
    (keeps : splitter.Keeps code node) :
    splitter.OfTree code root (splitter.chunkOf code node.extent) where
  starts := ⟨node, within, rfl⟩
  ends := ⟨node, within, rfl⟩
  heavy := keeps.1
  exact_size := rfl
  oversized := by
    intro large
    have leaf := keeps.2.resolve_left (Nat.not_le_of_lt large)
    exact ⟨node, within, leaf, rfl, rfl⟩

theorem join_ofTree {root : SyntaxNode} {left right : Chunk} (nested : Nested code root)
    (first : splitter.OfTree code root left) (second : splitter.OfTree code root right)
    (forward : left.start ≤ left.stop) (onward : left.stop ≤ right.stop)
    (fits : splitter.sizeOf code left.start right.stop ≤ splitter.budget) :
    splitter.OfTree code root (splitter.join code left right) where
  starts := first.starts
  ends := second.ends
  heavy := by
    have mono := weight_mono splitter.measure (first.startBoundary nested)
      (first.startBoundary nested) (first.stopBoundary nested) (Nat.le_refl _) forward onward
    have heavy := first.heavy
    rw [first.exact_size] at heavy
    exact Nat.lt_of_lt_of_le heavy mono
  exact_size := rfl
  oversized := fun large => absurd fits (Nat.not_le_of_lt large)

theorem splitNode_ofTree {root : SyntaxNode} (nested : Nested code root) :
    ∀ chunk ∈ splitter.splitNode code root, splitter.OfTree code root chunk := by
  refine splitNode_forall (P := splitter.OfTree code root) ?_ root nested ?_
  · intro left right first second forward between ahead fits
    exact join_ofTree nested first second forward (Nat.le_trans between ahead) fits
  · intro node within keeps
    exact chunkOf_ofTree within keeps

/-- The chunks of a tree stand in order inside its span, and each of them is one of the tree. -/
theorem split_ofTree (splitter : Splitter) (code : List UInt8) (root : SyntaxNode)
    (nested : Nested code root) :
    ∃ chunks, splitter.split code (some root) = .ok chunks ∧
      chunks.Pairwise (fun left right => left.stop ≤ right.start) ∧
      ∀ chunk ∈ chunks, root.extent.start ≤ chunk.start ∧ chunk.stop ≤ root.extent.stop ∧
        splitter.OfTree code root chunk := by
  have order : InOrder root.extent.start root.extent.stop (splitter.splitNode code root) :=
    splitNode_inOrder root nested
  refine ⟨splitter.splitNode code root, rfl, order.pairwise, ?_⟩
  intro chunk member
  have bounds := order.bounds member
  exact ⟨bounds.1, bounds.2.2, splitNode_ofTree nested chunk member⟩

/-- The buffer `é b` with an ill-formed byte, and `c` in the next row. -/
def twoRows : List UInt8 := [0xC3, 0xA9, 0x20, 0x62, 0xFF, 0x0A, 0x63]

def secondWord : SyntaxNode := .node ⟨3, 5, ⟨0, 3⟩, ⟨0, 5⟩⟩ []

def firstRow : SyntaxNode :=
  .node ⟨0, 6, ⟨0, 0⟩, ⟨1, 0⟩⟩ [.node ⟨0, 2, ⟨0, 0⟩, ⟨0, 2⟩⟩ [], secondWord]

/-- A node for the first row, whose words have nodes of their own, and one for the last word. -/
def twoRowsTree : SyntaxNode :=
  .node ⟨0, 7, ⟨0, 0⟩, ⟨1, 1⟩⟩ [firstRow, .node ⟨6, 7, ⟨1, 0⟩, ⟨1, 1⟩⟩ []]

def twoWords : Splitter := ⟨.words, 2, Nat.two_pos⟩

theorem twoRows_ofTree : Nested twoRows twoRowsTree ∧
    ∃ chunks, twoWords.split twoRows (some twoRowsTree) = .ok chunks ∧
      chunks.Pairwise (fun left right => left.stop ≤ right.start) ∧
      ∀ chunk ∈ chunks, twoRowsTree.extent.start ≤ chunk.start ∧
        chunk.stop ≤ twoRowsTree.extent.stop ∧ twoWords.OfTree twoRows twoRowsTree chunk := by
  have nested : Nested twoRows twoRowsTree := by decide
  exact ⟨nested, split_ofTree twoWords twoRows twoRowsTree nested⟩

/-! ## Nodes that are never cut -/

theorem splitNode_covers {root node : SyntaxNode} (nested : Nested code root)
    (within : root.Contains node) (keeps : splitter.Keeps code node) :
    ∃ chunk ∈ splitter.splitNode code root, chunk.Covers node.extent.start node.extent.stop := by
  induction within with
  | self root =>
      refine ⟨splitter.chunkOf code root.extent, ?_, Nat.le_refl _, Nat.le_refl _⟩
      rw [splitNode_of_keeps keeps]
      exact List.mem_singleton_self _
  | @deeper root child node among within ih =>
      have inTree : root.Contains node := .deeper among within
      rcases node_cases splitter code root with empty | rootKeeps | opens
      · have lighter : splitter.nodeSize code node ≤ splitter.nodeSize code root :=
          nodeSize_le_of_contains nested inTree
        have heavy := keeps.1
        omega
      · refine ⟨splitter.chunkOf code root.extent, ?_, nested.bounds inTree⟩
        rw [splitNode_of_keeps rootKeeps]
        exact List.mem_singleton_self _
      · exact splitNode_covers_of_child nested opens among (ih (nested.child among) keeps)

/-- A node with text that is a leaf or fits the budget lies inside exactly one chunk, however deep
in the tree it stands. -/
theorem split_node_in_one_chunk (splitter : Splitter) (code : List UInt8) (root node : SyntaxNode)
    (nested : Nested code root) (within : root.Contains node)
    (heavy : 0 < splitter.nodeSize code node)
    (whole : node.children = [] ∨ splitter.nodeSize code node ≤ splitter.budget) :
    ∃ chunks, splitter.split code (some root) = .ok chunks ∧
      chunks.countP (fun chunk => decide (chunk.Covers node.extent.start node.extent.stop)) = 1 := by
  refine ⟨splitter.splitNode code root, rfl, ?_⟩
  have nonempty := lt_of_weight_pos splitter.measure heavy
  have order : InOrder root.extent.start root.extent.stop (splitter.splitNode code root) :=
    splitNode_inOrder root nested
  exact order.countP_covers nonempty (splitNode_covers nested within ⟨heavy, whole.symm⟩)

theorem secondWord_in_one_chunk : Nested twoRows twoRowsTree ∧ twoRowsTree.Contains secondWord ∧
    0 < twoWords.nodeSize twoRows secondWord ∧
    (secondWord.children = [] ∨ twoWords.nodeSize twoRows secondWord ≤ twoWords.budget) ∧
    ∃ chunks, twoWords.split twoRows (some twoRowsTree) = .ok chunks ∧
      chunks.countP (fun chunk =>
        decide (chunk.Covers secondWord.extent.start secondWord.extent.stop)) = 1 := by
  have nested : Nested twoRows twoRowsTree := by decide
  have inFirstRow : firstRow.Contains secondWord := .child (by simp [firstRow, SyntaxNode.children])
  have within : twoRowsTree.Contains secondWord :=
    .deeper (by simp [twoRowsTree, SyntaxNode.children]) inFirstRow
  have heavy : 0 < twoWords.nodeSize twoRows secondWord := by decide
  have whole : secondWord.children = [] ∨
      twoWords.nodeSize twoRows secondWord ≤ twoWords.budget := Or.inl rfl
  exact ⟨nested, within, heavy, whole,
    split_node_in_one_chunk twoWords twoRows twoRowsTree secondWord nested within heavy whole⟩

end SourceIndex.Splitter
