import SourceIndex.Proofs.Chunk.Merging
import SourceIndex.Proofs.Chunk.Weights
import SourceIndex.Proofs.Syntax.Nesting

/-! # Splitting along a tree

A node is dropped, kept or opened, by its weight.  The chunks of a tree that fits its buffer stand
in order inside the tree's span. -/
set_option autoImplicit false
namespace SourceIndex.Splitter

open Chunk (InOrder)
open SyntaxNode (Contains Nested)

variable (splitter : Splitter) (code : List UInt8)

/-- The weight of what a node covers. -/
def nodeSize (node : SyntaxNode) : Nat := splitter.sizeOf code node.extent.start node.extent.stop

/-- The node becomes one chunk: it fits, or it cannot be split. -/
def Keeps (node : SyntaxNode) : Prop :=
  0 < splitter.nodeSize code node ∧
    (splitter.nodeSize code node ≤ splitter.budget ∨ node.children = [])

/-- The node is split into its children. -/
def Opens (node : SyntaxNode) : Prop :=
  splitter.budget < splitter.nodeSize code node ∧ node.children ≠ []

/-- The chunks of the children of a node, before any are joined. -/
def pieces (node : SyntaxNode) : List Chunk := node.children.flatMap (splitter.splitNode code)

theorem splitNodes_eq_flatMap (nodes : List SyntaxNode) :
    splitter.splitNodes code nodes = nodes.flatMap (splitter.splitNode code) := by
  induction nodes with
  | nil => rw [splitNodes, List.flatMap_nil]
  | cons node rest ih => rw [splitNodes, ih, List.flatMap_cons]

theorem splitNode_eq (node : SyntaxNode) :
    splitter.splitNode code node =
      if splitter.nodeSize code node = 0 then []
      else if splitter.nodeSize code node ≤ splitter.budget ∨ node.children.isEmpty then
        [splitter.chunkOf code node.extent]
      else splitter.merge code (splitter.pieces code node) := by
  obtain ⟨extent, children⟩ := node
  rw [splitNode, splitNodes_eq_flatMap]
  rfl

variable {splitter code}

theorem splitNode_of_size_eq_zero {node : SyntaxNode} (empty : splitter.nodeSize code node = 0) :
    splitter.splitNode code node = [] := by
  rw [splitNode_eq, if_pos empty]

theorem splitNode_of_keeps {node : SyntaxNode} (keeps : splitter.Keeps code node) :
    splitter.splitNode code node = [splitter.chunkOf code node.extent] := by
  obtain ⟨heavy, whole⟩ := keeps
  rw [splitNode_eq, if_neg (Nat.ne_of_gt heavy), if_pos]
  simpa using whole

theorem splitNode_of_opens {node : SyntaxNode} (opens : splitter.Opens code node) :
    splitter.splitNode code node = splitter.merge code (splitter.pieces code node) := by
  obtain ⟨large, children⟩ := opens
  rw [splitNode_eq, if_neg (Nat.ne_of_gt (Nat.zero_lt_of_lt large)), if_neg]
  simp [children, Nat.not_le_of_lt large]

theorem node_cases (splitter : Splitter) (code : List UInt8) (node : SyntaxNode) :
    splitter.nodeSize code node = 0 ∨ splitter.Keeps code node ∨ splitter.Opens code node := by
  by_cases empty : splitter.nodeSize code node = 0
  · exact Or.inl empty
  · have heavy := Nat.pos_of_ne_zero empty
    by_cases fits : splitter.nodeSize code node ≤ splitter.budget
    · exact Or.inr (Or.inl ⟨heavy, Or.inl fits⟩)
    · by_cases leaf : node.children = []
      · exact Or.inr (Or.inl ⟨heavy, Or.inr leaf⟩)
      · exact Or.inr (Or.inr ⟨Nat.lt_of_not_le fits, leaf⟩)

theorem mem_pieces {node : SyntaxNode} {piece : Chunk} :
    piece ∈ splitter.pieces code node ↔
      ∃ child ∈ node.children, piece ∈ splitter.splitNode code child := by
  simp [pieces]

theorem nodeSize_le_of_contains {root node : SyntaxNode} (nested : Nested code root)
    (within : root.Contains node) : splitter.nodeSize code node ≤ splitter.nodeSize code root := by
  have bounds := nested.bounds within
  have aligned := nested.aligned node within
  exact weight_mono splitter.measure (nested.aligned root (.self root)).1 aligned.1 aligned.2
    bounds.1 (nested.forward node within) bounds.2

/-! ## Order -/

theorem siblings_inOrder {high : Nat} (children : List SyntaxNode) : ∀ {low : Nat}, low ≤ high →
    (∀ child ∈ children, low ≤ child.extent.start ∧ child.extent.stop ≤ high ∧
      InOrder child.extent.start child.extent.stop (splitter.splitNode code child)) →
    children.Pairwise (fun left right => left.extent.stop ≤ right.extent.start) →
    InOrder low high (children.flatMap (splitter.splitNode code)) := by
  induction children with
  | nil => intro low order _ _; exact order
  | cons child rest ih =>
      intro low order inside ordered
      obtain ⟨here, later⟩ := List.forall_mem_cons.mp inside
      obtain ⟨behind, orderedRest⟩ := List.pairwise_cons.mp ordered
      rw [List.flatMap_cons]
      apply InOrder.append _ (here.2.2.from_lower here.1)
      apply ih here.2.1 _ orderedRest
      intro next among
      exact ⟨behind next among, (later next among).2⟩

theorem splitNode_inOrder (root : SyntaxNode) : Nested code root →
    InOrder root.extent.start root.extent.stop (splitter.splitNode code root) := by
  induction root using SyntaxNode.children_induction with
  | node extent children ih =>
      intro nested
      have forward := nested.forward _ (.self _)
      rcases node_cases splitter code (.node extent children) with empty | keeps | opens
      · rw [splitNode_of_size_eq_zero empty]
        exact forward
      · rw [splitNode_of_keeps keeps]
        exact ⟨Nat.le_refl _, forward, Nat.le_refl _⟩
      · rw [splitNode_of_opens opens]
        apply splitter.merge_inOrder
        apply siblings_inOrder children forward _ (nested.ordered _ (.self _))
        intro child among
        have bounds := nested.inside _ (.self _) child among
        exact ⟨bounds.1, bounds.2, ih child among (nested.child among)⟩

theorem pieces_inOrder {node : SyntaxNode} (nested : Nested code node) :
    InOrder node.extent.start node.extent.stop (splitter.pieces code node) := by
  apply siblings_inOrder node.children (nested.forward _ (.self _)) _ (nested.ordered _ (.self _))
  intro child among
  have bounds := nested.inside _ (.self _) child among
  exact ⟨bounds.1, bounds.2, splitNode_inOrder child (nested.child among)⟩

/-! ## Spans that are covered -/

/-- What a piece of a node covers lies in the child that the piece comes from. -/
theorem exists_child_of_covers {node : SyntaxNode} {piece : Chunk} {start stop : Nat}
    (nested : Nested code node) (member : piece ∈ splitter.pieces code node)
    (covers : piece.Covers start stop) :
    ∃ child ∈ node.children, piece ∈ splitter.splitNode code child ∧
      child.extent.start ≤ start ∧ stop ≤ child.extent.stop := by
  obtain ⟨child, among, inChild⟩ := mem_pieces.mp member
  have bounds := (splitNode_inOrder child (nested.child among)).bounds inChild
  exact ⟨child, among, inChild, Nat.le_trans bounds.1 covers.1, Nat.le_trans covers.2 bounds.2.2⟩

theorem splitNode_covers_of_child {node child : SyntaxNode} {start stop : Nat}
    (nested : Nested code node) (opens : splitter.Opens code node) (among : child ∈ node.children)
    (covered : ∃ piece ∈ splitter.splitNode code child, piece.Covers start stop) :
    ∃ chunk ∈ splitter.splitNode code node, chunk.Covers start stop := by
  obtain ⟨piece, member, starts, ends⟩ := covered
  obtain ⟨chunk, merged, covers⟩ := splitter.merge_covers code (pieces_inOrder nested)
    (mem_pieces.mpr ⟨child, among, member⟩)
  rw [splitNode_of_opens opens]
  exact ⟨chunk, merged, Nat.le_trans covers.1 starts, Nat.le_trans ends covers.2⟩

/-- What holds of the chunks of kept nodes and of every two chunks in order that fit together holds
of all chunks of a tree. -/
theorem splitNode_forall {P : Chunk → Prop}
    (joins : ∀ left right, P left → P right → left.start ≤ left.stop → left.stop ≤ right.start →
      right.start ≤ right.stop → splitter.sizeOf code left.start right.stop ≤ splitter.budget →
      P (splitter.join code left right))
    (root : SyntaxNode) : Nested code root →
    (∀ node, root.Contains node → splitter.Keeps code node →
      P (splitter.chunkOf code node.extent)) →
    ∀ chunk ∈ splitter.splitNode code root, P chunk := by
  induction root using SyntaxNode.children_induction with
  | node extent children ih =>
      intro nested kept
      rcases node_cases splitter code (.node extent children) with empty | keeps | opens
      · rw [splitNode_of_size_eq_zero empty]
        simp
      · rw [splitNode_of_keeps keeps]
        simpa using kept _ (.self _) keeps
      · rw [splitNode_of_opens opens]
        apply splitter.merge_forall code joins (pieces_inOrder nested)
        intro piece member
        obtain ⟨child, among, member⟩ := mem_pieces.mp member
        apply ih child among (nested.child among) _ piece member
        intro node within keeps
        exact kept node (.deeper among within) keeps

end SourceIndex.Splitter
