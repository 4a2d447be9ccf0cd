import SourceIndex.Proofs.Chunk.Greedy
import SourceIndex.Proofs.Chunk.OwnText

/-! # Cuts that stay

Two neighbours among the chunks of a node were too large together when the node was split, and so is
all that is joined to them in front and behind.  Hence the nodes above join chunks of different
children only (`split_keeps_cuts`). -/
set_option autoImplicit false
namespace SourceIndex.Splitter

open Chunk (InOrder Laid)
open SyntaxNode (Nested)

variable {splitter : Splitter} {code : List UInt8}

/-- Two neighbours that are too large together, the first up to one offset, the second from the
other. -/
def CutAt (splitter : Splitter) (code : List UInt8) (chunks : List Chunk) (before after : Nat) :
    Prop :=
  ∃ left right, [left, right] <:+: chunks ∧ left.stop = before ∧ right.start = after ∧
    splitter.budget < splitter.sizeOf code left.start right.stop

theorem CutAt.of_full {chunks : List Chunk} {left right : Chunk}
    (full : splitter.Full code chunks) (neighbours : [left, right] <:+: chunks) :
    splitter.CutAt code chunks left.stop right.start := by
  have both : splitter.Full code [left, right] := full.infix neighbours
  exact ⟨left, right, neighbours, rfl, rfl, (List.isChain_cons_cons.mp both).1⟩

theorem CutAt.of_infix {part chunks : List Chunk} {before after : Nat} (within : part <:+: chunks)
    (cut : splitter.CutAt code part before after) : splitter.CutAt code chunks before after := by
  obtain ⟨left, right, neighbours, ends⟩ := cut
  exact ⟨left, right, neighbours.trans within, ends⟩

/-- On either side of a cut there are only whole chunks. -/
theorem CutAt.apart {low high before after : Nat} {chunks : List Chunk}
    (order : InOrder low high chunks) (cut : splitter.CutAt code chunks before after) :
    ∀ chunk ∈ chunks, chunk.stop ≤ before ∨ after ≤ chunk.start := by
  obtain ⟨left, right, ⟨front, back, rfl⟩, rfl, rfl, _⟩ := cut
  rw [List.append_assoc] at order
  obtain ⟨middle, frontOrder, behind⟩ := order.split
  obtain ⟨ahead, forward, between, onward, backOrder⟩ := behind
  intro chunk member
  rw [List.append_assoc, List.mem_append] at member
  rcases member with inFront | later
  · have bounds := frontOrder.bounds inFront
    exact Or.inl (Nat.le_trans bounds.2.2 (Nat.le_trans ahead forward))
  · rcases List.mem_cons.mp later with rfl | later
    · exact Or.inl (Nat.le_refl _)
    · rcases List.mem_cons.mp later with rfl | inBack
      · exact Or.inr (Nat.le_refl _)
      · exact Or.inr (Nat.le_trans onward (backOrder.bounds inBack).1)

/-- Joining the pieces on either side of a cut does not join over it. -/
theorem merge_cutAt {pieces : List Chunk} {before after : Nat} (laid : Laid code pieces)
    (cut : splitter.CutAt code pieces before after) :
    splitter.CutAt code (splitter.merge code pieces) before after := by
  obtain ⟨left, right, ⟨front, back, rfl⟩, rfl, rfl, tooLarge⟩ := cut
  have shape : front ++ [left, right] ++ back = (front ++ [left]) ++ right :: back := by simp
  rw [shape] at laid ⊢
  obtain ⟨closed, opened, reached, stops, starts, boundary⟩ := merge_last splitter laid.left
  obtain ⟨first, others, result, begins, ends⟩ := mergeInto_head splitter back laid.right
  obtain ⟨leftBoundary, _⟩ := laid.left.aligned left (by simp)
  obtain ⟨_, rightBoundary⟩ := laid.right.aligned right List.mem_cons_self
  rw [List.append_assoc] at laid
  have across : Laid code (left :: right :: back) := laid.right
  have forward : left.start ≤ right.stop := Nat.le_trans across.start_le across.tail.order.2.1
  -- the chunk in front begins no later than the left piece, so the right one does not fit to it
  have refused : splitter.budget < splitter.sizeOf code opened.start right.stop :=
    Nat.lt_of_lt_of_le tooLarge
      (sizeOf_mono boundary leftBoundary rightBoundary starts forward (Nat.le_refl _))
  rw [splitter.merge_append code reached, mergeInto, if_neg (Nat.not_le_of_lt refused), result]
  refine ⟨opened, first, ⟨closed, others, by simp⟩, stops, begins, ?_⟩
  exact Nat.lt_of_lt_of_le refused (sizeOf_mono boundary boundary rightBoundary (Nat.le_refl _)
    (Nat.le_trans starts forward) ends)

/-! ## Along the tree -/

theorem pieces_laid {node : SyntaxNode} (nested : Nested code node) :
    Laid code (splitter.pieces code node) where
  order :=
    ((pieces_inOrder nested).from_lower (Nat.zero_le _)).to_higher (nested.aligned _ (.self _)).2.1
  aligned := by
    intro piece member
    obtain ⟨child, among, inChild⟩ := mem_pieces.mp member
    have ofTree := splitNode_ofTree (nested.child among) piece inChild
    exact ⟨ofTree.startBoundary (nested.child among), ofTree.stopBoundary (nested.child among)⟩

theorem splitNode_full {node : SyntaxNode} (nested : Nested code node) :
    splitter.Full code (splitter.splitNode code node) := by
  rcases node_cases splitter code node with empty | keeps | opens
  · rw [splitNode_of_size_eq_zero empty]
    exact .nil
  · rw [splitNode_of_keeps keeps]
    exact .singleton _
  · rw [splitNode_of_opens opens]
    exact merge_full (pieces_laid nested)

theorem splitNode_infix_pieces {node child : SyntaxNode} (among : child ∈ node.children) :
    splitter.splitNode code child <:+: splitter.pieces code node :=
  List.infix_of_mem_flatten (List.mem_map_of_mem among)

/-- A cut in a node stays a cut in every tree that the node is reached in. -/
theorem splitNode_cutAt {root node : SyntaxNode} {before after : Nat} (nested : Nested code root)
    (reaches : splitter.Reaches code root node)
    (cut : splitter.CutAt code (splitter.splitNode code node) before after) :
    splitter.CutAt code (splitter.splitNode code root) before after := by
  induction reaches with
  | self root => exact cut
  | deeper opens among _ ih =>
      have inChild := ih (nested.child among) cut
      rw [splitNode_of_opens opens]
      exact merge_cutAt (pieces_laid nested) (inChild.of_infix (splitNode_infix_pieces among))

/-- Where two chunks of a node meet, two chunks of the whole tree meet, if all nodes above are over the
budget: one ends where the first does, the next begins where the second does, and no chunk reaches from
one side to the other. -/
theorem split_keeps_cuts (splitter : Splitter) (code : List UInt8) (root node : SyntaxNode)
    (nested : Nested code root) (reaches : splitter.Reaches code root node) (first second : Chunk)
    (neighbours : [first, second] <:+: splitter.splitNode code node) :
    ∃ chunks left right, splitter.split code (some root) = .ok chunks ∧
      [left, right] <:+: chunks ∧ left.stop = first.stop ∧ right.start = second.start ∧
      ∀ chunk ∈ chunks, chunk.stop ≤ first.stop ∨ second.start ≤ chunk.start := by
  have inNode : splitter.CutAt code (splitter.splitNode code node) first.stop second.start :=
    .of_full (splitNode_full (nested.below reaches.contains)) neighbours
  have inTree := splitNode_cutAt nested reaches inNode
  have apart := inTree.apart (splitNode_inOrder root nested)
  obtain ⟨left, right, meet, ends, begins, _⟩ := inTree
  exact ⟨splitter.splitNode code root, left, right, rfl, meet, ends, begins, apart⟩

/-- The words in the middle have a node of their own. -/
def middleWords : SyntaxNode := rowNode 2 9 [rowNode 2 5 [], rowNode 6 9 []]

def sevenWordsTree : SyntaxNode :=
  rowNode 0 13 [rowNode 0 1 [], middleWords, rowNode 10 11 [], rowNode 12 13 []]

theorem middleWords_keep_cut : Nested sevenWords sevenWordsTree ∧
    threeWords.Reaches sevenWords sevenWordsTree middleWords ∧
    [⟨2, 5, 0, 1, 2⟩, ⟨6, 9, 0, 1, 2⟩] <:+: threeWords.splitNode sevenWords middleWords ∧
    ∃ chunks left right, threeWords.split sevenWords (some sevenWordsTree) = .ok chunks ∧
      [left, right] <:+: chunks ∧ left.stop = 5 ∧ right.start = 6 ∧
      ∀ chunk ∈ chunks, chunk.stop ≤ 5 ∨ 6 ≤ chunk.start := by
  have nested : Nested sevenWords sevenWordsTree := by decide
  have opens : threeWords.Opens sevenWords sevenWordsTree := ⟨by decide, List.cons_ne_nil _ _⟩
  have among : middleWords ∈ sevenWordsTree.children :=
    List.mem_cons_of_mem _ List.mem_cons_self
  have reaches : threeWords.Reaches sevenWords sevenWordsTree middleWords :=
    .deeper opens among (.self middleWords)
  have neighbours :
      [⟨2, 5, 0, 1, 2⟩, ⟨6, 9, 0, 1, 2⟩] <:+: threeWords.splitNode sevenWords middleWords := by
    decide
  exact ⟨nested, reaches, neighbours, split_keeps_cuts threeWords sevenWords sevenWordsTree
    middleWords nested reaches ⟨2, 5, 0, 1, 2⟩ ⟨6, 9, 0, 1, 2⟩ neighbours⟩

/-- The chunks on either side of the cut are joined to the words around them. -/
example : threeWords.splitNode sevenWords sevenWordsTree =
    [⟨0, 5, 0, 1, 3⟩, ⟨6, 11, 0, 1, 3⟩, ⟨12, 13, 0, 1, 1⟩] := by decide

end SourceIndex.Splitter
