import SourceIndex.Proofs.Chunk.Alignment

/-! # Text that belongs to no child

A node over the budget gives way to its children, and what it has of its own, in none of them, is
kept only where a joined chunk happens to run over it.  `split_keeps_text_iff` says where that is;
`comment_text_is_lost` shows a buffer where it is not so. -/
set_option autoImplicit false
namespace SourceIndex

/-- The span lies in the node and in none of its children. -/
def SyntaxNode.Owns (node : SyntaxNode) (start stop : Nat) : Prop :=
  node.extent.start ≤ start ∧ stop ≤ node.extent.stop ∧
    ∀ child ∈ node.children, ¬ (child.extent.start ≤ start ∧ stop ≤ child.extent.stop)

namespace Splitter

open SyntaxNode (Contains Nested)
open Utf8 (CharacterAt)

variable {splitter : Splitter} {code : List UInt8}

/-- The split comes down to the node: all nodes above it are opened. -/
inductive Reaches (splitter : Splitter) (code : List UInt8) : SyntaxNode → SyntaxNode → Prop where
  | self (root : SyntaxNode) : Reaches splitter code root root
  | deeper {root child node : SyntaxNode} (opens : splitter.Opens code root)
      (among : child ∈ root.children) (below : Reaches splitter code child node) :
      Reaches splitter code root node

theorem Reaches.contains {root node : SyntaxNode} (reaches : splitter.Reaches code root node) :
    root.Contains node := by
  induction reaches with
  | self root => exact .self root
  | deeper _ among _ ih => exact .deeper among ih

/-- What a chunk of a node covers stays covered in every tree that the node is reached in. -/
theorem splitNode_covers_of_reaches {root node : SyntaxNode} {start stop : Nat}
    (nested : Nested code root) (reaches : splitter.Reaches code root node)
    (covered : ∃ chunk ∈ splitter.splitNode code node, chunk.Covers start stop) :
    ∃ chunk ∈ splitter.splitNode code root, chunk.Covers start stop := by
  induction reaches with
  | self root => exact covered
  | deeper opens among _ ih =>
      exact splitNode_covers_of_child nested opens among (ih (nested.child among) covered)

/-- A character lies in one child at most. -/
theorem child_unique {root left right : SyntaxNode} {start stop : Nat} (nested : Nested code root)
    (nonempty : start < stop) (first : left ∈ root.children) (second : right ∈ root.children)
    (inLeft : left.extent.start ≤ start ∧ stop ≤ left.extent.stop)
    (inRight : right.extent.start ≤ start ∧ stop ≤ right.extent.stop) : left = right := by
  have ordered := nested.ordered root (.self root)
  have related : ∀ a ∈ root.children, ∀ b ∈ root.children,
      a = b ∨ a.extent.stop ≤ b.extent.start ∨ b.extent.stop ≤ a.extent.start :=
    List.Pairwise.forall_of_forall_of_flip (fun _ _ => Or.inl rfl)
      (ordered.imp fun before => Or.inr (Or.inl before))
      (ordered.imp fun before => Or.inr (Or.inr before))
  rcases related left first right second with same | before | after
  · exact same
  · omega
  · omega

/-- Pieces do not cut characters. -/
theorem pieces_apart {node : SyntaxNode} {start stop : Nat} {c : Char} (nested : Nested code node)
    (character : CharacterAt code start stop c)
    (uncovered : ¬ ∃ piece ∈ splitter.pieces code node, piece.Covers start stop) :
    ∀ piece ∈ splitter.pieces code node, piece.stop ≤ start ∨ stop ≤ piece.start := by
  intro piece member
  obtain ⟨child, among, inChild⟩ := mem_pieces.mp member
  have ofTree := splitNode_ofTree (nested.child among) piece inChild
  have front := character.outside (ofTree.startBoundary (nested.child among))
  have back := character.outside (ofTree.stopBoundary (nested.child among))
  rcases front with front | front
  · rcases back with back | back
    · exact Or.inl back
    · exact absurd ⟨piece, member, front, back⟩ uncovered
  · exact Or.inr front

/-- A node that covers text of its own, or of a node that is reached below it, has run over it. -/
theorem bridges_of_covers {root node : SyntaxNode} {start stop : Nat} {c : Char}
    (nested : Nested code root) (character : CharacterAt code start stop c)
    (reaches : splitter.Reaches code root node) (opens : splitter.Opens code node)
    (owns : node.Owns start stop)
    (covered : ∃ chunk ∈ splitter.splitNode code root, chunk.Covers start stop) :
    ∃ outer, splitter.Reaches code root outer ∧ splitter.Opens code outer ∧
      splitter.Bridges code (splitter.pieces code outer) start stop := by
  induction reaches with
  | self root =>
      have uncovered : ¬ ∃ piece ∈ splitter.pieces code root, piece.Covers start stop := by
        rintro ⟨piece, member, covers⟩
        obtain ⟨child, among, _, inChild⟩ := exists_child_of_covers nested member covers
        exact owns.2.2 child among inChild
      rw [splitNode_of_opens opens] at covered
      exact ⟨root, .self root, opens, splitter.bridges_of_merge_covers code (pieces_inOrder nested)
        character.lt (pieces_apart nested character uncovered) covered⟩
  | @deeper root child node rootOpens among below ih =>
      by_cases inPiece : ∃ piece ∈ splitter.pieces code root, piece.Covers start stop
      · obtain ⟨piece, member, covers⟩ := inPiece
        obtain ⟨other, amongToo, inOther, around⟩ := exists_child_of_covers nested member covers
        have nodeBounds := (nested.child among).bounds below.contains
        -- the piece may come from another child, but that one would share the word with `child`
        have same := child_unique nested character.lt amongToo among around
          ⟨Nat.le_trans nodeBounds.1 owns.1, Nat.le_trans owns.2.1 nodeBounds.2⟩
        subst same
        obtain ⟨outer, reached, outerOpens, bridges⟩ :=
          ih (nested.child among) opens owns ⟨piece, inOther, covers⟩
        exact ⟨outer, .deeper rootOpens among reached, outerOpens, bridges⟩
      · rw [splitNode_of_opens rootOpens] at covered
        exact ⟨root, .self root, rootOpens, splitter.bridges_of_merge_covers code
          (pieces_inOrder nested) character.lt (pieces_apart nested character inPiece) covered⟩

/-- A word of a node is in one of its chunks, or a node reached below owns it. -/
theorem covers_or_owns {start stop : Nat} {c : Char} (character : CharacterAt code start stop c)
    (word : Text.isBlank c = false) (root : SyntaxNode) : Nested code root →
    root.extent.start ≤ start ∧ stop ≤ root.extent.stop →
    (∃ chunk ∈ splitter.splitNode code root, chunk.Covers start stop) ∨
      ∃ node, splitter.Reaches code root node ∧ splitter.Opens code node ∧ node.Owns start stop := by
  induction root using SyntaxNode.children_induction with
  | node extent children ih =>
      intro nested inside
      rcases node_cases splitter code (.node extent children) with empty | keeps | opens
      · have heavy := weight_pos_of_character splitter.measure
          (nested.aligned _ (.self _)).1 character word inside.1 inside.2
        exact absurd empty (Nat.ne_of_gt heavy)
      · left
        rw [splitNode_of_keeps keeps]
        exact ⟨_, List.mem_singleton_self _, inside⟩
      · by_cases owned : SyntaxNode.Owns (.node extent children) start stop
        · exact Or.inr ⟨_, .self _, opens, owned⟩
        · have inChild : ∃ child ∈ children,
              child.extent.start ≤ start ∧ stop ≤ child.extent.stop := by
            apply Classical.byContradiction
            intro nowhere
            apply owned
            exact ⟨inside.1, inside.2, fun child among within => nowhere ⟨child, among, within⟩⟩
          obtain ⟨child, among, within⟩ := inChild
          rcases ih child among (nested.child among) within with covered | ⟨node, below, found⟩
          · left
            exact splitNode_covers_of_reaches nested (.deeper opens among (.self child)) covered
          · exact Or.inr ⟨node, .deeper opens among below, found⟩

theorem covers_iff {root : SyntaxNode} {start stop : Nat} {c : Char} (nested : Nested code root)
    (character : CharacterAt code start stop c) (word : Text.isBlank c = false)
    (inside : root.extent.start ≤ start ∧ stop ≤ root.extent.stop) :
    (∃ chunk ∈ splitter.splitNode code root, chunk.Covers start stop) ↔
      ∀ node, splitter.Reaches code root node → splitter.Opens code node → node.Owns start stop →
        ∃ outer, splitter.Reaches code root outer ∧ splitter.Opens code outer ∧
          splitter.Bridges code (splitter.pieces code outer) start stop := by
  constructor
  · intro covered node reaches opens owns
    exact bridges_of_covers nested character reaches opens owns covered
  · intro bridged
    rcases covers_or_owns character word root nested inside with covered | ⟨node, reaches, opens, owns⟩
    · exact covered
    · obtain ⟨outer, reached, outerOpens, bridges⟩ := bridged node reaches opens owns
      apply splitNode_covers_of_reaches nested reached
      rw [splitNode_of_opens outerOpens]
      exact splitter.merge_covers_of_bridges code
        (pieces_inOrder (nested.below reached.contains)) bridges

/-- Splitting keeps all words of a tree exactly if each word that an opened node has to itself is
bridged by that node or by an opened node above it: there the chunk that is open in front of the
word fits the budget together with the piece behind it. -/
theorem split_keeps_text_iff (splitter : Splitter) (code : List UInt8) (root : SyntaxNode)
    (nested : Nested code root) :
    (∃ chunks, splitter.split code (some root) = .ok chunks ∧
      ∀ start stop c, CharacterAt code start stop c → Text.isBlank c = false →
        root.extent.start ≤ start → stop ≤ root.extent.stop →
        ∃ chunk ∈ chunks, chunk.Covers start stop) ↔
    ∀ node, splitter.Reaches code root node → splitter.Opens code node →
      ∀ start stop c, CharacterAt code start stop c → Text.isBlank c = false →
        node.Owns start stop →
        ∃ outer, splitter.Reaches code root outer ∧ splitter.Opens code outer ∧
          splitter.Bridges code (splitter.pieces code outer) start stop := by
  constructor
  · rintro ⟨chunks, result, keeps⟩ node reaches opens start stop c character word owns
    cases result
    have bounds := nested.bounds reaches.contains
    have inside : root.extent.start ≤ start ∧ stop ≤ root.extent.stop :=
      ⟨Nat.le_trans bounds.1 owns.1, Nat.le_trans owns.2.1 bounds.2⟩
    have covered := keeps start stop c character word inside.1 inside.2
    exact (covers_iff nested character word inside).mp covered node reaches opens owns
  · intro bridged
    refine ⟨splitter.splitNode code root, rfl, ?_⟩
    intro start stop c character word before after
    apply (covers_iff nested character word ⟨before, after⟩).mpr
    intro node reaches opens owns
    exact bridged node reaches opens start stop c character word owns

/-! ## A comment that loses its text -/

/-- The buffer `/* a */`. -/
def comment : List UInt8 := [0x2F, 0x2A, 0x20, 0x61, 0x20, 0x2A, 0x2F]

/-- A node in the first row. -/
def rowNode (start stop : Nat) (children : List SyntaxNode) : SyntaxNode :=
  .node ⟨start, stop, ⟨0, start⟩, ⟨0, stop⟩⟩ children

/-- A file that holds the comment, whose only tokens are the two marks around it. -/
def commentTree : SyntaxNode := rowNode 0 7 [rowNode 0 7 [rowNode 0 2 [], rowNode 5 7 []]]

/-- Chunks of one word. -/
def wordByWord : Splitter := ⟨.words, 1, Nat.one_pos⟩

theorem comment_fits : Nested comment commentTree ∧
    ((∃ chunks, wordByWord.split comment (some commentTree) = .ok chunks ∧
      ∀ start stop c, CharacterAt comment start stop c → Text.isBlank c = false →
        commentTree.extent.start ≤ start → stop ≤ commentTree.extent.stop →
        ∃ chunk ∈ chunks, chunk.Covers start stop) ↔
    ∀ node, wordByWord.Reaches comment commentTree node → wordByWord.Opens comment node →
      ∀ start stop c, CharacterAt comment start stop c → Text.isBlank c = false →
        node.Owns start stop →
        ∃ outer, wordByWord.Reaches comment commentTree outer ∧ wordByWord.Opens comment outer ∧
          wordByWord.Bridges comment (wordByWord.pieces comment outer) start stop) := by
  have nested : Nested comment commentTree := by decide
  exact ⟨nested, split_keeps_text_iff wordByWord comment commentTree nested⟩

/-- The word inside the comment is in no chunk. -/
theorem comment_text_is_lost : Nested comment commentTree ∧ CharacterAt comment 3 4 'a' ∧
    ¬ ∃ chunks, wordByWord.split comment (some commentTree) = .ok chunks ∧
      ∀ start stop c, CharacterAt comment start stop c → Text.isBlank c = false →
        commentTree.extent.start ≤ start → stop ≤ commentTree.extent.stop →
        ∃ chunk ∈ chunks, chunk.Covers start stop := by
  have letter : CharacterAt comment 3 4 'a' := ⟨by decide, by decide, by decide⟩
  refine ⟨by decide, letter, ?_⟩
  rintro ⟨chunks, result, keeps⟩
  cases result
  have marks : wordByWord.splitNode comment commentTree =
      [⟨0, 2, 0, 1, 1⟩, ⟨5, 7, 0, 1, 1⟩] := by decide
  have covered := keeps 3 4 'a' letter (by decide) (by decide) (by decide)
  rw [marks] at covered
  exact absurd covered (by decide)

end Splitter

end SourceIndex
