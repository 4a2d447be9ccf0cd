import SourceIndex.Chunk
import SourceIndex.Proofs.Text.Boundaries

/-! # Trees that fit their buffer

What a parser promises of its trees: children lie inside their parents, one behind the other, and
nodes begin and end between characters.  A node may have bytes of its own that none of its
children covers. -/
set_option autoImplicit false
namespace SourceIndex.SyntaxNode

/-- What holds of a node as soon as it holds of its children holds of all nodes. -/
@[elab_as_elim]
theorem children_induction {motive : SyntaxNode → Prop}
    (node : ∀ extent children, (∀ child ∈ children, motive child) →
      motive (.node extent children)) : ∀ tree, motive tree
  | .node extent children => node extent children fun child _ => children_induction node child

/-- The node stands in the tree, at any depth. -/
inductive Contains : SyntaxNode → SyntaxNode → Prop where
  | self (root : SyntaxNode) : Contains root root
  | deeper {root child node : SyntaxNode} (among : child ∈ root.children)
      (within : Contains child node) : Contains root node

theorem Contains.child {root child : SyntaxNode} (among : child ∈ root.children) :
    root.Contains child := .deeper among (.self child)

theorem Contains.trans {root middle node : SyntaxNode} (upper : root.Contains middle)
    (lower : middle.Contains node) : root.Contains node := by
  induction upper with
  | self root => exact lower
  | deeper among _ ih => exact .deeper among (ih lower)

mutual
/-- All nodes of the tree, each before the ones below it. -/
def nodes : SyntaxNode → List SyntaxNode
  | .node extent children => .node extent children :: nodesOf children

/-- All nodes of several trees. -/
def nodesOf : List SyntaxNode → List SyntaxNode
  | [] => []
  | tree :: rest => nodes tree ++ nodesOf rest
end

theorem mem_nodesOf {node : SyntaxNode} (trees : List SyntaxNode) :
    node ∈ nodesOf trees ↔ ∃ tree ∈ trees, node ∈ nodes tree := by
  induction trees with
  | nil => simp [nodesOf]
  | cons tree rest ih => simp [nodesOf, ih]

theorem mem_nodes_iff {node : SyntaxNode} (root : SyntaxNode) :
    node ∈ root.nodes ↔ root.Contains node := by
  induction root using children_induction with
  | node extent children ih =>
      rw [nodes, List.mem_cons, mem_nodesOf]
      constructor
      · rintro (rfl | ⟨child, among, lower⟩)
        · exact .self _
        · exact .deeper among ((ih child among).mp lower)
      · intro within
        cases within with
        | self => exact Or.inl rfl
        | deeper among lower => exact Or.inr ⟨_, among, (ih _ among).mpr lower⟩

/-- The tree fits the buffer. -/
structure Nested (code : List UInt8) (root : SyntaxNode) : Prop where
  forward : ∀ node, root.Contains node → node.extent.start ≤ node.extent.stop
  inside : ∀ node, root.Contains node → ∀ child ∈ node.children,
    node.extent.start ≤ child.extent.start ∧ child.extent.stop ≤ node.extent.stop
  ordered : ∀ node, root.Contains node →
    node.children.Pairwise fun left right => left.extent.stop ≤ right.extent.start
  aligned : ∀ node, root.Contains node →
    Utf8.Boundary code node.extent.start ∧ Utf8.Boundary code node.extent.stop

/-- The conditions can be checked node by node. -/
theorem nested_iff {code : List UInt8} {root : SyntaxNode} :
    Nested code root ↔ ∀ node ∈ root.nodes, node.extent.start ≤ node.extent.stop ∧
      (∀ child ∈ node.children,
        node.extent.start ≤ child.extent.start ∧ child.extent.stop ≤ node.extent.stop) ∧
      node.children.Pairwise (fun left right => left.extent.stop ≤ right.extent.start) ∧
      Utf8.Boundary code node.extent.start ∧ Utf8.Boundary code node.extent.stop := by
  simp only [mem_nodes_iff]
  constructor
  · intro nested node within
    exact ⟨nested.forward node within, nested.inside node within, nested.ordered node within,
      nested.aligned node within⟩
  · intro checks
    exact ⟨fun node within => (checks node within).1, fun node within => (checks node within).2.1,
      fun node within => (checks node within).2.2.1, fun node within => (checks node within).2.2.2⟩

instance (code : List UInt8) (root : SyntaxNode) : Decidable (Nested code root) :=
  decidable_of_iff _ nested_iff.symm

namespace Nested

variable {code : List UInt8} {root node : SyntaxNode}

theorem below (nested : Nested code root) (within : root.Contains node) : Nested code node where
  forward inner lower := nested.forward inner (within.trans lower)
  inside inner lower := nested.inside inner (within.trans lower)
  ordered inner lower := nested.ordered inner (within.trans lower)
  aligned inner lower := nested.aligned inner (within.trans lower)

theorem child (nested : Nested code root) (among : node ∈ root.children) : Nested code node :=
  nested.below (.child among)

/-- A node lies inside the span of the tree. -/
theorem bounds (nested : Nested code root) (within : root.Contains node) :
    root.extent.start ≤ node.extent.start ∧ node.extent.stop ≤ root.extent.stop := by
  induction within with
  | self root => exact ⟨Nat.le_refl _, Nat.le_refl _⟩
  | deeper among _ ih =>
      have outer := nested.inside _ (.self _) _ among
      have inner := ih (nested.child among)
      exact ⟨Nat.le_trans outer.1 inner.1, Nat.le_trans inner.2 outer.2⟩

end Nested

end SourceIndex.SyntaxNode
