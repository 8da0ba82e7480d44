import TransitionNetwork.Proofs.Tree.Layout
import TransitionNetwork.Tree.Walk

/-!
# Document order

A walk over an arena that holds the layout of a shape meets its nodes in the order of their numbers,
from the first to the last.
-/

set_option autoImplicit false

namespace TransitionNetwork

namespace Shape

-- What is pending behind the shape, and the bound left for it, are arbitrary, so that the walk over
-- one child can be followed by the walk over the next.
mutual

theorem walk_layout (tree : Tree) (before after : List Node) (shape : Shape)
    (laid : tree.nodes.toList = before ++ shape.layout before.length ++ after) (depth : Nat) :
    ∃ visits : List Tree.Visit, visits.map Tree.Visit.id = List.range' before.length shape.size ∧
      ∀ bound pending visited,
        tree.walk (shape.size + bound) ((before.length, depth) :: pending) visited =
          tree.walk bound pending (visited ++ visits) := by
  cases shape with
  | leaf token col =>
      let node : Node := .leaf token.kind token.text token.line col
      have found : tree.nodes[before.length]? = some node := by
        rw [← Array.getElem?_toList, laid]
        simp [layout, node]
      refine ⟨[⟨before.length, depth, node⟩], by simp [size], ?_⟩
      intro bound pending visited
      rw [size, Nat.add_comm, Tree.walk, found]
      simp [node, Node.children]
  | interior symbol line col children =>
      let node : Node := .interior symbol (numbers (before.length + 1) children).toArray line col
      have found : tree.nodes[before.length]? = some node := by
        rw [← Array.getElem?_toList, laid]
        simp [layout, node]
      obtain ⟨visits, ids, walked⟩ := walk_layoutAll tree (before ++ [node]) after children
        (by rw [laid]; simp [layout, node]) (depth + 1)
      simp only [List.length_append, List.length_singleton] at ids walked
      refine ⟨⟨before.length, depth, node⟩ :: visits, ?_, ?_⟩
      · rw [List.map_cons, ids, size, List.range'_succ]
      · intro bound pending visited
        rw [size, Nat.add_right_comm, Tree.walk, found]
        simp [node, Node.children, walked]

theorem walk_layoutAll (tree : Tree) (before after : List Node) (shapes : List Shape)
    (laid : tree.nodes.toList = before ++ layoutAll before.length shapes ++ after) (depth : Nat) :
    ∃ visits : List Tree.Visit,
      visits.map Tree.Visit.id = List.range' before.length (sizeOfAll shapes) ∧
      ∀ bound pending visited,
        tree.walk (sizeOfAll shapes + bound)
            ((numbers before.length shapes).map (·, depth) ++ pending) visited =
          tree.walk bound pending (visited ++ visits) := by
  cases shapes with
  | nil => exact ⟨[], by simp [sizeOfAll], by simp [sizeOfAll, numbers]⟩
  | cons shape rest =>
      obtain ⟨visits, ids, walked⟩ := walk_layout tree before
        (layoutAll (before.length + shape.size) rest ++ after) shape
        (by rw [laid]; simp [layoutAll]) depth
      obtain ⟨others, otherIds, walkedOthers⟩ := walk_layoutAll tree
        (before ++ shape.layout before.length) after rest (by rw [laid]; simp [layoutAll]) depth
      simp only [List.length_append, length_layout] at otherIds walkedOthers
      refine ⟨visits ++ others, ?_, ?_⟩
      · rw [List.map_append, ids, otherIds, sizeOfAll, List.range'_append_1]
      · intro bound pending visited
        have together : visited ++ visits ++ others = visited ++ (visits ++ others) := by
          rw [← Array.toList_inj]
          simp
        rw [sizeOfAll, Nat.add_assoc, numbers, List.map_cons, List.cons_append, walked,
          walkedOthers, together]

end

/-- The walk over a layout meets the numbers of all nodes in ascending order. -/
theorem preorder_layout (shape : Shape) :
    ∃ visits, Tree.preorder ⟨(shape.layout 0).toArray⟩ Tree.root = .ok visits ∧
      visits.map Tree.Visit.id = List.range shape.size := by
  obtain ⟨visits, ids, walked⟩ := walk_layout ⟨(shape.layout 0).toArray⟩ [] [] shape (by simp) 0
  refine ⟨visits, ?_, ?_⟩
  · have whole := walked 0 [] #[]
    simp only [List.length_nil, Nat.add_zero, Tree.walk] at whole
    simp only [Tree.preorder, Tree.size, List.size_toArray, length_layout, Tree.root]
    rw [whole]
    simp [Except.map]
  · simpa [List.range_eq_range'] using ids

end Shape

end TransitionNetwork
