import TransitionNetwork.Parser.Basic
import TransitionNetwork.Proofs.Tree.Layout

/-!
# Spines

A parser's frames and its tree seen as one structure: the nonterminals that are still open, each
with the children it has finished, innermost first; or the finished root. Frames and tree are
functions of a spine, so a step on frames and tree is known once the step on the spine is.
-/

set_option autoImplicit false

namespace TransitionNetwork

/-- A nonterminal that is still open, with the children that are finished. -/
structure OpenNode where
  symbol : NonterminalId
  state : StateId
  line : Nat
  col : Nat
  done : List Shape

def OpenNode.shape (node : OpenNode) : Shape :=
  .interior node.symbol node.line node.col node.done

/-- One more finished child. -/
def OpenNode.add (node : OpenNode) (child : Shape) : OpenNode :=
  { node with done := node.done ++ [child] }

/-- The nonterminals that are open, innermost first, or the finished root. -/
inductive Spine where
  | closed (shape : Shape)
  | opened (top : OpenNode) (outer : List OpenNode)

namespace Spine

open Shape

/-- Number of nodes of open nonterminals and of their finished children. -/
def extent : List OpenNode → Nat
  | [] => 0
  | node :: outer => extent outer + 1 + sizeOfAll node.done

/-- The frames of open nonterminals. An open nonterminal comes right after everything outside of
it. -/
def framesOf : List OpenNode → List Frame
  | [] => []
  | node :: outer => ⟨node.symbol, node.state, extent outer⟩ :: framesOf outer

/-- The nodes of open nonterminals and of their finished children in document order. The innermost
one has `below` as further children. -/
def nodesOf (below : List NodeId) : List OpenNode → List Node
  | [] => []
  | node :: outer =>
      nodesOf [extent outer] outer ++
        .interior node.symbol (numbers (extent outer + 1) node.done ++ below).toArray
          node.line node.col ::
        layoutAll (extent outer + 1) node.done

def leavesOf : List OpenNode → List (Token × Nat)
  | [] => []
  | node :: outer => leavesOf outer ++ Shape.leavesOf node.done

/-- The shape of the root if all open nonterminals ended now. -/
def shapeOf (top : OpenNode) : List OpenNode → Shape
  | [] => top.shape
  | next :: outer => shapeOf (next.add top.shape) outer

def frames : Spine → List Frame
  | .closed _ => []
  | .opened top outer => framesOf (top :: outer)

def nodes : Spine → List Node
  | .closed shape => shape.layout 0
  | .opened top outer => nodesOf [] (top :: outer)

def tree (spine : Spine) : Tree :=
  ⟨spine.nodes.toArray⟩

def leaves : Spine → List (Token × Nat)
  | .closed shape => shape.leaves
  | .opened top outer => leavesOf (top :: outer)

def shape : Spine → Shape
  | .closed shape => shape
  | .opened top outer => shapeOf top outer

/-- The innermost nonterminal ends. -/
def close (top : OpenNode) : List OpenNode → Spine
  | [] => .closed top.shape
  | next :: outer => .opened (next.add top.shape) outer

@[simp] theorem length_framesOf (stack : List OpenNode) :
    (framesOf stack).length = stack.length := by
  induction stack with
  | nil => rfl
  | cons node outer ih => simp [framesOf, ih]

@[simp] theorem length_nodesOf (below : List NodeId) (stack : List OpenNode) :
    (nodesOf below stack).length = extent stack := by
  induction stack generalizing below with
  | nil => rfl
  | cons node outer ih => simp [nodesOf, extent, ih]; omega

theorem frames_opened (top : OpenNode) (outer : List OpenNode) :
    (opened top outer).frames = ⟨top.symbol, top.state, extent outer⟩ :: framesOf outer := rfl

theorem frames_close (top : OpenNode) (outer : List OpenNode) :
    (close top outer).frames = framesOf outer := by
  cases outer <;> rfl

theorem tree_close (top : OpenNode) (outer : List OpenNode) :
    (close top outer).tree = (opened top outer).tree := by
  cases outer with
  | nil => simp [tree, close, nodes, nodesOf, OpenNode.shape, layout, extent]
  | cons next outer =>
      simp [tree, close, nodes, nodesOf, OpenNode.shape, OpenNode.add, layout, extent,
        numbers_append, layoutAll_append, numbers, Nat.add_assoc]

theorem leaves_close (top : OpenNode) (outer : List OpenNode) :
    (close top outer).leaves = (opened top outer).leaves := by
  cases outer with
  | nil => simp [leaves, close, leavesOf, OpenNode.shape, Shape.leaves]
  | cons next outer =>
      simp [leaves, close, leavesOf, OpenNode.shape, OpenNode.add, Shape.leaves, Shape.leavesOf]

theorem shape_close (top : OpenNode) (outer : List OpenNode) :
    (close top outer).shape = (opened top outer).shape := by
  cases outer with
  | nil => rfl
  | cons next outer => rfl

/-- The tree of a spine is the layout of its shape, open nonterminals included. -/
theorem tree_eq_layout (spine : Spine) : spine.tree = ⟨(spine.shape.layout 0).toArray⟩ := by
  cases spine with
  | closed shape => rfl
  | opened top outer =>
      induction outer generalizing top with
      | nil => rw [← tree_close, ← shape_close]; rfl
      | cons next outer ih => rw [← tree_close, ← shape_close]; exact ih _

theorem shape?_tree (spine : Spine) : spine.tree.shape? = some spine.shape := by
  rw [tree_eq_layout, shape?_layout]

theorem leaves_shape (spine : Spine) : spine.shape.leaves = spine.leaves := by
  cases spine with
  | closed shape => rfl
  | opened top outer =>
      induction outer generalizing top with
      | nil => rw [← leaves_close, ← shape_close]; rfl
      | cons next outer ih => rw [← leaves_close, ← shape_close]; exact ih _

/-! ## Nodes appended below the innermost nonterminal -/

private theorem modify_middle {α : Type} (before after : List α) (value : α) (change : α → α) :
    (before ++ value :: after).modify before.length change = before ++ change value :: after := by
  induction before with
  | nil => simp
  | cons first rest ih => simp [ih]

private theorem attach_middle (before after : List Node) (parent node : Node) :
    Tree.attach ⟨(before ++ parent :: after).toArray⟩ before.length node =
      ⟨(before ++ parent.addChild (before.length + 1 + after.length) :: after ++ [node]).toArray⟩ := by
  simp only [Tree.attach, List.modify_toArray, modify_middle, List.push_toArray, List.size_toArray,
    List.length_append, List.length_cons, List.append_assoc, List.cons_append, Nat.add_assoc,
    Nat.add_comm 1]

private theorem attach_top (top : OpenNode) (outer : List OpenNode) (node : Node) :
    (opened top outer).tree.attach (extent outer) node =
      ⟨(nodesOf [extent (top :: outer)] (top :: outer) ++ [node]).toArray⟩ := by
  have position : (nodesOf [extent outer] outer).length = extent outer := length_nodesOf _ _
  have attached := attach_middle (nodesOf [extent outer] outer)
    (layoutAll (extent outer + 1) top.done)
    (.interior top.symbol (numbers (extent outer + 1) top.done).toArray top.line top.col) node
  rw [position] at attached
  simp only [tree, nodes, nodesOf, List.append_nil]
  rw [attached]
  simp [extent, Node.addChild]

theorem size_tree (top : OpenNode) (outer : List OpenNode) :
    (opened top outer).tree.size = extent (top :: outer) := by
  simp [tree, nodes, Tree.size]

theorem parentFault?_top (top : OpenNode) (outer : List OpenNode) :
    (opened top outer).tree.parentFault? (extent outer) = none := by
  rw [Tree.parentFault?_eq_none_iff]
  have position : (nodesOf [extent outer] outer).length = extent outer := length_nodesOf _ _
  refine ⟨.interior top.symbol (numbers (extent outer + 1) top.done ++ []).toArray top.line top.col,
    ?_, rfl⟩
  simp only [tree, nodes, nodesOf, List.getElem?_toArray]
  rw [List.getElem?_append_right (by omega), position, Nat.sub_self]
  rfl

/-- A node appended for a nonterminal is the node of the nonterminal opened below. -/
theorem tree_push (top : OpenNode) (outer : List OpenNode) (symbol : NonterminalId)
    (initial next : StateId) (line col : Nat) :
    (opened top outer).tree.attach (extent outer) (.interior symbol #[] line col) =
      (opened ⟨symbol, initial, line, col, []⟩ ({ top with state := next } :: outer)).tree := by
  rw [attach_top]
  simp [tree, nodes, nodesOf, extent, numbers, layoutAll]

/-- A leaf appended is the last finished child of the innermost nonterminal. -/
theorem tree_shift (top : OpenNode) (outer : List OpenNode) (token : Token) (col : Nat)
    (target : StateId) :
    (opened top outer).tree.attach (extent outer) (.leaf token.kind token.text token.line col) =
      (opened { top.add (.leaf token col) with state := target } outer).tree := by
  rw [attach_top]
  simp [tree, nodes, nodesOf, extent, numbers_append, layoutAll_append, numbers, layout,
    OpenNode.add, Nat.add_assoc]

end Spine

end TransitionNetwork
