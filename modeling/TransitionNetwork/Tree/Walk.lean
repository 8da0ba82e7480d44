import TransitionNetwork.Palette
import TransitionNetwork.Tree.Basic

/-!
# Walking a tree

A walk in document order with its own stack of pending nodes, because trees can nest deeper than
recursion on the native stack allows. Rendering and leaf text are both read off the walk.
-/

set_option autoImplicit false

namespace TransitionNetwork

namespace Tree

/-- A node met on a walk: its number, its depth below the start of the walk, and what it is. -/
structure Visit where
  id : NodeId
  depth : Nat
  node : Node
  deriving DecidableEq, Repr

/-- Visits the pending nodes and everything below them, first to last; `pending` pairs numbers with
depths. Every node of a tree is visited at most once, so a bound of the tree's size is never met. -/
def walk (tree : Tree) :
    Nat → List (NodeId × Nat) → Array Visit → Except Fault (Array Visit)
  | _, [], visited => .ok visited
  | 0, _ :: _, _ => .error .unsettled
  | bound + 1, (id, depth) :: pending, visited =>
      match tree.nodes[id]? with
      | none => .error (.nodeNotFound id)
      | some node =>
          tree.walk bound (node.children.toList.map (·, depth + 1) ++ pending)
            (visited.push { id, depth, node })

/-- The nodes below and including a node, in document order. -/
def preorder (tree : Tree) (id : NodeId) : Except Fault (List Visit) :=
  (tree.walk tree.size [(id, 0)] #[]).map Array.toList

/-- The texts of the leaves below a node in document order, separated by single spaces. -/
def leafText (tree : Tree) (id : NodeId) : Except Fault String :=
  (tree.preorder id).map fun visits =>
    " ".intercalate (visits.filterMap fun visit => visit.node.text?)

end Tree

namespace Node

/-- The rendering of a node without its indentation: a nonterminal's name, or the kind and the
quoted text of a token. -/
def render (nameOf : NonterminalId → String) (palette : Palette) : Node → String
  | .interior symbol .. => palette.symbol (nameOf symbol)
  | .leaf kind text .. => palette.detail kind.canonicalName ++ " " ++ palette.text text

end Node

namespace Tree

def indent (depth : Nat) : String :=
  "".pushn ' ' (2 * depth)

/-- The rendering of a whole tree: one line for each node in document order. -/
def render (tree : Tree) (nameOf : NonterminalId → String) (palette : Palette) :
    Except Fault String :=
  (tree.preorder root).map fun visits =>
    String.join (visits.map fun visit =>
      indent visit.depth ++ visit.node.render nameOf palette ++ "\n")

end Tree

/-- The members of a list taken alternately from the front and from the back, each with the number
of members still there before it is taken. -/
def takeEnds {α : Type} : List α → List (Nat × α)
  | [] => []
  | first :: rest =>
      (rest.length + 1, first) ::
        match rest.getLast? with
        | none => []
        | some last => (rest.length, last) :: takeEnds rest.dropLast
  termination_by members => members.length
  decreasing_by simp only [List.length_dropLast, List.length_cons]; omega

end TransitionNetwork
