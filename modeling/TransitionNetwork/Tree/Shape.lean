import TransitionNetwork.Palette
import TransitionNetwork.Token.Basic
import TransitionNetwork.Tree.Basic

/-!
# Shapes

A tree without its arena: nodes hold their children instead of their numbers. Shapes are what
derivations speak about, and what the walks over an arena are compared with; everything here is by
recursion on the shape.
-/

set_option autoImplicit false

namespace TransitionNetwork

/-- A token at a column, or a nonterminal at a line and a column over its children. -/
inductive Shape where
  | leaf (token : Token) (col : Nat)
  | interior (symbol : NonterminalId) (line col : Nat) (children : List Shape)

namespace Shape

mutual

/-- The tokens at the leaves with their columns, left to right. -/
def leaves : Shape → List (Token × Nat)
  | .leaf token col => [(token, col)]
  | .interior _ _ _ children => leavesOf children

def leavesOf : List Shape → List (Token × Nat)
  | [] => []
  | shape :: rest => shape.leaves ++ leavesOf rest

end

/-- The texts of the leaves, separated by single spaces. -/
def text (shape : Shape) : String :=
  " ".intercalate (shape.leaves.map fun (token, _) => token.text)

mutual

/-- The lines of the rendering at a depth: each with its depth, before indentation. -/
def lines (nameOf : NonterminalId → String) (palette : Palette) (depth : Nat) :
    Shape → List (Nat × String)
  | .leaf token _ =>
      [(depth, palette.detail token.kind.canonicalName ++ " " ++ palette.text token.text)]
  | .interior symbol _ _ children =>
      (depth, palette.symbol (nameOf symbol)) :: linesOf nameOf palette (depth + 1) children

/-- The lines of the renderings of several shapes, one after another. -/
def linesOf (nameOf : NonterminalId → String) (palette : Palette) (depth : Nat) :
    List Shape → List (Nat × String)
  | [] => []
  | shape :: rest => shape.lines nameOf palette depth ++ linesOf nameOf palette depth rest

end

@[simp] theorem leavesOf_append (left right : List Shape) :
    leavesOf (left ++ right) = leavesOf left ++ leavesOf right := by
  induction left with
  | nil => simp [leavesOf]
  | cons shape rest ih => simp [leavesOf, ih]

end Shape

namespace Tree

/-- The shape below a node, provided that it is less than `bound` levels deep. -/
def shapeAt? (tree : Tree) : Nat → NodeId → Option Shape
  | 0, _ => none
  | bound + 1, id =>
      match tree.nodes[id]? with
      | none => none
      | some (.leaf kind text line col) => some (.leaf { kind, text, line } col)
      | some (.interior symbol children line col) =>
          (children.toList.mapM (tree.shapeAt? bound)).map (.interior symbol line col)

/-- The shape of a tree. A tree is no deeper than it has nodes. -/
def shape? (tree : Tree) : Option Shape :=
  tree.shapeAt? tree.size root

end Tree

end TransitionNetwork
