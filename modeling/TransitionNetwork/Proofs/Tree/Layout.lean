import TransitionNetwork.Tree.Shape

/-!
# Layout of shapes

The arena that holds a shape in document order: a node is followed by everything below its first
child, then by everything below its second child, and so on. The shape can be read back from every
arena that contains its layout.
-/

set_option autoImplicit false

namespace TransitionNetwork

namespace Shape

mutual

def size : Shape → Nat
  | .leaf .. => 1
  | .interior _ _ _ children => sizeOfAll children + 1

def sizeOfAll : List Shape → Nat
  | [] => 0
  | shape :: rest => shape.size + sizeOfAll rest

end

/-- The numbers of several shapes that are laid out one after another. -/
def numbers (start : NodeId) : List Shape → List NodeId
  | [] => []
  | shape :: rest => start :: numbers (start + shape.size) rest

mutual

/-- The nodes in document order, numbered from `start`. -/
def layout (start : NodeId) : Shape → List Node
  | .leaf token col => [.leaf token.kind token.text token.line col]
  | .interior symbol line col children =>
      .interior symbol (numbers (start + 1) children).toArray line col ::
        layoutAll (start + 1) children

def layoutAll (start : NodeId) : List Shape → List Node
  | [] => []
  | shape :: rest => shape.layout start ++ layoutAll (start + shape.size) rest

end

theorem numbers_append (start : NodeId) (left right : List Shape) :
    numbers start (left ++ right) = numbers start left ++ numbers (start + sizeOfAll left) right := by
  induction left generalizing start with
  | nil => simp [numbers, sizeOfAll]
  | cons shape rest ih => simp [numbers, sizeOfAll, ih, Nat.add_assoc]

theorem layoutAll_append (start : NodeId) (left right : List Shape) :
    layoutAll start (left ++ right) =
      layoutAll start left ++ layoutAll (start + sizeOfAll left) right := by
  induction left generalizing start with
  | nil => simp [layoutAll, sizeOfAll]
  | cons shape rest ih => simp [layoutAll, sizeOfAll, ih, Nat.add_assoc]

@[simp] theorem layoutAll_singleton (start : NodeId) (shape : Shape) :
    layoutAll start [shape] = shape.layout start := by
  simp [layoutAll]

mutual

@[simp] theorem length_layout (start : NodeId) (shape : Shape) :
    (shape.layout start).length = shape.size := by
  cases shape with
  | leaf token col => simp [layout, size]
  | interior symbol line col children =>
      simp [layout, size, length_layoutAll (start + 1) children]

@[simp] theorem length_layoutAll (start : NodeId) (shapes : List Shape) :
    (layoutAll start shapes).length = sizeOfAll shapes := by
  cases shapes with
  | nil => simp [layoutAll, sizeOfAll]
  | cons shape rest =>
      simp [layoutAll, sizeOfAll, length_layout start shape,
        length_layoutAll (start + shape.size) rest]

end

mutual

/-- A shape is read back from every arena that contains its layout. Its own size bounds how deep it
is. -/
theorem shapeAt?_layout (tree : Tree) (before after : List Node) (bound : Nat) (shape : Shape)
    (laid : tree.nodes.toList = before ++ shape.layout before.length ++ after)
    (enough : shape.size ≤ bound) : tree.shapeAt? bound before.length = some shape := by
  cases bound with
  | zero => cases shape <;> simp [size] at enough
  | succ bound =>
      cases shape with
      | leaf token col =>
          have found : tree.nodes[before.length]? =
              some (.leaf token.kind token.text token.line col) := by
            rw [← Array.getElem?_toList, laid]
            simp [layout]
          simp [Tree.shapeAt?, found]
      | interior symbol line col children =>
          let node : Node :=
            .interior symbol (numbers (before.length + 1) children).toArray line col
          have found : tree.nodes[before.length]? = some node := by
            rw [← Array.getElem?_toList, laid]
            simp [layout, node]
          have below := mapM_layoutAll tree (before ++ [node]) after bound children
            (by rw [laid]; simp [layout, node]) (by simp only [size] at enough; omega)
          simp only [List.length_append, List.length_singleton] at below
          simp [Tree.shapeAt?, found, node, below]

theorem mapM_layoutAll (tree : Tree) (before after : List Node) (bound : Nat)
    (shapes : List Shape)
    (laid : tree.nodes.toList = before ++ layoutAll before.length shapes ++ after)
    (enough : sizeOfAll shapes ≤ bound) :
    (numbers before.length shapes).mapM (tree.shapeAt? bound) = some shapes := by
  cases shapes with
  | nil => simp [numbers]
  | cons shape rest =>
      have first := shapeAt?_layout tree before (layoutAll (before.length + shape.size) rest ++ after)
        bound shape (by rw [laid]; simp [layoutAll]) (by simp only [sizeOfAll] at enough; omega)
      have others := mapM_layoutAll tree (before ++ shape.layout before.length) after bound rest
        (by rw [laid]; simp [layoutAll]) (by simp only [sizeOfAll] at enough; omega)
      simp only [List.length_append, length_layout] at others
      simp [numbers, first, others]

end

theorem shape?_layout (shape : Shape) :
    Tree.shape? ⟨(shape.layout 0).toArray⟩ = some shape := by
  refine shapeAt?_layout _ [] [] _ shape (by simp) ?_
  simp [Tree.size]

end Shape

end TransitionNetwork
