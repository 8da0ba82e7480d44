import TransitionNetwork.Proofs.Tree.Layout

/-!
# Shapes inside shapes

The nodes of a layout after the first are the shapes that occur below the whole, and the numbers of
children lead to nodes of the layout.
-/

set_option autoImplicit false

namespace TransitionNetwork

namespace Shape

/-- A shape that occurs below another one, at any depth. -/
inductive Below (inner : Shape) : Shape → Prop where
  | child {symbol : NonterminalId} {line col : Nat} {children : List Shape} :
      inner ∈ children → Below inner (.interior symbol line col children)
  | deeper {symbol : NonterminalId} {line col : Nat} {children : List Shape} {child : Shape} :
      child ∈ children → Below inner child → Below inner (.interior symbol line col children)

theorem Below.of_among {inner child : Shape} {symbol : NonterminalId} {line col : Nat}
    {children : List Shape} (member : child ∈ children) (among : inner = child ∨ Below inner child) :
    Below inner (.interior symbol line col children) := by
  rcases among with rfl | below
  · exact .child member
  · exact .deeper member below

mutual

theorem exists_below_of_layout (tree : Tree) (before after : List Node) (bound : Nat)
    (shape : Shape) (laid : tree.nodes.toList = before ++ shape.layout before.length ++ after)
    (enough : shape.size ≤ bound) (offset : Nat) (positive : 0 < offset)
    (inside : offset < shape.size) :
    ∃ inner, Below inner shape ∧ tree.shapeAt? bound (before.length + offset) = some inner := by
  cases shape with
  | leaf token col =>
      simp only [size] at inside
      omega
  | interior symbol line col children =>
      simp only [size] at enough inside
      obtain ⟨child, member, inner, among, found⟩ := exists_among_of_layoutAll tree
        (before ++ [.interior symbol (numbers (before.length + 1) children).toArray line col])
        after bound children (by rw [laid]; simp [layout]) (by omega) (offset - 1) (by omega)
      refine ⟨inner, .of_among member among, ?_⟩
      have position : before.length + 1 + (offset - 1) = before.length + offset := by omega
      simpa [position] using found

theorem exists_among_of_layoutAll (tree : Tree) (before after : List Node) (bound : Nat)
    (shapes : List Shape)
    (laid : tree.nodes.toList = before ++ layoutAll before.length shapes ++ after)
    (enough : sizeOfAll shapes ≤ bound) (offset : Nat) (inside : offset < sizeOfAll shapes) :
    ∃ child ∈ shapes, ∃ inner, (inner = child ∨ Below inner child) ∧
      tree.shapeAt? bound (before.length + offset) = some inner := by
  cases shapes with
  | nil =>
      simp only [sizeOfAll] at inside
      omega
  | cons shape rest =>
      simp only [sizeOfAll] at enough inside
      -- The node is the first shape itself, lies below it, or belongs to the shapes after it.
      have first : tree.nodes.toList = before ++ shape.layout before.length ++
          (layoutAll (before.length + shape.size) rest ++ after) := by
        rw [laid]
        simp [layoutAll]
      by_cases here : offset < shape.size
      · cases offset with
        | zero =>
            exact ⟨shape, .head _, shape, .inl rfl,
              shapeAt?_layout tree before _ bound shape first (by omega)⟩
        | succ offset =>
            obtain ⟨inner, below, found⟩ := exists_below_of_layout tree before _ bound shape first
              (by omega) (offset + 1) (Nat.succ_pos offset) here
            exact ⟨shape, .head _, inner, .inr below, found⟩
      · obtain ⟨child, member, inner, among, found⟩ := exists_among_of_layoutAll tree
          (before ++ shape.layout before.length) after bound rest (by rw [laid]; simp [layoutAll])
          (by omega) (offset - shape.size) (by omega)
        refine ⟨child, .tail _ member, inner, among, ?_⟩
        have position : before.length + shape.size + (offset - shape.size) =
            before.length + offset := by omega
        simpa [position] using found

end

/-! ## Numbers of children -/

theorem size_pos (shape : Shape) : 0 < shape.size := by
  cases shape <;> simp [size]

theorem lt_of_mem_numbers {start child : Nat} {shapes : List Shape}
    (member : child ∈ numbers start shapes) : child < start + sizeOfAll shapes := by
  induction shapes generalizing start with
  | nil => cases member
  | cons shape rest ih =>
      have positive := shape.size_pos
      simp only [numbers, sizeOfAll, List.mem_cons] at member ⊢
      rcases member with rfl | later
      · omega
      · have bound := ih later
        omega

mutual

theorem child_lt_of_layout {start child : Nat} {node : Node} (shape : Shape)
    (member : node ∈ shape.layout start) (among : child ∈ node.children) :
    child < start + shape.size := by
  cases shape with
  | leaf token col =>
      rw [layout, List.mem_singleton] at member
      subst member
      simp [Node.children] at among
  | interior symbol line col children =>
      rw [layout, List.mem_cons] at member
      rw [size]
      rcases member with rfl | below
      · have bound := lt_of_mem_numbers (by simpa [Node.children] using among)
        omega
      · have bound := child_lt_of_layoutAll children below among
        omega

theorem child_lt_of_layoutAll {start child : Nat} {node : Node} (shapes : List Shape)
    (member : node ∈ layoutAll start shapes) (among : child ∈ node.children) :
    child < start + sizeOfAll shapes := by
  cases shapes with
  | nil => cases member
  | cons shape rest =>
      rw [layoutAll, List.mem_append] at member
      rw [sizeOfAll]
      rcases member with first | later
      · have bound := child_lt_of_layout shape first among
        omega
      · have bound := child_lt_of_layoutAll rest later among
        omega

end

end Shape

end TransitionNetwork
