import TransitionNetwork.Proofs.Parser.Exactness
import TransitionNetwork.Proofs.Parser.Positions
import TransitionNetwork.Proofs.Tree.Subtrees

/-!
# Parsing what is below a nonterminal

Inside a larger input a nonterminal is closed because nothing else is left for it, because of the
token after it, or at the end. None of this matters to what is below it: greediness with fewer
tokens to come is weaker, so the shape below a nonterminal is a greedy derivation of its own leaves,
and the only one.
-/

set_option autoImplicit false

namespace TransitionNetwork

namespace Grammar

open Shape

section Isolation

variable {grammar : AcceleratedGrammar} {following : List (Token × Nat)}

theorem Halts.isolate {symbol : NonterminalId} {state : StateId} {leading : List (Token × Nat)}
    (halts : Halts grammar symbol state (leading ++ following)) :
    Halts grammar symbol state leading := by
  intro token col rest label table upcoming classified found
  subst upcoming
  exact halts rfl classified found

theorem Greedy.isolate {leading : List (Token × Nat)} {shape : Shape}
    (greedy : Greedy grammar (leading ++ following) shape) : Greedy grammar leading shape := by
  generalize upcoming : leading ++ following = tokens at greedy
  induction greedy generalizing leading with
  | leaf => exact .leaf
  | interior found path ends filled halts _ ih =>
      subst upcoming
      refine .interior found path ends filled halts.isolate ?_
      intro left child right split
      exact ih left child right split (by rw [List.append_assoc])

theorem GreedyAll.isolate {shapes : List Shape} (greedy : GreedyAll grammar following shapes) :
    GreedyAll grammar [] shapes := by
  intro left child right split
  rw [List.append_nil]
  exact (greedy left child right split).isolate

theorem GreedyAll.of_below {inner : Shape} {symbol : NonterminalId} {line col : Nat}
    {children : List Shape} (greedy : GreedyAll grammar following children)
    (below : Below inner (.interior symbol line col children)) :
    ∃ after, Greedy grammar after inner := by
  generalize whole : Shape.interior symbol line col children = shape at below
  induction below generalizing following symbol line col children with
  | child member =>
      cases whole
      obtain ⟨left, right, split⟩ := List.append_of_mem member
      exact ⟨_, greedy left inner right split⟩
  | @deeper _ _ _ _ child member below ih =>
      cases whole
      obtain ⟨left, right, split⟩ := List.append_of_mem member
      cases greedy left child right split with
      | leaf => cases below
      | interior _ _ _ _ _ among => exact ih among rfl

/-- Cut off from what follows it, a nonterminal of a greedy derivation is the root of one. -/
theorem Greedy.greedyFrom {symbol : NonterminalId} {line col : Nat} {children : List Shape}
    (greedy : Greedy grammar following (.interior symbol line col children)) :
    GreedyFrom grammar symbol (.interior symbol 0 0 children) := by
  cases greedy with
  | interior found path ends _ _ among =>
      exact .root found path ends (GreedyAll.isolate among)

end Isolation

end Grammar

namespace Shape

theorem Placed.of_below {inner : Shape} {symbol : NonterminalId} {line col : Nat}
    {children : List Shape} (placed : ∀ child ∈ children, Placed child)
    (below : Below inner (.interior symbol line col children)) : Placed inner := by
  generalize whole : Shape.interior symbol line col children = shape at below
  induction below generalizing symbol line col children with
  | child member =>
      cases whole
      exact placed inner member
  | @deeper _ _ _ _ child member below ih =>
      cases whole
      cases placed child member with
      | leaf => cases below
      | interior _ inside => exact ih inside rfl

end Shape

namespace Tree

open Shape

/-- The shape below an interior node has the node's symbol and position. -/
theorem exists_children_of_shapeAt? {tree : Tree} {bound : Nat} {id : NodeId} {shape : Shape}
    {symbol : NonterminalId} {children : Array NodeId} {line col : Nat}
    (shaped : tree.shapeAt? bound id = some shape)
    (found : tree.nodes[id]? = some (.interior symbol children line col)) :
    ∃ below, shape = .interior symbol line col below := by
  cases bound with
  | zero => cases shaped
  | succ bound =>
      simp only [shapeAt?, found, Option.map_eq_some_iff] at shaped
      obtain ⟨below, _, rfl⟩ := shaped
      exact ⟨below, rfl⟩

theorem exists_below_of_node {shape : Shape} {id : NodeId} {node : Node}
    (found : (Tree.mk (shape.layout 0).toArray).nodes[id]? = some node) (inside : id ≠ root) :
    ∃ inner, Below inner shape ∧
      (Tree.mk (shape.layout 0).toArray).shapeAt? shape.size id = some inner := by
  have within : id < shape.size := by
    obtain ⟨small, _⟩ := Array.getElem?_eq_some_iff.mp found
    simpa using small
  obtain ⟨inner, below, shaped⟩ := exists_below_of_layout (Tree.mk (shape.layout 0).toArray) [] []
    shape.size shape (by simp) (Nat.le_refl _) id (Nat.pos_of_ne_zero inside) within
  exact ⟨inner, below, by simpa using shaped⟩

end Tree

namespace Parser

open Grammar Shape

theorem new_number {grammar : AcceleratedGrammar} {symbol : NonterminalId} {automaton : Automaton}
    (found : grammar.grammar.automaton? symbol = some automaton) (maxDepth : Option Nat) :
    Parser.new (.accelerated grammar) ⟨some (.number symbol), maxDepth⟩ =
      .ok ((Spine.start symbol automaton).parser grammar maxDepth) := by
  have number := grammar.closed.number found
  subst number
  simp only [Parser.new, startAutomaton, found]
  rfl

/-- A nonterminal of a greedy derivation is found again by a parser of its own, with all positions
below it. -/
theorem treeOf_of_placed {grammar : AcceleratedGrammar} {following : List (Token × Nat)}
    {symbol : NonterminalId} {line col : Nat} {children : List Shape}
    (greedy : Greedy grammar following (.interior symbol line col children))
    (placed : ∀ child ∈ children, Placed child) :
    ∃ fresh again,
      Parser.new (.accelerated grammar) ⟨some (.number symbol), none⟩ = .ok fresh ∧
        fresh.treeOf (leavesOf children) = .ok again ∧
        again.shape? = some (.interior symbol 0 0 children) := by
  obtain ⟨automaton, found⟩ : ∃ automaton, grammar.grammar.automaton? symbol = some automaton := by
    cases greedy with
    | interior found _ _ _ _ _ => exact ⟨_, found⟩
  obtain ⟨again, shape, parsed, shaped, same⟩ := treeOf_of_greedy greedy.greedyFrom found
  obtain ⟨others, rfl, othersPlaced⟩ := placed_of_treeOf found parsed
  rw [shape?_layout] at shaped
  obtain rfl := Option.some.inj shaped
  simp only [bare, interior.injEq, true_and] at same
  obtain rfl := eq_of_bareAll others children same othersPlaced placed
  exact ⟨_, _, new_number found none, parsed, shape?_layout _⟩

/-! ## Main statement -/

/-- What is below a nonterminal does not depend on what is around it. For every node of a parsed
tree that is interior and not the root, a new parser that starts with the node's symbol takes the
leaves below the node and returns the same shape, node for node, with its root at line 0 and
column 0. -/
theorem treeOf_subtree {grammar : AcceleratedGrammar} {options : Options} {parser : Parser}
    {input : List (Token × Nat)} {tree : Tree}
    (made : Parser.new (.accelerated grammar) options = .ok parser)
    (parsed : parser.treeOf input = .ok tree) {id : NodeId} {symbol : NonterminalId}
    {children : Array NodeId} {line col : Nat} (inside : id ≠ Tree.root)
    (found : tree.nodes[id]? = some (.interior symbol children line col)) :
    ∃ below fresh again, tree.shapeAt? tree.size id = some (.interior symbol line col below) ∧
      Parser.new (.accelerated grammar) ⟨some (.number symbol), none⟩ = .ok fresh ∧
      fresh.treeOf (leavesOf below) = .ok again ∧
      again.shape? = some (.interior symbol 0 0 below) := by
  obtain ⟨_, start, automaton, same, _, startFound, rfl⟩ := exists_start_of_new made
  cases same
  obtain ⟨shape, shaped, greedy, _⟩ := greedy_of_treeOf startFound parsed
  obtain ⟨whole, rfl, placed⟩ := placed_of_treeOf startFound parsed
  rw [shape?_layout] at shaped
  obtain rfl := Option.some.inj shaped
  obtain ⟨inner, isBelow, innerShaped⟩ := Tree.exists_below_of_node found inside
  obtain ⟨below, rfl⟩ := Tree.exists_children_of_shapeAt? innerShaped found
  obtain ⟨following, innerGreedy⟩ : ∃ after, Greedy grammar after _ := by
    cases greedy with
    | root _ _ _ among => exact among.of_below isBelow
  have innerPlaced : ∀ child ∈ below, Placed child := by
    cases Placed.of_below placed isBelow with
    | interior _ inside => exact inside
  obtain ⟨fresh, again, freshMade, parsedAgain, shapedAgain⟩ :=
    treeOf_of_placed innerGreedy innerPlaced
  exact ⟨below, fresh, again, by simpa [Tree.size] using innerShaped, freshMade, parsedAgain,
    shapedAgain⟩

/-- The tree of two names in parentheses. -/
def listTree : Tree where
  nodes := #[
    .interior ⟨257⟩ #[1, 2, 7] 0 0, .leaf .leftParen "(" 1 0, .interior ⟨256⟩ #[3, 5] 1 1,
    .interior ⟨257⟩ #[4] 1 1, .leaf .name "a" 1 1, .interior ⟨257⟩ #[6] 1 3, .leaf .name "b" 1 3,
    .leaf .rightParen ")" 2 0]

/-- The names between the parentheses are a list without them as well. -/
theorem treeOf_subtree_list :
    Parser.new (.accelerated listGrammar) ⟨some (.number ⟨257⟩), none⟩ = .ok (itemParser none) ∧
      (itemParser none).treeOf listInput = .ok listTree ∧
      listTree.nodes[2]? = some (.interior ⟨256⟩ #[3, 5] 1 1) ∧
      ∃ below fresh again, listTree.shapeAt? listTree.size 2 = some (.interior ⟨256⟩ 1 1 below) ∧
        leavesOf below = [(⟨.name, "a", 1⟩, 1), (⟨.name, "b", 1⟩, 3)] ∧
        Parser.new (.accelerated listGrammar) ⟨some (.number ⟨256⟩), none⟩ = .ok fresh ∧
        fresh.treeOf (leavesOf below) = .ok again ∧
        again.shape? = some (.interior ⟨256⟩ 0 0 below) := by
  have made : Parser.new (.accelerated listGrammar) ⟨some (.number ⟨257⟩), none⟩ =
      .ok (itemParser none) := rfl
  have parsed : (itemParser none).treeOf listInput = .ok listTree := by cbv
  have found : listTree.nodes[2]? = some (.interior ⟨256⟩ #[3, 5] 1 1) := rfl
  obtain ⟨below, fresh, again, shaped, freshMade, parsedAgain, shapedAgain⟩ :=
    treeOf_subtree made parsed (by decide) found
  have leaves : (listTree.shapeAt? listTree.size 2).map Shape.leaves =
      some [(⟨.name, "a", 1⟩, 1), (⟨.name, "b", 1⟩, 3)] := by cbv
  rw [shaped] at leaves
  exact ⟨made, parsed, found, below, fresh, again, shaped, Option.some.inj leaves, freshMade,
    parsedAgain, shapedAgain⟩

end Parser

end TransitionNetwork
