import TransitionNetwork.Proofs.Grammar.Greedy
import TransitionNetwork.Proofs.Parser.Soundness

/-!
# Positions

A nonterminal is opened for a token and stands where the token stands. It is not closed before it
has taken a token, so every finished nonterminal below the root stands at its first leaf. Shapes of
which this is true are equal as soon as they are equal without positions.
-/

set_option autoImplicit false

namespace TransitionNetwork

namespace Shape

/-- Line and column of the first leaf. -/
def position? (leaves : List (Token × Nat)) : Option (Nat × Nat) :=
  leaves.head?.map fun (token, col) => (token.line, col)

/-- Every nonterminal in a shape has a leaf, and stands at the first of them. -/
inductive Placed : Shape → Prop where
  | leaf {token : Token} {col : Nat} : Placed (.leaf token col)
  | interior {symbol : NonterminalId} {line col : Nat} {children : List Shape} :
      position? (leavesOf children) = some (line, col) → (∀ child ∈ children, Placed child) →
      Placed (.interior symbol line col children)

theorem position?_append {leaves : List (Token × Nat)} (filled : leaves ≠ [])
    (following : List (Token × Nat)) : position? (leaves ++ following) = position? leaves := by
  rw [position?, position?, List.head?_append_of_ne_nil leaves filled]

theorem ne_nil_of_position? {leaves : List (Token × Nat)} {line col : Nat}
    (placed : position? leaves = some (line, col)) : leaves ≠ [] := by
  intro empty
  subst empty
  cases placed

mutual

theorem Placed.eq_of_bare (left right : Shape) (same : left.bare = right.bare)
    (leftPlaced : Placed left) (rightPlaced : Placed right) : left = right := by
  cases left with
  | leaf token col =>
      cases right with
      | leaf token col => exact same
      | interior symbol line col children => simp [bare] at same
  | interior symbol line col children =>
      cases right with
      | leaf token col => simp [bare] at same
      | interior otherSymbol otherLine otherCol others =>
          simp only [bare, interior.injEq, true_and] at same
          obtain ⟨rfl, sameChildren⟩ := same
          cases leftPlaced with
          | interior leftBegins leftChildren =>
              cases rightPlaced with
              | interior rightBegins rightChildren =>
                  obtain rfl := eq_of_bareAll children others sameChildren leftChildren
                    rightChildren
                  rw [leftBegins] at rightBegins
                  cases rightBegins
                  rfl

theorem eq_of_bareAll (left right : List Shape) (same : bareAll left = bareAll right)
    (leftPlaced : ∀ shape ∈ left, Placed shape) (rightPlaced : ∀ shape ∈ right, Placed shape) :
    left = right := by
  cases left with
  | nil =>
      cases right with
      | nil => rfl
      | cons shape rest => simp [bareAll] at same
  | cons first rest =>
      cases right with
      | nil => simp [bareAll] at same
      | cons other others =>
          simp only [bareAll, List.cons.injEq] at same
          obtain ⟨firstPlaced, restPlaced⟩ := List.forall_mem_cons.mp leftPlaced
          obtain ⟨otherPlaced, othersPlaced⟩ := List.forall_mem_cons.mp rightPlaced
          rw [Placed.eq_of_bare first other same.1 firstPlaced otherPlaced,
            eq_of_bareAll rest others same.2 restPlaced othersPlaced]

end

end Shape

namespace Parser

open Grammar Shape

/-! ## Open nonterminals -/

/-- Finished children are placed, and below the root open nonterminals stand at their first leaf.
A leaf that is still to come counts as well. -/
def Anchored : List (Token × Nat) → List OpenNode → Prop
  | _, [] => True
  | following, node :: outer =>
      (∀ child ∈ node.done, Placed child) ∧
        (outer ≠ [] →
          position? (leavesOf node.done ++ following) = some (node.line, node.col)) ∧
        Anchored (leavesOf node.done ++ following) outer

/-- Between two tokens every open nonterminal below the root has a leaf. -/
inductive PlacedSpine : Spine → Prop where
  | closed {symbol : NonterminalId} {line col : Nat} {children : List Shape} :
      (∀ child ∈ children, Placed child) →
      PlacedSpine (.closed (.interior symbol line col children))
  | opened {top : OpenNode} {outer : List OpenNode} : Anchored [] (top :: outer) →
      PlacedSpine (.opened top outer)

/-- While a token is pending, the innermost nonterminal has a leaf or was opened for the token. -/
inductive PlacedFor (grammar : AcceleratedGrammar) (pending : Pending) : Spine → Prop where
  | closed {shape : Shape} : PlacedFor grammar pending (.closed shape)
  | opened {top : OpenNode} {outer : List OpenNode} :
      Anchored [(pending.token, pending.col)] (top :: outer) →
      (outer ≠ [] → leavesOf top.done ≠ [] ∨ Opening grammar pending.label top []) →
      PlacedFor grammar pending (.opened top outer)

section Moves

variable {grammar : AcceleratedGrammar} {maxDepth : Option Nat} {root : NonterminalId}
  {pending : Pending}

theorem Anchored.append {leading : List (Token × Nat)} {stack : List OpenNode}
    (anchored : Anchored leading stack) (following : List (Token × Nat)) :
    Anchored (leading ++ following) stack := by
  induction stack generalizing leading with
  | nil => trivial
  | cons node outer ih =>
      obtain ⟨children, begins, beyond⟩ := anchored
      refine ⟨children, ?_, ?_⟩
      · intro inside
        rw [← List.append_assoc, position?_append (ne_nil_of_position? (begins inside))]
        exact begins inside
      · rw [← List.append_assoc]
        exact ih beyond

theorem Anchored.close {following : List (Token × Nat)} {top next : OpenNode}
    {outer : List OpenNode} (anchored : Anchored following (top :: next :: outer))
    (filled : leavesOf top.done ≠ []) :
    Anchored following (next.add top.shape :: outer) := by
  obtain ⟨children, begins, siblings, nextBegins, beyond⟩ := anchored
  have placed : Placed top.shape := by
    refine .interior ?_ children
    rw [← position?_append filled following]
    exact begins (by simp)
  have leaves : leavesOf (next.add top.shape).done ++ following =
      leavesOf next.done ++ (leavesOf top.done ++ following) := by
    simp [OpenNode.add, OpenNode.shape, leavesOf, Shape.leaves]
  refine ⟨?_, ?_, ?_⟩
  · intro child member
    rcases List.mem_append.mp member with before | last
    · exact siblings child before
    · rw [List.mem_singleton.mp last]
      exact placed
  · rw [leaves]
    exact nextBegins
  · rw [leaves]
    exact beyond

theorem PlacedSpine.close {top : OpenNode} {outer : List OpenNode}
    (placed : PlacedSpine (.opened top outer)) : PlacedSpine (.close top outer) := by
  cases placed with
  | opened anchored =>
      cases outer with
      | nil => exact .closed anchored.1
      | cons next outer =>
          have begins := anchored.2.1 (by simp)
          rw [List.append_nil] at begins
          exact .opened (anchored.close (ne_nil_of_position? begins))

theorem PlacedSpine.placedFor {spine : Spine} (placed : PlacedSpine spine) (pending : Pending) :
    PlacedFor grammar pending spine := by
  cases placed with
  | closed _ => exact .closed
  | opened anchored =>
      refine .opened (anchored.append _) ?_
      intro inside
      have begins := anchored.2.1 inside
      rw [List.append_nil] at begins
      exact .inl (ne_nil_of_position? begins)

theorem Advances.placed {spine next : Spine} {event : Event}
    (advances : Advances grammar maxDepth pending spine event next)
    (sound : Sound grammar.grammar root spine) (placed : PlacedFor grammar pending spine) :
    PlacedFor grammar pending next := by
  cases placed with
  | closed => cases advances
  | @opened top outer anchored filled =>
      cases advances with
      | push tableFound answer innerFound _ =>
          refine .opened ⟨by simp, fun _ => rfl, anchored⟩ ?_
          intro _
          exact .inr (.of_push sound tableFound answer innerFound)
      | retry tableFound answer _ =>
          cases outer with
          | nil => exact .closed
          | cons parent outer =>
              -- What was opened for the token goes on with it, so it is not closed here.
              have nonempty : leavesOf top.done ≠ [] := by
                rcases filled (by simp) with nonempty | opening
                · exact nonempty
                · obtain ⟨transition, found⟩ := opening.lookup tableFound
                  rw [answer] at found
                  cases found
              refine .opened (anchored.close nonempty) ?_
              intro _
              left
              simp [OpenNode.add, OpenNode.shape, leavesOf, Shape.leaves, nonempty]

theorem Consumes.placed {spine next : Spine} {event : Event}
    (consumes : Consumes grammar pending spine event next)
    (placed : PlacedFor grammar pending spine) : PlacedSpine next := by
  cases placed with
  | closed => cases consumes
  | @opened top outer anchored _ =>
      cases consumes with
      | shift _ _ =>
          obtain ⟨children, begins, beyond⟩ := anchored
          have leaves : leavesOf (top.add (.leaf pending.token pending.col)).done ++ [] =
              leavesOf top.done ++ [(pending.token, pending.col)] := by
            simp [OpenNode.add, leavesOf, Shape.leaves]
          refine .opened ⟨?_, ?_, ?_⟩
          · intro child member
            rcases List.mem_append.mp member with before | last
            · exact children child before
            · rw [List.mem_singleton.mp last]
              exact .leaf
          · rw [leaves]
            exact begins
          · rw [leaves]
            exact beyond

theorem Settles.placed {spine final : Spine} {events : List Event}
    {result : Except (Failure ParseError) Unit}
    (settles : Settles grammar maxDepth pending spine events final result)
    (sound : Sound grammar.grammar root spine) (placed : PlacedFor grammar pending spine)
    (succeeded : result = .ok ()) : PlacedSpine final := by
  induction settles with
  | onward advances _ ih =>
      exact ih (advances.sound sound) (advances.placed sound placed) succeeded
  | consumed consumes => exact consumes.placed placed
  | refused _ => cases succeeded

theorem Collapses.placed {spine final : Spine} {events : List Event}
    (collapses : Collapses grammar spine events final) (placed : PlacedSpine spine) :
    PlacedSpine final := by
  induction collapses with
  | complete => exact placed
  | pause _ _ => exact placed
  | pop _ _ _ ih => exact ih placed.close

theorem Fed.placed {token : Token} {col : Nat} {spine final : Spine} {events : List Event}
    (fed : Fed grammar maxDepth token col spine events final (.ok ()))
    (sound : Sound grammar.grammar root spine) (placed : PlacedSpine spine) :
    PlacedSpine final := by
  cases fed with
  | taken _ settles collapses =>
      exact collapses.placed (settles.placed sound (placed.placedFor _) rfl)

theorem Feeds.placed {spine final : Spine} {input : List (Token × Nat)}
    (feeds : Feeds grammar maxDepth spine input final)
    (sound : Sound grammar.grammar root spine) (placed : PlacedSpine spine) :
    PlacedSpine final := by
  induction feeds with
  | done => exact placed
  | step fed _ ih => exact ih (fed.sound sound) (fed.placed sound placed)

end Moves

/-! ## Trees -/

theorem placedSpine_start (symbol : NonterminalId) (automaton : Automaton) :
    PlacedSpine (.start symbol automaton) :=
  .opened ⟨by simp, fun inside => absurd rfl inside, trivial⟩

/-- The tree of a whole input is the layout of a shape that is placed below its root. -/
theorem placed_of_treeOf {grammar : AcceleratedGrammar} {maxDepth : Option Nat}
    {symbol : NonterminalId} {automaton : Automaton} {input : List (Token × Nat)} {tree : Tree}
    (found : grammar.grammar.automaton? symbol = some automaton)
    (parsed : ((Spine.start symbol automaton).parser grammar maxDepth).treeOf input = .ok tree) :
    ∃ children, tree = ⟨(layout 0 (.interior symbol 0 0 children)).toArray⟩ ∧
      ∀ child ∈ children, Placed child := by
  have sound := sound_start found
  obtain ⟨final, feeds, closes, rfl⟩ := exists_feeds_of_treeOf sound parsed
  have placed := feeds.placed sound (placedSpine_start symbol automaton)
  obtain ⟨finished, whole⟩ := (feeds.sound sound).closeAll (motive := PlacedSpine) closes
    (fun _ _ _ _ holds => holds.close) placed
  obtain ⟨_, children, shape⟩ := finished.closed_inversion
  rw [shape] at whole
  cases whole with
  | closed below => exact ⟨children, by rw [Spine.tree_eq_layout, shape], below⟩

end Parser

end TransitionNetwork
