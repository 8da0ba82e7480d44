import TransitionNetwork.Grammar.Derivation
import TransitionNetwork.Proofs.Grammar.Acceleration

/-!
# Leading tokens

Starting labels come from the arcs of initial states alone. They cover a derivation as long as its
first leaf comes first at every level. A derivation may also put a nonterminal without leaves in
front of its first leaf, and then the label of that leaf may be missing: the nonterminal that could
be skipped is not looked behind. If no nonterminal on a label may end where it begins, then no
derivation can do this, and the starting labels cover them all.
-/

set_option autoImplicit false

namespace TransitionNetwork

namespace Shape

/-- The first leaf of a shape is reached through first children, so that no nonterminal without
leaves comes before it. -/
inductive Led : Shape → Prop where
  | leaf {token : Token} {col : Nat} : Led (.leaf token col)
  | interior {symbol : NonterminalId} {line col : Nat} {first : Shape} {rest : List Shape} :
      Led first → Led (.interior symbol line col (first :: rest))

theorem Led.exists_leaf {shape : Shape} (led : Led shape) :
    ∃ token col rest, shape.leaves = (token, col) :: rest := by
  induction led with
  | leaf => exact ⟨_, _, [], rfl⟩
  | interior _ ih =>
      obtain ⟨token, col, rest, leaves⟩ := ih
      exact ⟨token, col, _, by rw [Shape.leaves, leavesOf, leaves, List.cons_append]⟩

end Shape

namespace Grammar

open Shape

/-- No nonterminal that a label stands for may end in its initial state. -/
def EmptyFree (grammar : Grammar) : Prop :=
  ∀ id label symbol automaton, grammar.label? id = some label → label.kind = .nonterminal symbol →
    grammar.automaton? symbol = some automaton → ¬ MayEnd grammar automaton automaton.initial

section Derivations

variable {grammar : Grammar} {symbol : NonterminalId} {line col : Nat} {children : List Shape}

/-- A nonterminal can begin with the label of its first leaf, unless the leaf follows a nonterminal
without leaves. -/
theorem Derives.canBegin {token : Token} {position : Nat} {rest : List (Token × Nat)}
    (derived : Derives grammar (.interior symbol line col children))
    (led : Led (.interior symbol line col children))
    (first : leavesOf children = (token, position) :: rest) :
    ∃ label, grammar.classify token = some label ∧ CanBegin grammar symbol label := by
  generalize whole : Shape.interior symbol line col children = shape at led
  induction led generalizing symbol line col children rest with
  | leaf => cases whole
  | @interior _ _ _ child others childLed ih =>
      cases whole
      cases derived with
      | interior found path _ below =>
          cases path with
          | @step _ _ state arc _ _ initial member fits _ =>
              rw [leavesOf] at first
              cases fits with
              | leaf classified labelled isToken =>
                  cases first
                  exact ⟨arc.label, classified,
                    (canBegin_iff found initial).mpr ⟨arc, member, .token labelled isToken⟩⟩
              | interior labelled isNonterminal =>
                  obtain ⟨_, _, _, leaves⟩ := childLed.exists_leaf
                  rw [leaves, List.cons_append, List.cons.injEq] at first
                  rw [first.1] at leaves
                  obtain ⟨label, classified, begins⟩ := ih (below _ (.head _)) leaves rfl
                  exact ⟨label, classified, (canBegin_iff found initial).mpr
                    ⟨arc, member, .nonterminal labelled isNonterminal begins⟩⟩

theorem EmptyFree.led_of_matches (free : EmptyFree grammar) {shape : Shape}
    (derived : Derives grammar shape) {id : LabelId} (fits : Matches grammar id shape) :
    Led shape := by
  induction derived generalizing id with
  | leaf => exact .leaf
  | interior found path ends _ ih =>
      cases path with
      | done =>
          cases fits with
          | interior labelled isNonterminal =>
              exact absurd ends (free _ _ _ _ labelled isNonterminal found)
      | step _ _ childFits _ => exact .interior (ih _ (.head _) childFits)

theorem EmptyFree.led (free : EmptyFree grammar)
    (derived : Derives grammar (.interior symbol line col children))
    (filled : leavesOf children ≠ []) : Led (.interior symbol line col children) := by
  cases derived with
  | interior _ path _ below =>
      cases path with
      | done => exact absurd rfl filled
      | step _ _ fits _ => exact .interior (free.led_of_matches (below _ (.head _)) fits)

end Derivations

/-! ## Main statement -/

/-- Starting labels cover derivations whose first leaf has no nonterminal without leaves before it,
and all derivations if no nonterminal on a label may end where it begins. -/
theorem first_covers_derivations (grammar : AcceleratedGrammar) {symbol : NonterminalId}
    {line col position : Nat} {children : List Shape} {token : Token} {rest : List (Token × Nat)}
    (derived : Derives grammar.grammar (.interior symbol line col children))
    (leaves : leavesOf children = (token, position) :: rest)
    (direct : Led (.interior symbol line col children) ∨ EmptyFree grammar.grammar) :
    ∃ label first, grammar.grammar.classify token = some label ∧
      grammar.first? symbol = some first ∧ first.contains label = true := by
  have led : Led (.interior symbol line col children) := by
    rcases direct with led | free
    · exact led
    · exact free.led derived (by simp [leaves])
  obtain ⟨label, classified, begins⟩ := derived.canBegin led leaves
  cases derived with
  | interior found _ _ _ =>
      obtain ⟨first, firstFound, finished⟩ := grammar.exists_first found
      exact ⟨label, first, classified, firstFound, finished.contains_iff.mpr begins⟩

/-- A name with a sign in front of it, where a sign is a minus or nothing. -/
def signedNames : Grammar where
  automata := #[
    { id := ⟨256⟩, name := "operand", initial := 0,
      states := #[⟨[⟨3, 1⟩]⟩, ⟨[⟨1, 2⟩]⟩, ⟨[⟨0, 2⟩]⟩] },
    { id := ⟨257⟩, name := "sign", initial := 0, states := #[⟨[⟨2, 1⟩, ⟨0, 0⟩]⟩, ⟨[⟨0, 1⟩]⟩] }]
  labels := #[.empty, .token .name, .token .minus, .nonterminal ⟨257⟩]
  start := ⟨256⟩

def signedGrammar : AcceleratedGrammar where
  grammar := signedNames
  tables := signedNames.compile.toOption.getD #[]
  compiled := by cbv

def signed (sign : List Shape) : Shape :=
  .interior ⟨256⟩ 0 0 [.interior ⟨257⟩ 1 0 sign, .leaf ⟨.name, "x", 1⟩ 1]

theorem derives_signed {sign : List Shape} {final : StateId}
    (path : Path signedNames signedNames.automata[1] 0 sign final)
    (ends : MayEnd signedNames signedNames.automata[1] final)
    (below : ∀ child ∈ sign, Derives signedNames child) : Derives signedNames (signed sign) := by
  have classified : signedNames.classify ⟨.name, "x", 1⟩ = some 1 := by cbv
  refine .interior rfl (.step rfl (.head _) (.interior rfl rfl)
    (.step rfl (.head _) (.leaf classified rfl rfl) .done)) ⟨_, rfl, _, .head _, _, rfl, rfl⟩ ?_
  intro child member
  simp only [List.mem_cons, List.not_mem_nil, or_false] at member
  rcases member with rfl | rfl
  · exact .interior rfl path ends below
  · exact .leaf

theorem emptyFree_nestedLists : EmptyFree nestedLists := by
  intro _ _ symbol automaton _ _ found
  have small : symbol.index < 2 := (Array.getElem?_eq_some_iff.mp found).1
  rw [automaton?] at found
  rintro ⟨state, stateFound, arc, member, label, labelFound, isEmpty⟩
  interval_cases symbol.index
  · cases found
    cases stateFound
    cases List.mem_singleton.mp member
    cases labelFound
    cases isEmpty
  · cases found
    cases stateFound
    rcases List.mem_pair.mp member with rfl | rfl <;> cases labelFound <;> cases isEmpty

/-- A minus in front of a name is among the starting labels of the whole. Neither a list nor an item
of a list may end where it begins. -/
theorem first_covers_derivations_minus :
    EmptyFree nestedLists ∧ Derives signedNames (signed [.leaf ⟨.minus, "-", 1⟩ 0]) ∧
      Led (signed [.leaf ⟨.minus, "-", 1⟩ 0]) ∧
      ∃ label first, signedNames.classify ⟨.minus, "-", 1⟩ = some label ∧
        signedGrammar.first? ⟨256⟩ = some first ∧ first.contains label = true := by
  have classified : signedNames.classify ⟨.minus, "-", 1⟩ = some 2 := by cbv
  have derived : Derives signedNames (signed [.leaf ⟨.minus, "-", 1⟩ 0]) :=
    derives_signed (.step rfl (.head _) (.leaf classified rfl rfl) .done)
      ⟨_, rfl, _, .head _, _, rfl, rfl⟩ (by simp [Derives.leaf])
  have led : Led (signed [.leaf ⟨.minus, "-", 1⟩ 0]) := .interior (.interior .leaf)
  exact ⟨emptyFree_nestedLists, derived, led,
    first_covers_derivations signedGrammar derived rfl (.inl led)⟩

/-- A name with no sign is derived too, but the label of names is not a starting label. -/
theorem first_misses_unsigned :
    Derives signedNames (signed []) ∧ (signed []).leaves = [(⟨.name, "x", 1⟩, 1)] ∧
      signedNames.classify ⟨.name, "x", 1⟩ = some 1 ∧
      ∃ first, signedGrammar.first? ⟨256⟩ = some first ∧ first.contains 1 = false := by
  refine ⟨?_, rfl, by cbv, ?_⟩
  · exact derives_signed .done ⟨_, rfl, _, .tail _ (.head _), _, rfl, rfl⟩ (by simp)
  · obtain ⟨first, found⟩ : ∃ first, signedGrammar.first? ⟨256⟩ = some first := ⟨_, by cbv⟩
    have missing : (signedGrammar.first? ⟨256⟩).map (·.contains 1) = some false := by cbv
    rw [found] at missing
    exact ⟨first, found, Option.some.inj missing⟩

end Grammar

end TransitionNetwork
