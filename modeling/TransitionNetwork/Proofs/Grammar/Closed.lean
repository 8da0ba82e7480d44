import TransitionNetwork.Proofs.Grammar.Validity

/-!
# Closed grammars

What compilation and parsing rely on: every number that a grammar mentions leads somewhere. A
grammar without defect is closed.
-/

set_option autoImplicit false

namespace TransitionNetwork

namespace Grammar

/-- Every nonterminal, label, initial state and target that a grammar mentions exists, and every
automaton is found under its own number. -/
structure Closed (grammar : Grammar) : Prop where
  automata_le : grammar.automata.size ≤ maxNonterminals
  labels_le : grammar.labels.size ≤ maxLabels
  start : ∃ automaton, grammar.automaton? grammar.start = some automaton
  nonterminal : ∀ {id : LabelId} {label : Label} {symbol : NonterminalId},
    grammar.label? id = some label → label.kind = .nonterminal symbol →
      ∃ automaton, grammar.automaton? symbol = some automaton
  number : ∀ {id : NonterminalId} {automaton : Automaton},
    grammar.automaton? id = some automaton → automaton.id = id
  initial : ∀ {id : NonterminalId} {automaton : Automaton},
    grammar.automaton? id = some automaton →
      ∃ state, automaton.states[automaton.initial.toNat]? = some state
  label : ∀ {id : NonterminalId} {automaton : Automaton} {position : Nat} {state : State}
    {arc : Arc}, grammar.automaton? id = some automaton →
      automaton.states[position]? = some state → arc ∈ state.arcs →
      ∃ label, grammar.label? arc.label = some label
  target : ∀ {id : NonterminalId} {automaton : Automaton} {position : Nat} {state : State}
    {arc : Arc}, grammar.automaton? id = some automaton →
      automaton.states[position]? = some state → arc ∈ state.arcs →
      ∃ target, automaton.states[arc.target.toNat]? = some target

theorem Valid.arc {grammar : Grammar} (valid : grammar.Valid) {id : NonterminalId}
    {automaton : Automaton} {position : Nat} {state : State} {arc : Arc}
    (found : grammar.automaton? id = some automaton)
    (stateFound : automaton.states[position]? = some state) (member : arc ∈ state.arcs) :
    arc.label.toNat < grammar.labels.size ∧ arc.target.toNat < automaton.states.size :=
  (valid.automata id.index automaton found).arcs state (Array.mem_of_getElem? stateFound) arc member

theorem closed_of_clean {grammar : Grammar} (clean : grammar.defect? = none) : grammar.Closed := by
  have valid := defect?_eq_none_iff.mp clean
  constructor
  case automata_le => exact valid.automata_le
  case labels_le => exact valid.labels_le
  case start => exact valid.start
  case nonterminal =>
    intro id label symbol found isNonterminal
    exact (valid.labels id.toNat label found).resolves symbol isNonterminal
  case number =>
    intro id automaton found
    exact valid.number found
  case initial =>
    intro id automaton found
    exact ⟨_, Array.getElem?_eq_getElem (valid.automata id.index automaton found).initial⟩
  case label =>
    intro id automaton position state arc found stateFound member
    exact ⟨_, Array.getElem?_eq_getElem (valid.arc found stateFound member).1⟩
  case target =>
    intro id automaton position state arc found stateFound member
    exact ⟨_, Array.getElem?_eq_getElem (valid.arc found stateFound member).2⟩

end Grammar

end TransitionNetwork
