import TransitionNetwork.Grammar.Basic
import TransitionNetwork.Grammar.Classification
import TransitionNetwork.Tree.Shape

/-!
# Derivations

Which shapes a grammar allows, said over the arcs as they are written and without any compiled
table: the children of an interior node spell a path of its nonterminal's automaton, from the
initial state to a state that may end. A derivation may give a nonterminal no leaf at all, and
nothing makes derivations unique.
-/

set_option autoImplicit false

namespace TransitionNetwork

namespace Grammar

/-- A label matches a leaf if it is the terminal label of its token, and an interior node if it
stands for its nonterminal. -/
inductive Matches (grammar : Grammar) (id : LabelId) : Shape → Prop where
  | leaf {token : Token} {col : Nat} {label : Label} {kind : TokenKind} :
      grammar.classify token = some id → grammar.label? id = some label →
      label.kind = .token kind → Matches grammar id (.leaf token col)
  | interior {symbol : NonterminalId} {line col : Nat} {children : List Shape} {label : Label} :
      grammar.label? id = some label → label.kind = .nonterminal symbol →
      Matches grammar id (.interior symbol line col children)

/-- A path of an automaton whose arcs match the shapes one by one. -/
inductive Path (grammar : Grammar) (automaton : Automaton) :
    StateId → List Shape → StateId → Prop where
  | done {state : StateId} : Path grammar automaton state [] state
  | step {source final : StateId} {state : State} {arc : Arc} {shape : Shape}
      {rest : List Shape} :
      automaton.states[source.toNat]? = some state → arc ∈ state.arcs →
      Matches grammar arc.label shape → Path grammar automaton arc.target rest final →
      Path grammar automaton source (shape :: rest) final

/-- A state may end its nonterminal if it has an arc on the accept marker. -/
def MayEnd (grammar : Grammar) (automaton : Automaton) (id : StateId) : Prop :=
  ∃ state, automaton.states[id.toNat]? = some state ∧
    ∃ arc ∈ state.arcs, ∃ label, grammar.label? arc.label = some label ∧ label.kind = .empty

inductive Derives (grammar : Grammar) : Shape → Prop where
  | leaf {token : Token} {col : Nat} : Derives grammar (.leaf token col)
  | interior {symbol : NonterminalId} {line col : Nat} {children : List Shape}
      {automaton : Automaton} {final : StateId} :
      grammar.automaton? symbol = some automaton →
      Path grammar automaton automaton.initial children final →
      MayEnd grammar automaton final → (∀ child ∈ children, Derives grammar child) →
      Derives grammar (.interior symbol line col children)

theorem Path.append {grammar : Grammar} {automaton : Automaton} {source middle final : StateId}
    {left right : List Shape} (first : Path grammar automaton source left middle)
    (second : Path grammar automaton middle right final) :
    Path grammar automaton source (left ++ right) final := by
  induction first with
  | done => exact second
  | step found member fits _ ih => exact .step found member fits (ih second)

end Grammar

end TransitionNetwork
