import TransitionNetwork.Proofs.Grammar.LeadingTokens

/-!
# Greedy derivations

A grammar may allow several derivations of one input. A derivation is greedy if below its root no
nonterminal is without leaf, and none ends where the token after it could still be taken. What
follows a shape is part of the condition, so greediness is said relative to the tokens after it.
-/

set_option autoImplicit false

namespace TransitionNetwork

namespace Shape

mutual

/-- A shape without the positions of its interior nodes. -/
def bare : Shape → Shape
  | .leaf token col => .leaf token col
  | .interior symbol _ _ children => .interior symbol 0 0 (bareAll children)

def bareAll : List Shape → List Shape
  | [] => []
  | shape :: rest => shape.bare :: bareAll rest

end

theorem bareAll_append (left right : List Shape) :
    bareAll (left ++ right) = bareAll left ++ bareAll right := by
  induction left with
  | nil => rfl
  | cons shape rest ih => simp [bareAll, ih]

end Shape

namespace Grammar

open Shape

/-- A state without transition on the token that follows, if one does. -/
def Halts (grammar : AcceleratedGrammar) (symbol : NonterminalId) (state : StateId)
    (following : List (Token × Nat)) : Prop :=
  ∀ {token : Token} {col : Nat} {rest : List (Token × Nat)} {label : LabelId}
    {table : DenseTable}, following = (token, col) :: rest →
    grammar.grammar.classify token = some label →
    grammar.table? symbol state.toNat = some table → table.lookup label = none

/-- A shape below the root of a greedy derivation, when some tokens follow it. -/
inductive Greedy (grammar : AcceleratedGrammar) : List (Token × Nat) → Shape → Prop where
  | leaf {following : List (Token × Nat)} {token : Token} {col : Nat} :
      Greedy grammar following (.leaf token col)
  | interior {following : List (Token × Nat)} {symbol : NonterminalId} {line col : Nat}
      {children : List Shape} {automaton : Automaton} {final : StateId} :
      grammar.grammar.automaton? symbol = some automaton →
      Path grammar.grammar automaton automaton.initial children final →
      MayEnd grammar.grammar automaton final → leavesOf children ≠ [] →
      Halts grammar symbol final following →
      (∀ left child right, children = left ++ child :: right →
        Greedy grammar (leavesOf right ++ following) child) →
      Greedy grammar following (.interior symbol line col children)

/-- Shapes side by side in a greedy derivation: each is followed by those after it. -/
def GreedyAll (grammar : AcceleratedGrammar) (following : List (Token × Nat))
    (shapes : List Shape) : Prop :=
  ∀ left child right, shapes = left ++ child :: right →
    Greedy grammar (leavesOf right ++ following) child

/-- A greedy derivation from a symbol. Its root may be without leaf, and nothing follows it. -/
inductive GreedyFrom (grammar : AcceleratedGrammar) (symbol : NonterminalId) : Shape → Prop where
  | root {line col : Nat} {children : List Shape} {automaton : Automaton} {final : StateId} :
      grammar.grammar.automaton? symbol = some automaton →
      Path grammar.grammar automaton automaton.initial children final →
      MayEnd grammar.grammar automaton final → GreedyAll grammar [] children →
      GreedyFrom grammar symbol (.interior symbol line col children)

theorem halts_nil {grammar : AcceleratedGrammar} {symbol : NonterminalId} {state : StateId} :
    Halts grammar symbol state [] := by
  intro _ _ _ _ _ impossible
  cases impossible

theorem greedyAll_nil {grammar : AcceleratedGrammar} {following : List (Token × Nat)} :
    GreedyAll grammar following [] := by
  intro left child right split
  simp at split

theorem greedyAll_cons_iff {grammar : AcceleratedGrammar} {following : List (Token × Nat)}
    {shape : Shape} {rest : List Shape} :
    GreedyAll grammar following (shape :: rest) ↔
      Greedy grammar (leavesOf rest ++ following) shape ∧ GreedyAll grammar following rest := by
  constructor
  · intro greedy
    refine ⟨greedy [] shape rest rfl, ?_⟩
    intro left child right split
    exact greedy (shape :: left) child right (by rw [split]; rfl)
  · intro ⟨first, others⟩ left child right split
    cases left with
    | nil =>
        cases split
        exact first
    | cons head left =>
        cases split
        exact others left child right rfl

theorem greedyAll_snoc_iff {grammar : AcceleratedGrammar} {following : List (Token × Nat)}
    {shapes : List Shape} {last : Shape} :
    GreedyAll grammar following (shapes ++ [last]) ↔
      GreedyAll grammar (last.leaves ++ following) shapes ∧ Greedy grammar following last := by
  induction shapes with
  | nil => simp [greedyAll_cons_iff, greedyAll_nil, leavesOf]
  | cons shape rest ih =>
      rw [List.cons_append, greedyAll_cons_iff, ih, greedyAll_cons_iff, leavesOf_append,
        List.append_assoc, and_assoc]
      simp [leavesOf]

theorem Greedy.leaves_ne_nil {grammar : AcceleratedGrammar} {following : List (Token × Nat)}
    {shape : Shape} (greedy : Greedy grammar following shape) : shape.leaves ≠ [] := by
  cases greedy with
  | leaf => simp [leaves]
  | interior _ _ _ filled _ _ => exact filled

theorem GreedyAll.eq_nil {grammar : AcceleratedGrammar} {following : List (Token × Nat)}
    {shapes : List Shape} (greedy : GreedyAll grammar following shapes)
    (empty : leavesOf shapes = []) : shapes = [] := by
  cases shapes with
  | nil => rfl
  | cons shape rest =>
      have filled := (greedyAll_cons_iff.mp greedy).1.leaves_ne_nil
      simp only [leavesOf, List.append_eq_nil_iff] at empty
      exact absurd empty.1 filled

/-- Every token has a label. -/
def Classified (grammar : Grammar) (tokens : List (Token × Nat)) : Prop :=
  ∀ leaf ∈ tokens, ∃ label, grammar.classify leaf.1 = some label

theorem Path.classified {grammar : Grammar} {automaton : Automaton} {source final : StateId}
    {shapes : List Shape} (path : Path grammar automaton source shapes final)
    (below : ∀ symbol line col children, .interior symbol line col children ∈ shapes →
      Classified grammar (leavesOf children)) : Classified grammar (leavesOf shapes) := by
  induction path with
  | done => simp [Classified, leavesOf]
  | @step _ _ _ _ shape rest _ _ fits _ ih =>
      intro leaf among
      rcases List.mem_append.mp among with first | others
      · cases fits with
        | leaf classified _ _ =>
            rw [List.mem_singleton.mp first]
            exact ⟨_, classified⟩
        | interior _ _ => exact below _ _ _ _ (.head _) leaf first
      · exact ih (fun _ _ _ _ member => below _ _ _ _ (.tail _ member)) leaf others

theorem Greedy.classified {grammar : AcceleratedGrammar} {following : List (Token × Nat)}
    {symbol : NonterminalId} {line col : Nat} {children : List Shape}
    (greedy : Greedy grammar following (.interior symbol line col children)) :
    Classified grammar.grammar (leavesOf children) := by
  generalize whole : Shape.interior symbol line col children = shape at greedy
  induction greedy generalizing symbol line col children with
  | leaf => cases whole
  | interior _ path _ _ _ _ ih =>
      cases whole
      refine path.classified ?_
      intro symbol line col inside member
      obtain ⟨left, right, split⟩ := List.append_of_mem member
      exact ih left _ right split rfl

theorem GreedyAll.classified {grammar : AcceleratedGrammar} {automaton : Automaton}
    {source final : StateId} {following : List (Token × Nat)} {shapes : List Shape}
    (greedy : GreedyAll grammar following shapes)
    (path : Path grammar.grammar automaton source shapes final) :
    Classified grammar.grammar (leavesOf shapes) := by
  refine path.classified ?_
  intro symbol line col children member
  obtain ⟨left, right, split⟩ := List.append_of_mem member
  exact (greedy left _ right split).classified

theorem Matches.yields_shift {grammar : Grammar} {state : State} {arc : Arc} {token : Token}
    {col : Nat} {label : LabelId} (fits : Matches grammar arc.label (.leaf token col))
    (member : arc ∈ state.arcs) (classified : grammar.classify token = some label) :
    Yields grammar state label (.shift arc.target) := by
  cases fits with
  | leaf again labelled isToken =>
      obtain rfl := Option.some.inj (again.symm.trans classified)
      exact ⟨arc, member, .shift labelled isToken⟩

theorem Matches.yields_push {grammar : Grammar} {state : State} {arc : Arc}
    {symbol : NonterminalId} {line col : Nat} {children : List Shape} {label : LabelId}
    (fits : Matches grammar arc.label (.interior symbol line col children))
    (member : arc ∈ state.arcs) (begins : CanBegin grammar symbol label) :
    Yields grammar state label (.push symbol arc.target) := by
  cases fits with
  | interior labelled isNonterminal =>
      exact ⟨arc, member, .push labelled isNonterminal begins⟩

theorem Greedy.derives {grammar : AcceleratedGrammar} {following : List (Token × Nat)}
    {shape : Shape} (greedy : Greedy grammar following shape) : Derives grammar.grammar shape := by
  induction greedy with
  | leaf => exact .leaf
  | interior found path ends _ _ _ ih =>
      refine .interior found path ends ?_
      intro child member
      obtain ⟨left, right, split⟩ := List.append_of_mem member
      exact ih left child right split

/-- In a greedy derivation no nonterminal without leaves comes before a leaf. -/
theorem Greedy.led {grammar : AcceleratedGrammar} {following : List (Token × Nat)} {shape : Shape}
    (greedy : Greedy grammar following shape) : Led shape := by
  induction greedy with
  | leaf => exact .leaf
  | @interior _ _ _ _ children _ _ _ _ _ filled _ _ ih =>
      cases children with
      | nil => exact absurd rfl filled
      | cons child others => exact .interior (ih [] child others rfl)

/-- A nonterminal can begin with the label of its first leaf. -/
theorem Greedy.canBegin {grammar : AcceleratedGrammar} {following rest : List (Token × Nat)}
    {symbol : NonterminalId} {line col position : Nat} {children : List Shape} {token : Token}
    {label : LabelId} (greedy : Greedy grammar following (.interior symbol line col children))
    (first : leavesOf children = (token, position) :: rest)
    (classified : grammar.grammar.classify token = some label) :
    CanBegin grammar.grammar symbol label := by
  obtain ⟨again, same, begins⟩ := greedy.derives.canBegin greedy.led first
  obtain rfl := Option.some.inj (same.symm.trans classified)
  exact begins

end Grammar

end TransitionNetwork
