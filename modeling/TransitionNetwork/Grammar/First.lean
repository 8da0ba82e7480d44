import TransitionNetwork.FirstSet
import TransitionNetwork.Grammar.Basic
import TransitionNetwork.Grammar.Error

/-!
# Starting labels of nonterminals

The starting labels of a nonterminal are the terminal labels on the arcs of its initial state,
together with the starting labels of the nonterminals on those arcs. They are found by a depth-first
search that keeps the finished sets and the nonterminals it is inside of; meeting one of the latter
again means that a nonterminal can begin with itself, and the search is given up.

The nonterminals a search is inside of are distinct, so the number of automata bounds its depth.
-/

set_option autoImplicit false

namespace TransitionNetwork

namespace Grammar

/-- The finished starting labels, by position of the automaton. -/
abbrev FirstMemo := Array (Option FirstSet)

/-- Adds what an arc of an initial state contributes to a set of starting labels. The set of a
nonterminal comes from `search`, which may extend the finished sets. -/
def firstOfArc (grammar : Grammar)
    (search : Nat → FirstMemo → Except (Failure GrammarError) (FirstSet × FirstMemo))
    (found : FirstSet × FirstMemo) (arc : Arc) :
    Except (Failure GrammarError) (FirstSet × FirstMemo) := do
  let (first, memo) := found
  let label ← entry grammar.labels arc.label.toNat
  match label.kind with
  | .empty => return (first, memo)
  | .token _ => return (first.insert arc.label, memo)
  | .nonterminal id =>
      let (below, memo) ← search id.index memo
      return (first.union below, memo)

/-- The starting labels of the automaton at a position, and the finished sets with it among them.
`path` holds the positions that the search is inside of. -/
def searchFirst (grammar : Grammar) (bound : Nat) (path : List Nat) (position : Nat)
    (memo : FirstMemo) : Except (Failure GrammarError) (FirstSet × FirstMemo) := do
  let automaton ← entry grammar.automata position
  match (memo[position]?).join with
  | some first => return (first, memo)
  | none =>
      if position ∈ path then
        throw (.error (.leftRecursion automaton.name))
      else
        match bound with
        | 0 => throw (.fault .unsettled)
        | bound + 1 => do
            let state ← entry automaton.states automaton.initial.toNat
            let (first, memo) ← state.arcs.foldlM
              (grammar.firstOfArc (grammar.searchFirst bound (position :: path)))
              (FirstSet.withCapacity grammar.labels.size, memo)
            return (first, memo.setIfInBounds position (some first))

/-- The starting labels of every automaton, searched for in order. -/
def firstSets (grammar : Grammar) : Except (Failure GrammarError) (Array FirstSet) := do
  let start : FirstMemo := Array.replicate grammar.automata.size none
  let (firsts, _) ← (List.range grammar.automata.size).foldlM
    (fun (firsts, memo) position => do
      let (first, memo) ← grammar.searchFirst grammar.automata.size [] position memo
      return (firsts.push first, memo))
    ((#[], start) : Array FirstSet × FirstMemo)
  return firsts

end Grammar

end TransitionNetwork
