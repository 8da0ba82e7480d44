import TransitionNetwork.Automaton.DenseTable
import TransitionNetwork.Grammar.First
import TransitionNetwork.Grammar.Validation

/-!
# Compiled tables

A valid grammar without left recursion is compiled into a dense table for each state: a terminal arc
becomes a shift, an arc on a nonterminal becomes a push on each of its starting labels, and an arc
on the accept marker makes the state accepting. Two different transitions on one label are refused.

A state is addressed by a 16-bit number. The table at a position is therefore that of the state at
the position modulo 65536; up to 65536 states this is the state at the position itself.
-/

set_option autoImplicit false

namespace TransitionNetwork

structure AutomatonTables where
  first : FirstSet
  states : Array DenseTable
  deriving DecidableEq, Repr

/-- What compilation adds to a grammar, automaton by automaton. -/
abbrev Tables := Array AutomatonTables

namespace Grammar

def acceptsOn (grammar : Grammar) (arc : Arc) : Bool :=
  (grammar.label? arc.label).any fun label => label.kind == .empty

def arcTransitions (grammar : Grammar) (firsts : Array FirstSet) (arc : Arc) :
    Except Fault (List (LabelId × Transition)) := do
  let label ← entry grammar.labels arc.label.toNat
  match label.kind with
  | .empty => return []
  | .token _ => return [(arc.label, .shift arc.target)]
  | .nonterminal id =>
      let first ← entry firsts id.index
      return first.toList.map fun label => (label, .push id arc.target)

/-- Enters a transition into a table that covers every label, unless the label already has a
different one; then `conflict` says what is wrong. -/
def place (conflict : LabelId → GrammarError) (entries : Array (Option Transition))
    (candidate : LabelId × Transition) :
    Except (Failure GrammarError) (Array (Option Transition)) :=
  let (label, transition) := candidate
  match entries[label.toNat]? with
  | none => .error (.fault (.entryNotFound label.toNat entries.size))
  | some none => .ok (entries.setIfInBounds label.toNat (some transition))
  | some (some existing) =>
      if existing = transition then .ok entries else .error (.error (conflict label))

/-- The dense table of the state with a given number. -/
def denseTable (grammar : Grammar) (firsts : Array FirstSet) (automaton : Automaton)
    (id : StateId) : Except (Failure GrammarError) DenseTable := do
  let state ← entry automaton.states id.toNat
  let entries ← state.arcs.foldlM
    (fun entries arc => do
      let candidates ← grammar.arcTransitions firsts arc
      candidates.foldlM (place (.ambiguous automaton.name id)) entries)
    (Array.replicate grammar.labels.size none)
  return DenseTable.trim (state.arcs.any grammar.acceptsOn) entries

/-- The dense tables of an automaton, one for each state. -/
def denseTables (grammar : Grammar) (firsts : Array FirstSet) (automaton : Automaton) :
    Except (Failure GrammarError) (Array DenseTable) := do
  let tables ← (List.range automaton.states.size).mapM fun position =>
    grammar.denseTable firsts automaton position.toUInt16
  return tables.toArray

/-- The tables of a grammar, or the first reason why it has none. -/
def compile (grammar : Grammar) : Except (Failure GrammarError) Tables :=
  match grammar.defect? with
  | some defect => .error (.error defect)
  | none => do
      let firsts ← grammar.firstSets
      let states ← grammar.automata.toList.mapM (grammar.denseTables firsts)
      return Array.zipWith AutomatonTables.mk firsts states.toArray

end Grammar

end TransitionNetwork
