import TransitionNetwork.Grammar.Basic
import TransitionNetwork.Grammar.Error

/-!
# Validation

The structural conditions that compilation and parsing rely on. `Grammar.defect?` reports the first
condition that fails: sizes, then start symbol, then labels in order, then automata in order. A
grammar is valid when there is nothing to report.

Two labels that stand for every token of one kind, or for one keyword, are equal labels; so a label
of those two sorts is a duplicate exactly when its first occurrence in the table is not itself.
-/

set_option autoImplicit false

namespace TransitionNetwork

namespace Grammar

def maxNonterminals : Nat := 65279

def maxLabels : Nat := 65535

/-- What is wrong with the sizes or with the start symbol. -/
def outlineDefect? (grammar : Grammar) : Option GrammarError :=
  if grammar.automata.size = 0 then
    some .empty
  else if maxNonterminals < grammar.automata.size then
    some (.tooManyNonterminals grammar.automata.size)
  else if maxLabels < grammar.labels.size then
    some (.tooManyLabels grammar.labels.size)
  else if (grammar.automaton? grammar.start).isNone then
    some (.unknownStart grammar.start.describe)
  else
    none

/-- The first position in the label table that holds a label, if it comes before a position. -/
def earlier? (grammar : Grammar) (label : Label) (position : Nat) : Option Nat :=
  match grammar.labels.findIdx? (· == label) with
  | some first => if first < position then some first else none
  | none => none

def labelDefect? (grammar : Grammar) (label : Label) (position : Nat) : Option GrammarError :=
  match label.kind, label.literal with
  | .nonterminal id, _ =>
      if (grammar.automaton? id).isNone then some (.danglingLabel position.toUInt16 id) else none
  | .token kind, none =>
      (grammar.earlier? label position).map fun first =>
        .duplicateFallback kind first.toUInt16 position.toUInt16
  | .token .name, some literal =>
      (grammar.earlier? label position).map fun first =>
        .duplicateKeyword literal first.toUInt16 position.toUInt16
  | .token _, some _ => none
  | .empty, _ => none

def arcDefect? (grammar : Grammar) (automaton : Automaton) (position : Nat) (arc : Arc) :
    Option GrammarError :=
  if grammar.labels.size ≤ arc.label.toNat then
    some (.unknownLabel automaton.name position.toUInt16 arc.label)
  else if automaton.states.size ≤ arc.target.toNat then
    some (.targetOutOfRange automaton.name position.toUInt16 arc.target)
  else
    none

/-- What is wrong with the state at a position of an automaton. -/
def stateDefect? (grammar : Grammar) (automaton : Automaton) (state : State) (position : Nat) :
    Option GrammarError :=
  state.arcs.findSome? (grammar.arcDefect? automaton position)

def automatonDefect? (grammar : Grammar) (automaton : Automaton) (position : Nat) :
    Option GrammarError :=
  if automaton.id ≠ NonterminalId.ofIndex position then
    some (.misnumbered automaton.name automaton.id (NonterminalId.ofIndex position))
  else if automaton.states.size = 0 then
    some (.noStates automaton.name)
  else if automaton.states.size ≤ automaton.initial.toNat then
    some (.initialOutOfRange automaton.name automaton.initial automaton.states.size)
  else
    automaton.states.toList.zipIdx.findSome? fun (state, position) =>
      grammar.stateDefect? automaton state position

def defect? (grammar : Grammar) : Option GrammarError :=
  grammar.outlineDefect?.or <|
    (grammar.labels.toList.zipIdx.findSome? fun (label, position) =>
      grammar.labelDefect? label position).or <|
    grammar.automata.toList.zipIdx.findSome? fun (automaton, position) =>
      grammar.automatonDefect? automaton position

def validate (grammar : Grammar) : Except GrammarError Unit :=
  match grammar.defect? with
  | none => .ok ()
  | some defect => .error defect

theorem validate_eq_ok_iff {grammar : Grammar} :
    grammar.validate = .ok () ↔ grammar.defect? = none := by
  unfold validate
  split <;> simp_all

end Grammar

end TransitionNetwork
