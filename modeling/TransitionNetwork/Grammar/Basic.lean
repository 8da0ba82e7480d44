import TransitionNetwork.Automaton.Basic

/-!
# Grammars

A grammar as it is written: an automaton for each nonterminal, the label table they share and the
start symbol. Nothing is promised about the contents; `Grammar.defect?` says what is wrong with a
grammar, and `Grammar.compile` builds the tables of one that has no defect.
-/

set_option autoImplicit false

namespace TransitionNetwork

structure Grammar where
  automata : Array Automaton
  labels : Array Label
  start : NonterminalId
  deriving DecidableEq, Repr

namespace Grammar

/-- The automaton of a nonterminal, by the position its number gives. -/
def automaton? (grammar : Grammar) (id : NonterminalId) : Option Automaton :=
  grammar.automata[id.index]?

def automatonNamed? (grammar : Grammar) (name : String) : Option Automaton :=
  grammar.automata.find? fun automaton => automaton.name == name

/-- The name of a nonterminal, a question mark if it has no automaton. -/
def nameOf (grammar : Grammar) (id : NonterminalId) : String :=
  match grammar.automaton? id with
  | some automaton => automaton.name
  | none => "?"

def label? (grammar : Grammar) (id : LabelId) : Option Label :=
  grammar.labels[id.toNat]?

end Grammar

end TransitionNetwork
