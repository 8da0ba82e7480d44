import TransitionNetwork.Automaton.Basic

/-!
# Defects of grammars

The reasons for which a grammar is refused, with their wording. State numbers in a reason are
16-bit, as everywhere in the tables; a state beyond 65535 is reported modulo 65536.
-/

set_option autoImplicit false

namespace TransitionNetwork

inductive GrammarError where
  | empty
  | tooManyNonterminals (count : Nat)
  | tooManyLabels (count : Nat)
  /-- The start symbol, by name or by number, has no automaton. -/
  | unknownStart (start : String)
  | unknownTokenKind (name : String)
  /-- A label names a nonterminal that does not exist. -/
  | unknownNonterminal (name : String)
  /-- A nonterminal was declared but never given an automaton. -/
  | undefinedNonterminal (name : String)
  /-- An automaton does not have the number of its position. -/
  | misnumbered (automaton : String) (found expected : NonterminalId)
  | noStates (automaton : String)
  | initialOutOfRange (automaton : String) (initial : StateId) (states : Nat)
  | targetOutOfRange (automaton : String) (state target : StateId)
  | unknownLabel (automaton : String) (state : StateId) (label : LabelId)
  /-- A label stands for a nonterminal without automaton. -/
  | danglingLabel (label : LabelId) (nonterminal : NonterminalId)
  | duplicateFallback (kind : TokenKind) (first second : LabelId)
  | duplicateKeyword (literal : String) (first second : LabelId)
  | leftRecursion (automaton : String)
  /-- A state has two different transitions on one label. -/
  | ambiguous (automaton : String) (state : StateId) (label : LabelId)
  deriving DecidableEq, Repr

namespace GrammarError

private def number (word : UInt16) : String :=
  toString word.toNat

private def named (name : String) : String :=
  "`" ++ name ++ "`"

def message : GrammarError → String
  | .empty => "grammar defines no nonterminals"
  | .tooManyNonterminals count => "too many nonterminals: " ++ toString count
  | .tooManyLabels count => "too many labels: " ++ toString count
  | .unknownStart start => "start symbol " ++ named start ++ " is not defined"
  | .unknownTokenKind name => "unknown token kind " ++ named name
  | .unknownNonterminal name => "reference to undefined nonterminal " ++ named name
  | .undefinedNonterminal name => "nonterminal " ++ named name ++ " is declared but has no DFA"
  | .misnumbered automaton found expected =>
      "DFA " ++ named automaton ++ " is numbered " ++ found.describe ++ ", expected " ++
        expected.describe
  | .noStates automaton => "DFA " ++ named automaton ++ " has no states"
  | .initialOutOfRange automaton initial states =>
      "DFA " ++ named automaton ++ ": initial state " ++ number initial ++ " out of range (" ++
        toString states ++ " states)"
  | .targetOutOfRange automaton state target =>
      "DFA " ++ named automaton ++ " state " ++ number state ++ ": arc target " ++
        number target ++ " out of range"
  | .unknownLabel automaton state label =>
      "DFA " ++ named automaton ++ " state " ++ number state ++ ": unknown label " ++ number label
  | .danglingLabel label nonterminal =>
      "label " ++ number label ++ " names nonterminal " ++ nonterminal.describe ++
        ", which is not defined"
  | .duplicateFallback kind first second =>
      "token kind " ++ kind.canonicalName ++ " has more than one fallback label (" ++
        number first ++ " and " ++ number second ++ ")"
  | .duplicateKeyword literal first second =>
      "keyword " ++ Text.quote literal ++ " is defined twice (labels " ++ number first ++
        " and " ++ number second ++ ")"
  | .leftRecursion automaton => "left recursion through " ++ named automaton
  | .ambiguous automaton state label =>
      "DFA " ++ named automaton ++ " state " ++ number state ++
        ": ambiguous transitions on label " ++ number label

end GrammarError

end TransitionNetwork
