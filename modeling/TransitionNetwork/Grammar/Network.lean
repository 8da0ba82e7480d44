import TransitionNetwork.Grammar.Tables

/-!
# Networks

A network is a grammar together with its compiled tables, or a grammar that has none yet. The tables
of an accelerated grammar are always those that compiling it gives, so equal grammars that are both
accelerated are equal with their tables. Questions about tables that have not been compiled get the
answers of blank tables.
-/

set_option autoImplicit false

namespace TransitionNetwork

/-- A grammar with the tables that compiling it gives. -/
structure AcceleratedGrammar where
  grammar : Grammar
  tables : Tables
  compiled : grammar.compile = .ok tables
  deriving DecidableEq

namespace Grammar

/-- The grammar with its tables, or the reason why it has none. -/
def accelerate (grammar : Grammar) : Except (Failure GrammarError) AcceleratedGrammar :=
  match compiled : grammar.compile with
  | .ok tables => .ok { grammar, tables, compiled }
  | .error failure => .error failure

end Grammar

namespace AcceleratedGrammar

def first? (grammar : AcceleratedGrammar) (id : NonterminalId) : Option FirstSet :=
  grammar.tables[id.index]?.map AutomatonTables.first

/-- The dense table at a position of a nonterminal's automaton. -/
def table? (grammar : AcceleratedGrammar) (id : NonterminalId) (position : Nat) :
    Option DenseTable := do
  let tables ← grammar.tables[id.index]?
  tables.states[position]?

end AcceleratedGrammar

inductive Network where
  | plain (grammar : Grammar)
  | accelerated (grammar : AcceleratedGrammar)
  deriving DecidableEq

namespace Network

def grammar : Network → Grammar
  | .plain grammar => grammar
  | .accelerated full => full.grammar

def isAccelerated : Network → Bool
  | .plain _ => false
  | .accelerated _ => true

/-- A network without tables, provided that its grammar is valid. -/
def ofValid (grammar : Grammar) : Except GrammarError Network := do
  grammar.validate
  return .plain grammar

/-- A network with tables, provided that its grammar can be compiled. -/
def ofGrammar (grammar : Grammar) : Except (Failure GrammarError) Network := do
  let full ← grammar.accelerate
  return .accelerated full

/-- Compiles the tables if they are missing. After a failure the network is the one before. -/
def accelerate (network : Network) : Network × Except (Failure GrammarError) Unit :=
  match network with
  | .accelerated _ => (network, .ok ())
  | .plain grammar =>
      match grammar.accelerate with
      | .ok full => (.accelerated full, .ok ())
      | .error failure => (network, .error failure)

/-- The starting labels of the automaton that a number leads to. -/
def first (network : Network) (id : NonterminalId) : FirstSet :=
  match network with
  | .plain _ => .empty
  | .accelerated full => (full.first? id).getD .empty

/-- The dense table at a position of the automaton that a number leads to. -/
def table (network : Network) (id : NonterminalId) (position : Nat) : DenseTable :=
  match network with
  | .plain _ => .blank
  | .accelerated full => (full.table? id position).getD .blank

end Network

end TransitionNetwork
