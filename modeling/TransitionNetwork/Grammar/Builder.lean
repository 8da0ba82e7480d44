import TransitionNetwork.Grammar.Network

/-!
# Building grammars

A grammar assembled step by step. Labels and nonterminals are entered once: asking for a label that
is already there, or for a name that is already declared, gives the position of the earlier entry.
Label 0 is the accept marker from the start. Every automaton starts in its state 0.
-/

set_option autoImplicit false

namespace TransitionNetwork

/-- A declared nonterminal, with its states once they are defined. -/
structure Declaration where
  name : String
  states : Option (Array State)
  deriving DecidableEq, Repr

structure Builder where
  labels : Array Label
  declarations : Array Declaration
  start : Option NonterminalId
  deriving DecidableEq, Repr

namespace Builder

def new : Builder :=
  { labels := #[.empty], declarations := #[], start := none }

/-- The position of a label, entered at the end if it is not there yet. -/
def label (builder : Builder) (label : Label) : LabelId × Builder :=
  match builder.labels.findIdx? (· == label) with
  | some position => (position.toUInt16, builder)
  | none =>
      (builder.labels.size.toUInt16, { builder with labels := builder.labels.push label })

def token (builder : Builder) (kind : TokenKind) : LabelId × Builder :=
  builder.label (.token kind)

def keyword (builder : Builder) (literal : String) : LabelId × Builder :=
  builder.label (.keyword literal)

/-- The label for a token of a kind, pinned to a text. -/
def pinned (builder : Builder) (kind : TokenKind) (literal : String) : LabelId × Builder :=
  builder.label (.pinned kind literal)

/-- The label for a whole nonterminal, declared or not. -/
def nonterminalLabel (builder : Builder) (id : NonterminalId) : LabelId × Builder :=
  builder.label (.nonterminal id)

/-- The number of a nonterminal, declared at the end if its name is new. -/
def nonterminal (builder : Builder) (name : String) : NonterminalId × Builder :=
  match builder.declarations.findIdx? fun declaration => declaration.name == name with
  | some position => (.ofIndex position, builder)
  | none =>
      (.ofIndex builder.declarations.size,
        { builder with declarations := builder.declarations.push { name, states := none } })

/-- Defines the states of a declared nonterminal, replacing an earlier definition. A number that no
declaration has changes nothing. -/
def define (builder : Builder) (id : NonterminalId) (states : Array State) : Builder :=
  { builder with
    declarations := builder.declarations.modify id.index fun declaration =>
      { declaration with states := some states } }

/-- Sets the start symbol; without it the first declared nonterminal is the start. -/
def startAt (builder : Builder) (id : NonterminalId) : Builder :=
  { builder with start := some id }

/-- The automaton of a declaration, which has to be defined. -/
def automaton (declaration : Declaration) (position : Nat) : Except GrammarError Automaton :=
  match declaration.states with
  | some states => .ok { id := .ofIndex position, name := declaration.name, initial := 0, states }
  | none => .error (.undefinedNonterminal declaration.name)

/-- The grammar as it stands. Its nonterminals have to be defined; nothing else is checked. -/
def grammar (builder : Builder) : Except GrammarError Grammar := do
  let automata ← builder.declarations.toList.zipIdx.mapM fun (declaration, position) =>
    automaton declaration position
  return {
    automata := automata.toArray
    labels := builder.labels
    start := builder.start.getD (.ofIndex 0) }

/-- The network without tables; its grammar has to be valid. -/
def buildPlain (builder : Builder) : Except GrammarError Network := do
  let grammar ← builder.grammar
  Network.ofValid grammar

def build (builder : Builder) : Except (Failure GrammarError) Network :=
  match builder.grammar with
  | .ok grammar => Network.ofGrammar grammar
  | .error defect => .error (.error defect)

end Builder

end TransitionNetwork
