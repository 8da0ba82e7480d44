import TransitionNetwork.Grammar.Classification
import TransitionNetwork.Grammar.Network
import TransitionNetwork.Parser.Event
import TransitionNetwork.Tree.Basic

/-!
# Parsers

A parser for one input keeps a stack of open nonterminals, one frame each, and the tree built so
far. A fed token is classified once; then the innermost frame decides. It may open a nonterminal
below it, with the token still pending; it may consume the token, after which every nonterminal that
has nothing left to do is closed; it may close itself, if it can end here, and leave the token to
its parent; or it may refuse the token. The first failure stops the parser for good.

Frames are listed innermost first.
-/

set_option autoImplicit false

namespace TransitionNetwork

/-- An open nonterminal: the state it is in and the node that takes its children. -/
structure Frame where
  nonterminal : NonterminalId
  state : StateId
  node : NodeId
  deriving DecidableEq, Repr

/-- What an operation of a parser reports and returns. -/
structure Outcome (α : Type) where
  events : List Event
  result : Except (Failure ParseError) α

structure Parser where
  grammar : AcceleratedGrammar
  frames : List Frame
  tree : Tree
  maxDepth : Option Nat
  poisoned : Bool

namespace AcceleratedGrammar

/-- The automaton, state and dense table that a frame stands in. -/
def look (grammar : AcceleratedGrammar) (frame : Frame) :
    Except (Failure ParseError) (Automaton × State × DenseTable) :=
  match grammar.grammar.automaton? frame.nonterminal with
  | none => .error (.error (.unknownNonterminal frame.nonterminal))
  | some automaton => do
      let state ← automaton.state frame.state
      match grammar.table? frame.nonterminal frame.state.toNat with
      | some table => return (automaton, state, table)
      | none => throw (.fault (.entryNotFound frame.state.toNat automaton.states.size))

end AcceleratedGrammar

namespace Parser

inductive StartSymbol where
  | number (id : NonterminalId)
  | name (name : String)
  deriving DecidableEq, Repr

/-- What can be chosen when a parser is made: another start symbol than the grammar's, and a limit
on the number of nonterminals open at once. -/
structure Options where
  start : Option StartSymbol := none
  maxDepth : Option Nat := none
  deriving DecidableEq, Repr

/-- The automaton to start in, and the text that names it in an error. -/
def startAutomaton (grammar : Grammar) : Option StartSymbol → Option Automaton × String
  | none => (grammar.automaton? grammar.start, grammar.start.describe)
  | some (.number id) => (grammar.automaton? id, id.describe)
  | some (.name name) => (grammar.automatonNamed? name, name)

/-- A parser with the start symbol open. Its node stands at line 0 and column 0, since no token has
been seen yet. -/
def new (network : Network) (options : Options) : Except ParseError Parser :=
  match network with
  | .plain _ => .error .notAccelerated
  | .accelerated grammar =>
      match startAutomaton grammar.grammar options.start with
      | (none, start) => .error (.unknownStart start)
      | (some automaton, _) => .ok {
          grammar
          frames := [⟨automaton.id, automaton.initial, Tree.root⟩]
          tree := Tree.single automaton.id 0 0
          maxDepth := options.maxDepth
          poisoned := false }

def depth (parser : Parser) : Nat :=
  parser.frames.length

def isDone (parser : Parser) : Bool :=
  parser.frames.isEmpty && !parser.poisoned

def tree? (parser : Parser) : Option Tree :=
  if parser.isDone then some parser.tree else none

/-- The tree of a parser that has seen all its input. Nothing is closed for the sake of it. -/
def intoTree (parser : Parser) : Except ParseError Tree :=
  if parser.poisoned then
    .error .poisoned
  else
    match parser.frames with
    | [] => .ok parser.tree
    | top :: _ => .error (.unexpectedEnd (parser.grammar.grammar.nameOf top.nonterminal))

/-! ## Feeding -/

/-- A token that waits to be consumed: where it stands and which label it has. -/
structure Pending where
  token : Token
  col : Nat
  label : LabelId
  deriving DecidableEq, Repr

/-- What the innermost frame does with a pending token. Frames and tree are those afterwards. -/
inductive Move where
  /-- A nonterminal was opened or closed, and the token is still pending. -/
  | onward (frames : List Frame) (tree : Tree) (event : Event)
  | consumed (frames : List Frame) (tree : Tree) (event : Event)
  | stuck (frames : List Frame) (tree : Tree) (failure : Failure ParseError)

/-- Opens a nonterminal below the innermost frame, unless the limit forbids it. Its node stands
where the pending token stands. -/
def openBelow (grammar : AcceleratedGrammar) (maxDepth : Option Nat) (pending : Pending)
    (top : Frame) (rest : List Frame) (tree : Tree) (nonterminal : NonterminalId)
    (next : StateId) : Move :=
  match grammar.grammar.automaton? nonterminal with
  | none => .stuck (top :: rest) tree (.error (.unknownNonterminal nonterminal))
  | some automaton =>
      match maxDepth.filter (· ≤ rest.length + 1) with
      | some limit => .stuck (top :: rest) tree (.error (.depthLimitExceeded limit))
      | none =>
          match tree.parentFault? top.node with
          | some fault => .stuck (top :: rest) tree (.fault fault)
          | none =>
              let child : Frame := ⟨nonterminal, automaton.initial, tree.size⟩
              .onward (child :: { top with state := next } :: rest)
                (tree.attach top.node (.interior nonterminal #[] pending.token.line pending.col))
                (.push nonterminal next (rest.length + 1))

/-- Makes the pending token a leaf of the innermost frame's node. -/
def consume (pending : Pending) (top : Frame) (rest : List Frame) (tree : Tree)
    (target : StateId) : Move :=
  match tree.parentFault? top.node with
  | some fault => .stuck (top :: rest) tree (.fault fault)
  | none =>
      let token := pending.token
      .consumed ({ top with state := target } :: rest)
        (tree.attach top.node (.leaf token.kind token.text token.line pending.col))
        (.shift token target (rest.length + 1))

/-- What the innermost frame does with the pending token. -/
def move (grammar : AcceleratedGrammar) (maxDepth : Option Nat) (pending : Pending)
    (frames : List Frame) (tree : Tree) : Move :=
  match frames with
  | [] => .stuck [] tree (.error (.stackUnderflow pending.token pending.col))
  | top :: rest =>
      match grammar.look top with
      | .error failure => .stuck (top :: rest) tree failure
      | .ok (_, _, table) =>
          match table.lookup pending.label with
          | some (.push nonterminal next) =>
              openBelow grammar maxDepth pending top rest tree nonterminal next
          | some (.shift target) => consume pending top rest tree target
          | none =>
              if table.accept then
                .onward rest tree (.pop top.nonterminal .retry (rest.length + 1))
              else
                .stuck (top :: rest) tree
                  (.error (.illegalToken pending.token pending.col .rejected))

/-- Frames and tree after some moves, what was reported, and how the moves ended. -/
structure Run where
  frames : List Frame
  tree : Tree
  trail : Array Event
  result : Except (Failure ParseError) Unit

def settle (grammar : AcceleratedGrammar) (maxDepth : Option Nat) (pending : Pending) :
    Nat → List Frame → Tree → Array Event → Run
  | 0, frames, tree, trail => { frames, tree, trail, result := .error (.fault .unsettled) }
  | bound + 1, frames, tree, trail =>
      match move grammar maxDepth pending frames tree with
      | .onward frames tree event =>
          settle grammar maxDepth pending bound frames tree (trail.push event)
      | .consumed frames tree event =>
          { frames, tree, trail := trail.push event, result := .ok () }
      | .stuck frames tree failure => { frames, tree, trail, result := .error failure }

/-- Closes the nonterminals that have nothing left to do but to end, from the inside out. -/
def collapse (grammar : AcceleratedGrammar) (frames : List Frame) (tree : Tree)
    (trail : Array Event) : Run :=
  match frames with
  | [] => { frames := [], tree, trail := trail.push .accept, result := .ok () }
  | top :: rest =>
      match grammar.look top with
      | .error failure => { frames := top :: rest, tree, trail, result := .error failure }
      | .ok (_, state, table) =>
          if table.isAcceptOnly state then
            collapse grammar rest tree
              (trail.push (.pop top.nonterminal .collapse (rest.length + 1)))
          else
            { frames := top :: rest, tree, trail, result := .ok () }

/-- Classifies a token, settles it and collapses what it completes. Closing takes at most as many
moves as there are frames, and no nonterminal is opened twice for one token; one move is left for
the end. -/
def run (grammar : AcceleratedGrammar) (maxDepth : Option Nat) (frames : List Frame) (tree : Tree)
    (token : Token) (col : Nat) : Run :=
  match grammar.grammar.classify token with
  | none =>
      { frames, tree, trail := #[],
        result := .error (.error (.illegalToken token col .unclassified)) }
  | some label =>
      let bound := frames.length + grammar.grammar.automata.size + 1
      match settle grammar maxDepth ⟨token, col, label⟩ bound frames tree
          #[.classify token label] with
      | ⟨frames, tree, trail, .ok ()⟩ => collapse grammar frames tree trail
      | stopped => stopped

/-- Why a parser takes no token at all, if it does not. -/
def idleReason? (parser : Parser) : Option ParseError :=
  if parser.poisoned then some .poisoned
  else if parser.frames.isEmpty then some .alreadyComplete
  else none

/-- The events of a failure: an error is reported, a fault is not. -/
def failureEvents : Failure ParseError → List Event
  | .error cause => [.error cause]
  | .fault _ => []

/-- Feeds a token that stands at a column. A parser that takes no token reports nothing and stays as
it is; any other failure is reported and poisons the parser. -/
def feed (parser : Parser) (token : Token) (col : Nat) : Parser × Outcome Unit :=
  match parser.idleReason? with
  | some cause => (parser, { events := [], result := .error (.error cause) })
  | none =>
      let ⟨grammar, frames, tree, maxDepth, _⟩ := parser
      match run grammar maxDepth frames tree token col with
      | ⟨frames, tree, trail, .ok ()⟩ =>
          (⟨grammar, frames, tree, maxDepth, false⟩, { events := trail.toList, result := .ok () })
      | ⟨frames, tree, trail, .error failure⟩ =>
          (⟨grammar, frames, tree, maxDepth, true⟩,
            { events := trail.toList ++ failureEvents failure, result := .error failure })

/-! ## Finishing -/

/-- Closes all open nonterminals, which all have to be able to end. -/
def close (grammar : AcceleratedGrammar) (frames : List Frame) (trail : Array Event) :
    Array Event × Except (Failure ParseError) Unit :=
  match frames with
  | [] => (trail.push .accept, .ok ())
  | top :: rest =>
      match grammar.look top with
      | .error failure => (trail, .error failure)
      | .ok (automaton, _, table) =>
          if table.accept then
            close grammar rest
              (trail.push (.pop top.nonterminal .endOfInput (rest.length + 1)))
          else
            let cause := ParseError.unexpectedEnd automaton.name
            (trail.push (.error cause), .error (.error cause))

/-- Signals the end of the input and takes the tree. -/
def finish (parser : Parser) : Outcome Tree :=
  if parser.poisoned then
    { events := [], result := .error (.error .poisoned) }
  else if parser.frames.isEmpty then
    { events := [], result := .ok parser.tree }
  else
    let (trail, result) := close parser.grammar parser.frames #[]
    { events := trail.toList, result := result.map fun _ => parser.tree }

end Parser

end TransitionNetwork
