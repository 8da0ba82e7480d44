import TransitionNetwork.Grammar.Basic
import TransitionNetwork.Grammar.Error
import TransitionNetwork.Json.Skip
import TransitionNetwork.Json.Value
import TransitionNetwork.Json.Writer

/-!
# Table text

The JSON form in which grammars are written by hand or by a generator. It names nonterminals instead
of numbering them:

    {"start": "sum",
     "labels": ["EMPTY", "NUMBER", {"kind": "NAME", "literal": "if"}, {"nonterminal": "term"}],
     "dfas": {"sum": {"initial": 0, "states": [[[1, 1]], [[0, 1]]]}}}

The automata are numbered in the order of their names in the text; a repeated name keeps its first
place and takes its last value. Without `start` the first automaton is the start symbol. Reading
gives a `TableText`, in which names are still names; resolving it gives a grammar. In the other
direction `TableText.ofGrammar` puts names for numbers, and `TableText.write` writes the text.
-/

set_option autoImplicit false

namespace TransitionNetwork

inductive LabelText where
  | plain (name : String)
  /-- A token kind by name, perhaps pinned to a literal. -/
  | token (kind : String) (literal : Option String)
  | nonterminal (name : String)
  deriving DecidableEq, Repr

structure AutomatonText where
  initial : StateId
  states : Array State
  deriving DecidableEq, Repr

/-- A grammar as table text writes it. The automata have distinct names. -/
structure TableText where
  start : Option String
  labels : Array LabelText
  automata : Array (String × AutomatonText)
  deriving DecidableEq, Repr

namespace LabelText

def emptyName : String := "EMPTY"

/-- The label that a value of any shape stands for. The three forms are tried in turn, and a form
whose own keys are repeated, missing or of the wrong shape does not apply; other keys do no harm. -/
def ofValue? : Json.Value → Option LabelText
  | .text name => some (.plain name)
  | .object members =>
      let values := Json.Value.valuesOf members
      let asToken : Option LabelText :=
        match values "kind", values "literal" with
        | [kind], [] => kind.text?.map (.token · none)
        | [kind], [literal] => do
            let kind ← kind.text?
            let literal ← literal.optionalText?
            return .token kind literal
        | _, _ => none
      let asNonterminal : Option LabelText :=
        match values "nonterminal" with
        | [name] => name.text?.map .nonterminal
        | _ => none
      asToken.or asNonterminal
  | _ => none

end LabelText

namespace TableText

/-! ## Reading -/

open Json

def readArc : Reader Arc := do
  let (label, target) ← readPair readWord16 readWord16
  return { label, target }

def readState (limit : Nat) : Reader State := do
  let arcs ← readList limit readArc
  return { arcs := arcs.toList }

/-- What has been read of an automaton that is written as an object. -/
structure AutomatonFields where
  initial : Option StateId := none
  states : Option (Array State) := none

def automatonMember (limit : Nat) (fields : AutomatonFields) (key : String) :
    Reader AutomatonFields := do
  if key = "initial" then
    return { fields with initial := ← readOnce fields.initial readWord16 }
  else if key = "states" then
    return { fields with states := ← readOnce fields.states (readList limit (readState limit)) }
  else
    skipMember limit
    return fields

/-- Reads an automaton, as a list of its two fields or as an object without an initial state or
with one. -/
def readAutomaton (limit : Nat) : Reader AutomatonText :=
  readRecord
    (do
      let initial ← readElement true readWord16
      let states ← readElement false (readList limit (readState limit))
      closeList
      return { initial, states })
    (do
      let fields ← readMembers (automatonMember limit) limit true {}
      let states ← required fields.states
      return { initial := fields.initial.getD 0, states })

/-- Reads a label. It stands inside two enclosures, which count for its nesting. -/
def readLabel (limit : Nat) : Reader LabelText := do
  let value ← readValue limit (maxNesting - 2)
  required (LabelText.ofValue? value)

/-- Enters an automaton under its name: in the place of an earlier one, else at the end. -/
def enter (automata : Array (String × AutomatonText)) (name : String) (automaton : AutomatonText) :
    Array (String × AutomatonText) :=
  match automata.findIdx? fun entry => entry.1 == name with
  | some position => automata.modify position fun _ => (name, automaton)
  | none => automata.push (name, automaton)

/-- Reads the automata, an object from names to automata. -/
def readAutomata (limit : Nat) : Reader (Array (String × AutomatonText)) :=
  readObject <|
    readMembers
      (fun automata name => do
        readColon
        let automaton ← readAutomaton limit
        return enter automata name automaton)
      limit true #[]

/-- What has been read of a grammar that is written as an object. -/
structure Fields where
  start : Option (Option String) := none
  labels : Option (Array LabelText) := none
  automata : Option (Array (String × AutomatonText)) := none

def member (limit : Nat) (fields : Fields) (key : String) : Reader Fields := do
  if key = "start" then
    return { fields with start := ← readOnce fields.start readOptionalText }
  else if key = "labels" then
    return { fields with labels := ← readOnce fields.labels (readList limit (readLabel limit)) }
  else if key = "dfas" then
    return { fields with automata := ← readOnce fields.automata (readAutomata limit) }
  else
    skipMember limit
    return fields

/-- Reads a grammar, as a list of its three fields or as an object. -/
def read (limit : Nat) : Reader TableText :=
  readRecord
    (do
      let start ← readElement true readOptionalText
      let labels ← readElement false (readList limit (readLabel limit))
      let automata ← readElement false (readAutomata limit)
      closeList
      return { start, labels, automata })
    (do
      let fields ← readMembers (member limit) limit true {}
      let labels ← required fields.labels
      let automata ← required fields.automata
      return { start := fields.start.getD none, labels, automata })

/-- The table text that a text holds and nothing else. -/
def parse (text : String) : Except Defect TableText :=
  let chars := text.toList
  readWhole (read (chars.length + 1)) chars

/-! ## Resolving -/

def number? (table : TableText) (name : String) : Option NonterminalId :=
  (table.automata.findIdx? fun entry => entry.1 == name).map .ofIndex

def tokenKind (name : String) : Except GrammarError TokenKind :=
  match TokenKind.ofCanonicalName? name with
  | some kind => .ok kind
  | none => .error (.unknownTokenKind name)

def label (table : TableText) : LabelText → Except GrammarError Label
  | .plain name =>
      if name = LabelText.emptyName then .ok .empty
      else (tokenKind name).map .token
  | .token kind literal => (tokenKind kind).map fun kind => { kind := .token kind, literal }
  | .nonterminal name =>
      match table.number? name with
      | some id => .ok (.nonterminal id)
      | none => .error (.unknownNonterminal name)

def startNumber (table : TableText) : Except GrammarError NonterminalId :=
  match table.start with
  | none => .ok (.ofIndex 0)
  | some name =>
      match table.number? name with
      | some id => .ok id
      | none => .error (.unknownStart name)

/-- The grammar that a table text stands for. Labels are resolved in order, then the start symbol;
nothing else is checked. -/
def resolve (table : TableText) : Except GrammarError Grammar := do
  let labels ← table.labels.toList.mapM table.label
  let start ← table.startNumber
  let automata := table.automata.toList.zipIdx.map fun ((name, automaton), position) =>
    ({ id := .ofIndex position, name, initial := automaton.initial,
       states := automaton.states } : Automaton)
  return { automata := automata.toArray, labels := labels.toArray, start }

/-! ## Writing -/

/-- A label by names. A literal on the accept marker or on a nonterminal has no place in the text. -/
def labelOfGrammar (grammar : Grammar) (label : Label) : LabelText :=
  match label.kind, label.literal with
  | .empty, _ => .plain LabelText.emptyName
  | .token kind, none => .plain kind.canonicalName
  | .token kind, some literal => .token kind.canonicalName (some literal)
  | .nonterminal id, _ => .nonterminal (grammar.nameOf id)

def ofGrammar (grammar : Grammar) : TableText :=
  { start := some (grammar.nameOf grammar.start)
    labels := grammar.labels.map (labelOfGrammar grammar)
    automata := grammar.automata.map fun automaton =>
      (automaton.name, { initial := automaton.initial, states := automaton.states }) }

def writeArc (arc : Arc) : List Char :=
  writeList writeWord16 [arc.label, arc.target]

def writeState (state : State) : List Char :=
  writeList writeArc state.arcs

def writeAutomaton (automaton : AutomatonText) : List Char :=
  writeObject [
    ("initial", writeWord16 automaton.initial),
    ("states", writeList writeState automaton.states.toList)]

def writeLabel : LabelText → List Char
  | .plain name => writeQuoted name
  | .token kind none => writeObject [("kind", writeQuoted kind)]
  | .token kind (some literal) =>
      writeObject [("kind", writeQuoted kind), ("literal", writeQuoted literal)]
  | .nonterminal name => writeObject [("nonterminal", writeQuoted name)]

/-- The start symbol is left out when it is the first automaton by default. -/
def writeStart : Option String → List (String × List Char)
  | none => []
  | some name => [("start", writeQuoted name)]

def write (table : TableText) : List Char :=
  writeObject (writeStart table.start ++ [
    ("labels", writeList writeLabel table.labels.toList),
    ("dfas", writeObject (table.automata.toList.map fun (name, automaton) =>
      (name, writeAutomaton automaton)))])

end TableText

end TransitionNetwork
