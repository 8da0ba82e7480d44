import TransitionNetwork.Grammar.Basic
import TransitionNetwork.Json.Skip
import TransitionNetwork.Json.Writer

/-!
# Structure text

The JSON form that writes a grammar field by field, numbers and all. Nothing about the grammar is
checked when it is read. A structure may be written as an object or as the list of its fields; an
alternative is written by its name, with what belongs to it in an object of one key.
-/

set_option autoImplicit false

namespace TransitionNetwork.StructureText

open Json

/-! ## Alternatives -/

/-- Reads an alternative: `bare` says what a name by itself stands for, `payload` how to read what
belongs to a name in an object of one key. Both are given only names. -/
def readAlternative {α : Type} (bare : String → Reader α) (payload : String → Reader (Reader α)) :
    Reader α := fun text =>
  match skipBlanks text with
  | [] => .error .truncated
  | '"' :: rest => (do let name ← readQuoted; bare name : Reader α) rest
  | '\x7b' :: rest =>
      let inside : Reader α := do
        let name ← readKey
        let read ← payload name
        readColon
        read
      match inside rest with
      | .error defect => .error defect
      | .ok (value, rest) =>
          match skipBlanks rest with
          | [] => .error .truncated
          | '\x7d' :: rest => .ok (value, rest)
          | _ => .error .malformed
  | _ => .error .malformed

/-- Reads a token kind by its spelling, which nothing belongs to. -/
def readTokenKind : Reader TokenKind :=
  let find (spelling : String) : Reader TokenKind := required (TokenKind.ofSpelling? spelling)
  readAlternative find fun spelling => do
    let kind ← find spelling
    return do
      readNull
      return kind

def readNonterminalId : Reader NonterminalId := do
  let raw ← readWord16
  return ⟨raw⟩

def readLabelKind : Reader LabelKind :=
  readAlternative
    (fun name => if name = "Empty" then pure .empty else throw .mismatched)
    (fun name =>
      if name = "Empty" then
        return do
          readNull
          return .empty
      else if name = "Token" then
        return do
          let kind ← readTokenKind
          return .token kind
      else if name = "Nonterminal" then
        return do
          let id ← readNonterminalId
          return .nonterminal id
      else throw .mismatched)

/-! ## Structures -/

/-- What has been read of an arc that is written as an object. -/
structure ArcFields where
  label : Option LabelId := none
  target : Option StateId := none

def arcMember (limit : Nat) (fields : ArcFields) (key : String) : Reader ArcFields := do
  if key = "label" then
    return { fields with label := ← readOnce fields.label readWord16 }
  else if key = "target" then
    return { fields with target := ← readOnce fields.target readWord16 }
  else
    skipMember limit
    return fields

def readArc (limit : Nat) : Reader Arc :=
  readRecord
    (do
      let label ← readElement true readWord16
      let target ← readElement false readWord16
      closeList
      return { label, target })
    (do
      let fields ← readMembers (arcMember limit) limit true {}
      return { label := ← required fields.label, target := ← required fields.target })

def stateMember (limit : Nat) (arcs : Option (Array Arc)) (key : String) :
    Reader (Option (Array Arc)) := do
  if key = "arcs" then
    readOnce arcs (readList limit (readArc limit))
  else
    skipMember limit
    return arcs

def readState (limit : Nat) : Reader State :=
  readRecord
    (do
      let arcs ← readElement true (readList limit (readArc limit))
      closeList
      return { arcs := arcs.toList })
    (do
      let arcs ← required (← readMembers (stateMember limit) limit true none)
      return { arcs := arcs.toList })

/-- What has been read of an automaton that is written as an object. -/
structure AutomatonFields where
  id : Option NonterminalId := none
  name : Option String := none
  initial : Option StateId := none
  states : Option (Array State) := none

def automatonMember (limit : Nat) (fields : AutomatonFields) (key : String) :
    Reader AutomatonFields := do
  if key = "id" then
    return { fields with id := ← readOnce fields.id readNonterminalId }
  else if key = "name" then
    return { fields with name := ← readOnce fields.name readText }
  else if key = "initial" then
    return { fields with initial := ← readOnce fields.initial readWord16 }
  else if key = "states" then
    return { fields with states := ← readOnce fields.states (readList limit (readState limit)) }
  else
    skipMember limit
    return fields

def readAutomaton (limit : Nat) : Reader Automaton :=
  readRecord
    (do
      let id ← readElement true readNonterminalId
      let name ← readElement false readText
      let initial ← readElement false readWord16
      let states ← readElement false (readList limit (readState limit))
      closeList
      return { id, name, initial, states })
    (do
      let fields ← readMembers (automatonMember limit) limit true {}
      return {
        id := ← required fields.id
        name := ← required fields.name
        initial := ← required fields.initial
        states := ← required fields.states })

/-- What has been read of a label that is written as an object. -/
structure LabelFields where
  kind : Option LabelKind := none
  literal : Option (Option String) := none

def labelMember (limit : Nat) (fields : LabelFields) (key : String) : Reader LabelFields := do
  if key = "kind" then
    return { fields with kind := ← readOnce fields.kind readLabelKind }
  else if key = "literal" then
    return { fields with literal := ← readOnce fields.literal readOptionalText }
  else
    skipMember limit
    return fields

/-- Reads a label. An object may leave the literal out, a list may not. -/
def readLabel (limit : Nat) : Reader Label :=
  readRecord
    (do
      let kind ← readElement true readLabelKind
      let literal ← readElement false readOptionalText
      closeList
      return { kind, literal })
    (do
      let fields ← readMembers (labelMember limit) limit true {}
      return { kind := ← required fields.kind, literal := fields.literal.getD none })

/-- What has been read of a grammar that is written as an object. -/
structure GrammarFields where
  automata : Option (Array Automaton) := none
  labels : Option (Array Label) := none
  start : Option NonterminalId := none

def grammarMember (limit : Nat) (fields : GrammarFields) (key : String) :
    Reader GrammarFields := do
  if key = "dfas" then
    let automata ← readOnce fields.automata (readList limit (readAutomaton limit))
    return { fields with automata }
  else if key = "labels" then
    return { fields with labels := ← readOnce fields.labels (readList limit (readLabel limit)) }
  else if key = "start" then
    return { fields with start := ← readOnce fields.start readNonterminalId }
  else
    skipMember limit
    return fields

def readGrammar (limit : Nat) : Reader Grammar :=
  readRecord
    (do
      let automata ← readElement true (readList limit (readAutomaton limit))
      let labels ← readElement false (readList limit (readLabel limit))
      let start ← readElement false readNonterminalId
      closeList
      return { automata, labels, start })
    (do
      let fields ← readMembers (grammarMember limit) limit true {}
      return {
        automata := ← required fields.automata
        labels := ← required fields.labels
        start := ← required fields.start })

/-! ## Writing -/

def writeArc (arc : Arc) : List Char :=
  writeObject [("label", writeWord16 arc.label), ("target", writeWord16 arc.target)]

def writeState (state : State) : List Char :=
  writeObject [("arcs", writeList writeArc state.arcs)]

def writeAutomaton (automaton : Automaton) : List Char :=
  writeObject [
    ("id", writeWord16 automaton.id.raw),
    ("name", writeQuoted automaton.name),
    ("initial", writeWord16 automaton.initial),
    ("states", writeList writeState automaton.states.toList)]

def writeLabelKind : LabelKind → List Char
  | .empty => writeQuoted "Empty"
  | .token kind => writeObject [("Token", writeQuoted kind.spelling)]
  | .nonterminal id => writeObject [("Nonterminal", writeWord16 id.raw)]

def writeLabel (label : Label) : List Char :=
  writeObject [("kind", writeLabelKind label.kind), ("literal", writeOptionalText label.literal)]

def writeGrammar (grammar : Grammar) : List Char :=
  writeObject [
    ("dfas", writeList writeAutomaton grammar.automata.toList),
    ("labels", writeList writeLabel grammar.labels.toList),
    ("start", writeWord16 grammar.start.raw)]

end TransitionNetwork.StructureText

namespace TransitionNetwork.Grammar

def ofStructureText (text : String) : Except Json.Defect Grammar :=
  let chars := text.toList
  Json.readWhole (StructureText.readGrammar (chars.length + 1)) chars

def toStructureText (grammar : Grammar) : String :=
  String.ofList (StructureText.writeGrammar grammar)

end TransitionNetwork.Grammar
