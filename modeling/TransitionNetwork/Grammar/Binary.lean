import TransitionNetwork.Binary.Basic
import TransitionNetwork.Grammar.Basic

/-!
# Grammars as binary data

Only the grammar is stored: automata, then labels, then the start symbol. Compiled tables are made
again after reading. Bytes after the start symbol are ignored.
-/

set_option autoImplicit false

namespace TransitionNetwork.Binary

def readArc : Reader Arc := do
  let label ← readWord16
  let target ← readWord16
  return { label, target }

def writeArc (arc : Arc) : List UInt8 :=
  writeWord16 arc.label ++ writeWord16 arc.target

def readState : Reader State := do
  let arcs ← readArray readArc
  return { arcs := arcs.toList }

def writeState (state : State) : List UInt8 :=
  writeList writeArc state.arcs

def readAutomaton : Reader Automaton := do
  let id ← readWord16
  let name ← readText
  let initial ← readWord16
  let states ← readArray readState
  return { id := ⟨id⟩, name, initial, states }

def writeAutomaton (automaton : Automaton) : List UInt8 :=
  writeWord16 automaton.id.raw ++ writeText automaton.name ++ writeWord16 automaton.initial ++
    writeList writeState automaton.states.toList

def readTokenKind : Reader TokenKind := do
  let ordinal ← readNumber .word32
  match TokenKind.ofOrdinal? ordinal with
  | some kind => return kind
  | none => throw .unknownAlternative

/-- Reads the number of an alternative and what belongs to it. -/
def readLabelKind : Reader LabelKind := do
  let alternative ← readNumber .word32
  match alternative with
  | 0 => return .empty
  | 1 => return .token (← readTokenKind)
  | 2 => return .nonterminal ⟨← readWord16⟩
  | _ => throw .unknownAlternative

def writeLabelKind : LabelKind → List UInt8
  | .empty => writeNumber 0
  | .token kind => writeNumber 1 ++ writeNumber kind.ordinal
  | .nonterminal id => writeNumber 2 ++ writeWord16 id.raw

def readLabel : Reader Label := do
  let kind ← readLabelKind
  let literal ← readOption readText
  return { kind, literal }

def writeLabel (label : Label) : List UInt8 :=
  writeLabelKind label.kind ++ writeOption writeText label.literal

def readGrammar : Reader Grammar := do
  let automata ← readArray readAutomaton
  let labels ← readArray readLabel
  let start ← readWord16
  return { automata, labels, start := ⟨start⟩ }

def writeGrammar (grammar : Grammar) : List UInt8 :=
  writeList writeAutomaton grammar.automata.toList ++
    writeList writeLabel grammar.labels.toList ++ writeWord16 grammar.start.raw

end TransitionNetwork.Binary

namespace TransitionNetwork.Grammar

/-- The grammar that data begins with. Nothing about the grammar is checked. -/
def ofBinary (bytes : List UInt8) : Except Binary.Defect Grammar :=
  match Binary.readGrammar bytes with
  | .ok (grammar, _) => .ok grammar
  | .error defect => .error defect

def toBinary (grammar : Grammar) : List UInt8 :=
  Binary.writeGrammar grammar

end TransitionNetwork.Grammar
