import TransitionNetwork.Grammar.Network
import TransitionNetwork.Palette

/-!
# Listings

A network in lines for a reader: the label table, then every automaton with its states and their
arcs. With tables, the starting labels and the transitions are listed as well.
-/

set_option autoImplicit false

namespace TransitionNetwork

namespace Network

/-- A label in a listing; nonterminals appear by name, and a missing label as a question mark. -/
def labelName (network : Network) (palette : Palette) (id : LabelId) : String :=
  match network.grammar.label? id with
  | none => "?"
  | some label =>
      match label.kind, label.literal with
      | .empty, _ => palette.detail "EMPTY"
      | .token kind, none => palette.detail kind.canonicalName
      | .token kind, some literal =>
          palette.detail kind.canonicalName ++ " " ++ palette.text literal
      | .nonterminal id, _ => "<" ++ palette.symbol (network.grammar.nameOf id) ++ ">"

def transitionText (network : Network) (palette : Palette) : Transition → String
  | .shift target => "shift " ++ toString target.toNat
  | .push nonterminal next =>
      "push " ++ palette.symbol (network.grammar.nameOf nonterminal) ++ " then " ++
        toString next.toNat

def tableLines (network : Network) (palette : Palette) (table : DenseTable) : List String :=
  if table.entries.size = 0 then
    ["    accel none"]
  else
    ("    accel [" ++ toString table.lower ++ ", " ++ toString table.upper ++ ")") ::
      table.transitions.map fun (label, transition) =>
        "      " ++ network.labelName palette label ++ ": " ++
          network.transitionText palette transition

def stateLines (network : Network) (palette : Palette) (table : DenseTable) (state : State)
    (position : Nat) : List String :=
  let mark :=
    if table.isAcceptOnly state then " accept-only" else if table.accept then " accept" else ""
  let arcs := state.arcs.map fun arc =>
    "    " ++ network.labelName palette arc.label ++ " -> " ++ toString arc.target.toNat
  ("  state " ++ toString position ++ mark) :: arcs ++
    if network.isAccelerated then network.tableLines palette table else []

def automatonLines (network : Network) (palette : Palette) (automaton : Automaton) : List String :=
  let start := if automaton.id = network.grammar.start then " start" else ""
  let first :=
    if network.isAccelerated then
      ", first: " ++
        " ".intercalate ((network.first automaton.id).toList.map (network.labelName palette))
    else ""
  ("dfa " ++ palette.detail automaton.id.describe ++ " " ++ palette.symbol automaton.name ++
      " (initial " ++ toString automaton.initial.toNat ++ start ++ first ++ ")") ::
    automaton.states.toList.zipIdx.flatMap fun (state, position) =>
      network.stateLines palette (network.table automaton.id position) state position

def labelLines (network : Network) (palette : Palette) : List String :=
  "labels" :: (List.range network.grammar.labels.size).map fun position =>
    "  " ++ palette.detail (toString position) ++ " " ++
      network.labelName palette position.toUInt16

def listing (network : Network) (palette : Palette) : String :=
  let lines := network.labelLines palette ++
    network.grammar.automata.toList.flatMap (network.automatonLines palette)
  String.join (lines.map (· ++ "\n"))

end Network

end TransitionNetwork
