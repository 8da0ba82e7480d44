import TransitionNetwork.Automaton.Basic

/-!
# Dense tables

What a state does on each terminal label, in a table indexed by label position. The table covers the
range of labels that have a transition and nothing more, so its bounds are part of its meaning:
`lower` is the first such label and `upper` one past the last, and both are zero without any.
-/

set_option autoImplicit false

namespace TransitionNetwork

inductive Transition where
  /-- Consume the token and move to a state of the same automaton. -/
  | shift (target : StateId)
  /-- Open a nonterminal without consuming the token; its parent continues at `next`. -/
  | push (nonterminal : NonterminalId) (next : StateId)
  deriving DecidableEq, Repr

/-- The transitions of a state, and whether the nonterminal may end there. -/
structure DenseTable where
  accept : Bool
  lower : Nat
  entries : Array (Option Transition)
  deriving DecidableEq, Repr

namespace DenseTable

/-- The table of a state that has not been compiled. -/
def blank : DenseTable := ⟨false, 0, #[]⟩

instance : Inhabited DenseTable := ⟨blank⟩

def upper (table : DenseTable) : Nat :=
  table.lower + table.entries.size

/-- The transition on a label; labels outside the covered range have none. -/
def lookup (table : DenseTable) (label : LabelId) : Option Transition :=
  if label.toNat < table.lower then none
  else (table.entries[label.toNat - table.lower]?).join

/-- The labels with a transition, in ascending order. -/
def transitions (table : DenseTable) : List (LabelId × Transition) :=
  (table.entries.toList.zipIdx table.lower).filterMap fun (entry, position) =>
    entry.map fun transition => (position.toUInt16, transition)

/-- Whether a state with this table has nothing else to do than to end: it accepts, and its only arc
is the accept marker. -/
def isAcceptOnly (table : DenseTable) (state : State) : Bool :=
  table.accept && state.arcs.length == 1

/-- Cuts a table that covers every label down to the range that has transitions. -/
def trim (accept : Bool) (entries : Array (Option Transition)) : DenseTable :=
  match entries.findIdx? Option.isSome with
  | none => { accept, lower := 0, entries := #[] }
  | some lower =>
      { accept, lower, entries := (entries.extract lower entries.size).popWhile Option.isNone }

end DenseTable

end TransitionNetwork
