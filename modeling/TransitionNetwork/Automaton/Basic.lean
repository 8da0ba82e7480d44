import TransitionNetwork.Failure
import TransitionNetwork.Label

/-!
# Automata

One finite automaton per nonterminal. Its states hold the arcs as a grammar writes them: on a label,
go to a target. An arc on a nonterminal's label means that the whole nonterminal is matched before
the target is reached.
-/

set_option autoImplicit false

namespace TransitionNetwork

abbrev StateId := UInt16

structure Arc where
  label : LabelId
  target : StateId
  deriving DecidableEq, Repr

/-- A state: its arcs in the order they were written. -/
structure State where
  arcs : List Arc
  deriving DecidableEq, Repr

structure Automaton where
  id : NonterminalId
  name : String
  initial : StateId
  states : Array State
  deriving DecidableEq, Repr

namespace Automaton

/-- The state of a given number, or the fault that there is none. -/
def state (automaton : Automaton) (id : StateId) : Except Fault State :=
  match automaton.states[id.toNat]? with
  | some state => .ok state
  | none => .error (.stateNotFound automaton.name id automaton.states.size)

theorem state_eq_ok_iff {automaton : Automaton} {id : StateId} {state : State} :
    automaton.state id = .ok state ↔ automaton.states[id.toNat]? = some state := by
  unfold Automaton.state
  split <;> simp_all

end Automaton

end TransitionNetwork
