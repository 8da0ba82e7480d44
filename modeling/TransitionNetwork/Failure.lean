/-!
# Failures

An operation can fail in two ways. Its input can be refused, with a cause of the operation's own
type; or an index can meet no entry, which is a *fault*: it means that an identity was used with a
structure it does not belong to. Faults are results like any other, so that it can be stated and
proved which operations never have one.
-/

set_option autoImplicit false

namespace TransitionNetwork

/-- An index that met no entry, or a search that ran over its bound. -/
inductive Fault where
  | stateNotFound (automaton : String) (state : UInt16) (count : Nat)
  | nodeNotFound (node : Nat)
  | leafParent (node : Nat)
  | entryNotFound (index size : Nat)
  | unsettled
  deriving DecidableEq, Repr

def Fault.message : Fault → String
  | .stateNotFound automaton state count =>
      "Dfa `" ++ automaton ++ "`: state " ++ toString state.toNat ++ " not found (" ++
        toString count ++ " states; Grammar::validate must reject out-of-range targets)"
  | .nodeNotFound node =>
      "Cst: node " ++ toString node ++ " not found (NodeId must come from the same tree)"
  | .leafParent node =>
      "Cst: node " ++ toString node ++
        " is a leaf and cannot take children (parser frames must reference interior nodes)"
  | .entryNotFound index size =>
      "table entry " ++ toString index ++ " not found (" ++ toString size ++ " entries)"
  | .unsettled => "search not settled within its bound"

/-- Why an operation gave no result: its input was refused, or it met a fault. -/
inductive Failure (ε : Type) where
  | error (cause : ε)
  | fault (fault : Fault)
  deriving DecidableEq, Repr

/-- An operation whose only failures are faults can stand where causes are possible too. -/
instance {ε : Type} : MonadLift (Except Fault) (Except (Failure ε)) where
  monadLift
    | .ok value => .ok value
    | .error fault => .error (.fault fault)

/-- The entry of a table at a position, or the fault that there is none. -/
def entry {α : Type} (table : Array α) (index : Nat) : Except Fault α :=
  match table[index]? with
  | some value => .ok value
  | none => .error (.entryNotFound index table.size)

theorem entry_eq_ok_iff {α : Type} {table : Array α} {index : Nat} {value : α} :
    entry table index = .ok value ↔ table[index]? = some value := by
  unfold entry
  split <;> simp_all

end TransitionNetwork
