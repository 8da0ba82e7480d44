import TransitionNetwork.Automaton.Basic
import TransitionNetwork.Parser.Error

/-!
# Events

What a parser reports while it works. A depth is the number of open nonterminals when the event
happens: for a push that of the parent, for a pop that of the nonterminal being closed.
-/

set_option autoImplicit false

namespace TransitionNetwork

inductive PopReason where
  /-- After a shift nothing was left for it but to end. -/
  | collapse
  /-- It could end and had no transition on the pending token, which is tried one level up. -/
  | retry
  | endOfInput
  deriving DecidableEq, Repr

def PopReason.word : PopReason → String
  | .collapse => "collapse"
  | .retry => "retry"
  | .endOfInput => "end"

inductive Event where
  | classify (token : Token) (label : LabelId)
  /-- The token became a leaf of the innermost nonterminal, which moved to `target`. -/
  | shift (token : Token) (target : StateId) (depth : Nat)
  /-- A nonterminal was opened; its parent continues at `next`. -/
  | push (nonterminal : NonterminalId) (next : StateId) (depth : Nat)
  | pop (nonterminal : NonterminalId) (reason : PopReason) (depth : Nat)
  | accept
  | error (cause : ParseError)
  deriving DecidableEq, Repr

end TransitionNetwork
