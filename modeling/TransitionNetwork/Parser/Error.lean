import TransitionNetwork.Nonterminal
import TransitionNetwork.Token.Basic

/-!
# Parse errors

Why a parser cannot be made, refuses a token or cannot finish, with the wording of each reason.
-/

set_option autoImplicit false

namespace TransitionNetwork

inductive Refusal where
  | unclassified
  /-- It has a label, but no open nonterminal takes it here. -/
  | rejected
  deriving DecidableEq, Repr

def Refusal.message : Refusal → String
  | .unclassified => "no label for this token"
  | .rejected => "not expected here"

inductive ParseError where
  | illegalToken (token : Token) (col : Nat) (reason : Refusal)
  /-- Every open nonterminal was closed while a token was pending. -/
  | stackUnderflow (token : Token) (col : Nat)
  /-- A transition leads to a nonterminal without automaton. -/
  | unknownNonterminal (id : NonterminalId)
  /-- One more open nonterminal would exceed the limit. -/
  | depthLimitExceeded (limit : Nat)
  /-- The input ended inside a nonterminal that cannot end there. -/
  | unexpectedEnd (inside : String)
  | alreadyComplete
  | poisoned
  | notAccelerated
  /-- The start symbol, by name or by number, has no automaton. -/
  | unknownStart (start : String)
  deriving DecidableEq, Repr

namespace ParseError

def message : ParseError → String
  | .illegalToken token col reason =>
      "illegal token " ++ token.describe ++ ", column " ++ toString col ++ ": " ++ reason.message
  | .stackUnderflow token col =>
      "internal error: frame stack exhausted with " ++ token.describe ++ ", column " ++
        toString col ++ " pending"
  | .unknownNonterminal id =>
      "internal error: nonterminal " ++ id.describe ++ " is not defined"
  | .depthLimitExceeded limit => "nesting depth limit of " ++ toString limit ++ " exceeded"
  | .unexpectedEnd inside => "unexpected end of input inside `" ++ inside ++ "`"
  | .alreadyComplete => "parse is already complete"
  | .poisoned => "parser was stopped by an earlier error"
  | .notAccelerated => "grammar is not accelerated"
  | .unknownStart start => "start symbol `" ++ start ++ "` is not defined"

/-- Whether the reason lies in the tables and not in the input. -/
def isInternal : ParseError → Bool
  | .stackUnderflow .. | .unknownNonterminal _ => true
  | _ => false

end ParseError

end TransitionNetwork
