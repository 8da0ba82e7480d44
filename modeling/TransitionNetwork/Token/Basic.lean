import TransitionNetwork.Text.Quoted
import TransitionNetwork.Token.Kind

/-!
# Tokens

A token as the tokenizer delivers it. The column is no part of a token; whoever feeds it passes the
column beside it.
-/

set_option autoImplicit false

namespace TransitionNetwork

/-- A lexical unit: its kind, its text and the line it stands on. -/
structure Token where
  kind : TokenKind
  text : String
  line : Nat
  deriving DecidableEq, Repr

namespace Token

/-- A token in a message: kind, quoted text and line. -/
def describe (token : Token) : String :=
  token.kind.canonicalName ++ " " ++ Text.quote token.text ++ " at line " ++ toString token.line

end Token

end TransitionNetwork
