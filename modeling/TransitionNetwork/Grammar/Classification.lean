import TransitionNetwork.Grammar.Basic
import TransitionNetwork.Token.Basic

/-!
# Classification

Which label a token has. A `NAME` token whose text is a keyword has the keyword's label, wherever
the label for other names stands in the table. A token of another kind has the first label of its
kind; literals play no part.
-/

set_option autoImplicit false

namespace TransitionNetwork

namespace Grammar

/-- The label of a token, if the label table has one for it. -/
def classify (grammar : Grammar) (token : Token) : Option LabelId :=
  let position :=
    if token.kind = .name then
      (grammar.labels.findIdx? (· == .keyword token.text)).or
        (grammar.labels.findIdx? (· == .token .name))
    else
      grammar.labels.findIdx? fun label => label.kind == .token token.kind
  position.map Nat.toUInt16

end Grammar

end TransitionNetwork
