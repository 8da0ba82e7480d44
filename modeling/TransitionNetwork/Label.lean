import TransitionNetwork.Nonterminal
import TransitionNetwork.Text.Quoted
import TransitionNetwork.Token.Kind

/-!
# Labels

The alphabet of every automaton of a grammar. A label stands for the end of a nonterminal, for a
token of some kind, or for a whole nonterminal, and may be pinned to a literal text. Only the
literal of a `NAME` label takes part in classification; every other literal only informs.
-/

set_option autoImplicit false

namespace TransitionNetwork

abbrev LabelId := UInt16

inductive LabelKind where
  /-- Accept marker: an arc on it makes its source state accepting. -/
  | empty
  | token (kind : TokenKind)
  | nonterminal (id : NonterminalId)
  deriving DecidableEq, Repr

structure Label where
  kind : LabelKind
  literal : Option String
  deriving DecidableEq, Repr

namespace Label

def empty : Label := ⟨.empty, none⟩

def token (kind : TokenKind) : Label := ⟨.token kind, none⟩

def pinned (kind : TokenKind) (literal : String) : Label := ⟨.token kind, some literal⟩

def keyword (literal : String) : Label := pinned .name literal

def nonterminal (id : NonterminalId) : Label := ⟨.nonterminal id, none⟩

def tokenKind? (label : Label) : Option TokenKind :=
  match label.kind with
  | .token kind => some kind
  | .empty | .nonterminal _ => none

/-- Whether the label is a `NAME` label with a literal. -/
def isKeyword (label : Label) : Bool :=
  label.kind == .token .name && label.literal.isSome

/-- A label in an error message or a table of labels; nonterminals appear by number. -/
def describe (label : Label) : String :=
  match label.kind, label.literal with
  | .empty, _ => "EMPTY"
  | .token kind, none => kind.canonicalName
  | .token kind, some literal => kind.canonicalName ++ " " ++ Text.quote literal
  | .nonterminal id, _ => "<" ++ id.describe ++ ">"

theorem tokenKind?_eq_some_iff {label : Label} {kind : TokenKind} :
    label.tokenKind? = some kind ↔ label.kind = .token kind := by
  unfold tokenKind?
  split <;> simp_all

theorem isKeyword_iff {label : Label} :
    label.isKeyword = true ↔ ∃ literal, label = keyword literal := by
  obtain ⟨kind, literal⟩ := label
  cases literal <;> simp [isKeyword, keyword, pinned]

end Label

end TransitionNetwork
