import TransitionNetwork.Grammar.Binary
import TransitionNetwork.Grammar.Network
import TransitionNetwork.Grammar.StructureText
import TransitionNetwork.Grammar.TableText

/-!
# Loading

Networks from stored grammars. Table text and binary data give networks with tables; structure text
gives the grammar as it stands, valid or not.
-/

set_option autoImplicit false

namespace TransitionNetwork

inductive LoadError where
  | text (defect : Json.Defect)
  | binary (defect : Binary.Defect)
  | grammar (defect : GrammarError)
  deriving DecidableEq, Repr

namespace Network

/-- The failure of a grammar as a failure to load it. -/
def loadFailure : Failure GrammarError → Failure LoadError
  | .error defect => .error (.grammar defect)
  | .fault fault => .fault fault

def ofTableText (text : String) : Except (Failure LoadError) Network :=
  match TableText.parse text with
  | .error defect => .error (.error (.text defect))
  | .ok table =>
      match table.resolve with
      | .error defect => .error (.error (.grammar defect))
      | .ok grammar => (Network.ofGrammar grammar).mapError loadFailure

def ofBinary (bytes : List UInt8) : Except (Failure LoadError) Network :=
  match Grammar.ofBinary bytes with
  | .error defect => .error (.error (.binary defect))
  | .ok grammar => (Network.ofGrammar grammar).mapError loadFailure

/-- The network of a structure text, without tables. -/
def ofStructureText (text : String) : Except (Failure LoadError) Network :=
  match Grammar.ofStructureText text with
  | .error defect => .error (.error (.text defect))
  | .ok grammar => .ok (.plain grammar)

/-- The network written as binary data and loaded again. -/
def reload (network : Network) : Except (Failure LoadError) Network :=
  ofBinary network.grammar.toBinary

end Network

end TransitionNetwork
