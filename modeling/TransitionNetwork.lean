import TransitionNetwork.Grammar.Builder
import TransitionNetwork.Grammar.Derivation
import TransitionNetwork.Grammar.Listing
import TransitionNetwork.Grammar.Loading
import TransitionNetwork.Parser.Log
import TransitionNetwork.Parser.Whole
import TransitionNetwork.Proofs.Fallible
import TransitionNetwork.Proofs.Grammar.Validity
import TransitionNetwork.Proofs.Grammar.Closed
import TransitionNetwork.Proofs.Grammar.StartingLabels
import TransitionNetwork.Proofs.Automaton.DenseTable
import TransitionNetwork.Proofs.Grammar.Transitions
import TransitionNetwork.Proofs.LabelSets
import TransitionNetwork.Proofs.Grammar.Acceleration
import TransitionNetwork.Proofs.Parser.Spine
import TransitionNetwork.Proofs.Parser.Moves
import TransitionNetwork.Proofs.Parser.Runs
import TransitionNetwork.Proofs.Parser.Soundness
import TransitionNetwork.Proofs.Grammar.LeadingTokens
import TransitionNetwork.Proofs.Grammar.Greedy
import TransitionNetwork.Proofs.Parser.Exactness
import TransitionNetwork.Proofs.Parser.OpenPath
import TransitionNetwork.Proofs.Parser.Safety
import TransitionNetwork.Proofs.Parser.Positions
import TransitionNetwork.Proofs.Parser.Subparses
import TransitionNetwork.Proofs.Parser.Laziness
import TransitionNetwork.Proofs.Binary.Spelling
import TransitionNetwork.Proofs.Grammar.Storage
import TransitionNetwork.Proofs.Parser.Replay
import TransitionNetwork.Proofs.Parser.DepthLimit
import TransitionNetwork.Proofs.Parser.Growth
import TransitionNetwork.Proofs.Parser.LifeCycle
import TransitionNetwork.Proofs.Tree.Ownership
import TransitionNetwork.Proofs.Json.Document
import TransitionNetwork.Proofs.Json.Reading
import TransitionNetwork.Proofs.Grammar.StructureText
import TransitionNetwork.Proofs.Grammar.Naming
import TransitionNetwork.Proofs.Parser.Phases
import TransitionNetwork.Proofs.Parser.Verdicts
import TransitionNetwork.Proofs.Grammar.Compilation
import TransitionNetwork.Proofs.Grammar.Handles
import TransitionNetwork.Proofs.Parser.WholeInputs
import TransitionNetwork.Proofs.Parser.FinalEvents
import TransitionNetwork.Proofs.Grammar.Blame
import TransitionNetwork.Proofs.Grammar.Classification
import TransitionNetwork.Proofs.Tree.Traversal
import TransitionNetwork.Proofs.Text.Quoted
import TransitionNetwork.Proofs.Tree.Rendering
