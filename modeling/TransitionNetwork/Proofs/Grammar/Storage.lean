import TransitionNetwork.Grammar.Loading
import TransitionNetwork.Proofs.Binary.Spelling
import TransitionNetwork.Proofs.Grammar.Acceleration

/-!
# Storing networks

A network is stored as its grammar alone. Loading what was stored makes the tables anew, so it gives
what compiling the grammar gives, and a network with tables is loaded as it was. What is stored
delimits itself: nothing that follows it matters, and no part of it can be missing.
-/

set_option autoImplicit false

namespace TransitionNetwork

namespace Grammar

/-- Every list and every text has a length below 2⁶⁴, as all that fits into memory does. -/
structure Addressable (grammar : Grammar) : Prop where
  automata : grammar.automata.size < 2 ^ 64
  labels : grammar.labels.size < 2 ^ 64
  name : ∀ automaton ∈ grammar.automata, automaton.name.utf8ByteSize < 2 ^ 64
  states : ∀ automaton ∈ grammar.automata, automaton.states.size < 2 ^ 64
  arcs : ∀ automaton ∈ grammar.automata, ∀ state ∈ automaton.states, state.arcs.length < 2 ^ 64
  literal : ∀ label ∈ grammar.labels, ∀ text ∈ label.literal, text.utf8ByteSize < 2 ^ 64

end Grammar

namespace Binary

theorem spells_arc (arc : Arc) : Spells readArc (writeArc arc) arc :=
  (spells_word16 arc.label).bind ((spells_word16 arc.target).last rfl)

theorem spells_state {state : State} (few : state.arcs.length < 2 ^ 64) :
    Spells readState (writeState state) state :=
  (spells_list few fun arc _ => spells_arc arc).last rfl

theorem spells_automaton {automaton : Automaton} (short : automaton.name.utf8ByteSize < 2 ^ 64)
    (few : automaton.states.size < 2 ^ 64)
    (fewArcs : ∀ state ∈ automaton.states, state.arcs.length < 2 ^ 64) :
    Spells readAutomaton (writeAutomaton automaton) automaton := by
  have states : Spells (readArray readState) (writeList writeState automaton.states.toList)
      automaton.states := by
    refine spells_list (by simpa using few) ?_
    intro state among
    exact spells_state (fewArcs state (by simpa using among))
  unfold writeAutomaton
  simp only [List.append_assoc]
  refine (spells_word16 automaton.id.raw).bind ?_
  refine (spells_text short).bind ?_
  refine (spells_word16 automaton.initial).bind ?_
  exact states.last rfl

theorem spells_tokenKind (kind : TokenKind) :
    Spells readTokenKind (writeNumber kind.ordinal) kind := by
  have small : kind.ordinal < 2 ^ 32 := Nat.lt_trans kind.ordinal_lt (by decide)
  refine (spells_alternative small).last ?_
  rw [TokenKind.ofOrdinal?_ordinal]

theorem spells_labelKind (kind : LabelKind) :
    Spells readLabelKind (writeLabelKind kind) kind := by
  cases kind with
  | empty => exact (spells_alternative (by decide)).last rfl
  | token kind =>
      refine (spells_alternative (by decide)).bind ?_
      exact (spells_tokenKind kind).last rfl
  | nonterminal id =>
      refine (spells_alternative (by decide)).bind ?_
      exact (spells_word16 id.raw).last rfl

theorem spells_label {label : Label}
    (short : ∀ text ∈ label.literal, text.utf8ByteSize < 2 ^ 64) :
    Spells readLabel (writeLabel label) label := by
  refine (spells_labelKind label.kind).bind ?_
  exact (spells_option fun text given => spells_text (short text given)).last rfl

theorem spells_grammar {grammar : Grammar} (addressable : grammar.Addressable) :
    Spells readGrammar (writeGrammar grammar) grammar := by
  have automata : Spells (readArray readAutomaton)
      (writeList writeAutomaton grammar.automata.toList) grammar.automata := by
    refine spells_list (by simpa using addressable.automata) ?_
    intro automaton among
    have member : automaton ∈ grammar.automata := by simpa using among
    exact spells_automaton (addressable.name automaton member)
      (addressable.states automaton member) (addressable.arcs automaton member)
  have labels : Spells (readArray readLabel) (writeList writeLabel grammar.labels.toList)
      grammar.labels := by
    refine spells_list (by simpa using addressable.labels) ?_
    intro label among
    exact spells_label (addressable.literal label (by simpa using among))
  unfold writeGrammar
  rw [List.append_assoc]
  refine automata.bind (labels.bind ?_)
  exact (spells_word16 grammar.start.raw).last rfl

end Binary

namespace Grammar

theorem ofBinary_append {grammar : Grammar} (addressable : grammar.Addressable)
    (rest : List UInt8) : Grammar.ofBinary (grammar.toBinary ++ rest) = .ok grammar := by
  rw [Grammar.ofBinary, Grammar.toBinary, (Binary.spells_grammar addressable).taken rest]

theorem ofBinary_cut {grammar : Grammar} (addressable : grammar.Addressable) {front : List UInt8}
    (isFront : front <+: grammar.toBinary) (shorter : front ≠ grammar.toBinary) :
    Grammar.ofBinary front = .error .truncated := by
  rw [Grammar.ofBinary, (Binary.spells_grammar addressable).cut front isFront shorter]

/-- Compiling a grammar again gives the tables that it has. -/
theorem accelerate_grammar (full : AcceleratedGrammar) : full.grammar.accelerate = .ok full := by
  obtain ⟨grammar, tables, compiled⟩ := full
  unfold accelerate
  split
  · next again same =>
      obtain rfl := Except.ok.inj (same.symm.trans compiled)
      rfl
  · next failed => cases failed.symm.trans compiled

end Grammar

namespace Network

open Grammar

/-- The network without its tables. -/
def cleared (network : Network) : Network :=
  .plain network.grammar

/-- What compiling a network anew gives. -/
def recompiled (network : Network) : Except (Failure GrammarError) Network :=
  match network.cleared.accelerate with
  | (full, .ok ()) => .ok full
  | (_, .error failure) => .error failure

theorem ofGrammar_grammar (network : Network) :
    Network.ofGrammar network.grammar = network.recompiled := by
  unfold ofGrammar recompiled cleared accelerate
  dsimp only
  cases network.grammar.accelerate <;> rfl

theorem recompiled_of_isAccelerated {network : Network} (complete : network.isAccelerated = true) :
    network.recompiled = .ok network := by
  cases network with
  | plain grammar => cases complete
  | accelerated full =>
      rw [← ofGrammar_grammar, ofGrammar, grammar, Grammar.accelerate_grammar]
      rfl

/-! ## Main statement -/

/-- Stored networks are loaded again. Whatever follows the data of a network, loading it gives what
compiling the network anew gives, or fails as that fails; a network with tables is loaded with the
same tables. Data that is cut off before its end is found to be truncated. -/
theorem ofBinary_toBinary_append (network : Network)
    (addressable : network.grammar.Addressable) :
    (∀ rest, Network.ofBinary (network.grammar.toBinary ++ rest) =
      network.recompiled.mapError loadFailure) ∧
    (network.isAccelerated = true →
      ∀ rest, Network.ofBinary (network.grammar.toBinary ++ rest) = .ok network) ∧
    ∀ front, front <+: network.grammar.toBinary → front ≠ network.grammar.toBinary →
      Network.ofBinary front = .error (.error (.binary .truncated)) := by
  have loaded : ∀ rest, Network.ofBinary (network.grammar.toBinary ++ rest) =
      network.recompiled.mapError loadFailure := by
    intro rest
    rw [Network.ofBinary, Grammar.ofBinary_append addressable, ← ofGrammar_grammar]
  refine ⟨loaded, ?_, ?_⟩
  · intro complete rest
    rw [loaded, recompiled_of_isAccelerated complete]
    rfl
  · intro front isFront shorter
    rw [Network.ofBinary, Grammar.ofBinary_cut addressable isFront shorter]

/-- Nested lists are stored in 63 bytes, of which each is needed, and loaded with their tables.
Ambiguous phrases can be stored, but not loaded. -/
theorem ofBinary_toBinary_append_samples :
    nestedLists.Addressable ∧ ambiguousPhrases.Addressable ∧ nestedLists.toBinary.length = 63 ∧
    (∃ full : AcceleratedGrammar, full.grammar = nestedLists ∧
      Network.ofBinary (nestedLists.toBinary ++ [7]) = .ok (.accelerated full)) ∧
    Network.ofBinary (nestedLists.toBinary.take 62) = .error (.error (.binary .truncated)) ∧
    Network.ofBinary (ambiguousPhrases.toBinary ++ [7]) =
      .error (.error (.grammar (.ambiguous "phrase" 0 1))) := by
  have lists : nestedLists.Addressable := by constructor <;> decide
  have phrases : ambiguousPhrases.Addressable := by constructor <;> decide
  have length : nestedLists.toBinary.length = 63 := by cbv
  refine ⟨lists, phrases, length, ?_, ?_, ?_⟩
  · obtain ⟨tables, compiled⟩ : ∃ tables, nestedLists.compile = .ok tables := ⟨_, by cbv⟩
    let full : AcceleratedGrammar := ⟨nestedLists, tables, compiled⟩
    exact ⟨full, rfl, (ofBinary_toBinary_append (.accelerated full) lists).2.1 rfl [7]⟩
  · refine (ofBinary_toBinary_append (.plain nestedLists) lists).2.2 _ (List.take_prefix _ _) ?_
    intro same
    have sizes := congrArg List.length same
    rw [grammar, List.length_take, length] at sizes
    cases sizes
  · have failed : ambiguousPhrases.compile = .error (.error (.ambiguous "phrase" 0 1)) := by cbv
    rw [← Grammar.accelerate_eq_error_iff] at failed
    have loaded := (ofBinary_toBinary_append (.plain ambiguousPhrases) phrases).1 [7]
    rw [← ofGrammar_grammar, ofGrammar] at loaded
    exact loaded.trans (by rw [grammar, failed]; rfl)

end Network

end TransitionNetwork
