import Mathlib
import TransitionNetwork.Proofs.Grammar.Transitions

/-!
# Accelerated grammars

What can be relied on once a grammar is accelerated: it is closed and without left recursion, its
starting labels are those a nonterminal can begin with, and its tables answer as the arcs say. The
main statements are that starting labels and left recursion are exact, and that tables agree with
arcs.
-/

set_option autoImplicit false

namespace TransitionNetwork

namespace Grammar

theorem searched_of_compile {grammar : Grammar} {tables : Tables}
    (compiled : grammar.compile = .ok tables) :
    grammar.defect? = none ∧ ∃ firsts, grammar.firstSets = .ok firsts := by
  unfold compile at compiled
  cases defect : grammar.defect? with
  | some cause =>
      rw [defect] at compiled
      cases compiled
  | none =>
      rw [defect] at compiled
      cases searched : grammar.firstSets with
      | ok firsts => exact ⟨rfl, firsts, rfl⟩
      | error failure =>
          rw [searched] at compiled
          cases compiled

end Grammar

namespace AcceleratedGrammar

open Grammar

variable (grammar : AcceleratedGrammar) {symbol : NonterminalId} {automaton : Automaton}

theorem closed : grammar.grammar.Closed :=
  closed_of_clean (searched_of_compile grammar.compiled).1

theorem not_leftRecursive (symbol : NonterminalId) : ¬ LeftRecursive grammar.grammar symbol :=
  (firstSets_isOk_iff grammar.closed).mp (searched_of_compile grammar.compiled).2 symbol

theorem exists_entry (found : grammar.grammar.automaton? symbol = some automaton) :
    ∃ entry, grammar.tables[symbol.index]? = some entry ∧
      Finished grammar.grammar symbol entry.first ∧
      ∀ (id : StateId) (state : State), automaton.states[id.toNat]? = some state →
        ∃ table, entry.states[id.toNat]? = some table ∧ Compiled grammar.grammar state table := by
  obtain ⟨clean, firsts, searched⟩ := searched_of_compile grammar.compiled
  exact (compile_ends clean searched).of_ok grammar.compiled symbol automaton found

theorem exists_first (found : grammar.grammar.automaton? symbol = some automaton) :
    ∃ first, grammar.first? symbol = some first ∧ Finished grammar.grammar symbol first := by
  obtain ⟨entry, entryFound, finished, _⟩ := grammar.exists_entry found
  exact ⟨entry.first, by simp [first?, entryFound], finished⟩

theorem exists_table (found : grammar.grammar.automaton? symbol = some automaton) {id : StateId}
    {state : State} (stateFound : automaton.states[id.toNat]? = some state) :
    ∃ table, grammar.table? symbol id.toNat = some table ∧
      Compiled grammar.grammar state table := by
  obtain ⟨entry, entryFound, _, compiled⟩ := grammar.exists_entry found
  obtain ⟨table, tableFound, holds⟩ := compiled id state stateFound
  exact ⟨table, by simp [table?, entryFound, tableFound], holds⟩

/-- The initial state has a transition exactly on the labels its nonterminal can begin with. -/
theorem initial_isSome_iff (found : grammar.grammar.automaton? symbol = some automaton)
    {state : State} {table : DenseTable} {id : LabelId}
    (initial : automaton.states[automaton.initial.toNat]? = some state)
    (compiled : Compiled grammar.grammar state table) :
    (table.lookup id).isSome = true ↔ CanBegin grammar.grammar symbol id := by
  rw [Option.isSome_iff_exists, canBegin_iff found initial]
  simp only [compiled.lookup_iff, Yields]
  constructor
  · rintro ⟨transition, arc, member, yields⟩
    refine ⟨arc, member, ?_⟩
    cases yields with
    | shift labelled isToken => exact .token labelled isToken
    | push labelled isNonterminal begins => exact .nonterminal labelled isNonterminal begins
  · rintro ⟨arc, member, begins⟩
    cases begins with
    | token labelled isToken => exact ⟨_, arc, member, .shift labelled isToken⟩
    | nonterminal labelled isNonterminal begins =>
        exact ⟨_, arc, member, .push labelled isNonterminal begins⟩

end AcceleratedGrammar

namespace Grammar

theorem grammar_of_accelerate {grammar : Grammar} {full : AcceleratedGrammar}
    (accelerated : grammar.accelerate = .ok full) : full.grammar = grammar := by
  unfold accelerate at accelerated
  split at accelerated
  · cases accelerated
    rfl
  · cases accelerated

theorem accelerate_eq_error_iff {grammar : Grammar} {failure : Failure GrammarError} :
    grammar.accelerate = .error failure ↔ grammar.compile = .error failure := by
  unfold accelerate
  split <;> simp_all

end Grammar

namespace Network

theorem accelerate_eq_ok {network result : Network}
    (accelerated : network.accelerate = (result, .ok ())) :
    ∃ full : AcceleratedGrammar, full.grammar = network.grammar ∧ result = .accelerated full := by
  cases network with
  | accelerated full =>
      simp only [accelerate, Prod.mk.injEq, and_true] at accelerated
      exact ⟨full, rfl, accelerated.symm⟩
  | plain grammar =>
      simp only [accelerate] at accelerated
      cases compiled : grammar.accelerate with
      | ok full =>
          simp only [compiled, Prod.mk.injEq, and_true] at accelerated
          exact ⟨full, Grammar.grammar_of_accelerate compiled, accelerated.symm⟩
      | error failure => simp [compiled] at accelerated

theorem accelerate_eq_error_iff {network : Network} {failure : Failure GrammarError} :
    network.accelerate.2 = .error failure ↔ network.grammar.compile = .error failure := by
  cases network with
  | accelerated full => simp [accelerate, grammar, full.compiled]
  | plain grammar =>
      rw [Network.grammar, ← Grammar.accelerate_eq_error_iff]
      simp only [accelerate]
      cases grammar.accelerate <;> simp

end Network

/-! ## Main statements -/

namespace Grammar

/-- Starting labels and left recursion are exact. The search of a valid grammar always ends: with an
error exactly if some nonterminal can come first in itself, naming such a nonterminal, and else with
the terminal labels on initial arcs of the nonterminals that can come first. Once accelerated, an
initial state has a transition exactly on the starting labels of its nonterminal. -/
theorem firstSets_exact (grammar : Grammar) (valid : grammar.validate = .ok ()) :
    ((∃ name, grammar.firstSets = .error (.error (.leftRecursion name))) ↔
      ∃ symbol, LeftRecursive grammar symbol) ∧
    (∀ failure, grammar.firstSets = .error failure →
      ∃ symbol automaton, grammar.automaton? symbol = some automaton ∧
        LeftRecursive grammar symbol ∧ failure = .error (.leftRecursion automaton.name)) ∧
    ((¬ ∃ symbol, LeftRecursive grammar symbol) →
      ∃ firsts, grammar.firstSets = .ok firsts ∧
        ∀ symbol automaton, grammar.automaton? symbol = some automaton →
          ∃ first, firsts[symbol.index]? = some first ∧
            ∀ id, first.contains id = true ↔
              ∃ inner, Relation.ReflTransGen (CanOpen grammar) symbol inner ∧
                Offers grammar inner id) ∧
    ∀ network result : Network, network.grammar = grammar →
      network.accelerate = (result, .ok ()) →
      ∀ symbol automaton, grammar.automaton? symbol = some automaton →
        ∀ id, ((result.table symbol automaton.initial.toNat).lookup id).isSome = true ↔
          (result.first symbol).contains id = true := by
  have closed := closed_of_clean (validate_eq_ok_iff.mp valid)
  have ends := firstSets_ends closed
  have found_iff := firstSets_isOk_iff closed
  refine ⟨⟨?_, ?_⟩, ?_, ?_, ?_⟩
  · intro ⟨name, failed⟩
    obtain ⟨symbol, _, _, cycle, _⟩ := ends.of_error failed
    exact ⟨symbol, cycle⟩
  · intro ⟨symbol, cycle⟩
    cases searched : grammar.firstSets with
    | ok firsts => exact absurd cycle (found_iff.mp ⟨firsts, searched⟩ symbol)
    | error failure =>
        obtain ⟨_, automaton, _, _, rfl⟩ := ends.of_error searched
        exact ⟨automaton.name, rfl⟩
  · intro failure failed
    exact ends.of_error failed
  · intro acyclic
    obtain ⟨firsts, searched⟩ := found_iff.mpr fun symbol cycle => acyclic ⟨symbol, cycle⟩
    refine ⟨firsts, searched, ?_⟩
    intro symbol automaton found
    obtain ⟨first, firstFound, finished⟩ := (firstsHold closed searched).exists found
    exact ⟨first, firstFound, fun id => finished.contains_iff⟩
  · rintro network result rfl accelerated symbol automaton found id
    obtain ⟨full, same, rfl⟩ := Network.accelerate_eq_ok accelerated
    rw [← same] at found
    obtain ⟨first, firstFound, finished⟩ := full.exists_first found
    obtain ⟨state, initial⟩ := full.closed.initial found
    obtain ⟨table, tableFound, compiled⟩ := full.exists_table found initial
    simp only [Network.table, Network.first, tableFound, firstFound, Option.getD_some]
    rw [full.initial_isSome_iff found initial compiled, finished.contains_iff]

/-- Lists of items, where an item is a name or a list in parentheses. -/
def nestedLists : Grammar where
  automata := #[
    { id := ⟨256⟩, name := "list", initial := 0, states := #[⟨[⟨3, 1⟩]⟩, ⟨[⟨3, 1⟩, ⟨0, 1⟩]⟩] },
    { id := ⟨257⟩, name := "item", initial := 0,
      states := #[⟨[⟨1, 3⟩, ⟨2, 1⟩]⟩, ⟨[⟨4, 2⟩]⟩, ⟨[⟨5, 3⟩]⟩, ⟨[⟨0, 3⟩]⟩] }]
  labels := #[.empty, .token .name, .token .leftParen, .nonterminal ⟨257⟩, .nonterminal ⟨256⟩,
    .token .rightParen]
  start := ⟨256⟩

/-- A list can begin with the parenthesis that its first item can begin with. -/
theorem firstSets_exact_nestedLists :
    nestedLists.validate = .ok () ∧ (¬ ∃ symbol, LeftRecursive nestedLists symbol) ∧
      ∃ firsts first, nestedLists.firstSets = .ok firsts ∧ firsts[0]? = some first ∧
        first.contains 2 = true := by
  have valid : nestedLists.validate = .ok () := by cbv
  obtain ⟨cycle_iff, _, exact, _⟩ := firstSets_exact nestedLists valid
  have acyclic : ¬ ∃ symbol, LeftRecursive nestedLists symbol := by
    rw [← cycle_iff]
    rintro ⟨name, failed⟩
    have searched : (nestedLists.firstSets.toOption).isSome = true := by cbv
    rw [failed] at searched
    cases searched
  obtain ⟨firsts, searched, contents⟩ := exact acyclic
  obtain ⟨first, found, contains_iff⟩ := contents ⟨256⟩ _ rfl
  refine ⟨valid, acyclic, firsts, first, searched, found, (contains_iff 2).mpr ⟨⟨257⟩, ?_, ?_⟩⟩
  · exact .single ⟨⟨3, 1⟩, _, .intro rfl rfl (.head _) rfl, rfl⟩
  · exact ⟨⟨2, 1⟩, _, .leftParen, .intro rfl rfl (.tail _ (.head _)) rfl, rfl, rfl⟩

/-- Tables agree with arcs. In an accelerated grammar every state answers a label with a shift
exactly if it has an arc on that terminal label, and with a push exactly if it has an arc on a
nonterminal whose starting labels contain it; it accepts exactly if it has an arc on the accept
marker; its bounds and its listing are those of its answers. Acceleration of a valid grammar without
left recursion reports an ambiguity exactly if some state has two different transitions on one
label. -/
theorem tables_agree_with_arcs :
    (∀ (grammar : AcceleratedGrammar) (symbol : NonterminalId) (automaton : Automaton)
      (id : StateId) (state : State), grammar.grammar.automaton? symbol = some automaton →
      automaton.states[id.toNat]? = some state →
      ∃ table, grammar.table? symbol id.toNat = some table ∧
        (∀ label target, table.lookup label = some (.shift target) ↔
          ∃ arc ∈ state.arcs, arc.label = label ∧ arc.target = target ∧
            ∃ entry kind, grammar.grammar.label? label = some entry ∧ entry.kind = .token kind) ∧
        (∀ label inner next, table.lookup label = some (.push inner next) ↔
          ∃ arc ∈ state.arcs, arc.target = next ∧
            ∃ entry first, grammar.grammar.label? arc.label = some entry ∧
              entry.kind = .nonterminal inner ∧ grammar.first? inner = some first ∧
              first.contains label = true) ∧
        (table.accept = true ↔ ∃ arc ∈ state.arcs, ∃ entry,
          grammar.grammar.label? arc.label = some entry ∧ entry.kind = .empty) ∧
        (∀ label, (table.lookup label).isSome = true →
          table.lower ≤ label.toNat ∧ label.toNat < table.upper) ∧
        ((∃ first last, (table.lookup first).isSome = true ∧ (table.lookup last).isSome = true ∧
            table.lower = first.toNat ∧ table.upper = last.toNat + 1) ∨
          (∀ label, table.lookup label = none) ∧ table.lower = 0 ∧ table.upper = 0) ∧
        (∀ label transition, (label, transition) ∈ table.transitions ↔
          table.lookup label = some transition) ∧
        table.transitions.Pairwise fun earlier later => earlier.1 < later.1) ∧
    ∀ network : Network, network.grammar.validate = .ok () →
      (∀ symbol, ¬ LeftRecursive network.grammar symbol) →
      ((∃ name id label, network.accelerate.2 = .error (.error (.ambiguous name id label))) ↔
        ∃ (symbol : NonterminalId) (automaton : Automaton) (id : StateId) (state : State)
          (label : LabelId), network.grammar.automaton? symbol = some automaton ∧
            automaton.states[id.toNat]? = some state ∧ Ambiguous network.grammar state label) := by
  refine ⟨?_, ?_⟩
  · intro grammar symbol automaton id state found stateFound
    obtain ⟨table, tableFound, compiled⟩ := grammar.exists_table found stateFound
    refine ⟨table, tableFound, ?_, ?_, compiled.accept_iff, ?_, compiled.tight.bounds, ?_,
      compiled.tight.pairwise_transitions⟩
    · intro label target
      rw [compiled.lookup_iff, yields_shift_iff]
    · intro label inner next
      rw [compiled.lookup_iff, yields_push_iff]
      constructor
      · intro ⟨arc, member, toNext, entry, labelled, isNonterminal, begins⟩
        obtain ⟨_, innerFound⟩ := grammar.closed.nonterminal labelled isNonterminal
        obtain ⟨first, firstFound, finished⟩ := grammar.exists_first innerFound
        exact ⟨arc, member, toNext, entry, first, labelled, isNonterminal, firstFound,
          finished.contains_iff.mpr begins⟩
      · intro ⟨arc, member, toNext, entry, first, labelled, isNonterminal, firstFound, contains⟩
        obtain ⟨_, innerFound⟩ := grammar.closed.nonterminal labelled isNonterminal
        obtain ⟨same, sameFound, finished⟩ := grammar.exists_first innerFound
        obtain rfl := Option.some.inj (firstFound.symm.trans sameFound)
        exact ⟨arc, member, toNext, entry, labelled, isNonterminal,
          finished.contains_iff.mp contains⟩
    · intro label populated
      obtain ⟨transition, answer⟩ := Option.isSome_iff_exists.mp populated
      exact DenseTable.lt_upper_of_lookup answer
    · intro label transition
      exact compiled.tight.mem_transitions_iff
  · intro network valid acyclic
    have clean := validate_eq_ok_iff.mp valid
    obtain ⟨firsts, searched⟩ := (firstSets_isOk_iff (closed_of_clean clean)).mpr acyclic
    have ends := compile_ends clean searched
    simp only [Network.accelerate_eq_error_iff]
    constructor
    · intro ⟨name, id, label, failed⟩
      obtain ⟨symbol, automaton, position, state, _, found, stateFound, _, ambiguous⟩ :=
        ends.of_error failed
      exact ⟨symbol, automaton, position, state, _, found, stateFound, ambiguous⟩
    · intro ⟨symbol, automaton, id, state, label, found, stateFound, ambiguous⟩
      cases compiled : network.grammar.compile with
      | ok tables =>
          obtain ⟨_, _, _, tablesHold⟩ := ends.of_ok compiled symbol automaton found
          obtain ⟨_, _, holds⟩ := tablesHold id state stateFound
          exact absurd ambiguous (holds.not_ambiguous label)
      | error failure =>
          obtain ⟨_, blamed, position, _, on, _, _, rfl, _⟩ := ends.of_error compiled
          exact ⟨blamed.name, position, on, rfl⟩

/-- A phrase is a name, or a word; but a word is a name as well. -/
def ambiguousPhrases : Grammar where
  automata := #[
    { id := ⟨256⟩, name := "phrase", initial := 0, states := #[⟨[⟨1, 1⟩, ⟨2, 1⟩]⟩, ⟨[⟨0, 1⟩]⟩] },
    { id := ⟨257⟩, name := "word", initial := 0, states := #[⟨[⟨1, 1⟩]⟩, ⟨[⟨0, 1⟩]⟩] }]
  labels := #[.empty, .token .name, .nonterminal ⟨257⟩]
  start := ⟨256⟩

/-- After an item, a list may end and goes on with an item that a parenthesis opens; a phrase that
begins with a name can go on in two ways. -/
theorem tables_agree_with_arcs_samples :
    (∃ (grammar : AcceleratedGrammar) (table : DenseTable), grammar.grammar = nestedLists ∧
      grammar.table? ⟨256⟩ 1 = some table ∧ table.accept = true ∧
      table.lookup 2 = some (.push ⟨257⟩ 1)) ∧
    ambiguousPhrases.validate = .ok () ∧
    (∀ symbol, ¬ LeftRecursive ambiguousPhrases symbol) ∧
    ∃ name id label, (Network.plain ambiguousPhrases).accelerate.2 =
      .error (.error (.ambiguous name id label)) := by
  refine ⟨?_, ?_⟩
  · obtain ⟨tables, compiled⟩ : ∃ tables, nestedLists.compile = .ok tables := ⟨_, by cbv⟩
    let grammar : AcceleratedGrammar := ⟨nestedLists, tables, compiled⟩
    obtain ⟨table, found, _, push_iff, accept_iff, _⟩ :=
      tables_agree_with_arcs.1 grammar ⟨256⟩ _ 1 _ rfl rfl
    have item : nestedLists.automaton? ⟨257⟩ = some _ := rfl
    obtain ⟨first, firstFound, finished⟩ := grammar.exists_first item
    have begins : CanBegin nestedLists ⟨257⟩ 2 :=
      ⟨_, .refl, ⟨2, 1⟩, _, .leftParen, .intro rfl rfl (.tail _ (.head _)) rfl, rfl, rfl⟩
    refine ⟨grammar, table, rfl, found, ?_, ?_⟩
    · exact accept_iff.mpr ⟨⟨0, 1⟩, .tail _ (.head _), _, rfl, rfl⟩
    · exact (push_iff 2 ⟨257⟩ 1).mpr
        ⟨⟨3, 1⟩, .head _, rfl, _, first, rfl, rfl, firstFound, finished.contains_iff.mpr begins⟩
  · have valid : ambiguousPhrases.validate = .ok () := by cbv
    have closed := closed_of_clean (validate_eq_ok_iff.mp valid)
    have acyclic := (firstSets_isOk_iff closed).mp ⟨_, by cbv⟩
    have begins : CanBegin ambiguousPhrases ⟨257⟩ 1 :=
      ⟨_, .refl, ⟨1, 1⟩, _, .name, .intro rfl rfl (.head _) rfl, rfl, rfl⟩
    refine ⟨valid, acyclic, (tables_agree_with_arcs.2 (.plain ambiguousPhrases) valid acyclic).mpr ?_⟩
    refine ⟨⟨256⟩, _, 0, _, 1, rfl, rfl, .shift 1, .push ⟨257⟩ 1, ?_, ?_, by simp⟩
    · exact ⟨⟨1, 1⟩, .head _, .shift rfl rfl⟩
    · exact ⟨⟨2, 1⟩, .tail _ (.head _), .push rfl rfl begins⟩

end Grammar

end TransitionNetwork
