import TransitionNetwork.Grammar.Network
import TransitionNetwork.Proofs.Automaton.DenseTable
import TransitionNetwork.Proofs.Grammar.StartingLabels

/-!
# Compiled transitions

Which transitions the arcs of a state stand for, said over the label table and the labels that
nonterminals can begin with. The compiled table of a state answers every label with exactly these
transitions, and compilation of a grammar without left recursion fails exactly if some state has two
different transitions on one label.
-/

set_option autoImplicit false

namespace TransitionNetwork

namespace Grammar

/-- The transitions that an arc stands for: a shift on its own terminal label, or a push on every
label that its nonterminal can begin with. -/
inductive ArcYields (grammar : Grammar) (arc : Arc) : LabelId → Transition → Prop where
  | shift {label : Label} {kind : TokenKind} : grammar.label? arc.label = some label →
      label.kind = .token kind → ArcYields grammar arc arc.label (.shift arc.target)
  | push {label : Label} {symbol : NonterminalId} {id : LabelId} :
      grammar.label? arc.label = some label → label.kind = .nonterminal symbol →
      CanBegin grammar symbol id → ArcYields grammar arc id (.push symbol arc.target)

/-- The transitions that a state stands for. -/
def Yields (grammar : Grammar) (state : State) (id : LabelId) (transition : Transition) : Prop :=
  ∃ arc ∈ state.arcs, ArcYields grammar arc id transition

/-- A state with two different transitions on one label. -/
def Ambiguous (grammar : Grammar) (state : State) (id : LabelId) : Prop :=
  ∃ first second, Yields grammar state id first ∧ Yields grammar state id second ∧ first ≠ second

theorem yields_shift_iff {grammar : Grammar} {state : State} {id : LabelId} {target : StateId} :
    Yields grammar state id (.shift target) ↔
      ∃ arc ∈ state.arcs, arc.label = id ∧ arc.target = target ∧
        ∃ label kind, grammar.label? id = some label ∧ label.kind = .token kind := by
  constructor
  · intro ⟨arc, member, yields⟩
    cases yields with
    | shift labelled isToken => exact ⟨arc, member, rfl, rfl, _, _, labelled, isToken⟩
  · intro ⟨arc, member, onLabel, toTarget, label, kind, labelled, isToken⟩
    subst onLabel toTarget
    exact ⟨arc, member, .shift labelled isToken⟩

theorem yields_push_iff {grammar : Grammar} {state : State} {id : LabelId}
    {symbol : NonterminalId} {next : StateId} :
    Yields grammar state id (.push symbol next) ↔
      ∃ arc ∈ state.arcs, arc.target = next ∧
        ∃ label, grammar.label? arc.label = some label ∧ label.kind = .nonterminal symbol ∧
          CanBegin grammar symbol id := by
  constructor
  · intro ⟨arc, member, yields⟩
    cases yields with
    | push labelled isNonterminal begins =>
        exact ⟨arc, member, rfl, _, labelled, isNonterminal, begins⟩
  · intro ⟨arc, member, toNext, label, labelled, isNonterminal, begins⟩
    subst toNext
    exact ⟨arc, member, .push labelled isNonterminal begins⟩

theorem Offers.lt {grammar : Grammar} {symbol : NonterminalId} {id : LabelId}
    (offers : Offers grammar symbol id) : id.toNat < grammar.labels.size := by
  obtain ⟨arc, label, _, ⟨_, _, _, labelled⟩, rfl, _⟩ := offers
  exact (Array.getElem?_eq_some_iff.mp labelled).1

theorem CanBegin.lt {grammar : Grammar} {symbol : NonterminalId} {id : LabelId}
    (begins : CanBegin grammar symbol id) : id.toNat < grammar.labels.size := by
  obtain ⟨_, _, offers⟩ := begins
  exact offers.lt

theorem ArcYields.lt {grammar : Grammar} {arc : Arc} {id : LabelId} {transition : Transition}
    (yields : ArcYields grammar arc id transition) : id.toNat < grammar.labels.size := by
  cases yields with
  | shift labelled _ => exact (Array.getElem?_eq_some_iff.mp labelled).1
  | push _ _ begins => exact begins.lt

/-- The starting labels that compilation works with. -/
structure FirstsHold (grammar : Grammar) (firsts : Array FirstSet) : Prop where
  size : firsts.size = grammar.automata.size
  finished : ∀ {symbol : NonterminalId} {first : FirstSet}, firsts[symbol.index]? = some first →
    Finished grammar symbol first

theorem firstsHold {grammar : Grammar} (closed : grammar.Closed) {firsts : Array FirstSet}
    (found : grammar.firstSets = .ok firsts) : FirstsHold grammar firsts := by
  obtain ⟨size, finished⟩ := (firstSets_ends closed).of_ok found
  refine ⟨size, ?_⟩
  intro symbol first foundAt
  simpa [NonterminalId.ofIndex_index] using finished symbol.index first foundAt

theorem FirstsHold.exists {grammar : Grammar} {firsts : Array FirstSet}
    (holds : FirstsHold grammar firsts) {symbol : NonterminalId} {automaton : Automaton}
    (found : grammar.automaton? symbol = some automaton) :
    ∃ first, firsts[symbol.index]? = some first ∧ Finished grammar symbol first := by
  have inside : symbol.index < firsts.size := holds.size ▸ index_lt_of_automaton? found
  exact ⟨_, Array.getElem?_eq_getElem inside, holds.finished (Array.getElem?_eq_getElem inside)⟩

/-! ## The table of a state -/

theorem arcYields_iff {grammar : Grammar} {arc : Arc} {label : Label} {id : LabelId}
    {transition : Transition} (labelled : grammar.label? arc.label = some label) :
    ArcYields grammar arc id transition ↔
      (∃ kind, label.kind = .token kind ∧ id = arc.label ∧ transition = .shift arc.target) ∨
      ∃ symbol, label.kind = .nonterminal symbol ∧ CanBegin grammar symbol id ∧
        transition = .push symbol arc.target := by
  constructor
  · rintro (⟨again, isToken⟩ | ⟨again, isNonterminal, begins⟩) <;>
      obtain rfl := Option.some.inj (again.symm.trans labelled)
    · exact .inl ⟨_, isToken, rfl, rfl⟩
    · exact .inr ⟨_, isNonterminal, begins, rfl⟩
  · rintro (⟨_, isToken, rfl, rfl⟩ | ⟨_, isNonterminal, begins, rfl⟩)
    · exact .shift labelled isToken
    · exact .push labelled isNonterminal begins

theorem arcTransitions_eq {grammar : Grammar} (closed : grammar.Closed) {firsts : Array FirstSet}
    (holds : FirstsHold grammar firsts) {arc : Arc} {label : Label}
    (labelled : grammar.label? arc.label = some label) :
    ∃ candidates, grammar.arcTransitions firsts arc = .ok candidates ∧
      ∀ id transition, (id, transition) ∈ candidates ↔ ArcYields grammar arc id transition := by
  have lookedUp : entry grammar.labels arc.label.toNat = .ok label := entry_eq_ok_iff.mpr labelled
  rw [arcTransitions, lookedUp, ok_bind]
  cases kind : label.kind with
  | empty => exact ⟨[], rfl, by simp [arcYields_iff labelled, kind]⟩
  | token tokenKind =>
      exact ⟨[(arc.label, .shift arc.target)], rfl, by simp [arcYields_iff labelled, kind]⟩
  | nonterminal symbol =>
      obtain ⟨automaton, found⟩ := closed.nonterminal labelled kind
      obtain ⟨first, foundAt, finished⟩ := holds.exists found
      have small : ∀ position, first.has position = true → position < 65536 := by
        intro position has
        obtain ⟨id, rfl, _⟩ := (finished.has_iff position).mp has
        exact id.toNat_lt
      refine ⟨first.toList.map fun id => (id, .push symbol arc.target), ?_, ?_⟩
      · dsimp only
        rw [entry_eq_ok_iff.mpr foundAt, ok_bind]
        rfl
      · intro id transition
        simp only [List.mem_map, Prod.mk.injEq, FirstSet.mem_toList_iff small,
          finished.contains_iff, arcYields_iff labelled, kind]
        constructor
        · rintro ⟨_, begins, rfl, rfl⟩
          exact .inr ⟨symbol, rfl, begins, rfl⟩
        · rintro (⟨_, clash, _⟩ | ⟨_, same, begins, rfl⟩)
          · cases clash
          · cases same
            exact ⟨id, begins, rfl, rfl⟩

/-- A table over all labels that holds a given relation. -/
structure Filled (grammar : Grammar) (relation : LabelId → Transition → Prop)
    (entries : Array (Option Transition)) : Prop where
  size : entries.size = grammar.labels.size
  iff : ∀ id transition, entries[id.toNat]? = some (some transition) ↔ relation id transition

theorem place_ends {grammar : Grammar} {relation : LabelId → Transition → Prop}
    {entries : Array (Option Transition)} (filled : Filled grammar relation entries)
    (conflict : LabelId → GrammarError) {id : LabelId} {transition : Transition}
    (small : id.toNat < grammar.labels.size) :
    Ends (place conflict entries (id, transition))
      (Filled grammar fun other found => relation other found ∨ (other, found) = (id, transition))
      (fun failure => failure = .error (conflict id) ∧
        ∃ existing, relation id existing ∧ existing ≠ transition) := by
  have inside : id.toNat < entries.size := by rwa [filled.size]
  unfold place
  dsimp only
  cases found : entries[id.toNat]? with
  | none => exact absurd inside (Nat.not_lt.mpr (Array.getElem?_eq_none_iff.mp found))
  | some entry =>
      cases entry with
      | none =>
          refine ⟨by simpa using filled.size, ?_⟩
          intro other candidate
          rw [Array.getElem?_setIfInBounds]
          by_cases same : other = id
          · subst same
            have absent : ¬ relation other candidate := by
              intro present
              simp [(filled.iff other candidate).mpr present] at found
            simp [inside, absent, eq_comm]
          · have different : ¬ id.toNat = other.toNat := fun equal =>
              same (UInt16.toNat_inj.mp equal.symm)
            simp [different, same, filled.iff]
      | some existing =>
          have present := (filled.iff id existing).mp found
          dsimp only
          split_ifs with equal
          · subst equal
            refine ⟨filled.size, ?_⟩
            intro other candidate
            rw [filled.iff]
            refine ⟨.inl, ?_⟩
            rintro (held | same)
            · exact held
            · cases same
              exact present
          · exact ⟨rfl, existing, present, equal⟩

theorem Filled.congr {grammar : Grammar} {relation same : LabelId → Transition → Prop}
    {entries : Array (Option Transition)} (filled : Filled grammar relation entries)
    (equal : ∀ id transition, relation id transition ↔ same id transition) :
    Filled grammar same entries :=
  ⟨filled.size, fun id transition => (filled.iff id transition).trans (equal id transition)⟩

theorem placeAll_ends {grammar : Grammar} {relation : LabelId → Transition → Prop}
    {entries : Array (Option Transition)} (filled : Filled grammar relation entries)
    (conflict : LabelId → GrammarError) {candidates : List (LabelId × Transition)}
    (small : ∀ candidate ∈ candidates, candidate.1.toNat < grammar.labels.size) :
    Ends (candidates.foldlM (place conflict) entries)
      (Filled grammar fun id transition => relation id transition ∨ (id, transition) ∈ candidates)
      (fun failure => ∃ id first second, failure = .error (conflict id) ∧
        (relation id first ∨ (id, first) ∈ candidates) ∧
        (relation id second ∨ (id, second) ∈ candidates) ∧ first ≠ second) := by
  refine Ends.foldlM
    (fun passed => Filled grammar fun id transition =>
      relation id transition ∨ (id, transition) ∈ passed)
    (filled.congr (by simp)) ?_
  intro passed ⟨id, transition⟩ remaining state split held
  have member : (id, transition) ∈ candidates := by simp [split]
  refine (place_ends held conflict (small _ member)).imp ?_ ?_
  · intro result entered
    exact entered.congr (by simp [or_assoc])
  · rintro failure ⟨rfl, existing, present, different⟩
    refine ⟨id, existing, transition, rfl, ?_, .inr member, different⟩
    exact present.imp_right fun earlier => by simp [split, earlier]

/-- What a state may do, read off its table: it accepts if it has an arc on the accept marker, and
it answers every label with the transitions of its arcs. -/
structure Compiled (grammar : Grammar) (state : State) (table : DenseTable) : Prop where
  tight : table.Tight
  accept_iff : table.accept = true ↔
    ∃ arc ∈ state.arcs, ∃ label, grammar.label? arc.label = some label ∧ label.kind = .empty
  lookup_iff : ∀ {id : LabelId} {transition : Transition},
    table.lookup id = some transition ↔ Yields grammar state id transition

theorem acceptsOn_iff {grammar : Grammar} {arc : Arc} :
    grammar.acceptsOn arc = true ↔
      ∃ label, grammar.label? arc.label = some label ∧ label.kind = .empty := by
  unfold acceptsOn
  cases grammar.label? arc.label with
  | none => simp
  | some label => simp

theorem Filled.compiled {grammar : Grammar} (closed : grammar.Closed) {state : State}
    {entries : Array (Option Transition)} (filled : Filled grammar (Yields grammar state) entries) :
    Compiled grammar state (DenseTable.trim (state.arcs.any grammar.acceptsOn) entries) where
  tight := by
    refine DenseTable.tight_trim _ ?_
    have labels_le := closed.labels_le
    rw [filled.size]
    unfold maxLabels at labels_le
    omega
  accept_iff := by simp only [DenseTable.accept_trim, List.any_eq_true, acceptsOn_iff]
  lookup_iff := by
    intro id transition
    rw [DenseTable.lookup_trim, Option.join_eq_some_iff, filled.iff]

theorem Compiled.not_ambiguous {grammar : Grammar} {state : State} {table : DenseTable}
    (compiled : Compiled grammar state table) (id : LabelId) : ¬ Ambiguous grammar state id := by
  intro ⟨first, second, left, right, different⟩
  have same := (compiled.lookup_iff.mpr left).symm.trans (compiled.lookup_iff.mpr right)
  exact different (Option.some.inj same)

theorem denseTable_ends {grammar : Grammar} (closed : grammar.Closed) {firsts : Array FirstSet}
    (holds : FirstsHold grammar firsts) {symbol : NonterminalId} {automaton : Automaton}
    (found : grammar.automaton? symbol = some automaton) {id : StateId} {state : State}
    (stateFound : automaton.states[id.toNat]? = some state) :
    Ends (grammar.denseTable firsts automaton id)
      (Compiled grammar state)
      (fun failure => ∃ label, failure = .error (.ambiguous automaton.name id label) ∧
        Ambiguous grammar state label) := by
  rw [denseTable, liftM_entry stateFound, ok_bind]
  refine Ends.bind (Ends.foldlM (fun seen => Filled grammar (Yields grammar ⟨seen⟩)) ?_ ?_) ?_
  · refine ⟨by simp, ?_⟩
    simp [Yields, Array.getElem?_replicate]
  · intro seen arc remaining entries split filled
    have member : arc ∈ state.arcs := by simp [split]
    obtain ⟨label, labelled⟩ := closed.label found stateFound member
    obtain ⟨candidates, listed, exact⟩ := arcTransitions_eq closed holds labelled
    have lifted : (liftM (grammar.arcTransitions firsts arc) :
        Except (Failure GrammarError) (List (LabelId × Transition))) = .ok candidates := by
      rw [listed]
      rfl
    have yields_iff : ∀ id transition,
        (Yields grammar ⟨seen⟩ id transition ∨ (id, transition) ∈ candidates) ↔
          Yields grammar ⟨seen ++ [arc]⟩ id transition := by
      intro id transition
      simp [Yields, exact, or_and_right, exists_or]
    have included : ∀ id transition, Yields grammar ⟨seen ++ [arc]⟩ id transition →
        Yields grammar state id transition := by
      intro id transition ⟨other, among, yields⟩
      refine ⟨other, ?_, yields⟩
      rw [split]
      rcases List.mem_append.mp among with before | last
      · exact List.mem_append_left _ before
      · exact List.mem_append_right _ (List.mem_cons.mpr (.inl (List.mem_singleton.mp last)))
    rw [lifted, ok_bind]
    refine (placeAll_ends filled _ ?_).imp ?_ ?_
    · intro candidate among
      exact ((exact candidate.1 candidate.2).mp among).lt
    · intro result entered
      exact entered.congr yields_iff
    · rintro failure ⟨label, first, second, rfl, left, right, different⟩
      exact ⟨label, rfl, first, second, included _ _ ((yields_iff _ _).mp left),
        included _ _ ((yields_iff _ _).mp right), different⟩
  · intro entries filled
    exact Ends.pure_iff.mpr (filled.compiled closed)

/-- Every state of an automaton gets its table, unless one of them is ambiguous. A position past the
last state number repeats the table of an earlier state. -/
theorem denseTables_ends {grammar : Grammar} (closed : grammar.Closed) {firsts : Array FirstSet}
    (holds : FirstsHold grammar firsts) {symbol : NonterminalId} {automaton : Automaton}
    (found : grammar.automaton? symbol = some automaton) :
    Ends (grammar.denseTables firsts automaton)
      (fun tables => ∀ (id : StateId) (state : State),
        automaton.states[id.toNat]? = some state →
          ∃ table, tables[id.toNat]? = some table ∧ Compiled grammar state table)
      (fun failure => ∃ (id : StateId) (state : State) (label : LabelId),
        automaton.states[id.toNat]? = some state ∧
          failure = .error (.ambiguous automaton.name id label) ∧
          Ambiguous grammar state label) := by
  have numbered : ∀ {position : Nat}, position < automaton.states.size →
      ∃ state, automaton.states[position.toUInt16.toNat]? = some state := by
    intro position inside
    refine ⟨_, Array.getElem?_eq_getElem (Nat.lt_of_le_of_lt ?_ inside)⟩
    exact Nat.mod_le position 65536
  refine Ends.bind ((Ends.mapM (List.range automaton.states.size)).imp (fun _ => id) ?_) ?_
  · intro failure ⟨position, member, failed⟩
    obtain ⟨state, stateFound⟩ := numbered (List.mem_range.mp member)
    obtain ⟨label, same, ambiguous⟩ := (denseTable_ends closed holds found stateFound).of_error failed
    exact ⟨_, state, label, stateFound, same, ambiguous⟩
  · intro tables ⟨_, pointwise⟩
    refine Ends.pure_iff.mpr ?_
    intro id state stateFound
    have inside : id.toNat < automaton.states.size := (Array.getElem?_eq_some_iff.mp stateFound).1
    obtain ⟨table, tableFound, made⟩ := pointwise id.toNat id.toNat (by simp [inside])
    have same : id.toNat.toUInt16 = id := by simp [Nat.toUInt16]
    rw [same] at made
    exact ⟨table, by simpa using tableFound, (denseTable_ends closed holds found stateFound).of_ok made⟩

/-- What compiling a grammar without defect and without left recursion gives: the starting labels
and the table of every state, unless a state is ambiguous. -/
theorem compile_ends {grammar : Grammar} (clean : grammar.defect? = none) {firsts : Array FirstSet}
    (searched : grammar.firstSets = .ok firsts) :
    Ends grammar.compile
      (fun tables => ∀ (symbol : NonterminalId) (automaton : Automaton),
        grammar.automaton? symbol = some automaton →
          ∃ entry, tables[symbol.index]? = some entry ∧ Finished grammar symbol entry.first ∧
            ∀ (id : StateId) (state : State), automaton.states[id.toNat]? = some state →
              ∃ table, entry.states[id.toNat]? = some table ∧ Compiled grammar state table)
      (fun failure => ∃ (symbol : NonterminalId) (automaton : Automaton) (id : StateId)
        (state : State) (label : LabelId), grammar.automaton? symbol = some automaton ∧
          automaton.states[id.toNat]? = some state ∧
          failure = .error (.ambiguous automaton.name id label) ∧
          Ambiguous grammar state label) := by
  have closed := closed_of_clean clean
  have holds := firstsHold closed searched
  rw [compile, clean]
  dsimp only
  rw [searched, ok_bind]
  refine Ends.bind ((Ends.mapM grammar.automata.toList).imp (fun _ => id) ?_) ?_
  · intro failure ⟨automaton, member, failed⟩
    obtain ⟨position, inside, rfl⟩ := List.mem_iff_getElem.mp member
    have small : position < grammar.automata.size := by simpa using inside
    have found : grammar.automaton? (.ofIndex position) = some (grammar.automata.toList[position]) := by
      rw [automaton?_ofIndex closed small, Array.getElem_toList, Array.getElem?_eq_getElem small]
    obtain ⟨id, state, label, stateFound, same, ambiguous⟩ :=
      (denseTables_ends closed holds found).of_error failed
    exact ⟨_, _, id, state, label, found, stateFound, same, ambiguous⟩
  · intro states ⟨_, pointwise⟩
    refine Ends.pure_iff.mpr ?_
    intro symbol automaton found
    obtain ⟨tables, tablesFound, made⟩ := pointwise symbol.index automaton
      (by simpa [automaton?] using found)
    obtain ⟨first, firstFound, finished⟩ := holds.exists found
    refine ⟨⟨first, tables⟩, ?_, finished, (denseTables_ends closed holds found).of_ok made⟩
    simp [Array.getElem?_zipWith, firstFound, tablesFound]

end Grammar

end TransitionNetwork
