import TransitionNetwork.Proofs.Grammar.Acceleration

/-!
# Compiling arbitrary tables

Whatever grammar it is given, compilation ends with tables that fit the grammar or with a cause that
lies in the grammar, never with a fault. Tables can therefore be written over those that automata
and states carry along, which need not be their own: nothing is written before everything is
compiled, and then everything is written over.
-/

set_option autoImplicit false

namespace TransitionNetwork

namespace Grammar

/-! ## How compilation ends -/

/-- There are tables for each automaton, and a table for each of its states. -/
structure Fits (grammar : Grammar) (tables : Tables) : Prop where
  size : tables.size = grammar.automata.size
  states : ∀ {position : Nat} {automaton : Automaton} {entry : AutomatonTables},
    grammar.automata[position]? = some automaton → tables[position]? = some entry →
      entry.states.size = automaton.states.size

inductive Refused (grammar : Grammar) : Failure GrammarError → Prop where
  | defective {defect : GrammarError} : grammar.defect? = some defect →
      Refused grammar (.error defect)
  | leftRecursive {symbol : NonterminalId} {automaton : Automaton} :
      grammar.automaton? symbol = some automaton → LeftRecursive grammar symbol →
      Refused grammar (.error (.leftRecursion automaton.name))
  | ambiguous {symbol : NonterminalId} {automaton : Automaton} {id : StateId} {state : State}
      {label : LabelId} : grammar.automaton? symbol = some automaton →
      automaton.states[id.toNat]? = some state → Ambiguous grammar state label →
      Refused grammar (.error (.ambiguous automaton.name id label))

theorem Refused.exists_cause {grammar : Grammar} {failure : Failure GrammarError}
    (refused : grammar.Refused failure) : ∃ cause, failure = .error cause := by
  cases refused <;> exact ⟨_, rfl⟩

theorem size_denseTables {grammar : Grammar} {firsts : Array FirstSet} {automaton : Automaton}
    {tables : Array DenseTable} (made : grammar.denseTables firsts automaton = .ok tables) :
    tables.size = automaton.states.size := by
  unfold denseTables at made
  cases mapped : (List.range automaton.states.size).mapM fun position =>
      grammar.denseTable firsts automaton position.toUInt16 with
  | error failure =>
      rw [mapped] at made
      cases made
  | ok values =>
      rw [mapped] at made
      cases made
      obtain ⟨length, _⟩ := (Ends.mapM (List.range automaton.states.size)).of_ok mapped
      simpa using length

theorem fits_of_compile {grammar : Grammar} {tables : Tables}
    (compiled : grammar.compile = .ok tables) : grammar.Fits tables := by
  obtain ⟨clean, firsts, searched⟩ := searched_of_compile compiled
  have holds := firstsHold (closed_of_clean clean) searched
  rw [compile, clean] at compiled
  dsimp only at compiled
  rw [searched, ok_bind] at compiled
  cases mapped : grammar.automata.toList.mapM (grammar.denseTables firsts) with
  | error failure =>
      rw [mapped] at compiled
      cases compiled
  | ok states =>
      rw [mapped] at compiled
      cases compiled
      obtain ⟨length, pointwise⟩ := (Ends.mapM grammar.automata.toList).of_ok mapped
      refine ⟨by simp [holds.size, length], ?_⟩
      intro position automaton entry found entered
      obtain ⟨made, madeAt, succeeded⟩ := pointwise position automaton (by simpa using found)
      have same : entry.states = made := by
        rw [Array.getElem?_zipWith] at entered
        cases first : firsts[position]? with
        | none => simp [first] at entered
        | some labels =>
            simp only [first, List.getElem?_toArray, madeAt, Option.some.injEq] at entered
            rw [← entered]
      rw [same, size_denseTables succeeded]

theorem compile_total (grammar : Grammar) : Ends grammar.compile grammar.Fits grammar.Refused := by
  cases compiled : grammar.compile with
  | ok tables => exact fits_of_compile compiled
  | error failure =>
      cases defect : grammar.defect? with
      | some cause =>
          rw [compile, defect] at compiled
          cases compiled
          exact .defective defect
      | none =>
          cases searched : grammar.firstSets with
          | ok firsts =>
              obtain ⟨_, _, _, _, _, found, stateFound, rfl, ambiguous⟩ :=
                (compile_ends defect searched).of_error compiled
              exact .ambiguous found stateFound ambiguous
          | error cause =>
              rw [compile, defect] at compiled
              dsimp only at compiled
              rw [searched] at compiled
              cases compiled
              obtain ⟨_, _, found, cycle, rfl⟩ :=
                (firstSets_ends (closed_of_clean defect)).of_error searched
              exact .leftRecursive found cycle

/-- A position that passes the check of sizes has a number that does not wrap around. -/
theorem raw_ofIndex {grammar : Grammar} (clean : grammar.outlineDefect? = none) {position : Nat}
    (inside : position < grammar.automata.size) :
    (NonterminalId.ofIndex position).raw.toNat = 256 + position := by
  obtain ⟨_, few, _⟩ := outlineDefect?_eq_none_iff.mp clean
  exact NonterminalId.raw_ofIndex_of_lt (by omega)

end Grammar

/-! ## Tables in place -/

/-- A state with the table it carries, which may be left over from another grammar. -/
@[ext] structure TabledState where
  state : State
  table : DenseTable
  deriving DecidableEq, Repr

@[ext] structure TabledAutomaton where
  id : NonterminalId
  name : String
  initial : StateId
  states : Array TabledState
  first : FirstSet
  deriving DecidableEq, Repr

/-- A grammar that keeps its tables in its states. They are its own once it is marked. -/
@[ext] structure TabledGrammar where
  automata : Array TabledAutomaton
  labels : Array Label
  start : NonterminalId
  accelerated : Bool
  deriving DecidableEq, Repr

/-- Writes values over the items at the same positions, as far as there are values. -/
def overwrite {α β : Type} (write : α → β → α) (items : Array α) (values : Array β) : Array α :=
  items.mapIdx fun position item =>
    match values[position]? with
    | some value => write item value
    | none => item

section Overwriting

variable {α β γ : Type} {write : α → β → α} {items : Array α} {values : Array β}

theorem map_overwrite_of_kept {view : α → γ}
    (kept : ∀ item value, view (write item value) = view item) :
    (overwrite write items values).map view = items.map view := by
  apply Array.ext_getElem?
  intro position
  rw [overwrite, Array.getElem?_map, Array.getElem?_mapIdx, Array.getElem?_map]
  cases items[position]? with
  | none => rfl
  | some item =>
      cases values[position]? with
      | none => rfl
      | some value => exact congrArg some (kept item value)

theorem map_overwrite_of_read {view : α → β} (size : values.size = items.size)
    (read : ∀ {position : Nat} {item : α} {value : β}, items[position]? = some item →
      values[position]? = some value → view (write item value) = value) :
    (overwrite write items values).map view = values := by
  apply Array.ext_getElem?
  intro position
  rw [overwrite, Array.getElem?_map, Array.getElem?_mapIdx]
  cases itemFound : items[position]? with
  | none =>
      have past : items.size ≤ position := Array.getElem?_eq_none_iff.mp itemFound
      rw [Array.getElem?_eq_none (size ▸ past)]
      rfl
  | some item =>
      obtain ⟨inside, _⟩ := Array.getElem?_eq_some_iff.mp itemFound
      have valueFound : values[position]? = some (values[position]) :=
        Array.getElem?_eq_getElem (size ▸ inside)
      simp only [Option.map_some, valueFound]
      rw [read itemFound valueFound]

/-- Arrays are equal if two views that determine an item agree on them. -/
theorem eq_of_map_eq {first : α → β} {second : α → γ}
    (determined : ∀ {left right : α}, first left = first right → second left = second right →
      left = right) {left right : Array α} (firstSame : left.map first = right.map first)
    (secondSame : left.map second = right.map second) : left = right := by
  apply Array.ext_getElem?
  intro position
  have firstAt := congrArg (·[position]?) firstSame
  have secondAt := congrArg (·[position]?) secondSame
  simp only [Array.getElem?_map] at firstAt secondAt
  cases leftFound : left[position]? with
  | none =>
      cases rightFound : right[position]? with
      | none => rfl
      | some _ => simp [leftFound, rightFound] at firstAt
  | some item =>
      cases rightFound : right[position]? with
      | none => simp [leftFound, rightFound] at firstAt
      | some other =>
          simp only [leftFound, rightFound, Option.map_some, Option.some.injEq] at firstAt secondAt
          rw [determined firstAt secondAt]

end Overwriting

def TabledState.fill (state : TabledState) (table : DenseTable) : TabledState :=
  { state with table }

namespace TabledAutomaton

/-- The automaton without what compilation adds. -/
def bare (automaton : TabledAutomaton) : Automaton where
  id := automaton.id
  name := automaton.name
  initial := automaton.initial
  states := automaton.states.map TabledState.state

def tables (automaton : TabledAutomaton) : AutomatonTables where
  first := automaton.first
  states := automaton.states.map TabledState.table

def fill (automaton : TabledAutomaton) (tables : AutomatonTables) : TabledAutomaton :=
  { automaton with
    first := tables.first
    states := overwrite TabledState.fill automaton.states tables.states }

theorem bare_fill (automaton : TabledAutomaton) (tables : AutomatonTables) :
    (automaton.fill tables).bare = automaton.bare := by
  simp only [bare, fill, Automaton.mk.injEq, true_and]
  exact map_overwrite_of_kept fun _ _ => rfl

theorem tables_fill {automaton : TabledAutomaton} {tables : AutomatonTables}
    (size : tables.states.size = automaton.bare.states.size) :
    (automaton.fill tables).tables = tables := by
  have states : (automaton.fill tables).tables.states = tables.states :=
    map_overwrite_of_read (by simpa [bare] using size) fun _ _ => rfl
  exact congrArg (AutomatonTables.mk tables.first) states

theorem eq_of_bare_of_tables {left right : TabledAutomaton} (bareSame : left.bare = right.bare)
    (tablesSame : left.tables = right.tables) : left = right := by
  have states : left.states = right.states :=
    eq_of_map_eq TabledState.ext (congrArg Automaton.states bareSame)
      (congrArg AutomatonTables.states tablesSame)
  exact TabledAutomaton.ext (congrArg Automaton.id bareSame) (congrArg Automaton.name bareSame)
    (congrArg Automaton.initial bareSame) states (congrArg AutomatonTables.first tablesSame)

end TabledAutomaton

namespace TabledGrammar

def bare (grammar : TabledGrammar) : Grammar where
  automata := grammar.automata.map TabledAutomaton.bare
  labels := grammar.labels
  start := grammar.start

def tables (grammar : TabledGrammar) : Tables :=
  grammar.automata.map TabledAutomaton.tables

def fill (grammar : TabledGrammar) (tables : Tables) : TabledGrammar :=
  { grammar with
    automata := overwrite TabledAutomaton.fill grammar.automata tables
    accelerated := true }

/-- Compiles a grammar that is not marked and writes its tables in place. After a failure the
grammar is the one before. -/
def accelerate (grammar : TabledGrammar) : TabledGrammar × Except (Failure GrammarError) Unit :=
  if grammar.accelerated then
    (grammar, .ok ())
  else
    match grammar.bare.compile with
    | .ok tables => (grammar.fill tables, .ok ())
    | .error failure => (grammar, .error failure)

theorem bare_fill (grammar : TabledGrammar) (tables : Tables) :
    (grammar.fill tables).bare = grammar.bare := by
  simp only [bare, fill, Grammar.mk.injEq, and_true]
  exact map_overwrite_of_kept TabledAutomaton.bare_fill

theorem tables_fill {grammar : TabledGrammar} {tables : Tables}
    (fits : grammar.bare.Fits tables) : (grammar.fill tables).tables = tables := by
  apply map_overwrite_of_read
  · simpa [bare] using fits.size
  · intro position automaton entry found entered
    apply TabledAutomaton.tables_fill
    exact fits.states (by simp [bare, found]) entered

theorem eq_of_views {left right : TabledGrammar} (bareSame : left.bare = right.bare)
    (tablesSame : left.tables = right.tables) (marked : left.accelerated = right.accelerated) :
    left = right := by
  have automata : left.automata = right.automata :=
    eq_of_map_eq TabledAutomaton.eq_of_bare_of_tables (congrArg Grammar.automata bareSame)
      tablesSame
  exact TabledGrammar.ext automata (congrArg Grammar.labels bareSame)
    (congrArg Grammar.start bareSame) marked

theorem accelerate_cases (grammar : TabledGrammar) :
    (grammar.accelerated = true ∧ grammar.accelerate = (grammar, .ok ())) ∨
      (grammar.accelerated = false ∧ ∃ tables, grammar.bare.compile = .ok tables ∧
        grammar.accelerate = (grammar.fill tables, .ok ())) ∨
      grammar.accelerated = false ∧ ∃ failure, grammar.bare.compile = .error failure ∧
        grammar.accelerate = (grammar, .error failure) := by
  unfold accelerate
  cases grammar.accelerated with
  | true => exact .inl ⟨rfl, rfl⟩
  | false =>
      cases grammar.bare.compile with
      | ok tables => exact .inr (.inl ⟨rfl, tables, rfl, rfl⟩)
      | error failure => exact .inr (.inr ⟨rfl, failure, rfl, rfl⟩)

theorem accelerate_of_ok {grammar : TabledGrammar} (succeeded : grammar.accelerate.2 = .ok ()) :
    grammar.accelerate.1.bare = grammar.bare ∧ grammar.accelerate.1.accelerated = true := by
  rcases grammar.accelerate_cases with ⟨marked, same⟩ | ⟨_, tables, _, same⟩ | ⟨_, _, _, same⟩
  · rw [same]
    exact ⟨rfl, marked⟩
  · rw [same]
    exact ⟨grammar.bare_fill tables, rfl⟩
  · rw [same] at succeeded
    cases succeeded

theorem accelerate_of_error {grammar : TabledGrammar} {failure : Failure GrammarError}
    (failed : grammar.accelerate.2 = .error failure) :
    grammar.accelerate.1 = grammar ∧ grammar.bare.Refused failure := by
  rcases grammar.accelerate_cases with ⟨_, same⟩ | ⟨_, _, _, same⟩ | ⟨_, _, compiled, same⟩
  · rw [same] at failed
    cases failed
  · rw [same] at failed
    cases failed
  · rw [same] at failed ⊢
    cases failed
    exact ⟨rfl, grammar.bare.compile_total.of_error compiled⟩

/-- Every table of the result is the compiled one, whatever tables were there before. -/
theorem tables_accelerate {grammar : TabledGrammar} (plain : grammar.accelerated = false)
    (succeeded : grammar.accelerate.2 = .ok ()) :
    grammar.bare.compile = .ok grammar.accelerate.1.tables := by
  rcases grammar.accelerate_cases with ⟨marked, _⟩ | ⟨_, tables, compiled, same⟩ | ⟨_, _, _, same⟩
  · cases plain.symm.trans marked
  · rw [compiled, same, tables_fill (Grammar.fits_of_compile compiled)]
  · rw [same] at succeeded
    cases succeeded

theorem accelerate_congr {grammar other : TabledGrammar} (plain : grammar.accelerated = false)
    (otherPlain : other.accelerated = false) (same : other.bare = grammar.bare) :
    other.accelerate.2 = grammar.accelerate.2 := by
  simp only [accelerate, plain, otherPlain, same, Bool.false_eq_true, if_false]
  cases grammar.bare.compile <;> rfl

/-- The grammar keeps in place what a network keeps beside its grammar. -/
structure Represents (grammar : TabledGrammar) (network : Network) : Prop where
  bare : grammar.bare = network.grammar
  accelerated : grammar.accelerated = network.isAccelerated
  tables : ∀ full, network = .accelerated full → grammar.tables = full.tables

theorem Represents.accelerate {grammar : TabledGrammar} {network : Network}
    (represents : grammar.Represents network) :
    grammar.accelerate.1.Represents network.accelerate.1 ∧
      network.accelerate.2 = grammar.accelerate.2 := by
  cases network with
  | accelerated full =>
      have marked : grammar.accelerated = true := represents.accelerated
      rw [TabledGrammar.accelerate, if_pos marked]
      exact ⟨represents, rfl⟩
  | plain written =>
      have plain : grammar.accelerated = false := represents.accelerated
      have same : grammar.bare = written := represents.bare
      rw [Network.accelerate]
      rcases grammar.accelerate_cases with
        ⟨marked, _⟩ | ⟨_, tables, compiled, stepped⟩ | ⟨_, failure, compiled, stepped⟩
      · cases plain.symm.trans marked
      · obtain ⟨full, made⟩ : ∃ full, written.accelerate = .ok full := by
          cases made : written.accelerate with
          | ok full => exact ⟨full, rfl⟩
          | error failure =>
              rw [Grammar.accelerate_eq_error_iff, ← same, compiled] at made
              cases made
        have written_eq := Grammar.grammar_of_accelerate made
        have tablesSame : full.tables = tables := by
          have again := full.compiled
          rw [written_eq, ← same, compiled] at again
          exact (Except.ok.inj again).symm
        rw [made, stepped]
        refine ⟨⟨?_, rfl, ?_⟩, rfl⟩
        · rw [grammar.bare_fill, same]
          exact written_eq.symm
        · intro other equal
          cases equal
          rw [tablesSame]
          exact tables_fill (Grammar.fits_of_compile compiled)
      · have failed : written.accelerate = .error failure := by
          rw [Grammar.accelerate_eq_error_iff, ← same, compiled]
        rw [failed, stepped]
        exact ⟨represents, rfl⟩

end TabledGrammar

namespace Network

theorem accelerate_of_error {network : Network} {failure : Failure GrammarError}
    (failed : network.accelerate.2 = .error failure) :
    network.accelerate.1 = network ∧ network.grammar.Refused failure := by
  have refused := network.grammar.compile_total.of_error (accelerate_eq_error_iff.mp failed)
  refine ⟨?_, refused⟩
  cases network with
  | accelerated full => rfl
  | plain grammar =>
      rw [accelerate] at failed ⊢
      cases made : grammar.accelerate with
      | error cause => rfl
      | ok full =>
          rw [made] at failed
          cases failed

theorem accelerate_of_ok {network : Network} (succeeded : network.accelerate.2 = .ok ()) :
    network.accelerate.1.grammar = network.grammar ∧ network.accelerate.1.isAccelerated = true ∧
      network.accelerate.1.accelerate = (network.accelerate.1, .ok ()) := by
  cases stepped : network.accelerate with
  | mk result answer =>
      rw [stepped] at succeeded
      obtain rfl : answer = .ok () := succeeded
      obtain ⟨full, same, rfl⟩ := accelerate_eq_ok stepped
      exact ⟨same, rfl, rfl⟩

end Network

namespace TabledGrammar

open Grammar (nestedLists ambiguousPhrases)

/-! ## Main statement -/

/-- Acceleration is safe, atomic and idempotent on arbitrary grammars. It never meets a fault, and
no position that passes the check of sizes has a number that wraps around. A failure leaves
everything as it was, tables and mark included. A success leaves everything but the tables as it
was, marks the grammar, and a further call changes nothing. For grammars that are not marked, the
answer depends only on what is written in them, and so does the result, in which every table is the
compiled one. A network does the same with its tables beside its grammar. -/
theorem accelerate_in_place (grammar : TabledGrammar) (network : Network) :
    (∀ failure, grammar.accelerate.2 = .error failure →
      (∃ cause, failure = .error cause) ∧ grammar.accelerate.1 = grammar) ∧
    (grammar.bare.outlineDefect? = none → ∀ position < grammar.automata.size,
      (NonterminalId.ofIndex position).raw.toNat = 256 + position) ∧
    (grammar.accelerate.2 = .ok () →
      grammar.accelerate.1.bare = grammar.bare ∧ grammar.accelerate.1.accelerated = true ∧
        grammar.accelerate.1.accelerate = (grammar.accelerate.1, .ok ())) ∧
    (grammar.accelerated = false →
      (grammar.accelerate.2 = .ok () →
        grammar.bare.compile = .ok grammar.accelerate.1.tables) ∧
      ∀ other : TabledGrammar, other.accelerated = false → other.bare = grammar.bare →
        other.accelerate.2 = grammar.accelerate.2 ∧
          (grammar.accelerate.2 = .ok () → other.accelerate.1 = grammar.accelerate.1)) ∧
    (grammar.Represents network →
      grammar.accelerate.1.Represents network.accelerate.1 ∧
        network.accelerate.2 = grammar.accelerate.2) ∧
    (∀ failure, network.accelerate.2 = .error failure →
      (∃ cause, failure = .error cause) ∧ network.accelerate.1 = network) ∧
    (network.accelerate.2 = .ok () →
      network.accelerate.1.grammar = network.grammar ∧
        network.accelerate.1.isAccelerated = true ∧
        network.accelerate.1.accelerate = (network.accelerate.1, .ok ())) := by
  refine ⟨?_, ?_, ?_, ?_, Represents.accelerate, ?_, Network.accelerate_of_ok⟩
  · intro failure failed
    obtain ⟨unchanged, refused⟩ := accelerate_of_error failed
    exact ⟨refused.exists_cause, unchanged⟩
  · intro clean position inside
    exact Grammar.raw_ofIndex clean (by simpa [TabledGrammar.bare] using inside)
  · intro succeeded
    obtain ⟨bareSame, marked⟩ := accelerate_of_ok succeeded
    refine ⟨bareSame, marked, ?_⟩
    rw [TabledGrammar.accelerate, if_pos marked]
  · intro plain
    refine ⟨tables_accelerate plain, ?_⟩
    intro other otherPlain bareSame
    have answers := accelerate_congr plain otherPlain bareSame
    refine ⟨answers, ?_⟩
    intro succeeded
    have otherSucceeded := answers.trans succeeded
    obtain ⟨keeps, marked⟩ := accelerate_of_ok succeeded
    obtain ⟨otherKeeps, otherMarked⟩ := accelerate_of_ok otherSucceeded
    apply eq_of_views
    · rw [keeps, otherKeeps, bareSame]
    · apply Except.ok.inj
      rw [← tables_accelerate plain succeeded, ← tables_accelerate otherPlain otherSucceeded,
        bareSame]
    · rw [marked, otherMarked]
  · intro failure failed
    obtain ⟨unchanged, refused⟩ := Network.accelerate_of_error failed
    exact ⟨refused.exists_cause, unchanged⟩

/-- A grammar whose states all carry one table. -/
def carrying (grammar : Grammar) (table : DenseTable) : TabledGrammar where
  automata := grammar.automata.map fun automaton =>
    { automaton with states := automaton.states.map fun state => ⟨state, table⟩, first := .empty }
  labels := grammar.labels
  start := grammar.start
  accelerated := false

@[simp] theorem bare_carrying (grammar : Grammar) (table : DenseTable) :
    (carrying grammar table).bare = grammar := by
  simp [bare, carrying, TabledAutomaton.bare, Function.comp_def]

@[simp] theorem accelerated_carrying (grammar : Grammar) (table : DenseTable) :
    (carrying grammar table).accelerated = false := rfl

/-- Tables that are left over make no difference to lists, and ambiguous phrases keep them. -/
theorem accelerate_in_place_leftover :
    (carrying nestedLists ⟨true, 0, #[some (.shift 7)]⟩).accelerate.1 =
        (carrying nestedLists .blank).accelerate.1 ∧
      (carrying nestedLists ⟨true, 0, #[some (.shift 7)]⟩).accelerate.1.accelerated = true ∧
      (carrying nestedLists ⟨true, 0, #[some (.shift 7)]⟩).accelerate.1.Represents
        (Network.plain nestedLists).accelerate.1 ∧
      (carrying ambiguousPhrases ⟨true, 0, #[some (.shift 7)]⟩).accelerate.1 =
        carrying ambiguousPhrases ⟨true, 0, #[some (.shift 7)]⟩ := by
  obtain ⟨tables, compiled⟩ : ∃ tables, nestedLists.compile = .ok tables := ⟨_, by cbv⟩
  obtain ⟨failure, refused⟩ : ∃ failure, ambiguousPhrases.compile = .error failure := ⟨_, by cbv⟩
  have succeeds : (carrying nestedLists .blank).accelerate.2 = .ok () := by
    simp [accelerate, compiled]
  obtain ⟨_, _, _, unmarked, _⟩ :=
    accelerate_in_place (carrying nestedLists .blank) (.plain nestedLists)
  obtain ⟨answers, results⟩ :=
    (unmarked rfl).2 (carrying nestedLists ⟨true, 0, #[some (.shift 7)]⟩) rfl (by simp)
  obtain ⟨_, _, ok, _, represented, _⟩ := accelerate_in_place
    (carrying nestedLists ⟨true, 0, #[some (.shift 7)]⟩) (.plain nestedLists)
  obtain ⟨errors, _⟩ := accelerate_in_place
    (carrying ambiguousPhrases ⟨true, 0, #[some (.shift 7)]⟩) (.plain ambiguousPhrases)
  have represents : (carrying nestedLists ⟨true, 0, #[some (.shift 7)]⟩).Represents
      (.plain nestedLists) := ⟨bare_carrying _ _, rfl, by simp⟩
  refine ⟨results succeeds, (ok (answers.trans succeeds)).2.1, (represented represents).1,
    (errors failure ?_).2⟩
  simp [accelerate, refused]

end TabledGrammar

end TransitionNetwork
