import TransitionNetwork.Grammar.Derivation
import TransitionNetwork.Proofs.Grammar.Acceleration
import TransitionNetwork.Proofs.Parser.Spine

/-!
# Moves on spines

What the innermost frame can do with a pending token, said over spines: open a nonterminal, close
itself, consume the token, or refuse it. Every move of a parser is one of these, and each keeps the
finished part of the tree a partial derivation over the arcs.
-/

set_option autoImplicit false

namespace TransitionNetwork

namespace Grammar

theorem Matches.children {grammar : Grammar} {id : LabelId} {symbol : NonterminalId}
    {line col : Nat} {children : List Shape}
    (fits : Matches grammar id (.interior symbol line col children)) (others : List Shape) :
    Matches grammar id (.interior symbol line col others) := by
  cases fits with
  | interior labelled isNonterminal => exact .interior labelled isNonterminal

theorem Path.snoc {grammar : Grammar} {automaton : Automaton} {source middle : StateId}
    {shapes : List Shape} {state : State} {arc : Arc} {shape : Shape}
    (path : Path grammar automaton source shapes middle)
    (found : automaton.states[middle.toNat]? = some state) (member : arc ∈ state.arcs)
    (fits : Matches grammar arc.label shape) :
    Path grammar automaton source (shapes ++ [shape]) arc.target :=
  path.append (.step found member fits .done)

theorem Path.exists_last {grammar : Grammar} {automaton : Automaton} {source final : StateId}
    {shapes : List Shape} {shape : Shape}
    (path : Path grammar automaton source (shapes ++ [shape]) final) :
    ∃ middle state arc, Path grammar automaton source shapes middle ∧
      automaton.states[middle.toNat]? = some state ∧ arc ∈ state.arcs ∧
      Matches grammar arc.label shape ∧ arc.target = final := by
  generalize whole : shapes ++ [shape] = all at path
  induction path generalizing shapes with
  | done => simp at whole
  | @step source final state arc first rest found member fits onward ih =>
      cases shapes with
      | nil =>
          simp only [List.nil_append, List.cons.injEq] at whole
          obtain ⟨rfl, rfl⟩ := whole
          have ends : arc.target = final := by cases onward; rfl
          exact ⟨source, state, arc, .done, found, member, fits, ends⟩
      | cons head tail =>
          simp only [List.cons_append, List.cons.injEq] at whole
          obtain ⟨rfl, tailWhole⟩ := whole
          obtain ⟨middle, last, arcLast, before, lastFound, lastMember, lastFits, ends⟩ :=
            ih tailWhole
          exact ⟨middle, last, arcLast, .step found member fits before, lastFound, lastMember,
            lastFits, ends⟩

theorem Path.exists_state {grammar : Grammar} (closed : grammar.Closed) {symbol : NonterminalId}
    {automaton : Automaton} (automatonFound : grammar.automaton? symbol = some automaton)
    {source final : StateId} {shapes : List Shape}
    (path : Path grammar automaton source shapes final)
    (start : ∃ state, automaton.states[source.toNat]? = some state) :
    ∃ state, automaton.states[final.toNat]? = some state := by
  induction path with
  | done => exact start
  | step found member _ _ ih => exact ih (closed.target automatonFound found member)

end Grammar

namespace Parser

open Grammar

/-! ## The invariant -/

/-- Open nonterminals that follow their automata, from the innermost out to the root. The finished
children of each, and the one that is open below it, spell a path to the state it is in. -/
inductive Threaded (grammar : Grammar) (root : NonterminalId) :
    List Shape → List OpenNode → Prop where
  | root {children : List Shape} : Threaded grammar root [.interior root 0 0 children] []
  | node {below : List Shape} {node : OpenNode} {outer : List OpenNode} {automaton : Automaton} :
      grammar.automaton? node.symbol = some automaton →
      Path grammar automaton automaton.initial (node.done ++ below) node.state →
      (∀ child ∈ node.done, Derives grammar child) →
      Threaded grammar root [node.shape] outer → Threaded grammar root below (node :: outer)

theorem Threaded.inversion {grammar : Grammar} {root : NonterminalId} {below : List Shape}
    {node : OpenNode} {outer : List OpenNode}
    (threaded : Threaded grammar root below (node :: outer)) :
    ∃ automaton, grammar.automaton? node.symbol = some automaton ∧
      Path grammar automaton automaton.initial (node.done ++ below) node.state ∧
      (∀ child ∈ node.done, Derives grammar child) ∧
      Threaded grammar root [node.shape] outer := by
  cases threaded with
  | node found path derived outward => exact ⟨_, found, path, derived, outward⟩

/-- A spine that is a partial derivation from its root. -/
inductive Sound (grammar : Grammar) (root : NonterminalId) : Spine → Prop where
  | closed {shape : Shape} : Derives grammar shape → Threaded grammar root [shape] [] →
      Sound grammar root (.closed shape)
  | opened {top : OpenNode} {outer : List OpenNode} : Threaded grammar root [] (top :: outer) →
      Sound grammar root (.opened top outer)

/-- What is open below a nonterminal counts by its symbol, not by the children it has so far. -/
theorem Threaded.children {grammar : Grammar} {root symbol : NonterminalId} {line col : Nat}
    {children : List Shape} {stack : List OpenNode}
    (threaded : Threaded grammar root [.interior symbol line col children] stack)
    (others : List Shape) : Threaded grammar root [.interior symbol line col others] stack := by
  cases threaded with
  | root => exact .root
  | node found path derived outward =>
      obtain ⟨middle, state, arc, before, stateFound, member, fits, ends⟩ := path.exists_last
      have after := before.snoc stateFound member (fits.children others)
      rw [ends] at after
      exact .node found after derived outward

/-- Where an open nonterminal stands: its automaton, its state and the table of that state. -/
structure Standing (grammar : AcceleratedGrammar) (node : OpenNode) (automaton : Automaton)
    (state : State) (table : DenseTable) : Prop where
  found : grammar.grammar.automaton? node.symbol = some automaton
  stateFound : automaton.states[node.state.toNat]? = some state
  tableFound : grammar.table? node.symbol node.state.toNat = some table
  compiled : Compiled grammar.grammar state table

theorem Threaded.standing {grammar : AcceleratedGrammar} {root : NonterminalId}
    {below : List Shape} {node : OpenNode} {outer : List OpenNode}
    (threaded : Threaded grammar.grammar root below (node :: outer)) :
    ∃ automaton state table, Standing grammar node automaton state table := by
  cases threaded with
  | node found path _ _ =>
      obtain ⟨state, stateFound⟩ :=
        path.exists_state grammar.closed found (grammar.closed.initial found)
      obtain ⟨table, tableFound, compiled⟩ := grammar.exists_table found stateFound
      exact ⟨_, state, table, found, stateFound, tableFound, compiled⟩

theorem Standing.look {grammar : AcceleratedGrammar} {node : OpenNode} {automaton : Automaton}
    {state : State} {table : DenseTable} (standing : Standing grammar node automaton state table)
    (position : NodeId) :
    grammar.look ⟨node.symbol, node.state, position⟩ = .ok (automaton, state, table) := by
  have stateOk := Automaton.state_eq_ok_iff.mpr standing.stateFound
  simp only [AcceleratedGrammar.look, standing.found, stateOk, standing.tableFound]
  rfl

/-! ## The moves -/

/-- A nonterminal is opened, or the innermost one is closed, and the token is still pending. -/
inductive Advances (grammar : AcceleratedGrammar) (maxDepth : Option Nat) (pending : Pending) :
    Spine → Event → Spine → Prop where
  | push {top : OpenNode} {outer : List OpenNode} {table : DenseTable} {inner : NonterminalId}
      {next : StateId} {automaton : Automaton} :
      grammar.table? top.symbol top.state.toNat = some table →
      table.lookup pending.label = some (.push inner next) →
      grammar.grammar.automaton? inner = some automaton →
      (∀ limit, maxDepth = some limit → outer.length + 1 < limit) →
      Advances grammar maxDepth pending (.opened top outer) (.push inner next (outer.length + 1))
        (.opened ⟨inner, automaton.initial, pending.token.line, pending.col, []⟩
          ({ top with state := next } :: outer))
  | retry {top : OpenNode} {outer : List OpenNode} {table : DenseTable} :
      grammar.table? top.symbol top.state.toNat = some table →
      table.lookup pending.label = none → table.accept = true →
      Advances grammar maxDepth pending (.opened top outer)
        (.pop top.symbol .retry (outer.length + 1)) (.close top outer)

/-- The token becomes a leaf of the innermost nonterminal. -/
inductive Consumes (grammar : AcceleratedGrammar) (pending : Pending) :
    Spine → Event → Spine → Prop where
  | shift {top : OpenNode} {outer : List OpenNode} {table : DenseTable} {target : StateId} :
      grammar.table? top.symbol top.state.toNat = some table →
      table.lookup pending.label = some (.shift target) →
      Consumes grammar pending (.opened top outer)
        (.shift pending.token target (outer.length + 1))
        (.opened { top.add (.leaf pending.token pending.col) with state := target } outer)

/-- The token is refused. -/
inductive Refuses (grammar : AcceleratedGrammar) (maxDepth : Option Nat) (pending : Pending) :
    Spine → ParseError → Prop where
  | underflow {shape : Shape} : Refuses grammar maxDepth pending (.closed shape)
      (.stackUnderflow pending.token pending.col)
  | limited {top : OpenNode} {outer : List OpenNode} {table : DenseTable} {inner : NonterminalId}
      {next : StateId} {limit : Nat} : grammar.table? top.symbol top.state.toNat = some table →
      table.lookup pending.label = some (.push inner next) → maxDepth = some limit →
      limit ≤ outer.length + 1 →
      Refuses grammar maxDepth pending (.opened top outer) (.depthLimitExceeded limit)
  | rejected {top : OpenNode} {outer : List OpenNode} {table : DenseTable} :
      grammar.table? top.symbol top.state.toNat = some table →
      table.lookup pending.label = none → table.accept = false →
      Refuses grammar maxDepth pending (.opened top outer)
        (.illegalToken pending.token pending.col .rejected)

/-- Every move of a parser that stands on a sound spine is one of these. -/
theorem move_cases {grammar : AcceleratedGrammar} {root : NonterminalId} {spine : Spine}
    (sound : Sound grammar.grammar root spine) (maxDepth : Option Nat) (pending : Pending) :
    (∃ event next, Advances grammar maxDepth pending spine event next ∧
      move grammar maxDepth pending spine.frames spine.tree =
        .onward next.frames next.tree event) ∨
    (∃ event next, Consumes grammar pending spine event next ∧
      move grammar maxDepth pending spine.frames spine.tree =
        .consumed next.frames next.tree event) ∨
    ∃ cause, Refuses grammar maxDepth pending spine cause ∧
      move grammar maxDepth pending spine.frames spine.tree =
        .stuck spine.frames spine.tree (.error cause) := by
  cases sound with
  | closed _ _ => exact .inr (.inr ⟨_, .underflow, rfl⟩)
  | @opened top outer threaded =>
      obtain ⟨automaton, state, table, standing⟩ := threaded.standing
      have looked := standing.look (Spine.extent outer)
      have fault := Spine.parentFault?_top top outer
      simp only [Spine.frames_opened, move, looked]
      cases answer : table.lookup pending.label with
      | none =>
          cases accepts : table.accept with
          | false => exact .inr (.inr ⟨_, .rejected standing.tableFound answer accepts, rfl⟩)
          | true =>
              refine .inl ⟨_, _, .retry standing.tableFound answer accepts, ?_⟩
              rw [Spine.tree_close, Spine.frames_close, Spine.length_framesOf]
              rfl
      | some transition =>
          cases transition with
          | shift target =>
              refine .inr (.inl ⟨_, _, .shift standing.tableFound answer, ?_⟩)
              simp only [consume, fault, Spine.length_framesOf]
              rw [Spine.tree_shift]
              rfl
          | push inner next =>
              obtain ⟨_, _, _, _, labelled, isNonterminal, _⟩ :=
                yields_push_iff.mp (standing.compiled.lookup_iff.mp answer)
              obtain ⟨child, childFound⟩ := grammar.closed.nonterminal labelled isNonterminal
              simp only [openBelow, childFound, fault, Spine.length_framesOf]
              cases limited : maxDepth.filter (· ≤ outer.length + 1) with
              | some limit =>
                  simp only [Option.filter_eq_some_iff, decide_eq_true_eq] at limited
                  exact .inr (.inr ⟨_, .limited standing.tableFound answer limited.1 limited.2, rfl⟩)
              | none =>
                  have free : ∀ limit, maxDepth = some limit → outer.length + 1 < limit := by
                    intro limit given
                    subst given
                    simpa [Option.filter] using limited
                  refine .inl ⟨_, _, .push standing.tableFound answer childFound free, ?_⟩
                  dsimp only
                  rw [Spine.tree_push top outer inner child.initial next, Spine.size_tree]
                  rfl

theorem Standing.accept_iff {grammar : AcceleratedGrammar} {node : OpenNode}
    {automaton : Automaton} {state : State} {table : DenseTable}
    (standing : Standing grammar node automaton state table) :
    table.accept = true ↔ MayEnd grammar.grammar automaton node.state := by
  rw [standing.compiled.accept_iff]
  constructor
  · intro marked
    exact ⟨state, standing.stateFound, marked⟩
  · intro ⟨same, sameFound, marked⟩
    obtain rfl := Option.some.inj (sameFound.symm.trans standing.stateFound)
    exact marked

theorem Threaded.derives {grammar : Grammar} {root : NonterminalId} {top : OpenNode}
    {outer : List OpenNode} {automaton : Automaton}
    (threaded : Threaded grammar root [] (top :: outer))
    (found : grammar.automaton? top.symbol = some automaton)
    (ends : MayEnd grammar automaton top.state) : Derives grammar top.shape := by
  cases threaded with
  | node foundAt path derived _ =>
      obtain rfl := Option.some.inj (foundAt.symm.trans found)
      rw [List.append_nil] at path
      exact .interior found path ends derived

theorem Threaded.close {grammar : Grammar} {root : NonterminalId} {top : OpenNode}
    {outer : List OpenNode} (threaded : Threaded grammar root [] (top :: outer))
    (finished : Derives grammar top.shape) : Sound grammar root (.close top outer) := by
  obtain ⟨_, _, _, _, outward⟩ := threaded.inversion
  cases outer with
  | nil => exact .closed finished outward
  | cons next outer =>
      obtain ⟨automaton, found, path, derived, beyond⟩ := outward.inversion
      refine .opened (.node found (by simpa [OpenNode.add] using path) ?_ (beyond.children _))
      intro child member
      rcases List.mem_append.mp member with before | last
      · exact derived child before
      · rwa [List.mem_singleton.mp last]

theorem Advances.sound {grammar : AcceleratedGrammar} {maxDepth : Option Nat} {pending : Pending}
    {root : NonterminalId} {spine next : Spine} {event : Event}
    (advances : Advances grammar maxDepth pending spine event next)
    (sound : Sound grammar.grammar root spine) : Sound grammar.grammar root next := by
  cases sound with
  | closed _ _ => cases advances
  | opened threaded =>
      obtain ⟨automaton, state, table, standing⟩ := threaded.standing
      cases advances with
      | push tableFound answer innerFound _ =>
          obtain rfl := Option.some.inj (tableFound.symm.trans standing.tableFound)
          obtain ⟨arc, member, rfl, label, labelled, isNonterminal, _⟩ :=
            yields_push_iff.mp (standing.compiled.lookup_iff.mp answer)
          cases threaded with
          | node found path derived outward =>
              obtain rfl := Option.some.inj (found.symm.trans standing.found)
              rw [List.append_nil] at path
              refine .opened (.node innerFound .done (by simp) (.node found ?_ derived outward))
              exact path.snoc standing.stateFound member (.interior labelled isNonterminal)
      | retry tableFound _ accepts =>
          obtain rfl := Option.some.inj (tableFound.symm.trans standing.tableFound)
          exact threaded.close (threaded.derives standing.found (standing.accept_iff.mp accepts))

theorem Consumes.sound {grammar : AcceleratedGrammar} {pending : Pending} {root : NonterminalId}
    {spine next : Spine} {event : Event} (consumes : Consumes grammar pending spine event next)
    (classified : grammar.grammar.classify pending.token = some pending.label)
    (sound : Sound grammar.grammar root spine) : Sound grammar.grammar root next := by
  cases sound with
  | closed _ _ => cases consumes
  | opened threaded =>
      obtain ⟨automaton, state, table, standing⟩ := threaded.standing
      cases consumes with
      | shift tableFound answer =>
          obtain rfl := Option.some.inj (tableFound.symm.trans standing.tableFound)
          obtain ⟨arc, member, onLabel, rfl, label, kind, labelled, isToken⟩ :=
            yields_shift_iff.mp (standing.compiled.lookup_iff.mp answer)
          cases threaded with
          | node found path derived outward =>
              obtain rfl := Option.some.inj (found.symm.trans standing.found)
              rw [List.append_nil] at path
              have fits : Matches grammar.grammar arc.label (.leaf pending.token pending.col) := by
                rw [onLabel]
                exact .leaf classified labelled isToken
              refine .opened (.node found ?_ ?_ (outward.children _))
              · simpa [OpenNode.add] using path.snoc standing.stateFound member fits
              · intro child among
                rcases List.mem_append.mp among with before | last
                · exact derived child before
                · rw [List.mem_singleton.mp last]
                  exact .leaf

end Parser

end TransitionNetwork
