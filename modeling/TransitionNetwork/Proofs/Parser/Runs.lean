import Mathlib.Data.List.Nodup
import TransitionNetwork.Proofs.Parser.Moves

/-!
# Runs on spines

What feeding a token and finishing do, said over spines. The moves on one token form a run that ends
with the token consumed or refused: closing takes at most as many moves as there are open
nonterminals, and no nonterminal is opened twice for one token, since none can come first in itself.
After a consumed token, the nonterminals that can only end are closed.
-/

set_option autoImplicit false

namespace TransitionNetwork

namespace Parser

open Grammar

/-! ## Settling a token -/

/-- The moves on a pending token, up to the one that consumes or refuses it. -/
inductive Settles (grammar : AcceleratedGrammar) (maxDepth : Option Nat) (pending : Pending) :
    Spine → List Event → Spine → Except (Failure ParseError) Unit → Prop where
  | onward {spine next final : Spine} {event : Event} {events : List Event}
      {result : Except (Failure ParseError) Unit} :
      Advances grammar maxDepth pending spine event next →
      Settles grammar maxDepth pending next events final result →
      Settles grammar maxDepth pending spine (event :: events) final result
  | consumed {spine next : Spine} {event : Event} : Consumes grammar pending spine event next →
      Settles grammar maxDepth pending spine [event] next (.ok ())
  | refused {spine : Spine} {cause : ParseError} : Refuses grammar maxDepth pending spine cause →
      Settles grammar maxDepth pending spine [] spine (.error (.error cause))

/-- The bound is large enough to settle the token from here. -/
def SettlesWithin (grammar : AcceleratedGrammar) (maxDepth : Option Nat) (pending : Pending)
    (bound : Nat) (spine : Spine) : Prop :=
  ∀ trail : Array Event, ∃ events final result,
    Settles grammar maxDepth pending spine events final result ∧
      settle grammar maxDepth pending bound spine.frames spine.tree trail =
        { frames := final.frames, tree := final.tree, trail := trail ++ events, result }

section Settling

variable {grammar : AcceleratedGrammar} {maxDepth : Option Nat} {pending : Pending}
  {root : NonterminalId}

theorem SettlesWithin.step {spine : Spine} {bound : Nat} (sound : Sound grammar.grammar root spine)
    (continues : ∀ event next, Advances grammar maxDepth pending spine event next →
      SettlesWithin grammar maxDepth pending bound next) :
    SettlesWithin grammar maxDepth pending (bound + 1) spine := by
  intro trail
  rcases move_cases sound maxDepth pending with
    ⟨event, next, advances, moved⟩ | ⟨event, next, consumes, moved⟩ | ⟨cause, refuses, moved⟩
  · obtain ⟨events, final, result, settles, settled⟩ := continues event next advances
      (trail.push event)
    refine ⟨event :: events, final, result, .onward advances settles, ?_⟩
    simp only [settle, moved, settled, Array.appendList_cons]
  · exact ⟨[event], next, .ok (), .consumed consumes, by simp [settle, moved]⟩
  · exact ⟨[], spine, .error (.error cause), .refused refuses, by simp [settle, moved]⟩

/-- A nonterminal that was opened for a label, and those opened for it before, innermost first. Each
can come first in the one before it. -/
structure Opening (grammar : AcceleratedGrammar) (label : LabelId) (top : OpenNode)
    (before : List NonterminalId) : Prop where
  initial : ∃ automaton, grammar.grammar.automaton? top.symbol = some automaton ∧
    top.state = automaton.initial
  begins : CanBegin grammar.grammar top.symbol label
  leads : (top.symbol :: before).Pairwise fun inner outer =>
    Relation.TransGen (CanOpen grammar.grammar) outer inner
  inside : ∀ symbol ∈ top.symbol :: before, symbol.index < grammar.grammar.automata.size

theorem Opening.distinct {label : LabelId} {top : OpenNode} {before : List NonterminalId}
    (opening : Opening grammar label top before) : (top.symbol :: before).Nodup := by
  refine opening.leads.imp ?_
  intro inner outer leads same
  subst same
  exact grammar.not_leftRecursive _ leads

theorem Opening.length_le {label : LabelId} {top : OpenNode} {before : List NonterminalId}
    (opening : Opening grammar label top before) :
    before.length + 1 ≤ grammar.grammar.automata.size := by
  have distinct : ((top.symbol :: before).map NonterminalId.index).Nodup :=
    List.Nodup.map (fun _ _ => NonterminalId.index_injective) opening.distinct
  have inside : ∀ position ∈ (top.symbol :: before).map NonterminalId.index,
      position < grammar.grammar.automata.size := by
    intro position member
    obtain ⟨symbol, among, rfl⟩ := List.mem_map.mp member
    exact opening.inside symbol among
  simpa using length_le_of_nodup distinct inside

theorem Opening.compiled {label : LabelId} {top : OpenNode} {before : List NonterminalId}
    (opening : Opening grammar label top before) {table : DenseTable}
    (tableFound : grammar.table? top.symbol top.state.toNat = some table) :
    ∃ automaton state, grammar.grammar.automaton? top.symbol = some automaton ∧
      automaton.states[automaton.initial.toNat]? = some state ∧
      Compiled grammar.grammar state table := by
  obtain ⟨automaton, found, atInitial⟩ := opening.initial
  obtain ⟨state, initial⟩ := grammar.closed.initial found
  obtain ⟨same, sameFound, compiled⟩ := grammar.exists_table found initial
  rw [atInitial, sameFound] at tableFound
  obtain rfl := Option.some.inj tableFound
  exact ⟨automaton, state, found, initial, compiled⟩

theorem Opening.lookup {label : LabelId} {top : OpenNode} {before : List NonterminalId}
    (opening : Opening grammar label top before) {table : DenseTable}
    (tableFound : grammar.table? top.symbol top.state.toNat = some table) :
    ∃ transition, table.lookup label = some transition := by
  obtain ⟨automaton, state, found, initial, compiled⟩ := opening.compiled tableFound
  exact Option.isSome_iff_exists.mp
    ((grammar.initial_isSome_iff found initial compiled).mpr opening.begins)

theorem Opening.push {label : LabelId} {top : OpenNode} {before : List NonterminalId}
    (opening : Opening grammar label top before) {table : DenseTable} {inner : NonterminalId}
    {next : StateId} {automaton : Automaton} {line col : Nat}
    (tableFound : grammar.table? top.symbol top.state.toNat = some table)
    (answer : table.lookup label = some (.push inner next))
    (innerFound : grammar.grammar.automaton? inner = some automaton) :
    Opening grammar label ⟨inner, automaton.initial, line, col, []⟩ (top.symbol :: before) := by
  obtain ⟨outer, state, found, initial, compiled⟩ := opening.compiled tableFound
  obtain ⟨arc, member, _, entry, labelled, isNonterminal, begins⟩ :=
    yields_push_iff.mp (compiled.lookup_iff.mp answer)
  have opens : CanOpen grammar.grammar top.symbol inner :=
    ⟨arc, entry, .intro found initial member labelled, isNonterminal⟩
  refine ⟨⟨automaton, innerFound, rfl⟩, begins, List.pairwise_cons.mpr ⟨?_, opening.leads⟩, ?_⟩
  · intro symbol among
    rcases List.mem_cons.mp among with rfl | earlier
    · exact .single opens
    · exact .tail ((List.pairwise_cons.mp opening.leads).1 symbol earlier) opens
  · intro symbol among
    rcases List.mem_cons.mp among with rfl | earlier
    · exact index_lt_of_automaton? innerFound
    · exact opening.inside symbol earlier

theorem Opening.of_push {top : OpenNode} {outer : List OpenNode} {table : DenseTable}
    {label : LabelId} {inner : NonterminalId} {next : StateId} {automaton : Automaton}
    {line col : Nat} (sound : Sound grammar.grammar root (.opened top outer))
    (tableFound : grammar.table? top.symbol top.state.toNat = some table)
    (answer : table.lookup label = some (.push inner next))
    (innerFound : grammar.grammar.automaton? inner = some automaton) :
    Opening grammar label ⟨inner, automaton.initial, line, col, []⟩ [] := by
  cases sound with
  | opened threaded =>
      obtain ⟨_, state, same, standing⟩ := threaded.standing
      obtain rfl := Option.some.inj (tableFound.symm.trans standing.tableFound)
      obtain ⟨_, _, _, _, _, _, begins⟩ :=
        yields_push_iff.mp (standing.compiled.lookup_iff.mp answer)
      refine ⟨⟨automaton, innerFound, rfl⟩, begins, by simp, ?_⟩
      intro symbol among
      rw [List.mem_singleton.mp among]
      exact index_lt_of_automaton? innerFound

/-- Once a nonterminal has been opened, only more can be opened, and none twice. -/
theorem Opening.settlesWithin {top : OpenNode} {outer : List OpenNode}
    {before : List NonterminalId} {bound : Nat}
    (opening : Opening grammar pending.label top before)
    (sound : Sound grammar.grammar root (.opened top outer))
    (enough : grammar.grammar.automata.size < bound + (before.length + 1)) :
    SettlesWithin grammar maxDepth pending bound (.opened top outer) := by
  induction bound generalizing top outer before with
  | zero =>
      -- The chain would be longer than there are automata.
      have few := opening.length_le
      omega
  | succ bound ih =>
      refine .step sound ?_
      intro event next advances
      have kept := advances.sound sound
      cases advances with
      | push tableFound answer innerFound _ =>
          refine ih (opening.push tableFound answer innerFound) kept ?_
          simp only [List.length_cons]
          omega
      | retry tableFound answer _ =>
          obtain ⟨transition, found⟩ := opening.lookup tableFound
          rw [answer] at found
          cases found

/-- Every token is settled: at first nonterminals are closed, then they are opened. -/
theorem settlesWithin {top : OpenNode} {outer : List OpenNode} {bound : Nat}
    (sound : Sound grammar.grammar root (.opened top outer))
    (enough : outer.length + 1 + grammar.grammar.automata.size < bound) :
    SettlesWithin grammar maxDepth pending bound (.opened top outer) := by
  induction outer generalizing top bound with
  | nil =>
      obtain ⟨bound, rfl⟩ : ∃ fewer, bound = fewer + 2 := ⟨bound - 2, by omega⟩
      refine .step sound ?_
      intro event next advances
      have kept := advances.sound sound
      cases advances with
      | push tableFound answer innerFound _ =>
          refine (Opening.of_push sound tableFound answer innerFound).settlesWithin kept ?_
          simp only [List.length_nil] at enough ⊢
          omega
      | retry _ _ _ =>
          refine .step kept ?_
          intro event next impossible
          cases impossible
  | cons parent outer ih =>
      obtain ⟨bound, rfl⟩ : ∃ fewer, bound = fewer + 1 := ⟨bound - 1, by omega⟩
      refine .step sound ?_
      intro event next advances
      have kept := advances.sound sound
      simp only [List.length_cons] at enough
      cases advances with
      | push tableFound answer innerFound _ =>
          refine (Opening.of_push sound tableFound answer innerFound).settlesWithin kept ?_
          simp only [List.length_nil]
          omega
      | retry _ _ _ => exact ih kept (by omega)

end Settling

/-! ## A token is settled in one way only -/

section Determinism

variable {grammar : AcceleratedGrammar} {maxDepth : Option Nat} {pending : Pending}
  {spine : Spine}

theorem Advances.unique {event again : Event} {next other : Spine}
    (first : Advances grammar maxDepth pending spine event next)
    (second : Advances grammar maxDepth pending spine again other) :
    event = again ∧ next = other := by
  cases first with
  | push tableFound answer innerFound _ =>
      cases second with
      | push tableAgain answerAgain innerAgain _ =>
          obtain rfl := Option.some.inj (tableFound.symm.trans tableAgain)
          cases answer.symm.trans answerAgain
          obtain rfl := Option.some.inj (innerFound.symm.trans innerAgain)
          exact ⟨rfl, rfl⟩
      | retry tableAgain silent _ =>
          obtain rfl := Option.some.inj (tableFound.symm.trans tableAgain)
          cases answer.symm.trans silent
  | retry tableFound silent _ =>
      cases second with
      | push tableAgain answer _ _ =>
          obtain rfl := Option.some.inj (tableFound.symm.trans tableAgain)
          cases answer.symm.trans silent
      | retry _ _ _ => exact ⟨rfl, rfl⟩

theorem Consumes.unique {event again : Event} {next other : Spine}
    (first : Consumes grammar pending spine event next)
    (second : Consumes grammar pending spine again other) : event = again ∧ next = other := by
  cases first with
  | shift tableFound answer =>
      cases second with
      | shift tableAgain answerAgain =>
          obtain rfl := Option.some.inj (tableFound.symm.trans tableAgain)
          cases answer.symm.trans answerAgain
          exact ⟨rfl, rfl⟩

theorem Refuses.unique {cause other : ParseError}
    (first : Refuses grammar maxDepth pending spine cause)
    (second : Refuses grammar maxDepth pending spine other) : cause = other := by
  cases first <;> cases second <;> simp_all

theorem Advances.not_consumes {event again : Event} {next other : Spine}
    (advances : Advances grammar maxDepth pending spine event next) :
    ¬ Consumes grammar pending spine again other := by
  intro consumes
  cases advances <;> cases consumes <;> simp_all

theorem Advances.not_refuses {event : Event} {next : Spine} {cause : ParseError}
    (advances : Advances grammar maxDepth pending spine event next) :
    ¬ Refuses grammar maxDepth pending spine cause := by
  intro refuses
  cases advances <;> cases refuses <;> grind

theorem Consumes.not_refuses {event : Event} {next : Spine} {cause : ParseError}
    (consumes : Consumes grammar pending spine event next) :
    ¬ Refuses grammar maxDepth pending spine cause := by
  intro refuses
  cases consumes with
  | shift _ _ => cases refuses <;> simp_all

theorem Settles.unique {events others : List Event} {final other : Spine}
    {result otherResult : Except (Failure ParseError) Unit}
    (first : Settles grammar maxDepth pending spine events final result)
    (second : Settles grammar maxDepth pending spine others other otherResult) :
    events = others ∧ final = other ∧ result = otherResult := by
  induction first generalizing others with
  | onward advances _ ih =>
      cases second with
      | onward advancesAgain settles =>
          obtain ⟨rfl, rfl⟩ := advances.unique advancesAgain
          obtain ⟨rfl, same⟩ := ih settles
          exact ⟨rfl, same⟩
      | consumed consumes => exact absurd consumes advances.not_consumes
      | refused refuses => exact absurd refuses advances.not_refuses
  | consumed consumes =>
      cases second with
      | onward advances _ => exact absurd consumes advances.not_consumes
      | consumed consumesAgain =>
          obtain ⟨rfl, rfl⟩ := consumes.unique consumesAgain
          exact ⟨rfl, rfl, rfl⟩
      | refused refuses => exact absurd refuses consumes.not_refuses
  | refused refuses =>
      cases second with
      | onward advances _ => exact absurd refuses advances.not_refuses
      | consumed consumes => exact absurd refuses consumes.not_refuses
      | refused refusesAgain =>
          rw [refuses.unique refusesAgain]
          exact ⟨rfl, rfl, rfl⟩

end Determinism

/-! ## Closing what can only end -/

/-- After a consumed token: nonterminals whose only arc is the accept marker are closed, and the end
of the root is reported. -/
inductive Collapses (grammar : AcceleratedGrammar) : Spine → List Event → Spine → Prop where
  | complete {shape : Shape} : Collapses grammar (.closed shape) [.accept] (.closed shape)
  | pop {top : OpenNode} {outer : List OpenNode} {automaton : Automaton} {state : State}
      {table : DenseTable} {events : List Event} {final : Spine} :
      Standing grammar top automaton state table → table.isAcceptOnly state = true →
      Collapses grammar (.close top outer) events final →
      Collapses grammar (.opened top outer)
        (.pop top.symbol .collapse (outer.length + 1) :: events) final
  | pause {top : OpenNode} {outer : List OpenNode} {automaton : Automaton} {state : State}
      {table : DenseTable} : Standing grammar top automaton state table →
      table.isAcceptOnly state = false → Collapses grammar (.opened top outer) [] (.opened top outer)

section Feeding

variable {grammar : AcceleratedGrammar} {maxDepth : Option Nat} {root : NonterminalId}

theorem Standing.kind_of_acceptOnly {node : OpenNode} {automaton : Automaton} {state : State}
    {table : DenseTable} (standing : Standing grammar node automaton state table)
    (only : table.isAcceptOnly state = true) {arc : Arc} (member : arc ∈ state.arcs)
    {label : Label} (labelled : grammar.grammar.label? arc.label = some label) :
    label.kind = .empty := by
  simp only [DenseTable.isAcceptOnly, Bool.and_eq_true, beq_iff_eq] at only
  obtain ⟨single, alone⟩ := List.length_eq_one_iff.mp only.2
  obtain ⟨marker, among, entry, marked, isEmpty⟩ := standing.compiled.accept_iff.mp only.1
  rw [alone, List.mem_singleton] at member among
  subst member among
  obtain rfl := Option.some.inj (labelled.symm.trans marked)
  exact isEmpty

theorem Standing.acceptOnly {node : OpenNode} {automaton : Automaton} {state : State}
    {table : DenseTable} (standing : Standing grammar node automaton state table)
    (only : table.isAcceptOnly state = true) :
    MayEnd grammar.grammar automaton node.state ∧ ∀ label, table.lookup label = none := by
  have accepts : table.accept = true := (Bool.and_eq_true_iff.mp only).1
  refine ⟨standing.accept_iff.mp accepts, ?_⟩
  intro label
  refine Option.eq_none_iff_forall_not_mem.mpr ?_
  intro transition answer
  obtain ⟨arc, member, yields⟩ := standing.compiled.lookup_iff.mp answer
  cases yields with
  | shift labelled isToken =>
      rw [standing.kind_of_acceptOnly only member labelled] at isToken
      cases isToken
  | push labelled isNonterminal _ =>
      rw [standing.kind_of_acceptOnly only member labelled] at isNonterminal
      cases isNonterminal

theorem Collapses.sound {spine final : Spine} {events : List Event}
    (collapses : Collapses grammar spine events final)
    (sound : Sound grammar.grammar root spine) : Sound grammar.grammar root final := by
  induction collapses with
  | complete => exact sound
  | pop standing only _ ih =>
      cases sound with
      | opened threaded =>
          exact ih (threaded.close (threaded.derives standing.found (standing.acceptOnly only).1))
  | pause _ _ => exact sound

theorem exists_collapses {spine : Spine} (sound : Sound grammar.grammar root spine)
    (trail : Array Event) : ∃ events final, Collapses grammar spine events final ∧
      collapse grammar spine.frames spine.tree trail =
        { frames := final.frames, tree := final.tree, trail := trail ++ events,
          result := .ok () } := by
  generalize depth : spine.frames.length = count
  induction count generalizing spine trail with
  | zero =>
      cases sound with
      | @closed shape _ _ =>
          exact ⟨[.accept], .closed shape, .complete, by simp [Spine.frames, collapse]⟩
      | opened _ => simp [Spine.frames_opened] at depth
  | succ count ih =>
      cases sound with
      | closed _ _ => simp [Spine.frames] at depth
      | @opened top outer threaded =>
          obtain ⟨automaton, state, table, standing⟩ := threaded.standing
          simp only [Spine.frames_opened, collapse, standing.look]
          cases only : table.isAcceptOnly state with
          | false =>
              exact ⟨[], .opened top outer, .pause standing only, by simp [Spine.frames_opened]⟩
          | true =>
              have finished := threaded.derives standing.found (standing.acceptOnly only).1
              obtain ⟨events, final, collapses, collapsed⟩ := ih (threaded.close finished)
                (trail.push (.pop top.symbol .collapse (outer.length + 1)))
                (by simpa [Spine.frames_close, Spine.frames_opened] using depth)
              rw [Spine.frames_close, Spine.tree_close] at collapsed
              refine ⟨_, final, .pop standing only collapses, ?_⟩
              simp only [if_true, Spine.length_framesOf, collapsed, Array.appendList_cons]

/-! ## Feeding -/

/-- What feeding a token does to the open nonterminals. -/
inductive Fed (grammar : AcceleratedGrammar) (maxDepth : Option Nat) (token : Token) (col : Nat) :
    Spine → List Event → Spine → Except (Failure ParseError) Unit → Prop where
  | unclassified {spine : Spine} : grammar.grammar.classify token = none →
      Fed grammar maxDepth token col spine [] spine
        (.error (.error (.illegalToken token col .unclassified)))
  | refused {spine final : Spine} {label : LabelId} {moves : List Event}
      {failure : Failure ParseError} : grammar.grammar.classify token = some label →
      Settles grammar maxDepth ⟨token, col, label⟩ spine moves final (.error failure) →
      Fed grammar maxDepth token col spine (.classify token label :: moves) final (.error failure)
  | taken {spine middle final : Spine} {label : LabelId} {moves closings : List Event} :
      grammar.grammar.classify token = some label →
      Settles grammar maxDepth ⟨token, col, label⟩ spine moves middle (.ok ()) →
      Collapses grammar middle closings final →
      Fed grammar maxDepth token col spine (.classify token label :: (moves ++ closings)) final
        (.ok ())

theorem Settles.sound {pending : Pending} {spine final : Spine} {events : List Event}
    {result : Except (Failure ParseError) Unit}
    (settles : Settles grammar maxDepth pending spine events final result)
    (classified : grammar.grammar.classify pending.token = some pending.label)
    (sound : Sound grammar.grammar root spine) : Sound grammar.grammar root final := by
  induction settles with
  | onward advances _ ih => exact ih (advances.sound sound)
  | consumed consumes => exact consumes.sound classified sound
  | refused _ => exact sound

theorem Fed.sound {token : Token} {col : Nat} {spine final : Spine} {events : List Event}
    {result : Except (Failure ParseError) Unit}
    (fed : Fed grammar maxDepth token col spine events final result)
    (sound : Sound grammar.grammar root spine) : Sound grammar.grammar root final := by
  cases fed with
  | unclassified _ => exact sound
  | refused classified settles => exact settles.sound classified sound
  | taken classified settles collapses => exact collapses.sound (settles.sound classified sound)

theorem Advances.leaves {pending : Pending} {spine next : Spine} {event : Event}
    (advances : Advances grammar maxDepth pending spine event next) :
    next.leaves = spine.leaves := by
  cases advances with
  | push _ _ _ _ => simp [Spine.leaves, Spine.leavesOf, Shape.leavesOf]
  | retry _ _ _ => exact Spine.leaves_close _ _

theorem Consumes.leaves {pending : Pending} {spine next : Spine} {event : Event}
    (consumes : Consumes grammar pending spine event next) :
    next.leaves = spine.leaves ++ [(pending.token, pending.col)] := by
  cases consumes with
  | shift _ _ => simp [Spine.leaves, Spine.leavesOf, OpenNode.add, Shape.leavesOf, Shape.leaves]

theorem Settles.leaves {pending : Pending} {spine final : Spine} {events : List Event}
    {result : Except (Failure ParseError) Unit}
    (settles : Settles grammar maxDepth pending spine events final result)
    (succeeded : result = .ok ()) :
    final.leaves = spine.leaves ++ [(pending.token, pending.col)] := by
  induction settles with
  | onward advances _ ih => rw [ih succeeded, advances.leaves]
  | consumed consumes => exact consumes.leaves
  | refused _ => cases succeeded

theorem Collapses.leaves {spine final : Spine} {events : List Event}
    (collapses : Collapses grammar spine events final) : final.leaves = spine.leaves := by
  induction collapses with
  | complete => rfl
  | pop _ _ _ ih => rw [ih, Spine.leaves_close]
  | pause _ _ => rfl

theorem Fed.leaves {token : Token} {col : Nat} {spine final : Spine} {events : List Event}
    (fed : Fed grammar maxDepth token col spine events final (.ok ())) :
    final.leaves = spine.leaves ++ [(token, col)] := by
  cases fed with
  | taken _ settles collapses => rw [collapses.leaves, settles.leaves rfl]

theorem Standing.unique {node : OpenNode} {automaton other : Automaton} {state again : State}
    {table same : DenseTable} (first : Standing grammar node automaton state table)
    (second : Standing grammar node other again same) : state = again ∧ table = same := by
  obtain rfl := Option.some.inj (first.found.symm.trans second.found)
  exact ⟨Option.some.inj (first.stateFound.symm.trans second.stateFound),
    Option.some.inj (first.tableFound.symm.trans second.tableFound)⟩

theorem Collapses.unique {spine final other : Spine} {events others : List Event}
    (first : Collapses grammar spine events final)
    (second : Collapses grammar spine others other) : events = others ∧ final = other := by
  induction first generalizing others with
  | complete =>
      cases second
      exact ⟨rfl, rfl⟩
  | pop standing only _ ih =>
      cases second with
      | pop _ _ collapses =>
          obtain ⟨rfl, rfl⟩ := ih collapses
          exact ⟨rfl, rfl⟩
      | pause again more =>
          obtain ⟨rfl, rfl⟩ := standing.unique again
          cases only.symm.trans more
  | pause standing more =>
      cases second with
      | pop again only _ =>
          obtain ⟨rfl, rfl⟩ := standing.unique again
          cases only.symm.trans more
      | pause _ _ => exact ⟨rfl, rfl⟩

theorem Fed.unique {token : Token} {col : Nat} {spine final other : Spine}
    {events others : List Event} {result otherResult : Except (Failure ParseError) Unit}
    (first : Fed grammar maxDepth token col spine events final result)
    (second : Fed grammar maxDepth token col spine others other otherResult) :
    events = others ∧ final = other ∧ result = otherResult := by
  cases first with
  | unclassified missing =>
      cases second with
      | unclassified _ => exact ⟨rfl, rfl, rfl⟩
      | refused classified _ => cases missing.symm.trans classified
      | taken classified _ _ => cases missing.symm.trans classified
  | refused classified settles =>
      cases second with
      | unclassified missing => cases missing.symm.trans classified
      | refused again settlesAgain =>
          obtain rfl := Option.some.inj (classified.symm.trans again)
          obtain ⟨rfl, rfl, same⟩ := settles.unique settlesAgain
          exact ⟨rfl, rfl, same⟩
      | taken again settlesAgain _ =>
          obtain rfl := Option.some.inj (classified.symm.trans again)
          cases (settles.unique settlesAgain).2.2
  | taken classified settles collapses =>
      cases second with
      | unclassified missing => cases missing.symm.trans classified
      | refused again settlesAgain =>
          obtain rfl := Option.some.inj (classified.symm.trans again)
          cases (settles.unique settlesAgain).2.2
      | taken again settlesAgain collapsesAgain =>
          obtain rfl := Option.some.inj (classified.symm.trans again)
          obtain ⟨rfl, rfl, _⟩ := settles.unique settlesAgain
          obtain ⟨rfl, rfl⟩ := collapses.unique collapsesAgain
          exact ⟨rfl, rfl, rfl⟩

theorem exists_fed {top : OpenNode} {outer : List OpenNode}
    (sound : Sound grammar.grammar root (.opened top outer)) (maxDepth : Option Nat)
    (token : Token) (col : Nat) : ∃ events final result,
      Fed grammar maxDepth token col (.opened top outer) events final result ∧
        run grammar maxDepth (Spine.opened top outer).frames (Spine.opened top outer).tree token
            col = { frames := final.frames, tree := final.tree, trail := events.toArray, result } := by
  unfold run
  cases classified : grammar.grammar.classify token with
  | none => exact ⟨_, _, _, .unclassified classified, rfl⟩
  | some label =>
      have within : SettlesWithin grammar maxDepth ⟨token, col, label⟩
          ((Spine.opened top outer).frames.length + grammar.grammar.automata.size + 1)
          (.opened top outer) := settlesWithin sound (by simp [Spine.frames_opened])
      obtain ⟨moves, middle, result, settles, settled⟩ := within #[.classify token label]
      dsimp only
      rw [settled]
      cases result with
      | error failure => exact ⟨_, _, _, .refused classified settles, by simp⟩
      | ok =>
          obtain ⟨closings, final, collapses, collapsed⟩ := exists_collapses
            (settles.sound classified sound) (#[Event.classify token label] ++ moves)
          refine ⟨_, _, _, .taken classified settles collapses, ?_⟩
          dsimp only
          rw [collapsed]
          simp

end Feeding

end Parser

end TransitionNetwork
