import TransitionNetwork.Proofs.Grammar.Greedy
import TransitionNetwork.Proofs.Parser.Soundness

/-!
# Exactness of parsing

Without a limit, a parser takes exactly the inputs that have a greedy derivation from its start
symbol, and its tree is the only one. In one direction the finished children of open nonterminals
stay greedy, whatever the moves are. In the other a greedy derivation is a plan for the moves: what
is still to come for each open nonterminal decides every look-up, so no token is refused.
-/

set_option autoImplicit false

namespace TransitionNetwork

namespace Parser

open Grammar Shape

/-! ## Trees are greedy -/

/-- The finished children of open nonterminals are greedy, when some tokens are still to come. -/
def Steady (grammar : AcceleratedGrammar) : List (Token × Nat) → List OpenNode → Prop
  | _, [] => True
  | following, node :: outer =>
      GreedyAll grammar following node.done ∧
        Steady grammar (leavesOf node.done ++ following) outer

/-- Between two tokens, every nonterminal below the root has a leaf. -/
inductive GreedySpine (grammar : AcceleratedGrammar) (following : List (Token × Nat)) :
    Spine → Prop where
  | closed {symbol : NonterminalId} {line col : Nat} {children : List Shape} :
      GreedyAll grammar following children →
      GreedySpine grammar following (.closed (.interior symbol line col children))
  | opened {top : OpenNode} {outer : List OpenNode} :
      Steady grammar following (top :: outer) → (outer ≠ [] → leavesOf top.done ≠ []) →
      GreedySpine grammar following (.opened top outer)

/-- While a token is pending, the innermost nonterminal may have no leaf yet, if it was opened for
the token. -/
inductive Poised (grammar : AcceleratedGrammar) (pending : Pending) (rest : List (Token × Nat)) :
    Spine → Prop where
  | closed {shape : Shape} : Poised grammar pending rest (.closed shape)
  | opened {top : OpenNode} {outer : List OpenNode} :
      Steady grammar ((pending.token, pending.col) :: rest) (top :: outer) →
      (outer ≠ [] → leavesOf top.done ≠ [] ∨ Opening grammar pending.label top []) →
      Poised grammar pending rest (.opened top outer)

section Greediness

variable {grammar : AcceleratedGrammar} {maxDepth : Option Nat} {root : NonterminalId}
  {pending : Pending} {rest following : List (Token × Nat)}

theorem GreedySpine.close {top : OpenNode} {outer : List OpenNode} {automaton : Automaton}
    (threaded : Threaded grammar.grammar root [] (top :: outer))
    (steady : Steady grammar following (top :: outer))
    (found : grammar.grammar.automaton? top.symbol = some automaton)
    (ends : MayEnd grammar.grammar automaton top.state)
    (halts : outer ≠ [] → leavesOf top.done ≠ [] ∧ Halts grammar top.symbol top.state following) :
    GreedySpine grammar following (.close top outer) := by
  cases outer with
  | nil => exact .closed steady.1
  | cons next outer =>
      obtain ⟨filled, stops⟩ := halts (by simp)
      obtain ⟨same, sameFound, path, _, _⟩ := threaded.inversion
      obtain rfl := Option.some.inj (sameFound.symm.trans found)
      rw [List.append_nil] at path
      have greedy : Greedy grammar following top.shape :=
        .interior found path ends filled stops steady.1
      obtain ⟨inner, beside, beyond⟩ := steady
      refine .opened ⟨?_, ?_⟩ ?_
      · exact greedyAll_snoc_iff.mpr ⟨beside, greedy⟩
      · simpa [OpenNode.add, OpenNode.shape, leavesOf, Shape.leaves] using beyond
      · simp [OpenNode.add, OpenNode.shape, leavesOf, Shape.leaves, filled]

theorem GreedySpine.poised {spine : Spine}
    (greedy : GreedySpine grammar ((pending.token, pending.col) :: rest) spine) :
    Poised grammar pending rest spine := by
  cases greedy with
  | closed _ => exact .closed
  | opened steady filled => exact .opened steady fun inside => .inl (filled inside)

theorem Advances.poised {spine next : Spine} {event : Event}
    (advances : Advances grammar maxDepth pending spine event next)
    (classified : grammar.grammar.classify pending.token = some pending.label)
    (sound : Sound grammar.grammar root spine) (poised : Poised grammar pending rest spine) :
    Poised grammar pending rest next := by
  cases poised with
  | closed => cases advances
  | @opened top outer steady filled =>
      cases advances with
      | push tableFound answer innerFound _ =>
          refine .opened ⟨greedyAll_nil, by simpa [leavesOf, Steady] using steady⟩ ?_
          intro _
          exact .inr (.of_push sound tableFound answer innerFound)
      | retry tableFound answer accepts =>
          cases sound with
          | opened threaded =>
              obtain ⟨automaton, state, table, standing⟩ := threaded.standing
              obtain rfl := Option.some.inj (tableFound.symm.trans standing.tableFound)
              have ends := standing.accept_iff.mp accepts
              refine (GreedySpine.close threaded steady standing.found ends ?_).poised
              intro inside
              refine ⟨?_, ?_⟩
              · rcases filled inside with nonempty | opening
                · exact nonempty
                -- What was opened for the token goes on with it, so it is not closed here.
                · obtain ⟨transition, found⟩ := opening.lookup tableFound
                  rw [answer] at found
                  cases found
              · intro token col after label table upcoming again foundAgain
                cases upcoming
                obtain rfl := Option.some.inj (again.symm.trans classified)
                obtain rfl := Option.some.inj (foundAgain.symm.trans tableFound)
                exact answer

theorem Consumes.greedy {spine next : Spine} {event : Event}
    (consumes : Consumes grammar pending spine event next)
    (poised : Poised grammar pending rest spine) : GreedySpine grammar rest next := by
  cases poised with
  | closed => cases consumes
  | opened steady _ =>
      cases consumes with
      | shift _ _ =>
          refine .opened ⟨?_, ?_⟩ ?_
          · exact greedyAll_snoc_iff.mpr ⟨by simpa [Shape.leaves] using steady.1, .leaf⟩
          · simpa [OpenNode.add, leavesOf, Shape.leaves] using steady.2
          · simp [OpenNode.add, leavesOf, Shape.leaves]

theorem Settles.greedy {spine final : Spine} {events : List Event}
    {result : Except (Failure ParseError) Unit}
    (settles : Settles grammar maxDepth pending spine events final result)
    (classified : grammar.grammar.classify pending.token = some pending.label)
    (sound : Sound grammar.grammar root spine) (poised : Poised grammar pending rest spine)
    (succeeded : result = .ok ()) : GreedySpine grammar rest final := by
  induction settles with
  | onward advances _ ih =>
      exact ih (advances.sound sound) (advances.poised classified sound poised) succeeded
  | consumed consumes => exact consumes.greedy poised
  | refused _ => cases succeeded

theorem Collapses.greedy {spine final : Spine} {events : List Event}
    (collapses : Collapses grammar spine events final) (sound : Sound grammar.grammar root spine)
    (greedy : GreedySpine grammar following spine) : GreedySpine grammar following final := by
  induction collapses with
  | complete => exact greedy
  | pause _ _ => exact greedy
  | pop standing only _ ih =>
      cases sound with
      | opened threaded =>
          obtain ⟨ends, stuck⟩ := standing.acceptOnly only
          refine ih (threaded.close (threaded.derives standing.found ends)) ?_
          cases greedy with
          | opened steady filled =>
              refine .close threaded steady standing.found ends ?_
              intro inside
              refine ⟨filled inside, ?_⟩
              intro _ _ _ label table _ _ found
              obtain rfl := Option.some.inj (found.symm.trans standing.tableFound)
              exact stuck label

theorem Feeds.greedy {spine final : Spine} {input : List (Token × Nat)}
    (feeds : Feeds grammar maxDepth spine input final) (sound : Sound grammar.grammar root spine)
    (greedy : GreedySpine grammar (input ++ rest) spine) : GreedySpine grammar rest final := by
  induction feeds with
  | done => exact greedy
  | step fed _ ih =>
      refine ih (fed.sound sound) ?_
      cases fed with
      | taken classified settles collapses =>
          have consumed := settles.greedy classified sound greedy.poised rfl
          exact collapses.greedy (settles.sound classified sound) consumed

theorem GreedySpine.finish {spine : Spine} (greedy : GreedySpine grammar [] spine)
    (sound : Sound grammar.grammar root spine)
    (closes : ∀ node ∈ spine.stack, MayClose grammar.grammar node) :
    GreedyFrom grammar root spine.shape := by
  have finished := sound.closeAll (motive := GreedySpine grammar []) closes ?_ greedy
  · obtain ⟨derived, children, whole⟩ := finished.1.closed_inversion
    rw [whole] at finished derived ⊢
    cases derived with
    | interior found path ends _ =>
        cases finished.2 with
        | closed among => exact .root found path ends among
  · intro top outer threaded ⟨_, found, ends⟩ holds
    cases holds with
    | opened steady filled =>
        exact .close threaded steady found ends fun inside => ⟨filled inside, halts_nil⟩

end Greediness

/-! ## Greedy derivations are found -/

/-- What is still to come for open nonterminals, from the innermost out to the root, so that the
root becomes the target. `below` is the one that is open below the innermost. -/
inductive Planned (grammar : AcceleratedGrammar) (target : Shape) :
    List Shape → List (Token × Nat) → List OpenNode → Prop where
  | root {shape : Shape} : shape.bare = target.bare → Planned grammar target [shape] [] []
  | node {below todo : List Shape} {node : OpenNode} {outer : List OpenNode}
      {automaton : Automaton} {final : StateId} {after : List (Token × Nat)} :
      grammar.grammar.automaton? node.symbol = some automaton →
      Path grammar.grammar automaton node.state todo final →
      MayEnd grammar.grammar automaton final →
      (outer ≠ [] → Halts grammar node.symbol final after) → GreedyAll grammar after todo →
      Planned grammar target
        [.interior node.symbol node.line node.col (node.done ++ below ++ todo)] after outer →
      Planned grammar target below (leavesOf todo ++ after) (node :: outer)

/-- A spine from which the tokens to come lead to the target. -/
def Follows (grammar : AcceleratedGrammar) (target : Shape) (upcoming : List (Token × Nat)) :
    Spine → Prop
  | .closed shape => Planned grammar target [shape] upcoming []
  | .opened top outer => Planned grammar target [] upcoming (top :: outer)

/-- What the answer of the innermost nonterminal to the next token has to lead to. -/
def Expected (grammar : AcceleratedGrammar) (target : Shape) (token : Token) (col : Nat)
    (rest : List (Token × Nat)) (top : OpenNode) (outer : List OpenNode) (accept : Bool) :
    Option Transition → Prop
  | none => accept = true ∧ Follows grammar target ((token, col) :: rest) (.close top outer)
  | some (.shift next) =>
      Planned grammar target [] rest ({ top.add (.leaf token col) with state := next } :: outer)
  | some (.push inner next) => ∀ child, grammar.grammar.automaton? inner = some child →
      Planned grammar target [] ((token, col) :: rest)
        (⟨inner, child.initial, token.line, col, []⟩ :: { top with state := next } :: outer)

section Completeness

variable {grammar : AcceleratedGrammar} {target : Shape} {root : NonterminalId}

theorem Planned.inversion {below : List Shape} {upcoming : List (Token × Nat)} {node : OpenNode}
    {outer : List OpenNode} (planned : Planned grammar target below upcoming (node :: outer)) :
    ∃ automaton todo final after, upcoming = leavesOf todo ++ after ∧
      grammar.grammar.automaton? node.symbol = some automaton ∧
      Path grammar.grammar automaton node.state todo final ∧
      MayEnd grammar.grammar automaton final ∧
      (outer ≠ [] → Halts grammar node.symbol final after) ∧ GreedyAll grammar after todo ∧
      Planned grammar target
        [.interior node.symbol node.line node.col (node.done ++ below ++ todo)] after outer := by
  cases planned with
  | node found path ends halts greedy outward =>
      exact ⟨_, _, _, _, rfl, found, path, ends, halts, greedy, outward⟩

theorem Planned.root_inversion {shape : Shape} {upcoming : List (Token × Nat)}
    (planned : Planned grammar target [shape] upcoming []) :
    shape.bare = target.bare ∧ upcoming = [] := by
  cases planned with
  | root same => exact ⟨same, rfl⟩

theorem Planned.bare {shape other : Shape} {upcoming : List (Token × Nat)}
    {stack : List OpenNode} (planned : Planned grammar target [shape] upcoming stack)
    (same : other.bare = shape.bare) : Planned grammar target [other] upcoming stack := by
  induction stack generalizing shape other upcoming with
  | nil =>
      cases planned with
      | root equal => exact .root (same.trans equal)
  | cons node outer ih =>
      obtain ⟨automaton, todo, final, after, rfl, found, path, ends, halts, greedy, outward⟩ :=
        planned.inversion
      refine .node found path ends halts greedy (ih outward ?_)
      simp only [Shape.bare, bareAll_append, bareAll, same]

theorem Planned.follows_close {top : OpenNode} {outer : List OpenNode}
    {upcoming : List (Token × Nat)} (planned : Planned grammar target [top.shape] upcoming outer) :
    Follows grammar target upcoming (.close top outer) := by
  cases outer with
  | nil => exact planned
  | cons next outer =>
      obtain ⟨automaton, todo, final, after, rfl, found, path, ends, halts, greedy, outward⟩ :=
        planned.inversion
      exact .node found path ends halts greedy (by simpa [OpenNode.add] using outward)

/-- The token that comes next decides the look-up of the innermost nonterminal. With nothing left to
do it has no transition and may end; else its next child is the token or begins with it. -/
theorem Planned.expected {top : OpenNode} {outer : List OpenNode} {automaton : Automaton}
    {state : State} {table : DenseTable} {token : Token} {col : Nat} {label : LabelId}
    {rest : List (Token × Nat)}
    (planned : Planned grammar target [] ((token, col) :: rest) (top :: outer))
    (standing : Standing grammar top automaton state table)
    (classified : grammar.grammar.classify token = some label) :
    Expected grammar target token col rest top outer table.accept (table.lookup label) := by
  obtain ⟨same, todo, final, after, upcoming, found, path, ends, halts, greedy, outward⟩ :=
    planned.inversion
  obtain rfl := Option.some.inj (found.symm.trans standing.found)
  cases path with
  | done =>
      simp only [leavesOf, List.nil_append, List.append_nil] at upcoming outward
      subst upcoming
      -- The token is beyond this nonterminal, so this is not the root.
      have inside : outer ≠ [] := by
        intro empty
        subst empty
        cases outward.root_inversion.2
      have silent := halts inside rfl classified standing.tableFound
      rw [silent]
      exact ⟨standing.accept_iff.mpr ends, outward.follows_close⟩
  | @step _ _ same arc child todo stateFound member fits onward =>
      obtain rfl := Option.some.inj (stateFound.symm.trans standing.stateFound)
      obtain ⟨first, others⟩ := greedyAll_cons_iff.mp greedy
      cases child with
      | leaf other position =>
          simp only [leavesOf, Shape.leaves, List.cons_append, List.nil_append, List.cons.injEq,
            Prod.mk.injEq] at upcoming
          obtain ⟨⟨rfl, rfl⟩, rfl⟩ := upcoming
          rw [standing.compiled.lookup_iff.mpr (fits.yields_shift member classified)]
          exact .node found onward ends halts others (by simpa [OpenNode.add] using outward)
      | interior inner line position kids =>
          obtain ⟨head, tail, split⟩ := List.exists_cons_of_ne_nil first.leaves_ne_nil
          have begins : CanBegin grammar.grammar inner label := by
            simp only [leavesOf, split, List.cons_append, List.cons.injEq] at upcoming
            rw [← upcoming.1] at split
            exact first.canBegin split classified
          rw [standing.compiled.lookup_iff.mpr (fits.yields_push member begins)]
          intro automaton innerFound
          rw [upcoming]
          cases first with
          | interior again inside innerEnds _ stops among =>
              obtain rfl := Option.some.inj (again.symm.trans innerFound)
              simp only [leavesOf, Shape.leaves, List.append_assoc]
              refine .node innerFound inside innerEnds (fun _ => stops) among ?_
              refine .node found onward ends halts others (outward.bare ?_)
              simp [Shape.bare, bareAll_append, bareAll]

theorem Advances.follows {pending : Pending} {spine next : Spine} {event : Event}
    {rest : List (Token × Nat)} (advances : Advances grammar none pending spine event next)
    (classified : grammar.grammar.classify pending.token = some pending.label)
    (sound : Sound grammar.grammar root spine)
    (follows : Follows grammar target ((pending.token, pending.col) :: rest) spine) :
    Follows grammar target ((pending.token, pending.col) :: rest) next := by
  cases sound with
  | closed _ _ => cases advances
  | opened threaded =>
      obtain ⟨automaton, state, table, standing⟩ := threaded.standing
      have expected := Planned.expected follows standing classified
      cases advances with
      | push tableFound answer innerFound _ =>
          obtain rfl := Option.some.inj (tableFound.symm.trans standing.tableFound)
          rw [answer] at expected
          exact expected _ innerFound
      | retry tableFound answer _ =>
          obtain rfl := Option.some.inj (tableFound.symm.trans standing.tableFound)
          rw [answer] at expected
          exact expected.2

theorem Consumes.follows {pending : Pending} {spine next : Spine} {event : Event}
    {rest : List (Token × Nat)} (consumes : Consumes grammar pending spine event next)
    (classified : grammar.grammar.classify pending.token = some pending.label)
    (sound : Sound grammar.grammar root spine)
    (follows : Follows grammar target ((pending.token, pending.col) :: rest) spine) :
    Follows grammar target rest next := by
  cases sound with
  | closed _ _ => cases consumes
  | opened threaded =>
      obtain ⟨automaton, state, table, standing⟩ := threaded.standing
      have expected := Planned.expected follows standing classified
      cases consumes with
      | shift tableFound answer =>
          obtain rfl := Option.some.inj (tableFound.symm.trans standing.tableFound)
          rw [answer] at expected
          exact expected

theorem Refuses.not_follows {pending : Pending} {spine : Spine} {cause : ParseError}
    {rest : List (Token × Nat)} (refuses : Refuses grammar none pending spine cause)
    (classified : grammar.grammar.classify pending.token = some pending.label)
    (sound : Sound grammar.grammar root spine) :
    ¬ Follows grammar target ((pending.token, pending.col) :: rest) spine := by
  intro follows
  cases sound with
  | closed _ _ => cases (Planned.root_inversion follows).2
  | opened threaded =>
      obtain ⟨automaton, state, table, standing⟩ := threaded.standing
      have expected := Planned.expected follows standing classified
      cases refuses with
      | limited _ _ limited _ => cases limited
      | rejected tableFound answer accepts =>
          obtain rfl := Option.some.inj (tableFound.symm.trans standing.tableFound)
          rw [answer, accepts] at expected
          cases expected.1

theorem Settles.follows {pending : Pending} {spine final : Spine} {events : List Event}
    {result : Except (Failure ParseError) Unit} {rest : List (Token × Nat)}
    (settles : Settles grammar none pending spine events final result)
    (classified : grammar.grammar.classify pending.token = some pending.label)
    (sound : Sound grammar.grammar root spine)
    (follows : Follows grammar target ((pending.token, pending.col) :: rest) spine) :
    result = .ok () ∧ Follows grammar target rest final := by
  induction settles with
  | onward advances _ ih =>
      exact ih (advances.sound sound) (advances.follows classified sound follows)
  | consumed consumes => exact ⟨rfl, consumes.follows classified sound follows⟩
  | refused refuses => exact absurd follows (refuses.not_follows classified sound)

theorem Planned.acceptOnly {upcoming : List (Token × Nat)} {top : OpenNode}
    {outer : List OpenNode} {automaton : Automaton} {state : State} {table : DenseTable}
    (planned : Planned grammar target [] upcoming (top :: outer))
    (standing : Standing grammar top automaton state table)
    (only : table.isAcceptOnly state = true) :
    Follows grammar target upcoming (.close top outer) := by
  obtain ⟨same, todo, final, after, rfl, found, path, _, _, _, outward⟩ := planned.inversion
  obtain rfl := Option.some.inj (found.symm.trans standing.found)
  cases path with
  | done => exact Planned.follows_close (by simpa [OpenNode.shape, leavesOf] using outward)
  | step stateFound member fits _ =>
      obtain rfl := Option.some.inj (stateFound.symm.trans standing.stateFound)
      cases fits with
      | leaf _ labelled isToken =>
          rw [standing.kind_of_acceptOnly only member labelled] at isToken
          cases isToken
      | interior labelled isNonterminal =>
          rw [standing.kind_of_acceptOnly only member labelled] at isNonterminal
          cases isNonterminal

theorem Collapses.follows {spine final : Spine} {events : List Event}
    {upcoming : List (Token × Nat)} (collapses : Collapses grammar spine events final)
    (follows : Follows grammar target upcoming spine) : Follows grammar target upcoming final := by
  induction collapses with
  | complete => exact follows
  | pause _ _ => exact follows
  | pop standing only _ ih => exact ih (Planned.acceptOnly follows standing only)

theorem Planned.finish {top : OpenNode} {outer : List OpenNode}
    (planned : Planned grammar target [] [] (top :: outer)) :
    MayClose grammar.grammar top ∧ Follows grammar target [] (.close top outer) := by
  obtain ⟨automaton, todo, final, after, upcoming, found, path, ends, _, greedy, outward⟩ :=
    planned.inversion
  obtain ⟨noLeaves, rfl⟩ := List.append_eq_nil_iff.mp upcoming.symm
  obtain rfl := greedy.eq_nil noLeaves
  cases path
  exact ⟨⟨automaton, found, ends⟩, Planned.follows_close (by simpa [OpenNode.shape] using outward)⟩

theorem Planned.classified {below : List Shape} {upcoming : List (Token × Nat)}
    {stack : List OpenNode} (planned : Planned grammar target below upcoming stack) :
    Classified grammar.grammar upcoming := by
  induction planned with
  | root _ => simp [Classified]
  | node _ path _ _ greedy _ ih =>
      intro leaf among
      rcases List.mem_append.mp among with inside | beyond
      · exact greedy.classified path leaf inside
      · exact ih leaf beyond

theorem Follows.finish {spine : Spine} (follows : Follows grammar target [] spine) :
    (∀ node ∈ spine.stack, MayClose grammar.grammar node) ∧ spine.shape.bare = target.bare := by
  cases spine with
  | closed shape => exact ⟨by simp [Spine.stack], (Planned.root_inversion follows).1⟩
  | opened top outer =>
      induction outer generalizing top with
      | nil =>
          obtain ⟨closes, closed⟩ := Planned.finish follows
          exact ⟨by simpa [Spine.stack] using closes, (Planned.root_inversion closed).1⟩
      | cons next outer ih =>
          obtain ⟨closes, closed⟩ := Planned.finish follows
          obtain ⟨others, same⟩ := ih (next.add top.shape) closed
          refine ⟨?_, same⟩
          obtain ⟨parent, beyond⟩ := List.forall_mem_cons.mp others
          exact List.forall_mem_cons.mpr ⟨closes, List.forall_mem_cons.mpr ⟨parent, beyond⟩⟩

theorem Follows.treeOf {spine : Spine} {input : List (Token × Nat)}
    (follows : Follows grammar target input spine) (sound : Sound grammar.grammar root spine) :
    ∃ final : Spine, (spine.parser grammar none).treeOf input = .ok final.tree ∧
      final.shape.bare = target.bare := by
  induction input generalizing spine with
  | nil =>
      obtain ⟨closes, same⟩ := follows.finish
      exact ⟨spine, (finish_eq_ok_iff sound).mpr ⟨closes, rfl⟩, same⟩
  | cons first rest ih =>
      obtain ⟨token, col⟩ := first
      cases spine with
      | closed shape => cases (Planned.root_inversion follows).2
      | opened top outer =>
          obtain ⟨label, labelled⟩ := Planned.classified follows (token, col) (.head _)
          rcases feed_cases sound none token col with
            ⟨events, next, fed, stepped⟩ | ⟨events, next, failure, fed, stepped⟩
          · have kept := fed.sound sound
            cases fed with
            | taken classified settles collapses =>
                have settled := (settles.follows classified sound follows).2
                simp only [Parser.treeOf, feedEach, stepped]
                exact ih (collapses.follows settled) kept
          · cases fed with
            | unclassified missing =>
                rw [labelled] at missing
                cases missing
            | refused classified settles => cases (settles.follows classified sound follows).1

end Completeness

/-! ## Main statement -/

theorem greedy_of_treeOf {grammar : AcceleratedGrammar} {maxDepth : Option Nat}
    {symbol : NonterminalId} {automaton : Automaton} {input : List (Token × Nat)} {tree : Tree}
    (found : grammar.grammar.automaton? symbol = some automaton)
    (parsed : ((Spine.start symbol automaton).parser grammar maxDepth).treeOf input = .ok tree) :
    ∃ shape, tree.shape? = some shape ∧ GreedyFrom grammar symbol shape ∧
      shape.leaves = input := by
  have sound := sound_start found
  obtain ⟨final, feeds, closes, rfl⟩ := exists_feeds_of_treeOf sound parsed
  have initially : GreedySpine grammar (input ++ []) (.start symbol automaton) :=
    .opened ⟨greedyAll_nil, trivial⟩ fun inside => absurd rfl inside
  refine ⟨final.shape, final.shape?_tree, ?_, ?_⟩
  · exact (feeds.greedy sound initially).finish (feeds.sound sound) closes
  · rw [Spine.leaves_shape, feeds.leaves]
    rfl

theorem treeOf_of_greedy {grammar : AcceleratedGrammar} {symbol : NonterminalId}
    {automaton : Automaton} {target : Shape} (greedy : GreedyFrom grammar symbol target)
    (found : grammar.grammar.automaton? symbol = some automaton) :
    ∃ tree shape,
      ((Spine.start symbol automaton).parser grammar none).treeOf target.leaves = .ok tree ∧
        tree.shape? = some shape ∧ shape.bare = target.bare := by
  cases greedy with
  | @root line col children _ _ again path ends among =>
      obtain rfl := Option.some.inj (again.symm.trans found)
      have follows : Follows grammar (.interior symbol line col children) (leavesOf children ++ [])
          (.start symbol _) :=
        .node found path ends (fun inside => absurd rfl inside) among (.root rfl)
      rw [List.append_nil] at follows
      obtain ⟨final, parsed, same⟩ := follows.treeOf (sound_start found)
      exact ⟨final.tree, final.shape, parsed, final.shape?_tree, same⟩

/-- Parsing is exact. Without a limit, a parser takes an input and finishes exactly if the input has
a greedy derivation from the start symbol. The tree is then such a derivation, and every other one
is the same up to the positions of interior nodes. -/
theorem treeOf_exact {grammar : AcceleratedGrammar} {options : Options} {parser : Parser}
    (made : Parser.new (.accelerated grammar) options = .ok parser)
    (unlimited : options.maxDepth = none) (input : List (Token × Nat)) :
    ∃ symbol, Selects grammar.grammar options.start symbol ∧
      ((∃ tree, parser.treeOf input = .ok tree) ↔
        ∃ shape, GreedyFrom grammar symbol shape ∧ shape.leaves = input) ∧
      ∀ tree, parser.treeOf input = .ok tree →
        ∃ shape, tree.shape? = some shape ∧ GreedyFrom grammar symbol shape ∧
          shape.leaves = input ∧
          ∀ other, GreedyFrom grammar symbol other → other.leaves = input →
            other.bare = shape.bare := by
  obtain ⟨_, symbol, automaton, same, selects, found, rfl⟩ := exists_start_of_new made
  cases same
  rw [unlimited]
  refine ⟨symbol, selects, ⟨?_, ?_⟩, ?_⟩
  · intro ⟨tree, parsed⟩
    obtain ⟨shape, _, greedy, leaves⟩ := greedy_of_treeOf found parsed
    exact ⟨shape, greedy, leaves⟩
  · intro ⟨shape, greedy, leaves⟩
    obtain ⟨tree, _, parsed, _, _⟩ := treeOf_of_greedy greedy found
    exact ⟨tree, leaves ▸ parsed⟩
  · intro tree parsed
    obtain ⟨shape, shaped, greedy, leaves⟩ := greedy_of_treeOf found parsed
    refine ⟨shape, shaped, greedy, leaves, ?_⟩
    intro other otherGreedy sameLeaves
    -- The parser has one answer, so it is the tree of the other derivation as well.
    obtain ⟨again, otherShape, parsedAgain, shapedAgain, equal⟩ :=
      treeOf_of_greedy otherGreedy found
    rw [sameLeaves, parsed] at parsedAgain
    cases parsedAgain
    obtain rfl := Option.some.inj (shaped.symm.trans shapedAgain)
    exact equal.symm

/-- Two names in parentheses are one item in exactly one way; without the last parenthesis they are
none. -/
theorem treeOf_exact_item :
    (∃ tree shape, (itemParser none).treeOf listInput = .ok tree ∧ tree.shape? = some shape ∧
      GreedyFrom listGrammar ⟨257⟩ shape ∧ shape.leaves = listInput ∧
      ∀ other, GreedyFrom listGrammar ⟨257⟩ other → other.leaves = listInput →
        other.bare = shape.bare) ∧
    ¬ ∃ shape, GreedyFrom listGrammar ⟨257⟩ shape ∧ shape.leaves = listInput.dropLast := by
  have made : Parser.new (.accelerated listGrammar) ⟨some (.number ⟨257⟩), none⟩ =
      .ok (itemParser none) := rfl
  refine ⟨?_, ?_⟩
  · obtain ⟨tree, parsed⟩ : ∃ tree, (itemParser none).treeOf listInput = .ok tree := ⟨_, by cbv⟩
    obtain ⟨_, rfl, _, exact⟩ := treeOf_exact made rfl listInput
    obtain ⟨shape, shaped, greedy, leaves, unique⟩ := exact tree parsed
    exact ⟨tree, shape, parsed, shaped, greedy, leaves, unique⟩
  · obtain ⟨_, rfl, taken_iff, _⟩ := treeOf_exact made rfl listInput.dropLast
    rw [← taken_iff]
    rintro ⟨tree, parsed⟩
    have refused : ((itemParser none).treeOf listInput.dropLast).toOption = none := by cbv
    rw [parsed] at refused
    cases refused

end Parser

end TransitionNetwork
