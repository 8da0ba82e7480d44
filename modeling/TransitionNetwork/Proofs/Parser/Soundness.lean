import TransitionNetwork.Proofs.Parser.Runs

/-!
# Soundness of parsing

A parser is fed a whole input and finishes. Whatever tree it returns is a derivation over the arcs
from the chosen start symbol, and its leaves are the input.
-/

set_option autoImplicit false

namespace TransitionNetwork

namespace Spine

def parser (spine : Spine) (grammar : AcceleratedGrammar) (maxDepth : Option Nat) : Parser :=
  { grammar, frames := spine.frames, tree := spine.tree, maxDepth, poisoned := false }

/-- A start symbol without children. -/
def start (symbol : NonterminalId) (automaton : Automaton) : Spine :=
  .opened ⟨symbol, automaton.initial, 0, 0, []⟩ []

def stack : Spine → List OpenNode
  | .closed _ => []
  | .opened top outer => top :: outer

end Spine

namespace Parser

open Grammar

/-- Feeds tokens with their columns, up to the first that is refused. -/
def feedEach (parser : Parser) : List (Token × Nat) → Except (Failure ParseError) Parser
  | [] => .ok parser
  | (token, col) :: rest =>
      match parser.feed token col with
      | (next, ⟨_, .ok ()⟩) => next.feedEach rest
      | (_, ⟨_, .error failure⟩) => .error failure

/-- The tree of a whole input. -/
def treeOf (parser : Parser) (input : List (Token × Nat)) : Except (Failure ParseError) Tree :=
  match parser.feedEach input with
  | .ok last => last.finish.result
  | .error failure => .error failure

/-- The nonterminal that a choice of start symbol stands for. -/
def Selects (grammar : Grammar) (start : Option StartSymbol) (symbol : NonterminalId) : Prop :=
  match start with
  | none => symbol = grammar.start
  | some (.number id) => symbol = id
  | some (.name name) => ∃ automaton, grammar.automatonNamed? name = some automaton ∧
      grammar.automaton? symbol = some automaton

/-! ## New parsers -/

theorem exists_number_of_named {grammar : Grammar} (closed : grammar.Closed) {name : String}
    {automaton : Automaton} (named : grammar.automatonNamed? name = some automaton) :
    grammar.automaton? automaton.id = some automaton := by
  obtain ⟨position, small, rfl⟩ := Array.mem_iff_getElem.mp (Array.mem_of_find?_eq_some named)
  have found : grammar.automaton? (.ofIndex position) = some grammar.automata[position] := by
    rw [automaton?_ofIndex closed small, Array.getElem?_eq_getElem small]
  rwa [closed.number found]

theorem exists_start_of_new {network : Network} {options : Options} {parser : Parser}
    (made : Parser.new network options = .ok parser) :
    ∃ (grammar : AcceleratedGrammar) (symbol : NonterminalId) (automaton : Automaton),
      network = .accelerated grammar ∧ Selects grammar.grammar options.start symbol ∧
      grammar.grammar.automaton? symbol = some automaton ∧
      parser = (Spine.start symbol automaton).parser grammar options.maxDepth := by
  cases network with
  | plain grammar => cases made
  | accelerated grammar =>
      have closed := grammar.closed
      suffices selected : ∀ automaton,
          (startAutomaton grammar.grammar options.start).1 = some automaton →
          Selects grammar.grammar options.start automaton.id ∧
            grammar.grammar.automaton? automaton.id = some automaton by
        simp only [Parser.new] at made
        split at made
        next => cases made
        next automaton text chosen =>
          obtain ⟨selects, found⟩ := selected automaton (by rw [chosen])
          refine ⟨grammar, automaton.id, automaton, rfl, selects, found, ?_⟩
          cases made
          rfl
      intro automaton chosen
      cases given : options.start with
      | none =>
          rw [given] at chosen
          have number := closed.number chosen
          exact ⟨number, number ▸ chosen⟩
      | some start =>
          rw [given] at chosen
          cases start with
          | number id =>
              have number := closed.number chosen
              exact ⟨number, number ▸ chosen⟩
          | name name =>
              have found := exists_number_of_named closed chosen
              exact ⟨⟨automaton, chosen, found⟩, found⟩

theorem sound_start {grammar : Grammar} {symbol : NonterminalId} {automaton : Automaton}
    (found : grammar.automaton? symbol = some automaton) :
    Sound grammar symbol (.start symbol automaton) :=
  .opened (.node found .done (by simp) .root)

section Inputs

variable {grammar : AcceleratedGrammar} {maxDepth : Option Nat} {root : NonterminalId}

/-! ## Feeding -/

/-- A token that is taken leads to another spine; a refused one stops the parser. -/
theorem feed_cases {top : OpenNode} {outer : List OpenNode}
    (sound : Sound grammar.grammar root (.opened top outer)) (maxDepth : Option Nat)
    (token : Token) (col : Nat) :
    (∃ events final, Fed grammar maxDepth token col (.opened top outer) events final (.ok ()) ∧
      ((Spine.opened top outer).parser grammar maxDepth).feed token col =
        (final.parser grammar maxDepth, { events, result := .ok () })) ∨
    ∃ events final failure,
      Fed grammar maxDepth token col (.opened top outer) events final (.error failure) ∧
        ((Spine.opened top outer).parser grammar maxDepth).feed token col =
          ({ final.parser grammar maxDepth with poisoned := true },
            { events := events ++ failureEvents failure, result := .error failure }) := by
  obtain ⟨events, final, result, fed, ran⟩ := exists_fed sound maxDepth token col
  have running : ((Spine.opened top outer).parser grammar maxDepth).idleReason? = none := rfl
  simp only [feed, running]
  simp only [Spine.parser, ran]
  cases result with
  | ok => exact .inl ⟨events, final, fed, rfl⟩
  | error failure => exact .inr ⟨events, final, failure, fed, rfl⟩

/-- How feeding ends on a spine: a failure is reported and stops the parser. -/
def ended (grammar : AcceleratedGrammar) (maxDepth : Option Nat) (events : List Event)
    (final : Spine) (result : Except (Failure ParseError) Unit) : Parser × Outcome Unit :=
  match result with
  | .ok () => (final.parser grammar maxDepth, { events, result := .ok () })
  | .error failure => ({ final.parser grammar maxDepth with poisoned := true },
      { events := events ++ failureEvents failure, result := .error failure })

theorem frames_ended (events : List Event) (final : Spine)
    (result : Except (Failure ParseError) Unit) :
    (ended grammar maxDepth events final result).1.frames = final.frames := by
  cases result <;> rfl

theorem tree_ended (events : List Event) (final : Spine)
    (result : Except (Failure ParseError) Unit) :
    (ended grammar maxDepth events final result).1.tree = final.tree := by
  cases result <;> rfl

theorem feed_of_fed {top : OpenNode} {outer : List OpenNode} {token : Token} {col : Nat}
    {events : List Event} {final : Spine} {result : Except (Failure ParseError) Unit}
    (sound : Sound grammar.grammar root (.opened top outer))
    (fed : Fed grammar maxDepth token col (.opened top outer) events final result) :
    ((Spine.opened top outer).parser grammar maxDepth).feed token col =
      ended grammar maxDepth events final result := by
  rcases feed_cases sound maxDepth token col with
    ⟨_, _, again, stepped⟩ | ⟨_, _, _, again, stepped⟩
  · obtain ⟨rfl, rfl, rfl⟩ := fed.unique again
    exact stepped
  · obtain ⟨rfl, rfl, rfl⟩ := fed.unique again
    exact stepped

/-- All tokens of an input are taken one after the other. -/
inductive Feeds (grammar : AcceleratedGrammar) (maxDepth : Option Nat) :
    Spine → List (Token × Nat) → Spine → Prop where
  | done {spine : Spine} : Feeds grammar maxDepth spine [] spine
  | step {spine next final : Spine} {events : List Event} {token : Token} {col : Nat}
      {rest : List (Token × Nat)} : Fed grammar maxDepth token col spine events next (.ok ()) →
      Feeds grammar maxDepth next rest final →
      Feeds grammar maxDepth spine ((token, col) :: rest) final

theorem exists_feeds {spine : Spine} {input : List (Token × Nat)} {last : Parser}
    (sound : Sound grammar.grammar root spine)
    (taken : (spine.parser grammar maxDepth).feedEach input = .ok last) :
    ∃ final : Spine, Feeds grammar maxDepth spine input final ∧
      last = final.parser grammar maxDepth := by
  induction input generalizing spine with
  | nil => exact ⟨spine, .done, (Except.ok.inj taken).symm⟩
  | cons first rest ih =>
      obtain ⟨token, col⟩ := first
      cases spine with
      | closed shape => cases taken
      | opened top outer =>
          rcases feed_cases sound maxDepth token col with
            ⟨events, next, fed, stepped⟩ | ⟨events, next, failure, fed, stepped⟩
          · simp only [feedEach, stepped] at taken
            obtain ⟨final, feeds, stands⟩ := ih (fed.sound sound) taken
            exact ⟨final, .step fed feeds, stands⟩
          · simp [feedEach, stepped] at taken

theorem Feeds.sound {spine final : Spine} {input : List (Token × Nat)}
    (feeds : Feeds grammar maxDepth spine input final)
    (sound : Sound grammar.grammar root spine) : Sound grammar.grammar root final := by
  induction feeds with
  | done => exact sound
  | step fed _ ih => exact ih (fed.sound sound)

theorem Feeds.leaves {spine final : Spine} {input : List (Token × Nat)}
    (feeds : Feeds grammar maxDepth spine input final) :
    final.leaves = spine.leaves ++ input := by
  induction feeds with
  | done => simp
  | step fed _ ih => simp [ih, fed.leaves]

/-! ## Finishing -/

def MayClose (grammar : Grammar) (node : OpenNode) : Prop :=
  ∃ automaton, grammar.automaton? node.symbol = some automaton ∧
    MayEnd grammar automaton node.state

theorem close_eq_ok_iff {below : List Shape} {stack : List OpenNode}
    (threaded : Threaded grammar.grammar root below stack) (trail : Array Event) :
    (close grammar (Spine.framesOf stack) trail).2 = .ok () ↔
      ∀ node ∈ stack, MayClose grammar.grammar node := by
  induction threaded generalizing trail with
  | root => simp [Spine.framesOf, close]
  | @node below node outer automaton found path derived outward ih =>
      obtain ⟨automaton, state, table, standing⟩ :=
        (Threaded.node found path derived outward).standing
      have closes : MayClose grammar.grammar node ↔ table.accept = true := by
        rw [standing.accept_iff]
        constructor
        · rintro ⟨same, sameFound, ends⟩
          obtain rfl := Option.some.inj (sameFound.symm.trans standing.found)
          exact ends
        · intro ends
          exact ⟨automaton, standing.found, ends⟩
      simp only [Spine.framesOf, close, standing.look, List.forall_mem_cons, closes]
      cases table.accept with
      | false => simp
      | true => simpa using ih _

theorem finish_eq_ok_iff {spine : Spine} {tree : Tree} (sound : Sound grammar.grammar root spine) :
    (spine.parser grammar maxDepth).finish.result = .ok tree ↔
      (∀ node ∈ spine.stack, MayClose grammar.grammar node) ∧ spine.tree = tree := by
  cases sound with
  | closed _ _ => simp [finish, Spine.parser, Spine.frames, Spine.stack]
  | @opened top outer threaded =>
      have closes := close_eq_ok_iff threaded #[]
      simp only [Spine.stack, ← closes]
      simp only [finish, Spine.parser, Spine.frames, Spine.framesOf]
      cases (close grammar (⟨top.symbol, top.state, Spine.extent outer⟩ :: Spine.framesOf outer)
        #[]).2 <;> simp [Except.map]

/-- Where all open nonterminals may end, they are closed from the inside out. What each of these
steps keeps holds of the finished root. -/
theorem Sound.closeAll {motive : Spine → Prop} {spine : Spine}
    (sound : Sound grammar.grammar root spine)
    (closes : ∀ node ∈ spine.stack, MayClose grammar.grammar node)
    (kept : ∀ top outer, Threaded grammar.grammar root [] (top :: outer) →
      MayClose grammar.grammar top → motive (.opened top outer) → motive (.close top outer))
    (holds : motive spine) :
    Sound grammar.grammar root (.closed spine.shape) ∧ motive (.closed spine.shape) := by
  cases spine with
  | closed shape => exact ⟨sound, holds⟩
  | opened top outer =>
      induction outer generalizing top with
      | nil =>
          cases sound with
          | opened threaded =>
              obtain ⟨_, found, ends⟩ := closes top (.head _)
              exact ⟨threaded.close (threaded.derives found ends),
                kept top [] threaded ⟨_, found, ends⟩ holds⟩
      | cons next outer ih =>
          cases sound with
          | opened threaded =>
              obtain ⟨_, found, ends⟩ := closes top (.head _)
              refine ih (next.add top.shape) (threaded.close (threaded.derives found ends)) ?_
                (kept top (next :: outer) threaded ⟨_, found, ends⟩ holds)
              -- The parent has one more child, but is in the same state.
              intro node among
              rcases List.mem_cons.mp among with rfl | beyond
              · exact closes next (.tail _ (.head _))
              · exact closes node (.tail _ (.tail _ beyond))

theorem Sound.closed_inversion {shape : Shape}
    (sound : Sound grammar.grammar root (.closed shape)) :
    Derives grammar.grammar shape ∧ ∃ children, shape = .interior root 0 0 children := by
  cases sound with
  | closed derived threaded =>
      cases threaded
      exact ⟨derived, _, rfl⟩

theorem exists_feeds_of_treeOf {spine : Spine} {input : List (Token × Nat)} {tree : Tree}
    (sound : Sound grammar.grammar root spine)
    (parsed : (spine.parser grammar maxDepth).treeOf input = .ok tree) :
    ∃ final : Spine, Feeds grammar maxDepth spine input final ∧
      (∀ node ∈ final.stack, MayClose grammar.grammar node) ∧ final.tree = tree := by
  unfold treeOf at parsed
  cases taken : (spine.parser grammar maxDepth).feedEach input with
  | error failure =>
      rw [taken] at parsed
      cases parsed
  | ok last =>
      rw [taken] at parsed
      obtain ⟨final, feeds, rfl⟩ := exists_feeds sound taken
      exact ⟨final, feeds, (finish_eq_ok_iff (feeds.sound sound)).mp parsed⟩

end Inputs

/-! ## Main statement -/

/-- Parsing is sound. For every network, every start symbol and every limit with which a parser can
be made: a tree that it returns for an input has the start symbol at its root, is a derivation over
the arcs as they are written, and has exactly the tokens of the input as leaves, in order and with
their columns. -/
theorem treeOf_sound {network : Network} {options : Options} {parser : Parser}
    {input : List (Token × Nat)} {tree : Tree} (made : Parser.new network options = .ok parser)
    (parsed : parser.treeOf input = .ok tree) :
    ∃ (symbol : NonterminalId) (children : List Shape),
      Selects network.grammar options.start symbol ∧
      tree.shape? = some (.interior symbol 0 0 children) ∧
      Derives network.grammar (.interior symbol 0 0 children) ∧
      Shape.leavesOf children = input := by
  obtain ⟨grammar, symbol, automaton, rfl, selects, found, rfl⟩ := exists_start_of_new made
  have sound := sound_start found
  obtain ⟨final, feeds, closes, rfl⟩ := exists_feeds_of_treeOf sound parsed
  have finished := (feeds.sound sound).closeAll (motive := fun _ => True) closes
    (by simp) trivial
  obtain ⟨derived, children, whole⟩ := finished.1.closed_inversion
  have leaves : final.shape.leaves = input := by
    rw [Spine.leaves_shape, feeds.leaves]
    rfl
  rw [whole] at derived leaves
  exact ⟨symbol, children, selects, by rw [Spine.shape?_tree, whole], derived, leaves⟩

def listGrammar : AcceleratedGrammar where
  grammar := nestedLists
  tables := nestedLists.compile.toOption.getD #[]
  compiled := by cbv

/-- Two names in parentheses, on two lines. -/
def listInput : List (Token × Nat) :=
  [(⟨.leftParen, "(", 1⟩, 0), (⟨.name, "a", 1⟩, 1), (⟨.name, "b", 1⟩, 3), (⟨.rightParen, ")", 2⟩, 0)]

/-- A parser of nested lists, for one item. -/
def itemParser (maxDepth : Option Nat) : Parser where
  grammar := listGrammar
  frames := [⟨⟨257⟩, 0, Tree.root⟩]
  tree := Tree.single ⟨257⟩ 0 0
  maxDepth
  poisoned := false

/-- Two names in parentheses are derived from an item. -/
theorem treeOf_sound_item :
    ∃ (tree : Tree) (children : List Shape),
      Parser.new (.accelerated listGrammar) ⟨some (.name "item"), some 3⟩ =
        .ok (itemParser (some 3)) ∧
      (itemParser (some 3)).treeOf listInput = .ok tree ∧
      tree.shape? = some (.interior ⟨257⟩ 0 0 children) ∧
      Derives nestedLists (.interior ⟨257⟩ 0 0 children) ∧
      Shape.leavesOf children = listInput := by
  have made : Parser.new (.accelerated listGrammar) ⟨some (.name "item"), some 3⟩ =
      .ok (itemParser (some 3)) := rfl
  obtain ⟨tree, parsed⟩ : ∃ tree, (itemParser (some 3)).treeOf listInput = .ok tree := ⟨_, by cbv⟩
  obtain ⟨symbol, children, ⟨automaton, named, found⟩, shape, derived, leaves⟩ :=
    treeOf_sound made parsed
  obtain rfl : automaton.id = symbol := listGrammar.closed.number found
  cases named
  exact ⟨tree, children, made, parsed, shape, derived, leaves⟩

end Parser

end TransitionNetwork
