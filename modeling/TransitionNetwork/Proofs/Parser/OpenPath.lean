import Mathlib.Data.List.Chain
import TransitionNetwork.Proofs.Parser.Soundness

/-!
# The open path

However a parser came to stand where it stands, by tokens that were taken or refused, it stands on a
sound spine. Hence its frames are the nodes on the rightmost path of its tree, from the root down,
and each frame is in a state that the children of its node lead to. A nonterminal that is open below
counts as a child from the moment it is opened.
-/

set_option autoImplicit false

namespace TransitionNetwork

namespace Tree

def lastChild? (tree : Tree) (id : NodeId) : Option NodeId :=
  tree.nodes[id]?.bind fun node => node.children.back?

/-- At most `count` nodes from a node down, always to the last child. -/
def rightmostFrom (tree : Tree) : Nat → NodeId → List NodeId
  | 0, _ => []
  | count + 1, id =>
      id :: match tree.lastChild? id with
        | some child => tree.rightmostFrom count child
        | none => []

def rightmostPath (tree : Tree) (count : Nat) : List NodeId :=
  tree.rightmostFrom count root

theorem rightmostFrom_of_isChain {tree : Tree} {first : NodeId} {rest : List NodeId}
    (chain : (first :: rest).IsChain fun outer inner => tree.lastChild? outer = some inner) :
    tree.rightmostFrom (rest.length + 1) first = first :: rest := by
  induction rest generalizing first with
  | nil =>
      rw [rightmostFrom]
      cases tree.lastChild? first <;> rfl
  | cons second rest ih =>
      rw [List.isChain_cons_cons] at chain
      rw [rightmostFrom, chain.1, List.length_cons]
      exact congrArg (first :: ·) (ih chain.2)

end Tree

namespace Parser

open Grammar

/-! ## Histories -/

/-- The parser after some tokens were fed, whether they were taken or refused. -/
def afterFeeds (parser : Parser) : List (Token × Nat) → Parser
  | [] => parser
  | (token, col) :: rest => (parser.feed token col).1.afterFeeds rest

/-- What the feeds of some tokens report and return, one after another. -/
def outcomes (parser : Parser) : List (Token × Nat) → List (Outcome Unit)
  | [] => []
  | (token, col) :: rest =>
      (parser.feed token col).2 :: (parser.feed token col).1.outcomes rest

/-- A parser that stands on a sound spine, still running or stopped there by a failure. -/
inductive Reached (grammar : AcceleratedGrammar) (maxDepth : Option Nat) (root : NonterminalId) :
    Parser → Prop where
  | running {spine : Spine} : Sound grammar.grammar root spine →
      Reached grammar maxDepth root (spine.parser grammar maxDepth)
  | stopped {spine : Spine} : Sound grammar.grammar root spine →
      Reached grammar maxDepth root { spine.parser grammar maxDepth with poisoned := true }

section Histories

variable {grammar : AcceleratedGrammar} {maxDepth : Option Nat} {root : NonterminalId}
  {parser : Parser}

theorem Reached.feed (reached : Reached grammar maxDepth root parser) (token : Token) (col : Nat) :
    Reached grammar maxDepth root (parser.feed token col).1 := by
  cases reached with
  | stopped sound => exact .stopped sound
  | @running spine sound =>
      cases spine with
      | closed shape => exact .running sound
      | opened top outer =>
          rcases feed_cases sound maxDepth token col with
            ⟨events, next, fed, stepped⟩ | ⟨events, next, failure, fed, stepped⟩
          · rw [stepped]
            exact .running (fed.sound sound)
          · rw [stepped]
            exact .stopped (fed.sound sound)

theorem Reached.afterFeeds (reached : Reached grammar maxDepth root parser)
    (input : List (Token × Nat)) : Reached grammar maxDepth root (parser.afterFeeds input) := by
  induction input generalizing parser with
  | nil => exact reached
  | cons first rest ih => exact ih (reached.feed first.1 first.2)

theorem feed_of_idle {cause : ParseError} (idle : parser.idleReason? = some cause) (token : Token)
    (col : Nat) :
    parser.feed token col = (parser, { events := [], result := .error (.error cause) }) := by
  simp only [Parser.feed, idle]

/-- A parser that takes no token stays as it is; else a token does what it does to the open
nonterminals. -/
theorem Reached.feed_eq (reached : Reached grammar maxDepth root parser) (token : Token)
    (col : Nat) :
    (∃ cause, parser.idleReason? = some cause) ∨
      ∃ top outer events final result,
        parser = (Spine.opened top outer).parser grammar maxDepth ∧
        Sound grammar.grammar root (.opened top outer) ∧
        Fed grammar maxDepth token col (.opened top outer) events final result ∧
        parser.feed token col = ended grammar maxDepth events final result := by
  cases reached with
  | stopped _ => exact .inl ⟨.poisoned, rfl⟩
  | @running spine sound =>
      cases spine with
      | closed shape => exact .inl ⟨.alreadyComplete, rfl⟩
      | opened top outer =>
          obtain ⟨events, final, result, fed, _⟩ := exists_fed sound maxDepth token col
          exact .inr ⟨top, outer, events, final, result, rfl, sound, fed, feed_of_fed sound fed⟩

theorem Reached.exists_spine (reached : Reached grammar maxDepth root parser) :
    ∃ spine, Sound grammar.grammar root spine ∧ parser.grammar = grammar ∧
      parser.frames = spine.frames ∧ parser.tree = spine.tree := by
  cases reached with
  | running sound => exact ⟨_, sound, rfl, rfl, rfl⟩
  | stopped sound => exact ⟨_, sound, rfl, rfl, rfl⟩

/-- Finishing closes all frames; there may be none. -/
theorem finish_eq_close (spine : Spine) :
    (spine.parser grammar maxDepth).finish.result =
      (close grammar spine.frames #[]).2.map fun _ => spine.tree := by
  cases spine <;> rfl

theorem exists_reached_of_new {network : Network} {options : Options}
    (made : Parser.new network options = .ok parser) :
    ∃ grammar symbol, network = .accelerated grammar ∧
      Selects grammar.grammar options.start symbol ∧
      Reached grammar options.maxDepth symbol parser := by
  obtain ⟨grammar, symbol, automaton, rfl, selects, found, rfl⟩ := exists_start_of_new made
  exact ⟨grammar, symbol, rfl, selects, .running (sound_start found)⟩

end Histories

/-! ## Frames and nodes -/

/-- The node of a frame is interior and has the frame's symbol. All its children, in order, spell a
path over arcs from the initial state to the state of the frame. -/
def Tracks (grammar : Grammar) (tree : Tree) (frame : Frame) : Prop :=
  ∃ automaton children line col shapes, grammar.automaton? frame.nonterminal = some automaton ∧
    tree.nodes[frame.node]? = some (.interior frame.nonterminal children line col) ∧
    children.toList.mapM (tree.shapeAt? tree.size) = some shapes ∧
    Path grammar automaton automaton.initial shapes frame.state

end Parser

namespace Shape

theorem numbers_back? (start : Nat) (shapes : List Shape) (last : Shape) :
    (numbers start (shapes ++ [last])).toArray.back? = some (start + sizeOfAll shapes) := by
  simp [numbers_append, numbers]

end Shape

namespace Spine

open Shape

theorem getElem?_top (top : OpenNode) (outer : List OpenNode) :
    (opened top outer).tree.nodes[extent outer]? =
      some (.interior top.symbol (numbers (extent outer + 1) top.done).toArray top.line
        top.col) := by
  have position : (nodesOf [extent outer] outer).length = extent outer := length_nodesOf _ _
  simp only [tree, nodes, nodesOf, List.append_nil, List.getElem?_toArray]
  rw [List.getElem?_append_right (by omega), position, Nat.sub_self]
  rfl

theorem mapM_top (top : OpenNode) (outer : List OpenNode) :
    (numbers (extent outer + 1) top.done).mapM
      ((opened top outer).tree.shapeAt? (opened top outer).tree.size) = some top.done := by
  have position : (nodesOf [extent outer] outer).length = extent outer := length_nodesOf _ _
  have below := mapM_layoutAll (opened top outer).tree
    (nodesOf [extent outer] outer ++
      [.interior top.symbol (numbers (extent outer + 1) top.done).toArray top.line top.col]) []
    (opened top outer).tree.size top.done
    (by simp [tree, nodes, nodesOf, position]) (by rw [size_tree, extent]; omega)
  simpa [position] using below

theorem root_of_framesOf {stack : List OpenNode} {bottom : Frame}
    (last : (framesOf stack).getLast? = some bottom) : bottom.node = Tree.root := by
  induction stack with
  | nil => cases last
  | cons node outer ih =>
      cases outer with
      | nil =>
          cases last
          rfl
      | cons next outer => exact ih (by simpa [framesOf] using last)

end Spine

namespace Parser

open Grammar Spine

section OpenPaths

variable {grammar : Grammar} {root : NonterminalId}

theorem tracks_top {top : OpenNode} {outer : List OpenNode} {automaton : Automaton}
    (found : grammar.automaton? top.symbol = some automaton)
    (path : Path grammar automaton automaton.initial top.done top.state) :
    Tracks grammar (opened top outer).tree ⟨top.symbol, top.state, extent outer⟩ :=
  ⟨automaton, _, top.line, top.col, top.done, found, getElem?_top top outer, mapM_top top outer,
    path⟩

theorem lastChild?_add (top next : OpenNode) (outer : List OpenNode) :
    (opened (next.add top.shape) outer).tree.lastChild? (extent outer) =
      some (extent (next :: outer)) := by
  rw [Tree.lastChild?, getElem?_top]
  exact Shape.numbers_back? (extent outer + 1) next.done top.shape

theorem frames_track {top : OpenNode} {outer : List OpenNode} {automaton : Automaton}
    (found : grammar.automaton? top.symbol = some automaton)
    (path : Path grammar automaton automaton.initial top.done top.state)
    (outward : Threaded grammar root [top.shape] outer) :
    (∀ frame ∈ framesOf (top :: outer), Tracks grammar (opened top outer).tree frame) ∧
      (framesOf (top :: outer)).IsChain fun inner around =>
        (opened top outer).tree.lastChild? around.node = some inner.node := by
  induction outer generalizing top automaton with
  | nil =>
      refine ⟨?_, .singleton _⟩
      intro frame member
      rw [framesOf, framesOf, List.mem_singleton] at member
      subst member
      exact tracks_top found path
  | cons next outer ih =>
      obtain ⟨_, nextFound, nextPath, _, beyond⟩ := outward.inversion
      -- The tree stays the same if the innermost nonterminal counts as a finished child of the
      -- next one, whether or not it could end here.
      have sameTree : (opened (next.add top.shape) outer).tree = (opened top (next :: outer)).tree :=
        tree_close top (next :: outer)
      obtain ⟨tracks, chain⟩ := @ih (next.add top.shape) _ nextFound nextPath (beyond.children _)
      rw [sameTree] at tracks chain
      refine ⟨?_, ?_⟩
      · intro frame member
        rw [framesOf, List.mem_cons] at member
        rcases member with rfl | around
        · exact tracks_top found path
        · exact tracks frame around
      · refine List.isChain_cons_cons.mpr ⟨?_, chain⟩
        rw [← sameTree]
        exact lastChild?_add top next outer

theorem Sound.frames_track {spine : Spine} (sound : Sound grammar root spine) :
    (∀ bottom, spine.frames.getLast? = some bottom → bottom.node = Tree.root) ∧
      (∀ frame ∈ spine.frames, Tracks grammar spine.tree frame) ∧
      spine.frames.IsChain fun inner around =>
        spine.tree.lastChild? around.node = some inner.node := by
  cases sound with
  | closed _ _ => simp [Spine.frames]
  | opened threaded =>
      obtain ⟨_, found, path, _, outward⟩ := threaded.inversion
      rw [List.append_nil] at path
      exact ⟨fun _ => root_of_framesOf, Parser.frames_track found path outward⟩

theorem rightmostPath_of_frames {tree : Tree} {frames : List Frame}
    (bottom : ∀ frame, frames.getLast? = some frame → frame.node = Tree.root)
    (chain : frames.IsChain fun inner around => tree.lastChild? around.node = some inner.node) :
    tree.rightmostPath frames.length = (frames.map Frame.node).reverse := by
  have downward : (frames.map Frame.node).reverse.IsChain
      fun outer inner => tree.lastChild? outer = some inner := by
    rw [List.isChain_reverse, List.isChain_map]
    exact chain
  cases reversed : (frames.map Frame.node).reverse with
  | nil =>
      have none : frames = [] := by simpa using reversed
      subst none
      rfl
  | cons first rest =>
      rw [reversed] at downward
      have count : frames.length = rest.length + 1 := by
        simpa using congrArg List.length reversed
      have top : first = Tree.root := by
        have last : (frames.map Frame.node).getLast? = some first := by
          rw [← List.head?_reverse, reversed, List.head?_cons]
        rw [List.getLast?_map, Option.map_eq_some_iff] at last
        obtain ⟨frame, isLast, rfl⟩ := last
        exact bottom frame isLast
      subst top
      rw [count]
      exact Tree.rightmostFrom_of_isChain downward

end OpenPaths

/-! ## Main statement -/

/-- Frames and tree hang together. After any sequence of fed tokens, taken or refused, the outermost
frame refers to the root, each other one to the last child of the node around it, and all of them to
interior nodes of their symbols whose children lead to their states. So the open nonterminals are
the first nodes of the rightmost path of the tree, as many as the depth says. -/
theorem open_path_of_feeds {network : Network} {options : Options} {parser : Parser}
    (made : Parser.new network options = .ok parser) (input : List (Token × Nat)) :
    (∀ bottom, (parser.afterFeeds input).frames.getLast? = some bottom →
      bottom.node = Tree.root) ∧
    ((parser.afterFeeds input).frames.IsChain fun inner around =>
      (parser.afterFeeds input).tree.lastChild? around.node = some inner.node) ∧
    (∀ frame ∈ (parser.afterFeeds input).frames,
      Tracks network.grammar (parser.afterFeeds input).tree frame) ∧
    (parser.afterFeeds input).tree.rightmostPath (parser.afterFeeds input).depth =
      ((parser.afterFeeds input).frames.map Frame.node).reverse := by
  obtain ⟨grammar, symbol, rfl, _, reached⟩ := exists_reached_of_new made
  obtain ⟨spine, sound, _, frames, tree⟩ := (reached.afterFeeds input).exists_spine
  obtain ⟨bottom, tracks, chain⟩ := sound.frames_track
  rw [depth, frames, tree]
  exact ⟨bottom, chain, tracks, rightmostPath_of_frames bottom chain⟩

/-- A second token that would open three nonterminals at once is refused after it opened one. -/
theorem open_path_of_feeds_item :
    Parser.new (.accelerated listGrammar) ⟨some (.name "item"), some 2⟩ =
        .ok (itemParser (some 2)) ∧
      ((itemParser (some 2)).afterFeeds (listInput.take 2)).poisoned = true ∧
      ((itemParser (some 2)).afterFeeds (listInput.take 2)).tree.rightmostPath 2 = [0, 2] := by
  have made : Parser.new (.accelerated listGrammar) ⟨some (.name "item"), some 2⟩ =
      .ok (itemParser (some 2)) := rfl
  have nodes : ((itemParser (some 2)).afterFeeds (listInput.take 2)).frames.map Frame.node =
      [2, 0] := by cbv
  have count : ((itemParser (some 2)).afterFeeds (listInput.take 2)).depth = 2 := by
    simpa [depth] using congrArg List.length nodes
  have path := (open_path_of_feeds made (listInput.take 2)).2.2.2
  rw [count, nodes] at path
  exact ⟨made, by cbv, path⟩

end Parser

end TransitionNetwork
