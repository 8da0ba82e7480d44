import TransitionNetwork.Proofs.Parser.OpenPath

/-!
# Replaying events

The events of a parser tell what it does. Whoever follows them from the start symbol on, without any
look at the tables, knows the open nonterminals with their states and the tree after every fed
token, refused ones included. Only the columns of tokens are not reported.
-/

set_option autoImplicit false

namespace TransitionNetwork

/-! ## Trees without columns -/

def Node.withoutCol : Node → Node
  | .interior symbol children line _ => .interior symbol children line 0
  | .leaf kind text line _ => .leaf kind text line 0

def Tree.withoutCols (tree : Tree) : Tree :=
  ⟨tree.nodes.map Node.withoutCol⟩

namespace Tree

@[simp] theorem size_withoutCols (tree : Tree) : tree.withoutCols.size = tree.size := by
  simp [withoutCols, size]

theorem withoutCols_single (symbol : NonterminalId) (line : Nat) :
    (single symbol line 0).withoutCols = single symbol line 0 := by
  simp [withoutCols, single, Node.withoutCol]

theorem getElem?_withoutCols (tree : Tree) (id : NodeId) :
    tree.withoutCols.nodes[id]? = tree.nodes[id]?.map Node.withoutCol :=
  Array.getElem?_map

theorem parentFault?_withoutCols (tree : Tree) (parent : NodeId) :
    tree.withoutCols.parentFault? parent = tree.parentFault? parent := by
  have sameKind : Node.isLeaf ∘ Node.withoutCol = Node.isLeaf := by
    funext node
    cases node <;> rfl
  simp only [parentFault?, getElem?_withoutCols, Option.map_map, sameKind]

theorem withoutCols_attach (tree : Tree) (parent : NodeId) (node : Node) :
    (tree.attach parent node).withoutCols = tree.withoutCols.attach parent node.withoutCol := by
  have sameChild : ∀ old : Node, (old.addChild tree.size).withoutCol =
      old.withoutCol.addChild tree.size := by
    intro old
    cases old <;> rfl
  have pointwise : ∀ id : NodeId, (tree.attach parent node).withoutCols.nodes[id]? =
      (tree.withoutCols.attach parent node.withoutCol).nodes[id]? := by
    intro id
    simp only [getElem?_attach, getElem?_withoutCols, size_withoutCols]
    split
    · rfl
    · split
      · cases tree.nodes[id]? with
        | none => rfl
        | some old => simp [sameChild]
      · rfl
  exact congrArg Tree.mk (Array.ext_getElem? pointwise)

end Tree

/-! ## Following events -/

/-- What is known from events: the open nonterminals, the tree without columns, and the line of the
token that was classified last. -/
structure Replica where
  frames : List Frame
  tree : Tree
  line : Nat
  deriving DecidableEq, Repr

namespace Replica

def start (automaton : Automaton) : Replica where
  frames := [⟨automaton.id, automaton.initial, Tree.root⟩]
  tree := Tree.single automaton.id 0 0
  line := 0

/-- What is known after one more event. There is no answer if the event contradicts what is known
already: the number of open nonterminals, the innermost one, or the node that gets a child. -/
def follow (grammar : Grammar) (replica : Replica) : Event → Option Replica
  | .classify token _ => some { replica with line := token.line }
  | .push nonterminal next depth => do
      guard (replica.frames.length = depth)
      let top :: rest := replica.frames | none
      let automaton ← grammar.automaton? nonterminal
      let (node, tree) ←
        (replica.tree.appendInterior top.node nonterminal replica.line 0).toOption
      let child : Frame := ⟨nonterminal, automaton.initial, node⟩
      return { replica with frames := child :: { top with state := next } :: rest, tree }
  | .shift token target depth => do
      guard (replica.frames.length = depth)
      let top :: rest := replica.frames | none
      let (_, tree) ←
        (replica.tree.appendLeaf top.node token.kind token.text token.line 0).toOption
      return { replica with frames := { top with state := target } :: rest, tree }
  | .pop nonterminal _ depth => do
      guard (replica.frames.length = depth)
      let top :: rest := replica.frames | none
      guard (top.nonterminal = nonterminal)
      return { replica with frames := rest }
  | .accept => do
      guard replica.frames.isEmpty
      return replica
  | .error _ => some replica

def replay (grammar : Grammar) (replica : Replica) (events : List Event) : Option Replica :=
  events.foldlM (follow grammar) replica

section Follow

variable {grammar : Grammar} {replica middle last : Replica} {top : Frame} {rest : List Frame}

theorem follow_push {nonterminal : NonterminalId} {automaton : Automaton}
    (frames : replica.frames = top :: rest)
    (found : grammar.automaton? nonterminal = some automaton)
    (interior : replica.tree.parentFault? top.node = none) (next : StateId) :
    replica.follow grammar (.push nonterminal next (rest.length + 1)) =
      some { replica with
        frames := ⟨nonterminal, automaton.initial, replica.tree.size⟩ ::
          { top with state := next } :: rest
        tree := replica.tree.attach top.node (.interior nonterminal #[] replica.line 0) } := by
  simp [follow, frames, found, Tree.appendInterior, Tree.append, interior, guard, Except.toOption]

theorem follow_shift (frames : replica.frames = top :: rest)
    (interior : replica.tree.parentFault? top.node = none) (token : Token) (target : StateId) :
    replica.follow grammar (.shift token target (rest.length + 1)) =
      some { replica with
        frames := { top with state := target } :: rest
        tree := replica.tree.attach top.node
          (.leaf token.kind token.text token.line 0) } := by
  simp [follow, frames, Tree.appendLeaf, Tree.append, interior, guard, Except.toOption]

theorem follow_pop (frames : replica.frames = top :: rest) (reason : PopReason) :
    replica.follow grammar (.pop top.nonterminal reason (rest.length + 1)) =
      some { replica with frames := rest } := by
  simp [follow, frames, guard]

theorem replay_cons {event : Event} {events : List Event}
    (first : replica.follow grammar event = some middle)
    (others : middle.replay grammar events = some last) :
    replica.replay grammar (event :: events) = some last := by
  rw [replay, List.foldlM_cons, first]
  exact others

theorem replay_append {events later : List Event}
    (first : replica.replay grammar events = some middle)
    (others : middle.replay grammar later = some last) :
    replica.replay grammar (events ++ later) = some last := by
  rw [replay, List.foldlM_append]
  rw [replay] at first
  rw [first]
  exact others

end Follow

end Replica

/-- What is known of a parser that stands on a spine. -/
def Spine.replica (spine : Spine) (line : Nat) : Replica where
  frames := spine.frames
  tree := spine.tree.withoutCols
  line

namespace Parser

open Grammar

section Following

variable {grammar : AcceleratedGrammar} {maxDepth : Option Nat} {spine next final : Spine}
  {event : Event} {events : List Event}

theorem frames_replica (top : OpenNode) (outer : List OpenNode) (line : Nat) :
    ((Spine.opened top outer).replica line).frames =
      ⟨top.symbol, top.state, Spine.extent outer⟩ :: Spine.framesOf outer := rfl

theorem interior_replica (top : OpenNode) (outer : List OpenNode) (line : Nat) :
    ((Spine.opened top outer).replica line).tree.parentFault? (Spine.extent outer) = none := by
  rw [Spine.replica, Tree.parentFault?_withoutCols, Spine.parentFault?_top]

theorem follow_close (top : OpenNode) (outer : List OpenNode) (reason : PopReason) (line : Nat) :
    ((Spine.opened top outer).replica line).follow grammar.grammar
        (.pop top.symbol reason (outer.length + 1)) =
      some ((Spine.close top outer).replica line) := by
  rw [← Spine.length_framesOf outer]
  refine (Replica.follow_pop (frames_replica top outer line) reason).trans ?_
  rw [Spine.replica, Spine.replica, Spine.frames_close, Spine.tree_close]

theorem Advances.follow {pending : Pending}
    (advances : Advances grammar maxDepth pending spine event next) :
    (spine.replica pending.token.line).follow grammar.grammar event =
      some (next.replica pending.token.line) := by
  cases advances with
  | @push top outer _ inner next automaton _ _ found _ =>
      rw [← Spine.length_framesOf outer]
      refine (Replica.follow_push (frames_replica top outer _) found
        (interior_replica top outer _) next).trans ?_
      -- Nodes are numbered as they are made, so the replica gives the new one the same number.
      have tree := congrArg Tree.withoutCols
        (Spine.tree_push top outer inner automaton.initial next pending.token.line pending.col)
      rw [Tree.withoutCols_attach] at tree
      rw [Spine.replica, Spine.replica, ← tree, Tree.size_withoutCols, Spine.size_tree]
      rfl
  | @retry top outer _ _ _ _ => exact follow_close top outer .retry _

theorem Consumes.follow {pending : Pending} (consumes : Consumes grammar pending spine event next) :
    (spine.replica pending.token.line).follow grammar.grammar event =
      some (next.replica pending.token.line) := by
  cases consumes with
  | @shift top outer _ target _ _ =>
      rw [← Spine.length_framesOf outer]
      refine (Replica.follow_shift (frames_replica top outer _) (interior_replica top outer _)
        pending.token target).trans ?_
      have tree := congrArg Tree.withoutCols
        (Spine.tree_shift top outer pending.token pending.col target)
      rw [Tree.withoutCols_attach] at tree
      rw [Spine.replica, Spine.replica, ← tree]
      rfl

theorem Settles.replay {pending : Pending} {result : Except (Failure ParseError) Unit}
    (settles : Settles grammar maxDepth pending spine events final result) :
    (spine.replica pending.token.line).replay grammar.grammar events =
      some (final.replica pending.token.line) := by
  induction settles with
  | onward advances _ ih => exact Replica.replay_cons advances.follow ih
  | consumed consumes => exact Replica.replay_cons consumes.follow rfl
  | refused _ => rfl

theorem Collapses.replay (collapses : Collapses grammar spine events final) (line : Nat) :
    (spine.replica line).replay grammar.grammar events = some (final.replica line) := by
  induction collapses with
  | complete => rfl
  | pop _ _ _ ih => exact Replica.replay_cons (follow_close _ _ .collapse line) ih
  | pause _ _ => rfl

theorem Fed.replay {token : Token} {col : Nat} {result : Except (Failure ParseError) Unit}
    (fed : Fed grammar maxDepth token col spine events final result) (line : Nat) :
    ∃ last, (spine.replica line).replay grammar.grammar events = some (final.replica last) := by
  cases fed with
  | unclassified _ => exact ⟨line, rfl⟩
  -- From here on the line is the token's, whatever it was before.
  | refused _ settles => exact ⟨token.line, Replica.replay_cons rfl settles.replay⟩
  | taken _ settles collapses =>
      refine ⟨token.line, Replica.replay_cons rfl ?_⟩
      exact Replica.replay_append settles.replay (collapses.replay token.line)

/-- A failure that is reported tells nothing about stack and tree. -/
theorem replay_ended {replica last : Replica} {result : Except (Failure ParseError) Unit}
    (replayed : replica.replay grammar.grammar events = some last) :
    replica.replay grammar.grammar (ended grammar maxDepth events final result).2.events =
      some last := by
  cases result with
  | ok => exact replayed
  | error failure =>
      refine Replica.replay_append replayed ?_
      cases failure <;> rfl

end Following

/-! ## Whole runs -/

/-- The replica has the frames of the parser and its tree, up to columns. -/
def Shows (replica : Replica) (parser : Parser) : Prop :=
  replica.frames = parser.frames ∧ replica.tree = parser.tree.withoutCols

section Histories

variable {grammar : AcceleratedGrammar} {maxDepth : Option Nat} {root : NonterminalId}
  {parser : Parser} {replica : Replica}

theorem Shows.eq_replica {spine : Spine} (shows : Shows replica parser)
    (frames : parser.frames = spine.frames) (tree : parser.tree = spine.tree) :
    replica = spine.replica replica.line := by
  obtain ⟨sameFrames, sameTree⟩ := shows
  rw [Spine.replica, ← frames, ← tree, ← sameFrames, ← sameTree]

theorem Reached.replay_feed (reached : Reached grammar maxDepth root parser)
    (shows : Shows replica parser) (token : Token) (col : Nat) :
    ∃ last, replica.replay grammar.grammar (parser.feed token col).2.events = some last ∧
      Shows last (parser.feed token col).1 := by
  rcases reached.feed_eq token col with
    ⟨cause, idle⟩ | ⟨top, outer, events, final, result, rfl, _, fed, stepped⟩
  · rw [feed_of_idle idle]
    exact ⟨replica, rfl, shows⟩
  · obtain ⟨line, replayed⟩ := fed.replay replica.line
    rw [stepped, shows.eq_replica rfl rfl]
    exact ⟨final.replica line, replay_ended replayed, (frames_ended ..).symm,
      congrArg Tree.withoutCols (tree_ended ..).symm⟩

theorem Reached.replay_feeds (reached : Reached grammar maxDepth root parser)
    (shows : Shows replica parser) (input : List (Token × Nat)) :
    ∃ last, replica.replay grammar.grammar ((parser.outcomes input).flatMap Outcome.events) =
        some last ∧ Shows last (parser.afterFeeds input) := by
  induction input generalizing parser replica with
  | nil => exact ⟨replica, rfl, shows⟩
  | cons first rest ih =>
      obtain ⟨token, col⟩ := first
      obtain ⟨middle, replayed, showsMiddle⟩ := reached.replay_feed shows token col
      obtain ⟨last, replayedRest, showsLast⟩ := ih (reached.feed token col) showsMiddle
      refine ⟨last, ?_, showsLast⟩
      rw [outcomes, List.flatMap_cons]
      exact Replica.replay_append replayed replayedRest

theorem exists_shows_of_new {network : Network} {options : Options}
    (made : Parser.new network options = .ok parser) :
    ∃ automaton, (startAutomaton network.grammar options.start).1 = some automaton ∧
      Shows (.start automaton) parser := by
  cases network with
  | plain grammar => cases made
  | accelerated grammar =>
      simp only [Parser.new] at made
      split at made
      · cases made
      · next automaton text chosen =>
          cases made
          exact ⟨automaton, by rw [Network.grammar, chosen], rfl,
            (Tree.withoutCols_single _ _).symm⟩

end Histories

/-! ## Main statement -/

/-- Events are faithful. After any sequence of fed tokens, taken or refused, following all events
that were reported, from the initial state of the start symbol's automaton on, meets no
contradiction and gives the open nonterminals, their states and nodes, and the tree up to
columns. -/
theorem replay_of_feeds {network : Network} {options : Options} {parser : Parser}
    (made : Parser.new network options = .ok parser) :
    ∃ automaton, (startAutomaton network.grammar options.start).1 = some automaton ∧
      ∀ input, ∃ replica,
        (Replica.start automaton).replay network.grammar
          ((parser.outcomes input).flatMap Outcome.events) = some replica ∧
        replica.frames = (parser.afterFeeds input).frames ∧
        replica.tree = (parser.afterFeeds input).tree.withoutCols := by
  obtain ⟨automaton, chosen, shows⟩ := exists_shows_of_new made
  obtain ⟨_, _, rfl, _, reached⟩ := exists_reached_of_new made
  exact ⟨automaton, chosen, reached.replay_feeds shows⟩

/-- The second token is refused after it opened a list, and the list is open in the replica. -/
theorem replay_of_feeds_item :
    Parser.new (.accelerated listGrammar) ⟨some (.name "item"), some 2⟩ =
        .ok (itemParser (some 2)) ∧
      ((itemParser (some 2)).outcomes (listInput.take 2)).flatMap Outcome.events =
        [.classify ⟨.leftParen, "(", 1⟩ 2, .shift ⟨.leftParen, "(", 1⟩ 1 1,
          .classify ⟨.name, "a", 1⟩ 1, .push ⟨256⟩ 2 1, .error (.depthLimitExceeded 2)] ∧
      ∃ automaton replica, automaton.id = ⟨257⟩ ∧
        (Replica.start automaton).replay nestedLists
          (((itemParser (some 2)).outcomes (listInput.take 2)).flatMap Outcome.events) =
            some replica ∧
        replica.frames = [⟨⟨256⟩, 0, 2⟩, ⟨⟨257⟩, 2, 0⟩] := by
  have made : Parser.new (.accelerated listGrammar) ⟨some (.name "item"), some 2⟩ =
      .ok (itemParser (some 2)) := rfl
  obtain ⟨automaton, chosen, replayed⟩ := replay_of_feeds made
  obtain ⟨replica, followed, frames, _⟩ := replayed (listInput.take 2)
  cases chosen
  exact ⟨made, by cbv, _, replica, rfl, followed, frames.trans (by cbv)⟩

end Parser

end TransitionNetwork
