import TransitionNetwork.Proofs.Parser.OpenPath
import TransitionNetwork.Proofs.Tree.DocumentOrder

/-!
# Growing trees

The tree of a parser grows at its right edge only. At every stage of its work, also while a token is
still pending and where a token was refused, the numbers of the nodes follow the document order. A
node whose nonterminal is closed never changes again, and one whose nonterminal is open changes only
by getting more children after those it has.
-/

set_option autoImplicit false

namespace TransitionNetwork

namespace Parser

open Grammar

/-! ## Stages -/

/-- What changes while tokens are fed. -/
structure Stage where
  frames : List Frame
  tree : Tree
  deriving DecidableEq, Repr

def stage (parser : Parser) : Stage :=
  ⟨parser.frames, parser.tree⟩

/-- One change: for a pending token a nonterminal is opened or closed, or the token is consumed, or
a nonterminal that can only end is closed. -/
inductive Passes (grammar : AcceleratedGrammar) (maxDepth : Option Nat) : Stage → Stage → Prop where
  | onward {stage : Stage} {pending : Pending} {frames : List Frame} {tree : Tree} {event : Event} :
      grammar.grammar.classify pending.token = some pending.label →
      move grammar maxDepth pending stage.frames stage.tree = .onward frames tree event →
      Passes grammar maxDepth stage ⟨frames, tree⟩
  | consumed {stage : Stage} {pending : Pending} {frames : List Frame} {tree : Tree}
      {event : Event} : grammar.grammar.classify pending.token = some pending.label →
      move grammar maxDepth pending stage.frames stage.tree = .consumed frames tree event →
      Passes grammar maxDepth stage ⟨frames, tree⟩
  | collapsed {stage : Stage} {top : Frame} {rest : List Frame} {automaton : Automaton}
      {state : State} {table : DenseTable} : stage.frames = top :: rest →
      grammar.look top = .ok (automaton, state, table) → table.isAcceptOnly state = true →
      Passes grammar maxDepth stage ⟨rest, stage.tree⟩

/-- Any number of changes, one after another. -/
def Leads (grammar : AcceleratedGrammar) (maxDepth : Option Nat) : Stage → Stage → Prop :=
  Relation.ReflTransGen (Passes grammar maxDepth)

/-- The later tree has the nodes of the earlier one. Those that belong to no frame of the earlier
stage are the same, and those that do have at most more children, which are new nodes. No frame is
opened again. -/
structure Extends (earlier later : Stage) : Prop where
  size_le : earlier.tree.size ≤ later.tree.size
  finished : ∀ id < earlier.tree.size, (∀ frame ∈ earlier.frames, frame.node ≠ id) →
    later.tree.nodes[id]? = earlier.tree.nodes[id]?
  unfinished : ∀ frame ∈ earlier.frames, ∃ symbol children line col added,
    earlier.tree.nodes[frame.node]? = some (.interior symbol children line col) ∧
      later.tree.nodes[frame.node]? = some (.interior symbol (children ++ added) line col) ∧
      ∀ child ∈ added, earlier.tree.size ≤ child
  stillOpen : ∀ frame ∈ later.frames, frame.node < earlier.tree.size →
    ∃ still ∈ earlier.frames, still.node = frame.node

/-! ## One change -/

/-- Every frame refers to an interior node. -/
def Held (stage : Stage) : Prop :=
  ∀ frame ∈ stage.frames, ∃ symbol children line col,
    stage.tree.nodes[frame.node]? = some (.interior symbol children line col)

section Changes

variable {frames next : List Frame} {tree : Tree}

theorem extends_of_same_tree (held : Held ⟨frames, tree⟩)
    (among : ∀ frame ∈ next, ∃ still ∈ frames, still.node = frame.node) :
    Extends ⟨frames, tree⟩ ⟨next, tree⟩ where
  size_le := Nat.le_refl _
  finished _ _ _ := rfl
  unfinished frame member := by
    obtain ⟨symbol, children, line, col, found⟩ := held frame member
    exact ⟨symbol, children, line, col, #[], found, by rwa [Array.append_empty], by simp⟩
  stillOpen frame member _ := among frame member

theorem extends_attach {parent : Frame} (held : Held ⟨frames, tree⟩) (isOpen : parent ∈ frames)
    (node : Node)
    (among : ∀ frame ∈ next, frame.node = tree.size ∨ ∃ still ∈ frames, still.node = frame.node) :
    Extends ⟨frames, tree⟩ ⟨next, tree.attach parent.node node⟩ := by
  have old : ∀ {id : NodeId} {found : Node}, tree.nodes[id]? = some found → id ≠ tree.size := by
    intro id found present same
    rw [same, Tree.size, Array.getElem?_size] at present
    cases present
  constructor
  case size_le => simp
  case finished =>
    intro id small unrelated
    have notNew : id ≠ tree.size := Nat.ne_of_lt small
    have notParent : id ≠ parent.node := fun same => unrelated parent isOpen same.symm
    rw [Tree.getElem?_attach, if_neg notNew, if_neg notParent]
  case unfinished =>
    intro frame member
    obtain ⟨symbol, children, line, col, found⟩ := held frame member
    by_cases here : frame.node = parent.node
    · refine ⟨symbol, children, line, col, #[tree.size], found, ?_, by simp⟩
      rw [Tree.getElem?_attach, if_neg (old found), if_pos here, found]
      simp [Node.addChild]
    · refine ⟨symbol, children, line, col, #[], found, ?_, by simp⟩
      rw [Tree.getElem?_attach, if_neg (old found), if_neg here, found, Array.append_empty]
  case stillOpen =>
    intro frame member small
    rcases among frame member with new | still
    · exact absurd new (Nat.ne_of_lt small)
    · exact still

end Changes

theorem Extends.trans {first second third : Stage} (before : Extends first second)
    (after : Extends second third) : Extends first third := by
  constructor
  case size_le => exact Nat.le_trans before.size_le after.size_le
  case finished =>
    intro id small unrelated
    -- What no frame refers to is not opened again, so the second step leaves it as well.
    have unrelatedLater : ∀ frame ∈ second.frames, frame.node ≠ id := by
      intro frame member same
      obtain ⟨still, among, sameNode⟩ := before.stillOpen frame member (same ▸ small)
      exact unrelated still among (sameNode.trans same)
    rw [after.finished id (Nat.lt_of_lt_of_le small before.size_le) unrelatedLater,
      before.finished id small unrelated]
  case unfinished =>
    intro frame member
    obtain ⟨symbol, children, line, col, added, found, grown, new⟩ := before.unfinished frame member
    by_cases still : ∃ later ∈ second.frames, later.node = frame.node
    · obtain ⟨later, among, same⟩ := still
      obtain ⟨_, _, _, _, more, again, grownAgain, newer⟩ := after.unfinished later among
      rw [same, grown] at again
      rw [same] at grownAgain
      cases again
      refine ⟨symbol, children, line, col, added ++ more, found, ?_, ?_⟩
      · rw [grownAgain, Array.append_assoc]
      · intro child among
        rcases Array.mem_append.mp among with first | second
        · exact new child first
        · exact Nat.le_trans before.size_le (newer child second)
    · -- Its nonterminal has been closed in between.
      have small : frame.node < second.tree.size := (Array.getElem?_eq_some_iff.mp grown).1
      refine ⟨symbol, children, line, col, added, found, ?_, new⟩
      rw [after.finished frame.node small fun later among same => still ⟨later, among, same⟩, grown]
  case stillOpen =>
    intro frame member small
    obtain ⟨middle, among, same⟩ :=
      after.stillOpen frame member (Nat.lt_of_lt_of_le small before.size_le)
    obtain ⟨still, amongFirst, sameNode⟩ := before.stillOpen middle among (same ▸ small)
    exact ⟨still, amongFirst, sameNode.trans same⟩

end Parser

namespace Spine

def stage (spine : Spine) : Parser.Stage :=
  ⟨spine.frames, spine.tree⟩

theorem preorder_tree (spine : Spine) :
    ∃ visits, spine.tree.preorder Tree.root = .ok visits ∧
      visits.map Tree.Visit.id = List.range spine.tree.size := by
  obtain ⟨visits, walked, ids⟩ := Shape.preorder_layout spine.shape
  rw [tree_eq_layout]
  exact ⟨visits, walked, by simpa [Tree.size] using ids⟩

end Spine

namespace Parser

section Spines

variable {grammar : AcceleratedGrammar} {maxDepth : Option Nat} {root : NonterminalId}
  {pending : Pending} {spine next final : Spine} {event : Event} {events : List Event}

theorem Sound.held (sound : Sound grammar.grammar root spine) : Held spine.stage := by
  intro frame member
  obtain ⟨_, children, line, col, _, _, found, _⟩ := sound.frames_track.2.1 frame member
  exact ⟨frame.nonterminal, children, line, col, found⟩

theorem extends_close {top : OpenNode} {outer : List OpenNode}
    (sound : Sound grammar.grammar root (.opened top outer)) :
    Extends (Spine.opened top outer).stage (Spine.close top outer).stage := by
  rw [Spine.stage, Spine.stage, Spine.tree_close, Spine.frames_close]
  refine extends_of_same_tree sound.held ?_
  intro frame member
  exact ⟨frame, .tail _ member, rfl⟩

theorem Advances.extends (advances : Advances grammar maxDepth pending spine event next)
    (sound : Sound grammar.grammar root spine) : Extends spine.stage next.stage := by
  cases advances with
  | @push top outer _ inner next automaton _ _ _ _ =>
      rw [Spine.stage, Spine.stage, ← Spine.tree_push top outer inner automaton.initial next]
      refine extends_attach sound.held (.head _) _ ?_
      intro frame member
      rcases List.mem_cons.mp member with rfl | around
      · exact .inl (Spine.size_tree top outer).symm
      · rcases List.mem_cons.mp around with rfl | beyond
        · exact .inr ⟨_, .head _, rfl⟩
        · exact .inr ⟨frame, .tail _ beyond, rfl⟩
  | retry _ _ _ => exact extends_close sound

theorem Consumes.extends (consumes : Consumes grammar pending spine event next)
    (sound : Sound grammar.grammar root spine) : Extends spine.stage next.stage := by
  cases consumes with
  | @shift top outer _ target _ _ =>
      rw [Spine.stage, Spine.stage, ← Spine.tree_shift top outer pending.token pending.col target]
      refine extends_attach sound.held (.head _) _ ?_
      intro frame member
      rcases List.mem_cons.mp member with rfl | around
      · exact .inr ⟨_, .head _, rfl⟩
      · exact .inr ⟨frame, .tail _ around, rfl⟩

/-- From a sound spine, a change leads to a sound spine with a larger tree. -/
theorem Passes.exists_spine {later : Stage} (passes : Passes grammar maxDepth spine.stage later)
    (sound : Sound grammar.grammar root spine) :
    ∃ next : Spine, Sound grammar.grammar root next ∧ later = next.stage ∧
      Extends spine.stage next.stage := by
  -- On a sound spine the kind of the move decides which relation it is in; the others are excluded.
  cases passes with
  | @onward pending _ _ _ _ moved =>
      rcases move_cases sound maxDepth pending with
        ⟨_, next, advances, same⟩ | ⟨_, _, _, same⟩ | ⟨_, _, same⟩
      · cases same.symm.trans moved
        exact ⟨next, advances.sound sound, rfl, advances.extends sound⟩
      · cases same.symm.trans moved
      · cases same.symm.trans moved
  | @consumed pending _ _ _ classified moved =>
      rcases move_cases sound maxDepth pending with
        ⟨_, _, _, same⟩ | ⟨_, next, consumes, same⟩ | ⟨_, _, same⟩
      · cases same.symm.trans moved
      · cases same.symm.trans moved
        exact ⟨next, consumes.sound classified sound, rfl, consumes.extends sound⟩
      · cases same.symm.trans moved
  | collapsed shown looked only =>
      cases spine with
      | closed shape => cases shown
      | opened top outer =>
          cases shown
          cases sound with
          | opened threaded =>
              obtain ⟨automaton, state, table, standing⟩ := threaded.standing
              cases (standing.look _).symm.trans looked
              have ends := threaded.derives standing.found (standing.acceptOnly only).1
              refine ⟨.close top outer, threaded.close ends, ?_, extends_close (.opened threaded)⟩
              rw [Spine.stage, Spine.stage, Spine.tree_close, Spine.frames_close]

theorem Leads.exists_spine {later : Stage} (leads : Leads grammar maxDepth spine.stage later)
    (sound : Sound grammar.grammar root spine) :
    ∃ next : Spine, Sound grammar.grammar root next ∧ later = next.stage ∧
      Extends spine.stage next.stage := by
  induction leads with
  | refl =>
      refine ⟨spine, sound, rfl, extends_of_same_tree sound.held ?_⟩
      intro frame member
      exact ⟨frame, member, rfl⟩
  | tail _ passes ih =>
      obtain ⟨middle, middleSound, rfl, before⟩ := ih
      obtain ⟨next, nextSound, rfl, after⟩ := passes.exists_spine middleSound
      exact ⟨next, nextSound, rfl, before.trans after⟩

/-! ## Feeding passes through stages -/

theorem Advances.passes (advances : Advances grammar maxDepth pending spine event next)
    (sound : Sound grammar.grammar root spine)
    (classified : grammar.grammar.classify pending.token = some pending.label) :
    Passes grammar maxDepth spine.stage next.stage := by
  rcases move_cases sound maxDepth pending with
    ⟨_, _, again, moved⟩ | ⟨_, _, consumes, _⟩ | ⟨_, refuses, _⟩
  · obtain ⟨rfl, rfl⟩ := advances.unique again
    exact .onward classified moved
  · exact absurd consumes advances.not_consumes
  · exact absurd refuses advances.not_refuses

theorem Consumes.passes (consumes : Consumes grammar pending spine event next)
    (sound : Sound grammar.grammar root spine) (maxDepth : Option Nat)
    (classified : grammar.grammar.classify pending.token = some pending.label) :
    Passes grammar maxDepth spine.stage next.stage := by
  rcases move_cases sound maxDepth pending with
    ⟨_, _, advances, _⟩ | ⟨_, _, again, moved⟩ | ⟨_, refuses, _⟩
  · exact absurd consumes advances.not_consumes
  · obtain ⟨rfl, rfl⟩ := consumes.unique again
    exact .consumed classified moved
  · exact absurd refuses consumes.not_refuses

theorem Settles.leads {result : Except (Failure ParseError) Unit}
    (settles : Settles grammar maxDepth pending spine events final result)
    (sound : Sound grammar.grammar root spine)
    (classified : grammar.grammar.classify pending.token = some pending.label) :
    Leads grammar maxDepth spine.stage final.stage := by
  induction settles with
  | onward advances _ ih =>
      exact .head (advances.passes sound classified) (ih (advances.sound sound))
  | consumed consumes => exact .single (consumes.passes sound maxDepth classified)
  | refused _ => exact .refl

theorem Collapses.leads (collapses : Collapses grammar spine events final)
    (maxDepth : Option Nat) : Leads grammar maxDepth spine.stage final.stage := by
  induction collapses with
  | complete => exact .refl
  | @pop top outer _ _ _ _ _ standing only _ ih =>
      have passes : Passes grammar maxDepth (Spine.opened top outer).stage
          ⟨Spine.framesOf outer, (Spine.opened top outer).tree⟩ :=
        .collapsed (Spine.frames_opened top outer) (standing.look _) only
      rw [← Spine.frames_close top outer, ← Spine.tree_close top outer] at passes
      exact .head passes ih
  | pause _ _ => exact .refl

theorem Fed.leads {token : Token} {col : Nat} {result : Except (Failure ParseError) Unit}
    (fed : Fed grammar maxDepth token col spine events final result)
    (sound : Sound grammar.grammar root spine) :
    Leads grammar maxDepth spine.stage final.stage := by
  cases fed with
  | unclassified _ => exact .refl
  | refused classified settles => exact settles.leads sound classified
  | taken classified settles collapses =>
      exact (settles.leads sound classified).trans (collapses.leads maxDepth)

end Spines

section Histories

variable {grammar : AcceleratedGrammar} {maxDepth : Option Nat} {root : NonterminalId}
  {parser : Parser}

theorem Reached.feed_leads (reached : Reached grammar maxDepth root parser) (token : Token)
    (col : Nat) : Leads grammar maxDepth parser.stage (parser.feed token col).1.stage := by
  rcases reached.feed_eq token col with
    ⟨cause, idle⟩ | ⟨top, outer, events, final, result, rfl, sound, fed, stepped⟩
  · rw [feed_of_idle idle]
    exact .refl
  · have stands : (ended grammar maxDepth events final result).1.stage = final.stage := by
      rw [stage, frames_ended, tree_ended, Spine.stage]
    rw [stepped, stands]
    exact fed.leads sound

theorem Reached.feeds_lead (reached : Reached grammar maxDepth root parser)
    (input : List (Token × Nat)) :
    Leads grammar maxDepth parser.stage (parser.afterFeeds input).stage := by
  induction input generalizing parser with
  | nil => exact .refl
  | cons first rest ih =>
      exact (reached.feed_leads first.1 first.2).trans (ih (reached.feed first.1 first.2))

theorem afterFeeds_append (parser : Parser) (input more : List (Token × Nat)) :
    parser.afterFeeds (input ++ more) = (parser.afterFeeds input).afterFeeds more := by
  induction input generalizing parser with
  | nil => rfl
  | cons first rest ih => exact ih _

end Histories

/-! ## Main statement -/

/-- Trees grow in document order. The stages that a parser passes through include those after each
fed token, taken or refused. At each of them, the walk from the root meets the numbers of the nodes
one after the other, none left out. From one to any later one, the tree keeps the nodes that belong
to no open nonterminal, and gives the others new children at the end only. -/
theorem document_order_of_feeds {network : Network} {options : Options} {parser : Parser}
    (made : Parser.new network options = .ok parser) :
    (∀ input more, Leads parser.grammar parser.maxDepth (parser.afterFeeds input).stage
      (parser.afterFeeds (input ++ more)).stage) ∧
    (∀ stage, Leads parser.grammar parser.maxDepth parser.stage stage →
      ∃ visits, stage.tree.preorder Tree.root = .ok visits ∧
        visits.map Tree.Visit.id = List.range stage.tree.size) ∧
    ∀ earlier later, Leads parser.grammar parser.maxDepth parser.stage earlier →
      Leads parser.grammar parser.maxDepth earlier later → Extends earlier later := by
  obtain ⟨grammar, symbol, automaton, rfl, _, found, rfl⟩ := exists_start_of_new made
  have sound := sound_start found
  refine ⟨?_, ?_, ?_⟩
  · intro input more
    rw [afterFeeds_append]
    exact ((Reached.running sound).afterFeeds input).feeds_lead more
  · intro stage leads
    obtain ⟨spine, _, rfl, _⟩ := leads.exists_spine sound
    exact spine.preorder_tree
  · intro earlier later before after
    obtain ⟨spine, spineSound, rfl, _⟩ := before.exists_spine sound
    obtain ⟨_, _, rfl, grown⟩ := after.exists_spine spineSound
    exact grown

/-- The second token is refused after it opened a list. The list comes after the parenthesis, and
the item around it has got it as its last child. -/
theorem document_order_of_feeds_item :
    Parser.new (.accelerated listGrammar) ⟨some (.name "item"), some 2⟩ =
        .ok (itemParser (some 2)) ∧
      (∃ visits, ((itemParser (some 2)).afterFeeds (listInput.take 2)).tree.preorder Tree.root =
        .ok visits ∧ visits.map Tree.Visit.id = [0, 1, 2]) ∧
      Extends ((itemParser (some 2)).afterFeeds (listInput.take 1)).stage
        ((itemParser (some 2)).afterFeeds (listInput.take 2)).stage := by
  have made : Parser.new (.accelerated listGrammar) ⟨some (.name "item"), some 2⟩ =
      .ok (itemParser (some 2)) := rfl
  obtain ⟨leads, order, grows⟩ := document_order_of_feeds made
  have size : ((itemParser (some 2)).afterFeeds (listInput.take 2)).stage.tree.size = 3 := by cbv
  obtain ⟨visits, walked, ids⟩ := order _ (leads [] (listInput.take 2))
  rw [List.nil_append, size] at ids
  refine ⟨made, ⟨visits, walked, ids⟩, ?_⟩
  exact grows _ _ (leads [] (listInput.take 1)) (leads (listInput.take 1) [(⟨.name, "a", 1⟩, 1)])

end Parser

end TransitionNetwork
