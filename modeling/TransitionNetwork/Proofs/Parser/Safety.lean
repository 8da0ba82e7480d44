import TransitionNetwork.Proofs.Parser.OpenPath
import TransitionNetwork.Proofs.Tree.Subtrees

/-!
# Safety of parsers

A parser may be asked anything, in any order and after any failure. No look-up of an automaton, a
state, a table entry or a node ever meets nothing, no leaf is given a child, and no answer blames a
nonterminal without automaton.
-/

set_option autoImplicit false

namespace TransitionNetwork

namespace DenseTable

/-- The transition on a label, found by index. The bounds are 16-bit numbers, and a label between
them is taken for a position among the entries. -/
def fetch (table : DenseTable) (label : LabelId) : Except Fault (Option Transition) :=
  if label < table.lower.toUInt16 ∨ table.upper.toUInt16 ≤ label then .ok none
  else entry table.entries (label - table.lower.toUInt16).toNat

theorem fetch_eq_lookup {table : DenseTable} (small : table.upper < 65536) (label : LabelId) :
    table.fetch label = .ok (table.lookup label) := by
  have width : table.lower + table.entries.size < 65536 := small
  have lower : table.lower.toUInt16.toNat = table.lower := by
    simp only [Nat.toUInt16, UInt16.toNat_ofNat']
    omega
  have upper : table.upper.toUInt16.toNat = table.lower + table.entries.size := by
    simp only [Nat.toUInt16, UInt16.toNat_ofNat', DenseTable.upper]
    omega
  unfold fetch lookup
  simp only [UInt16.lt_iff_toNat_lt, UInt16.le_iff_toNat_le, lower, upper]
  by_cases below : label.toNat < table.lower
  · simp [below]
  · by_cases above : table.lower + table.entries.size ≤ label.toNat
    · rw [if_pos (.inr above), if_neg below, Array.getElem?_eq_none (by omega)]
      rfl
    · have inside : label.toNat - table.lower < table.entries.size := by omega
      have position : (label - table.lower.toUInt16).toNat = label.toNat - table.lower := by
        rw [UInt16.toNat_sub_of_le _ _ (by rw [UInt16.le_iff_toNat_le]; omega), lower]
      rw [if_neg (by omega), if_neg below, position, entry, Array.getElem?_eq_getElem inside]
      rfl

end DenseTable

namespace Grammar

theorem Compiled.upper_lt {grammar : Grammar} {state : State} {table : DenseTable}
    (compiled : Compiled grammar state table) (closed : grammar.Closed) : table.upper < 65536 := by
  rcases compiled.tight.bounds with ⟨_, last, _, populated, _, upper⟩ | ⟨_, _, upper⟩
  · obtain ⟨transition, answer⟩ := Option.isSome_iff_exists.mp populated
    obtain ⟨_, _, yields⟩ := compiled.lookup_iff.mp answer
    have known := yields.lt
    have few := closed.labels_le
    unfold maxLabels at few
    omega
  · omega

end Grammar

namespace Parser

open Grammar

/-! ## Calls -/

inductive Call where
  | feed (token : Token) (col : Nat)
  | tree
  | intoTree
  | finish
  deriving DecidableEq, Repr

/-- The failure that a call is answered with, if it is. Asking for the tree of a parser that has
none is no failure. -/
def failure? (parser : Parser) : Call → Option (Failure ParseError)
  | .feed token col =>
      match (parser.feed token col).2.result with
      | .ok () => none
      | .error failure => some failure
  | .tree => none
  | .intoTree =>
      match parser.intoTree with
      | .ok _ => none
      | .error cause => some (.error cause)
  | .finish =>
      match parser.finish.result with
      | .ok _ => none
      | .error failure => some failure

/-- The parser after a call. Only feeding changes a parser; one that gave its tree away is kept, so
that calls after that are covered too. -/
def afterCall (parser : Parser) : Call → Parser
  | .feed token col => (parser.feed token col).1
  | .tree | .intoTree | .finish => parser

def afterCalls (parser : Parser) : List Call → Parser
  | [] => parser
  | call :: rest => (parser.afterCall call).afterCalls rest

/-- The failures of a sequence of calls, in order. -/
def failures (parser : Parser) : List Call → List (Failure ParseError)
  | [] => []
  | call :: rest => (parser.failure? call).toList ++ (parser.afterCall call).failures rest

/-- A failure for which the input or the order of calls is to blame. -/
def Ordinary (failure : Failure ParseError) : Prop :=
  ∃ cause, failure = .error cause ∧ ∀ id, cause ≠ .unknownNonterminal id

/-- Nothing that a parser refers to is missing. -/
structure Intact (parser : Parser) : Prop where
  frames : ∀ frame ∈ parser.frames, ∃ automaton state table,
    parser.grammar.look frame = .ok (automaton, state, table) ∧
      (∀ label, table.fetch label = .ok (table.lookup label)) ∧
      parser.tree.parentFault? frame.node = none
  children : ∀ (id : NodeId) (node : Node), parser.tree.nodes[id]? = some node →
    ∀ child ∈ node.children, ∃ below, parser.tree.node child = .ok below

section Failures

variable {grammar : AcceleratedGrammar} {maxDepth : Option Nat} {root : NonterminalId}
  {parser : Parser} {failure : Failure ParseError}

theorem Refuses.ordinary {pending : Pending} {spine : Spine} {cause : ParseError}
    (refuses : Refuses grammar maxDepth pending spine cause) : Ordinary (.error cause) := by
  refine ⟨cause, rfl, ?_⟩
  intro id same
  subst same
  cases refuses

theorem Settles.ordinary {pending : Pending} {spine final : Spine} {events : List Event}
    {result : Except (Failure ParseError) Unit}
    (settles : Settles grammar maxDepth pending spine events final result)
    (failed : result = .error failure) : Ordinary failure := by
  induction settles with
  | onward _ _ ih => exact ih failed
  | consumed _ => cases failed
  | refused refuses =>
      cases failed
      exact refuses.ordinary

theorem Fed.ordinary {token : Token} {col : Nat} {spine final : Spine} {events : List Event}
    (fed : Fed grammar maxDepth token col spine events final (.error failure)) :
    Ordinary failure := by
  cases fed with
  | unclassified _ => exact ⟨_, rfl, by simp⟩
  | refused _ settles => exact settles.ordinary rfl

theorem close_ordinary {below : List Shape} {stack : List OpenNode}
    (threaded : Threaded grammar.grammar root below stack) (trail : Array Event)
    (failed : (close grammar (Spine.framesOf stack) trail).2 = .error failure) :
    Ordinary failure := by
  induction threaded generalizing trail with
  | root => cases failed
  | node found path derived outward ih =>
      obtain ⟨automaton, state, table, standing⟩ :=
        (Threaded.node found path derived outward).standing
      simp only [Spine.framesOf, close, standing.look] at failed
      cases accepts : table.accept with
      | true =>
          rw [accepts] at failed
          exact ih _ failed
      | false =>
          rw [accepts] at failed
          cases failed
          exact ⟨_, rfl, by simp⟩

theorem Sound.finish_ordinary {spine : Spine} (sound : Sound grammar.grammar root spine)
    (failed : (spine.parser grammar maxDepth).finish.result = .error failure) :
    Ordinary failure := by
  rw [finish_eq_close] at failed
  cases sound with
  | closed _ _ => cases failed
  | @opened top outer threaded =>
      refine close_ordinary threaded #[] ?_
      cases closed : (close grammar (Spine.opened top outer).frames #[]).2 with
      | ok =>
          rw [closed] at failed
          cases failed
      | error cause =>
          rw [closed] at failed
          cases failed
          exact closed

theorem Sound.feed_ordinary {spine : Spine} (sound : Sound grammar.grammar root spine)
    {token : Token} {col : Nat}
    (failed : ((spine.parser grammar maxDepth).feed token col).2.result = .error failure) :
    Ordinary failure := by
  cases spine with
  | closed shape =>
      cases failed
      exact ⟨_, rfl, by simp⟩
  | opened top outer =>
      rcases feed_cases sound maxDepth token col with
        ⟨_, _, _, stepped⟩ | ⟨_, _, _, fed, stepped⟩
      · rw [stepped] at failed
        cases failed
      · rw [stepped] at failed
        cases failed
        exact fed.ordinary

theorem intoTree_ordinary {cause : ParseError} (failed : parser.intoTree = .error cause) :
    Ordinary (.error cause) := by
  refine ⟨cause, rfl, ?_⟩
  intro id same
  subst same
  unfold intoTree at failed
  split at failed
  · cases failed
  · split at failed <;> cases failed

theorem Reached.ordinary (reached : Reached grammar maxDepth root parser) {call : Call}
    (failed : parser.failure? call = some failure) : Ordinary failure := by
  cases call with
  | tree => cases failed
  | intoTree =>
      simp only [failure?] at failed
      split at failed
      · cases failed
      · next cause refused =>
          cases failed
          exact intoTree_ordinary refused
  | feed token col =>
      simp only [failure?] at failed
      split at failed
      · cases failed
      · next refused =>
          cases failed
          cases reached with
          | running sound => exact sound.feed_ordinary refused
          | stopped _ =>
              cases refused
              exact ⟨_, rfl, by simp⟩
  | finish =>
      simp only [failure?] at failed
      split at failed
      · cases failed
      · next refused =>
          cases failed
          cases reached with
          | running sound => exact sound.finish_ordinary refused
          | stopped _ =>
              cases refused
              exact ⟨_, rfl, by simp⟩

theorem Reached.afterCall (reached : Reached grammar maxDepth root parser) (call : Call) :
    Reached grammar maxDepth root (parser.afterCall call) := by
  cases call with
  | feed token col => exact reached.feed token col
  | tree | intoTree | finish => exact reached

theorem Reached.afterCalls (reached : Reached grammar maxDepth root parser) (calls : List Call) :
    Reached grammar maxDepth root (parser.afterCalls calls) := by
  induction calls generalizing parser with
  | nil => exact reached
  | cons call rest ih => exact ih (reached.afterCall call)

theorem Reached.failures_ordinary (reached : Reached grammar maxDepth root parser)
    (calls : List Call) : ∀ failure ∈ parser.failures calls, Ordinary failure := by
  induction calls generalizing parser with
  | nil => simp [failures]
  | cons call rest ih =>
      intro failure member
      rw [failures, List.mem_append] at member
      rcases member with first | later
      · exact reached.ordinary (Option.mem_toList.mp first)
      · exact ih (reached.afterCall call) failure later

end Failures

/-! ## References -/

theorem Tracks.parentFault? {grammar : Grammar} {tree : Tree} {frame : Frame}
    (tracks : Tracks grammar tree frame) : tree.parentFault? frame.node = none := by
  obtain ⟨_, _, _, _, _, _, found, _⟩ := tracks
  exact Tree.parentFault?_eq_none_iff.mpr ⟨_, found, rfl⟩

theorem Tracks.look {grammar : AcceleratedGrammar} {tree : Tree} {frame : Frame}
    (tracks : Tracks grammar.grammar tree frame) :
    ∃ automaton state table, grammar.look frame = .ok (automaton, state, table) ∧
      ∀ label, table.fetch label = .ok (table.lookup label) := by
  obtain ⟨automaton, _, _, _, shapes, found, _, _, path⟩ := tracks
  obtain ⟨state, stateFound⟩ :=
    path.exists_state grammar.closed found (grammar.closed.initial found)
  obtain ⟨table, tableFound, compiled⟩ := grammar.exists_table found stateFound
  -- Only symbol and state matter for where a frame stands, not the children of its node.
  let node : OpenNode := ⟨frame.nonterminal, frame.state, 0, 0, []⟩
  have standing : Standing grammar node automaton state table :=
    ⟨found, stateFound, tableFound, compiled⟩
  exact ⟨automaton, state, table, standing.look frame.node,
    DenseTable.fetch_eq_lookup (compiled.upper_lt grammar.closed)⟩

theorem exists_child_of_spine (spine : Spine) {id : NodeId} {node : Node}
    (found : spine.tree.nodes[id]? = some node) {child : NodeId} (among : child ∈ node.children) :
    ∃ below, spine.tree.node child = .ok below := by
  rw [Spine.tree_eq_layout] at found ⊢
  have member : node ∈ spine.shape.layout 0 := by simpa using Array.mem_of_getElem? found
  have bound := Shape.child_lt_of_layout spine.shape member among
  rw [Nat.zero_add, ← Shape.length_layout 0 spine.shape] at bound
  exact ⟨_, Tree.node_eq_ok_iff.mpr (Array.getElem?_eq_getElem (by simpa using bound))⟩

theorem Reached.intact {grammar : AcceleratedGrammar} {maxDepth : Option Nat}
    {root : NonterminalId} {parser : Parser} (reached : Reached grammar maxDepth root parser) :
    Intact parser := by
  obtain ⟨spine, sound, sameGrammar, frames, tree⟩ := reached.exists_spine
  refine ⟨?_, ?_⟩
  · intro frame member
    rw [frames] at member
    have tracks := sound.frames_track.2.1 frame member
    obtain ⟨automaton, state, table, looked, fetched⟩ := tracks.look
    rw [sameGrammar, tree]
    exact ⟨automaton, state, table, looked, fetched, tracks.parentFault?⟩
  · intro id node found child among
    rw [tree] at found ⊢
    exact exists_child_of_spine spine found among

/-! ## Main statement -/

/-- Parsers are safe. Whatever calls are made of a parser, in any order and also after failures, no
call ends with a fault or blames a nonterminal without automaton, and in between nothing is missing:
the automaton, state, table and interior node of every frame, the entries of its table within its
bounds, and every child of every node. -/
theorem calls_never_fault {network : Network} {options : Options} {parser : Parser}
    (made : Parser.new network options = .ok parser) (calls : List Call) :
    (∀ failure ∈ parser.failures calls,
      ∃ cause, failure = .error cause ∧ ∀ id, cause ≠ .unknownNonterminal id) ∧
    Intact (parser.afterCalls calls) := by
  obtain ⟨_, _, _, _, reached⟩ := exists_reached_of_new made
  exact ⟨reached.failures_ordinary calls, (reached.afterCalls calls).intact⟩

/-- Too many names in a row, asked for a tree before and after. -/
theorem calls_never_fault_item :
    Parser.new (.accelerated listGrammar) ⟨some (.name "item"), some 2⟩ =
        .ok (itemParser (some 2)) ∧
      ∃ calls : List Call, (itemParser (some 2)).failures calls =
          [.error (.unexpectedEnd "item"), .error (.depthLimitExceeded 2), .error .poisoned,
            .error .poisoned] ∧
        Intact ((itemParser (some 2)).afterCalls calls) := by
  have made : Parser.new (.accelerated listGrammar) ⟨some (.name "item"), some 2⟩ =
      .ok (itemParser (some 2)) := rfl
  let calls : List Call := [.feed ⟨.leftParen, "(", 1⟩ 0, .finish, .feed ⟨.name, "a", 1⟩ 1, .tree,
    .intoTree, .feed ⟨.name, "b", 1⟩ 3]
  exact ⟨made, calls, by cbv, (calls_never_fault made calls).2⟩

end Parser

end TransitionNetwork
