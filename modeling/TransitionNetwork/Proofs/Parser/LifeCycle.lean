import TransitionNetwork.Proofs.Parser.Growth

/-!
# The life of a parser

A parser is running, complete or stopped. Which of these it is follows from what happened to it: it
runs until a token fails, which stops it for good, or until a token completes its start symbol,
after which it keeps the tree. That no nonterminal is open does not decide it, since a token that no
nonterminal takes leaves none open either.
-/

set_option autoImplicit false

namespace TransitionNetwork

namespace Parser

open Grammar

/-! ## What a parser answers -/

/-- Something is open, so there is no tree yet, and the innermost nonterminal is to blame for it. -/
structure Running (parser : Parser) : Prop where
  notPoisoned : parser.poisoned = false
  notDone : parser.isDone = false
  one_le_depth : 1 ≤ parser.depth
  noTree : parser.tree? = none
  intoTree : ∃ top outer automaton, parser.frames = top :: outer ∧
    parser.grammar.grammar.automaton? top.nonterminal = some automaton ∧
    parser.intoTree = .error (.unexpectedEnd automaton.name)

/-- There is a tree, every way to ask for it gives it, and no token changes anything. -/
structure Complete (parser : Parser) : Prop where
  notPoisoned : parser.poisoned = false
  done : parser.isDone = true
  feed : ∀ token col, parser.feed token col =
    (parser, { events := [], result := .error (.error .alreadyComplete) })
  tree : parser.tree? = some parser.tree
  intoTree : parser.intoTree = .ok parser.tree
  finish : parser.finish.result = .ok parser.tree

/-- There is no tree, every call is refused, and no token changes anything. -/
structure Stopped (parser : Parser) : Prop where
  poisoned : parser.poisoned = true
  notDone : parser.isDone = false
  feed : ∀ token col, parser.feed token col =
    (parser, { events := [], result := .error (.error .poisoned) })
  noTree : parser.tree? = none
  intoTree : parser.intoTree = .error .poisoned
  finish : parser.finish.result = .error (.error .poisoned)

/-! ## What happens to a parser -/

/-- A token is refused, and not because the parser was complete before. -/
def Fails (parser : Parser) (token : Token) (col : Nat) : Prop :=
  ∃ failure, (parser.feed token col).2.result = .error failure ∧
    failure ≠ .error .alreadyComplete

/-- A token is taken and leaves no nonterminal open. -/
def Completes (parser : Parser) (token : Token) (col : Nat) : Prop :=
  (parser.feed token col).2.result = .ok () ∧ (parser.feed token col).1.frames = []

section Parsers

variable {parser : Parser}

theorem idleReason?_of_poisoned (poisoned : parser.poisoned = true) :
    parser.idleReason? = some .poisoned := by
  simp [idleReason?, poisoned]

theorem idleReason?_of_closed (running : parser.poisoned = false) (closed : parser.frames = []) :
    parser.idleReason? = some .alreadyComplete := by
  simp [idleReason?, running, closed]

theorem afterFeeds_of_idle {cause : ParseError} (idle : parser.idleReason? = some cause)
    (input : List (Token × Nat)) : parser.afterFeeds input = parser := by
  induction input with
  | nil => rfl
  | cons first rest ih => rw [afterFeeds, feed_of_idle idle, ih]

theorem stopped_of_poisoned (poisoned : parser.poisoned = true) : Stopped parser where
  poisoned := poisoned
  notDone := by simp [isDone, poisoned]
  feed := feed_of_idle (idleReason?_of_poisoned poisoned)
  noTree := by simp [tree?, isDone, poisoned]
  intoTree := by simp [Parser.intoTree, poisoned]
  finish := by simp [Parser.finish, poisoned]

theorem complete_of_closed (running : parser.poisoned = false) (closed : parser.frames = []) :
    Complete parser where
  notPoisoned := running
  done := by simp [isDone, running, closed]
  feed := feed_of_idle (idleReason?_of_closed running closed)
  tree := by simp [tree?, isDone, running, closed]
  intoTree := by simp [Parser.intoTree, running, closed]
  finish := by simp [Parser.finish, running, closed]

theorem poisoned_of_fails {token : Token} {col : Nat} (fails : Fails parser token col) :
    (parser.feed token col).1.poisoned = true := by
  obtain ⟨failure, failed, other⟩ := fails
  cases poisoned : parser.poisoned with
  | true => rw [feed_of_idle (idleReason?_of_poisoned poisoned), poisoned]
  | false =>
      cases idle : parser.idleReason? with
      | some cause =>
          -- A parser that is idle without being poisoned has nothing open.
          have complete : cause = .alreadyComplete := by
            simp only [idleReason?, poisoned] at idle
            split at idle <;> simp_all
          rw [feed_of_idle idle, complete] at failed
          cases failed
          exact absurd rfl other
      | none =>
          simp only [Parser.feed, idle] at failed ⊢
          split at failed
          · cases failed
          · rfl

theorem feed_of_completes {token : Token} {col : Nat} (completes : Completes parser token col) :
    (parser.feed token col).1.poisoned = false ∧ (parser.feed token col).1.frames = [] := by
  obtain ⟨taken, closed⟩ := completes
  refine ⟨?_, closed⟩
  cases idle : parser.idleReason? with
  | some cause =>
      rw [feed_of_idle idle] at taken
      cases taken
  | none =>
      simp only [Parser.feed, idle] at taken ⊢
      split at taken
      · rfl
      · cases taken

end Parsers

section Histories

variable {grammar : AcceleratedGrammar} {maxDepth : Option Nat} {root : NonterminalId}
  {parser : Parser} {failure : Failure ParseError}

/-- No move on a token blames it for coming after the end. -/
theorem Settles.ne_alreadyComplete {pending : Pending} {spine final : Spine} {events : List Event}
    {result : Except (Failure ParseError) Unit}
    (settles : Settles grammar maxDepth pending spine events final result)
    (failed : result = .error failure) : failure ≠ .error .alreadyComplete := by
  induction settles with
  | onward _ _ ih => exact ih failed
  | consumed _ => cases failed
  | refused refuses =>
      cases failed
      cases refuses <;> simp

theorem Fed.ne_alreadyComplete {token : Token} {col : Nat} {spine final : Spine}
    {events : List Event}
    (fed : Fed grammar maxDepth token col spine events final (.error failure)) :
    failure ≠ .error .alreadyComplete := by
  cases fed with
  | unclassified _ => simp
  | refused _ settles => exact settles.ne_alreadyComplete rfl

theorem Reached.running_of_open (reached : Reached grammar maxDepth root parser)
    (notPoisoned : parser.poisoned = false) (isOpen : parser.frames ≠ []) : Running parser := by
  cases reached with
  | stopped _ => cases notPoisoned
  | @running spine sound =>
      cases spine with
      | closed shape => exact absurd rfl isOpen
      | opened top outer =>
          cases sound with
          | opened threaded =>
              obtain ⟨automaton, found, _⟩ := threaded.inversion
              refine ⟨rfl, rfl, by simp [depth, Spine.parser, Spine.frames, Spine.framesOf], rfl,
                _, _, automaton, rfl, found, ?_⟩
              simp [Parser.intoTree, Spine.parser, Spine.frames, Spine.framesOf, nameOf, found]

/-- A token that neither fails nor completes leaves the parser running. -/
theorem Reached.feed_running (reached : Reached grammar maxDepth root parser)
    (running : Running parser) {token : Token} {col : Nat} (succeeds : ¬ Fails parser token col)
    (incomplete : ¬ Completes parser token col) : Running (parser.feed token col).1 := by
  rcases reached.feed_eq token col with
    ⟨cause, idle⟩ | ⟨top, outer, events, final, result, rfl, sound, fed, stepped⟩
  · rw [feed_of_idle idle]
    exact running
  · cases result with
    | error failure =>
        refine absurd ⟨failure, ?_, fed.ne_alreadyComplete⟩ succeeds
        rw [stepped]
        rfl
    | ok =>
        refine (reached.feed token col).running_of_open ?_ ?_
        · rw [stepped]
          rfl
        · intro closed
          refine incomplete ⟨?_, closed⟩
          rw [stepped]
          rfl

theorem Reached.feeds_running (reached : Reached grammar maxDepth root parser)
    (running : Running parser) {input : List (Token × Nat)}
    (uneventful : ∀ before token col after, input = before ++ (token, col) :: after →
      ¬ Fails (parser.afterFeeds before) token col ∧
        ¬ Completes (parser.afterFeeds before) token col) :
    Running (parser.afterFeeds input) := by
  induction input generalizing parser with
  | nil => exact running
  | cons first rest ih =>
      obtain ⟨token, col⟩ := first
      obtain ⟨succeeds, incomplete⟩ := uneventful [] token col rest rfl
      apply ih (reached.feed token col) (reached.feed_running running succeeds incomplete)
      intro before later laterCol after split
      exact uneventful ((token, col) :: before) later laterCol after (by rw [split]; rfl)

end Histories

/-! ## Main statement -/

/-- Parsers live as long as their tokens let them. A token that fails stops the parser for good, and
a token that completes the start symbol completes it for good: whatever is fed afterwards, the
parser stays exactly as that token left it. While neither has happened, the parser is running. -/
theorem life_of_feeds {network : Network} {options : Options} {parser : Parser}
    (made : Parser.new network options = .ok parser) :
    (∀ before token col after, Fails (parser.afterFeeds before) token col →
      Stopped (parser.afterFeeds (before ++ (token, col) :: after)) ∧
        parser.afterFeeds (before ++ (token, col) :: after) =
          ((parser.afterFeeds before).feed token col).1) ∧
    (∀ before token col after, Completes (parser.afterFeeds before) token col →
      Complete (parser.afterFeeds (before ++ (token, col) :: after)) ∧
        parser.afterFeeds (before ++ (token, col) :: after) =
          ((parser.afterFeeds before).feed token col).1) ∧
    ∀ input, (∀ before token col after, input = before ++ (token, col) :: after →
        ¬ Fails (parser.afterFeeds before) token col ∧
          ¬ Completes (parser.afterFeeds before) token col) →
      Running (parser.afterFeeds input) := by
  refine ⟨?_, ?_, ?_⟩
  · intro before token col after fails
    have poisoned := poisoned_of_fails fails
    rw [afterFeeds_append, afterFeeds, afterFeeds_of_idle (idleReason?_of_poisoned poisoned)]
    exact ⟨stopped_of_poisoned poisoned, rfl⟩
  · intro before token col after completes
    obtain ⟨running, closed⟩ := feed_of_completes completes
    rw [afterFeeds_append, afterFeeds, afterFeeds_of_idle (idleReason?_of_closed running closed)]
    exact ⟨complete_of_closed running closed, rfl⟩
  · intro input uneventful
    obtain ⟨grammar, symbol, automaton, rfl, _, found, rfl⟩ := exists_start_of_new made
    have reached : Reached grammar options.maxDepth symbol
        ((Spine.start symbol automaton).parser grammar options.maxDepth) :=
      .running (sound_start found)
    have isOpen : (Spine.start symbol automaton).frames ≠ [] := by
      simp [Spine.start, Spine.frames, Spine.framesOf]
    exact reached.feeds_running (reached.running_of_open rfl isOpen) uneventful

/-- A parser of nested lists, for the start symbol. -/
def listParser : Parser where
  grammar := listGrammar
  frames := [⟨⟨256⟩, 0, Tree.root⟩]
  tree := Tree.single ⟨256⟩ 0 0
  maxDepth := none
  poisoned := false

/-- A parenthesis that no list takes closes the list and stops the parser, although nothing is open.
A name completes an item, and an opened parenthesis does not. -/
theorem life_of_feeds_list :
    Parser.new (.accelerated listGrammar) {} = .ok listParser ∧
      (listParser.afterFeeds [(⟨.name, "a", 1⟩, 0), (⟨.rightParen, ")", 1⟩, 1)]).frames = [] ∧
      Stopped (listParser.afterFeeds
        [(⟨.name, "a", 1⟩, 0), (⟨.rightParen, ")", 1⟩, 1), (⟨.name, "b", 1⟩, 2)]) ∧
      Complete ((itemParser none).afterFeeds [(⟨.name, "a", 1⟩, 0), (⟨.name, "b", 1⟩, 2)]) ∧
      Running ((itemParser none).afterFeeds [(⟨.leftParen, "(", 1⟩, 0)]) := by
  have made : Parser.new (.accelerated listGrammar) {} = .ok listParser := rfl
  have madeItem : Parser.new (.accelerated listGrammar) ⟨some (.name "item"), none⟩ =
      .ok (itemParser none) := rfl
  refine ⟨made, by cbv, ?_, ?_, ?_⟩
  · refine ((life_of_feeds made).1 [(⟨.name, "a", 1⟩, 0)] ⟨.rightParen, ")", 1⟩ 1 _ ?_).1
    exact ⟨.error (.stackUnderflow ⟨.rightParen, ")", 1⟩ 1), by cbv, by simp⟩
  · exact ((life_of_feeds madeItem).2.1 [] ⟨.name, "a", 1⟩ 0 _ ⟨by cbv, by cbv⟩).1
  · refine (life_of_feeds madeItem).2.2 _ ?_
    intro before token col after split
    cases before with
    | nil =>
        cases split
        refine ⟨?_, ?_⟩
        · rintro ⟨failure, failed, _⟩
          have taken : ((itemParser none).feed ⟨.leftParen, "(", 1⟩ 0).2.result = .ok () := by cbv
          cases taken.symm.trans failed
        · rintro ⟨_, closed⟩
          have depth : ((itemParser none).feed ⟨.leftParen, "(", 1⟩ 0).1.frames.length = 1 := by cbv
          rw [afterFeeds] at closed
          rw [closed] at depth
          cases depth
    | cons first rest => simp at split

end Parser

end TransitionNetwork
