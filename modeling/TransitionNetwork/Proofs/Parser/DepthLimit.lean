import TransitionNetwork.Proofs.Parser.OpenPath

/-!
# Limited depth

A limit on the number of open nonterminals only cuts runs short. A parser with a limit does what one
without does, token by token, up to the first token for which the other one opens a nonterminal
beyond the limit; there it stops and blames the limit. It never has more nonterminals open than the
limit allows, the start symbol apart.
-/

set_option autoImplicit false

namespace TransitionNetwork

/-- Whether the event opens a nonterminal beyond a limit. A push tells how many were open before. -/
def Event.opensBeyond (limit : Nat) : Event → Bool
  | .push _ _ depth => limit < depth + 1
  | .classify .. | .shift .. | .pop .. | .accept | .error _ => false

/-- Whether a nonterminal was opened beyond a limit on the way to this outcome. -/
def Outcome.opensBeyond {α : Type} (limit : Nat) (outcome : Outcome α) : Bool :=
  outcome.events.any (·.opensBeyond limit)

namespace Parser

open Grammar

/-! ## One token -/

section Tokens

variable {grammar : AcceleratedGrammar} {maxDepth : Option Nat} {limit : Nat} {pending : Pending}
  {spine next final : Spine} {event : Event} {events : List Event}
  {result : Except (Failure ParseError) Unit}

theorem Advances.within (advances : Advances grammar none pending spine event next)
    (inside : event.opensBeyond limit = false) :
    Advances grammar (some limit) pending spine event next := by
  cases advances with
  | push tableFound answer innerFound _ =>
      refine .push tableFound answer innerFound ?_
      intro given same
      cases same
      rw [Event.opensBeyond, decide_eq_false_iff_not] at inside
      omega
  | retry tableFound silent accepts => exact .retry tableFound silent accepts

theorem Advances.refuses (advances : Advances grammar none pending spine event next)
    (beyond : event.opensBeyond limit = true) :
    Refuses grammar (some limit) pending spine (.depthLimitExceeded limit) := by
  cases advances with
  | push tableFound answer _ _ =>
      refine .limited tableFound answer rfl ?_
      rw [Event.opensBeyond, decide_eq_true_iff] at beyond
      omega
  | retry _ _ _ => cases beyond

theorem Refuses.within {cause : ParseError} (refuses : Refuses grammar none pending spine cause) :
    Refuses grammar (some limit) pending spine cause := by
  cases refuses with
  | underflow => exact .underflow
  | limited _ _ given _ => cases given
  | rejected tableFound silent blocked => exact .rejected tableFound silent blocked

theorem Settles.within (settles : Settles grammar none pending spine events final result)
    (inside : events.any (·.opensBeyond limit) = false) :
    Settles grammar (some limit) pending spine events final result := by
  induction settles with
  | onward advances _ ih =>
      rw [List.any_cons, Bool.or_eq_false_iff] at inside
      exact .onward (advances.within inside.1) (ih inside.2)
  | consumed consumes => exact .consumed consumes
  | refused refuses => exact .refused refuses.within

/-- The moves up to the one that goes beyond the limit are made, and that one is refused. -/
theorem Settles.cut_short (settles : Settles grammar none pending spine events final result)
    (beyond : events.any (·.opensBeyond limit) = true) :
    ∃ moves stop, Settles grammar (some limit) pending spine moves stop
      (.error (.error (.depthLimitExceeded limit))) := by
  induction settles with
  | @onward spine _ _ event _ _ advances _ ih =>
      cases here : event.opensBeyond limit with
      | true => exact ⟨[], spine, .refused (advances.refuses here)⟩
      | false =>
          rw [List.any_cons, here, Bool.false_or] at beyond
          obtain ⟨moves, stop, onward⟩ := ih beyond
          exact ⟨event :: moves, stop, .onward (advances.within here) onward⟩
  | consumed consumes =>
      cases consumes with
      | shift _ _ => cases beyond
  | refused _ => cases beyond

theorem Collapses.opensBeyond (collapses : Collapses grammar spine events final) :
    events.any (·.opensBeyond limit) = false := by
  induction collapses with
  | complete => rfl
  | pop _ _ _ ih => exact ih
  | pause _ _ => rfl

theorem Fed.within {token : Token} {col : Nat}
    (fed : Fed grammar none token col spine events final result)
    (inside : events.any (·.opensBeyond limit) = false) :
    Fed grammar (some limit) token col spine events final result := by
  cases fed with
  | unclassified missing => exact .unclassified missing
  | refused classified settles => exact .refused classified (settles.within inside)
  | taken classified settles collapses =>
      rw [List.any_cons, List.any_append, Event.opensBeyond, Bool.false_or,
        Bool.or_eq_false_iff] at inside
      exact .taken classified (settles.within inside.1) collapses

theorem Fed.cut_short {token : Token} {col : Nat}
    (fed : Fed grammar none token col spine events final result)
    (beyond : events.any (·.opensBeyond limit) = true) :
    ∃ moves stop, Fed grammar (some limit) token col spine moves stop
      (.error (.error (.depthLimitExceeded limit))) := by
  cases fed with
  | unclassified _ => cases beyond
  | refused classified settles =>
      obtain ⟨moves, stop, limited⟩ := settles.cut_short beyond
      exact ⟨_, stop, .refused classified limited⟩
  | taken classified settles collapses =>
      rw [List.any_cons, List.any_append, collapses.opensBeyond, Bool.or_false] at beyond
      obtain ⟨moves, stop, limited⟩ := settles.cut_short beyond
      exact ⟨_, stop, .refused classified limited⟩

theorem Advances.depth_le (advances : Advances grammar (some limit) pending spine event next) :
    next.frames.length ≤ max limit spine.frames.length := by
  cases advances with
  | push _ _ _ free =>
      have inside := free limit rfl
      simp only [Spine.frames_opened, Spine.framesOf, List.length_cons, Spine.length_framesOf]
      omega
  | retry _ _ _ =>
      rw [Spine.frames_close, Spine.frames_opened, List.length_cons]
      omega

theorem Settles.depth_le
    (settles : Settles grammar (some limit) pending spine events final result) :
    final.frames.length ≤ max limit spine.frames.length := by
  induction settles with
  | onward advances _ ih =>
      -- The limit may be below the depth at the start: it is one with a limit of zero.
      have first := advances.depth_le
      omega
  | consumed consumes =>
      cases consumes with
      | shift _ _ => exact Nat.le_max_right _ _
  | refused _ => exact Nat.le_max_right _ _

theorem Collapses.depth_le (collapses : Collapses grammar spine events final) :
    final.frames.length ≤ spine.frames.length := by
  induction collapses with
  | complete => exact Nat.le_refl _
  | pop _ _ _ ih =>
      rw [Spine.frames_close] at ih
      rw [Spine.frames_opened, List.length_cons]
      omega
  | pause _ _ => exact Nat.le_refl _

theorem Fed.depth_le {token : Token} {col : Nat}
    (fed : Fed grammar (some limit) token col spine events final result) :
    final.frames.length ≤ max limit spine.frames.length := by
  cases fed with
  | unclassified _ => exact Nat.le_max_right _ _
  | refused _ settles => exact settles.depth_le
  | taken _ settles collapses => exact Nat.le_trans collapses.depth_le settles.depth_le

end Tokens

/-! ## Whole runs -/

/-- The parser as it would be with a limit. -/
def limitedTo (parser : Parser) (limit : Nat) : Parser :=
  { parser with maxDepth := some limit }

theorem new_limitedTo {network : Network} {start : Option StartSymbol} {free : Parser}
    (made : Parser.new network ⟨start, none⟩ = .ok free) (limit : Nat) :
    Parser.new network ⟨start, some limit⟩ = .ok (free.limitedTo limit) := by
  cases network with
  | plain grammar => cases made
  | accelerated grammar =>
      simp only [Parser.new] at made ⊢
      split at made
      · cases made
      · next automaton text chosen =>
          cases made
          rfl

theorem depth_of_new {network : Network} {options : Options} {parser : Parser}
    (made : Parser.new network options = .ok parser) : parser.depth = 1 := by
  obtain ⟨_, _, _, _, _, _, rfl⟩ := exists_start_of_new made
  rfl

/-- A limit matters only for feeding. -/
theorem finish_limitedTo (parser : Parser) (limit : Nat) :
    (parser.limitedTo limit).finish = parser.finish := rfl

section Histories

variable {grammar : AcceleratedGrammar} {maxDepth : Option Nat} {limit : Nat}
  {root : NonterminalId} {parser : Parser}

/-- A failure that is reported opens nothing. -/
theorem opensBeyond_ended (events : List Event) (final : Spine)
    (result : Except (Failure ParseError) Unit) :
    (ended grammar maxDepth events final result).2.opensBeyond limit =
      events.any (·.opensBeyond limit) := by
  cases result with
  | ok => rfl
  | error failure =>
      have silent : (failureEvents failure).any (·.opensBeyond limit) = false := by
        cases failure <;> rfl
      rw [ended, Outcome.opensBeyond, List.any_append, silent, Bool.or_false]

theorem ended_limitedTo (events : List Event) (final : Spine)
    (result : Except (Failure ParseError) Unit) :
    ended grammar (some limit) events final result =
      ((ended grammar maxDepth events final result).1.limitedTo limit,
        (ended grammar maxDepth events final result).2) := by
  cases result <;> rfl

theorem Reached.feed_within (reached : Reached grammar none root parser) {token : Token}
    {col : Nat} (inside : (parser.feed token col).2.opensBeyond limit = false) :
    (parser.limitedTo limit).feed token col =
      ((parser.feed token col).1.limitedTo limit, (parser.feed token col).2) := by
  rcases reached.feed_eq token col with
    ⟨cause, idle⟩ | ⟨top, outer, events, final, result, rfl, sound, fed, stepped⟩
  · have idleToo : (parser.limitedTo limit).idleReason? = some cause := idle
    rw [feed_of_idle idle, feed_of_idle idleToo]
  · rw [stepped, opensBeyond_ended] at inside
    rw [stepped, ← ended_limitedTo]
    exact feed_of_fed sound (fed.within inside)

theorem Reached.feed_beyond (reached : Reached grammar none root parser) {token : Token}
    {col : Nat} (beyond : (parser.feed token col).2.opensBeyond limit = true) :
    ((parser.limitedTo limit).feed token col).2.result =
        .error (.error (.depthLimitExceeded limit)) ∧
      ((parser.limitedTo limit).feed token col).1.poisoned = true := by
  rcases reached.feed_eq token col with
    ⟨cause, idle⟩ | ⟨top, outer, events, final, result, rfl, sound, fed, stepped⟩
  · rw [feed_of_idle idle] at beyond
    cases beyond
  · rw [stepped, opensBeyond_ended] at beyond
    obtain ⟨moves, stop, limited⟩ := fed.cut_short beyond
    have stops : (((Spine.opened top outer).parser grammar none).limitedTo limit).feed token col =
        _ := feed_of_fed sound limited
    rw [stops]
    exact ⟨rfl, rfl⟩

theorem Reached.feeds_within (reached : Reached grammar none root parser)
    {input : List (Token × Nat)}
    (inside : ∀ outcome ∈ parser.outcomes input, outcome.opensBeyond limit = false) :
    (parser.limitedTo limit).outcomes input = parser.outcomes input ∧
      (parser.limitedTo limit).afterFeeds input = (parser.afterFeeds input).limitedTo limit := by
  induction input generalizing parser with
  | nil => exact ⟨rfl, rfl⟩
  | cons first rest ih =>
      obtain ⟨token, col⟩ := first
      rw [outcomes, List.forall_mem_cons] at inside
      have step := reached.feed_within inside.1
      obtain ⟨outcomesAgree, statesAgree⟩ := ih (reached.feed token col) inside.2
      simp only [outcomes, Parser.afterFeeds, step, outcomesAgree, statesAgree, and_self]

theorem Reached.feed_depth_le (reached : Reached grammar (some limit) root parser) (token : Token)
    (col : Nat) : (parser.feed token col).1.depth ≤ max limit parser.depth := by
  rcases reached.feed_eq token col with
    ⟨cause, idle⟩ | ⟨top, outer, events, final, result, rfl, _, fed, stepped⟩
  · rw [feed_of_idle idle]
    exact Nat.le_max_right _ _
  · rw [stepped, depth, frames_ended]
    exact fed.depth_le

theorem Reached.feeds_depth_le (reached : Reached grammar (some limit) root parser)
    (input : List (Token × Nat)) : (parser.afterFeeds input).depth ≤ max limit parser.depth := by
  induction input generalizing parser with
  | nil => exact Nat.le_max_right _ _
  | cons first rest ih =>
      have step := reached.feed_depth_le first.1 first.2
      have others := ih (reached.feed first.1 first.2)
      rw [Parser.afterFeeds]
      omega

end Histories

/-! ## Main statement -/

/-- A limit only cuts runs short. As long as a parser without limit opens no nonterminal beyond the
limit, a parser with it, for the same start symbol, reports and returns the same for every token, is
in the same state but for the limit, and finishes in the same way. For the first token that makes
the one without limit go beyond, the one with it blames the limit and is stopped. It never has more
open nonterminals than the limit, or one if the limit is zero. -/
theorem limit_only_cuts_short {network : Network} {start : Option StartSymbol} {limit : Nat}
    {limited free : Parser} (madeLimited : Parser.new network ⟨start, some limit⟩ = .ok limited)
    (madeFree : Parser.new network ⟨start, none⟩ = .ok free) :
    (∀ input, (∀ outcome ∈ free.outcomes input, outcome.opensBeyond limit = false) →
      limited.outcomes input = free.outcomes input ∧
      limited.afterFeeds input = { free.afterFeeds input with maxDepth := some limit } ∧
      (limited.afterFeeds input).finish = (free.afterFeeds input).finish) ∧
    (∀ input token col, (∀ outcome ∈ free.outcomes input, outcome.opensBeyond limit = false) →
      ((free.afterFeeds input).feed token col).2.opensBeyond limit = true →
      ((limited.afterFeeds input).feed token col).2.result =
          .error (.error (.depthLimitExceeded limit)) ∧
        ((limited.afterFeeds input).feed token col).1.poisoned = true) ∧
    ∀ input, (limited.afterFeeds input).depth ≤ max limit 1 := by
  obtain rfl := Except.ok.inj (madeLimited.symm.trans (new_limitedTo madeFree limit))
  obtain ⟨_, _, rfl, _, reached⟩ := exists_reached_of_new madeFree
  obtain ⟨_, _, _, _, reachedLimited⟩ := exists_reached_of_new madeLimited
  refine ⟨?_, ?_, ?_⟩
  · intro input inside
    obtain ⟨outcomesAgree, statesAgree⟩ := reached.feeds_within inside
    exact ⟨outcomesAgree, statesAgree, by rw [statesAgree, finish_limitedTo]⟩
  · intro input token col inside beyond
    rw [(reached.feeds_within inside).2]
    exact (reached.afterFeeds input).feed_beyond beyond
  · intro input
    have bound := reachedLimited.feeds_depth_le input
    rwa [depth_of_new madeLimited] at bound

/-- With two open nonterminals allowed, the parenthesis is taken as without limit; the name after it
would open a third one. -/
theorem limit_only_cuts_short_item :
    Parser.new (.accelerated listGrammar) ⟨some (.name "item"), some 2⟩ =
        .ok (itemParser (some 2)) ∧
      Parser.new (.accelerated listGrammar) ⟨some (.name "item"), none⟩ =
        .ok (itemParser none) ∧
      (itemParser (some 2)).outcomes (listInput.take 1) =
        (itemParser none).outcomes (listInput.take 1) ∧
      (((itemParser none).afterFeeds (listInput.take 1)).feed ⟨.name, "a", 1⟩ 1).2.result =
        .ok () ∧
      (((itemParser (some 2)).afterFeeds (listInput.take 1)).feed ⟨.name, "a", 1⟩ 1).2.result =
        .error (.error (.depthLimitExceeded 2)) := by
  have madeLimited : Parser.new (.accelerated listGrammar) ⟨some (.name "item"), some 2⟩ =
      .ok (itemParser (some 2)) := rfl
  have madeFree : Parser.new (.accelerated listGrammar) ⟨some (.name "item"), none⟩ =
      .ok (itemParser none) := rfl
  have inside : ∀ outcome ∈ (itemParser none).outcomes (listInput.take 1),
      outcome.opensBeyond 2 = false := by
    have checked : ((itemParser none).outcomes (listInput.take 1)).all
        (fun outcome => !outcome.opensBeyond 2) = true := by cbv
    simpa using checked
  have beyond : (((itemParser none).afterFeeds (listInput.take 1)).feed ⟨.name, "a", 1⟩
      1).2.opensBeyond 2 = true := by cbv
  obtain ⟨agrees, stops, _⟩ := limit_only_cuts_short madeLimited madeFree
  exact ⟨madeLimited, madeFree, (agrees _ inside).1, by cbv, (stops _ _ _ inside beyond).1⟩

end Parser

end TransitionNetwork
