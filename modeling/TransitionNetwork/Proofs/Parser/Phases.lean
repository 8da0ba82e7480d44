import TransitionNetwork.Proofs.Parser.Safety

/-!
# Phases of a feed

A token that is fed passes through phases in a fixed order. It is classified; nonterminals that may
end and do not take it are closed; nonterminals that can begin with it are opened, one below the
other; it is consumed; and what it completes is closed. No nonterminal is opened twice for one
token, and once one has been opened, only a limit on the depth can keep the token from being
consumed.
-/

set_option autoImplicit false

namespace TransitionNetwork

inductive Phase where
  | classify
  | retry
  | push
  | shift
  | collapse
  | endOfInput
  | accept
  | error
  deriving DecidableEq, Repr

namespace Event

def phase : Event → Phase
  | .classify .. => .classify
  | .shift .. => .shift
  | .push .. => .push
  | .pop _ .retry _ => .retry
  | .pop _ .collapse _ => .collapse
  | .pop _ .endOfInput _ => .endOfInput
  | .accept => .accept
  | .error _ => .error

def opened? : Event → Option NonterminalId
  | .push nonterminal _ _ => some nonterminal
  | .classify .. | .shift .. | .pop .. | .accept | .error _ => none

theorem opened?_eq_none {event : Event} (other : event.phase ≠ .push) : event.opened? = none := by
  cases event with
  | push _ _ _ => exact absurd rfl other
  | classify _ _ | shift _ _ _ | pop _ _ _ | accept | error _ => rfl

end Event

/-- The nonterminals that some events tell the opening of, in order. -/
def openedIn (events : List Event) : List NonterminalId :=
  events.filterMap Event.opened?

theorem openedIn_append (left right : List Event) :
    openedIn (left ++ right) = openedIn left ++ openedIn right :=
  List.filterMap_append

theorem openedIn_eq_nil {events : List Event} (none : ∀ event ∈ events, event.phase ≠ .push) :
    openedIn events = [] := by
  rw [openedIn, List.filterMap_eq_nil_iff]
  intro event member
  exact Event.opened?_eq_none (none event member)

namespace Parser

open Grammar

/-! ## Moves of one phase -/

/-- Any number of moves on a pending token, all of one phase. -/
inductive Proceeds (grammar : AcceleratedGrammar) (maxDepth : Option Nat) (pending : Pending)
    (phase : Phase) : Spine → List Event → Spine → Prop where
  | done {spine : Spine} : Proceeds grammar maxDepth pending phase spine [] spine
  | step {spine next final : Spine} {event : Event} {events : List Event} :
      Advances grammar maxDepth pending spine event next → event.phase = phase →
      Proceeds grammar maxDepth pending phase next events final →
      Proceeds grammar maxDepth pending phase spine (event :: events) final

/-- The move that ends the work on a pending token. -/
inductive Decides (grammar : AcceleratedGrammar) (maxDepth : Option Nat) (pending : Pending) :
    Spine → List Event → Spine → Except (Failure ParseError) Unit → Prop where
  | consumed {spine next : Spine} {event : Event} : Consumes grammar pending spine event next →
      Decides grammar maxDepth pending spine [event] next (.ok ())
  | refused {spine : Spine} {cause : ParseError} : Refuses grammar maxDepth pending spine cause →
      Decides grammar maxDepth pending spine [] spine (.error (.error cause))

section Tokens

variable {grammar : AcceleratedGrammar} {maxDepth : Option Nat} {pending : Pending}
  {root : NonterminalId} {phase : Phase} {spine middle last final : Spine} {events : List Event}
  {result : Except (Failure ParseError) Unit}

theorem Proceeds.phase_eq (proceeds : Proceeds grammar maxDepth pending phase spine events final) :
    ∀ event ∈ events, event.phase = phase := by
  induction proceeds with
  | done => simp
  | step _ inPhase _ ih =>
      intro event member
      rcases List.mem_cons.mp member with rfl | later
      · exact inPhase
      · exact ih event later

theorem Proceeds.sound (proceeds : Proceeds grammar maxDepth pending phase spine events final)
    (sound : Sound grammar.grammar root spine) : Sound grammar.grammar root final := by
  induction proceeds with
  | done => exact sound
  | step advances _ _ ih => exact ih (advances.sound sound)

theorem Decides.phase_eq (decides : Decides grammar maxDepth pending spine events final result) :
    ∀ event ∈ events, event.phase = .shift := by
  cases decides with
  | consumed consumes =>
      cases consumes with
      | shift _ _ => simp [Event.phase]
  | refused _ => simp

theorem Advances.phase_cases {event : Event} {next : Spine}
    (advances : Advances grammar maxDepth pending spine event next) :
    event.phase = .retry ∨ event.phase = .push := by
  cases advances with
  | push _ _ _ _ => exact .inr rfl
  | retry _ _ _ => exact .inl rfl

theorem Advances.opening {event : Event} {next : Spine}
    (advances : Advances grammar maxDepth pending spine event next)
    (sound : Sound grammar.grammar root spine) (pushes : event.phase = .push) :
    ∃ inner around, next = .opened inner around ∧ Opening grammar pending.label inner [] ∧
      event.opened? = some inner.symbol := by
  cases advances with
  | retry _ _ _ => cases pushes
  | push tableFound answer innerFound _ =>
      exact ⟨_, _, rfl, Opening.of_push sound tableFound answer innerFound, rfl⟩

/-- A nonterminal that was opened for the token does not leave it to its parent. -/
theorem Opening.no_retry {top : OpenNode} {outer : List OpenNode} {before : List NonterminalId}
    (opening : Opening grammar pending.label top before)
    (proceeds : Proceeds grammar maxDepth pending .retry (.opened top outer) events final) :
    events = [] ∧ final = .opened top outer := by
  cases proceeds with
  | done => exact ⟨rfl, rfl⟩
  | step advances inPhase _ =>
      cases advances with
      | push _ _ _ _ => cases inPhase
      | retry tableFound silent _ =>
          obtain ⟨_, answer⟩ := opening.lookup tableFound
          cases silent.symm.trans answer

/-- The moves on a token are closings, then openings, then the one that decides. -/
theorem Settles.phases (settles : Settles grammar maxDepth pending spine events final result)
    (sound : Sound grammar.grammar root spine) : ∃ retries middle pushes last ending,
      Proceeds grammar maxDepth pending .retry spine retries middle ∧
      Proceeds grammar maxDepth pending .push middle pushes last ∧
      Decides grammar maxDepth pending last ending final result ∧
      events = retries ++ pushes ++ ending := by
  induction settles with
  | consumed consumes => exact ⟨[], _, [], _, _, .done, .done, .consumed consumes, rfl⟩
  | refused refuses => exact ⟨[], _, [], _, _, .done, .done, .refused refuses, rfl⟩
  | @onward _ _ _ event _ _ advances _ ih =>
      obtain ⟨retries, middle, pushes, last, ending, closes, opens, decides, rfl⟩ :=
        ih (advances.sound sound)
      rcases advances.phase_cases with retry | push
      · exact ⟨event :: retries, middle, pushes, last, ending, .step advances retry closes, opens,
          decides, rfl⟩
      · -- The nonterminal just opened takes the token, so nothing is closed from here on.
        obtain ⟨inner, around, rfl, opening, _⟩ := advances.opening sound push
        obtain ⟨rfl, rfl⟩ := opening.no_retry closes
        exact ⟨[], _, event :: pushes, last, ending, .done, .step advances push opens, decides, rfl⟩

/-! ## The nonterminals opened for a token -/

theorem Opening.proceed {top : OpenNode} {outer : List OpenNode} {before : List NonterminalId}
    (opening : Opening grammar pending.label top before)
    (proceeds : Proceeds grammar maxDepth pending .push (.opened top outer) events final) :
    ∃ inner around earlier, final = .opened inner around ∧
      Opening grammar pending.label inner earlier ∧
      inner.symbol :: earlier = (openedIn events).reverse ++ top.symbol :: before := by
  generalize fromTop : Spine.opened top outer = start at proceeds
  induction proceeds generalizing top outer before with
  | done =>
      subst fromTop
      exact ⟨top, outer, before, rfl, opening, rfl⟩
  | step advances inPhase _ ih =>
      subst fromTop
      cases advances with
      | retry _ _ _ => cases inPhase
      | push tableFound answer innerFound _ =>
          obtain ⟨inner, around, earlier, rfl, reaches, symbols⟩ :=
            ih (opening.push tableFound answer innerFound) rfl
          refine ⟨inner, around, earlier, rfl, reaches, ?_⟩
          rw [symbols]
          simp [openedIn, Event.opened?]

theorem Proceeds.opening (proceeds : Proceeds grammar maxDepth pending .push spine events final)
    (sound : Sound grammar.grammar root spine) (nonempty : events ≠ []) :
    ∃ inner around earlier, final = .opened inner around ∧
      Opening grammar pending.label inner earlier ∧
      inner.symbol :: earlier = (openedIn events).reverse := by
  cases proceeds with
  | done => exact absurd rfl nonempty
  | step advances inPhase onward =>
      obtain ⟨first, _, rfl, opening, symbol⟩ := advances.opening sound inPhase
      obtain ⟨inner, around, earlier, rfl, reaches, symbols⟩ := opening.proceed onward
      refine ⟨inner, around, earlier, rfl, reaches, ?_⟩
      rw [symbols, openedIn, openedIn, List.filterMap_cons_some symbol, List.reverse_cons]

theorem Proceeds.distinct (proceeds : Proceeds grammar maxDepth pending .push spine events final)
    (sound : Sound grammar.grammar root spine) :
    (openedIn events).Nodup ∧ (openedIn events).length ≤ grammar.grammar.automata.size := by
  by_cases empty : events = []
  · subst empty
    simp [openedIn]
  · obtain ⟨inner, _, earlier, _, opening, symbols⟩ := proceeds.opening sound empty
    have distinct := opening.distinct
    have bounded := opening.length_le
    rw [← @List.length_cons _ inner.symbol, symbols, List.length_reverse] at bounded
    rw [symbols, List.nodup_reverse] at distinct
    exact ⟨distinct, bounded⟩

/-- Only a limit refuses a token for which a nonterminal was opened. -/
theorem Proceeds.limited {cause : ParseError}
    (proceeds : Proceeds grammar maxDepth pending .push spine events last)
    (sound : Sound grammar.grammar root spine) (nonempty : events ≠ [])
    (refuses : Refuses grammar maxDepth pending last cause) :
    ∃ limit, maxDepth = some limit ∧ cause = .depthLimitExceeded limit := by
  obtain ⟨inner, around, earlier, rfl, opening, _⟩ := proceeds.opening sound nonempty
  cases refuses with
  | limited _ _ given _ => exact ⟨_, given, rfl⟩
  | rejected tableFound silent _ =>
      obtain ⟨_, answer⟩ := opening.lookup tableFound
      cases silent.symm.trans answer

/-! ## Whole feeds -/

theorem Collapses.phases (collapses : Collapses grammar spine events final) :
    ∃ closings, events = closings ++ (if final.frames.isEmpty then [Event.accept] else []) ∧
      ∀ event ∈ closings, event.phase = .collapse := by
  induction collapses with
  | complete => exact ⟨[], rfl, by simp⟩
  | pause _ _ => exact ⟨[], rfl, by simp⟩
  | pop _ _ _ ih =>
      obtain ⟨closings, rfl, inPhase⟩ := ih
      refine ⟨_ :: closings, rfl, ?_⟩
      intro event member
      rcases List.mem_cons.mp member with rfl | later
      · rfl
      · exact inPhase event later

theorem Collapses.phase_ne (collapses : Collapses grammar spine events final) :
    ∀ event ∈ events, event.phase ≠ .push ∧ event.phase ≠ .retry := by
  obtain ⟨closings, rfl, inPhase⟩ := collapses.phases
  intro event member
  rcases List.mem_append.mp member with closing | ending
  · simp [inPhase event closing]
  · split at ending
    · rw [List.mem_singleton.mp ending]
      simp [Event.phase]
    · cases ending

/-- What is known of a feed, however it ends: nothing is closed for the token once something was
opened for it, nothing is opened twice, and then only a limit makes it fail. -/
structure Ordered (grammar : AcceleratedGrammar) (maxDepth : Option Nat) (events : List Event)
    (result : Except (Failure ParseError) Unit) : Prop where
  no_retry : events.Pairwise fun earlier later => earlier.phase = .push → later.phase ≠ .retry
  distinct : (openedIn events).Nodup
  bounded : (openedIn events).length ≤ grammar.grammar.automata.size
  limited : openedIn events ≠ [] → ∀ failure, result = .error failure →
    ∃ limit, maxDepth = some limit ∧ failure = .error (.depthLimitExceeded limit)

theorem pairwise_of_split {front back : List Event} (silent : ∀ event ∈ front, event.phase ≠ .push)
    (steady : ∀ event ∈ back, event.phase ≠ .retry) :
    (front ++ back).Pairwise fun earlier later => earlier.phase = .push →
      later.phase ≠ .retry := by
  rw [List.pairwise_append]
  refine ⟨?_, ?_, ?_⟩
  · apply List.pairwise_of_forall_mem_list
    intro earlier member _ _ pushes
    exact absurd pushes (silent earlier member)
  · apply List.pairwise_of_forall_mem_list
    intro _ _ later member _
    exact steady later member
  · intro earlier member _ _ pushes
    exact absurd pushes (silent earlier member)

theorem Settles.ordered {token : Token} {label : LabelId} {moves trailing : List Event}
    (settles : Settles grammar maxDepth pending spine moves final result)
    (sound : Sound grammar.grammar root spine)
    (steady : ∀ event ∈ trailing, event.phase ≠ .push ∧ event.phase ≠ .retry) :
    Ordered grammar maxDepth (.classify token label :: (moves ++ trailing)) result := by
  obtain ⟨retries, middle, pushes, last, ending, closes, opens, decides, rfl⟩ :=
    settles.phases sound
  have soundMiddle := closes.sound sound
  have front : ∀ event ∈ Event.classify token label :: retries, event.phase ≠ .push := by
    intro event member
    rcases List.mem_cons.mp member with rfl | retry
    · simp [Event.phase]
    · simp [closes.phase_eq event retry]
  have back : ∀ event ∈ ending ++ trailing, event.phase ≠ .push ∧ event.phase ≠ .retry := by
    intro event member
    rcases List.mem_append.mp member with deciding | later
    · simp [decides.phase_eq event deciding]
    · exact steady event later
  have split : Event.classify token label :: (retries ++ pushes ++ ending ++ trailing) =
      (.classify token label :: retries) ++ (pushes ++ (ending ++ trailing)) := by simp
  have opened : openedIn ((.classify token label :: retries) ++ (pushes ++ (ending ++ trailing))) =
      openedIn pushes := by
    rw [openedIn_append, openedIn_append, openedIn_eq_nil front,
      openedIn_eq_nil fun event member => (back event member).1, List.nil_append, List.append_nil]
  obtain ⟨distinct, bounded⟩ := opens.distinct soundMiddle
  rw [split]
  refine ⟨?_, opened ▸ distinct, opened ▸ bounded, ?_⟩
  · apply pairwise_of_split front
    intro event member
    rcases List.mem_append.mp member with push | later
    · simp [opens.phase_eq event push]
    · exact (back event later).2
  · rw [opened]
    intro nonempty failure failed
    cases decides with
    | consumed _ => cases failed
    | refused refuses =>
        cases failed
        have pushed : pushes ≠ [] := by
          rintro rfl
          exact nonempty rfl
        obtain ⟨limit, given, rfl⟩ := opens.limited soundMiddle pushed refuses
        exact ⟨limit, given, rfl⟩

theorem phase_of_failure (failure : Failure ParseError) :
    ∀ event ∈ failureEvents failure, event.phase ≠ .push ∧ event.phase ≠ .retry := by
  cases failure with
  | error cause => simp [failureEvents, Event.phase]
  | fault fault => simp [failureEvents]

theorem Fed.ordered {token : Token} {col : Nat}
    (fed : Fed grammar maxDepth token col spine events final result)
    (sound : Sound grammar.grammar root spine) :
    Ordered grammar maxDepth (ended grammar maxDepth events final result).2.events result := by
  cases fed with
  | unclassified _ =>
      have silent : openedIn (ended grammar maxDepth [] spine (.error (.error
          (.illegalToken token col .unclassified)))).2.events = [] := rfl
      exact ⟨by simp [ended, failureEvents], by simp [silent], by simp [silent],
        fun opened => absurd silent opened⟩
  | @refused _ _ _ failure _ settles => exact settles.ordered sound (phase_of_failure failure)
  | taken _ settles collapses => exact settles.ordered sound collapses.phase_ne

theorem Fed.phases {token : Token} {col : Nat}
    (fed : Fed grammar maxDepth token col spine events final (.ok ()))
    (sound : Sound grammar.grammar root spine) :
    ∃ label retries pushes target depth closings, grammar.grammar.classify token = some label ∧
      events = Event.classify token label :: (retries ++ pushes ++ Event.shift token target depth ::
        (closings ++ if final.frames.isEmpty then [Event.accept] else [])) ∧
      (∀ event ∈ retries, event.phase = .retry) ∧ (∀ event ∈ pushes, event.phase = .push) ∧
      ∀ event ∈ closings, event.phase = .collapse := by
  cases fed with
  | @taken _ _ label _ _ classified settles collapses =>
      obtain ⟨retries, _, pushes, _, ending, closes, opens, decides, rfl⟩ := settles.phases sound
      obtain ⟨closings, rfl, collapsing⟩ := collapses.phases
      cases decides with
      | consumed consumes =>
          cases consumes with
          | @shift _ outer _ target _ _ =>
              refine ⟨label, retries, pushes, target, outer.length + 1, closings, classified, ?_,
                closes.phase_eq, opens.phase_eq, collapsing⟩
              simp only [List.append_assoc, List.cons_append, List.nil_append]

/-- The bound on the moves is never met, so every bound beyond it gives the same. -/
theorem settle_of_enough {top : OpenNode} {outer : List OpenNode} {fewer more : Nat}
    (sound : Sound grammar.grammar root (.opened top outer))
    (enough : outer.length + 1 + grammar.grammar.automata.size < fewer) (le : fewer ≤ more)
    (trail : Array Event) :
    settle grammar maxDepth pending more (Spine.opened top outer).frames
        (Spine.opened top outer).tree trail =
      settle grammar maxDepth pending fewer (Spine.opened top outer).frames
        (Spine.opened top outer).tree trail := by
  have within : SettlesWithin grammar maxDepth pending fewer (.opened top outer) :=
    settlesWithin sound enough
  have beyond : SettlesWithin grammar maxDepth pending more (.opened top outer) :=
    settlesWithin sound (Nat.lt_of_lt_of_le enough le)
  obtain ⟨moves, final, result, settles, settled⟩ := within trail
  obtain ⟨again, other, same, settlesAgain, settledAgain⟩ := beyond trail
  obtain ⟨rfl, rfl, rfl⟩ := settles.unique settlesAgain
  rw [settled, settledAgain]

end Tokens

/-! ## Main statement -/

theorem Reached.feed_of_running {grammar : AcceleratedGrammar} {maxDepth : Option Nat}
    {root : NonterminalId} {parser : Parser} (reached : Reached grammar maxDepth root parser)
    (notDone : parser.isDone = false) (notPoisoned : parser.poisoned = false) (token : Token)
    (col : Nat) : ∃ top outer events final result,
      parser = (Spine.opened top outer).parser grammar maxDepth ∧
      Sound grammar.grammar root (.opened top outer) ∧
      Fed grammar maxDepth token col (.opened top outer) events final result ∧
      parser.feed token col = ended grammar maxDepth events final result := by
  rcases reached.feed_eq token col with ⟨cause, idle⟩ | fed
  · simp only [isDone, notPoisoned, Bool.not_false, Bool.and_true] at notDone
    simp [idleReason?, notPoisoned, notDone] at idle
  · exact fed

/-- Feeds have phases. Feeding a token to a parser that is neither complete nor stopped takes a
bounded number of moves, and a larger bound changes nothing. The events of a token that is taken
are its classification, closings of nonterminals that leave it to their parents, openings, its
consumption, closings of what can only end, and the end of the start symbol exactly if nothing is
open any more. However the feed ends, no nonterminal is opened twice, and after the first opening
nothing is closed for the token and only the limit on the depth makes it fail. -/
theorem phases_of_feed {network : Network} {options : Options} {parser before : Parser}
    {input : List (Token × Nat)} (made : Parser.new network options = .ok parser)
    (history : parser.afterFeeds input = before) (notDone : before.isDone = false)
    (notPoisoned : before.poisoned = false) (token : Token) (col : Nat) :
    (∀ label bound trail, before.depth + network.grammar.automata.size < bound →
      settle before.grammar before.maxDepth ⟨token, col, label⟩ bound before.frames before.tree
          trail =
        settle before.grammar before.maxDepth ⟨token, col, label⟩
          (before.depth + network.grammar.automata.size + 1) before.frames before.tree trail) ∧
    (∀ failure, (before.feed token col).2.result = .error failure →
      ∃ cause, failure = .error cause) ∧
    ((before.feed token col).2.result = .ok () →
      ∃ label retries pushes target depth closings,
        network.grammar.classify token = some label ∧
        (before.feed token col).2.events =
          Event.classify token label :: (retries ++ pushes ++ Event.shift token target depth ::
            (closings ++
              if (before.feed token col).1.frames.isEmpty then [Event.accept] else [])) ∧
        (∀ event ∈ retries, event.phase = .retry) ∧ (∀ event ∈ pushes, event.phase = .push) ∧
        ∀ event ∈ closings, event.phase = .collapse) ∧
    (openedIn (before.feed token col).2.events).Nodup ∧
    (openedIn (before.feed token col).2.events).length ≤ network.grammar.automata.size ∧
    ((before.feed token col).2.events.Pairwise fun earlier later =>
      earlier.phase = .push → later.phase ≠ .retry) ∧
    (openedIn (before.feed token col).2.events ≠ [] →
      ∀ failure, (before.feed token col).2.result = .error failure →
        ∃ limit, before.maxDepth = some limit ∧ failure = .error (.depthLimitExceeded limit)) := by
  obtain ⟨grammar, symbol, rfl, _, reached⟩ := exists_reached_of_new made
  have stands := reached.afterFeeds input
  rw [history] at stands
  obtain ⟨top, outer, events, final, result, rfl, sound, fed, stepped⟩ :=
    stands.feed_of_running notDone notPoisoned token col
  have ordered := fed.ordered sound
  have answer : (ended grammar options.maxDepth events final result).2.result = result := by
    cases result <;> rfl
  rw [stepped, answer, frames_ended]
  refine ⟨?_, ?_, ?_, ordered.distinct, ordered.bounded, ordered.no_retry, ordered.limited⟩
  · intro label bound trail enough
    refine settle_of_enough sound ?_ enough trail
    simp [depth, Spine.parser, Spine.frames_opened, Network.grammar]
  · rintro failure rfl
    obtain ⟨cause, same, _⟩ := fed.ordinary
    exact ⟨cause, same⟩
  · rintro rfl
    exact fed.phases sound

/-- A parser of an item whose opening parenthesis has been fed. -/
def afterParenthesis (maxDepth : Option Nat) : Parser :=
  (itemParser maxDepth).afterFeeds [(⟨.leftParen, "(", 1⟩, 0)]

/-- Where only two nonterminals may be open, a name in parentheses opens a list and fails at the
item in it. Without a limit it is taken in phases. -/
theorem phases_of_feed_item :
    Parser.new (.accelerated listGrammar) ⟨some (.name "item"), some 2⟩ =
        .ok (itemParser (some 2)) ∧
      (∃ limit, ((afterParenthesis (some 2)).feed ⟨.name, "a", 1⟩ 1).2.result =
        .error (.error (.depthLimitExceeded limit))) ∧
      ∃ label retries pushes target depth closings,
        ((afterParenthesis none).feed ⟨.name, "a", 1⟩ 1).2.events =
          Event.classify ⟨.name, "a", 1⟩ label :: (retries ++ pushes ++
            Event.shift ⟨.name, "a", 1⟩ target depth :: (closings ++ [])) ∧
        (∀ event ∈ retries, event.phase = .retry) ∧ (∀ event ∈ pushes, event.phase = .push) ∧
        ∀ event ∈ closings, event.phase = .collapse := by
  have made : Parser.new (.accelerated listGrammar) ⟨some (.name "item"), some 2⟩ =
      .ok (itemParser (some 2)) := rfl
  have madeFree : Parser.new (.accelerated listGrammar) ⟨some (.name "item"), none⟩ =
      .ok (itemParser none) := rfl
  have history (maxDepth : Option Nat) : (itemParser maxDepth).afterFeeds
      [(⟨.leftParen, "(", 1⟩, 0)] = afterParenthesis maxDepth := rfl
  refine ⟨made, ?_, ?_⟩
  · obtain ⟨_, _, _, _, _, _, limited⟩ :=
      phases_of_feed made (history (some 2)) (by cbv) (by cbv) ⟨.name, "a", 1⟩ 1
    have opened : openedIn ((afterParenthesis (some 2)).feed ⟨.name, "a", 1⟩ 1).2.events =
        [⟨256⟩] := by cbv
    obtain ⟨failure, failed⟩ : ∃ failure,
        ((afterParenthesis (some 2)).feed ⟨.name, "a", 1⟩ 1).2.result = .error failure :=
      ⟨_, by cbv⟩
    obtain ⟨limit, _, rfl⟩ := limited (by simp [opened]) failure failed
    exact ⟨limit, failed⟩
  · obtain ⟨_, _, phases, _⟩ :=
      phases_of_feed madeFree (history none) (by cbv) (by cbv) ⟨.name, "a", 1⟩ 1
    obtain ⟨label, retries, pushes, target, depth, closings, _, events, inPhase⟩ :=
      phases (by cbv)
    have stillOpen : ((afterParenthesis none).feed ⟨.name, "a", 1⟩ 1).1.frames.isEmpty =
        false := by cbv
    rw [stillOpen] at events
    exact ⟨label, retries, pushes, target, depth, closings, events, inPhase⟩

end Parser

end TransitionNetwork
