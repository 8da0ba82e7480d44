import TransitionNetwork.Proofs.Grammar.Validity
import TransitionNetwork.Proofs.Parser.Phases
import TransitionNetwork.Proofs.Parser.WholeInputs

/-!
# Final events

A parse reports how it ends: with acceptance, or with the error that stops it. This is the last event
and there is only one such event, whether the start symbol is completed by a token or closed at the
end, and whether it is a token or the end that is refused. It agrees with the result, except where a
token comes after the one that completes the start symbol. Such a token is refused without an event,
so the acceptance of what came before it stays the last event of a parse that fails.
-/

set_option autoImplicit false

namespace TransitionNetwork

namespace Event

/-- Whether an event tells that a parse has ended. -/
def isFinal : Event → Bool
  | .accept | .error _ => true
  | .classify .. | .shift .. | .push .. | .pop .. => false

theorem isFinal_eq_false {event : Event} (noAccept : event.phase ≠ .accept)
    (noError : event.phase ≠ .error) : event.isFinal = false := by
  cases event with
  | classify _ _ | shift _ _ _ | push _ _ _ | pop _ _ _ => rfl
  | accept => exact absurd rfl noAccept
  | error _ => exact absurd rfl noError

end Event

namespace Parser

open Grammar

/-- None of some events tells that a parse has ended. -/
def Quiet (events : List Event) : Prop :=
  ∀ event ∈ events, event.isFinal = false

/-- A final event and the result it announces. -/
inductive Tells : Event → Except (Failure ParseError) Tree → Prop where
  | accept {tree : Tree} : Tells .accept (.ok tree)
  | error {cause : ParseError} : Tells (.error cause) (.error (.error cause))

/-- Some token of an input comes when the parser is complete. -/
def Exceeds (parser : Parser) (input : List (Token × Nat)) : Prop :=
  ∃ before first after, input = before ++ first :: after ∧
    (parser.afterFeeds before).isDone = true

/-- How a parse can end, with all that it reported. -/
inductive Ending (late : Prop) : Outcome Tree → Prop where
  | told {before : List Event} {last : Event} {result : Except (Failure ParseError) Tree} :
      Quiet before → Tells last result → ¬ late → Ending late ⟨before ++ [last], result⟩
  | exceeded {before : List Event} : Quiet before → late →
      Ending late ⟨before ++ [.accept], .error (.error .alreadyComplete)⟩

theorem quiet_append {left right : List Event} :
    Quiet (left ++ right) ↔ Quiet left ∧ Quiet right :=
  List.forall_mem_append

theorem quiet_cons {event : Event} {events : List Event} :
    Quiet (event :: events) ↔ event.isFinal = false ∧ Quiet events :=
  List.forall_mem_cons

theorem Ending.prepend {late : Prop} {front events : List Event}
    {result : Except (Failure ParseError) Tree} (quiet : Quiet front)
    (ending : Ending late ⟨events, result⟩) : Ending late ⟨front ++ events, result⟩ := by
  generalize whole : Outcome.mk events result = outcome at ending
  cases ending with
  | told before tells within =>
      cases whole
      rw [← List.append_assoc]
      exact .told (quiet_append.mpr ⟨quiet, before⟩) tells within
  | exceeded before beyond =>
      cases whole
      rw [← List.append_assoc]
      exact .exceeded (quiet_append.mpr ⟨quiet, before⟩) beyond

theorem Tells.isFinal {event : Event} {result : Except (Failure ParseError) Tree}
    (tells : Tells event result) : event.isFinal = true := by
  cases tells <;> rfl

theorem Ending.inversion {late : Prop} {outcome : Outcome Tree}
    (ending : Ending late outcome) :
    ∃ before last, outcome.events = before ++ [last] ∧ Quiet before ∧ last.isFinal = true ∧
      (¬ late → Tells last outcome.result) ∧
      (late → last = .accept ∧ outcome.result = .error (.error .alreadyComplete)) := by
  cases ending with
  | told quiet tells within =>
      exact ⟨_, _, rfl, quiet, tells.isFinal, fun _ => tells, fun beyond => absurd beyond within⟩
  | exceeded quiet beyond =>
      exact ⟨_, _, rfl, quiet, rfl, fun within => absurd beyond within, fun _ => ⟨rfl, rfl⟩⟩

/-! ## Tokens that come too late -/

section Late

variable {parser : Parser}

theorem not_exceeds_nil : ¬ Exceeds parser [] := by
  rintro ⟨before, first, after, split, _⟩
  simp at split

theorem exceeds_of_done (done : parser.isDone = true) (first : Token × Nat)
    (rest : List (Token × Nat)) : Exceeds parser (first :: rest) :=
  ⟨[], first, rest, rfl, done⟩

theorem exceeds_cons (running : parser.isDone = false) {token : Token} {col : Nat}
    {rest : List (Token × Nat)} :
    Exceeds parser ((token, col) :: rest) ↔ Exceeds (parser.feed token col).1 rest := by
  constructor
  · rintro ⟨before, first, after, split, done⟩
    cases before with
    | nil =>
        rw [afterFeeds, running] at done
        cases done
    | cons earlier before =>
        cases split
        exact ⟨before, first, after, rfl, done⟩
  · rintro ⟨before, first, after, rfl, done⟩
    exact ⟨(token, col) :: before, first, after, rfl, done⟩

theorem not_exceeds_of_poisoned (poisoned : parser.poisoned = true) (input : List (Token × Nat)) :
    ¬ Exceeds parser input := by
  rintro ⟨before, first, after, _, done⟩
  rw [afterFeeds_of_idle (idleReason?_of_poisoned poisoned), isDone, poisoned] at done
  simp at done

end Late

section Runs

variable {grammar : AcceleratedGrammar} {maxDepth : Option Nat} {root : NonterminalId}

/-! ## Tokens -/

theorem Settles.quiet {pending : Pending} {spine final : Spine} {events : List Event}
    {result : Except (Failure ParseError) Unit}
    (settles : Settles grammar maxDepth pending spine events final result) : Quiet events := by
  induction settles with
  | onward advances _ ih =>
      refine quiet_cons.mpr ⟨?_, ih⟩
      cases advances <;> rfl
  | consumed consumes =>
      cases consumes
      simp [Quiet, Event.isFinal]
  | refused _ => simp [Quiet]

/-- Acceptance is reported with the last nonterminal that is closed, and not before. -/
theorem Collapses.quiet {spine final : Spine} {events : List Event}
    (collapses : Collapses grammar spine events final) :
    ∃ closings, Quiet closings ∧
      events = closings ++ if final.frames.isEmpty then [.accept] else [] := by
  obtain ⟨closings, whole, closing⟩ := collapses.phases
  refine ⟨closings, ?_, whole⟩
  intro event member
  have phase := closing event member
  exact Event.isFinal_eq_false (by simp [phase]) (by simp [phase])

theorem Fed.quiet {token : Token} {col : Nat} {spine final : Spine} {events : List Event}
    (fed : Fed grammar maxDepth token col spine events final (.ok ())) :
    ∃ before, Quiet before ∧ events = before ++ if final.frames.isEmpty then [.accept] else [] := by
  cases fed with
  | @taken _ _ label moves _ _ settles collapses =>
      obtain ⟨closings, quiet, rfl⟩ := collapses.quiet
      refine ⟨.classify token label :: (moves ++ closings), ?_, by simp⟩
      exact quiet_cons.mpr ⟨rfl, quiet_append.mpr ⟨settles.quiet, quiet⟩⟩

theorem Fed.quiet_of_error {token : Token} {col : Nat} {spine final : Spine} {events : List Event}
    {failure : Failure ParseError}
    (fed : Fed grammar maxDepth token col spine events final (.error failure)) : Quiet events := by
  cases fed with
  | unclassified _ => simp [Quiet]
  | refused _ settles => exact quiet_cons.mpr ⟨rfl, settles.quiet⟩

/-! ## The end -/

/-- Closing what is open reports every nonterminal, and then how it ended. -/
theorem close_tells {below : List Shape} {stack : List OpenNode}
    (threaded : Threaded grammar.grammar root below stack) (trail : Array Event) (tree : Tree) :
    ∃ before last, Quiet before ∧
      (close grammar (Spine.framesOf stack) trail).1.toList = trail.toList ++ before ++ [last] ∧
      Tells last ((close grammar (Spine.framesOf stack) trail).2.map fun _ => tree) := by
  induction threaded generalizing trail with
  | root => exact ⟨[], .accept, by simp [Quiet], by simp [Spine.framesOf, close], .accept⟩
  | @node _ node outer _ found path derived outward ih =>
      obtain ⟨automaton, state, table, standing⟩ :=
        (Threaded.node found path derived outward).standing
      simp only [Spine.framesOf, close, standing.look]
      cases table.accept with
      | false => exact ⟨[], .error (.unexpectedEnd automaton.name), by simp [Quiet], by simp, .error⟩
      | true =>
          obtain ⟨before, last, quiet, events, tells⟩ :=
            ih (trail.push (.pop node.symbol .endOfInput ((Spine.framesOf outer).length + 1)))
          refine ⟨.pop node.symbol .endOfInput ((Spine.framesOf outer).length + 1) :: before, last,
            quiet_cons.mpr ⟨rfl, quiet⟩, ?_, tells⟩
          simpa using events

theorem ending_of_finish {top : OpenNode} {outer : List OpenNode}
    (sound : Sound grammar.grammar root (.opened top outer)) {late : Prop}
    (within : ¬ late) :
    Ending late ((Spine.opened top outer).parser grammar maxDepth).finish := by
  cases sound with
  | opened threaded =>
      obtain ⟨before, last, quiet, events, tells⟩ :=
        close_tells threaded #[] (Spine.opened top outer).tree
      have finishes : ((Spine.opened top outer).parser grammar maxDepth).finish =
          ⟨before ++ [last], (close grammar (Spine.framesOf (top :: outer)) #[]).2.map
            fun _ => (Spine.opened top outer).tree⟩ := by
        simpa [finish, Spine.parser, Spine.frames, Spine.framesOf] using events
      rw [finishes]
      exact .told quiet tells within

/-! ## Whole inputs -/

theorem feedToEnd_of_closed (shape : Shape) (input : List (Token × Nat)) :
    ((Spine.closed shape).parser grammar maxDepth).feedToEnd input =
      ⟨[], if input = [] then .ok (Spine.closed shape).tree
        else .error (.error .alreadyComplete)⟩ := by
  cases input with
  | nil => rfl
  | cons first rest => rfl

theorem ending_of_feedToEnd {top : OpenNode} {outer : List OpenNode}
    (sound : Sound grammar.grammar root (.opened top outer)) (input : List (Token × Nat)) :
    Ending (Exceeds ((Spine.opened top outer).parser grammar maxDepth) input)
      (((Spine.opened top outer).parser grammar maxDepth).feedToEnd input) := by
  induction input generalizing top outer with
  | nil => exact ending_of_finish sound not_exceeds_nil
  | cons first rest ih =>
      obtain ⟨token, col⟩ := first
      have running : ((Spine.opened top outer).parser grammar maxDepth).isDone = false := rfl
      rw [exceeds_cons running]
      simp only [feedToEnd]
      rcases feed_cases sound maxDepth token col with
        ⟨events, next, fed, stepped⟩ | ⟨events, next, failure, fed, stepped⟩
      · simp only [stepped]
        obtain ⟨before, quiet, rfl⟩ := fed.quiet
        cases next with
        | opened inner around =>
            have onward : (Spine.opened inner around).frames.isEmpty = false := rfl
            rw [onward]
            exact .prepend (by simpa using quiet) (ih (fed.sound sound))
        | closed shape =>
            -- The acceptance was reported with this token; whatever comes after it reports nothing.
            have closed : (Spine.closed shape).frames.isEmpty = true := rfl
            have done : ((Spine.closed shape).parser grammar maxDepth).isDone = true := rfl
            rw [closed, if_pos rfl, feedToEnd_of_closed, List.append_nil]
            cases rest with
            | nil => exact .told quiet .accept not_exceeds_nil
            | cons late rest => exact .exceeded quiet (exceeds_of_done done late rest)
      · obtain ⟨cause, rfl, _⟩ := fed.ordinary
        simp only [stepped]
        exact .told fed.quiet_of_error .error (not_exceeds_of_poisoned rfl rest)

theorem new_default {automaton : Automaton}
    (found : grammar.grammar.automaton? grammar.grammar.start = some automaton) :
    Parser.new (.accelerated grammar) {} =
      .ok ((Spine.start grammar.grammar.start automaton).parser grammar none) := by
  have number := grammar.closed.number found
  simp only [Parser.new, startAutomaton, found, number]
  rfl

end Runs

/-! ## Main statement -/

/-- Every parse ends with one final event, and that is the last. It tells the result, unless a token
before the end marker comes after the start symbol is complete: then the parse fails for that
reason, and the last event is still the acceptance. -/
theorem last_event_of_parse (grammar : AcceleratedGrammar) (tokens : List Token) :
    ∃ parser before last, Parser.new (.accelerated grammar) {} = .ok parser ∧
      ((Network.accelerated grammar).parse tokens).events = before ++ [last] ∧
      Quiet before ∧ last.isFinal = true ∧
      (¬ Exceeds parser (withColumns 0 (beforeEnd tokens)) →
        Tells last ((Network.accelerated grammar).parse tokens).result) ∧
      (Exceeds parser (withColumns 0 (beforeEnd tokens)) → last = .accept ∧
        ((Network.accelerated grammar).parse tokens).result =
          .error (.error .alreadyComplete)) := by
  obtain ⟨automaton, found⟩ := grammar.closed.start
  have made := new_default found
  have ending := @ending_of_feedToEnd grammar none _ _ _ (sound_start found)
    (withColumns 0 (beforeEnd tokens))
  obtain ⟨before, last, events, quiet, isFinal, told, exceeded⟩ := ending.inversion
  refine ⟨_, before, last, made, ?_, quiet, isFinal, ?_, ?_⟩
  · rw [parse_eq made]
    exact events
  · rw [parse_eq made]
    exact told
  · rw [parse_eq made]
    exact exceeded

def numberGrammar : AcceleratedGrammar where
  grammar := oneWord #[.empty, .token .number]
  tables := (oneWord #[.empty, .token .number]).compile.toOption.getD #[]
  compiled := by cbv

def numberParser : Parser where
  grammar := numberGrammar
  frames := [⟨⟨256⟩, 0, Tree.root⟩]
  tree := Tree.single ⟨256⟩ 0 0
  maxDepth := none
  poisoned := false

/-- One number is accepted. A second one is refused, but that the first was accepted stays the last
event. -/
theorem last_event_of_parse_number :
    Parser.new (.accelerated numberGrammar) {} = .ok numberParser ∧
      ¬ Exceeds numberParser [(⟨.number, "1", 1⟩, 0)] ∧
      (∃ before last,
        ((Network.accelerated numberGrammar).parse [⟨.number, "1", 1⟩]).events = before ++ [last] ∧
        Tells last ((Network.accelerated numberGrammar).parse [⟨.number, "1", 1⟩]).result) ∧
      Exceeds numberParser [(⟨.number, "1", 1⟩, 0), (⟨.number, "2", 1⟩, 1)] ∧
      ∃ before, ((Network.accelerated numberGrammar).parse
        [⟨.number, "1", 1⟩, ⟨.number, "2", 1⟩]).events = before ++ [.accept] := by
  have made : Parser.new (.accelerated numberGrammar) {} = .ok numberParser := rfl
  have within : ¬ Exceeds numberParser [(⟨.number, "1", 1⟩, 0)] := by
    rw [exceeds_cons rfl]
    exact not_exceeds_nil
  have beyond : Exceeds numberParser [(⟨.number, "1", 1⟩, 0), (⟨.number, "2", 1⟩, 1)] :=
    ⟨[(⟨.number, "1", 1⟩, 0)], (⟨.number, "2", 1⟩, 1), [], rfl, by cbv⟩
  refine ⟨made, within, ?_, beyond, ?_⟩
  · obtain ⟨parser, before, last, same, events, _, _, told, _⟩ :=
      last_event_of_parse numberGrammar [⟨.number, "1", 1⟩]
    cases made.symm.trans same
    exact ⟨before, last, events, told within⟩
  · obtain ⟨parser, before, last, same, events, _, _, _, exceeded⟩ :=
      last_event_of_parse numberGrammar [⟨.number, "1", 1⟩, ⟨.number, "2", 1⟩]
    cases made.symm.trans same
    rw [(exceeded beyond).1] at events
    exact ⟨before, events⟩

/-- No final event tells that a number too many was refused. -/
theorem parse_numbers_not_told :
    ((Network.accelerated numberGrammar).parse
        [⟨.number, "1", 1⟩, ⟨.number, "2", 1⟩]).result = .error (.error .alreadyComplete) ∧
      ¬ ∃ before last,
        ((Network.accelerated numberGrammar).parse
          [⟨.number, "1", 1⟩, ⟨.number, "2", 1⟩]).events = before ++ [last] ∧
        Tells last ((Network.accelerated numberGrammar).parse
          [⟨.number, "1", 1⟩, ⟨.number, "2", 1⟩]).result := by
  have failed : ((Network.accelerated numberGrammar).parse
      [⟨.number, "1", 1⟩, ⟨.number, "2", 1⟩]).result = .error (.error .alreadyComplete) := by cbv
  have accepted : ((Network.accelerated numberGrammar).parse
      [⟨.number, "1", 1⟩, ⟨.number, "2", 1⟩]).events.getLast? = some .accept := by cbv
  refine ⟨failed, ?_⟩
  rintro ⟨before, last, events, tells⟩
  rw [events, List.getLast?_concat] at accepted
  cases accepted
  rw [failed] at tells
  cases tells

end Parser

end TransitionNetwork
