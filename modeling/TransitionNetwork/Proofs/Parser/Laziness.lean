import TransitionNetwork.Proofs.Parser.OpenPath

/-!
# Closing early and closing late

After a consumed token, a parser closes the nonterminals that can only end. A parser that leaves
them open closes them when the next token comes, before it does anything else, or at the end of the
input. So both take the same inputs and return the same trees, and they refuse an input at the same
place; only when everything has been closed early is the reason another one.
-/

set_option autoImplicit false

namespace TransitionNetwork

namespace Parser

open Grammar

/-! ## Parsers that do not collapse -/

/-- Classifies a token and settles it. Nothing is closed afterwards. -/
def runLazily (grammar : AcceleratedGrammar) (maxDepth : Option Nat) (frames : List Frame)
    (tree : Tree) (token : Token) (col : Nat) : Run :=
  match grammar.grammar.classify token with
  | none =>
      { frames, tree, trail := #[],
        result := .error (.error (.illegalToken token col .unclassified)) }
  | some label =>
      settle grammar maxDepth ⟨token, col, label⟩
        (frames.length + grammar.grammar.automata.size + 1) frames tree #[.classify token label]

/-- A run is a lazy run and, if the token was consumed, the collapse after it. -/
theorem run_eq_runLazily (grammar : AcceleratedGrammar) (maxDepth : Option Nat)
    (frames : List Frame) (tree : Tree) (token : Token) (col : Nat) :
    run grammar maxDepth frames tree token col =
      match runLazily grammar maxDepth frames tree token col with
      | ⟨frames, tree, trail, .ok ()⟩ => collapse grammar frames tree trail
      | stopped => stopped := by
  unfold run runLazily
  cases grammar.grammar.classify token <;> rfl

/-- Feeds a token as `feed` does, without collapsing. -/
def feedLazily (parser : Parser) (token : Token) (col : Nat) : Parser × Outcome Unit :=
  match parser.idleReason? with
  | some cause => (parser, { events := [], result := .error (.error cause) })
  | none =>
      let ⟨grammar, frames, tree, maxDepth, _⟩ := parser
      match runLazily grammar maxDepth frames tree token col with
      | ⟨frames, tree, trail, .ok ()⟩ =>
          (⟨grammar, frames, tree, maxDepth, false⟩, { events := trail.toList, result := .ok () })
      | ⟨frames, tree, trail, .error failure⟩ =>
          (⟨grammar, frames, tree, maxDepth, true⟩,
            { events := trail.toList ++ failureEvents failure, result := .error failure })

/-- Feeds a whole input in a given way and finishes. A failure comes with the tokens that were left,
the refused one first; none are left if finishing fails. -/
def resultBy (feed : Parser → Token → Nat → Parser × Outcome Unit) (parser : Parser) :
    List (Token × Nat) → Except (List (Token × Nat) × Failure ParseError) Tree
  | [] => parser.finish.result.mapError ([], ·)
  | (token, col) :: rest =>
      match feed parser token col with
      | (next, ⟨_, .ok ()⟩) => resultBy feed next rest
      | (_, ⟨_, .error failure⟩) => .error ((token, col) :: rest, failure)

/-! ## Lagging behind -/

/-- The second spine is the first one with some nonterminals closed that could only end. -/
inductive Lags (grammar : AcceleratedGrammar) : Spine → Spine → Prop where
  | same {spine : Spine} : Lags grammar spine spine
  | pop {top : OpenNode} {outer : List OpenNode} {automaton : Automaton} {state : State}
      {table : DenseTable} {eager : Spine} : Standing grammar top automaton state table →
      table.isAcceptOnly state = true → Lags grammar (.close top outer) eager →
      Lags grammar (.opened top outer) eager

section Lagging

variable {grammar : AcceleratedGrammar} {maxDepth : Option Nat} {root : NonterminalId}
  {late eager : Spine}

theorem Collapses.lags {events : List Event} (collapses : Collapses grammar late events eager) :
    Lags grammar late eager := by
  induction collapses with
  | complete => exact .same
  | pause _ _ => exact .same
  | pop standing only _ ih => exact .pop standing only ih

theorem Collapses.not_acceptOnly {events : List Event} {top : OpenNode} {outer : List OpenNode}
    (collapses : Collapses grammar late events eager) (still : eager = .opened top outer) :
    ∃ automaton state table, Standing grammar top automaton state table ∧
      table.isAcceptOnly state = false := by
  induction collapses with
  | complete => cases still
  | pop _ _ _ ih => exact ih still
  | pause standing only =>
      cases still
      exact ⟨_, _, _, standing, only⟩

theorem Lags.settles {pending : Pending} {events : List Event} {final : Spine}
    {result : Except (Failure ParseError) Unit} (lags : Lags grammar late eager)
    (settles : Settles grammar maxDepth pending eager events final result) :
    ∃ moves, Settles grammar maxDepth pending late moves final result := by
  induction lags with
  | same => exact ⟨events, settles⟩
  | pop standing only _ ih =>
      obtain ⟨moves, onward⟩ := ih settles
      -- What can only end has no transition on any label. So the pending token closes it before
      -- anything is opened, and the limit is met by the same frames on both sides.
      have silent := (standing.acceptOnly only).2 pending.label
      have accepts := (Bool.and_eq_true_iff.mp only).1
      exact ⟨_, .onward (.retry standing.tableFound silent accepts) onward⟩

theorem close_trail (frames : List Frame) (trail other : Array Event) :
    (close grammar frames trail).2 = (close grammar frames other).2 := by
  induction frames generalizing trail other with
  | nil => rfl
  | cons top rest ih =>
      simp only [close]
      cases grammar.look top with
      | error failure => rfl
      | ok found =>
          dsimp only
          split
          · exact ih _ _
          · rfl

theorem finish_close {top : OpenNode} {outer : List OpenNode} {automaton : Automaton}
    {state : State} {table : DenseTable} (standing : Standing grammar top automaton state table)
    (accepts : table.accept = true) :
    ((Spine.opened top outer).parser grammar maxDepth).finish.result =
      ((Spine.close top outer).parser grammar maxDepth).finish.result := by
  have closing : (close grammar (Spine.opened top outer).frames #[]).2 =
      (close grammar (Spine.close top outer).frames #[]).2 := by
    simp only [Spine.frames_opened, Spine.frames_close, close, standing.look, accepts, if_true]
    exact close_trail _ _ _
  rw [finish_eq_close, finish_eq_close, closing, Spine.tree_close]

theorem Lags.finish (lags : Lags grammar late eager) :
    (late.parser grammar maxDepth).finish.result = (eager.parser grammar maxDepth).finish.result := by
  induction lags with
  | same => rfl
  | pop standing only _ ih => rw [finish_close standing (Bool.and_eq_true_iff.mp only).1, ih]

/-! ## Whole inputs -/

theorem feedLazily_of_unclassified (top : OpenNode) (outer : List OpenNode) {token : Token}
    (missing : grammar.grammar.classify token = none) (col : Nat) :
    ((Spine.opened top outer).parser grammar maxDepth).feedLazily token col =
      let failure : Failure ParseError := .error (.illegalToken token col .unclassified)
      ({ (Spine.opened top outer).parser grammar maxDepth with poisoned := true },
        ⟨failureEvents failure, .error failure⟩) := by
  have running : ((Spine.opened top outer).parser grammar maxDepth).idleReason? = none := rfl
  simp only [feedLazily, running]
  simp only [Spine.parser, runLazily, missing]
  rfl

theorem feedLazily_of_settles {top : OpenNode} {outer : List OpenNode} {token : Token} {col : Nat}
    {label : LabelId} {moves : List Event} {middle : Spine}
    {result : Except (Failure ParseError) Unit}
    (sound : Sound grammar.grammar root (.opened top outer))
    (classified : grammar.grammar.classify token = some label)
    (settles : Settles grammar maxDepth ⟨token, col, label⟩ (.opened top outer) moves middle
      result) :
    ((Spine.opened top outer).parser grammar maxDepth).feedLazily token col =
      match result with
      | .ok () => (middle.parser grammar maxDepth, ⟨.classify token label :: moves, .ok ()⟩)
      | .error failure => ({ middle.parser grammar maxDepth with poisoned := true },
          ⟨.classify token label :: (moves ++ failureEvents failure), .error failure⟩) := by
  have within : SettlesWithin grammar maxDepth ⟨token, col, label⟩
      ((Spine.opened top outer).frames.length + grammar.grammar.automata.size + 1)
      (.opened top outer) := settlesWithin sound (by simp [Spine.frames_opened])
  obtain ⟨_, _, _, again, settled⟩ := within #[.classify token label]
  obtain ⟨rfl, rfl, rfl⟩ := settles.unique again
  have running : ((Spine.opened top outer).parser grammar maxDepth).idleReason? = none := rfl
  simp only [feedLazily, running]
  simp only [Spine.parser, runLazily, classified, settled]
  cases result <;> simp

/-- A token that is refused without collapsing is refused. -/
theorem feed_of_refused {parser : Parser} {token : Token} {col : Nat} {failure : Failure ParseError}
    (refused : (parser.feedLazily token col).2.result = .error failure) :
    parser.feed token col = parser.feedLazily token col := by
  cases idle : parser.idleReason? with
  | some cause => simp only [feed, feedLazily, idle]
  | none =>
      obtain ⟨grammar, frames, tree, maxDepth, poisoned⟩ := parser
      simp only [feedLazily, idle] at refused
      simp only [feed, feedLazily, idle, run_eq_runLazily]
      cases ran : runLazily grammar maxDepth frames tree token col with
      | mk frames tree trail result =>
          rw [ran] at refused
          cases result with
          | ok => cases refused
          | error failure => rfl

/-- A token that is taken without collapsing is taken, and what it completes collapses. -/
theorem feed_of_taken {start middle : Spine} {token : Token} {col : Nat} {moves : List Event}
    (sound : Sound grammar.grammar root middle)
    (taken : (start.parser grammar maxDepth).feedLazily token col =
      (middle.parser grammar maxDepth, ⟨moves, .ok ()⟩)) :
    ∃ closings final, Collapses grammar middle closings final ∧
      (start.parser grammar maxDepth).feed token col =
        (final.parser grammar maxDepth, ⟨moves ++ closings, .ok ()⟩) := by
  cases idle : (start.parser grammar maxDepth).idleReason? with
  | some cause =>
      simp only [feedLazily, idle] at taken
      cases congrArg (fun fed => fed.2.result) taken
  | none =>
      simp only [feedLazily, idle] at taken
      simp only [feed, idle, run_eq_runLazily]
      simp only [Spine.parser] at taken ⊢
      cases ran : runLazily grammar maxDepth start.frames start.tree token col with
      | mk frames tree trail result =>
          rw [ran] at taken
          cases result with
          | error failure => cases taken
          | ok =>
              simp only [Prod.mk.injEq, Parser.mk.injEq, Outcome.mk.injEq, and_true,
                true_and] at taken
              obtain ⟨⟨rfl, rfl⟩, rfl⟩ := taken
              obtain ⟨closings, final, collapses, collapsed⟩ := exists_collapses sound trail
              refine ⟨closings, final, collapses, ?_⟩
              simp only [collapsed, Array.toList_appendList]

/-- Without collapsing, it makes no difference how much was closed already: a token leads both
parsers to the same frames, or is refused by both for the same reason. -/
theorem Lags.meets {top eagerTop : OpenNode} {outer eagerOuter : List OpenNode}
    (lags : Lags grammar (.opened top outer) (.opened eagerTop eagerOuter))
    (lateSound : Sound grammar.grammar root (.opened top outer))
    (eagerSound : Sound grammar.grammar root (.opened eagerTop eagerOuter)) (maxDepth : Option Nat)
    (token : Token) (col : Nat) :
    (∃ middle moves others, Sound grammar.grammar root middle ∧
      ((Spine.opened eagerTop eagerOuter).parser grammar maxDepth).feedLazily token col =
        (middle.parser grammar maxDepth, ⟨moves, .ok ()⟩) ∧
      ((Spine.opened top outer).parser grammar maxDepth).feedLazily token col =
        (middle.parser grammar maxDepth, ⟨others, .ok ()⟩)) ∨
    ∃ failure,
      (((Spine.opened eagerTop eagerOuter).parser grammar maxDepth).feedLazily token col).2.result =
        .error failure ∧
      (((Spine.opened top outer).parser grammar maxDepth).feedLazily token col).2.result =
        .error failure := by
  cases classified : grammar.grammar.classify token with
  | none =>
      refine .inr ⟨.error (.illegalToken token col .unclassified), ?_, ?_⟩
      · rw [feedLazily_of_unclassified eagerTop eagerOuter classified]
      · rw [feedLazily_of_unclassified top outer classified]
  | some label =>
      have within : SettlesWithin grammar maxDepth ⟨token, col, label⟩ _
          (.opened eagerTop eagerOuter) := settlesWithin eagerSound (Nat.lt_succ_self _)
      obtain ⟨moves, middle, result, settles, _⟩ := within #[]
      obtain ⟨others, lateSettles⟩ := lags.settles settles
      have early := feedLazily_of_settles eagerSound classified settles
      have later := feedLazily_of_settles lateSound classified lateSettles
      cases result with
      | ok => exact .inl ⟨middle, _, _, settles.sound classified eagerSound, early, later⟩
      | error failure => exact .inr ⟨failure, by rw [early], by rw [later]⟩

/-- One token, with some nonterminals still open on both sides: it is taken by both, or refused by
both for the same reason. -/
theorem Lags.step {top eagerTop : OpenNode} {outer eagerOuter : List OpenNode}
    (lags : Lags grammar (.opened top outer) (.opened eagerTop eagerOuter))
    (lateSound : Sound grammar.grammar root (.opened top outer))
    (eagerSound : Sound grammar.grammar root (.opened eagerTop eagerOuter)) (maxDepth : Option Nat)
    (token : Token) (col : Nat) :
    (∃ middle final events moves, Lags grammar middle final ∧ Sound grammar.grammar root middle ∧
      Sound grammar.grammar root final ∧
      ((Spine.opened eagerTop eagerOuter).parser grammar maxDepth).feed token col =
        (final.parser grammar maxDepth, ⟨events, .ok ()⟩) ∧
      ((Spine.opened top outer).parser grammar maxDepth).feedLazily token col =
        (middle.parser grammar maxDepth, ⟨moves, .ok ()⟩)) ∨
    ∃ failure,
      (((Spine.opened eagerTop eagerOuter).parser grammar maxDepth).feed token col).2.result =
        .error failure ∧
      (((Spine.opened top outer).parser grammar maxDepth).feedLazily token col).2.result =
        .error failure := by
  rcases lags.meets lateSound eagerSound maxDepth token col with
    ⟨middle, _, moves, sound, early, later⟩ | ⟨failure, early, later⟩
  · obtain ⟨_, final, collapses, fed⟩ := feed_of_taken sound early
    exact .inl ⟨middle, final, _, moves, collapses.lags, sound, collapses.sound sound, fed, later⟩
  · exact .inr ⟨failure, by rw [feed_of_refused early, early], later⟩

/-- One token, with everything closed on the eager side: the late side closes it too and is then
left with the token. -/
theorem Lags.refuses {top : OpenNode} {outer : List OpenNode} {shape : Shape}
    (lags : Lags grammar (.opened top outer) (.closed shape))
    (sound : Sound grammar.grammar root (.opened top outer)) (maxDepth : Option Nat)
    (token : Token) (col : Nat) :
    ∃ cause, (((Spine.opened top outer).parser grammar maxDepth).feedLazily token col).2.result =
        .error (.error cause) ∧
      (cause = .stackUnderflow token col ∨ cause = .illegalToken token col .unclassified) := by
  cases classified : grammar.grammar.classify token with
  | none => exact ⟨_, by rw [feedLazily_of_unclassified top outer classified], .inr rfl⟩
  | some label =>
      obtain ⟨moves, settles⟩ := lags.settles (.refused .underflow)
      exact ⟨_, by rw [feedLazily_of_settles sound classified settles], .inl rfl⟩

/-- What becomes of an input when nonterminals are closed early, and when they are closed late. -/
inductive Agree : Except (List (Token × Nat) × Failure ParseError) Tree →
    Except (List (Token × Nat) × Failure ParseError) Tree → Prop where
  | same {result : Except (List (Token × Nat) × Failure ParseError) Tree} : Agree result result
  | complete {token : Token} {col : Nat} {rest : List (Token × Nat)} {cause : ParseError} :
      cause = .stackUnderflow token col ∨ cause = .illegalToken token col .unclassified →
      Agree (.error ((token, col) :: rest, .error .alreadyComplete))
        (.error ((token, col) :: rest, .error cause))

theorem Agree.ok_iff {early later : Except (List (Token × Nat) × Failure ParseError) Tree}
    (agree : Agree early later) {tree : Tree} : early = .ok tree ↔ later = .ok tree := by
  cases agree with
  | same => rfl
  | complete _ => simp

theorem Agree.of_error {early later : Except (List (Token × Nat) × Failure ParseError) Tree}
    {left : List (Token × Nat)} {failure : Failure ParseError} (agree : Agree early later)
    (refused : early = .error (left, failure)) :
    ∃ other, later = .error (left, other) ∧
      (other = failure ∨ failure = .error .alreadyComplete ∧
        ∃ token col rest, left = (token, col) :: rest ∧
          (other = .error (.stackUnderflow token col) ∨
            other = .error (.illegalToken token col .unclassified))) := by
  cases agree with
  | same => exact ⟨failure, refused, .inl rfl⟩
  | @complete token col rest cause reason =>
      cases refused
      refine ⟨.error cause, rfl, .inr ⟨rfl, token, col, rest, rfl, ?_⟩⟩
      rcases reason with rfl | rfl
      · exact .inl rfl
      · exact .inr rfl

theorem resultBy_of_ok {feed : Parser → Token → Nat → Parser × Outcome Unit}
    {parser next : Parser} {token : Token} {col : Nat} {events : List Event}
    (fed : feed parser token col = (next, ⟨events, .ok ()⟩)) (rest : List (Token × Nat)) :
    parser.resultBy feed ((token, col) :: rest) = next.resultBy feed rest := by
  rw [resultBy, fed]

theorem resultBy_of_error {feed : Parser → Token → Nat → Parser × Outcome Unit} {parser : Parser}
    {token : Token} {col : Nat} {failure : Failure ParseError}
    (refused : (feed parser token col).2.result = .error failure) (rest : List (Token × Nat)) :
    parser.resultBy feed ((token, col) :: rest) = .error ((token, col) :: rest, failure) := by
  rw [resultBy]
  split
  · next fed =>
      rw [fed] at refused
      cases refused
  · next fed =>
      rw [fed] at refused
      cases refused
      rfl

theorem Lags.agree (lags : Lags grammar late eager) (lateSound : Sound grammar.grammar root late)
    (eagerSound : Sound grammar.grammar root eager) (maxDepth : Option Nat)
    (input : List (Token × Nat)) :
    Agree ((eager.parser grammar maxDepth).resultBy feed input)
      ((late.parser grammar maxDepth).resultBy feedLazily input) := by
  induction input generalizing late eager with
  | nil =>
      rw [resultBy, resultBy, lags.finish]
      exact .same
  | cons first rest ih =>
      obtain ⟨token, col⟩ := first
      cases late with
      | closed shape =>
          cases lags
          exact .same
      | opened top outer =>
          cases eager with
          | closed shape =>
              obtain ⟨cause, refused, reason⟩ := lags.refuses lateSound maxDepth token col
              rw [resultBy_of_error refused]
              exact .complete reason
          | opened eagerTop eagerOuter =>
              rcases lags.step lateSound eagerSound maxDepth token col with
                ⟨middle, final, _, _, lagsOn, middleSound, finalSound, fed, fedLazily⟩ |
                ⟨failure, refused, refusedLazily⟩
              · rw [resultBy_of_ok fed, resultBy_of_ok fedLazily]
                exact ih lagsOn middleSound finalSound
              · rw [resultBy_of_error refused, resultBy_of_error refusedLazily]
                exact .same

theorem Reached.not_acceptOnly {parser next : Parser} {token : Token} {col : Nat}
    {events : List Event} {top : Frame} {rest : List Frame}
    (reached : Reached grammar maxDepth root parser)
    (fed : parser.feed token col = (next, ⟨events, .ok ()⟩)) (still : next.frames = top :: rest) :
    ∃ automaton state table, grammar.look top = .ok (automaton, state, table) ∧
      table.isAcceptOnly state = false := by
  cases reached with
  | stopped _ => cases fed
  | @running spine sound =>
      cases spine with
      | closed shape => cases fed
      | opened start outer =>
          rcases feed_cases sound maxDepth token col with
            ⟨_, final, run, stepped⟩ | ⟨_, _, _, _, stepped⟩
          · cases stepped.symm.trans fed
            cases run with
            | taken _ _ collapses =>
                cases final with
                | closed shape => cases still
                | opened last around =>
                    obtain ⟨automaton, state, table, standing, only⟩ :=
                      collapses.not_acceptOnly rfl
                    cases still
                    exact ⟨automaton, state, table, standing.look _, only⟩
          · cases stepped.symm.trans fed

end Lagging

/-! ## Main statement -/

/-- Collapsing is an optimisation. With and without it, every input has the same tree or is refused
at the same place and for the same reason, except that a parser that collapses may report that it
is complete where the other one runs out of open nonterminals or finds no label for the token. After
every token that was taken, no frame is left or the innermost one has something else to do than to
end. -/
theorem collapse_is_optional {grammar : AcceleratedGrammar} {options : Options} {parser : Parser}
    (made : Parser.new (.accelerated grammar) options = .ok parser) :
    (∀ input tree, parser.resultBy feed input = .ok tree ↔
      parser.resultBy feedLazily input = .ok tree) ∧
    (∀ input left failure, parser.resultBy feed input = .error (left, failure) →
      ∃ other, parser.resultBy feedLazily input = .error (left, other) ∧
        (other = failure ∨ failure = .error .alreadyComplete ∧
          ∃ token col rest, left = (token, col) :: rest ∧
            (other = .error (.stackUnderflow token col) ∨
              other = .error (.illegalToken token col .unclassified)))) ∧
    ∀ input token col next events,
      (parser.afterFeeds input).feed token col = (next, ⟨events, .ok ()⟩) →
      ∀ top rest, next.frames = top :: rest →
        ∃ automaton state table, grammar.look top = .ok (automaton, state, table) ∧
          table.isAcceptOnly state = false := by
  obtain ⟨_, symbol, automaton, same, _, found, rfl⟩ := exists_start_of_new made
  cases same
  have sound := sound_start found
  have agree := Lags.same.agree sound sound options.maxDepth
  refine ⟨?_, ?_, ?_⟩
  · intro input tree
    exact (agree input).ok_iff
  · intro input left failure refused
    exact (agree input).of_error refused
  · intro input token col next events fed top rest still
    exact ((Reached.running sound).afterFeeds input).not_acceptOnly fed still

/-- One item in parentheses, and one with a name after it. -/
theorem collapse_is_optional_item :
    Parser.new (.accelerated listGrammar) ⟨some (.name "item"), some 3⟩ =
        .ok (itemParser (some 3)) ∧
      (∃ tree, (itemParser (some 3)).resultBy feed listInput = .ok tree ∧
        (itemParser (some 3)).resultBy feedLazily listInput = .ok tree) ∧
      (itemParser (some 3)).resultBy feed (listInput ++ [(⟨.name, "c", 2⟩, 2)]) =
        .error ([(⟨.name, "c", 2⟩, 2)], .error .alreadyComplete) ∧
      ∃ other, (itemParser (some 3)).resultBy feedLazily (listInput ++ [(⟨.name, "c", 2⟩, 2)]) =
        .error ([(⟨.name, "c", 2⟩, 2)], other) := by
  have made : Parser.new (.accelerated listGrammar) ⟨some (.name "item"), some 3⟩ =
      .ok (itemParser (some 3)) := rfl
  obtain ⟨ok_iff, of_error, _⟩ := collapse_is_optional made
  obtain ⟨tree, parsed⟩ : ∃ tree, (itemParser (some 3)).resultBy feed listInput = .ok tree :=
    ⟨_, by cbv⟩
  have refused : (itemParser (some 3)).resultBy feed (listInput ++ [(⟨.name, "c", 2⟩, 2)]) =
      .error ([(⟨.name, "c", 2⟩, 2)], .error .alreadyComplete) := by cbv
  obtain ⟨other, refusedLazily, _⟩ := of_error _ _ _ refused
  exact ⟨made, ⟨tree, parsed, (ok_iff _ _).mp parsed⟩, refused, other, refusedLazily⟩

end Parser

end TransitionNetwork
