import TransitionNetwork.Proofs.Parser.Phases

/-!
# What becomes of a token

The open frames decide what becomes of a token, and the tables of their states are all that has to
be known of them. Frames that may end and have no transition on the token hand it on to the frame
around them. The first that does not hand it on refuses it, or takes it below a chain of
nonterminals that are opened for it, if the limit leaves room for the chain. The end of the input
asks of every open frame that it may end.
-/

set_option autoImplicit false

namespace TransitionNetwork

namespace Tree

/-- Appends a node for each of some nonterminals, the first below a parent and each other below the
one before, and a leaf below the last. -/
def grow (tree : Tree) (parent : NodeId) (token : Token) (col : Nat) : List NonterminalId → Tree
  | [] => tree.attach parent (.leaf token.kind token.text token.line col)
  | symbol :: rest =>
      (tree.attach parent (.interior symbol #[] token.line col)).grow tree.size token col rest

theorem size_grow (tree : Tree) (parent : NodeId) (token : Token) (col : Nat)
    (symbols : List NonterminalId) :
    (tree.grow parent token col symbols).size = tree.size + symbols.length + 1 := by
  induction symbols generalizing tree parent with
  | nil => simp [grow]
  | cons symbol rest ih =>
      rw [grow, ih, size_attach, List.length_cons]
      omega

end Tree

namespace AcceleratedGrammar

def transition? (grammar : AcceleratedGrammar) (label : LabelId) (frame : Frame) :
    Option Transition :=
  match grammar.look frame with
  | .ok (_, _, table) => table.lookup label
  | .error _ => none

def accepts (grammar : AcceleratedGrammar) (frame : Frame) : Bool :=
  match grammar.look frame with
  | .ok (_, _, table) => table.accept
  | .error _ => false

/-- Whether the frame ends for a token of this label and leaves it to the frame around it. -/
def handsOn (grammar : AcceleratedGrammar) (label : LabelId) (frame : Frame) : Bool :=
  (grammar.transition? label frame).isNone && grammar.accepts frame

theorem automaton?_of_look {grammar : AcceleratedGrammar} {frame : Frame} {automaton : Automaton}
    {state : State} {table : DenseTable}
    (looked : grammar.look frame = .ok (automaton, state, table)) :
    grammar.grammar.automaton? frame.nonterminal = some automaton := by
  unfold look at looked
  split at looked
  · cases looked
  · next found =>
      cases fetched : Automaton.state _ frame.state with
      | error fault =>
          rw [fetched] at looked
          cases looked
      | ok state =>
          rw [fetched] at looked
          cases tableFound : grammar.table? frame.nonterminal frame.state.toNat with
          | none =>
              rw [tableFound] at looked
              cases looked
          | some table =>
              rw [tableFound] at looked
              cases looked
              exact found

end AcceleratedGrammar

namespace Parser

open Grammar

/-! ## Chains of nonterminals -/

/-- The nonterminals that have to be opened one below the other, from a state on, until a token of
the label can be consumed. -/
inductive Descends (grammar : AcceleratedGrammar) (label : LabelId) :
    NonterminalId → StateId → List NonterminalId → Prop where
  | here {symbol : NonterminalId} {state target : StateId} {table : DenseTable} :
      grammar.table? symbol state.toNat = some table →
      table.lookup label = some (.shift target) → Descends grammar label symbol state []
  | deeper {symbol inner : NonterminalId} {state next : StateId} {table : DenseTable}
      {automaton : Automaton} {chain : List NonterminalId} :
      grammar.table? symbol state.toNat = some table →
      table.lookup label = some (.push inner next) →
      grammar.grammar.automaton? inner = some automaton →
      Descends grammar label inner automaton.initial chain →
      Descends grammar label symbol state (inner :: chain)

section Chains

variable {grammar : AcceleratedGrammar} {label : LabelId} {symbol : NonterminalId}

theorem Descends.unique {state : StateId} {chain other : List NonterminalId}
    (first : Descends grammar label symbol state chain)
    (second : Descends grammar label symbol state other) : other = chain := by
  induction first generalizing other with
  | here tableFound shifts =>
      cases second with
      | here _ _ => rfl
      | deeper tableAgain pushes _ _ =>
          obtain rfl := Option.some.inj (tableFound.symm.trans tableAgain)
          cases shifts.symm.trans pushes
  | deeper tableFound pushes innerFound _ ih =>
      cases second with
      | here tableAgain shifts =>
          obtain rfl := Option.some.inj (tableFound.symm.trans tableAgain)
          cases shifts.symm.trans pushes
      | deeper tableAgain pushesAgain innerAgain onward =>
          obtain rfl := Option.some.inj (tableFound.symm.trans tableAgain)
          cases pushes.symm.trans pushesAgain
          obtain rfl := Option.some.inj (innerFound.symm.trans innerAgain)
          rw [ih onward]

/-- The chain is finite, since no nonterminal can come first in itself. -/
theorem exists_descends_of_canBegin {automaton : Automaton}
    (found : grammar.grammar.automaton? symbol = some automaton)
    (begins : CanBegin grammar.grammar symbol label) :
    ∃ chain, Descends grammar label symbol automaton.initial chain := by
  have grounded : Grounded grammar.grammar symbol := by
    obtain ⟨_, _, finished⟩ := grammar.exists_first found
    exact finished.grounded
  induction grounded generalizing automaton with
  | intro symbol _ ih =>
      obtain ⟨state, initial⟩ := grammar.closed.initial found
      obtain ⟨table, tableFound, compiled⟩ := grammar.exists_table found initial
      obtain ⟨transition, answer⟩ := Option.isSome_iff_exists.mp
        ((grammar.initial_isSome_iff found initial compiled).mpr begins)
      cases transition with
      | shift target => exact ⟨[], .here tableFound answer⟩
      | push inner next =>
          obtain ⟨arc, member, _, entry, labelled, isNonterminal, innerBegins⟩ :=
            yields_push_iff.mp (compiled.lookup_iff.mp answer)
          obtain ⟨below, belowFound⟩ := grammar.closed.nonterminal labelled isNonterminal
          have opens : CanOpen grammar.grammar symbol inner :=
            ⟨arc, entry, .intro found initial member labelled, isNonterminal⟩
          obtain ⟨chain, descends⟩ := ih inner opens belowFound innerBegins
          exact ⟨inner :: chain, .deeper tableFound answer belowFound descends⟩

theorem Standing.exists_descends {node : OpenNode} {automaton : Automaton} {state : State}
    {table : DenseTable} (standing : Standing grammar node automaton state table)
    {transition : Transition} (answer : table.lookup label = some transition) :
    ∃ chain, Descends grammar label node.symbol node.state chain := by
  cases transition with
  | shift target => exact ⟨[], .here standing.tableFound answer⟩
  | push inner next =>
      obtain ⟨_, _, _, _, labelled, isNonterminal, begins⟩ :=
        yields_push_iff.mp (standing.compiled.lookup_iff.mp answer)
      obtain ⟨below, belowFound⟩ := grammar.closed.nonterminal labelled isNonterminal
      obtain ⟨chain, descends⟩ := exists_descends_of_canBegin belowFound begins
      exact ⟨inner :: chain, .deeper standing.tableFound answer belowFound descends⟩

theorem Standing.transition?_eq {node : OpenNode} {automaton : Automaton} {state : State}
    {table : DenseTable} (standing : Standing grammar node automaton state table)
    (position : NodeId) :
    grammar.transition? label ⟨node.symbol, node.state, position⟩ = table.lookup label := by
  simp only [AcceleratedGrammar.transition?, standing.look]

theorem Standing.handsOn_eq {node : OpenNode} {automaton : Automaton} {state : State}
    {table : DenseTable} (standing : Standing grammar node automaton state table)
    (position : NodeId) :
    grammar.handsOn label ⟨node.symbol, node.state, position⟩ =
      ((table.lookup label).isNone && table.accept) := by
  simp only [AcceleratedGrammar.handsOn, AcceleratedGrammar.accepts, standing.transition?_eq,
    standing.look]

end Chains

section Tokens

variable {grammar : AcceleratedGrammar} {maxDepth : Option Nat} {pending : Pending}
  {root : NonterminalId} {spine middle last final : Spine} {events : List Event}
  {result : Except (Failure ParseError) Unit} {top : OpenNode} {outer : List OpenNode}

theorem Sound.standing (sound : Sound grammar.grammar root (.opened top outer)) :
    ∃ automaton state table, Standing grammar top automaton state table := by
  cases sound with
  | opened threaded => exact threaded.standing

/-! ## Frames that hand a token on -/

theorem Proceeds.handOn (proceeds : Proceeds grammar maxDepth pending .retry spine events final)
    (sound : Sound grammar.grammar root spine) :
    final.tree = spine.tree ∧ spine.frames.dropWhile (grammar.handsOn pending.label) =
      final.frames.dropWhile (grammar.handsOn pending.label) := by
  induction proceeds with
  | done => exact ⟨rfl, rfl⟩
  | step advances inPhase _ ih =>
      obtain ⟨sameTree, sameFrames⟩ := ih (advances.sound sound)
      cases advances with
      | push _ _ _ _ => cases inPhase
      | @retry top outer _ tableFound silent accepts =>
          obtain ⟨automaton, state, table, standing⟩ := sound.standing
          obtain rfl := Option.some.inj (tableFound.symm.trans standing.tableFound)
          have passed : grammar.handsOn pending.label
              ⟨top.symbol, top.state, Spine.extent outer⟩ = true := by
            rw [standing.handsOn_eq, silent, accepts]
            rfl
          rw [Spine.tree_close] at sameTree
          rw [Spine.frames_close] at sameFrames
          rw [Spine.frames_opened, List.dropWhile_cons_of_pos passed]
          exact ⟨sameTree, sameFrames⟩

/-- Where nothing is open, the token is left over. -/
theorem Decides.of_closed {shape : Shape} {pushes ending : List Event}
    (opens : Proceeds grammar maxDepth pending .push (.closed shape) pushes last)
    (decides : Decides grammar maxDepth pending last ending final result) :
    result = .error (.error (.stackUnderflow pending.token pending.col)) ∧
      final = .closed shape := by
  cases opens with
  | step advances _ _ => cases advances
  | done =>
      cases decides with
      | consumed consumes => cases consumes
      | refused refuses =>
          cases refuses
          exact ⟨rfl, rfl⟩

/-- A state that has no transition on the token and decides nevertheless refuses it. -/
theorem Decides.of_silent {table : DenseTable} {pushes ending : List Event}
    (tableFound : grammar.table? top.symbol top.state.toNat = some table)
    (silent : table.lookup pending.label = none)
    (opens : Proceeds grammar maxDepth pending .push (.opened top outer) pushes last)
    (decides : Decides grammar maxDepth pending last ending final result) :
    table.accept = false ∧ final = .opened top outer ∧
      result = .error (.error (.illegalToken pending.token pending.col .rejected)) := by
  cases opens with
  | step advances inPhase _ =>
      cases advances with
      | retry _ _ _ => cases inPhase
      | push tableAgain answer _ _ =>
          obtain rfl := Option.some.inj (tableFound.symm.trans tableAgain)
          cases silent.symm.trans answer
  | done =>
      cases decides with
      | consumed consumes =>
          cases consumes with
          | shift tableAgain answer =>
              obtain rfl := Option.some.inj (tableFound.symm.trans tableAgain)
              cases silent.symm.trans answer
      | refused refuses =>
          cases refuses with
          | limited tableAgain answer _ _ =>
              obtain rfl := Option.some.inj (tableFound.symm.trans tableAgain)
              cases silent.symm.trans answer
          | rejected tableAgain _ blocked =>
              obtain rfl := Option.some.inj (tableFound.symm.trans tableAgain)
              exact ⟨blocked, rfl, rfl⟩

/-! ## Nonterminals opened for a token -/

theorem Proceeds.descends
    (proceeds : Proceeds grammar maxDepth pending .push (.opened top outer) events final) :
    ∃ inner around, final = .opened inner around ∧
      around.length = outer.length + (openedIn events).length ∧
      ∀ chain, Descends grammar pending.label inner.symbol inner.state chain →
        Descends grammar pending.label top.symbol top.state (openedIn events ++ chain) := by
  generalize fromTop : Spine.opened top outer = start at proceeds
  induction proceeds generalizing top outer with
  | done =>
      subst fromTop
      exact ⟨top, outer, rfl, rfl, fun _ => id⟩
  | step advances inPhase _ ih =>
      subst fromTop
      cases advances with
      | retry _ _ _ => cases inPhase
      | push tableFound answer innerFound _ =>
          obtain ⟨inner, around, rfl, deeper, descends⟩ := ih rfl
          refine ⟨inner, around, rfl, ?_, ?_⟩
          · rw [deeper]
            simp [openedIn, Event.opened?]
            omega
          · intro chain onward
            exact .deeper tableFound answer innerFound (descends chain onward)

theorem Proceeds.within {limit : Nat} (given : maxDepth = some limit)
    (proceeds : Proceeds grammar maxDepth pending .push (.opened top outer) events final)
    (nonempty : 1 ≤ (openedIn events).length) :
    outer.length + 1 + (openedIn events).length ≤ limit := by
  generalize fromTop : Spine.opened top outer = start at proceeds
  induction proceeds generalizing top outer with
  | done => cases nonempty
  | @step _ _ _ _ later advances inPhase onward ih =>
      subst fromTop
      cases advances with
      | retry _ _ _ => cases inPhase
      | @push _ _ _ inner next _ _ _ _ free =>
          have room := free limit given
          have count : (openedIn (.push inner next (outer.length + 1) :: later)).length =
              (openedIn later).length + 1 := rfl
          rw [count]
          by_cases last : (openedIn later).length = 0
          · omega
          · have deeper := ih (by omega) rfl
            simp only [List.length_cons] at deeper
            omega

theorem Proceeds.tree_eq {event : Event}
    (proceeds : Proceeds grammar maxDepth pending .push (.opened top outer) events last)
    (consumes : Consumes grammar pending last event final) :
    final.tree = (Spine.opened top outer).tree.grow (Spine.extent outer) pending.token pending.col
      (openedIn events) := by
  generalize fromTop : Spine.opened top outer = start at proceeds
  induction proceeds generalizing top outer with
  | done =>
      subst fromTop
      cases consumes with
      | shift _ _ => exact (Spine.tree_shift _ _ _ _ _).symm
  | step advances inPhase _ ih =>
      subst fromTop
      cases advances with
      | retry _ _ _ => cases inPhase
      | @push _ _ _ inner next automaton _ _ _ _ =>
          rw [ih consumes rfl, ← Spine.tree_push top outer inner automaton.initial next]
          change _ = Tree.grow _ _ _ _ (inner :: openedIn _)
          rw [Tree.grow, Spine.size_tree]
          rfl

/-- Where a state has a transition on the token, the length of the chain decides: it fits under the
limit and the token is consumed at its end, or the limit is to blame. -/
theorem Decides.of_answer {table : DenseTable} {transition : Transition}
    {pushes ending : List Event} (sound : Sound grammar.grammar root (.opened top outer))
    (tableFound : grammar.table? top.symbol top.state.toNat = some table)
    (answer : table.lookup pending.label = some transition)
    (opens : Proceeds grammar maxDepth pending .push (.opened top outer) pushes last)
    (decides : Decides grammar maxDepth pending last ending final result) :
    ∃ chain, Descends grammar pending.label top.symbol top.state chain ∧
      ((result = .ok () ∧
          (∀ limit, maxDepth = some limit → 1 ≤ chain.length →
            outer.length + 1 + chain.length ≤ limit) ∧
          final.tree = (Spine.opened top outer).tree.grow (Spine.extent outer) pending.token
            pending.col chain) ∨
        ∃ limit, maxDepth = some limit ∧ 1 ≤ chain.length ∧
          limit < outer.length + 1 + chain.length ∧
          result = .error (.error (.depthLimitExceeded limit))) := by
  obtain ⟨inner, around, rfl, deeper, descends⟩ := opens.descends
  cases decides with
  | consumed consumes =>
      have ends : Descends grammar pending.label inner.symbol inner.state [] := by
        cases consumes with
        | shift tableAt shifts => exact .here tableAt shifts
      refine ⟨openedIn pushes, by simpa using descends [] ends, .inl ⟨rfl, ?_, ?_⟩⟩
      · intro limit given nonempty
        exact opens.within given nonempty
      · exact opens.tree_eq consumes
  | refused refuses =>
      cases refuses with
      | rejected tableAt silent blocked =>
          -- Neither the state itself nor a nonterminal opened for the token is without a
          -- transition on it.
          exfalso
          by_cases none : pushes = []
          · subst none
            cases opens with
            | done =>
                obtain rfl := Option.some.inj (tableFound.symm.trans tableAt)
                cases silent.symm.trans answer
          · obtain ⟨_, _, impossible⟩ :=
              opens.limited sound none (.rejected tableAt silent blocked)
            cases impossible
      | limited tableAt pushing given beyond =>
          obtain ⟨_, _, same, stands⟩ := (opens.sound sound).standing
          obtain rfl := Option.some.inj (tableAt.symm.trans stands.tableFound)
          obtain ⟨chain, onward⟩ := stands.exists_descends pushing
          have nonempty : 1 ≤ chain.length := by
            cases onward with
            | deeper _ _ _ _ => simp
            | here tableAgain shifts =>
                obtain rfl := Option.some.inj (tableAt.symm.trans tableAgain)
                cases shifts.symm.trans pushing
          refine ⟨openedIn pushes ++ chain, descends chain onward, .inr ⟨_, given, ?_, ?_, rfl⟩⟩
          · rw [List.length_append]
            omega
          · rw [List.length_append]
            omega

theorem Collapses.tree_eq (collapses : Collapses grammar spine events final) :
    final.tree = spine.tree := by
  induction collapses with
  | complete => rfl
  | pop _ _ _ ih => rw [ih, Spine.tree_close]
  | pause _ _ => rfl

end Tokens

/-! ## The end of the input -/

theorem close_eq_find? {grammar : AcceleratedGrammar} {frames : List Frame}
    (known : ∀ frame ∈ frames, ∃ automaton state table,
      grammar.look frame = .ok (automaton, state, table)) (trail : Array Event) :
    (close grammar frames trail).2 =
      match frames.find? fun frame => !grammar.accepts frame with
      | none => .ok ()
      | some frame =>
          .error (.error (.unexpectedEnd (grammar.grammar.nameOf frame.nonterminal))) := by
  induction frames generalizing trail with
  | nil => rfl
  | cons top rest ih =>
      obtain ⟨automaton, state, table, looked⟩ := known top (.head _)
      have others := fun frame member => known frame (.tail _ member)
      have accepts : grammar.accepts top = table.accept := by
        simp only [AcceleratedGrammar.accepts, looked]
      simp only [close, looked, List.find?_cons, accepts]
      cases table.accept with
      | true => exact ih others _
      | false =>
          simp [nameOf, AcceleratedGrammar.automaton?_of_look looked]

theorem Reached.finish_eq_find? {grammar : AcceleratedGrammar} {maxDepth : Option Nat}
    {root : NonterminalId} {spine : Spine}
    (reached : Reached grammar maxDepth root (spine.parser grammar maxDepth)) :
    (spine.parser grammar maxDepth).finish.result =
      match spine.frames.find? fun frame => !grammar.accepts frame with
      | none => .ok spine.tree
      | some frame =>
          .error (.error (.unexpectedEnd (grammar.grammar.nameOf frame.nonterminal))) := by
  have known : ∀ frame ∈ spine.frames, ∃ automaton state table,
      grammar.look frame = .ok (automaton, state, table) := by
    intro frame member
    obtain ⟨automaton, state, table, looked, _⟩ := reached.intact.frames frame member
    exact ⟨automaton, state, table, looked⟩
  rw [finish_eq_close, close_eq_find? known]
  cases spine.frames.find? fun frame => !grammar.accepts frame <;> rfl

theorem Reached.finish_eq_ok_iff {grammar : AcceleratedGrammar} {maxDepth : Option Nat}
    {root : NonterminalId} {spine : Spine} {tree : Tree}
    (reached : Reached grammar maxDepth root (spine.parser grammar maxDepth)) :
    (spine.parser grammar maxDepth).finish.result = .ok tree ↔
      tree = spine.tree ∧ ∀ frame ∈ spine.frames, grammar.accepts frame = true := by
  rw [reached.finish_eq_find?]
  cases found : spine.frames.find? fun frame => !grammar.accepts frame with
  | none =>
      have all : ∀ frame ∈ spine.frames, grammar.accepts frame = true := by
        simpa using found
      constructor
      · intro same
        cases same
        exact ⟨rfl, all⟩
      · rintro ⟨rfl, _⟩
        rfl
  | some frame =>
      have blocked := List.find?_some found
      constructor
      · intro ends
        cases ends
      · rintro ⟨_, all⟩
        simp [all frame (List.mem_of_find?_eq_some found)] at blocked

theorem Reached.finish_of_find? {grammar : AcceleratedGrammar} {maxDepth : Option Nat}
    {root : NonterminalId} {spine : Spine} {frame : Frame}
    (reached : Reached grammar maxDepth root (spine.parser grammar maxDepth))
    (found : spine.frames.find? (fun frame => !grammar.accepts frame) = some frame) :
    ∃ automaton, grammar.grammar.automaton? frame.nonterminal = some automaton ∧
      (spine.parser grammar maxDepth).finish.result =
        .error (.error (.unexpectedEnd automaton.name)) := by
  obtain ⟨automaton, _, _, looked, _⟩ :=
    reached.intact.frames frame (List.mem_of_find?_eq_some found)
  have known : grammar.grammar.automaton? frame.nonterminal = some automaton :=
    AcceleratedGrammar.automaton?_of_look looked
  refine ⟨automaton, known, ?_⟩
  rw [reached.finish_eq_find?, found]
  simp only [nameOf, known]

/-! ## Main statement -/

/-- What becomes of a classified token: how the tree changes, and the answer. -/
inductive Verdict (grammar : AcceleratedGrammar) (maxDepth : Option Nat) (pending : Pending)
    (frames : List Frame) (tree : Tree) : Tree → Except (Failure ParseError) Unit → Prop where
  | leftOver : frames.dropWhile (grammar.handsOn pending.label) = [] →
      Verdict grammar maxDepth pending frames tree tree
        (.error (.error (.stackUnderflow pending.token pending.col)))
  | rejected {frame : Frame} {outer : List Frame} :
      frames.dropWhile (grammar.handsOn pending.label) = frame :: outer →
      grammar.transition? pending.label frame = none →
      Verdict grammar maxDepth pending frames tree tree
        (.error (.error (.illegalToken pending.token pending.col .rejected)))
  | tooDeep {frame : Frame} {outer : List Frame} {transition : Transition}
      {chain : List NonterminalId} {limit : Nat} {grown : Tree} :
      frames.dropWhile (grammar.handsOn pending.label) = frame :: outer →
      grammar.transition? pending.label frame = some transition →
      Descends grammar pending.label frame.nonterminal frame.state chain →
      maxDepth = some limit → 1 ≤ chain.length → limit < outer.length + 1 + chain.length →
      Verdict grammar maxDepth pending frames tree grown
        (.error (.error (.depthLimitExceeded limit)))
  | taken {frame : Frame} {outer : List Frame} {transition : Transition}
      {chain : List NonterminalId} :
      frames.dropWhile (grammar.handsOn pending.label) = frame :: outer →
      grammar.transition? pending.label frame = some transition →
      Descends grammar pending.label frame.nonterminal frame.state chain →
      (∀ limit, maxDepth = some limit → 1 ≤ chain.length →
        outer.length + 1 + chain.length ≤ limit) →
      Verdict grammar maxDepth pending frames tree
        (tree.grow frame.node pending.token pending.col chain) (.ok ())

section Verdicts

variable {grammar : AcceleratedGrammar} {maxDepth : Option Nat} {pending : Pending}
  {frames outer : List Frame} {frame : Frame} {tree grown : Tree}
  {result : Except (Failure ParseError) Unit}

theorem Verdict.of_nil (verdict : Verdict grammar maxDepth pending frames tree grown result)
    (none : frames.dropWhile (grammar.handsOn pending.label) = []) :
    result = .error (.error (.stackUnderflow pending.token pending.col)) ∧ grown = tree := by
  cases verdict with
  | leftOver _ => exact ⟨rfl, rfl⟩
  | rejected stays _ => cases none.symm.trans stays
  | tooDeep stays _ _ _ _ _ => cases none.symm.trans stays
  | taken stays _ _ _ => cases none.symm.trans stays

theorem Verdict.of_refusal (verdict : Verdict grammar maxDepth pending frames tree grown result)
    (first : frames.dropWhile (grammar.handsOn pending.label) = frame :: outer)
    (silent : grammar.transition? pending.label frame = none) :
    result = .error (.error (.illegalToken pending.token pending.col .rejected)) ∧
      grown = tree := by
  cases verdict with
  | leftOver none => cases none.symm.trans first
  | rejected _ _ => exact ⟨rfl, rfl⟩
  | tooDeep stays answer _ _ _ _ =>
      cases stays.symm.trans first
      cases silent.symm.trans answer
  | taken stays answer _ _ =>
      cases stays.symm.trans first
      cases silent.symm.trans answer

theorem Verdict.of_transition {transition : Transition}
    (verdict : Verdict grammar maxDepth pending frames tree grown result)
    (first : frames.dropWhile (grammar.handsOn pending.label) = frame :: outer)
    (answer : grammar.transition? pending.label frame = some transition) :
    ∃ chain, Descends grammar pending.label frame.nonterminal frame.state chain ∧
      (∀ limit, maxDepth = some limit → 1 ≤ chain.length →
        limit < outer.length + 1 + chain.length →
        result = .error (.error (.depthLimitExceeded limit))) ∧
      ((∀ limit, maxDepth = some limit → 1 ≤ chain.length →
          outer.length + 1 + chain.length ≤ limit) →
        result = .ok () ∧ grown = tree.grow frame.node pending.token pending.col chain) := by
  cases verdict with
  | leftOver none => cases none.symm.trans first
  | rejected stays silent =>
      cases stays.symm.trans first
      cases silent.symm.trans answer
  | @tooDeep _ _ _ chain _ _ stays _ descends given nonempty beyond =>
      cases stays.symm.trans first
      refine ⟨chain, descends, ?_, ?_⟩
      · intro limit again _ _
        obtain rfl := Option.some.inj (given.symm.trans again)
        rfl
      · intro fits
        exact absurd (fits _ given nonempty) (Nat.not_le.mpr beyond)
  | @taken _ _ _ chain stays _ descends fits =>
      cases stays.symm.trans first
      refine ⟨chain, descends, ?_, fun _ => ⟨rfl, rfl⟩⟩
      intro limit given nonempty beyond
      exact absurd (fits limit given nonempty) (Nat.not_le.mpr beyond)

end Verdicts

theorem Settles.verdict {grammar : AcceleratedGrammar} {maxDepth : Option Nat} {pending : Pending}
    {root : NonterminalId} {spine final : Spine} {events : List Event}
    {result : Except (Failure ParseError) Unit}
    (settles : Settles grammar maxDepth pending spine events final result)
    (sound : Sound grammar.grammar root spine) :
    Verdict grammar maxDepth pending spine.frames spine.tree final.tree result := by
  obtain ⟨retries, middle, pushes, last, ending, closes, opens, decides, rfl⟩ :=
    settles.phases sound
  obtain ⟨sameTree, sameFrames⟩ := closes.handOn sound
  rw [← sameTree]
  cases closes.sound sound with
  | closed _ _ =>
      obtain ⟨rfl, rfl⟩ := decides.of_closed opens
      exact .leftOver sameFrames
  | @opened top outer threaded =>
      obtain ⟨automaton, state, table, standing⟩ := threaded.standing
      have first (stays : grammar.handsOn pending.label
          ⟨top.symbol, top.state, Spine.extent outer⟩ = false) :
          spine.frames.dropWhile (grammar.handsOn pending.label) =
            ⟨top.symbol, top.state, Spine.extent outer⟩ :: Spine.framesOf outer := by
        rw [sameFrames, Spine.frames_opened]
        exact List.dropWhile_cons_of_neg (by simp [stays])
      cases answer : table.lookup pending.label with
      | none =>
          obtain ⟨blocked, rfl, rfl⟩ := decides.of_silent standing.tableFound answer opens
          apply Verdict.rejected
          · apply first
            rw [standing.handsOn_eq, answer, blocked]
            rfl
          · rw [standing.transition?_eq, answer]
      | some transition =>
          have stays := first (by rw [standing.handsOn_eq, answer]; rfl)
          have moves := (standing.transition?_eq (Spine.extent outer)).trans answer
          have height : (Spine.framesOf outer).length = outer.length := Spine.length_framesOf outer
          obtain ⟨chain, descends, ⟨rfl, fits, grown⟩ | ⟨limit, given, nonempty, beyond, rfl⟩⟩ :=
            decides.of_answer (.opened threaded) standing.tableFound answer opens
          · rw [grown]
            rw [← height] at fits
            exact .taken stays moves descends fits
          · rw [← height] at beyond
            exact .tooDeep stays moves descends given nonempty beyond

theorem Fed.verdict {grammar : AcceleratedGrammar} {maxDepth : Option Nat} {root : NonterminalId}
    {spine final : Spine} {events : List Event} {result : Except (Failure ParseError) Unit}
    {token : Token} {col : Nat} {label : LabelId}
    (fed : Fed grammar maxDepth token col spine events final result)
    (sound : Sound grammar.grammar root spine)
    (classified : grammar.grammar.classify token = some label) :
    Verdict grammar maxDepth ⟨token, col, label⟩ spine.frames spine.tree final.tree result := by
  cases fed with
  | unclassified missing => cases missing.symm.trans classified
  | refused again settles =>
      obtain rfl := Option.some.inj (again.symm.trans classified)
      exact settles.verdict sound
  | taken again settles collapses =>
      obtain rfl := Option.some.inj (again.symm.trans classified)
      rw [collapses.tree_eq]
      exact settles.verdict sound

/-- The open frames decide. For a parser that is neither complete nor stopped, a token without a
label is refused. For a token with a label, the first frame that does not hand it on decides: there
is none and the token is left over; or it has no transition and refuses the token; or it has one,
and the chain of nonterminals down to the token is too long for the limit or is appended to the
tree, with the token at its end. The input may end exactly if every open frame may end, and
otherwise the innermost that may not is named. -/
theorem verdict_of_open_frames {grammar : AcceleratedGrammar} {options : Options}
    {parser before : Parser} {input : List (Token × Nat)}
    (made : Parser.new (.accelerated grammar) options = .ok parser)
    (history : parser.afterFeeds input = before) (notDone : before.isDone = false)
    (notPoisoned : before.poisoned = false) (token : Token) (col : Nat) :
    (grammar.grammar.classify token = none →
      (before.feed token col).2.result =
          .error (.error (.illegalToken token col .unclassified)) ∧
        (before.feed token col).1.tree = before.tree) ∧
    (∀ label, grammar.grammar.classify token = some label →
      (before.frames.dropWhile (grammar.handsOn label) = [] →
        (before.feed token col).2.result = .error (.error (.stackUnderflow token col)) ∧
          (before.feed token col).1.tree = before.tree) ∧
      ∀ frame outer, before.frames.dropWhile (grammar.handsOn label) = frame :: outer →
        (grammar.transition? label frame = none →
          (before.feed token col).2.result =
              .error (.error (.illegalToken token col .rejected)) ∧
            (before.feed token col).1.tree = before.tree) ∧
        ∀ transition, grammar.transition? label frame = some transition →
          ∃ chain, Descends grammar label frame.nonterminal frame.state chain ∧
            (∀ other, Descends grammar label frame.nonterminal frame.state other →
              other = chain) ∧
            (∀ limit, options.maxDepth = some limit → 1 ≤ chain.length →
              limit < outer.length + 1 + chain.length →
              (before.feed token col).2.result = .error (.error (.depthLimitExceeded limit))) ∧
            ((∀ limit, options.maxDepth = some limit → 1 ≤ chain.length →
                outer.length + 1 + chain.length ≤ limit) →
              (before.feed token col).2.result = .ok () ∧
                (before.feed token col).1.tree = before.tree.grow frame.node token col chain ∧
                (before.feed token col).1.tree.size = before.tree.size + chain.length + 1)) ∧
    (∀ tree, before.finish.result = .ok tree ↔
      tree = before.tree ∧ ∀ frame ∈ before.frames, grammar.accepts frame = true) ∧
    ∀ frame, before.frames.find? (fun frame => !grammar.accepts frame) = some frame →
      ∃ automaton, grammar.grammar.automaton? frame.nonterminal = some automaton ∧
        before.finish.result = .error (.error (.unexpectedEnd automaton.name)) := by
  obtain ⟨_, symbol, same, _, reached⟩ := exists_reached_of_new made
  cases same
  have stands := reached.afterFeeds input
  rw [history] at stands
  obtain ⟨top, outer, events, final, result, rfl, sound, fed, stepped⟩ :=
    stands.feed_of_running notDone notPoisoned token col
  have answer : (ended grammar options.maxDepth events final result).2.result = result := by
    cases result <;> rfl
  rw [stepped, answer, tree_ended]
  refine ⟨?_, ?_, fun _ => stands.finish_eq_ok_iff, fun _ => stands.finish_of_find?⟩
  · intro missing
    cases fed with
    | unclassified _ => exact ⟨rfl, rfl⟩
    | refused classified _ => cases missing.symm.trans classified
    | taken classified _ _ => cases missing.symm.trans classified
  · intro label classified
    have verdict := fed.verdict sound classified
    refine ⟨verdict.of_nil, ?_⟩
    intro frame around first
    refine ⟨verdict.of_refusal first, ?_⟩
    intro transition moves
    obtain ⟨chain, descends, limited, taken⟩ := verdict.of_transition first moves
    refine ⟨chain, descends, fun other => descends.unique, limited, ?_⟩
    intro fits
    obtain ⟨succeeds, grown⟩ := taken fits
    refine ⟨succeeds, grown, ?_⟩
    rw [grown, Tree.size_grow]
    rfl

/-- Between the parentheses of an item, a name has to stand in a list and, there, in an item. -/
theorem descends_item : Descends listGrammar 1 ⟨257⟩ 1 [⟨256⟩, ⟨257⟩] := by
  have parenthesis : listGrammar.table? ⟨257⟩ 1 =
      some ⟨false, 1, #[some (.push ⟨256⟩ 2), some (.push ⟨256⟩ 2)]⟩ := by cbv
  have list : listGrammar.table? ⟨256⟩ 0 =
      some ⟨false, 1, #[some (.push ⟨257⟩ 1), some (.push ⟨257⟩ 1)]⟩ := by cbv
  have item : listGrammar.table? ⟨257⟩ 0 =
      some ⟨false, 1, #[some (.shift 3), some (.shift 1)]⟩ := by cbv
  exact .deeper parenthesis rfl rfl (.deeper list rfl rfl (.here item rfl))

/-- Between the parentheses of an item, a name opens two nonterminals, which with the item itself
are too many for a limit of two. The input may not end there. -/
theorem verdict_of_open_frames_item :
    Parser.new (.accelerated listGrammar) ⟨some (.name "item"), some 2⟩ =
        .ok (itemParser (some 2)) ∧
      ((afterParenthesis (some 2)).feed ⟨.name, "a", 1⟩ 1).2.result =
        .error (.error (.depthLimitExceeded 2)) ∧
      ((afterParenthesis (some 3)).feed ⟨.name, "a", 1⟩ 1).2.result = .ok () ∧
      ((afterParenthesis (some 3)).feed ⟨.name, "a", 1⟩ 1).1.tree =
        (afterParenthesis (some 3)).tree.grow Tree.root ⟨.name, "a", 1⟩ 1 [⟨256⟩, ⟨257⟩] ∧
      (afterParenthesis (some 3)).finish.result = .error (.error (.unexpectedEnd "item")) := by
  have made (limit : Nat) : Parser.new (.accelerated listGrammar)
      ⟨some (.name "item"), some limit⟩ = .ok (itemParser (some limit)) := rfl
  have history (maxDepth : Option Nat) : (itemParser maxDepth).afterFeeds
      [(⟨.leftParen, "(", 1⟩, 0)] = afterParenthesis maxDepth := rfl
  have classified : nestedLists.classify ⟨.name, "a", 1⟩ = some 1 := by cbv
  have answer : listGrammar.transition? 1 ⟨⟨257⟩, 1, Tree.root⟩ = some (.push ⟨256⟩ 2) := by cbv
  refine ⟨made 2, ?_, ?_⟩
  · obtain ⟨_, verdict, _⟩ := verdict_of_open_frames (made 2) (history (some 2)) (by cbv) (by cbv)
      ⟨.name, "a", 1⟩ 1
    obtain ⟨_, decided⟩ := verdict 1 classified
    obtain ⟨_, moves⟩ := decided ⟨⟨257⟩, 1, Tree.root⟩ [] (by cbv)
    obtain ⟨chain, _, unique, limited, _⟩ := moves _ answer
    obtain rfl := unique _ descends_item
    exact limited 2 rfl (by decide) (by decide)
  · obtain ⟨_, verdict, _, ends⟩ := verdict_of_open_frames (made 3) (history (some 3)) (by cbv)
      (by cbv) ⟨.name, "a", 1⟩ 1
    obtain ⟨_, decided⟩ := verdict 1 classified
    obtain ⟨_, moves⟩ := decided ⟨⟨257⟩, 1, Tree.root⟩ [] (by cbv)
    obtain ⟨chain, _, unique, _, taken⟩ := moves _ answer
    obtain rfl := unique _ descends_item
    obtain ⟨succeeds, grown, _⟩ := taken (by
      intro limit given _
      cases given
      decide)
    obtain ⟨automaton, found, finished⟩ := ends ⟨⟨257⟩, 1, Tree.root⟩ (by cbv)
    cases found
    exact ⟨succeeds, grown, finished⟩

end Parser

end TransitionNetwork
