import TransitionNetwork.Grammar.Builder
import TransitionNetwork.Proofs.Grammar.Compilation

/-!
# Handles of a builder

The numbers that a builder gives for labels and nonterminals are positions cut to 16 bits, given
long before it is known whether the grammar can be built. If it can be, they mean what was asked
for: no label and no name is entered twice, nothing that was entered moves, and the check of sizes
leaves no position that was cut. What an automaton, or the start, is in the end depends on the last
call that sets it.
-/

set_option autoImplicit false

namespace TransitionNetwork

namespace Builder

/-! ## Calls -/

inductive Step where
  | token (kind : TokenKind)
  | keyword (literal : String)
  | pinned (kind : TokenKind) (literal : String)
  | nonterminalLabel (id : NonterminalId)
  | label (asked : Label)
  | nonterminal (name : String)
  | define (id : NonterminalId) (states : Array State)
  | startAt (id : NonterminalId)
  deriving DecidableEq, Repr

namespace Step

/-- The label that a call asks for. -/
def label? : Step → Option Label
  | .token kind => some (.token kind)
  | .keyword literal => some (.keyword literal)
  | .pinned kind literal => some (.pinned kind literal)
  | .nonterminalLabel id => some (.nonterminal id)
  | .label asked => some asked
  | .nonterminal _ | .define .. | .startAt _ => none

/-- The name that a call declares, if it is not declared yet. -/
def name? : Step → Option String
  | .nonterminal name => some name
  | _ => none

def definition? (concerns : NonterminalId → Bool) : Step → Option (Array State)
  | .define id states => if concerns id then some states else none
  | _ => none

def start? : Step → Option NonterminalId
  | .startAt id => some id
  | _ => none

end Step

/-- The calls from the first on that declares a name. -/
def since (name : String) (steps : List Step) : List Step :=
  steps.dropWhile fun step => step.name? != some name

/-- The states that the last definition of a nonterminal gives it. -/
def lastDefinition (concerns : NonterminalId → Bool) (steps : List Step) : Option (Array State) :=
  steps.reverse.findSome? (Step.definition? concerns)

def lastStart (steps : List Step) : Option NonterminalId :=
  steps.reverse.findSome? Step.start?

/-- A builder after some calls, with all labels and names that were asked for and the numbers that
were given for them. -/
structure Session where
  builder : Builder
  labels : List (Label × LabelId)
  nonterminals : List (String × NonterminalId)
  deriving DecidableEq, Repr

namespace Session

def new : Session :=
  { builder := .new, labels := [], nonterminals := [] }

def enter (session : Session) (label : Label) (given : LabelId × Builder) : Session :=
  { session with builder := given.2, labels := session.labels ++ [(label, given.1)] }

def declare (session : Session) (name : String) (given : NonterminalId × Builder) : Session :=
  { session with builder := given.2, nonterminals := session.nonterminals ++ [(name, given.1)] }

def take (session : Session) : Step → Session
  | .token kind => session.enter (.token kind) (session.builder.token kind)
  | .keyword literal => session.enter (.keyword literal) (session.builder.keyword literal)
  | .pinned kind literal =>
      session.enter (.pinned kind literal) (session.builder.pinned kind literal)
  | .nonterminalLabel id =>
      session.enter (.nonterminal id) (session.builder.nonterminalLabel id)
  | .label asked => session.enter asked (session.builder.label asked)
  | .nonterminal name => session.declare name (session.builder.nonterminal name)
  | .define id states => { session with builder := session.builder.define id states }
  | .startAt id => { session with builder := session.builder.startAt id }

def run (steps : List Step) : Session :=
  steps.foldl take new

end Session

/-- The defects that a grammar cannot have if it was built by calls. -/
def prevents : GrammarError → Bool
  | .duplicateFallback .. | .duplicateKeyword .. | .misnumbered .. | .initialOutOfRange .. => true
  | _ => false

/-! ## Tables of distinct entries -/

/-- Nothing stands twice in the table, and every number that was given for an entry is that of its
position. -/
structure Handed {α β : Type} (number : Nat → β) (table : Array α) (given : List (α × β)) :
    Prop where
  distinct : table.toList.Nodup
  positions : ∀ {value : α} {handle : β}, (value, handle) ∈ given →
    ∃ position : Nat, table[position]? = some value ∧ handle = number position

section Tables

variable {α β : Type} {number : Nat → β} {table : Array α} {given : List (α × β)} {value : α}

theorem Handed.again (handed : Handed number table given) {position : Nat}
    (found : table[position]? = some value) :
    Handed number table (given ++ [(value, number position)]) := by
  refine ⟨handed.distinct, ?_⟩
  intro asked handle member
  rcases List.mem_append.mp member with earlier | now
  · exact handed.positions earlier
  · cases List.mem_singleton.mp now
    exact ⟨position, found, rfl⟩

theorem Handed.push (handed : Handed number table given) (fresh : value ∉ table) :
    Handed number (table.push value) (given ++ [(value, number table.size)]) := by
  refine ⟨?_, ?_⟩
  · rw [Array.toList_push, List.nodup_append]
    refine ⟨handed.distinct, List.nodup_singleton _, ?_⟩
    rintro entered member other single rfl
    exact fresh (List.mem_singleton.mp single ▸ Array.mem_toList_iff.mp member)
  · intro asked handle member
    rcases List.mem_append.mp member with earlier | now
    · -- What was entered stays where it is.
      obtain ⟨position, found, numbered⟩ := handed.positions earlier
      refine ⟨position, ?_, numbered⟩
      rw [Array.getElem?_push, if_neg, found]
      obtain ⟨inside, _⟩ := Array.getElem?_eq_some_iff.mp found
      exact Nat.ne_of_lt inside
    · cases List.mem_singleton.mp now
      exact ⟨table.size, Array.getElem?_push_size, rfl⟩

theorem Handed.position_unique (handed : Handed number table given) {left right : Nat}
    (leftAt : table[left]? = some value) (rightAt : table[right]? = some value) :
    left = right := by
  obtain ⟨inside, _⟩ := Array.getElem?_eq_some_iff.mp leftAt
  apply (List.getElem?_inj (by simpa using inside) handed.distinct).mp
  rw [Array.getElem?_toList, Array.getElem?_toList, leftAt, rightAt]

end Tables

/-! ## Labels -/

theorem label_cases (builder : Builder) (label : Label) :
    (∃ position : Nat, builder.labels[position]? = some label ∧
      builder.label label = (position.toUInt16, builder)) ∨
    label ∉ builder.labels ∧ builder.label label =
      (builder.labels.size.toUInt16, { builder with labels := builder.labels.push label }) := by
  unfold Builder.label
  split
  · next position found =>
      obtain ⟨inside, same, _⟩ := Array.findIdx?_eq_some_iff_getElem.mp found
      refine .inl ⟨position, ?_, rfl⟩
      rw [Array.getElem?_eq_getElem inside, beq_iff_eq.mp same]
  · next missing =>
      refine .inr ⟨?_, rfl⟩
      intro member
      simpa using Array.findIdx?_eq_none_iff.mp missing label member

/-- The accept marker is the first label, and it stays there. -/
theorem marker_label {builder : Builder} (marker : builder.labels[0]? = some .empty)
    (label : Label) : (builder.label label).2.labels[0]? = some .empty := by
  rcases builder.label_cases label with ⟨_, _, same⟩ | ⟨_, same⟩
  · rw [same]
    exact marker
  · rw [same, Array.getElem?_push, if_neg, marker]
    obtain ⟨inside, _⟩ := Array.getElem?_eq_some_iff.mp marker
    exact Nat.ne_of_lt inside

theorem Handed.label {builder : Builder} {given : List (Label × LabelId)}
    (handed : Handed Nat.toUInt16 builder.labels given) (label : Label) :
    Handed Nat.toUInt16 (builder.label label).2.labels
      (given ++ [(label, (builder.label label).1)]) := by
  rcases builder.label_cases label with ⟨position, found, same⟩ | ⟨fresh, same⟩
  · rw [same]
    exact handed.again found
  · rw [same]
    exact handed.push fresh

/-! ## Nonterminals -/

/-- The declared names, by position. -/
def names (builder : Builder) : Array String :=
  builder.declarations.map Declaration.name

theorem nonterminal_cases (builder : Builder) (name : String) :
    (∃ position : Nat, builder.names[position]? = some name ∧
      builder.nonterminal name = (.ofIndex position, builder)) ∨
    name ∉ builder.names ∧ builder.nonterminal name =
      (.ofIndex builder.declarations.size,
        { builder with declarations := builder.declarations.push { name, states := none } }) := by
  unfold Builder.nonterminal
  split
  · next position found =>
      obtain ⟨inside, same, _⟩ := Array.findIdx?_eq_some_iff_getElem.mp found
      refine .inl ⟨position, ?_, rfl⟩
      rw [names, Array.getElem?_map, Array.getElem?_eq_getElem inside, Option.map_some,
        beq_iff_eq.mp same]
  · next missing =>
      refine .inr ⟨?_, rfl⟩
      intro member
      obtain ⟨declaration, among, same⟩ := Array.mem_map.mp member
      simpa [same] using Array.findIdx?_eq_none_iff.mp missing declaration among

theorem names_define (builder : Builder) (id : NonterminalId) (states : Array State) :
    (builder.define id states).names = builder.names := by
  apply Array.ext_getElem?
  intro position
  simp only [names, define, Array.getElem?_map, Array.getElem?_modify]
  split <;> simp [Function.comp_def]

/-- The last effect of calls is that of the last call, if it has one. -/
theorem findSome?_reverse_append {α : Type} (effect : Step → Option α) (steps : List Step)
    (step : Step) :
    (steps ++ [step]).reverse.findSome? effect =
      (effect step).or (steps.reverse.findSome? effect) := by
  rw [List.reverse_append, List.reverse_singleton, List.singleton_append, List.findSome?_cons]
  cases effect step <;> rfl

theorem since_append_of_declared {name : String} {steps : List Step}
    (declared : ∃ step ∈ steps, step.name? = some name) (step : Step) :
    since name (steps ++ [step]) = since name steps ++ [step] := by
  have nonempty : since name steps ≠ [] := by
    intro none
    obtain ⟨declaring, member, declares⟩ := declared
    have passed := List.dropWhile_eq_nil_iff.mp none declaring member
    simp [declares] at passed
  rw [since, List.dropWhile_append, if_neg (by simpa [since] using nonempty), since]

theorem since_append_of_new {name : String} {steps : List Step}
    (fresh : ¬ ∃ step ∈ steps, step.name? = some name) :
    since name (steps ++ [.nonterminal name]) = [.nonterminal name] := by
  have none : since name steps = [] := by
    apply List.dropWhile_eq_nil_iff.mpr
    intro step member
    simpa using fun declares => fresh ⟨step, member, declares⟩
  rw [since, List.dropWhile_append, ← since, none]
  simp [Step.name?]

theorem exists_declares_append {name other : String} {steps : List Step} :
    (∃ step ∈ steps ++ [.nonterminal name], step.name? = some other) ↔
      (∃ step ∈ steps, step.name? = some other) ∨ other = name := by
  have declares : (Step.nonterminal name).name? = some name := rfl
  simp [or_and_right, exists_or, declares, eq_comm]

/-- Names are those that were declared, each once. The states at a position are those of its last
definition since then. The first number that was given is that of the first position. -/
structure NamesHold (steps : List Step) (builder : Builder)
    (given : List (String × NonterminalId)) : Prop where
  handed : Handed NonterminalId.ofIndex builder.names given
  declared : ∀ {name : String}, (∃ step ∈ steps, step.name? = some name) ↔ name ∈ builder.names
  defined : ∀ {position : Nat} {declaration : Declaration},
    builder.declarations[position]? = some declaration →
      declaration.states = lastDefinition (·.index == position) (since declaration.name steps)
  first : given.head?.map Prod.snd = if builder.names.size = 0 then none else some (.ofIndex 0)

section Names

variable {steps : List Step} {builder : Builder} {given : List (String × NonterminalId)}

theorem NamesHold.lastDefinition_append (holds : NamesHold steps builder given)
    {position : Nat} {declaration : Declaration}
    (found : builder.declarations[position]? = some declaration) (step : Step) :
    lastDefinition (·.index == position) (since declaration.name (steps ++ [step])) =
      (step.definition? (·.index == position)).or declaration.states := by
  have declared : ∃ step ∈ steps, step.name? = some declaration.name :=
    holds.declared.mpr (Array.mem_map_of_mem (Array.mem_of_getElem? found))
  rw [since_append_of_declared declared, lastDefinition, findSome?_reverse_append,
    holds.defined found, lastDefinition]

theorem NamesHold.idle (holds : NamesHold steps builder given) {step : Step}
    (unnamed : step.name? = none) (undefined : ∀ concerns, step.definition? concerns = none)
    {after : Builder} (same : after.declarations = builder.declarations) :
    NamesHold (steps ++ [step]) after given := by
  have sameNames : after.names = builder.names := by rw [names, same, names]
  refine ⟨sameNames ▸ holds.handed, ?_, ?_, sameNames ▸ holds.first⟩
  · intro name
    simp [sameNames, ← holds.declared, unnamed]
  · intro position declaration found
    rw [same] at found
    rw [holds.lastDefinition_append found, undefined, Option.none_or]

theorem NamesHold.define (holds : NamesHold steps builder given) (id : NonterminalId)
    (states : Array State) :
    NamesHold (steps ++ [.define id states]) (builder.define id states) given := by
  have sameNames := builder.names_define id states
  refine ⟨sameNames ▸ holds.handed, ?_, ?_, sameNames ▸ holds.first⟩
  · intro name
    simp [sameNames, ← holds.declared, Step.name?]
  · intro position declaration found
    simp only [Builder.define, Array.getElem?_modify] at found
    split at found
    · next here =>
        obtain ⟨before, foundBefore, rfl⟩ := Option.map_eq_some_iff.mp found
        rw [holds.lastDefinition_append foundBefore]
        simp [Step.definition?, here]
    · next elsewhere =>
        rw [holds.lastDefinition_append found]
        simp [Step.definition?, elsewhere]

theorem NamesHold.first_append (holds : NamesHold steps builder given) (name : String)
    {id : NonterminalId} (numbered : builder.names.size = 0 → id = .ofIndex 0) :
    (given ++ [(name, id)]).head?.map Prod.snd = some (.ofIndex 0) := by
  have first := holds.first
  rw [List.head?_append]
  split at first
  · next empty =>
      rw [Option.map_eq_none_iff.mp first, numbered empty]
      rfl
  · next nonempty =>
      obtain ⟨handle, atHead, second⟩ := Option.map_eq_some_iff.mp first
      rw [atHead, ← second]
      rfl

theorem NamesHold.declare_again (holds : NamesHold steps builder given) {name : String}
    {position : Nat} (found : builder.names[position]? = some name) :
    NamesHold (steps ++ [.nonterminal name]) builder (given ++ [(name, .ofIndex position)]) := by
  obtain ⟨inside, _⟩ := Array.getElem?_eq_some_iff.mp found
  have nonempty : builder.names.size ≠ 0 := Nat.ne_of_gt (Nat.zero_lt_of_lt inside)
  refine ⟨holds.handed.again found, ?_, ?_, ?_⟩
  · intro other
    rw [exists_declares_append, holds.declared, or_iff_left_iff_imp]
    rintro rfl
    exact Array.mem_of_getElem? found
  · intro other declaration foundOther
    rw [holds.lastDefinition_append foundOther]
    rfl
  · rw [if_neg nonempty]
    exact holds.first_append name fun empty => absurd empty nonempty

theorem NamesHold.declare_new (holds : NamesHold steps builder given) {name : String}
    (fresh : name ∉ builder.names) :
    NamesHold (steps ++ [.nonterminal name])
      { builder with declarations := builder.declarations.push { name, states := none } }
      (given ++ [(name, .ofIndex builder.declarations.size)]) := by
  have pushed : Builder.names
      { builder with declarations := builder.declarations.push { name, states := none } } =
        builder.names.push name := by
    simp [names]
  have size : builder.names.size = builder.declarations.size := Array.size_map
  refine ⟨?_, ?_, ?_, ?_⟩
  · rw [pushed, ← size]
    exact holds.handed.push fresh
  · intro other
    rw [exists_declares_append, holds.declared, pushed, Array.mem_push]
  · intro position declaration found
    rw [Array.getElem?_push] at found
    split at found
    · next last =>
        -- Definitions of this number before the declaration do not count.
        cases found
        rw [since_append_of_new (mt holds.declared.mp fresh)]
        rfl
    · rw [holds.lastDefinition_append found]
      rfl
  · rw [pushed, Array.size_push, if_neg (Nat.succ_ne_zero _)]
    apply holds.first_append
    intro empty
    rw [← size, empty]

theorem NamesHold.declare (holds : NamesHold steps builder given) (name : String) :
    NamesHold (steps ++ [.nonterminal name]) (builder.nonterminal name).2
      (given ++ [(name, (builder.nonterminal name).1)]) := by
  rcases builder.nonterminal_cases name with ⟨position, found, same⟩ | ⟨fresh, same⟩
  · rw [same]
    exact holds.declare_again found
  · rw [same]
    exact holds.declare_new fresh

end Names

/-! ## Whole sessions -/

/-- What the calls have made of a session. Only this is kept from one call to the next. -/
structure Session.Follows (steps : List Step) (session : Session) : Prop where
  labels : Handed Nat.toUInt16 session.builder.labels session.labels
  marker : session.builder.labels[0]? = some .empty
  names : NamesHold steps session.builder session.nonterminals
  start : session.builder.start = lastStart steps
  askedLabels : session.labels.map Prod.fst = steps.filterMap Step.label?
  askedNames : session.nonterminals.map Prod.fst = steps.filterMap Step.name?

theorem label_keeps (builder : Builder) (label : Label) :
    (builder.label label).2.declarations = builder.declarations ∧
      (builder.label label).2.start = builder.start := by
  rcases builder.label_cases label with ⟨_, _, same⟩ | ⟨_, same⟩ <;> rw [same] <;> exact ⟨rfl, rfl⟩

theorem nonterminal_keeps (builder : Builder) (name : String) :
    (builder.nonterminal name).2.labels = builder.labels ∧
      (builder.nonterminal name).2.start = builder.start := by
  rcases builder.nonterminal_cases name with ⟨_, _, same⟩ | ⟨_, same⟩ <;> rw [same] <;>
    exact ⟨rfl, rfl⟩

theorem Step.of_label {step : Step} {label : Label} (asks : step.label? = some label) :
    step.name? = none ∧ (∀ concerns, step.definition? concerns = none) ∧ step.start? = none := by
  cases step with
  | token | keyword | pinned | nonterminalLabel | label => exact ⟨rfl, fun _ => rfl, rfl⟩
  | nonterminal | define | startAt => cases asks

namespace Session

variable {steps : List Step} {session : Session}

theorem Follows.enter (follows : session.Follows steps) {step : Step} {label : Label}
    (asks : step.label? = some label) :
    (session.enter label (session.builder.label label)).Follows (steps ++ [step]) := by
  obtain ⟨unnamed, undefined, noStart⟩ := Step.of_label asks
  obtain ⟨sameDeclarations, sameStart⟩ := session.builder.label_keeps label
  refine ⟨follows.labels.label label, marker_label follows.marker label,
    follows.names.idle unnamed undefined sameDeclarations, ?_, ?_, ?_⟩
  · rw [lastStart, findSome?_reverse_append, noStart, Option.none_or]
    exact sameStart.trans follows.start
  · simp [Session.enter, follows.askedLabels, asks]
  · simp [Session.enter, follows.askedNames, unnamed]

theorem Follows.declare (follows : session.Follows steps) (name : String) :
    (session.declare name (session.builder.nonterminal name)).Follows
      (steps ++ [.nonterminal name]) := by
  obtain ⟨sameLabels, sameStart⟩ := session.builder.nonterminal_keeps name
  refine ⟨?_, sameLabels ▸ follows.marker, follows.names.declare name, ?_, ?_, ?_⟩
  · simpa only [Session.declare, sameLabels] using follows.labels
  · rw [lastStart, findSome?_reverse_append]
    exact sameStart.trans follows.start
  · simp [Session.declare, follows.askedLabels, Step.label?]
  · simp [Session.declare, follows.askedNames, Step.name?]

theorem Follows.take (follows : session.Follows steps) (step : Step) :
    (session.take step).Follows (steps ++ [step]) := by
  cases step with
  | token | keyword | pinned | nonterminalLabel | label => exact follows.enter rfl
  | nonterminal name => exact follows.declare name
  | define id states =>
      refine ⟨follows.labels, follows.marker, follows.names.define id states, ?_, ?_, ?_⟩
      · rw [lastStart, findSome?_reverse_append]
        exact follows.start
      · simp [Session.take, follows.askedLabels, Step.label?]
      · simp [Session.take, follows.askedNames, Step.name?]
  | startAt id =>
      refine ⟨follows.labels, follows.marker, follows.names.idle rfl (fun _ => rfl) rfl, ?_, ?_, ?_⟩
      · rw [lastStart, findSome?_reverse_append]
        rfl
      · simp [Session.take, follows.askedLabels, Step.label?]
      · simp [Session.take, follows.askedNames, Step.name?]

theorem follows_new : new.Follows [] := by
  refine ⟨⟨?_, ?_⟩, rfl, ⟨⟨?_, ?_⟩, ?_, ?_, ?_⟩, rfl, rfl, rfl⟩
  all_goals simp [new, Builder.new, names]

theorem follows_run (steps : List Step) : (run steps).Follows steps := by
  induction steps using List.reverseRecOn with
  | nil => exact follows_new
  | append_singleton steps step ih =>
      rw [run, List.foldl_append]
      exact ih.take step

end Session

/-! ## Built grammars -/

/-- The grammar has the builder's labels and an automaton for each declaration. -/
structure Builds (builder : Builder) (grammar : Grammar) : Prop where
  labels : grammar.labels = builder.labels
  start : grammar.start = builder.start.getD (.ofIndex 0)
  size : grammar.automata.size = builder.declarations.size
  automata : ∀ {position : Nat} {declaration : Declaration},
    builder.declarations[position]? = some declaration → ∃ states,
      declaration.states = some states ∧
        grammar.automata[position]? = some ⟨.ofIndex position, declaration.name, 0, states⟩

theorem automaton_ends (declaration : Declaration) (position : Nat) :
    Ends (automaton declaration position)
      (fun made => ∃ states, declaration.states = some states ∧
        made = ⟨.ofIndex position, declaration.name, 0, states⟩)
      (fun defect => ∃ name, defect = .undefinedNonterminal name) := by
  unfold automaton
  cases declaration.states with
  | none => exact ⟨_, rfl⟩
  | some states => exact ⟨states, rfl, rfl⟩

theorem grammar_ends (builder : Builder) :
    Ends builder.grammar builder.Builds
      (fun defect => ∃ name, defect = .undefinedNonterminal name) := by
  unfold Builder.grammar
  refine Ends.bind ((Ends.mapM builder.declarations.toList.zipIdx).imp (fun _ => id) ?_) ?_
  · intro defect ⟨_, _, failed⟩
    exact (automaton_ends _ _).of_error failed
  · intro automata ⟨length, pointwise⟩
    refine Ends.pure_iff.mpr ⟨rfl, rfl, by simpa using length, ?_⟩
    intro position declaration found
    obtain ⟨made, madeAt, succeeded⟩ := pointwise position (declaration, position) (by simp [found])
    obtain ⟨states, defined, rfl⟩ := (automaton_ends declaration position).of_ok succeeded
    exact ⟨states, defined, by simpa using madeAt⟩

theorem Builds.declaration_of_automaton {builder : Builder} {grammar : Grammar}
    (builds : builder.Builds grammar) {position : Nat} {automaton : Automaton}
    (found : grammar.automata[position]? = some automaton) : ∃ declaration states,
      builder.declarations[position]? = some declaration ∧
        automaton = ⟨.ofIndex position, declaration.name, 0, states⟩ := by
  obtain ⟨inside, _⟩ := Array.getElem?_eq_some_iff.mp found
  have declared := Array.getElem?_eq_getElem (builds.size ▸ inside)
  obtain ⟨states, _, again⟩ := builds.automata declared
  exact ⟨_, states, declared, Option.some.inj (found.symm.trans again)⟩

/-- Why nothing can be built: a declaration has no definition, or the grammar is refused. -/
inductive Fails (builder : Builder) : GrammarError → Prop where
  | undefined {name : String} : Fails builder (.undefinedNonterminal name)
  | refused {grammar : Grammar} {defect : GrammarError} : builder.Builds grammar →
      grammar.Refused (.error defect) → Fails builder defect

theorem buildPlain_ends (builder : Builder) :
    Ends builder.buildPlain
      (fun network => builder.Builds network.grammar ∧ network.grammar.Closed) builder.Fails := by
  refine Ends.bind (builder.grammar_ends.imp (fun _ => id) ?_) ?_
  · rintro _ ⟨name, rfl⟩
    exact .undefined
  · intro grammar builds
    cases defect : grammar.defect? with
    | none =>
        have valid : Network.ofValid grammar = .ok (.plain grammar) := by
          rw [Network.ofValid, Grammar.validate_eq_ok_iff.mpr defect]
          rfl
        rw [valid]
        exact ⟨builds, Grammar.closed_of_clean defect⟩
    | some cause =>
        have refused : Network.ofValid grammar = .error cause := by
          rw [Network.ofValid, Grammar.validate, defect]
          rfl
        rw [refused]
        exact .refused builds (.defective defect)

theorem build_ends (builder : Builder) :
    Ends builder.build
      (fun network => builder.Builds network.grammar ∧ network.grammar.Closed)
      (fun failure => ∃ defect, failure = .error defect ∧ builder.Fails defect) := by
  have ends := builder.grammar_ends
  unfold build
  cases assembled : builder.grammar with
  | error defect =>
      obtain ⟨name, rfl⟩ := ends.of_error assembled
      exact ⟨_, rfl, .undefined⟩
  | ok grammar =>
      have builds := ends.of_ok assembled
      change Ends (Network.ofGrammar grammar) _ _
      rw [Network.ofGrammar]
      cases accelerated : grammar.accelerate with
      | ok full =>
          have same := Grammar.grammar_of_accelerate accelerated
          refine Ends.ok_bind_iff.mpr ⟨?_, full.closed⟩
          rw [Network.grammar, same]
          exact builds
      | error failure =>
          have refused := grammar.compile_total.of_error
            (Grammar.accelerate_eq_error_iff.mp accelerated)
          obtain ⟨defect, rfl⟩ := refused.exists_cause
          exact ⟨defect, rfl, .refused builds refused⟩

/-! ## Defects that cannot be -/

theorem labelDefect?_not_prevented {grammar : Grammar} {label : Label} {position : Nat}
    {defect : GrammarError} {given : List (Label × LabelId)}
    (handed : Handed Nat.toUInt16 grammar.labels given)
    (found : grammar.labels[position]? = some label)
    (blamed : grammar.labelDefect? label position = some defect) : prevents defect = false := by
  have unique : grammar.earlier? label position = none := by
    rw [Grammar.earlier?_eq_none_iff]
    intro earlier before same
    rw [handed.position_unique same found] at before
    exact Nat.lt_irrefl position before
  unfold Grammar.labelDefect? at blamed
  split at blamed
  · split at blamed
    · cases blamed
      rfl
    · cases blamed
  · simp [unique] at blamed
  · simp [unique] at blamed
  · cases blamed
  · cases blamed

theorem automatonDefect?_not_prevented {grammar : Grammar} {automaton : Automaton} {position : Nat}
    {defect : GrammarError} (numbered : automaton.id = .ofIndex position)
    (initial : automaton.initial = 0)
    (blamed : grammar.automatonDefect? automaton position = some defect) :
    prevents defect = false := by
  unfold Grammar.automatonDefect? at blamed
  split_ifs at blamed with misnumbered empty outside
  · exact absurd numbered misnumbered
  · cases blamed
    rfl
  · rw [initial] at outside
    exact absurd (Nat.le_zero.mp outside) empty
  · obtain ⟨⟨state, _⟩, _, stateBlamed⟩ := List.exists_of_findSome?_eq_some blamed
    obtain ⟨arc, _, arcBlamed⟩ := List.exists_of_findSome?_eq_some stateBlamed
    unfold Grammar.arcDefect? at arcBlamed
    split_ifs at arcBlamed <;> cases arcBlamed <;> rfl

theorem outlineDefect?_not_prevented {grammar : Grammar} {defect : GrammarError}
    (blamed : grammar.outlineDefect? = some defect) : prevents defect = false := by
  unfold Grammar.outlineDefect? at blamed
  split_ifs at blamed <;> cases blamed <;> rfl

theorem Fails.not_prevented {builder : Builder} {defect : GrammarError}
    (fails : builder.Fails defect) {given : List (Label × LabelId)}
    (handed : Handed Nat.toUInt16 builder.labels given) :
    prevents defect = false := by
  cases fails with
  | undefined => rfl
  | @refused grammar _ builds refused =>
      cases refused with
      | leftRecursive _ _ => rfl
      | ambiguous _ _ _ => rfl
      | defective blamed =>
          rw [Grammar.defect?, Option.or_eq_some_iff, Option.or_eq_some_iff] at blamed
          obtain outline | ⟨_, inLabels | ⟨_, inAutomata⟩⟩ := blamed
          · exact outlineDefect?_not_prevented outline
          · obtain ⟨⟨label, position⟩, member, labelBlamed⟩ :=
              List.exists_of_findSome?_eq_some inLabels
            rw [List.mk_mem_zipIdx_iff_getElem?, Array.getElem?_toList] at member
            exact labelDefect?_not_prevented (builds.labels ▸ handed) member labelBlamed
          · obtain ⟨⟨automaton, position⟩, member, automatonBlamed⟩ :=
              List.exists_of_findSome?_eq_some inAutomata
            rw [List.mk_mem_zipIdx_iff_getElem?, Array.getElem?_toList] at member
            obtain ⟨_, _, _, rfl⟩ := builds.declaration_of_automaton member
            exact automatonDefect?_not_prevented rfl rfl automatonBlamed

/-! ## What handles mean -/

section Meaning

variable {steps : List Step} {builder : Builder} {grammar : Grammar}

theorem Handed.label? {given : List (Label × LabelId)}
    (handed : Handed Nat.toUInt16 builder.labels given) (builds : builder.Builds grammar)
    (closed : grammar.Closed) {label : Label} {id : LabelId} (member : (label, id) ∈ given) :
    grammar.label? id = some label := by
  obtain ⟨position, found, rfl⟩ := handed.positions member
  obtain ⟨inside, _⟩ := Array.getElem?_eq_some_iff.mp found
  have small : position < 65536 := by
    have fits := closed.labels_le
    rw [builds.labels, Grammar.maxLabels] at fits
    omega
  have exact : position.toUInt16.toNat = position := by
    simp only [Nat.toUInt16, UInt16.toNat_ofNat']
    exact Nat.mod_eq_of_lt small
  rw [Grammar.label?, exact, builds.labels, found]

theorem Handed.eq_iff {given : List (Label × LabelId)}
    (handed : Handed Nat.toUInt16 builder.labels given) (builds : builder.Builds grammar)
    (closed : grammar.Closed) {label other : Label} {id otherId : LabelId}
    (member : (label, id) ∈ given) (otherMember : (other, otherId) ∈ given) :
    otherId = id ↔ other = label := by
  constructor
  · rintro rfl
    apply Option.some.inj
    rw [← handed.label? builds closed member, handed.label? builds closed otherMember]
  · rintro rfl
    obtain ⟨position, found, rfl⟩ := handed.positions member
    obtain ⟨otherPosition, otherFound, rfl⟩ := handed.positions otherMember
    rw [handed.position_unique found otherFound]

theorem Builds.names (builds : builder.Builds grammar) :
    grammar.automata.map Automaton.name = builder.names := by
  apply Array.ext_getElem?
  intro position
  rw [Array.getElem?_map, Builder.names, Array.getElem?_map]
  cases found : builder.declarations[position]? with
  | none =>
      have past := Array.getElem?_eq_none_iff.mp found
      rw [Array.getElem?_eq_none (builds.size ▸ past)]
      rfl
  | some declaration =>
      obtain ⟨states, _, made⟩ := builds.automata found
      rw [made]
      rfl

theorem Handed.automatonNamed? {given : List (String × NonterminalId)}
    (handed : Handed NonterminalId.ofIndex builder.names given) (builds : builder.Builds grammar)
    {position : Nat} {automaton : Automaton}
    (found : grammar.automata[position]? = some automaton) :
    grammar.automatonNamed? automaton.name = some automaton := by
  have nameAt {index : Nat} {entered : Automaton}
      (enteredAt : grammar.automata[index]? = some entered) :
      builder.names[index]? = some entered.name := by
    rw [← builds.names, Array.getElem?_map, enteredAt, Option.map_some]
  unfold Grammar.automatonNamed?
  cases hit : grammar.automata.find? fun other => other.name == automaton.name with
  | none =>
      have missed := Array.find?_eq_none.mp hit automaton (Array.mem_of_getElem? found)
      simp at missed
  | some other =>
      have same : other.name = automaton.name := by simpa using Array.find?_some hit
      obtain ⟨otherPosition, otherFound⟩ :=
        Array.mem_iff_getElem?.mp (Array.mem_of_find?_eq_some hit)
      obtain rfl := handed.position_unique (same ▸ nameAt otherFound) (nameAt found)
      rw [← otherFound, found]

/-- Up to 65536 positions, the definitions for a position are those for its number. -/
theorem concerns_ofIndex {position : Nat} (small : position < 65536) :
    (fun id : NonterminalId => id.index == position) = (· == .ofIndex position) := by
  funext id
  rw [Bool.eq_iff_iff, beq_iff_eq, beq_iff_eq]
  constructor
  · rintro rfl
    exact id.ofIndex_index.symm
  · rintro rfl
    exact NonterminalId.index_ofIndex small

theorem NamesHold.automaton {given : List (String × NonterminalId)}
    (holds : NamesHold steps builder given) (builds : builder.Builds grammar)
    (closed : grammar.Closed) {name : String} {id : NonterminalId} (member : (name, id) ∈ given) :
    ∃ states, grammar.automaton? id = some ⟨id, name, 0, states⟩ ∧
      lastDefinition (· == id) (since name steps) = some states := by
  obtain ⟨position, foundName, rfl⟩ := holds.handed.positions member
  rw [names, Array.getElem?_map] at foundName
  obtain ⟨declaration, found, rfl⟩ := Option.map_eq_some_iff.mp foundName
  obtain ⟨states, defined, made⟩ := builds.automata found
  obtain ⟨inside, _⟩ := Array.getElem?_eq_some_iff.mp made
  have small : position < 65536 := by
    have fits := closed.automata_le
    rw [Grammar.maxNonterminals] at fits
    omega
  refine ⟨states, ?_, ?_⟩
  · rw [Grammar.automaton?, NonterminalId.index_ofIndex small, made]
  · rw [← concerns_ofIndex small, ← holds.defined found, defined]

theorem Builds.names_nonempty (builds : builder.Builds grammar) (closed : grammar.Closed) :
    builder.names.size ≠ 0 := by
  obtain ⟨automaton, found⟩ := closed.start
  obtain ⟨inside, _⟩ := Array.getElem?_eq_some_iff.mp found
  rw [← builds.names, Array.size_map]
  exact Nat.ne_of_gt (Nat.zero_lt_of_lt inside)

end Meaning

/-! ## Main statement -/

/-- Handles mean what was asked for. After any calls, every label and every name that was asked for
has been answered with a number. If a network can be built, with tables or without, a number given
for a label is that of the label, numbers are equal exactly if the labels are, and label 0 is the
accept marker. A number given for a name is that of the only automaton with this name, which starts
in state 0 and has the states of the last definition since the name was declared. The start is the
last one set, or else the nonterminal that was declared first. If nothing can be built, this is
never for a label that stands twice, for the number of an automaton or for an initial state. -/
theorem handles_of_steps (steps : List Step) :
    (Session.run steps).labels.map Prod.fst = steps.filterMap Step.label? ∧
    (Session.run steps).nonterminals.map Prod.fst = steps.filterMap Step.name? ∧
    (∀ network, (Session.run steps).builder.buildPlain = .ok network ∨
        (Session.run steps).builder.build = .ok network →
      network.grammar.label? 0 = some .empty ∧
      (∀ label id, (label, id) ∈ (Session.run steps).labels →
        network.grammar.label? id = some label ∧
          ∀ other otherId, (other, otherId) ∈ (Session.run steps).labels →
            (otherId = id ↔ other = label)) ∧
      (∀ name id, (name, id) ∈ (Session.run steps).nonterminals →
        network.grammar.nameOf id = name ∧
          ∃ states, network.grammar.automatonNamed? name = some ⟨id, name, 0, states⟩ ∧
            lastDefinition (· == id) (since name steps) = some states) ∧
      (network.grammar.automata.toList.map Automaton.name).Nodup ∧
      some network.grammar.start =
        (lastStart steps).or ((Session.run steps).nonterminals.head?.map Prod.snd)) ∧
    ∀ defect, (Session.run steps).builder.buildPlain = .error defect ∨
        (Session.run steps).builder.build = .error (.error defect) →
      prevents defect = false := by
  have follows := Session.follows_run steps
  refine ⟨follows.askedLabels, follows.askedNames, ?_, ?_⟩
  · intro network built
    have made : (Session.run steps).builder.Builds network.grammar ∧ network.grammar.Closed := by
      rcases built with plain | full
      · exact (buildPlain_ends _).of_ok plain
      · exact (build_ends _).of_ok full
    obtain ⟨builds, closed⟩ := made
    refine ⟨?_, ?_, ?_, ?_, ?_⟩
    · rw [Grammar.label?, builds.labels]
      exact follows.marker
    · intro label id member
      refine ⟨follows.labels.label? builds closed member, ?_⟩
      intro other otherId otherMember
      exact follows.labels.eq_iff builds closed member otherMember
    · intro name id member
      obtain ⟨states, found, defined⟩ := follows.names.automaton builds closed member
      refine ⟨by rw [Grammar.nameOf, found], states, ?_, defined⟩
      exact follows.names.handed.automatonNamed? builds found
    · have distinct := follows.names.handed.distinct
      rwa [← builds.names, Array.toList_map] at distinct
    · rw [builds.start, follows.start, follows.names.first,
        if_neg (builds.names_nonempty closed)]
      cases lastStart steps <;> rfl
  · intro defect failed
    have fails : (Session.run steps).builder.Fails defect := by
      rcases failed with plain | full
      · exact (buildPlain_ends _).of_error plain
      · obtain ⟨_, same, fails⟩ := (build_ends _).of_error full
        cases same
        exact fails
    exact fails.not_prevented follows.labels

/-- An item is defined before it is declared, and twice afterwards; its name and its label are asked
for twice. -/
def repeatedSteps : List Step :=
  [.define ⟨256⟩ #[], .nonterminal "item", .token .name, .define ⟨256⟩ #[], .token .name,
    .define ⟨256⟩ #[⟨[⟨1, 1⟩]⟩, ⟨[⟨0, 1⟩]⟩], .nonterminal "item"]

/-- Only the last definition counts, and what is asked for again is not entered again. -/
theorem handles_of_steps_repeated :
    ∃ network : Network, (Session.run repeatedSteps).builder.buildPlain = .ok network ∧
      network.grammar.label? 1 = some (.token .name) ∧
      network.grammar.automatonNamed? "item" =
        some ⟨⟨256⟩, "item", 0, #[⟨[⟨1, 1⟩]⟩, ⟨[⟨0, 1⟩]⟩]⟩ ∧
      network.grammar.start = ⟨256⟩ := by
  have labels : (Session.run repeatedSteps).labels = [(.token .name, 1), (.token .name, 1)] := by
    cbv
  have nonterminals :
      (Session.run repeatedSteps).nonterminals = [("item", ⟨256⟩), ("item", ⟨256⟩)] := by cbv
  obtain ⟨network, made⟩ :
      ∃ network, (Session.run repeatedSteps).builder.buildPlain = .ok network := ⟨_, by cbv⟩
  obtain ⟨_, _, built, _⟩ := handles_of_steps repeatedSteps
  obtain ⟨_, named, numbered, _, start⟩ := built network (.inl made)
  obtain ⟨found, _⟩ := named (.token .name) 1 (by simp [labels])
  obtain ⟨_, states, automaton, defined⟩ := numbered "item" ⟨256⟩ (by simp [nonterminals])
  have last : lastDefinition (· == ⟨256⟩) (since "item" repeatedSteps) =
      some #[⟨[⟨1, 1⟩]⟩, ⟨[⟨0, 1⟩]⟩] := by cbv
  obtain rfl := Option.some.inj (defined.symm.trans last)
  rw [nonterminals] at start
  exact ⟨network, made, found, automaton, Option.some.inj start⟩

end Builder

end TransitionNetwork
