import TransitionNetwork.Proofs.Grammar.Compilation

/-!
# Where a refusal points

A grammar that is refused because of one of its states is refused with the name of an automaton and
the number of a state. Where a target is out of range or a state is ambiguous, that state has the
defect. The number of a state with an unknown label is cut to 16 bits before it is reported, so in
an automaton with more than 65536 states a state without any defect may be the one that is named.
-/

set_option autoImplicit false

namespace TransitionNetwork

namespace Grammar

/-! ## Defects of states -/

/-- Some automaton with a name has a state at a position about which something holds. -/
def HasState (grammar : Grammar) (name : String) (position : Nat)
    (holds : Automaton → State → Prop) : Prop :=
  ∃ automaton ∈ grammar.automata, automaton.name = name ∧
    ∃ state, automaton.states[position]? = some state ∧ holds automaton state

/-- A state has an arc on a label past the end of the label table. -/
def LabelUnknown (grammar : Grammar) (label : LabelId) (_ : Automaton) (state : State) : Prop :=
  ∃ arc ∈ state.arcs, arc.label = label ∧ grammar.labels.size ≤ label.toNat

/-- A state has an arc to a target past the last state. -/
def TargetUnknown (target : StateId) (automaton : Automaton) (state : State) : Prop :=
  ∃ arc ∈ state.arcs, arc.target = target ∧ automaton.states.size ≤ target.toNat

/-- What validation knows about the state it names: the state at some position has the defect, and
the number is the position cut to 16 bits. -/
inductive StateDefect (grammar : Grammar) (automaton : Automaton) (position : Nat) (state : State) :
    GrammarError → Prop where
  | label {label : LabelId} : grammar.LabelUnknown label automaton state →
      StateDefect grammar automaton position state
        (.unknownLabel automaton.name position.toUInt16 label)
  | target {target : StateId} : TargetUnknown target automaton state →
      StateDefect grammar automaton position state
        (.targetOutOfRange automaton.name position.toUInt16 target)

section Checks

variable {grammar : Grammar} {automaton : Automaton} {state : State} {position : Nat}
  {defect : GrammarError}

theorem stateDefect_of_blamed (blamed : grammar.stateDefect? automaton state position = some defect) :
    StateDefect grammar automaton position state defect := by
  obtain ⟨arc, member, arcBlamed⟩ := List.exists_of_findSome?_eq_some blamed
  unfold arcDefect? at arcBlamed
  split_ifs at arcBlamed with noLabel noTarget
  · cases arcBlamed
    exact .label ⟨arc, member, rfl, noLabel⟩
  · cases arcBlamed
    exact .target ⟨arc, member, rfl, noTarget⟩

/-- Whether an error names a state. -/
def namesState : GrammarError → Bool
  | .unknownLabel .. | .targetOutOfRange .. | .ambiguous .. => true
  | _ => false

theorem outlineDefect?_namesState (blamed : grammar.outlineDefect? = some defect) :
    namesState defect = false := by
  unfold outlineDefect? at blamed
  split_ifs at blamed <;> cases blamed <;> rfl

theorem labelDefect?_namesState {label : Label}
    (blamed : grammar.labelDefect? label position = some defect) : namesState defect = false := by
  unfold labelDefect? at blamed
  split at blamed
  · split_ifs at blamed
    cases blamed
    rfl
  · obtain ⟨_, _, rfl⟩ := Option.map_eq_some_iff.mp blamed
    rfl
  · obtain ⟨_, _, rfl⟩ := Option.map_eq_some_iff.mp blamed
    rfl
  · cases blamed
  · cases blamed

theorem automatonDefect?_cases (blamed : grammar.automatonDefect? automaton position = some defect) :
    namesState defect = false ∨
      ∃ (place : Nat) (state : State), automaton.states[place]? = some state ∧
        StateDefect grammar automaton place state defect := by
  unfold automatonDefect? at blamed
  split_ifs at blamed
  · cases blamed
    exact .inl rfl
  · cases blamed
    exact .inl rfl
  · cases blamed
    exact .inl rfl
  · obtain ⟨place, state, found, stateBlamed, _⟩ := exists_of_scan blamed
    exact .inr ⟨place, state, found, stateDefect_of_blamed stateBlamed⟩

theorem defect?_cases (blamed : grammar.defect? = some defect) :
    namesState defect = false ∨
      ∃ automaton ∈ grammar.automata, ∃ (place : Nat) (state : State),
        automaton.states[place]? = some state ∧
          StateDefect grammar automaton place state defect := by
  rw [defect?, Option.or_eq_some_iff, Option.or_eq_some_iff] at blamed
  obtain outline | ⟨_, inLabels | ⟨_, inAutomata⟩⟩ := blamed
  · exact .inl (outlineDefect?_namesState outline)
  · obtain ⟨_, _, _, labelBlamed, _⟩ := exists_of_scan inLabels
    exact .inl (labelDefect?_namesState labelBlamed)
  · obtain ⟨_, automaton, found, automatonBlamed, _⟩ := exists_of_scan inAutomata
    exact (automatonDefect?_cases automatonBlamed).imp_right fun atState =>
      ⟨automaton, Array.mem_of_getElem? found, atState⟩

/-- A target has 16 bits. An automaton that lacks one has fewer than 65536 states, so the numbers of
its states are not cut. -/
theorem TargetUnknown.toNat_toUInt16 {target : StateId}
    (unknown : TargetUnknown target automaton state)
    (found : automaton.states[position]? = some state) : position.toUInt16.toNat = position := by
  obtain ⟨_, _, _, beyond⟩ := unknown
  obtain ⟨inside, _⟩ := Array.getElem?_eq_some_iff.mp found
  have narrow := target.toNat_lt
  simp only [Nat.toUInt16, UInt16.toNat_ofNat']
  omega

end Checks

/-! ## Refusals -/

section Refusals

variable {grammar : Grammar} {name : String} {id : StateId}

theorem Refused.hasState_of_targetOutOfRange {target : StateId}
    (refused : grammar.Refused (.error (.targetOutOfRange name id target))) :
    grammar.HasState name id.toNat (TargetUnknown target) := by
  cases refused with
  | defective blamed =>
      obtain outside | ⟨automaton, member, position, state, found, defect⟩ := defect?_cases blamed
      · cases outside
      · cases defect with
        | target unknown =>
            refine ⟨automaton, member, rfl, state, ?_, unknown⟩
            rwa [unknown.toNat_toUInt16 found]

theorem Refused.hasState_of_ambiguous {label : LabelId}
    (refused : grammar.Refused (.error (.ambiguous name id label))) :
    grammar.HasState name id.toNat fun _ state => Ambiguous grammar state label := by
  cases refused with
  | defective blamed =>
      obtain outside | ⟨_, _, _, _, _, defect⟩ := defect?_cases blamed
      · cases outside
      · cases defect
  | ambiguous found stateFound ambiguous =>
      exact ⟨_, Array.mem_of_getElem? found, rfl, _, stateFound, ambiguous⟩

theorem Refused.hasState_of_unknownLabel {label : LabelId}
    (refused : grammar.Refused (.error (.unknownLabel name id label))) :
    ∃ position, position % 65536 = id.toNat ∧
      grammar.HasState name position (grammar.LabelUnknown label) := by
  cases refused with
  | defective blamed =>
      obtain outside | ⟨automaton, member, position, state, found, defect⟩ := defect?_cases blamed
      · cases outside
      · cases defect with
        | label unknown =>
            refine ⟨position, ?_, automaton, member, rfl, state, found, unknown⟩
            simp [Nat.toUInt16]

theorem HasState.of_narrow {position : Nat} {holds : Automaton → State → Prop}
    (there : grammar.HasState name position holds) (cut : position % 65536 = id.toNat)
    (narrow : ∀ automaton ∈ grammar.automata, automaton.name = name →
      automaton.states.size ≤ 65536) : grammar.HasState name id.toNat holds := by
  obtain ⟨automaton, member, named, state, found, defect⟩ := there
  obtain ⟨inside, _⟩ := Array.getElem?_eq_some_iff.mp found
  have small := narrow automaton member named
  rw [Nat.mod_eq_of_lt (by omega)] at cut
  exact ⟨automaton, member, named, state, cut ▸ found, defect⟩

end Refusals

end Grammar

namespace Network

open Grammar (ambiguousPhrases Ambiguous TargetUnknown)

/-- Acceleration or the validation inside it fails with a cause. -/
def Refuses (network : Network) (cause : GrammarError) : Prop :=
  network.accelerate.2 = .error (.error cause) ∨ network.grammar.validate = .error cause

theorem Refuses.refused {network : Network} {cause : GrammarError}
    (refuses : network.Refuses cause) : network.grammar.Refused (.error cause) := by
  rcases refuses with failed | invalid
  · exact (accelerate_of_error failed).2
  · exact .defective (Grammar.validate_eq_error_iff.mp invalid)

/-! ## Main statement -/

/-- Refusals point at states. Where a target is out of range or a state is ambiguous, the named state
of an automaton with the given name has the defect itself. Where a label is unknown, a state with
the defect has the given number modulo 65536, so it is the named one if automata with that name have
at most 65536 states. -/
theorem refusal_points_at_state (network : Network) (name : String) (id : StateId) :
    (∀ target, network.Refuses (.targetOutOfRange name id target) →
      network.grammar.HasState name id.toNat (TargetUnknown target)) ∧
    (∀ label, network.Refuses (.ambiguous name id label) →
      network.grammar.HasState name id.toNat fun _ state =>
        Ambiguous network.grammar state label) ∧
    ∀ label, network.Refuses (.unknownLabel name id label) →
      (∃ position, position % 65536 = id.toNat ∧
        network.grammar.HasState name position (network.grammar.LabelUnknown label)) ∧
      ((∀ automaton ∈ network.grammar.automata, automaton.name = name →
          automaton.states.size ≤ 65536) →
        network.grammar.HasState name id.toNat (network.grammar.LabelUnknown label)) := by
  refine ⟨?_, ?_, ?_⟩
  · intro target refuses
    exact refuses.refused.hasState_of_targetOutOfRange
  · intro label refuses
    exact refuses.refused.hasState_of_ambiguous
  · intro label refuses
    obtain ⟨position, cut, there⟩ := refuses.refused.hasState_of_unknownLabel
    exact ⟨⟨position, cut, there⟩, there.of_narrow cut⟩

end Network

namespace Grammar

/-- States that may only end, and behind them one with an arc. -/
def longWord (count : Nat) (arc : Arc) : Automaton where
  id := ⟨256⟩
  name := "word"
  initial := 0
  states := (Array.replicate count ⟨[⟨0, 0⟩]⟩).push ⟨[arc]⟩

def longWords (count : Nat) (arc : Arc) : Grammar where
  automata := #[longWord count arc]
  labels := #[.empty]
  start := ⟨256⟩

theorem scan_push {α ε : Type} {table : Array α} {value : α} {check : α → Nat → Option ε}
    (clean : ∀ position entry, table[position]? = some entry → check entry position = none) :
    ((table.push value).toList.zipIdx.findSome? fun (value, position) => check value position) =
      check value table.size := by
  rw [Array.toList_push, List.zipIdx_append, List.findSome?_append, scan_eq_none_iff.mpr clean]
  simp

/-- The only defect is the label of the last arc, and its state is numbered modulo 65536. -/
theorem validate_longWords (count : Nat) :
    (longWords count ⟨1, 0⟩).validate = .error (.unknownLabel "word" count.toUInt16 1) := by
  have start : (longWords count ⟨1, 0⟩).automaton? ⟨256⟩ = some (longWord count ⟨1, 0⟩) := by
    have first : (NonterminalId.mk 256).index = 0 := by decide
    simp [automaton?, longWords, first]
  have outline : (longWords count ⟨1, 0⟩).outlineDefect? = none :=
    outlineDefect?_eq_none_iff.mpr
      ⟨by simp [longWords], by simp [longWords], by simp [longWords], _, start⟩
  have labels : ∀ (position : Nat) (label : Label),
      (longWords count ⟨1, 0⟩).labels[position]? = some label →
        (longWords count ⟨1, 0⟩).labelDefect? label position = none := by
    intro position label found
    have member : label ∈ (longWords count ⟨1, 0⟩).labels := Array.mem_of_getElem? found
    obtain rfl : label = .empty := by simpa [longWords] using member
    rfl
  have healthy : ∀ (position : Nat) (state : State),
      (Array.replicate count (State.mk [⟨0, 0⟩]))[position]? = some state →
        (longWords count ⟨1, 0⟩).stateDefect? (longWord count ⟨1, 0⟩) state position = none := by
    intro position state found
    obtain ⟨_, rfl⟩ : position < count ∧ State.mk [⟨0, 0⟩] = state := by
      simpa [Array.getElem?_replicate] using found
    rw [stateDefect?_eq_none_iff]
    simp [longWords, longWord]
  have automaton : (longWords count ⟨1, 0⟩).automatonDefect? (longWord count ⟨1, 0⟩) 0 =
      some (.unknownLabel "word" count.toUInt16 1) := by
    have numbered : (longWord count ⟨1, 0⟩).id = NonterminalId.ofIndex 0 := by
      simp only [longWord]
      decide
    rw [automatonDefect?, if_neg (Classical.not_not.mpr numbered), if_neg (by simp [longWord]),
      if_neg (by simp [longWord])]
    refine (scan_push healthy).trans ?_
    simp [stateDefect?, arcDefect?, longWords, longWord]
  rw [validate_eq_error_iff, defect?, outline, Option.none_or, scan_eq_none_iff.mpr labels,
    Option.none_or]
  simpa [longWords] using automaton

theorem not_hasState_longWords {count : Nat} (several : 0 < count) :
    ¬ (longWords count ⟨1, 0⟩).HasState "word" 0 ((longWords count ⟨1, 0⟩).LabelUnknown 1) := by
  rintro ⟨automaton, member, _, state, found, arc, among, unknown, _⟩
  obtain rfl : automaton = longWord count ⟨1, 0⟩ := by simpa [longWords] using member
  obtain rfl : State.mk [⟨0, 0⟩] = state := by
    rw [longWord, Array.getElem?_push_lt (by simpa using several)] at found
    simpa using found
  rw [List.mem_singleton] at among
  subst among
  cases unknown

end Grammar

namespace Network

open Grammar

theorem accelerate_longWords (count : Nat) :
    (plain (longWords count ⟨1, 0⟩)).accelerate.2 =
      .error (.error (.unknownLabel "word" count.toUInt16 1)) := by
  rw [accelerate_eq_error_iff]
  change (longWords count ⟨1, 0⟩).compile = _
  rw [compile, validate_eq_error_iff.mp (validate_longWords count)]

/-- A word with one state before the arc on an unknown label, a word whose last arc leads past its
three states, and a phrase that begins in two ways. -/
theorem refusal_points_at_state_samples :
    ((plain (longWords 1 ⟨1, 0⟩)).Refuses (.unknownLabel "word" 1 1) ∧
      (longWords 1 ⟨1, 0⟩).HasState "word" 1 ((longWords 1 ⟨1, 0⟩).LabelUnknown 1)) ∧
    ((plain (longWords 2 ⟨0, 3⟩)).Refuses (.targetOutOfRange "word" 2 3) ∧
      (longWords 2 ⟨0, 3⟩).HasState "word" 2 (TargetUnknown 3)) ∧
    (plain ambiguousPhrases).Refuses (.ambiguous "phrase" 0 1) ∧
      ambiguousPhrases.HasState "phrase" 0 fun _ state => Ambiguous ambiguousPhrases state 1 := by
  have label : (plain (longWords 1 ⟨1, 0⟩)).Refuses (.unknownLabel "word" 1 1) :=
    .inl (accelerate_longWords 1)
  have target : (plain (longWords 2 ⟨0, 3⟩)).Refuses (.targetOutOfRange "word" 2 3) :=
    .inr (validate_eq_error_iff.mpr (by decide +kernel))
  have ambiguous : (plain ambiguousPhrases).Refuses (.ambiguous "phrase" 0 1) := by
    refine .inl (accelerate_eq_error_iff.mpr ?_)
    cbv
  refine ⟨⟨label, ?_⟩, ⟨target, ?_⟩, ambiguous, ?_⟩
  · refine ((refusal_points_at_state _ "word" 1).2.2 1 label).2 ?_
    intro automaton member _
    obtain rfl : automaton = longWord 1 ⟨1, 0⟩ := by simpa [grammar, longWords] using member
    simp [longWord]
  · exact (refusal_points_at_state _ "word" 2).1 3 target
  · exact (refusal_points_at_state _ "phrase" 0).2.1 1 ambiguous

/-- With 65536 states in front, the arc on the unknown label is blamed on state 0, which has none. -/
theorem unknown_label_blamed_on_first_state :
    (plain (longWords 65536 ⟨1, 0⟩)).accelerate.2 =
        .error (.error (.unknownLabel "word" 0 1)) ∧
      (longWords 65536 ⟨1, 0⟩).validate = .error (.unknownLabel "word" 0 1) ∧
      ¬ (longWords 65536 ⟨1, 0⟩).HasState "word" 0 ((longWords 65536 ⟨1, 0⟩).LabelUnknown 1) := by
  refine ⟨?_, ?_, ?_⟩
  · exact accelerate_longWords 65536
  · exact validate_longWords 65536
  · exact not_hasState_longWords (by decide)

end Network

end TransitionNetwork
