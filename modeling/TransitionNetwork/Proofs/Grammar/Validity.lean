import Mathlib.Tactic.SplitIfs
import TransitionNetwork.Grammar.Validation

/-!
# Validity

What a valid grammar is, said without an order of checks: its sizes are within the limits, every
number it mentions leads somewhere, and no two labels stand for the same tokens. The first defect
that a grammar is searched for exists exactly if the grammar is not valid. A duplicate is reported
with the two labels that clash, and nothing is wrong with the labels before the second.
-/

set_option autoImplicit false

namespace TransitionNetwork

namespace NonterminalId

/-- The numbers of positions below 65280 do not wrap around. -/
theorem raw_ofIndex_of_lt {position : Nat} (small : position < 65280) :
    (ofIndex position).raw.toNat = 256 + position := by
  simp only [ofIndex, offset, Nat.toUInt16, UInt16.toNat_add, UInt16.toNat_ofNat']
  change (256 + position % 65536) % 65536 = _
  omega

theorem eq_ofIndex_iff {id : NonterminalId} {position : Nat} (small : position < 65280) :
    id = ofIndex position ↔ id.raw.toNat = 256 + position := by
  rw [← raw_ofIndex_of_lt small, UInt16.toNat_inj]
  cases id
  simp [ofIndex]

/-- A number below 256 wraps around to a position past 65279. -/
theorem index_lt_iff {id : NonterminalId} {count : Nat} (small : count ≤ 65280) :
    id.index < count ↔ 256 ≤ id.raw.toNat ∧ id.raw.toNat < 256 + count := by
  have bound := id.raw.toNat_lt
  rw [index, UInt16.toNat_sub]
  change (65536 - 256 + id.raw.toNat) % 65536 < count ↔ _
  omega

end NonterminalId

/-! ## Scans for the first defect -/

section Scans

variable {α ε : Type} {table : Array α} {check : α → Nat → Option ε}

theorem scan_eq_none_iff :
    (table.toList.zipIdx.findSome? fun (value, position) => check value position) = none ↔
      ∀ position value, table[position]? = some value → check value position = none := by
  rw [List.findSome?_eq_none_iff]
  constructor
  · intro clean position value found
    exact clean (value, position) (by rwa [List.mk_mem_zipIdx_iff_getElem?, Array.getElem?_toList])
  · rintro clean ⟨value, position⟩ member
    rw [List.mk_mem_zipIdx_iff_getElem?, Array.getElem?_toList] at member
    exact clean position value member

/-- What a scan finds is wrong with an entry, and nothing is wrong with the entries before it. -/
theorem exists_of_scan {defect : ε}
    (found : (table.toList.zipIdx.findSome? fun (value, position) => check value position) =
      some defect) :
    ∃ position value, table[position]? = some value ∧ check value position = some defect ∧
      ∀ earlier < position, ∀ other, table[earlier]? = some other → check other earlier = none := by
  obtain ⟨before, ⟨value, position⟩, after, split, blamed, clean⟩ :=
    List.findSome?_eq_some_iff.mp found
  have entry (place : Nat) : (before ++ (value, position) :: after)[place]? =
      table[place]?.map fun value => (value, place) := by
    rw [← split, List.getElem?_zipIdx, Array.getElem?_toList, Nat.zero_add]
  obtain ⟨value, here, same⟩ : ∃ here, table[before.length]? = some here ∧
      (here, before.length) = (value, position) := by
    simpa [Option.map_eq_some_iff] using (entry before.length).symm
  cases same
  refine ⟨before.length, value, here, blamed, ?_⟩
  intro earlier inside other otherFound
  have member := entry earlier
  rw [List.getElem?_append_left inside, otherFound, Option.map_some] at member
  exact clean _ (List.mem_of_getElem? member)

end Scans

namespace Grammar

/-! ## Valid grammars -/

/-- A number leads to an automaton. -/
def Resolves (grammar : Grammar) (id : NonterminalId) : Prop :=
  ∃ automaton, grammar.automaton? id = some automaton

/-- Two labels stand for the same tokens: both for every token of one kind, or both for one
keyword. -/
inductive Clash : Label → Label → Prop where
  | fallback {kind : TokenKind} : Clash (.token kind) (.token kind)
  | keyword {literal : String} : Clash (.keyword literal) (.keyword literal)

/-- A label that may stand at a position: the nonterminal it stands for has an automaton, and no
label before it stands for the same tokens. -/
structure LabelValid (grammar : Grammar) (position : Nat) (label : Label) : Prop where
  resolves : ∀ id, label.kind = .nonterminal id → grammar.Resolves id
  distinct : ∀ earlier < position, ∀ other, grammar.labels[earlier]? = some other →
    ¬ Clash other label

/-- An automaton that may stand at a position. -/
structure AutomatonValid (grammar : Grammar) (position : Nat) (automaton : Automaton) : Prop where
  number : automaton.id.raw.toNat = 256 + position
  states : 1 ≤ automaton.states.size
  initial : automaton.initial.toNat < automaton.states.size
  arcs : ∀ state ∈ automaton.states, ∀ arc ∈ state.arcs,
    arc.label.toNat < grammar.labels.size ∧ arc.target.toNat < automaton.states.size

structure Valid (grammar : Grammar) : Prop where
  one_le_automata : 1 ≤ grammar.automata.size
  automata_le : grammar.automata.size ≤ 65279
  labels_le : grammar.labels.size ≤ 65535
  start : grammar.Resolves grammar.start
  labels : ∀ position label, grammar.labels[position]? = some label →
    grammar.LabelValid position label
  automata : ∀ position automaton, grammar.automata[position]? = some automaton →
    grammar.AutomatonValid position automaton

section Checks

variable {grammar : Grammar}

theorem isNone_automaton?_iff {id : NonterminalId} :
    (grammar.automaton? id).isNone = true ↔ ¬ grammar.Resolves id := by
  simp [Resolves, Option.eq_none_iff_forall_ne_some]

theorem outlineDefect?_eq_none_iff : grammar.outlineDefect? = none ↔
    1 ≤ grammar.automata.size ∧ grammar.automata.size ≤ 65279 ∧ grammar.labels.size ≤ 65535 ∧
      grammar.Resolves grammar.start := by
  unfold outlineDefect? maxNonterminals maxLabels
  split_ifs with absent many wide lost
  · exact iff_of_false (by simp) (by omega)
  · exact iff_of_false (by simp) (by omega)
  · exact iff_of_false (by simp) (by omega)
  · rw [isNone_automaton?_iff] at lost
    exact iff_of_false (by simp) (by simp [lost])
  · rw [isNone_automaton?_iff, Classical.not_not] at lost
    exact iff_of_true rfl ⟨by omega, by omega, by omega, lost⟩

theorem earlier?_eq_some {label : Label} {position first : Nat}
    (found : grammar.earlier? label position = some first) :
    first < position ∧ grammar.labels[first]? = some label := by
  unfold earlier? at found
  split at found
  · next first located =>
      split_ifs at found with before
      cases found
      obtain ⟨inside, same, _⟩ := Array.findIdx?_eq_some_iff_getElem.mp located
      exact ⟨before, by rw [Array.getElem?_eq_getElem inside, beq_iff_eq.mp same]⟩
  · cases found

theorem earlier?_eq_none_iff {label : Label} {position : Nat} :
    grammar.earlier? label position = none ↔
      ∀ earlier < position, grammar.labels[earlier]? ≠ some label := by
  constructor
  · intro missing earlier before found
    unfold earlier? at missing
    obtain ⟨inside, same⟩ := Array.getElem?_eq_some_iff.mp found
    split at missing
    · next first located =>
        split_ifs at missing with late
        obtain ⟨_, _, least⟩ := Array.findIdx?_eq_some_iff_getElem.mp located
        exact least earlier (by omega) (by simp [same])
    · next none =>
        have different := Array.findIdx?_eq_none_iff.mp none label
          (Array.mem_of_getElem? found)
        simp at different
  · intro different
    cases found : grammar.earlier? label position with
    | none => rfl
    | some first =>
        obtain ⟨before, here⟩ := earlier?_eq_some found
        exact absurd here (different first before)

theorem Clash.eq {left right : Label} (clash : Clash left right) : left = right := by
  cases clash <;> rfl

theorem labelValid_iff_of_clash {label : Label} {position : Nat} (exclusive : Clash label label) :
    grammar.LabelValid position label ↔ grammar.earlier? label position = none := by
  rw [earlier?_eq_none_iff]
  constructor
  · intro valid earlier before found
    exact valid.distinct earlier before label found exclusive
  · intro different
    refine ⟨?_, ?_⟩
    · intro id isNonterminal
      cases exclusive <;> cases isNonterminal
    · intro earlier before other found clash
      exact different earlier before (clash.eq ▸ found)

theorem labelDefect?_eq_none_iff {label : Label} {position : Nat} :
    grammar.labelDefect? label position = none ↔ grammar.LabelValid position label := by
  obtain ⟨kind, literal⟩ := label
  cases kind with
  | empty => exact iff_of_true rfl ⟨by simp, by rintro _ _ _ _ ⟨⟩⟩
  | nonterminal id =>
      have valid_iff : grammar.LabelValid position ⟨.nonterminal id, literal⟩ ↔
          grammar.Resolves id :=
        ⟨fun valid => valid.resolves id rfl,
          fun resolves => ⟨by rintro _ ⟨⟩; exact resolves, by rintro _ _ _ _ ⟨⟩⟩⟩
      simp only [valid_iff, labelDefect?]
      split_ifs with lost
      · exact iff_of_false (by simp) (isNone_automaton?_iff.mp lost)
      · rw [isNone_automaton?_iff, Classical.not_not] at lost
        exact iff_of_true rfl lost
  | token kind =>
      cases literal with
      | none =>
          refine Iff.trans ?_ (labelValid_iff_of_clash .fallback).symm
          simp [labelDefect?, Label.token]
      | some literal =>
          by_cases isName : kind = .name
          · subst isName
            refine Iff.trans ?_ (labelValid_iff_of_clash .keyword).symm
            simp [labelDefect?, Label.keyword, Label.pinned]
          · have informative : labelDefect? grammar ⟨.token kind, some literal⟩ position = none := by
              cases kind <;> first | rfl | exact absurd rfl isName
            refine iff_of_true informative ⟨by simp, ?_⟩
            rintro _ _ _ _ ⟨⟩
            exact isName rfl

theorem arcDefect?_eq_none_iff {automaton : Automaton} {position : Nat} {arc : Arc} :
    grammar.arcDefect? automaton position arc = none ↔
      arc.label.toNat < grammar.labels.size ∧ arc.target.toNat < automaton.states.size := by
  unfold arcDefect?
  split_ifs <;> simp <;> omega

theorem stateDefect?_eq_none_iff {automaton : Automaton} {state : State} {position : Nat} :
    grammar.stateDefect? automaton state position = none ↔ ∀ arc ∈ state.arcs,
      arc.label.toNat < grammar.labels.size ∧ arc.target.toNat < automaton.states.size := by
  simp only [stateDefect?, List.findSome?_eq_none_iff, arcDefect?_eq_none_iff]

theorem automatonDefect?_eq_none_iff {automaton : Automaton} {position : Nat}
    (small : position < 65280) :
    grammar.automatonDefect? automaton position = none ↔
      grammar.AutomatonValid position automaton := by
  unfold automatonDefect?
  split_ifs with misnumbered empty outside
  · refine iff_of_false (by simp) ?_
    intro valid
    exact misnumbered ((NonterminalId.eq_ofIndex_iff small).mpr valid.number)
  · refine iff_of_false (by simp) ?_
    intro valid
    have states := valid.states
    omega
  · refine iff_of_false (by simp) ?_
    intro valid
    have initial := valid.initial
    omega
  · rw [scan_eq_none_iff]
    simp only [stateDefect?_eq_none_iff]
    constructor
    · intro clean
      refine ⟨(NonterminalId.eq_ofIndex_iff small).mp (by simpa using misnumbered), by omega,
        by omega, ?_⟩
      intro state member
      obtain ⟨position, found⟩ := Array.mem_iff_getElem?.mp member
      exact clean position state found
    · intro valid position state found
      exact valid.arcs state (Array.mem_of_getElem? found)

theorem defect?_eq_none_iff : grammar.defect? = none ↔ grammar.Valid := by
  rw [defect?, Option.or_eq_none_iff, Option.or_eq_none_iff, outlineDefect?_eq_none_iff,
    scan_eq_none_iff, scan_eq_none_iff]
  simp only [labelDefect?_eq_none_iff]
  have small {position : Nat} {automaton : Automaton} (few : grammar.automata.size ≤ 65279)
      (found : grammar.automata[position]? = some automaton) : position < 65280 := by
    obtain ⟨inside, _⟩ := Array.getElem?_eq_some_iff.mp found
    omega
  constructor
  · rintro ⟨⟨some, few, narrow, start⟩, labels, automata⟩
    refine ⟨some, few, narrow, start, labels, ?_⟩
    intro position automaton found
    exact (automatonDefect?_eq_none_iff (small few found)).mp (automata position automaton found)
  · intro valid
    refine ⟨⟨valid.one_le_automata, valid.automata_le, valid.labels_le, valid.start⟩, valid.labels,
      ?_⟩
    intro position automaton found
    exact (automatonDefect?_eq_none_iff (small valid.automata_le found)).mpr
      (valid.automata position automaton found)

theorem Valid.resolves_iff (valid : grammar.Valid) {id : NonterminalId} :
    grammar.Resolves id ↔
      256 ≤ id.raw.toNat ∧ id.raw.toNat < 256 + grammar.automata.size := by
  have few := valid.automata_le
  rw [← NonterminalId.index_lt_iff (by omega), Resolves, ← Option.isSome_iff_exists, automaton?,
    isSome_getElem?]

theorem Valid.number (valid : grammar.Valid) {id : NonterminalId} {automaton : Automaton}
    (found : grammar.automaton? id = some automaton) : automaton.id = id := by
  obtain ⟨inside, _⟩ := Array.getElem?_eq_some_iff.mp found
  have few := valid.automata_le
  have number := (valid.automata id.index automaton found).number
  rw [← NonterminalId.eq_ofIndex_iff (by omega), NonterminalId.ofIndex_index] at number
  exact number

/-! ## Duplicates -/

/-- The label that an error finds twice, with the two positions it names. -/
def duplicate? : GrammarError → Option (Label × LabelId × LabelId)
  | .duplicateFallback kind first second => some (.token kind, first, second)
  | .duplicateKeyword literal first second => some (.keyword literal, first, second)
  | _ => none

/-- A label stands at two positions, and nothing is wrong with the labels before the second. -/
structure Duplicates (grammar : Grammar) (label : Label) (first second : LabelId) : Prop where
  lt : first < second
  firstFound : grammar.label? first = some label
  secondFound : grammar.label? second = some label
  before : ∀ position < second.toNat, ∀ other, grammar.labels[position]? = some other →
    grammar.LabelValid position other

theorem outlineDefect?_duplicate? {defect : GrammarError}
    (blamed : grammar.outlineDefect? = some defect) : duplicate? defect = none := by
  unfold outlineDefect? at blamed
  split_ifs at blamed <;> cases blamed <;> rfl

theorem automatonDefect?_duplicate? {automaton : Automaton} {position : Nat} {defect : GrammarError}
    (blamed : grammar.automatonDefect? automaton position = some defect) :
    duplicate? defect = none := by
  unfold automatonDefect? at blamed
  split_ifs at blamed
  · cases blamed
    rfl
  · cases blamed
    rfl
  · cases blamed
    rfl
  · obtain ⟨⟨state, _⟩, _, stateBlamed⟩ := List.exists_of_findSome?_eq_some blamed
    obtain ⟨arc, _, arcBlamed⟩ := List.exists_of_findSome?_eq_some stateBlamed
    unfold arcDefect? at arcBlamed
    split_ifs at arcBlamed <;> cases arcBlamed <;> rfl

theorem labelDefect?_duplicate? {label twice : Label} {position : Nat} {defect : GrammarError}
    {first second : LabelId} (blamed : grammar.labelDefect? label position = some defect)
    (duplicate : duplicate? defect = some (twice, first, second)) :
    label = twice ∧ second = position.toUInt16 ∧
      ∃ earlier, grammar.earlier? label position = some earlier ∧ first = earlier.toUInt16 := by
  obtain ⟨kind, literal⟩ := label
  unfold labelDefect? at blamed
  split at blamed
  · split_ifs at blamed
    cases blamed
    cases duplicate
  · next isToken noLiteral =>
      obtain ⟨earlier, found, rfl⟩ := Option.map_eq_some_iff.mp blamed
      cases duplicate
      cases isToken
      cases noLiteral
      exact ⟨rfl, rfl, earlier, found, rfl⟩
  · next isName pinned =>
      obtain ⟨earlier, found, rfl⟩ := Option.map_eq_some_iff.mp blamed
      cases duplicate
      cases isName
      cases pinned
      exact ⟨rfl, rfl, earlier, found, rfl⟩
  · cases blamed
  · cases blamed

theorem duplicates_of_defect? {label : Label} {defect : GrammarError} {first second : LabelId}
    (blamed : grammar.defect? = some defect)
    (duplicate : duplicate? defect = some (label, first, second)) :
    grammar.Duplicates label first second := by
  rw [defect?, Option.or_eq_some_iff, Option.or_eq_some_iff] at blamed
  obtain outline | ⟨outlineClean, inLabels | ⟨_, inAutomata⟩⟩ := blamed
  · rw [outlineDefect?_duplicate? outline] at duplicate
    cases duplicate
  · obtain ⟨position, twice, found, labelBlamed, clean⟩ := exists_of_scan inLabels
    obtain ⟨rfl, rfl, earlier, foundEarlier, rfl⟩ := labelDefect?_duplicate? labelBlamed duplicate
    obtain ⟨before, earlierFound⟩ := earlier?_eq_some foundEarlier
    obtain ⟨_, _, narrow, _⟩ := outlineDefect?_eq_none_iff.mp outlineClean
    obtain ⟨inside, _⟩ := Array.getElem?_eq_some_iff.mp found
    have secondPlace : position.toUInt16.toNat = position := by
      simp only [Nat.toUInt16, UInt16.toNat_ofNat']
      omega
    have firstPlace : earlier.toUInt16.toNat = earlier := by
      simp only [Nat.toUInt16, UInt16.toNat_ofNat']
      omega
    refine ⟨?_, by rwa [label?, firstPlace], by rwa [label?, secondPlace], ?_⟩
    · rwa [UInt16.lt_iff_toNat_lt, firstPlace, secondPlace]
    · intro place below other otherFound
      rw [secondPlace] at below
      exact labelDefect?_eq_none_iff.mp (clean place below other otherFound)
  · obtain ⟨_, _, _, automatonBlamed, _⟩ := exists_of_scan inAutomata
    rw [automatonDefect?_duplicate? automatonBlamed] at duplicate
    cases duplicate

end Checks

/-! ## Main statement -/

theorem validate_eq_error_iff {grammar : Grammar} {defect : GrammarError} :
    grammar.validate = .error defect ↔ grammar.defect? = some defect := by
  unfold validate
  split <;> simp_all

/-- Validation is exact. It succeeds for the valid grammars and for no others. In a valid grammar
exactly the numbers from 256 on, as many as there are automata, lead to an automaton, and it is the
one with that number. Where a duplicate is reported, the two labels are the same keyword or stand
for the same kind, the first comes before the second, and the labels before the second are valid. -/
theorem validate_exact (grammar : Grammar) :
    (grammar.validate = .ok () ↔ grammar.Valid) ∧
    (grammar.validate = .ok () → ∀ id : NonterminalId,
      (grammar.Resolves id ↔
        256 ≤ id.raw.toNat ∧ id.raw.toNat < 256 + grammar.automata.size) ∧
      ∀ automaton, grammar.automaton? id = some automaton → automaton.id = id) ∧
    (∀ kind first second, grammar.validate = .error (.duplicateFallback kind first second) →
      grammar.Duplicates (.token kind) first second) ∧
    ∀ literal first second, grammar.validate = .error (.duplicateKeyword literal first second) →
      grammar.Duplicates (.keyword literal) first second := by
  have valid_iff : grammar.validate = .ok () ↔ grammar.Valid := by
    rw [validate_eq_ok_iff, defect?_eq_none_iff]
  refine ⟨valid_iff, ?_, ?_, ?_⟩
  · intro passes id
    have valid := valid_iff.mp passes
    exact ⟨valid.resolves_iff, fun _ => valid.number⟩
  · intro kind first second failed
    exact duplicates_of_defect? (validate_eq_error_iff.mp failed) rfl
  · intro literal first second failed
    exact duplicates_of_defect? (validate_eq_error_iff.mp failed) rfl

/-- A grammar of one word, which is the label at position 1. -/
def oneWord (labels : Array Label) : Grammar where
  automata := #[{ id := ⟨256⟩, name := "word", initial := 0, states := #[⟨[⟨1, 1⟩]⟩, ⟨[⟨0, 1⟩]⟩] }]
  labels
  start := ⟨256⟩

/-- A word that is a keyword makes a valid grammar, in which 12 leads nowhere. The same keyword once
more, after a label for other names, is a duplicate of the first. -/
theorem validate_exact_words :
    (oneWord #[.empty, .keyword "if"]).Valid ∧
      ¬ (oneWord #[.empty, .keyword "if"]).Resolves ⟨12⟩ ∧
      (oneWord #[.empty, .keyword "if", .token .name, .keyword "if"]).validate =
        .error (.duplicateKeyword "if" 1 3) ∧
      (oneWord #[.empty, .keyword "if", .token .name, .keyword "if"]).Duplicates (.keyword "if") 1
        3 ∧
      (oneWord #[.empty, .token .number, .token .number]).Duplicates (.token .number) 1 2 := by
  have passes : (oneWord #[.empty, .keyword "if"]).validate = .ok () :=
    validate_eq_ok_iff.mpr (by decide +kernel)
  have twice : (oneWord #[.empty, .keyword "if", .token .name, .keyword "if"]).validate =
      .error (.duplicateKeyword "if" 1 3) := validate_eq_error_iff.mpr (by decide +kernel)
  have twiceNumber : (oneWord #[.empty, .token .number, .token .number]).validate =
      .error (.duplicateFallback .number 1 2) := validate_eq_error_iff.mpr (by decide +kernel)
  obtain ⟨valid_iff, numbers, _, _⟩ := validate_exact (oneWord #[.empty, .keyword "if"])
  refine ⟨valid_iff.mp passes, ?_, twice, ?_, ?_⟩
  · rw [(numbers passes ⟨12⟩).1]
    decide
  · exact (validate_exact _).2.2.2 "if" 1 3 twice
  · exact (validate_exact _).2.2.1 .number 1 2 twiceNumber

end Grammar

end TransitionNetwork
