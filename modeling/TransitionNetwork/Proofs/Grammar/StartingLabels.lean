import Mathlib.Data.List.Perm.Subperm
import Mathlib.Logic.Relation
import TransitionNetwork.Grammar.First
import TransitionNetwork.Proofs.Fallible
import TransitionNetwork.Proofs.Grammar.Closed

/-!
# Starting labels and left recursion

Which nonterminals can come first in a nonterminal, and which terminal labels it can begin with,
said over the arcs of initial states and without a search. The search with finished sets computes
exactly these labels; it gives up exactly if some nonterminal can come first in itself.
-/

set_option autoImplicit false

namespace TransitionNetwork

namespace Grammar

/-- An arc that leaves the initial state of a nonterminal's automaton, with the label it is on. -/
inductive InitialArc (grammar : Grammar) (symbol : NonterminalId) (arc : Arc) (label : Label) :
    Prop where
  | intro {automaton : Automaton} {state : State} :
      grammar.automaton? symbol = some automaton →
      automaton.states[automaton.initial.toNat]? = some state → arc ∈ state.arcs →
      grammar.label? arc.label = some label → InitialArc grammar symbol arc label

/-- The second nonterminal stands on an initial arc of the first. -/
def CanOpen (grammar : Grammar) (outer inner : NonterminalId) : Prop :=
  ∃ arc label, InitialArc grammar outer arc label ∧ label.kind = .nonterminal inner

/-- A terminal label stands on an initial arc of the nonterminal. -/
def Offers (grammar : Grammar) (symbol : NonterminalId) (id : LabelId) : Prop :=
  ∃ arc label kind, InitialArc grammar symbol arc label ∧ arc.label = id ∧ label.kind = .token kind

/-- A nonterminal can begin with the terminal labels of every nonterminal that can come first in it,
itself included. -/
def CanBegin (grammar : Grammar) (symbol : NonterminalId) (id : LabelId) : Prop :=
  ∃ inner, Relation.ReflTransGen (CanOpen grammar) symbol inner ∧ Offers grammar inner id

/-- A nonterminal that can come first in itself, through one or more initial arcs. -/
def LeftRecursive (grammar : Grammar) (symbol : NonterminalId) : Prop :=
  Relation.TransGen (CanOpen grammar) symbol symbol

/-- From here the nonterminals that can come first end after finitely many. -/
def Grounded (grammar : Grammar) (symbol : NonterminalId) : Prop :=
  Acc (fun inner outer => CanOpen grammar outer inner) symbol

/-- What an arc of an initial state lets its nonterminal begin with. -/
inductive ArcBegins (grammar : Grammar) (arc : Arc) : LabelId → Prop where
  | token {label : Label} {kind : TokenKind} : grammar.label? arc.label = some label →
      label.kind = .token kind → ArcBegins grammar arc arc.label
  | nonterminal {label : Label} {inner : NonterminalId} {id : LabelId} :
      grammar.label? arc.label = some label → label.kind = .nonterminal inner →
      CanBegin grammar inner id → ArcBegins grammar arc id

theorem Grounded.not_leftRecursive {grammar : Grammar} {symbol : NonterminalId}
    (grounded : Grounded grammar symbol) : ¬ LeftRecursive grammar symbol := by
  induction grounded with
  | intro symbol _ ih =>
      intro cycle
      obtain ⟨inner, opens, back⟩ := Relation.TransGen.head'_iff.mp cycle
      exact ih inner opens (Relation.TransGen.tail' back opens)

theorem canBegin_iff {grammar : Grammar} {symbol : NonterminalId} {automaton : Automaton}
    {state : State} {id : LabelId} (found : grammar.automaton? symbol = some automaton)
    (initial : automaton.states[automaton.initial.toNat]? = some state) :
    CanBegin grammar symbol id ↔ ∃ arc ∈ state.arcs, ArcBegins grammar arc id := by
  constructor
  · intro ⟨last, reaches, offers⟩
    rcases Relation.ReflTransGen.cases_head reaches with rfl | ⟨inner, opens, onward⟩
    · obtain ⟨arc, label, kind, ⟨foundAt, initialAt, member, labelled⟩, rfl, isToken⟩ := offers
      obtain rfl := Option.some.inj (foundAt.symm.trans found)
      obtain rfl := Option.some.inj (initialAt.symm.trans initial)
      exact ⟨arc, member, .token labelled isToken⟩
    · obtain ⟨arc, label, ⟨foundAt, initialAt, member, labelled⟩, isNonterminal⟩ := opens
      obtain rfl := Option.some.inj (foundAt.symm.trans found)
      obtain rfl := Option.some.inj (initialAt.symm.trans initial)
      exact ⟨arc, member, .nonterminal labelled isNonterminal ⟨last, onward, offers⟩⟩
  · intro ⟨arc, member, begins⟩
    cases begins with
    | token labelled isToken =>
        exact ⟨symbol, .refl, arc, _, _, .intro found initial member labelled, rfl, isToken⟩
    | nonterminal labelled isNonterminal below =>
        obtain ⟨last, onward, offers⟩ := below
        exact ⟨last, .head ⟨arc, _, .intro found initial member labelled, isNonterminal⟩ onward,
          offers⟩

theorem automaton?_ofIndex {grammar : Grammar} (closed : grammar.Closed) {position : Nat}
    (small : position < grammar.automata.size) :
    grammar.automaton? (.ofIndex position) = grammar.automata[position]? := by
  have bound := closed.automata_le
  rw [automaton?, NonterminalId.index_ofIndex (by unfold maxNonterminals at bound; omega)]

theorem index_lt_of_automaton? {grammar : Grammar} {symbol : NonterminalId} {automaton : Automaton}
    (found : grammar.automaton? symbol = some automaton) :
    symbol.index < grammar.automata.size :=
  (Array.getElem?_eq_some_iff.mp found).1

theorem length_le_of_nodup {positions : List Nat} {size : Nat} (distinct : positions.Nodup)
    (inside : ∀ position ∈ positions, position < size) : positions.length ≤ size := by
  have within : positions ⊆ List.range size := fun position member =>
    List.mem_range.mpr (inside position member)
  simpa using (List.subperm_of_subset distinct within).length_le

/-! ## The search -/

/-- A set of starting labels that needs no more work. -/
structure Finished (grammar : Grammar) (symbol : NonterminalId) (first : FirstSet) : Prop where
  has_iff : ∀ position, first.has position = true ↔
    ∃ id : LabelId, id.toNat = position ∧ CanBegin grammar symbol id
  grounded : Grounded grammar symbol

theorem Finished.contains_iff {grammar : Grammar} {symbol : NonterminalId} {first : FirstSet}
    (finished : Finished grammar symbol first) {id : LabelId} :
    first.contains id = true ↔ CanBegin grammar symbol id := by
  rw [FirstSet.contains, finished.has_iff]
  constructor
  · intro ⟨same, equal, begins⟩
    rwa [← UInt16.toNat_inj.mp equal]
  · intro begins
    exact ⟨id, rfl, begins⟩

/-- Every set that is kept is finished. -/
structure MemoHolds (grammar : Grammar) (memo : FirstMemo) : Prop where
  size : memo.size = grammar.automata.size
  finished : ∀ {position : Nat} {first : FirstSet}, memo[position]? = some (some first) →
    Finished grammar (.ofIndex position) first

/-- The search was given up at a nonterminal that can come first in itself. -/
def GaveUp (grammar : Grammar) (failure : Failure GrammarError) : Prop :=
  ∃ symbol automaton, grammar.automaton? symbol = some automaton ∧
    LeftRecursive grammar symbol ∧ failure = .error (.leftRecursion automaton.name)

/-- What is known of the labels and the kept sets after some arcs of an initial state. -/
structure Collected (grammar : Grammar) (seen : List Arc) (found : FirstSet × FirstMemo) :
    Prop where
  has_iff : ∀ position, found.1.has position = true ↔
    ∃ id : LabelId, id.toNat = position ∧ ∃ arc ∈ seen, ArcBegins grammar arc id
  grounded : ∀ arc ∈ seen, ∀ label inner, grammar.label? arc.label = some label →
    label.kind = .nonterminal inner → Grounded grammar inner
  memo : MemoHolds grammar found.2

theorem collected_nil {grammar : Grammar} {memo : FirstMemo} (holds : MemoHolds grammar memo) :
    Collected grammar [] (FirstSet.withCapacity grammar.labels.size, memo) where
  has_iff := by simp
  grounded := by simp
  memo := holds

theorem MemoHolds.set {grammar : Grammar} {memo : FirstMemo} {position : Nat} {first : FirstSet}
    (holds : MemoHolds grammar memo) (finished : Finished grammar (.ofIndex position) first) :
    MemoHolds grammar (memo.setIfInBounds position (some first)) where
  size := by rw [Array.size_setIfInBounds, holds.size]
  finished := by
    intro other kept found
    rw [Array.getElem?_setIfInBounds] at found
    split_ifs at found with same inside
    · obtain rfl : first = kept := by simpa using found
      exact same ▸ finished
    · exact holds.finished found

theorem Collected.snoc {grammar : Grammar} {seen : List Arc} {arc : Arc} {label : Label}
    {first grown : FirstSet} {memo kept : FirstMemo}
    (collected : Collected grammar seen (first, memo))
    (labelled : grammar.label? arc.label = some label)
    (added : ∀ position, grown.has position = true ↔
      first.has position = true ∨ ∃ id : LabelId, id.toNat = position ∧ ArcBegins grammar arc id)
    (grounded : ∀ inner, label.kind = .nonterminal inner → Grounded grammar inner)
    (holds : MemoHolds grammar kept) : Collected grammar (seen ++ [arc]) (grown, kept) where
  has_iff := by
    intro position
    rw [added, collected.has_iff]
    constructor
    · rintro (⟨id, equal, earlier, member, begins⟩ | ⟨id, equal, begins⟩)
      · exact ⟨id, equal, earlier, List.mem_append_left _ member, begins⟩
      · exact ⟨id, equal, arc, by simp, begins⟩
    · intro ⟨id, equal, other, member, begins⟩
      rcases List.mem_append.mp member with before | last
      · exact .inl ⟨id, equal, other, before, begins⟩
      · obtain rfl := List.mem_singleton.mp last
        exact .inr ⟨id, equal, begins⟩
  grounded := by
    intro other member otherLabel inner again isNonterminal
    rcases List.mem_append.mp member with before | last
    · exact collected.grounded other before otherLabel inner again isNonterminal
    · obtain rfl := List.mem_singleton.mp last
      obtain rfl := Option.some.inj (again.symm.trans labelled)
      exact grounded inner isNonterminal
  memo := holds

theorem arcBegins_iff {grammar : Grammar} {arc : Arc} {label : Label} {id : LabelId}
    (labelled : grammar.label? arc.label = some label) :
    ArcBegins grammar arc id ↔ (∃ kind, label.kind = .token kind ∧ arc.label = id) ∨
      ∃ inner, label.kind = .nonterminal inner ∧ CanBegin grammar inner id := by
  constructor
  · rintro (⟨again, isToken⟩ | ⟨again, isNonterminal, below⟩)
    · obtain rfl := Option.some.inj (again.symm.trans labelled)
      exact .inl ⟨_, isToken, rfl⟩
    · obtain rfl := Option.some.inj (again.symm.trans labelled)
      exact .inr ⟨_, isNonterminal, below⟩
  · rintro (⟨kind, isToken, rfl⟩ | ⟨inner, isNonterminal, below⟩)
    · exact .token labelled isToken
    · exact .nonterminal labelled isNonterminal below

theorem firstOfArc_ends {grammar : Grammar}
    {search : Nat → FirstMemo → Except (Failure GrammarError) (FirstSet × FirstMemo)}
    {seen : List Arc} {arc : Arc} {label : Label} {found : FirstSet × FirstMemo}
    (collected : Collected grammar seen found) (labelled : grammar.label? arc.label = some label)
    (searches : ∀ inner, label.kind = .nonterminal inner →
      Ends (search inner.index found.2)
        (fun result => Finished grammar inner result.1 ∧ MemoHolds grammar result.2)
        (GaveUp grammar)) :
    Ends (grammar.firstOfArc search found arc) (Collected grammar (seen ++ [arc]))
      (GaveUp grammar) := by
  obtain ⟨first, memo⟩ := found
  have lookedUp : (liftM (entry grammar.labels arc.label.toNat) :
      Except (Failure GrammarError) Label) = .ok label := liftM_entry labelled
  simp only [firstOfArc, lookedUp, Ends.ok_bind_iff]
  cases kind : label.kind with
  | empty =>
      refine Ends.pure_iff.mpr (collected.snoc labelled ?_ (by simp [kind]) collected.memo)
      simp [arcBegins_iff labelled, kind]
  | token tokenKind =>
      refine Ends.pure_iff.mpr (collected.snoc labelled ?_ (by simp [kind]) collected.memo)
      simp [arcBegins_iff labelled, kind, @eq_comm _ arc.label, @eq_comm _ arc.label.toNat]
  | nonterminal inner =>
      refine (searches inner kind).bind ?_
      rintro ⟨below, kept⟩ ⟨finished, holds⟩
      refine Ends.pure_iff.mpr (collected.snoc labelled ?_ ?_ holds)
      · simp [arcBegins_iff labelled, kind, finished.has_iff]
      · intro same isNonterminal
        obtain rfl : inner = same := by simpa [kind] using isNonterminal
        exact finished.grounded

/-- The search ends with the starting labels of its nonterminal and more finished sets, or at a
nonterminal that can come first in itself. Every nonterminal it is inside of leads to the one it is
at, and these are distinct; so the bound is never met. -/
theorem searchFirst_ends {grammar : Grammar} (closed : grammar.Closed) {bound : Nat}
    {path : List Nat} {position : Nat} {memo : FirstMemo}
    (holds : MemoHolds grammar memo) (small : position < grammar.automata.size)
    (distinct : path.Nodup) (inside : ∀ earlier ∈ path, earlier < grammar.automata.size)
    (enough : grammar.automata.size ≤ path.length + bound)
    (leads : ∀ earlier ∈ path,
      Relation.TransGen (CanOpen grammar) (.ofIndex earlier) (.ofIndex position)) :
    Ends (grammar.searchFirst bound path position memo)
      (fun result => Finished grammar (.ofIndex position) result.1 ∧ MemoHolds grammar result.2)
      (GaveUp grammar) := by
  induction bound using Nat.strongRecOn generalizing path position memo with
  | _ bound ih =>
      obtain ⟨automaton, found⟩ : ∃ automaton, grammar.automata[position]? = some automaton :=
        ⟨_, Array.getElem?_eq_getElem small⟩
      have numbered : grammar.automaton? (.ofIndex position) = some automaton := by
        rw [automaton?_ofIndex closed small, found]
      rw [searchFirst, liftM_entry found, Ends.ok_bind_iff]
      cases kept : (memo[position]?).join with
      | some first =>
          have finished := holds.finished (Option.join_eq_some_iff.mp kept)
          exact Ends.pure_iff.mpr ⟨finished, holds⟩
      | none =>
          by_cases again : position ∈ path
          · rw [if_pos again]
            exact ⟨_, automaton, numbered, leads position again, rfl⟩
          · rw [if_neg again]
            have longer : (position :: path).Nodup := List.nodup_cons.mpr ⟨again, distinct⟩
            have all : ∀ earlier ∈ position :: path, earlier < grammar.automata.size := by
              simpa [small] using inside
            cases bound with
            | zero =>
                have few := length_le_of_nodup longer all
                simp only [List.length_cons] at few
                omega
            | succ bound =>
                obtain ⟨state, initial⟩ := closed.initial numbered
                rw [liftM_entry initial, Ends.ok_bind_iff]
                refine (Ends.foldlM (Collected grammar) (collected_nil holds) ?_).bind ?_
                · intro seen arc remaining result split collected
                  have member : arc ∈ state.arcs := by simp [split]
                  obtain ⟨label, labelled⟩ := closed.label numbered initial member
                  refine firstOfArc_ends collected labelled ?_
                  intro inner isNonterminal
                  have opens : CanOpen grammar (.ofIndex position) inner :=
                    ⟨arc, label, .intro numbered initial member labelled, isNonterminal⟩
                  obtain ⟨below, belowFound⟩ := closed.nonterminal labelled isNonterminal
                  have ends := ih bound (Nat.lt_succ_self bound) collected.memo
                    (index_lt_of_automaton? belowFound) longer all
                    (by simp only [List.length_cons]; omega) ?_
                  · rwa [NonterminalId.ofIndex_index] at ends
                  · rw [NonterminalId.ofIndex_index]
                    intro earlier member
                    rcases List.mem_cons.mp member with rfl | member
                    · exact .single opens
                    · exact .tail (leads earlier member) opens
                · intro ⟨first, kept⟩ collected
                  have finished : Finished grammar (.ofIndex position) first := by
                    refine ⟨?_, ?_⟩
                    · intro bit
                      simp only [collected.has_iff, canBegin_iff numbered initial]
                    · refine Acc.intro _ ?_
                      intro inner ⟨arc, label, ⟨foundAt, initialAt, member, labelled⟩, isNonterminal⟩
                      obtain rfl := Option.some.inj (foundAt.symm.trans numbered)
                      obtain rfl := Option.some.inj (initialAt.symm.trans initial)
                      exact collected.grounded arc member label inner labelled isNonterminal
                  exact Ends.pure_iff.mpr ⟨finished, collected.memo.set finished⟩

private theorem item_of_range {size item : Nat} {seen remaining : List Nat}
    (split : List.range size = seen ++ item :: remaining) : item = seen.length ∧ item < size := by
  have found : (List.range size)[seen.length]? = some item := by simp [split]
  obtain ⟨inside, same⟩ := List.getElem?_eq_some_iff.mp found
  simp only [List.getElem_range] at same
  simp only [List.length_range] at inside
  omega

/-- All sets are found, each finished, or the search is given up at a nonterminal that can come
first in itself. -/
theorem firstSets_ends {grammar : Grammar} (closed : grammar.Closed) :
    Ends grammar.firstSets
      (fun firsts => firsts.size = grammar.automata.size ∧
        ∀ (position : Nat) (first : FirstSet), firsts[position]? = some first →
          Finished grammar (.ofIndex position) first)
      (GaveUp grammar) := by
  let invariant (seen : List Nat) (result : Array FirstSet × FirstMemo) : Prop :=
    result.1.size = seen.length ∧ MemoHolds grammar result.2 ∧
      ∀ (position : Nat) (first : FirstSet), result.1[position]? = some first →
        Finished grammar (.ofIndex position) first
  have start : MemoHolds grammar (Array.replicate grammar.automata.size none) :=
    ⟨by simp, by simp [Array.getElem?_replicate]⟩
  unfold firstSets
  refine Ends.bind (Ends.foldlM invariant ⟨rfl, start, by simp⟩ ?_) ?_
  · intro seen position remaining ⟨firsts, memo⟩ split ⟨length, holds, finished⟩
    obtain ⟨last, small⟩ := item_of_range split
    refine (searchFirst_ends closed holds small List.nodup_nil (by simp) (by simp) (by simp)).bind ?_
    intro ⟨first, kept⟩ ⟨firstFinished, keptHolds⟩
    refine Ends.pure_iff.mpr ⟨by simp_all, keptHolds, ?_⟩
    intro other set found
    rw [Array.getElem?_push] at found
    split_ifs at found with isLast
    · obtain rfl : first = set := by simpa using found
      have same : other = position := by rw [isLast, last]; exact length
      exact same ▸ firstFinished
    · exact finished other set found
  · intro ⟨firsts, memo⟩ ⟨length, _, finished⟩
    exact Ends.pure_iff.mpr ⟨by simpa using length, finished⟩

theorem firstSets_isOk_iff {grammar : Grammar} (closed : grammar.Closed) :
    (∃ firsts, grammar.firstSets = .ok firsts) ↔ ∀ symbol, ¬ LeftRecursive grammar symbol := by
  have ends := firstSets_ends closed
  cases result : grammar.firstSets with
  | error failure =>
      obtain ⟨symbol, _, _, cycle, _⟩ := ends.of_error result
      simpa using ⟨symbol, cycle⟩
  | ok firsts =>
      obtain ⟨size, finished⟩ := ends.of_ok result
      refine iff_of_true ⟨firsts, rfl⟩ ?_
      intro symbol cycle
      -- A nonterminal on a cycle has an initial arc, hence an automaton and a finished set.
      obtain ⟨inner, ⟨_, _, ⟨found, _, _, _⟩, _⟩, _⟩ := Relation.TransGen.head'_iff.mp cycle
      have inside : symbol.index < firsts.size := size ▸ index_lt_of_automaton? found
      have done := finished symbol.index _ (Array.getElem?_eq_getElem inside)
      rw [NonterminalId.ofIndex_index] at done
      exact done.grounded.not_leftRecursive cycle

end Grammar

end TransitionNetwork
