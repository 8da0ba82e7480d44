import Mathlib.Data.List.TakeWhile
import Mathlib.Tactic.SplitIfs
import TransitionNetwork.Automaton.DenseTable

/-!
# Dense tables as functions of labels

A table cut down to the labels that have a transition answers every label as the uncut table does.
Its bounds are the first such label and one past the last, and its listing is the graph of its
answers in ascending order.
-/

set_option autoImplicit false

namespace TransitionNetwork

namespace DenseTable

/-- A table covers labels only, and begins and ends with a label that has a transition. -/
structure Tight (table : DenseTable) : Prop where
  upper_le : table.upper ≤ 65536
  first : ∀ entry, table.entries[0]? = some entry → entry.isSome = true
  last : ∀ entry, table.entries.back? = some entry → entry.isSome = true
  empty : table.entries = #[] → table.lower = 0

private theorem popWhile_split {α : Type} (drop : α → Bool) (values : Array α) :
    ∃ dropped : Array α, values = values.popWhile drop ++ dropped ∧
      (∀ value ∈ dropped, drop value = true) ∧
      ∀ value, (values.popWhile drop).back? = some value → drop value = false := by
  obtain ⟨items⟩ := values
  refine ⟨(items.reverse.takeWhile drop).reverse.toArray, ?_, ?_, ?_⟩
  · rw [List.popWhile_toArray, List.append_toArray, ← List.reverse_append,
      List.takeWhile_append_dropWhile, List.reverse_reverse]
  · intro value member
    exact List.mem_takeWhile_imp (by simpa using member)
  · intro value back
    have kept := List.head?_dropWhile_not drop items.reverse
    rw [List.popWhile_toArray, List.back?_toArray, List.getLast?_reverse] at back
    rwa [back] at kept

private theorem join_popWhile (entries : Array (Option Transition)) (position : Nat) :
    ((entries.popWhile Option.isNone)[position]?).join = (entries[position]?).join := by
  obtain ⟨dropped, split, blank, _⟩ := popWhile_split Option.isNone entries
  have answer := congrArg (·[position]?) split
  simp only [Array.getElem?_append] at answer
  rw [answer]
  split_ifs with inside
  · rfl
  · rw [Array.getElem?_eq_none (Nat.le_of_not_lt inside)]
    cases found : dropped[position - (entries.popWhile Option.isNone).size]? with
    | none => rfl
    | some entry =>
        have isBlank := blank entry (Array.mem_of_getElem? found)
        rw [Option.isNone_iff_eq_none.mp isBlank]
        rfl

theorem lookup_trim (accept : Bool) (entries : Array (Option Transition)) (label : LabelId) :
    (trim accept entries).lookup label = (entries[label.toNat]?).join := by
  unfold trim lookup
  cases search : entries.findIdx? Option.isSome with
  | none =>
      have blank := Array.findIdx?_eq_none_iff.mp search
      cases found : entries[label.toNat]? with
      | none => simp
      | some entry =>
          have isBlank : entry = none := by simpa using blank entry (Array.mem_of_getElem? found)
          simp [isBlank]
  | some lower =>
      obtain ⟨inside, _, before⟩ := Array.findIdx?_eq_some_iff_getElem.mp search
      dsimp only
      split_ifs with below
      · have blank : entries[label.toNat] = none := by simpa using before label.toNat below
        simp [Array.getElem?_eq_getElem (Nat.lt_trans below inside), blank]
      · rw [join_popWhile, Array.getElem?_extract]
        split_ifs with covered
        · rw [Nat.add_sub_cancel' (Nat.le_of_not_lt below)]
        · rw [Array.getElem?_eq_none (by omega)]

theorem accept_trim (accept : Bool) (entries : Array (Option Transition)) :
    (trim accept entries).accept = accept := by
  unfold trim
  split <;> rfl

theorem upper_trim_le (accept : Bool) (entries : Array (Option Transition)) :
    (trim accept entries).upper ≤ entries.size := by
  unfold trim upper
  cases search : entries.findIdx? Option.isSome with
  | none => simp
  | some lower =>
      obtain ⟨inside, _, _⟩ := Array.findIdx?_eq_some_iff_getElem.mp search
      obtain ⟨dropped, split, _, _⟩ :=
        popWhile_split Option.isNone (entries.extract lower entries.size)
      have sizes := congrArg Array.size split
      simp only [Array.size_append, Array.size_extract] at sizes
      dsimp only
      omega

theorem tight_trim {entries : Array (Option Transition)} (accept : Bool)
    (small : entries.size ≤ 65536) : (trim accept entries).Tight := by
  have upper_le := Nat.le_trans (upper_trim_le accept entries) small
  unfold trim at upper_le ⊢
  cases search : entries.findIdx? Option.isSome with
  | none => exact ⟨by simp [upper], by simp, by simp, fun _ => rfl⟩
  | some lower =>
      obtain ⟨inside, populated, _⟩ := Array.findIdx?_eq_some_iff_getElem.mp search
      obtain ⟨dropped, split, blank, last⟩ :=
        popWhile_split Option.isNone (entries.extract lower entries.size)
      have head : ((entries.extract lower entries.size)[0]?) = some entries[lower] := by
        rw [Array.getElem?_extract, if_pos (by omega), Nat.add_zero, Array.getElem?_eq_getElem inside]
      -- The first entry has a transition, so it is not among those dropped from the end.
      have kept : ((entries.extract lower entries.size).popWhile Option.isNone)[0]? =
          some entries[lower] := by
        rw [split, Array.getElem?_append] at head
        split_ifs at head with nonempty
        · exact head
        · have isBlank := blank _ (Array.mem_of_getElem? head)
          rw [Option.isNone_iff_eq_none.mp isBlank] at populated
          cases populated
      rw [search] at upper_le
      refine ⟨upper_le, ?_, ?_, ?_⟩
      · intro entry found
        obtain rfl := Option.some.inj (kept.symm.trans found)
        exact populated
      · intro entry found
        simpa using last entry found
      · intro (none : (entries.extract lower entries.size).popWhile Option.isNone = #[])
        rw [none] at kept
        cases kept

/-! ## Bounds and listing -/

theorem lookup_eq_some_iff {table : DenseTable} {label : LabelId} {transition : Transition} :
    table.lookup label = some transition ↔
      table.lower ≤ label.toNat ∧
        table.entries[label.toNat - table.lower]? = some (some transition) := by
  unfold lookup
  split_ifs with below
  · simp [Nat.not_le.mpr below]
  · simp [Option.join_eq_some_iff, Nat.le_of_not_lt below]

theorem lt_upper_of_lookup {table : DenseTable} {label : LabelId} {transition : Transition}
    (answer : table.lookup label = some transition) :
    table.lower ≤ label.toNat ∧ label.toNat < table.upper := by
  obtain ⟨above, found⟩ := lookup_eq_some_iff.mp answer
  obtain ⟨inside, _⟩ := Array.getElem?_eq_some_iff.mp found
  exact ⟨above, by unfold upper; omega⟩

private theorem Tight.lookup_ofNat {table : DenseTable} (tight : table.Tight) {index : Nat}
    {transition : Transition} (found : table.entries[index]? = some (some transition)) :
    (table.lower + index).toUInt16.toNat = table.lower + index ∧
      table.lookup (table.lower + index).toUInt16 = some transition := by
  obtain ⟨inside, _⟩ := Array.getElem?_eq_some_iff.mp found
  have bound := tight.upper_le
  have exact : (table.lower + index).toUInt16.toNat = table.lower + index := by
    unfold upper at bound
    simp only [Nat.toUInt16, UInt16.toNat_ofNat']
    omega
  refine ⟨exact, lookup_eq_some_iff.mpr ⟨by omega, ?_⟩⟩
  rw [exact, Nat.add_sub_cancel_left, found]

/-- The bounds of a tight table are the first label with a transition and one past the last; both
are zero without any. -/
theorem Tight.bounds {table : DenseTable} (tight : table.Tight) :
    (∃ first last, (table.lookup first).isSome = true ∧ (table.lookup last).isSome = true ∧
        table.lower = first.toNat ∧ table.upper = last.toNat + 1) ∨
      (∀ label, table.lookup label = none) ∧ table.lower = 0 ∧ table.upper = 0 := by
  by_cases empty : table.entries = #[]
  · have zero := tight.empty empty
    refine .inr ⟨?_, zero, by simp [upper, zero, empty]⟩
    intro label
    simp [lookup, empty]
  · have nonempty : 0 < table.entries.size := Array.size_pos_iff.mpr empty
    obtain ⟨first, firstFound⟩ := Option.isSome_iff_exists.mp
      (tight.first _ (Array.getElem?_eq_getElem nonempty))
    obtain ⟨last, lastFound⟩ := Option.isSome_iff_exists.mp
      (tight.last _ (Array.back?_eq_getElem? ▸ Array.getElem?_eq_getElem (Nat.sub_lt nonempty Nat.one_pos)))
    obtain ⟨firstExact, firstAnswer⟩ := tight.lookup_ofNat
      (firstFound ▸ Array.getElem?_eq_getElem nonempty)
    obtain ⟨lastExact, lastAnswer⟩ := tight.lookup_ofNat
      (lastFound ▸ Array.getElem?_eq_getElem (Nat.sub_lt nonempty Nat.one_pos))
    refine .inl ⟨_, _, by rw [firstAnswer]; rfl, by rw [lastAnswer]; rfl, firstExact.symm, ?_⟩
    rw [lastExact, upper]
    omega

theorem Tight.mem_transitions_iff {table : DenseTable} (tight : table.Tight) {label : LabelId}
    {transition : Transition} :
    (label, transition) ∈ table.transitions ↔ table.lookup label = some transition := by
  simp only [transitions, List.mem_filterMap, Prod.exists, Option.map_eq_some_iff,
    Prod.mk.injEq, List.mk_mem_zipIdx_iff_le_and_getElem?_sub, Array.getElem?_toList]
  constructor
  · rintro ⟨entry, position, ⟨above, found⟩, same, rfl, rfl, rfl⟩
    have answer := (tight.lookup_ofNat found).2
    rwa [Nat.add_sub_cancel' above] at answer
  · intro answer
    obtain ⟨above, found⟩ := lookup_eq_some_iff.mp answer
    exact ⟨some transition, label.toNat, ⟨above, found⟩, transition, rfl, by simp [Nat.toUInt16], rfl⟩

theorem Tight.pairwise_transitions {table : DenseTable} (tight : table.Tight) :
    table.transitions.Pairwise fun earlier later => earlier.1 < later.1 := by
  have positions : (table.entries.toList.zipIdx table.lower).Pairwise
      fun earlier later => earlier.2 < later.2 := by
    rw [← List.pairwise_map (f := Prod.snd), List.zipIdx_map_snd]
    exact List.pairwise_lt_range'
  have bound := tight.upper_le
  rw [transitions, List.pairwise_filterMap]
  refine positions.imp_of_mem ?_
  rintro ⟨first, lower⟩ ⟨second, higher⟩ _ member less ⟨_, _⟩ firstEntry ⟨_, _⟩ secondEntry
  obtain ⟨above, found⟩ := List.mk_mem_zipIdx_iff_le_and_getElem?_sub.mp member
  obtain ⟨inside, _⟩ := Array.getElem?_eq_some_iff.mp (by simpa using found)
  simp only [Option.map_eq_some_iff, Prod.mk.injEq] at firstEntry secondEntry
  obtain ⟨_, _, rfl, _⟩ := firstEntry
  obtain ⟨_, _, rfl, _⟩ := secondEntry
  unfold upper at bound
  simp only [Nat.toUInt16, UInt16.lt_iff_toNat_lt, UInt16.toNat_ofNat']
  omega

end DenseTable

end TransitionNetwork
