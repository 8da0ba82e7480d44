import TransitionNetwork.Label

/-!
# Sets of starting labels

The terminal labels a nonterminal can begin with, as a bit set over label positions in words of 64
bits. A set remembers how many words it has, and equality compares the words: two sets with the same
members but different word counts differ. `FirstSet.has` is the view through which every operation
is described.
-/

set_option autoImplicit false

namespace TransitionNetwork

structure FirstSet where
  words : Array (BitVec 64)
  deriving DecidableEq, Repr

namespace FirstSet

def empty : FirstSet := ⟨#[]⟩

instance : Inhabited FirstSet := ⟨empty⟩

/-- The set without members, with enough words for a number of labels. -/
def withCapacity (labels : Nat) : FirstSet :=
  ⟨Array.replicate ((labels + 63) / 64) 0#64⟩

/-- Whether the bit at a position is set. Positions beyond the last word have no bit. -/
def has (set : FirstSet) (position : Nat) : Bool :=
  (set.words[position / 64]?.getD 0#64).getLsbD (position % 64)

def contains (set : FirstSet) (label : LabelId) : Bool :=
  set.has label.toNat

/-- Adds words without members until there are at least `count` words. -/
def grow (set : FirstSet) (count : Nat) : FirstSet :=
  ⟨set.words ++ Array.replicate (count - set.words.size) 0#64⟩

/-- Adds a label, growing to the word it falls into. -/
def insert (set : FirstSet) (label : LabelId) : FirstSet :=
  let position := label.toNat
  ⟨(set.grow (position / 64 + 1)).words.modify (position / 64)
    (· ||| BitVec.twoPow 64 (position % 64))⟩

/-- The members of both sets, in as many words as the larger one has. -/
def union (set other : FirstSet) : FirstSet :=
  ⟨Array.zipWith (· ||| ·) (set.grow other.words.size).words (other.grow set.words.size).words⟩

def isEmpty (set : FirstSet) : Bool :=
  set.words.all (· == 0#64)

def toList (set : FirstSet) : List LabelId :=
  ((List.range (64 * set.words.size)).filter set.has).map Nat.toUInt16

@[simp] theorem has_empty (position : Nat) : empty.has position = false := by
  simp [has, empty]

@[simp] theorem has_withCapacity (labels position : Nat) :
    (withCapacity labels).has position = false := by
  simp only [has, withCapacity, Array.getElem?_replicate]
  split <;> simp

@[simp] theorem has_grow (set : FirstSet) (count position : Nat) :
    (set.grow count).has position = set.has position := by
  simp only [has, grow, Array.getElem?_append, Array.getElem?_replicate]
  split
  · rfl
  · next beyond =>
      rw [Array.getElem?_eq_none (Nat.le_of_not_lt beyond)]
      split <;> simp

theorem size_grow (set : FirstSet) (count : Nat) :
    (set.grow count).words.size = max set.words.size count := by
  simp only [grow, Array.size_append, Array.size_replicate]
  omega

theorem size_insert (set : FirstSet) (label : LabelId) :
    (set.insert label).words.size = max set.words.size (label.toNat / 64 + 1) := by
  simp only [insert, Array.size_modify, size_grow]

theorem size_union (set other : FirstSet) :
    (set.union other).words.size = max set.words.size other.words.size := by
  simp only [union, Array.size_zipWith, size_grow]
  omega

/-- Inserting adds exactly the label, also beyond the words the set had. -/
@[simp] theorem has_insert (set : FirstSet) (label : LabelId) (position : Nat) :
    (set.insert label).has position = (set.has position || position == label.toNat) := by
  have grown := has_grow set (label.toNat / 64 + 1) position
  have room : label.toNat / 64 < (set.grow (label.toNat / 64 + 1)).words.size := by
    rw [size_grow]; omega
  rw [← grown]
  simp only [has, insert, Array.getElem?_modify]
  by_cases same : label.toNat / 64 = position / 64
  · rw [if_pos same, ← same, Array.getElem?_eq_getElem room]
    simp only [Option.map_some, Option.getD_some, BitVec.getLsbD_or, BitVec.getLsbD_twoPow]
    congr 1
    by_cases equal : position = label.toNat
    · subst equal; simp; omega
    · have : ¬ (label.toNat % 64 = position % 64) := by omega
      simp [equal, this]
  · have different : ¬ (position = label.toNat) := fun equal => same (by rw [equal])
    rw [if_neg same]
    simp [different]

/-- A union has exactly the members of both sets, whatever their word counts are. -/
@[simp] theorem has_union (set other : FirstSet) (position : Nat) :
    (set.union other).has position = (set.has position || other.has position) := by
  rw [← has_grow set other.words.size position, ← has_grow other set.words.size position]
  simp only [has, union, Array.getElem?_zipWith]
  have left := size_grow set other.words.size
  have right := size_grow other set.words.size
  by_cases inside : position / 64 < max set.words.size other.words.size
  · rw [Array.getElem?_eq_getElem (by omega), Array.getElem?_eq_getElem (by omega)]
    simp
  · rw [Array.getElem?_eq_none (by omega), Array.getElem?_eq_none (by omega)]
    simp

/-- The bits of a word are the members of its block of 64 positions. -/
theorem has_block {set : FirstSet} {index bit : Nat} (bound : index < set.words.size)
    (small : bit < 64) : set.has (64 * index + bit) = set.words[index].getLsbD bit := by
  have word : (64 * index + bit) / 64 = index := by omega
  have rest : (64 * index + bit) % 64 = bit := by omega
  rw [has, word, rest, Array.getElem?_eq_getElem bound, Option.getD_some]

theorem isEmpty_iff {set : FirstSet} :
    set.isEmpty = true ↔ ∀ position, set.has position = false := by
  simp only [isEmpty, Array.all_eq_true, beq_iff_eq]
  constructor
  · intro zero position
    simp only [has]
    cases found : set.words[position / 64]? with
    | none => simp
    | some word =>
        obtain ⟨bound, rfl⟩ := Array.getElem?_eq_some_iff.mp found
        simp [zero _ bound]
  · intro none index bound
    apply BitVec.eq_of_getLsbD_eq
    intro bit small
    rw [← has_block bound small, none, BitVec.getLsbD_zero]

/-- Sets are equal if they have the same members in the same number of words. -/
theorem eq_of_has {left right : FirstSet} (size : left.words.size = right.words.size)
    (same : ∀ position, left.has position = right.has position) : left = right := by
  apply congrArg FirstSet.mk
  apply Array.ext size
  intro index leftBound rightBound
  apply BitVec.eq_of_getLsbD_eq
  intro bit small
  rw [← has_block leftBound small, ← has_block rightBound small, same]

theorem lt_of_has {set : FirstSet} {position : Nat} (has : set.has position = true) :
    position < 64 * set.words.size := by
  apply Nat.lt_of_not_le
  intro beyond
  rw [FirstSet.has, Array.getElem?_eq_none (by omega)] at has
  simp at has

theorem mem_toList_iff {set : FirstSet}
    (small : ∀ position, set.has position = true → position < 65536) {id : LabelId} :
    id ∈ set.toList ↔ set.contains id = true := by
  simp only [toList, List.mem_map, List.mem_filter, List.mem_range]
  constructor
  · rintro ⟨position, ⟨_, has⟩, rfl⟩
    have exact : position.toUInt16.toNat = position := by
      simp only [Nat.toUInt16, UInt16.toNat_ofNat']
      exact Nat.mod_eq_of_lt (small position has)
    change set.has position.toUInt16.toNat = true
    rwa [exact]
  · intro has
    exact ⟨id.toNat, ⟨lt_of_has has, has⟩, by simp [Nat.toUInt16]⟩

end FirstSet

end TransitionNetwork
