import Mathlib.Algebra.Order.Floor.Div
import Mathlib.Data.Finset.Lattice.Basic
import Mathlib.Logic.Function.Basic
import TransitionNetwork.FirstSet

/-!
# Sets of labels

Bits in words of growing arrays are finite sets of labels. Any sequence of operations on any number
of registers is run twice, once on words and once on plain sets with an account of the words that
each operation asks for. Each operation keeps the two in step, so that whatever can be seen of a
register is what its plain set and its account say.
-/

set_option autoImplicit false

namespace TransitionNetwork

namespace FirstSet

/-! ## Operations on registers -/

/-- An operation on a register. `empty` and `withCapacity` make its set anew. -/
inductive Step where
  | empty (register : Nat)
  | withCapacity (register labels : Nat)
  | insert (register : Nat) (label : LabelId)
  | union (register other : Nat)
  deriving DecidableEq, Repr

/-- A kind of set with its operations. -/
structure Operations (Value : Type) where
  empty : Value
  withCapacity : Nat → Value
  insert : Value → LabelId → Value
  union : Value → Value → Value

namespace Operations

variable {Value Other : Type}

def step (operations : Operations Value) (registers : Nat → Value) : Step → Nat → Value
  | .empty register => Function.update registers register operations.empty
  | .withCapacity register labels =>
      Function.update registers register (operations.withCapacity labels)
  | .insert register label =>
      Function.update registers register (operations.insert (registers register) label)
  | .union register other =>
      Function.update registers register
        (operations.union (registers register) (registers other))

/-- All registers after some operations. One that no operation has made is empty. -/
def run (operations : Operations Value) (steps : List Step) : Nat → Value :=
  steps.foldl operations.step fun _ => operations.empty

/-- The operations of two kinds of sets lead from related sets to related sets. -/
structure Agree (left : Operations Value) (right : Operations Other)
    (related : Value → Other → Prop) : Prop where
  empty : related left.empty right.empty
  withCapacity : ∀ labels, related (left.withCapacity labels) (right.withCapacity labels)
  insert : ∀ {value other}, related value other → ∀ label,
    related (left.insert value label) (right.insert other label)
  union : ∀ {first second other another}, related first other → related second another →
    related (left.union first second) (right.union other another)

section Agreement

variable {left : Operations Value} {right : Operations Other} {related : Value → Other → Prop}
  {values : Nat → Value} {others : Nat → Other}

theorem related_update (hold : ∀ register, related (values register) (others register))
    {changed : Nat} {value : Value} {other : Other} (new : related value other) (register : Nat) :
    related (Function.update values changed value register)
      (Function.update others changed other register) := by
  by_cases same : register = changed
  · subst same
    rwa [Function.update_self, Function.update_self]
  · rw [Function.update_of_ne same, Function.update_of_ne same]
    exact hold register

theorem Agree.step (agree : Agree left right related)
    (hold : ∀ register, related (values register) (others register)) (step : Step) :
    ∀ register, related (left.step values step register) (right.step others step register) := by
  cases step with
  | empty register => exact related_update hold agree.empty
  | withCapacity register labels => exact related_update hold (agree.withCapacity labels)
  | insert register label => exact related_update hold (agree.insert (hold register) label)
  | union register other => exact related_update hold (agree.union (hold register) (hold other))

theorem Agree.foldl (agree : Agree left right related)
    (hold : ∀ register, related (values register) (others register)) (steps : List Step)
    (register : Nat) :
    related (steps.foldl left.step values register) (steps.foldl right.step others register) := by
  induction steps generalizing values others with
  | nil => exact hold register
  | cons step rest ih => exact ih (agree.step hold step)

theorem Agree.run (agree : Agree left right related) (steps : List Step) (register : Nat) :
    related (left.run steps register) (right.run steps register) :=
  agree.foldl (fun _ => agree.empty) steps register

end Agreement

end Operations

/-! ## Plain sets -/

/-- A plain set of labels with the numbers of words that the operations on it have asked for. -/
structure Account where
  members : Finset LabelId
  demands : List Nat

namespace Account

/-- The largest number of words that was asked for. -/
def words (account : Account) : Nat :=
  account.demands.foldr max 0

/-- An operation that leads to these members and asks for this number of words. -/
def extend (account : Account) (members : Finset LabelId) (demand : Nat) : Account :=
  { members, demands := demand :: account.demands }

@[simp] theorem words_extend (account : Account) (members : Finset LabelId) (demand : Nat) :
    (account.extend members demand).words = max demand account.words := rfl

end Account

def bitwise : Operations FirstSet where
  empty := empty
  withCapacity := withCapacity
  insert := insert
  union := union

/-- The operations on plain sets. A capacity asks for the words that its labels need, a label for
all words up to its own, and a union for as many words as the other set has. -/
def plain : Operations Account where
  empty := { members := ∅, demands := [0] }
  withCapacity labels := { members := ∅, demands := [labels ⌈/⌉ 64] }
  insert account label :=
    account.extend (Insert.insert label account.members) (label.toNat / 64 + 1)
  union account other := account.extend (account.members ∪ other.members) other.words

/-- The bits that are set are those of the members, and there are as many words as the largest
number that was asked for. -/
structure Represents (set : FirstSet) (account : Account) : Prop where
  has_iff : ∀ position, set.has position = true ↔
    ∃ label ∈ account.members, label.toNat = position
  size : set.words.size = account.words

theorem represents_empty : Represents empty plain.empty where
  has_iff position := by simp [plain]
  size := rfl

theorem represents_withCapacity (labels : Nat) :
    Represents (withCapacity labels) (plain.withCapacity labels) where
  has_iff position := by simp [plain]
  size := by
    rw [withCapacity, Array.size_replicate]
    simp only [plain, Account.words, List.foldr_cons, List.foldr_nil, Nat.max_zero,
      Nat.ceilDiv_eq_add_pred_div]
    omega

section Represented

variable {set other : FirstSet} {account otherAccount : Account}

theorem Represents.insert (represents : Represents set account) (label : LabelId) :
    Represents (set.insert label) (plain.insert account label) where
  has_iff position := by
    rw [has_insert, Bool.or_eq_true, represents.has_iff, beq_iff_eq]
    simp only [plain, Account.extend, Finset.mem_insert, exists_eq_or_imp]
    rw [or_comm, eq_comm]
  size := by
    rw [size_insert, represents.size, Nat.max_comm]
    exact (account.words_extend _ _).symm

theorem Represents.union (represents : Represents set account)
    (otherRepresents : Represents other otherAccount) :
    Represents (set.union other) (plain.union account otherAccount) where
  has_iff position := by
    rw [has_union, Bool.or_eq_true, represents.has_iff, otherRepresents.has_iff]
    simp only [plain, Account.extend, Finset.mem_union, or_and_right, exists_or]
  size := by
    rw [size_union, represents.size, otherRepresents.size, Nat.max_comm]
    exact (account.words_extend _ _).symm

end Represented

theorem bitwise_agree : Operations.Agree bitwise plain Represents where
  empty := represents_empty
  withCapacity := represents_withCapacity
  insert := Represents.insert
  union := Represents.union

/-! ## What can be seen of a set -/

/-- The positions of the bits that are set, word after word. -/
def bits (set : FirstSet) : List Nat :=
  set.words.toList.zipIdx.flatMap fun (word, index) =>
    ((List.range 64).filter word.getLsbD).map (64 * index + ·)

/-- Going through all positions is going through the bits of one word after another. -/
theorem filter_has_eq_bits (words : List (BitVec 64)) :
    (List.range (64 * words.length)).filter (FirstSet.mk words.toArray).has =
      (FirstSet.mk words.toArray).bits := by
  -- From the right: a further word takes the next 64 positions and leaves the earlier ones alone.
  induction words using List.reverseRecOn with
  | nil => rfl
  | append_singleton words last ih =>
      have earlier : ∀ position ∈ List.range (64 * words.length),
          (FirstSet.mk (words ++ [last]).toArray).has position =
            (FirstSet.mk words.toArray).has position := by
        intro position member
        have inside : position / 64 < words.length := by
          have := List.mem_range.mp member
          omega
        simp [has, List.getElem?_append_left inside]
      have within : ∀ bit ∈ List.range 64,
          ((FirstSet.mk (words ++ [last]).toArray).has ∘ (64 * words.length + ·)) bit =
            last.getLsbD bit := by
        intro bit member
        have bound : words.length < (FirstSet.mk (words ++ [last]).toArray).words.size := by simp
        rw [Function.comp_apply, has_block bound (List.mem_range.mp member)]
        simp
      rw [List.length_append, List.length_singleton, Nat.mul_add, Nat.mul_one, List.range_add,
        List.filter_append, List.filter_congr earlier, ih, List.filter_map,
        List.filter_congr within]
      simp [bits, List.zipIdx_append]

theorem map_toNat_toList {set : FirstSet}
    (small : ∀ position, set.has position = true → position < 65536) :
    set.toList.map UInt16.toNat = set.bits := by
  obtain ⟨⟨words⟩⟩ := set
  rw [← filter_has_eq_bits, toList, List.map_map]
  apply (List.map_congr_left _).trans (List.map_id _)
  intro position member
  rw [Function.comp_apply, Nat.toUInt16, UInt16.toNat_ofNat', id]
  exact Nat.mod_eq_of_lt (small position (List.mem_filter.mp member).2)

theorem pairwise_toList {set : FirstSet}
    (small : ∀ position, set.has position = true → position < 65536) :
    set.toList.Pairwise (· < ·) := by
  have ascending : (set.toList.map UInt16.toNat).Pairwise (· < ·) := by
    rw [map_toNat_toList small, ← filter_has_eq_bits set.words.toList]
    exact List.pairwise_lt_range.filter _
  exact (List.pairwise_map.mp ascending).imp UInt16.lt_iff_toNat_lt.mpr

section Views

variable {set other : FirstSet} {account otherAccount : Account}

theorem Represents.small (represents : Represents set account) (position : Nat)
    (has : set.has position = true) : position < 65536 := by
  obtain ⟨label, _, rfl⟩ := (represents.has_iff position).mp has
  exact label.toNat_lt

theorem Represents.contains_iff (represents : Represents set account) (label : LabelId) :
    set.contains label = true ↔ label ∈ account.members := by
  simp only [contains, represents.has_iff, UInt16.toNat_inj, exists_eq_right]

theorem Represents.has_eq_false_iff (represents : Represents set account) (position : Nat) :
    set.has position = false ↔ ∀ label ∈ account.members, label.toNat ≠ position := by
  rw [← Bool.not_eq_true, represents.has_iff]
  simp only [not_exists, not_and, ne_eq]

theorem Represents.isEmpty_iff (represents : Represents set account) :
    set.isEmpty = true ↔ account.members = ∅ := by
  rw [FirstSet.isEmpty_iff, Finset.eq_empty_iff_forall_notMem]
  simp only [represents.has_eq_false_iff]
  constructor
  · intro none label member
    exact none label.toNat label member rfl
  · intro none position label member
    exact absurd member (none label)

theorem Represents.eq_iff (represents : Represents set account)
    (otherRepresents : Represents other otherAccount) :
    set = other ↔
      account.members = otherAccount.members ∧ account.words = otherAccount.words := by
  constructor
  · rintro rfl
    refine ⟨?_, by rw [← represents.size, otherRepresents.size]⟩
    ext label
    rw [← represents.contains_iff, otherRepresents.contains_iff]
  · rintro ⟨members, words⟩
    apply eq_of_has
    · rw [represents.size, otherRepresents.size, words]
    · intro position
      rw [Bool.eq_iff_iff, represents.has_iff, otherRepresents.has_iff, members]

end Views

/-! ## Main statement -/

/-- What can be seen of a set is what its account says. That the list is `uncut` means that its
numbers are the positions of the bits themselves, also where these are narrowed to labels. -/
structure Shows (set : FirstSet) (account : Account) : Prop where
  contains : ∀ label, set.contains label = true ↔ label ∈ account.members
  listed : ∀ label, label ∈ set.toList ↔ label ∈ account.members
  ascending : set.toList.Pairwise (· < ·)
  uncut : set.toList.map UInt16.toNat = set.bits
  isEmpty : set.isEmpty = true ↔ account.members = ∅
  size : set.words.size = account.words

theorem Represents.shows {set : FirstSet} {account : Account}
    (represents : Represents set account) : Shows set account where
  contains := represents.contains_iff
  listed label := (mem_toList_iff represents.small).trans (represents.contains_iff label)
  ascending := pairwise_toList represents.small
  uncut := map_toNat_toList represents.small
  isEmpty := represents.isEmpty_iff
  size := represents.size

/-- Bits in words are finite sets of labels. After any operations on any registers, each register
contains the labels of the plain set that the same operations build and no others, lists them in
ascending order with their numbers uncut, and has as many words as the operation that asked for
most. The union of two registers contains every label of either. Two registers are equal exactly if
their members and their numbers of words are. -/
theorem plain_sets_of_steps (steps : List Step) :
    (∀ register, Shows (bitwise.run steps register) (plain.run steps register)) ∧
    (∀ left right label,
      ((bitwise.run steps left).union (bitwise.run steps right)).contains label = true ↔
        (bitwise.run steps left).contains label = true ∨
          (bitwise.run steps right).contains label = true) ∧
    ∀ left right, (bitwise.run steps left == bitwise.run steps right) = true ↔
      (plain.run steps left).members = (plain.run steps right).members ∧
        (plain.run steps left).words = (plain.run steps right).words := by
  have represents := bitwise_agree.run steps
  refine ⟨fun register => (represents register).shows, ?_, ?_⟩
  · intro left right label
    rw [contains, has_union, Bool.or_eq_true, contains, contains]
  · intro left right
    rw [beq_iff_eq]
    exact (represents left).eq_iff (represents right)

/-- The last label of the first word meets the first label of the second one, and the shorter set
takes up the longer. -/
example : (bitwise.run [.insert 0 63, .withCapacity 1 65, .insert 1 64, .union 0 1] 0).toList =
    [63, 64] := by
  cbv

end FirstSet

end TransitionNetwork
