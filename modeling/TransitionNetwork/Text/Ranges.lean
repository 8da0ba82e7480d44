/-!
# Ranges of code points

A character class is given as a list of closed ranges in ascending order, so that a search can stop
at the first range above the code point.
-/

set_option autoImplicit false

namespace TransitionNetwork.Text

/-- Closed ranges of code points, ascending and disjoint. -/
abbrev Ranges := List (Nat × Nat)

namespace Ranges

/-- Whether a code point lies in one of the ranges. Stops at the first range above it. -/
def contains : Ranges → Nat → Bool
  | [], _ => false
  | (low, high) :: rest, code => !(code < low) && (code ≤ high || contains rest code)

/-- Whether every range is non-empty and ends before the next one begins. -/
def ascending : Ranges → Bool
  | [] => true
  | [(low, high)] => low ≤ high
  | (low, high) :: (low', high') :: rest =>
      low ≤ high && high < low' && ascending ((low', high') :: rest)

section Search

variable {low high code : Nat} {range : Nat × Nat} {rest ranges : Ranges}

theorem low_le_of_ascending (ordered : ascending ((low, high) :: rest) = true) : low ≤ high := by
  cases rest with
  | nil => simpa [ascending] using ordered
  | cons next later =>
      simp only [ascending, Bool.and_eq_true, decide_eq_true_eq] at ordered
      exact ordered.1.1

theorem ascending_of_cons (ordered : ascending (range :: rest) = true) : ascending rest = true := by
  cases rest with
  | nil => rfl
  | cons next later =>
      simp only [ascending, Bool.and_eq_true] at ordered
      exact ordered.2

/-- Whatever follows a range lies above it. -/
theorem high_lt_of_ascending (ordered : ascending ((low, high) :: rest) = true)
    (member : range ∈ rest) : high < range.1 := by
  induction rest generalizing low high with
  | nil => cases member
  | cons next later ih =>
      have onward := ascending_of_cons ordered
      simp only [ascending, Bool.and_eq_true, decide_eq_true_eq] at ordered
      have above : high < next.1 := ordered.1.2
      rcases List.mem_cons.mp member with rfl | among
      · exact above
      · exact Nat.lt_trans (Nat.lt_of_lt_of_le above (low_le_of_ascending onward))
          (ih onward among)

/-- A code point that is found lies in some range; the order of the ranges is not needed. -/
theorem exists_of_contains (found : ranges.contains code = true) :
    ∃ range ∈ ranges, range.1 ≤ code ∧ code ≤ range.2 := by
  induction ranges with
  | nil => simp [contains] at found
  | cons range rest ih =>
      obtain ⟨low, high⟩ := range
      simp only [contains, Bool.and_eq_true, Bool.not_eq_true', decide_eq_false_iff_not,
        Bool.or_eq_true, decide_eq_true_eq, Nat.not_lt] at found
      rcases found.2 with inside | later
      · exact ⟨(low, high), List.mem_cons_self, found.1, inside⟩
      · obtain ⟨range, member, bounds⟩ := ih later
        exact ⟨range, List.mem_cons_of_mem _ member, bounds⟩

/-- In ascending ranges the search does not stop before the range it looks for. -/
theorem contains_of_mem (ordered : ranges.ascending = true) (member : range ∈ ranges)
    (notBelow : range.1 ≤ code) (notAbove : code ≤ range.2) : ranges.contains code = true := by
  induction ranges with
  | nil => cases member
  | cons first rest ih =>
      obtain ⟨low, high⟩ := first
      simp only [contains, Bool.and_eq_true, Bool.not_eq_true', decide_eq_false_iff_not,
        Bool.or_eq_true, decide_eq_true_eq, Nat.not_lt]
      rcases List.mem_cons.mp member with rfl | among
      · exact ⟨notBelow, .inl notAbove⟩
      · have onward := ih (ascending_of_cons ordered) among
        have below := low_le_of_ascending ordered
        have above := high_lt_of_ascending ordered among
        exact ⟨by omega, .inr onward⟩

/-- The search in ascending ranges is exact. -/
theorem contains_iff (ordered : ranges.ascending = true) :
    ranges.contains code = true ↔ ∃ range ∈ ranges, range.1 ≤ code ∧ code ≤ range.2 := by
  constructor
  · exact exists_of_contains
  · rintro ⟨range, member, notBelow, notAbove⟩
    exact contains_of_mem ordered member notBelow notAbove

end Search

end Ranges

end TransitionNetwork.Text
