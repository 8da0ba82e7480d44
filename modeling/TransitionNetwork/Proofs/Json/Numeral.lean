import Mathlib.Data.List.TakeDrop
import TransitionNetwork.Json.Numeral

/-!
# Written numbers

A number that is written is read back, whatever follows it, provided that what follows cannot be
taken for a part of it. Between the parts of a text this is always so.
-/

set_option autoImplicit false

namespace TransitionNetwork.Json

/-- What can follow a value: a blank, a comma, a closing bracket or brace, or nothing. -/
def Delimited (rest : List Char) : Prop :=
  ∀ c ∈ rest.head?, isBlank c = true ∨ c = ',' ∨ c = ']' ∨ c = '\x7d'

theorem Delimited.cases {rest : List Char} (delimited : Delimited rest) :
    rest = [] ∨
      ∃ c more, rest = c :: more ∧ c.isDigit = false ∧ c ≠ '.' ∧ ¬ (c = 'e' ∨ c = 'E') := by
  cases rest with
  | nil => exact .inl rfl
  | cons c more =>
      refine .inr ⟨c, more, rfl, ?_⟩
      have ends : (c = ' ' ∨ c = '\n' ∨ c = '\t' ∨ c = '\r') ∨ c = ',' ∨ c = ']' ∨ c = '\x7d' := by
        simpa [isBlank, or_assoc] using delimited c rfl
      rcases ends with (rfl | rfl | rfl | rfl) | rfl | rfl | rfl <;> decide

/-! ## Digits -/

theorem isDigit_of_mem_writeWord16 {word : UInt16} {c : Char} (among : c ∈ writeWord16 word) :
    c.isDigit = true :=
  Nat.isDigit_of_mem_toDigits (by decide) (by decide) among

theorem digitsValue_writeWord16 (word : UInt16) : digitsValue (writeWord16 word) = word.toNat := by
  have value : Nat.ofDigitChars 10 (Nat.toDigits 10 word.toNat) 0 = word.toNat :=
    Nat.ofDigitChars_toDigits (by decide) (by decide)
  rw [← value]
  simp only [digitsValue, writeWord16, digitValue, Nat.ofDigitChars, Nat.mul_comm 10]

/-- Only zero begins with a zero. -/
theorem head_toDigits {number : Nat} (positive : 0 < number) :
    ∃ first others, Nat.toDigits 10 number = first :: others ∧ first ≠ '0' := by
  induction number using Nat.strongRecOn with
  | ind number ih =>
      by_cases small : number < 10
      · rw [Nat.toDigits_of_lt_base small]
        refine ⟨_, [], rfl, ?_⟩
        have nonzero : ∀ digit : Fin 10, 0 < digit.val → digit.val.digitChar ≠ '0' := by decide
        exact nonzero ⟨number, small⟩ positive
      · obtain ⟨first, others, high, nonzero⟩ := ih (number / 10) (by omega) (by omega)
        rw [Nat.toDigits_of_base_le (by decide) (by omega), high]
        exact ⟨first, _, rfl, nonzero⟩

theorem span_digits {digits rest : List Char} (all : ∀ c ∈ digits, c.isDigit = true)
    (delimited : Delimited rest) : (digits ++ rest).span Char.isDigit = (digits, rest) := by
  have stops : rest.takeWhile Char.isDigit = [] ∧ rest.dropWhile Char.isDigit = rest := by
    rcases delimited.cases with rfl | ⟨c, more, rfl, notDigit, _⟩
    · exact ⟨rfl, rfl⟩
    · simp [notDigit]
  rw [List.span_eq_takeWhile_dropWhile, List.takeWhile_append_of_pos all,
    List.dropWhile_append_of_pos all, stops.1, stops.2, List.append_nil]

theorem scanWhole_writeWord16 (atEnd : Defect) (word : UInt16) {rest : List Char}
    (delimited : Delimited rest) :
    scanWhole atEnd (writeWord16 word ++ rest) = .ok (writeWord16 word, rest) := by
  by_cases zero : word.toNat = 0
  · have digits : writeWord16 word = ['0'] := by
      rw [writeWord16, zero]
      rfl
    rw [digits]
    rcases delimited.cases with rfl | ⟨c, more, rfl, notDigit, _⟩
    · rfl
    · simp [scanWhole, notDigit]
  · obtain ⟨first, others, digits, nonzero⟩ := head_toDigits (Nat.pos_of_ne_zero zero)
    have all : ∀ c ∈ first :: others, c.isDigit = true := by
      rw [← digits]
      exact fun _ => isDigit_of_mem_writeWord16
    have spanned := span_digits all delimited
    rw [writeWord16, digits]
    rw [List.cons_append] at spanned ⊢
    rw [scanWhole]
    · rw [scanDigits, if_pos (all first (.head _)), spanned]
    · intro others same
      cases same
      exact nonzero rfl

/-- A numeral without sign, point and exponent. -/
def Numeral.ofDigits (whole : List Char) : Numeral :=
  { negative := false, whole, fraction := none, exponent := none }

theorem scanNumeral_writeWord16 (atEnd : Defect) (word : UInt16) {rest : List Char}
    (delimited : Delimited rest) :
    scanNumeral atEnd (writeWord16 word ++ rest) =
      .ok (.ofDigits (writeWord16 word), rest) := by
  have whole := scanWhole_writeWord16 atEnd word delimited
  have fraction : scanFraction atEnd rest = .ok (none, rest) := by
    rcases delimited.cases with rfl | ⟨c, more, rfl, _, noPoint, _⟩
    · rfl
    · simp [scanFraction, noPoint]
  have exponent : scanExponent atEnd rest = .ok (none, rest) := by
    rcases delimited.cases with rfl | ⟨c, more, rfl, _, _, noExponent⟩
    · rfl
    · simp [scanExponent, noExponent]
  have unsigned : ∀ more, writeWord16 word ++ rest ≠ '-' :: more := by
    intro more same
    rw [same] at whole
    cases whole
  unfold scanNumeral
  simp only [whole, bind, Except.bind, fraction, exponent]
  rfl

/-! ## Values -/

theorem le_digitsValue (start : Nat) (digits : List Char) :
    start ≤ digits.foldl (fun value c => value * 10 + digitValue c) start := by
  induction digits generalizing start with
  | nil => exact Nat.le_refl _
  | cons c rest ih =>
      have step : start ≤ start * 10 + digitValue c := by omega
      exact Nat.le_trans step (ih _)

theorem absorb_of_le {start taken : Nat} {digits : List Char}
    (fits : digits.foldl (fun value c => value * 10 + digitValue c) start ≤ maxSignificand) :
    absorb start taken digits = (digits.foldl (fun value c => value * 10 + digitValue c) start,
      taken + digits.length, 0) := by
  induction digits generalizing start taken with
  | nil => rfl
  | cons c rest ih =>
      have next : start * 10 + digitValue c ≤ maxSignificand :=
        Nat.le_trans (le_digitsValue _ rest) fits
      simp only [absorb, if_pos next, List.foldl_cons, List.length_cons]
      rw [ih fits]
      simp [Nat.add_assoc, Nat.add_comm 1]

theorem inRange_word {whole : List Char} (small : digitsValue whole < 65536) :
    (Numeral.ofDigits whole).inRange = true := by
  have absorbed : absorb 0 0 whole = (digitsValue whole, 0 + whole.length, 0) :=
    absorb_of_le (Nat.le_trans (Nat.le_of_lt small) (by decide))
  have asIs : roundToDouble (digitsValue whole) = digitsValue whole := by
    rw [roundToDouble, if_pos (Nat.lt_trans small (by decide))]
  have parts : (Numeral.ofDigits whole).parts = (digitsValue whole, 0) := by
    simp [Numeral.ofDigits, Numeral.parts, absorbed, absorb]
  have one : roundToDouble (Nat.pow 10 0) = 1 := by decide
  have wide : ∀ power ≥ 16, Nat.pow 2 16 ≤ Nat.pow 2 power := fun _ large =>
    Nat.pow_le_pow_right (by decide) large
  have bound : digitsValue whole < Nat.pow 2 1024 :=
    Nat.lt_of_lt_of_le small (wide 1024 (by decide))
  unfold Numeral.inRange
  rw [parts]
  cases value : digitsValue whole with
  | zero => rfl
  | succ less =>
      rw [value] at asIs bound
      refine Bool.and_eq_true_iff.mpr ⟨rfl, decide_eq_true ?_⟩
      rwa [asIs, one, Nat.mul_one, asIs]

theorem readNumeral_writeWord16 (word : UInt16) {rest : List Char} (delimited : Delimited rest) :
    readNumeral (writeWord16 word ++ rest) =
      .ok (.ofDigits (writeWord16 word), rest) := by
  have small : digitsValue (writeWord16 word) < 65536 := by
    rw [digitsValue_writeWord16]
    exact word.toNat_lt
  simp only [readNumeral, scanNumeral_writeWord16 _ word delimited, inRange_word small]
  rfl

theorem word16?_writeWord16 (word : UInt16) :
    (Numeral.ofDigits (writeWord16 word)).word16? = some word := by
  have small : word.toNat < 65536 := word.toNat_lt
  simp [Numeral.ofDigits, Numeral.word16?, digitsValue_writeWord16, small, Nat.toUInt16]

end TransitionNetwork.Json
