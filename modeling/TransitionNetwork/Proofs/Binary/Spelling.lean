import Mathlib.Algebra.Group.Nat.Defs
import Mathlib.Data.List.Infix
import TransitionNetwork.Binary.Basic
import TransitionNetwork.Proofs.Fallible

/-!
# Complete spellings

Written data delimits itself. A reader takes it off the front of any data, whatever follows, and
runs out of data on every part of it that is cut off before its end. Both are properties of the
pieces that a piece of data is put together from.
-/

set_option autoImplicit false

namespace TransitionNetwork.Binary

/-- The bytes spell the value for a reader: it takes exactly them off the front of any data, and
needs all of them. -/
structure Spells {α : Type} (read : Reader α) (bytes : List UInt8) (value : α) : Prop where
  taken : ∀ rest, read (bytes ++ rest) = .ok (value, rest)
  cut : ∀ front, front <+: bytes → front ≠ bytes → read front = .error .truncated

section Pieces

variable {α β : Type} {read : Reader α} {bytes more : List UInt8} {value : α}

theorem Spells.done (value : α) : Spells (pure value : Reader α) [] value where
  taken _ := rfl
  cut _ isFront shorter := absurd (List.prefix_nil.mp isFront) shorter

theorem Spells.bind {next : α → Reader β} {final : β} (first : Spells read bytes value)
    (second : Spells (next value) more final) : Spells (read >>= next) (bytes ++ more) final := by
  constructor
  case taken =>
    intro rest
    rw [List.append_assoc, bind_of_ok (first.taken _)]
    exact second.taken rest
  case cut =>
    intro front isFront shorter
    by_cases reached : bytes <+: front
    · -- The first piece is whole, and the cut is in the second one.
      obtain ⟨behind, rfl⟩ := reached
      rw [List.prefix_append_right_inj] at isFront
      rw [bind_of_ok (first.taken behind)]
      exact second.cut behind isFront fun same => shorter (by rw [same])
    · have inside : front <+: bytes :=
        (List.prefix_or_prefix_of_prefix isFront (List.prefix_append bytes more)).resolve_right
          reached
      refine bind_of_error (first.cut front inside ?_)
      intro same
      exact reached (same ▸ List.prefix_refl _)

/-- The last piece, after which nothing is read. -/
theorem Spells.last {next : α → Reader β} {final : β} (spells : Spells read bytes value)
    (ends : next value = pure final) : Spells (read >>= next) bytes final := by
  rw [← List.append_nil bytes]
  exact spells.bind (ends ▸ .done final)

end Pieces

/-! ## Numbers -/

private theorem eq_nil_of_cut {byte : UInt8} {front : List UInt8} (isFront : front <+: [byte])
    (shorter : front ≠ [byte]) : front = [] := by
  rcases List.prefix_cons_iff.mp isFront with empty | ⟨rest, rfl, none⟩
  · exact empty
  · rw [List.prefix_nil.mp none] at shorter
    exact absurd rfl shorter

theorem readGroups_cut {last groups number : Nat} {front : List UInt8} (group : last < 128)
    (fits : number < (last + 1) * Nat.pow 128 groups) (isFront : front <+: writeNumber number)
    (shorter : front ≠ writeNumber number) :
    readGroups last (groups + 1) front = .error .truncated := by
  induction groups generalizing number front with
  | zero =>
      rw [Nat.pow, Nat.mul_one] at fits
      rw [writeNumber, if_pos (by omega)] at isFront shorter
      rw [eq_nil_of_cut isFront shorter]
      rfl
  | succ groups ih =>
      by_cases one : number < 128
      · rw [writeNumber, if_pos one] at isFront shorter
        rw [eq_nil_of_cut isFront shorter]
        rfl
      · rw [writeNumber, if_neg one] at isFront shorter
        rcases List.prefix_cons_iff.mp isFront with rfl | ⟨rest, rfl, isFrontOfHigh⟩
        · rfl
        · have byte : (number % 128 + 128).toUInt8.toNat = number % 128 + 128 := by
            simp [Nat.toUInt8]; omega
          have high : number / 128 < (last + 1) * Nat.pow 128 groups := by
            refine Nat.div_lt_of_lt_mul (Nat.lt_of_lt_of_eq fits ?_)
            exact (Nat.mul_assoc _ _ 128).symm.trans (Nat.mul_comm _ 128)
          have cut := ih high isFrontOfHigh fun same => shorter (by rw [same])
          rw [readGroups, byte, if_neg (by omega), cut]

theorem spells_number {last groups number : Nat} (group : last < 128)
    (fits : number < (last + 1) * Nat.pow 128 groups) :
    Spells (readGroups last (groups + 1)) (writeNumber number) number where
  taken rest := readGroups_writeNumber rest group fits
  cut _ isFront shorter := readGroups_cut group fits isFront shorter

theorem spells_word16 (word : UInt16) : Spells readWord16 (writeWord16 word) word := by
  have fits : word.toNat < (3 + 1) * Nat.pow 128 2 := word.toNat_lt
  have number : Spells (readNumber .word16) (writeWord16 word) word.toNat :=
    spells_number (by decide) fits
  refine number.last ?_
  rw [show word.toNat.toUInt16 = word from UInt16.ofNat_toNat]

/-- Numbers of alternatives have 32 bits. -/
theorem spells_alternative {number : Nat} (small : number < 2 ^ 32) :
    Spells (readNumber .word32) (writeNumber number) number := by
  have fits : number < (15 + 1) * Nat.pow 128 4 := small
  exact spells_number (by decide) fits

theorem spells_count {count : Nat} (small : count < 2 ^ 64) :
    Spells (readNumber .word64) (writeNumber count) count := by
  have fits : count < (1 + 1) * Nat.pow 128 9 := small
  exact spells_number (by decide) fits

/-! ## Texts, optional values and lists -/

theorem spells_bytes (bytes : List UInt8) : Spells (readBytes bytes.length) bytes bytes := by
  constructor
  case taken => simp [readBytes]
  case cut =>
    intro front isFront shorter
    have fewer : front.length < bytes.length := by
      refine Nat.lt_of_le_of_ne isFront.length_le ?_
      intro same
      exact shorter (isFront.eq_of_length same)
    simp only [readBytes, List.length_take]
    rw [if_neg (by omega)]

theorem spells_text {text : String} (short : text.utf8ByteSize < 2 ^ 64) :
    Spells readText (writeText text) text := by
  let bytes := text.toByteArray.data.toList
  have length : bytes.length < 2 ^ 64 := short
  have wellFormed : String.fromUTF8? ⟨bytes.toArray⟩ = some text := dif_pos text.isValidUTF8
  refine (spells_count length).bind ?_
  refine (spells_bytes bytes).last ?_
  rw [wellFormed]

theorem spells_option {α : Type} {read : Reader α} {write : α → List UInt8} {value : Option α}
    (spells : ∀ found ∈ value, Spells read (write found) found) :
    Spells (readOption read) (writeOption write value) value := by
  cases value with
  | none =>
      constructor
      case taken =>
        intro rest
        rfl
      case cut =>
        intro front isFront shorter
        rw [eq_nil_of_cut isFront shorter]
        rfl
  | some found =>
      have inner := spells found rfl
      constructor
      case taken =>
        intro rest
        simp [readOption, writeOption, inner.taken]
      case cut =>
        intro front isFront shorter
        rcases List.prefix_cons_iff.mp isFront with rfl | ⟨rest, rfl, isFrontOfInner⟩
        · rfl
        · have cut := inner.cut rest isFrontOfInner fun same => shorter (by rw [same]; rfl)
          simp [readOption, cut]

section Lists

variable {α : Type} {read : Reader α} {write : α → List UInt8}

theorem readTimes_succ (count : Nat) (before : Array α) :
    readTimes read (count + 1) before =
      (read >>= fun value => readTimes read count (before.push value) : Reader (Array α)) := by
  funext bytes
  cases found : read bytes with
  | error defect => rw [bind_of_error found, readTimes, found]
  | ok taken => rw [bind_of_ok found, readTimes, found]

theorem spells_times {values : List α} (spells : ∀ value ∈ values, Spells read (write value) value)
    (before : Array α) :
    Spells (readTimes read values.length before) (values.flatMap write)
      (before ++ values.toArray) := by
  induction values generalizing before with
  | nil =>
      rw [Array.append_empty]
      exact .done before
  | cons value rest ih =>
      obtain ⟨first, others⟩ := List.forall_mem_cons.mp spells
      have moved : before ++ (value :: rest).toArray = before.push value ++ rest.toArray := by simp
      rw [List.length_cons, readTimes_succ, List.flatMap_cons, moved]
      exact first.bind (ih others (before.push value))

theorem spells_list {values : List α} (few : values.length < 2 ^ 64)
    (spells : ∀ value ∈ values, Spells read (write value) value) :
    Spells (readArray read) (writeList write values) values.toArray := by
  refine (spells_count few).bind ?_
  simpa using spells_times spells #[]

end Lists

end TransitionNetwork.Binary
