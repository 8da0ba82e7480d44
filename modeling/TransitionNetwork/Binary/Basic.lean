/-!
# Binary data

Readers and writers for the pieces of a compact binary form. A reader takes a value off the front of
a list of bytes and returns the bytes that follow, or says what is wrong with them.

Numbers are written in groups of seven bits, lowest group first, with the top bit of a byte telling
that another group follows. A reader bounds the number of groups and the last of them, so that the
value fits its width; groups that add nothing are accepted. A reader that is wide enough takes back
every number that is written.
-/

set_option autoImplicit false

namespace TransitionNetwork.Binary

inductive Defect where
  | truncated
  /-- A number has too many groups, or too large a last one. -/
  | oversized
  | illFormedText
  /-- The mark of an optional value is neither 0 nor 1. -/
  | badOptionMark
  /-- The number of an alternative is not one of the known ones. -/
  | unknownAlternative
  deriving DecidableEq, Repr

def Defect.message : Defect → String
  | .truncated => "Hit the end of buffer, expected more data"
  | .oversized => "Found a varint that didn't terminate. Is the usize too big for this platform?"
  | .illFormedText => "Tried to parse invalid utf-8"
  | .badOptionMark => "Found an Option discriminant that wasn't 0 or 1"
  | .unknownAlternative => "Serde Deserialization Error"

abbrev Reader (α : Type) := StateT (List UInt8) (Except Defect) α

/-! ## Numbers -/

/-- How many groups a number may have, and how large the last of them may be. -/
structure Width where
  groups : Nat
  last : Nat

def Width.word16 : Width := ⟨3, 3⟩

def Width.word32 : Width := ⟨5, 15⟩

def Width.word64 : Width := ⟨10, 1⟩

/-- Reads a number of at most `groups` groups, of which the last possible one is at most `last`. -/
def readGroups (last : Nat) : Nat → List UInt8 → Except Defect (Nat × List UInt8)
  | 0, _ => .error .oversized
  | _ + 1, [] => .error .truncated
  | groups + 1, byte :: rest =>
      if byte.toNat < 128 then
        if groups = 0 ∧ last < byte.toNat then .error .oversized
        else .ok (byte.toNat, rest)
      else
        match readGroups last groups rest with
        | .ok (high, rest) => .ok (byte.toNat - 128 + 128 * high, rest)
        | .error defect => .error defect

def readNumber (width : Width) : Reader Nat :=
  readGroups width.last width.groups

def readWord16 : Reader UInt16 := do
  let number ← readNumber .word16
  return number.toUInt16

def writeNumber (number : Nat) : List UInt8 :=
  if number < 128 then [number.toUInt8]
  else (number % 128 + 128).toUInt8 :: writeNumber (number / 128)

def writeWord16 (word : UInt16) : List UInt8 :=
  writeNumber word.toNat

/-- A written number is read back, and what follows it is left, by a reader that admits as many
groups as the number has. -/
theorem readGroups_writeNumber {last groups number : Nat} (rest : List UInt8)
    (group : last < 128) (fits : number < (last + 1) * Nat.pow 128 groups) :
    readGroups last (groups + 1) (writeNumber number ++ rest) = .ok (number, rest) := by
  induction groups generalizing number with
  | zero =>
      rw [Nat.pow, Nat.mul_one] at fits
      have byte : number.toUInt8.toNat = number := by simp [Nat.toUInt8]; omega
      rw [writeNumber, if_pos (by omega)]
      simp only [List.cons_append, List.nil_append, readGroups, byte]
      rw [if_pos (by omega), if_neg (by omega)]
  | succ groups ih =>
      rw [writeNumber]
      split
      case isTrue one =>
          have byte : number.toUInt8.toNat = number := by simp [Nat.toUInt8]; omega
          simp only [List.cons_append, List.nil_append, readGroups, byte]
          rw [if_pos one, if_neg (by omega)]
      case isFalse many =>
          have byte : (number % 128 + 128).toUInt8.toNat = number % 128 + 128 := by
            simp [Nat.toUInt8]; omega
          have high : number / 128 < (last + 1) * Nat.pow 128 groups := by
            refine Nat.div_lt_of_lt_mul (Nat.lt_of_lt_of_eq fits ?_)
            exact (Nat.mul_assoc _ _ 128).symm.trans (Nat.mul_comm _ 128)
          rw [List.cons_append, readGroups, byte, if_neg (by omega), ih high]
          simp only [Except.ok.injEq, Prod.mk.injEq, and_true]
          omega

/-! ## Texts, optional values and lists -/

def readBytes (count : Nat) : Reader (List UInt8) := fun bytes =>
  let front := bytes.take count
  if front.length = count then .ok (front, bytes.drop count) else .error .truncated

/-- Reads the length of a text in bytes and then the text. -/
def readText : Reader String := do
  let count ← readNumber .word64
  let bytes ← readBytes count
  match String.fromUTF8? ⟨bytes.toArray⟩ with
  | some text => return text
  | none => throw .illFormedText

def writeText (text : String) : List UInt8 :=
  let bytes := text.toByteArray.data.toList
  writeNumber bytes.length ++ bytes

def readOption {α : Type} (read : Reader α) : Reader (Option α) := fun bytes =>
  match bytes with
  | [] => .error .truncated
  | mark :: rest =>
      if mark = 0 then .ok (none, rest)
      else if mark = 1 then
        match read rest with
        | .ok (value, rest) => .ok (some value, rest)
        | .error defect => .error defect
      else .error .badOptionMark

def writeOption {α : Type} (write : α → List UInt8) : Option α → List UInt8
  | none => [0]
  | some value => 1 :: write value

/-- Reads a value a given number of times, after those already read. -/
def readTimes {α : Type} (read : Reader α) :
    Nat → Array α → List UInt8 → Except Defect (Array α × List UInt8)
  | 0, values, bytes => .ok (values, bytes)
  | count + 1, values, bytes =>
      match read bytes with
      | .ok (value, bytes) => readTimes read count (values.push value) bytes
      | .error defect => .error defect

def readArray {α : Type} (read : Reader α) : Reader (Array α) := do
  let count ← readNumber .word64
  readTimes read count #[]

def writeList {α : Type} (write : α → List UInt8) (values : List α) : List UInt8 :=
  writeNumber values.length ++ values.flatMap write

end TransitionNetwork.Binary
