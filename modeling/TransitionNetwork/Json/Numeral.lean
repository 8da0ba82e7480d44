import TransitionNetwork.Json.Basic

/-!
# JSON numbers

A numeral is scanned by its parts: sign, whole digits, digits after the point, exponent. Only
natural numbers of 16 bits are ever used, but a numeral in a place where its value is read has to
denote a number within the range of doubles. How it is valued for that purpose: digits are taken
into a significand of 64 bits as long as they fit; of the digits that do not, those before the point
count as powers of ten and those after it not at all.
-/

set_option autoImplicit false

namespace TransitionNetwork.Json

/-- The parts of a number as written. Digits are listed first to last. -/
structure Numeral where
  negative : Bool
  whole : List Char
  fraction : Option (List Char)
  /-- Whether the exponent is negative, and its digits. -/
  exponent : Option (Bool × List Char)
  deriving DecidableEq, Repr

/-- At least one digit. `atEnd` is the defect if the text ends instead. -/
def scanDigits (atEnd : Defect) (text : List Char) : Except Defect (List Char × List Char) :=
  match text with
  | [] => .error atEnd
  | c :: _ => if c.isDigit then .ok (text.span Char.isDigit) else .error .malformed

/-- The digits before the point; a zero stands alone. -/
def scanWhole (atEnd : Defect) (text : List Char) : Except Defect (List Char × List Char) :=
  match text with
  | '0' :: rest =>
      match rest with
      | d :: _ => if d.isDigit then .error .malformed else .ok (['0'], rest)
      | [] => .ok (['0'], rest)
  | _ => scanDigits atEnd text

/-- The point and the digits after it, if there is a point. -/
def scanFraction (atEnd : Defect) (text : List Char) :
    Except Defect (Option (List Char) × List Char) :=
  match text with
  | '.' :: rest =>
      match scanDigits atEnd rest with
      | .ok (digits, rest) => .ok (some digits, rest)
      | .error defect => .error defect
  | _ => .ok (none, text)

/-- A sign, if there is one, and whether it is a minus. -/
def scanSign (text : List Char) : Bool × List Char :=
  match text with
  | '+' :: rest => (false, rest)
  | '-' :: rest => (true, rest)
  | _ => (false, text)

def scanExponent (atEnd : Defect) (text : List Char) :
    Except Defect (Option (Bool × List Char) × List Char) :=
  match text with
  | c :: rest =>
      if c = 'e' ∨ c = 'E' then
        let (negative, rest) := scanSign rest
        match scanDigits atEnd rest with
        | .ok (digits, rest) => .ok (some (negative, digits), rest)
        | .error defect => .error defect
      else .ok (none, text)
  | [] => .ok (none, text)

def scanNumeral (atEnd : Defect) (text : List Char) : Except Defect (Numeral × List Char) := do
  let (negative, text) := match text with
    | '-' :: rest => (true, rest)
    | _ => (false, text)
  let (whole, text) ← scanWhole atEnd text
  let (fraction, text) ← scanFraction atEnd text
  let (exponent, text) ← scanExponent atEnd text
  return ({ negative, whole, fraction, exponent }, text)

def digitValue (c : Char) : Nat :=
  c.toNat - '0'.toNat

def digitsValue (digits : List Char) : Nat :=
  digits.foldl (fun value c => value * 10 + digitValue c) 0

def maxSignificand : Nat := 18446744073709551615

/-- Takes digits into a significand as long as it stays within 64 bits; also gives the number of
digits taken and the number of digits left. -/
def absorb : Nat → Nat → List Char → Nat × Nat × Nat
  | significand, taken, [] => (significand, taken, 0)
  | significand, taken, c :: rest =>
      let next := significand * 10 + digitValue c
      if next ≤ maxSignificand then absorb next (taken + 1) rest
      else (significand, taken, rest.length + 1)

/-- The nearest number with at most 53 binary digits before its zeros, the even one of two. -/
def roundToDouble (n : Nat) : Nat :=
  if n < Nat.pow 2 53 then n
  else
    let unit := Nat.pow 2 (n.log2 - 52)
    let quotient := n / unit
    let remainder := n % unit
    if unit < 2 * remainder ∨ (unit = 2 * remainder ∧ quotient % 2 = 1) then (quotient + 1) * unit
    else quotient * unit

def maxPower : Nat := 308

namespace Numeral

/-- The significand and the power of ten that it is to be multiplied with. -/
def parts (numeral : Numeral) : Nat × Int :=
  let (significand, _, dropped) := absorb 0 0 numeral.whole
  let (significand, taken, _) := absorb significand 0 (numeral.fraction.getD [])
  let power : Int := match numeral.exponent with
    | none => 0
    | some (true, digits) => -(digitsValue digits : Int)
    | some (false, digits) => digitsValue digits
  (significand, (dropped : Int) - taken + power)

/-- Whether the numeral is within the range of doubles. Significand and power of ten are rounded
before they are multiplied. -/
def inRange (numeral : Numeral) : Bool :=
  match numeral.parts with
  | (0, _) => true
  | (_, .negSucc _) => true
  | (significand, .ofNat power) =>
      power ≤ maxPower &&
        roundToDouble (roundToDouble significand * roundToDouble (Nat.pow 10 power)) <
          Nat.pow 2 1024

/-- The 16-bit number that the numeral denotes, if it is written without sign, point and exponent. -/
def word16? (numeral : Numeral) : Option UInt16 :=
  if numeral.negative || numeral.fraction.isSome || numeral.exponent.isSome then none
  else
    let value := digitsValue numeral.whole
    if value < 65536 then some value.toUInt16 else none

end Numeral

def readNumeral : Reader Numeral := fun text =>
  match scanNumeral .truncated text with
  | .error defect => .error defect
  | .ok (numeral, rest) => if numeral.inRange then .ok (numeral, rest) else .error .malformed

/-- Passes over a numeral. A numeral that the text cuts short is malformed here. -/
def skipNumeral (text : List Char) : Except Defect (List Char) :=
  match scanNumeral .malformed text with
  | .ok (_, rest) => .ok rest
  | .error defect => .error defect

def writeWord16 (word : UInt16) : List Char :=
  Nat.toDigits 10 word.toNat

end TransitionNetwork.Json
