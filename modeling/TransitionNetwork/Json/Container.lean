import TransitionNetwork.Json.Numeral
import TransitionNetwork.Json.Quoted

/-!
# Lists, objects and values of an expected shape

Readers for a value of one expected shape. A value of another shape is still read as far as is
needed to know its own shape, and a defect met on the way counts for more than the wrong shape: a
word, a number and a string are read completely, a list and an object not at all.

Readers that repeat take a limit on the number of repetitions. Every repetition consumes a
character, so the length of the text is always enough.
-/

set_option autoImplicit false

namespace TransitionNetwork.Json

/-- The defect of a value that begins here and is not of the expected shape. -/
def shapeDefect (text : List Char) : Defect :=
  let afterwards {α : Type} : Except Defect α → Defect
    | .error defect => defect
    | .ok _ => .mismatched
  match text with
  | [] => .truncated
  | 'n' :: rest => afterwards (expect ['u', 'l', 'l'] rest)
  | 't' :: rest => afterwards (expect ['r', 'u', 'e'] rest)
  | 'f' :: rest => afterwards (expect ['a', 'l', 's', 'e'] rest)
  | '"' :: rest => afterwards (readQuoted rest)
  | '[' :: _ => .mismatched
  | '\x7b' :: _ => .mismatched
  | c :: _ => if c = '-' ∨ c.isDigit then afterwards (readNumeral text) else .malformed

def readText : Reader String := fun text =>
  match skipBlanks text with
  | '"' :: rest => readQuoted rest
  | other => .error (shapeDefect other)

def readOptionalText : Reader (Option String) := fun text =>
  match skipBlanks text with
  | 'n' :: rest =>
      match expect ['u', 'l', 'l'] rest with
      | .ok rest => .ok (none, rest)
      | .error defect => .error defect
  | other =>
      match readText other with
      | .ok (value, rest) => .ok (some value, rest)
      | .error defect => .error defect

def readNull : Reader Unit := fun text =>
  match skipBlanks text with
  | 'n' :: rest =>
      match expect ['u', 'l', 'l'] rest with
      | .ok rest => .ok ((), rest)
      | .error defect => .error defect
  | other => .error (shapeDefect other)

/-- Reads a natural number of 16 bits, written without sign, point and exponent. -/
def readWord16 : Reader UInt16 := fun text =>
  let text := skipBlanks text
  match readNumeral text with
  | .error _ => .error (shapeDefect text)
  | .ok (numeral, rest) =>
      match numeral.word16? with
      | some word => .ok (word, rest)
      | none => .error .mismatched

/-! ## Lists -/

def openList : Reader Unit := fun text =>
  match skipBlanks text with
  | '[' :: rest => .ok ((), rest)
  | other => .error (shapeDefect other)

/-- Whether another element follows. The comma before it is read, the closing bracket is not. -/
def hasElement (first : Bool) : Reader Bool := fun text =>
  match skipBlanks text with
  | [] => .error .truncated
  | ']' :: rest => .ok (false, ']' :: rest)
  | c :: rest =>
      if first then .ok (true, c :: rest)
      else if c = ',' then
        match skipBlanks rest with
        | [] => .error .truncated
        | ']' :: _ => .error .malformed
        | other => .ok (true, other)
      else .error .malformed

/-- Reads the next element of a list that has to have one. -/
def readElement {α : Type} (first : Bool) (read : Reader α) : Reader α := do
  if ← hasElement first then read else throw .mismatched

/-- Reads the closing bracket of a list that may have no further element. -/
def closeList : Reader Unit := fun text =>
  match skipBlanks text with
  | [] => .error .truncated
  | ']' :: rest => .ok ((), rest)
  | _ => .error .malformed

/-- Reads elements up to and including the closing bracket, after those already read. -/
def readElements {α : Type} (read : Reader α) :
    Nat → Bool → Array α → List Char → Except Defect (Array α × List Char)
  | 0, _, _, _ => .error .truncated
  | limit + 1, first, values, text =>
      match hasElement first text with
      | .error defect => .error defect
      | .ok (false, rest) => .ok (values, rest.drop 1)
      | .ok (true, rest) =>
          match read rest with
          | .error defect => .error defect
          | .ok (value, rest) => readElements read limit false (values.push value) rest

def readList {α : Type} (limit : Nat) (read : Reader α) : Reader (Array α) := do
  openList
  readElements read limit true #[]

def readPair {α β : Type} (readFirst : Reader α) (readSecond : Reader β) : Reader (α × β) := do
  openList
  let first ← readElement true readFirst
  let second ← readElement false readSecond
  closeList
  return (first, second)

/-! ## Objects -/

/-- Reads the only key of an object. What does not begin with a quote is no key, whatever its own
shape is. -/
def readKey : Reader String := fun text =>
  match skipBlanks text with
  | [] => .error .truncated
  | '"' :: rest => readQuoted rest
  | _ => .error .malformed

/-- Reads the members of an object up to and including the closing brace. `member` continues after
a key, before the colon. -/
def readMembers {σ : Type} (member : σ → String → Reader σ) :
    Nat → Bool → σ → List Char → Except Defect (σ × List Char)
  | 0, _, _, _ => .error .truncated
  | limit + 1, first, state, text =>
      let afterQuote (rest : List Char) : Except Defect (σ × List Char) :=
        match readQuoted rest with
        | .error defect => .error defect
        | .ok (key, rest) =>
            match member state key rest with
            | .error defect => .error defect
            | .ok (state, rest) => readMembers member limit false state rest
      match skipBlanks text with
      | [] => .error .truncated
      | '\x7d' :: rest => .ok (state, rest)
      | '"' :: rest => if first then afterQuote rest else .error .malformed
      | ',' :: rest =>
          if first then .error .malformed
          else
            match skipBlanks rest with
            | [] => .error .truncated
            | '"' :: rest => afterQuote rest
            | _ => .error .malformed
      | _ => .error .malformed

def readOnce {α : Type} (earlier : Option α) (read : Reader α) : Reader (Option α) := do
  if earlier.isSome then throw .mismatched
  readColon
  let value ← read
  return some value

def required {α : Type} (value : Option α) : Reader α :=
  match value with
  | some value => pure value
  | none => throw .mismatched

/-- Reads a value that is written either as a list of its fields or as an object. The two readers
begin after the opening bracket or brace. -/
def readRecord {α : Type} (asList asObject : Reader α) : Reader α := fun text =>
  match skipBlanks text with
  | '[' :: rest => asList rest
  | '\x7b' :: rest => asObject rest
  | other => .error (shapeDefect other)

/-- Reads an object; the reader begins after the opening brace. -/
def readObject {α : Type} (asObject : Reader α) : Reader α := fun text =>
  match skipBlanks text with
  | '\x7b' :: rest => asObject rest
  | other => .error (shapeDefect other)

end TransitionNetwork.Json
