import TransitionNetwork.Json.Basic

/-!
# JSON strings

Reading and writing of quoted text. A reader may check escapes for surrogates or, where the text is
only skipped, leave them alone; characters beyond the basic plane are written by an escaped pair of
surrogates, and a surrogate without its partner stands for no character.
-/

set_option autoImplicit false

namespace TransitionNetwork.Json

/-- The value of a hexadecimal digit in either case. -/
def hexValue? (c : Char) : Option Nat :=
  if '0' ≤ c ∧ c ≤ '9' then some (c.toNat - '0'.toNat)
  else if 'a' ≤ c ∧ c ≤ 'f' then some (c.toNat - 'a'.toNat + 10)
  else if 'A' ≤ c ∧ c ≤ 'F' then some (c.toNat - 'A'.toNat + 10)
  else none

/-- The number that the next four characters are the hexadecimal digits of. A text of fewer than
four bytes is truncated, whatever its characters are. -/
def readHex (text : List Char) : Except Defect Nat :=
  match text with
  | a :: b :: c :: d :: _ =>
      match hexValue? a, hexValue? b, hexValue? c, hexValue? d with
      | some a, some b, some c, some d => .ok (((a * 16 + b) * 16 + c) * 16 + d)
      | _, _, _, _ => .error .malformed
  | _ => .error (if (String.ofList text).utf8ByteSize < 4 then .truncated else .malformed)

/-- Whether a number is the first half of a pair of surrogates. -/
def isLeading (code : Nat) : Bool := 0xD800 ≤ code && code ≤ 0xDBFF

/-- Whether a number is the second half of a pair of surrogates. -/
def isTrailing (code : Nat) : Bool := 0xDC00 ≤ code && code ≤ 0xDFFF

/-- The second half of a pair of surrogates, which has to follow the first. -/
def readTrailing (text : List Char) : Except Defect Nat :=
  match text with
  | '\\' :: 'u' :: rest =>
      match readHex rest with
      | .error defect => .error defect
      | .ok code => if isTrailing code then .ok code else .error .malformed
  | [] | ['\\'] => .error .truncated
  | _ => .error .malformed

/-- The character that an escape by code stands for, and the number of characters of the escape
after its backslash. The text begins after `\u`. -/
def readCode (text : List Char) : Except Defect (Char × Nat) :=
  match readHex text with
  | .error defect => .error defect
  | .ok code =>
      if isTrailing code then .error .malformed
      else if isLeading code then
        match readTrailing (text.drop 4) with
        | .error defect => .error defect
        | .ok low => .ok (Char.ofNat ((code - 0xD800) * 1024 + (low - 0xDC00) + 0x10000), 11)
      else .ok (Char.ofNat code, 5)

/-- The character after a backslash that is an escape by itself, and what it stands for. -/
def shortEscape? : Char → Option Char
  | '"' => some '"'
  | '\\' => some '\\'
  | '/' => some '/'
  | 'b' => some '\x08'
  | 'f' => some '\x0c'
  | 'n' => some '\n'
  | 'r' => some '\r'
  | 't' => some '\t'
  | _ => none

/-- The character that an escape stands for, and the number of characters of the escape after its
backslash, which the text begins after. -/
def readEscape (text : List Char) : Except Defect (Char × Nat) :=
  match text with
  | [] => .error .truncated
  | 'u' :: rest => readCode rest
  | c :: _ =>
      match shortEscape? c with
      | some meaning => .ok (meaning, 1)
      | none => .error .malformed

/-- Like `readEscape`, but takes an escape by code whatever the code is. The character is of no
use. -/
def skipEscape (text : List Char) : Except Defect (Char × Nat) :=
  match text with
  | 'u' :: rest =>
      match readHex rest with
      | .error defect => .error defect
      | .ok _ => .ok ('u', 5)
  | _ => readEscape text

/-- Reads up to the closing quote, after the characters in `done`, last first. The next `skip`
characters belong to an escape that has been read. -/
def scanQuoted (escape : List Char → Except Defect (Char × Nat)) :
    List Char → Nat → List Char → Except Defect (List Char × List Char)
  | [], _, _ => .error .truncated
  | _ :: text, skip + 1, done => scanQuoted escape text skip done
  | c :: text, 0, done =>
      if c = '"' then .ok (done.reverse, text)
      else if c = '\\' then
        match escape text with
        | .error defect => .error defect
        | .ok (meaning, length) => scanQuoted escape text length (meaning :: done)
      else if c.toNat < 0x20 then .error .malformed
      else scanQuoted escape text 0 (c :: done)

def readQuoted : Reader String := fun text =>
  match scanQuoted readEscape text 0 [] with
  | .ok (chars, rest) => .ok (String.ofList chars, rest)
  | .error defect => .error defect

def skipQuoted (text : List Char) : Except Defect (List Char) :=
  match scanQuoted skipEscape text 0 [] with
  | .ok (_, rest) => .ok rest
  | .error defect => .error defect

/-! ## Writing -/

def hexDigit (value : Nat) : Char :=
  Nat.digitChar value

/-- A character as it stands inside quoted text: quote, backslash and control characters are
escaped. -/
def writeChar (c : Char) : List Char :=
  match c with
  | '"' => ['\\', '"']
  | '\\' => ['\\', '\\']
  | '\x08' => ['\\', 'b']
  | '\x0c' => ['\\', 'f']
  | '\n' => ['\\', 'n']
  | '\r' => ['\\', 'r']
  | '\t' => ['\\', 't']
  | c =>
      if c.toNat < 0x20 then
        ['\\', 'u', '0', '0', hexDigit (c.toNat / 16), hexDigit (c.toNat % 16)]
      else [c]

def writeQuoted (text : String) : List Char :=
  '"' :: (text.toList.flatMap writeChar ++ ['"'])

end TransitionNetwork.Json
