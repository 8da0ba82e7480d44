/-!
# JSON text

Readers take a value off the front of a list of characters and return the characters that follow,
or say what is wrong with them. The text is read from left to right for a value of an expected
shape, and the first defect counts; so a text can be of the wrong shape before it is malformed.
-/

set_option autoImplicit false

namespace TransitionNetwork.Json

inductive Defect where
  | truncated
  | malformed
  /-- The text is JSON, but not of the expected shape. -/
  | mismatched
  deriving DecidableEq, Repr

abbrev Reader (α : Type) := StateT (List Char) (Except Defect) α

/-- Space, line feed, tabulator and carriage return may stand between the parts of a text. -/
def isBlank (c : Char) : Bool :=
  c == ' ' || c == '\n' || c == '\t' || c == '\r'

/-- The text from its first character that is not blank. -/
def skipBlanks (text : List Char) : List Char :=
  text.dropWhile isBlank

/-- The text after the characters that have to come next. -/
def expect : List Char → List Char → Except Defect (List Char)
  | [], text => .ok text
  | _ :: _, [] => .error .truncated
  | c :: word, d :: text => if c = d then expect word text else .error .malformed

def readColon : Reader Unit := fun text =>
  match skipBlanks text with
  | [] => .error .truncated
  | ':' :: rest => .ok ((), rest)
  | _ => .error .malformed

/-- A value that has to be the whole text, blanks apart. -/
def readWhole {α : Type} (read : Reader α) (text : List Char) : Except Defect α :=
  match read text with
  | .error defect => .error defect
  | .ok (value, rest) =>
      match skipBlanks rest with
      | [] => .ok value
      | _ => .error .malformed

end TransitionNetwork.Json
