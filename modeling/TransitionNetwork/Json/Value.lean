import TransitionNetwork.Json.Container

/-!
# Values of any shape

A value whose shape is not known before it is read. Such a value may be nested only so deep.
-/

set_option autoImplicit false

namespace TransitionNetwork.Json

/-- A value, as far as its shape and its strings are of interest. -/
inductive Value where
  | null
  | bool
  | number
  | text (content : String)
  | list (elements : List Value)
  | object (members : List (String × Value))

/-- How deep lists and objects may be nested in a text. -/
def maxNesting : Nat := 127

/-- Reads a value in which lists and objects are nested at most `nesting` deep. -/
def readValue (limit : Nat) (nesting : Nat) : Reader Value := fun text =>
  let word (expected rest : List Char) (value : Value) : Except Defect (Value × List Char) :=
    match expect expected rest with
    | .ok rest => .ok (value, rest)
    | .error defect => .error defect
  match skipBlanks text with
  | [] => .error .truncated
  | 'n' :: rest => word ['u', 'l', 'l'] rest .null
  | 't' :: rest => word ['r', 'u', 'e'] rest .bool
  | 'f' :: rest => word ['a', 'l', 's', 'e'] rest .bool
  | '"' :: rest =>
      match readQuoted rest with
      | .ok (content, rest) => .ok (.text content, rest)
      | .error defect => .error defect
  | '[' :: rest =>
      match nesting with
      | 0 => .error .malformed
      | nesting + 1 =>
          match readElements (readValue limit nesting) limit true #[] rest with
          | .ok (elements, rest) => .ok (.list elements.toList, rest)
          | .error defect => .error defect
  | '\x7b' :: rest =>
      match nesting with
      | 0 => .error .malformed
      | nesting + 1 =>
          let member (members : Array (String × Value)) (key : String) :
              Reader (Array (String × Value)) := do
            readColon
            let value ← readValue limit nesting
            return members.push (key, value)
          match readMembers member limit true #[] rest with
          | .ok (members, rest) => .ok (.object members.toList, rest)
          | .error defect => .error defect
  | c :: rest =>
      if c = '-' ∨ c.isDigit then
        match readNumeral (c :: rest) with
        | .ok (_, rest) => .ok (.number, rest)
        | .error defect => .error defect
      else .error .malformed

namespace Value

def text? : Value → Option String
  | .text content => some content
  | _ => none

def optionalText? : Value → Option (Option String)
  | .null => some none
  | .text content => some (some content)
  | _ => none

def valuesOf (members : List (String × Value)) (key : String) : List Value :=
  (members.filter fun member => member.1 == key).map Prod.snd

end Value

end TransitionNetwork.Json
