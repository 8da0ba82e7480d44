import TransitionNetwork.Json.Container

/-!
# Skipped values

The value of a key that is not known is passed over. It has to be JSON, but it may be nested to any
depth, its strings may hold surrogates without partner, and its numbers may be of any size. The
lists and objects around the current place are kept in a list of their own.
-/

set_option autoImplicit false

namespace TransitionNetwork.Json

inductive Enclosure where
  | list
  | object
  deriving DecidableEq, Repr

def skipKey (text : List Char) : Except Defect (List Char) :=
  match skipBlanks text with
  | [] => .error .truncated
  | '"' :: rest => do
      let rest ← skipQuoted rest
      let (_, rest) ← readColon rest
      return rest
  | _ => .error .malformed

/-- Passes over what stands between the comma or opening and the value. -/
def skipToValue (enclosure : Enclosure) (text : List Char) : Except Defect (List Char) :=
  match enclosure with
  | .list => .ok text
  | .object => skipKey text

/-- After a value: closes the enclosures that end here. Gives the enclosures of the next value, or
none if the outermost value is complete. -/
def skipAfter : List Enclosure → List Char → Except Defect (Option (List Enclosure) × List Char)
  | [], text => .ok (none, text)
  | enclosure :: outer, text =>
      match skipBlanks text, enclosure with
      | [], _ => .error .truncated
      | ']' :: rest, .list => skipAfter outer rest
      | '\x7d' :: rest, .object => skipAfter outer rest
      | ',' :: rest, _ =>
          match skipToValue enclosure rest with
          | .ok rest => .ok (some (enclosure :: outer), rest)
          | .error defect => .error defect
      | _, _ => .error .malformed

/-- After an opening: like `skipAfter`, for an enclosure that has no value yet. -/
def skipOpened (enclosure : Enclosure) (outer : List Enclosure) (text : List Char) :
    Except Defect (Option (List Enclosure) × List Char) :=
  match skipBlanks text, enclosure with
  | [], _ => .error .truncated
  | ']' :: rest, .list => skipAfter outer rest
  | '\x7d' :: rest, .object => skipAfter outer rest
  | rest, _ =>
      match skipToValue enclosure rest with
      | .ok rest => .ok (some (enclosure :: outer), rest)
      | .error defect => .error defect

def skipScalar (text : List Char) : Except Defect (List Char) :=
  match text with
  | [] => .error .truncated
  | 'n' :: rest => expect ['u', 'l', 'l'] rest
  | 't' :: rest => expect ['r', 'u', 'e'] rest
  | 'f' :: rest => expect ['a', 'l', 's', 'e'] rest
  | '"' :: rest => skipQuoted rest
  | c :: _ => if c = '-' ∨ c.isDigit then skipNumeral text else .error .malformed

/-- Passes over the beginning of a value: all of a scalar, the opening of a list or an object. -/
def skipBegin (outer : List Enclosure) (text : List Char) :
    Except Defect (Option (List Enclosure) × List Char) :=
  match skipBlanks text with
  | '[' :: rest => skipOpened .list outer rest
  | '\x7b' :: rest => skipOpened .object outer rest
  | other =>
      match skipScalar other with
      | .ok rest => skipAfter outer rest
      | .error defect => .error defect

/-- Passes over a value and the rest of its enclosures. -/
def skipFrom : Nat → List Enclosure → List Char → Except Defect (List Char)
  | 0, _, _ => .error .truncated
  | limit + 1, outer, text =>
      match skipBegin outer text with
      | .error defect => .error defect
      | .ok (none, rest) => .ok rest
      | .ok (some outer, rest) => skipFrom limit outer rest

def skipMember (limit : Nat) : Reader Unit := do
  readColon
  fun text =>
    match skipFrom limit [] text with
    | .ok rest => .ok ((), rest)
    | .error defect => .error defect

end TransitionNetwork.Json
