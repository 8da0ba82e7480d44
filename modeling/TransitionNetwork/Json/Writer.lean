import TransitionNetwork.Json.Numeral
import TransitionNetwork.Json.Quoted

/-!
# Writing JSON

Lists, objects and optional strings without blanks between their parts.
-/

set_option autoImplicit false

namespace TransitionNetwork.Json

def separated (elements : List (List Char)) : List Char :=
  [','].intercalate elements

def writeList {α : Type} (write : α → List Char) (values : List α) : List Char :=
  '[' :: (separated (values.map write) ++ [']'])

def writeObject (members : List (String × List Char)) : List Char :=
  '\x7b' :: (separated (members.map fun (key, value) => writeQuoted key ++ ':' :: value) ++ ['\x7d'])

def writeOptionalText : Option String → List Char
  | none => ['n', 'u', 'l', 'l']
  | some text => writeQuoted text

end TransitionNetwork.Json
