import TransitionNetwork.Text.ExtendingMark
import TransitionNetwork.Text.Unprintable

/-!
# Quoted text

Text between double quotes as listings, messages and renderings show it. Six characters have a
short escape; any other character that is unprintable, or that would join its neighbour, is written
by its code point in hexadecimal. Everything else stands for itself, the single quote included.
-/

set_option autoImplicit false

namespace TransitionNetwork.Text

/-- Whether a character without a short escape is written by its code point. -/
def needsCodePoint (c : Char) : Bool :=
  extendingMarks.contains c.toNat || unprintable.contains c.toNat

/-- A character by its code point, in lower-case hexadecimal without padding. -/
def codePointEscape (c : Char) : List Char :=
  '\\' :: 'u' :: '\x7b' :: (Nat.toDigits 16 c.toNat ++ ['\x7d'])

def escape (c : Char) : List Char :=
  match c with
  | '\x00' => ['\\', '0']
  | '\t' => ['\\', 't']
  | '\r' => ['\\', 'r']
  | '\n' => ['\\', 'n']
  | '\\' => ['\\', '\\']
  | '"' => ['\\', '"']
  | c => if needsCodePoint c then codePointEscape c else [c]

/-- The characters of a quoted text, both quotes included. -/
def quoteChars (chars : List Char) : List Char :=
  '"' :: (chars.flatMap escape ++ ['"'])

def quote (text : String) : String :=
  String.ofList (quoteChars text.toList)

theorem toList_quote (text : String) : (quote text).toList = quoteChars text.toList := by
  simp [quote]

end TransitionNetwork.Text
