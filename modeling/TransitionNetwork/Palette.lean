import TransitionNetwork.Text.Quoted

/-!
# Palettes

Terminal colours for renderings, listings and logs: nonterminal names are blue, token texts green,
and kinds, state numbers and labels dim. The plain palette adds nothing.
-/

set_option autoImplicit false

namespace TransitionNetwork

inductive Palette where
  | plain
  /-- The escape sequences of a terminal with sixteen colours. -/
  | ansi
  deriving DecidableEq, Repr

namespace Palette

instance : Inhabited Palette := ⟨.plain⟩

/-- The coloured palette if asked for, else the plain one. -/
def ofEnabled (enabled : Bool) : Palette :=
  if enabled then .ansi else .plain

def isEnabled : Palette → Bool
  | .plain => false
  | .ansi => true

/-- Text between a colour's escape sequence and the one that returns to the default. -/
def paint (palette : Palette) (code text : String) : String :=
  match palette with
  | .plain => text
  | .ansi => code ++ text ++ "\x1b[0m"

def symbol (palette : Palette) (name : String) : String :=
  palette.paint "\x1b[34m" name

def text (palette : Palette) (text : String) : String :=
  palette.paint "\x1b[32m" (Text.quote text)

def detail (palette : Palette) (detail : String) : String :=
  palette.paint "\x1b[2m" detail

@[simp] theorem paint_plain (code text : String) : Palette.plain.paint code text = text := rfl

end Palette

end TransitionNetwork
