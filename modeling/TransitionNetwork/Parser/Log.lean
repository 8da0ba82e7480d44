import TransitionNetwork.Grammar.Basic
import TransitionNetwork.Palette
import TransitionNetwork.Parser.Event

/-!
# Logs

Events as lines for a reader. Shifts, pushes and pops are indented by the number of nonterminals
around the one they happen in.
-/

set_option autoImplicit false

namespace TransitionNetwork

inductive Verbosity where
  /-- Shifts, pushes, pops, acceptance and errors; tokens by kind only. -/
  | normal
  /-- Classifications and the texts of tokens as well. -/
  | verbose
  /-- The states that shifts and pushes lead to as well. -/
  | veryVerbose
  deriving DecidableEq, Repr

/-- A log of the events of a parser: how it writes, and the lines so far. -/
structure Log where
  verbosity : Verbosity
  palette : Palette
  lines : Array String
  deriving DecidableEq, Repr

namespace Log

def new (verbosity : Verbosity) (palette : Palette) : Log :=
  { verbosity, palette, lines := #[] }

/-- Two spaces for each nonterminal around the innermost one. -/
def indent (depth : Nat) : String :=
  "".pushn ' ' (2 * (depth - 1))

def tokenText (log : Log) (token : Token) : String :=
  let kind := log.palette.detail token.kind.canonicalName
  match log.verbosity with
  | .normal => kind
  | .verbose | .veryVerbose => kind ++ " " ++ log.palette.text token.text

def detail (log : Log) (text : String) : String :=
  match log.verbosity with
  | .veryVerbose => text
  | .normal | .verbose => ""

def line? (log : Log) (grammar : Grammar) : Event → Option String
  | .classify token label =>
      match log.verbosity with
      | .normal => none
      | .verbose | .veryVerbose =>
          some ("classify " ++ log.tokenText token ++ " -> " ++
            log.palette.detail ("label " ++ toString label.toNat))
  | .shift token target depth =>
      some (indent depth ++ "shift " ++ log.tokenText token ++
        log.detail (" -> " ++ toString target.toNat))
  | .push nonterminal next depth =>
      some (indent depth ++ "push " ++ log.palette.symbol (grammar.nameOf nonterminal) ++
        log.detail (" (then " ++ toString next.toNat ++ ")"))
  | .pop nonterminal reason depth =>
      some (indent depth ++ "pop " ++ log.palette.symbol (grammar.nameOf nonterminal) ++ " " ++
        log.palette.detail ("(" ++ reason.word ++ ")"))
  | .accept => some "accept"
  | .error cause => some ("error: " ++ cause.message)

def newLines (log : Log) (grammar : Grammar) (events : List Event) : List String :=
  events.filterMap (log.line? grammar)

def record (log : Log) (grammar : Grammar) (events : List Event) : Log :=
  { log with lines := log.lines ++ log.newLines grammar events }

def output (log : Log) : String :=
  String.join (log.lines.toList.map (· ++ "\n"))

end Log

end TransitionNetwork
