import TransitionNetwork.Parser.Basic
import TransitionNetwork.Tree.Walk

/-!
# Parsing a whole input

A list of tokens is fed up to the first end marker, which is not fed, and then the parser finishes.
The column of a token is its position in its line, where a line ends with a `NEWLINE` token.
-/

set_option autoImplicit false

namespace TransitionNetwork

namespace Parser

def nextCol (col : Nat) (token : Token) : Nat :=
  if token.kind = .newline then 0 else col + 1

/-- Feeds the tokens before the first end marker and finishes. `trail` holds the events so far. -/
def feedAll (parser : Parser) (col : Nat) (tokens : List Token) (trail : Array Event) :
    Outcome Tree :=
  match tokens with
  | [] =>
      let ⟨events, result⟩ := parser.finish
      { events := (trail ++ events).toList, result }
  | token :: rest =>
      if token.kind.isEndMarker then
        let ⟨events, result⟩ := parser.finish
        { events := (trail ++ events).toList, result }
      else
        match parser.feed token col with
        | (parser, ⟨events, .ok ()⟩) =>
            parser.feedAll (nextCol col token) rest (trail ++ events)
        | (_, ⟨events, .error failure⟩) =>
            { events := (trail ++ events).toList, result := .error failure }

end Parser

namespace Network

/-- Parses a whole list of tokens against the grammar's start symbol. -/
def parse (network : Network) (tokens : List Token) : Outcome Tree :=
  match Parser.new network {} with
  | .error cause => { events := [], result := .error (.error cause) }
  | .ok parser => parser.feedAll 0 tokens #[]

end Network

namespace Grammar

/-- The rendering of a tree with the names of a grammar. -/
def renderTree (grammar : Grammar) (tree : Tree) (palette : Palette) : Except Fault String :=
  tree.render grammar.nameOf palette

end Grammar

end TransitionNetwork
