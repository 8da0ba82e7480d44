import TransitionNetwork.Parser.Whole
import TransitionNetwork.Proofs.Parser.LifeCycle
import TransitionNetwork.Proofs.Parser.Subparses

/-!
# Whole inputs

To parse a list of tokens is to feed those before the first end marker, each at its column, and to
finish. So the leaves of the tree are these tokens at these columns. Every nonterminal below the
root stands where its first leaf stands, and this is so at any time between two tokens, also of the
nonterminals that are still open.
-/

set_option autoImplicit false

namespace TransitionNetwork

namespace Parser

open Grammar Shape

/-! ## Columns -/

/-- The tokens before the first end marker. -/
def beforeEnd (tokens : List Token) : List Token :=
  tokens.takeWhile fun token => !token.kind.isEndMarker

/-- The number of tokens after the last `NEWLINE`. -/
def sinceNewline (tokens : List Token) : Nat :=
  (tokens.reverse.takeWhile fun token => token.kind ≠ .newline).length

/-- Tokens with their columns, from the column of the first. -/
def withColumns (col : Nat) : List Token → List (Token × Nat)
  | [] => []
  | token :: rest => (token, col) :: withColumns (nextCol col token) rest

theorem map_fst_withColumns (col : Nat) (tokens : List Token) :
    (withColumns col tokens).map Prod.fst = tokens := by
  induction tokens generalizing col with
  | nil => rfl
  | cons token rest ih => rw [withColumns, List.map_cons, ih]

theorem sinceNewline_concat (before : List Token) (token : Token) :
    sinceNewline (before ++ [token]) = nextCol (sinceNewline before) token := by
  by_cases newline : token.kind = .newline <;> simp [sinceNewline, nextCol, newline]

theorem col_of_withColumns {before tokens : List Token} {position col : Nat} {token : Token}
    (found : (withColumns (sinceNewline before) tokens)[position]? = some (token, col)) :
    col = sinceNewline (before ++ tokens.take position) := by
  induction tokens generalizing before position with
  | nil => cases found
  | cons first rest ih =>
      cases position with
      | zero =>
          cases found
          simp
      | succ position =>
          rw [withColumns, ← sinceNewline_concat] at found
          rw [ih found, List.append_assoc]
          rfl

theorem take_beforeEnd {tokens : List Token} {position : Nat}
    (inside : position < (beforeEnd tokens).length) :
    (beforeEnd tokens).take position = tokens.take position := by
  have cut : beforeEnd tokens = tokens.take (beforeEnd tokens).length :=
    List.prefix_iff_eq_take.mp (List.takeWhile_prefix _)
  rw [cut, List.take_take, Nat.min_eq_left (by omega)]

/-! ## Feeding a whole input -/

/-- Feeds tokens at columns and finishes. -/
def feedToEnd (parser : Parser) : List (Token × Nat) → Outcome Tree
  | [] => parser.finish
  | (token, col) :: rest =>
      match parser.feed token col with
      | (next, ⟨events, .ok ()⟩) =>
          ⟨events ++ (next.feedToEnd rest).events, (next.feedToEnd rest).result⟩
      | (_, ⟨events, .error failure⟩) => ⟨events, .error failure⟩

theorem feedAll_eq (parser : Parser) (col : Nat) (tokens : List Token) (trail : Array Event) :
    parser.feedAll col tokens trail =
      ⟨trail.toList ++ (parser.feedToEnd (withColumns col (beforeEnd tokens))).events,
        (parser.feedToEnd (withColumns col (beforeEnd tokens))).result⟩ := by
  induction tokens generalizing parser col trail with
  | nil => simp [feedAll, beforeEnd, withColumns, feedToEnd]
  | cons token rest ih =>
      cases marker : token.kind.isEndMarker with
      | true => simp [feedAll, beforeEnd, marker, withColumns, feedToEnd]
      | false =>
          have before : beforeEnd (token :: rest) = token :: beforeEnd rest := by
            simp [beforeEnd, marker]
          simp only [before, feedAll, marker, withColumns, feedToEnd]
          rcases parser.feed token col with ⟨next, events, failure | taken⟩
          · simp
          · simp [ih]

theorem parse_eq {network : Network} {parser : Parser} (made : Parser.new network {} = .ok parser)
    (tokens : List Token) :
    network.parse tokens = parser.feedToEnd (withColumns 0 (beforeEnd tokens)) := by
  simp [Network.parse, made, feedAll_eq]

theorem result_feedToEnd (parser : Parser) (input : List (Token × Nat)) :
    (parser.feedToEnd input).result = parser.treeOf input := by
  induction input generalizing parser with
  | nil => rfl
  | cons first rest ih =>
      obtain ⟨token, col⟩ := first
      simp only [feedToEnd, treeOf, feedEach]
      rcases parser.feed token col with ⟨next, events, failure | taken⟩
      · rfl
      · exact ih next

theorem parse_beforeEnd (network : Network) (tokens : List Token) :
    network.parse tokens = network.parse (beforeEnd tokens) := by
  cases made : Parser.new network {} with
  | error cause => simp [Network.parse, made]
  | ok parser =>
      have again : beforeEnd (beforeEnd tokens) = beforeEnd tokens := by
        simp [beforeEnd, List.takeWhile_takeWhile]
      rw [parse_eq made, parse_eq made, again]

theorem leaves_of_parse {network : Network} {tokens : List Token} {tree : Tree}
    (parsed : (network.parse tokens).result = .ok tree) :
    ∃ shape, tree.shape? = some shape ∧ shape.leaves = withColumns 0 (beforeEnd tokens) := by
  cases made : Parser.new network {} with
  | error cause => simp [Network.parse, made] at parsed
  | ok parser =>
      obtain ⟨grammar, symbol, automaton, rfl, _, found, rfl⟩ := exists_start_of_new made
      rw [parse_eq made, result_feedToEnd] at parsed
      obtain ⟨final, feeds, _, rfl⟩ := exists_feeds_of_treeOf (sound_start found) parsed
      refine ⟨final.shape, final.shape?_tree, ?_⟩
      rw [final.leaves_shape, feeds.leaves]
      rfl

/-! ## Positions between two tokens -/

section Histories

variable {grammar : AcceleratedGrammar} {maxDepth : Option Nat} {root : NonterminalId}

/-- Where a parser runs, it stands on a placed spine if it did before. -/
theorem placed_of_afterFeeds {spine : Spine} (sound : Sound grammar.grammar root spine)
    (placed : PlacedSpine spine) {input : List (Token × Nat)}
    (running : ((spine.parser grammar maxDepth).afterFeeds input).poisoned = false) :
    ∃ final : Spine, PlacedSpine final ∧
      (spine.parser grammar maxDepth).afterFeeds input = final.parser grammar maxDepth := by
  induction input generalizing spine with
  | nil => exact ⟨spine, placed, rfl⟩
  | cons first rest ih =>
      obtain ⟨token, col⟩ := first
      cases spine with
      | closed shape => exact ⟨_, placed, afterFeeds_of_idle rfl _⟩
      | opened top outer =>
          rcases feed_cases sound maxDepth token col with
            ⟨events, next, fed, stepped⟩ | ⟨events, next, failure, fed, stepped⟩
          · rw [afterFeeds, stepped] at running ⊢
            exact ih (fed.sound sound) (fed.placed sound placed) running
          · -- A refused token stops the parser for good.
            rw [afterFeeds, stepped, afterFeeds_of_idle rfl] at running
            cases running

/-- If the open nonterminals ended now, the whole would be placed below the root. -/
theorem PlacedSpine.shape {spine : Spine} (placed : PlacedSpine spine) :
    ∃ symbol line col children, spine.shape = .interior symbol line col children ∧
      ∀ child ∈ children, Placed child := by
  cases spine with
  | closed shape =>
      cases placed with
      | closed below => exact ⟨_, _, _, _, rfl, below⟩
  | opened top outer =>
      induction outer generalizing top with
      | nil =>
          cases placed with
          | opened anchored => exact ⟨_, _, _, _, rfl, anchored.1⟩
      | cons next outer ih =>
          rw [← Spine.shape_close]
          exact ih _ placed.close

theorem PlacedSpine.node {spine : Spine} (placed : PlacedSpine spine) {id : NodeId}
    {symbol : NonterminalId} {children : Array NodeId} {line col : Nat} (inside : id ≠ Tree.root)
    (found : spine.tree.nodes[id]? = some (.interior symbol children line col)) :
    ∃ below token following,
      spine.tree.shapeAt? spine.tree.size id = some (.interior symbol line col below) ∧
      leavesOf below = (token, col) :: following ∧ token.line = line := by
  obtain ⟨_, _, _, _, whole, placedBelow⟩ := placed.shape
  rw [spine.tree_eq_layout] at found ⊢
  obtain ⟨inner, isBelow, shaped⟩ := Tree.exists_below_of_node found inside
  obtain ⟨below, rfl⟩ := Tree.exists_children_of_shapeAt? shaped found
  rw [whole] at isBelow
  cases Placed.of_below placedBelow isBelow with
  | interior begins _ =>
      rw [position?, Option.map_eq_some_iff] at begins
      obtain ⟨⟨token, tokenCol⟩, first, same⟩ := begins
      cases same
      obtain ⟨following, split⟩ := List.head?_eq_some_iff.mp first
      exact ⟨below, token, following, by simpa [Tree.size] using shaped, split, rfl⟩

end Histories

/-! ## Main statement -/

/-- Positions come from the tokens. Whenever a parser is running or complete, every interior node
but the root has a leaf below it and stands at the line and the column of the first one. When a list
of tokens is parsed, only those before the first end marker matter; if there is a tree, they are
its leaves, each at the column that counts the tokens since the last `NEWLINE` before it. -/
theorem positions_of_tokens (network : Network) :
    (∀ options parser input, Parser.new network options = .ok parser →
      (parser.afterFeeds input).poisoned = false →
      ∀ id symbol children line col, id ≠ Tree.root →
        (parser.afterFeeds input).tree.nodes[id]? = some (.interior symbol children line col) →
        ∃ below token following,
          (parser.afterFeeds input).tree.shapeAt? (parser.afterFeeds input).tree.size id =
            some (.interior symbol line col below) ∧
          leavesOf below = (token, col) :: following ∧ token.line = line) ∧
    ∀ tokens, network.parse tokens = network.parse (beforeEnd tokens) ∧
      ∀ tree, (network.parse tokens).result = .ok tree →
        ∃ shape, tree.shape? = some shape ∧ shape.leaves.map Prod.fst = beforeEnd tokens ∧
          ∀ position token col, shape.leaves[position]? = some (token, col) →
            col = sinceNewline (tokens.take position) := by
  refine ⟨?_, ?_⟩
  · intro options parser input made running id symbol children line col inside found
    obtain ⟨grammar, start, automaton, rfl, _, startFound, rfl⟩ := exists_start_of_new made
    obtain ⟨final, placed, stands⟩ :=
      placed_of_afterFeeds (sound_start startFound) (placedSpine_start start automaton) running
    rw [stands] at found ⊢
    exact placed.node inside found
  · intro tokens
    refine ⟨parse_beforeEnd network tokens, ?_⟩
    intro tree parsed
    obtain ⟨shape, shaped, leaves⟩ := leaves_of_parse parsed
    refine ⟨shape, shaped, by rw [leaves, map_fst_withColumns], ?_⟩
    intro position token col found
    rw [leaves] at found
    have inside : position < (beforeEnd tokens).length := by
      obtain ⟨small, _⟩ := List.getElem?_eq_some_iff.mp found
      rw [← map_fst_withColumns 0 (beforeEnd tokens), List.length_map]
      exact small
    rw [← take_beforeEnd inside]
    exact @col_of_withColumns [] _ _ _ _ found

/-- Lines of names, each with its `NEWLINE`. -/
def nameLines : Grammar where
  automata := #[
    { id := ⟨256⟩, name := "text", initial := 0, states := #[⟨[⟨3, 1⟩]⟩, ⟨[⟨3, 1⟩, ⟨0, 1⟩]⟩] },
    { id := ⟨257⟩, name := "line", initial := 0,
      states := #[⟨[⟨1, 0⟩, ⟨2, 1⟩]⟩, ⟨[⟨0, 1⟩]⟩] }]
  labels := #[.empty, .token .name, .token .newline, .nonterminal ⟨257⟩]
  start := ⟨256⟩

def lineGrammar : AcceleratedGrammar where
  grammar := nameLines
  tables := nameLines.compile.toOption.getD #[]
  compiled := by cbv

def lineTokens : List Token :=
  [⟨.name, "a", 1⟩, ⟨.newline, "\n", 1⟩, ⟨.name, "b", 2⟩, ⟨.name, "c", 2⟩, ⟨.newline, "\n", 2⟩,
    ⟨.endMarker, "", 3⟩, ⟨.name, "d", 3⟩]

def lineParser : Parser where
  grammar := lineGrammar
  frames := [⟨⟨256⟩, 0, Tree.root⟩]
  tree := Tree.single ⟨256⟩ 0 0
  maxDepth := none
  poisoned := false

/-- After three tokens the second line is open and stands at its first name. In the end the name
that comes next is in column 1. -/
theorem positions_of_tokens_lines :
    Parser.new (.accelerated lineGrammar) {} = .ok lineParser ∧
      (lineParser.afterFeeds (withColumns 0 (lineTokens.take 3))).poisoned = false ∧
      (lineParser.afterFeeds (withColumns 0 (lineTokens.take 3))).tree.nodes[4]? =
        some (.interior ⟨257⟩ #[5] 2 0) ∧
      (∃ below token following,
        (lineParser.afterFeeds (withColumns 0 (lineTokens.take 3))).tree.shapeAt? 6 4 =
          some (.interior ⟨257⟩ 2 0 below) ∧
        leavesOf below = (token, 0) :: following ∧ token.line = 2) ∧
      ∃ tree shape, ((Network.accelerated lineGrammar).parse lineTokens).result = .ok tree ∧
        tree.shape? = some shape ∧ shape.leaves.map Prod.fst = lineTokens.take 5 ∧
        shape.leaves[3]? = some (⟨.name, "c", 2⟩, 1) := by
  obtain ⟨nodes, leaves⟩ := positions_of_tokens (.accelerated lineGrammar)
  have made : Parser.new (.accelerated lineGrammar) {} = .ok lineParser := rfl
  have running : (lineParser.afterFeeds (withColumns 0 (lineTokens.take 3))).poisoned = false := by
    cbv
  have found : (lineParser.afterFeeds (withColumns 0 (lineTokens.take 3))).tree.nodes[4]? =
      some (.interior ⟨257⟩ #[5] 2 0) := by cbv
  have size : (lineParser.afterFeeds (withColumns 0 (lineTokens.take 3))).tree.size = 6 := by cbv
  have second := nodes {} lineParser _ made running 4 ⟨257⟩ #[5] 2 0 (by decide) found
  rw [size] at second
  refine ⟨made, running, found, second, ?_⟩
  obtain ⟨tree, parsed⟩ :
      ∃ tree, ((Network.accelerated lineGrammar).parse lineTokens).result = .ok tree := ⟨_, by cbv⟩
  obtain ⟨shape, shaped, tokens, columns⟩ := (leaves lineTokens).2 tree parsed
  obtain ⟨⟨token, col⟩, fourth, same⟩ :
      ∃ leaf, shape.leaves[3]? = some leaf ∧ leaf.1 = ⟨.name, "c", 2⟩ := by
    rw [← Option.map_eq_some_iff, ← List.getElem?_map, tokens]
    rfl
  cases same
  refine ⟨tree, shape, parsed, shaped, tokens, ?_⟩
  rw [fourth, columns 3 _ col fourth]
  rfl

end Parser

end TransitionNetwork
