import TransitionNetwork.Proofs.Text.Quoted
import TransitionNetwork.Proofs.Tree.Traversal

/-!
# Renderings determine shapes

A plain rendering shows everything about a tree but positions. Each line can be told apart from the
next and read back: its indentation gives the depth, and what follows is a nonterminal's name or a
kind and a quoted text. The depths of the lines in document order say how the nodes are nested.
-/

set_option autoImplicit false

namespace TransitionNetwork

/-! ## Names -/

/-- Names that can be told apart from each other, from indentation and from tokens. Quotes in names
do no harm: only a token has a space in its line. -/
structure Legible (nameOf : NonterminalId → String) : Prop where
  injective : Function.Injective nameOf
  nonempty : ∀ id, nameOf id ≠ ""
  unspaced : ∀ id, ' ' ∉ (nameOf id).toList
  unbroken : ∀ id, '\n' ∉ (nameOf id).toList

theorem TokenKind.canonicalName_injective : Function.Injective canonicalName := by
  intro left right same
  have found := ofCanonicalName?_canonicalName left
  rw [same, ofCanonicalName?_canonicalName] at found
  exact (Option.some.inj found).symm

theorem TokenKind.canonicalName_plain (kind : TokenKind) :
    kind.canonicalName ≠ "" ∧ ' ' ∉ kind.canonicalName.toList ∧
      '\n' ∉ kind.canonicalName.toList := by
  cases kind <;> decide

theorem NonterminalId.describe_injective : Function.Injective describe := by
  intro left right same
  have digits : Nat.toDigits 10 left.raw.toNat = Nat.toDigits 10 right.raw.toNat :=
    String.ofList_injective same
  have read (number : Nat) : Nat.ofDigitChars 10 (Nat.toDigits 10 number) 0 = number :=
    Nat.ofDigitChars_toDigits (by decide) (by decide)
  have numbers : left.raw.toNat = right.raw.toNat := by
    rw [← read left.raw.toNat, digits, read]
  cases left
  cases right
  exact congrArg _ (UInt16.toNat_inj.mp numbers)

theorem NonterminalId.isDigit_of_mem_describe {id : NonterminalId} {c : Char}
    (member : c ∈ id.describe.toList) : c.isDigit := by
  have digits : id.describe.toList = Nat.toDigits 10 id.raw.toNat := String.toList_ofList
  rw [digits] at member
  exact Nat.isDigit_of_mem_toDigits (by decide) (by decide) member

/-- Naming nonterminals by their numbers. -/
theorem legible_describe : Legible NonterminalId.describe where
  injective := NonterminalId.describe_injective
  nonempty := by
    intro id
    simp [NonterminalId.describe]
  unspaced := by
    intro id member
    exact absurd (NonterminalId.isDigit_of_mem_describe member) (by decide)
  unbroken := by
    intro id member
    exact absurd (NonterminalId.isDigit_of_mem_describe member) (by decide)

/-! ## Lines -/

/-- What a node shows of itself besides its position and its children. -/
inductive Heading where
  | symbol (id : NonterminalId)
  | token (kind : TokenKind) (text : String)

namespace Heading

variable {nameOf : NonterminalId → String}

def text (nameOf : NonterminalId → String) : Heading → List Char
  | .symbol id => (nameOf id).toList
  | .token kind text => kind.canonicalName.toList ++ ' ' :: (Text.quote text).toList

theorem text_injective (legible : Legible nameOf) : Function.Injective (text nameOf) := by
  have apart (id : NonterminalId) (kind : TokenKind) (quoted : String) :
      (nameOf id).toList ≠ kind.canonicalName.toList ++ ' ' :: (Text.quote quoted).toList := by
    intro same
    exact legible.unspaced id (by simp [same])
  have unspaced (kind : TokenKind) : ' ' ∉ kind.canonicalName.toList :=
    (TokenKind.canonicalName_plain kind).2.1
  intro left right same
  cases left with
  | symbol leftId =>
      cases right with
      | symbol rightId => rw [legible.injective (String.toList_inj.mp same)]
      | token kind quoted => exact absurd same (apart leftId kind quoted)
  | token leftKind leftText =>
      cases right with
      | symbol rightId => exact absurd same.symm (apart rightId leftKind leftText)
      | token rightKind rightText =>
          obtain ⟨kinds, texts⟩ := eq_of_marked (unspaced leftKind) (unspaced rightKind) same
          rw [TokenKind.canonicalName_injective (String.toList_inj.mp kinds),
            Text.quote_injective (String.toList_inj.mp texts)]

theorem lineEnd_not_mem_text (legible : Legible nameOf) (heading : Heading) :
    '\n' ∉ heading.text nameOf := by
  cases heading with
  | symbol id => exact legible.unbroken id
  | token kind quoted => simp [text, TokenKind.canonicalName_plain kind, Text.lineEnd_not_mem_quote]

/-- A heading is not empty and does not begin with a space. -/
theorem exists_first_of_text (legible : Legible nameOf) (heading : Heading) :
    ∃ first others, heading.text nameOf = first :: others ∧ first ≠ ' ' := by
  cases heading with
  | symbol id =>
      obtain ⟨first, others, chars⟩ := List.exists_cons_of_ne_nil
        (fun none => legible.nonempty id (String.toList_eq_nil_iff.mp none))
      refine ⟨first, others, chars, ?_⟩
      intro same
      exact legible.unspaced id (by simp [chars, same])
  | token kind quoted =>
      obtain ⟨named, unspaced, _⟩ := TokenKind.canonicalName_plain kind
      obtain ⟨first, others, chars⟩ := List.exists_cons_of_ne_nil
        (fun none => named (String.toList_eq_nil_iff.mp none))
      refine ⟨first, others ++ ' ' :: (Text.quote quoted).toList, ?_, ?_⟩
      · rw [text, chars, List.cons_append]
      · intro same
        exact unspaced (by simp [chars, same])

/-- The characters of a line before its end: the indentation for a depth, then the heading. -/
def line (nameOf : NonterminalId → String) (entry : Nat × Heading) : List Char :=
  List.replicate (2 * entry.1) ' ' ++ entry.2.text nameOf

theorem eq_of_indented {left right : Nat} {leftFirst rightFirst : Char} {leftRest rightRest : List Char}
    (leftPlain : leftFirst ≠ ' ') (rightPlain : rightFirst ≠ ' ')
    (same : List.replicate left ' ' ++ leftFirst :: leftRest =
      List.replicate right ' ' ++ rightFirst :: rightRest) :
    left = right ∧ leftFirst :: leftRest = rightFirst :: rightRest := by
  induction left generalizing right with
  | zero =>
      cases right with
      | zero => exact ⟨rfl, same⟩
      | succ right => exact absurd (List.cons.inj same).1 leftPlain
  | succ left ih =>
      cases right with
      | zero => exact absurd (List.cons.inj same).1.symm rightPlain
      | succ right =>
          obtain ⟨depths, rest⟩ := ih (List.cons.inj same).2
          exact ⟨congrArg _ depths, rest⟩

theorem line_injective (legible : Legible nameOf) : Function.Injective (line nameOf) := by
  rintro ⟨leftDepth, left⟩ ⟨rightDepth, right⟩ same
  obtain ⟨leftFirst, leftRest, leftText, leftPlain⟩ := exists_first_of_text legible left
  obtain ⟨rightFirst, rightRest, rightText, rightPlain⟩ := exists_first_of_text legible right
  simp only [line, leftText, rightText] at same
  obtain ⟨depths, texts⟩ := eq_of_indented leftPlain rightPlain same
  rw [← leftText, ← rightText] at texts
  rw [text_injective legible texts, Nat.eq_of_mul_eq_mul_left (by decide) depths]

theorem lineEnd_not_mem_line (legible : Legible nameOf) (entry : Nat × Heading) :
    '\n' ∉ line nameOf entry := by
  simp [line, lineEnd_not_mem_text legible]

/-- Headings are determined by their lines, written one after another. -/
theorem eq_of_lines (legible : Legible nameOf) {left right : List (Nat × Heading)}
    (same : left.flatMap (fun entry => line nameOf entry ++ ['\n']) =
      right.flatMap fun entry => line nameOf entry ++ ['\n']) : left = right := by
  have free := PrefixFree.of_mark (line_injective legible) (lineEnd_not_mem_line legible)
  have longer (entry : Nat × Heading) (rest : List Char) :
      (line nameOf entry ++ ['\n']) ++ rest ≠ [] := by simp
  exact (free.flatMap longer longer (by simpa using same)).1

end Heading

/-! ## Shapes without positions -/

namespace Shape

mutual

/-- A shape with all its positions set to zero. -/
def unplaced : Shape → Shape
  | .leaf token _ => .leaf { token with line := 0 } 0
  | .interior symbol _ _ children => .interior symbol 0 0 (unplacedAll children)

def unplacedAll : List Shape → List Shape
  | [] => []
  | shape :: rest => shape.unplaced :: unplacedAll rest

end

mutual

/-- The headings of a shape in document order, each with its depth. -/
def headings (depth : Nat) : Shape → List (Nat × Heading)
  | .leaf token _ => [(depth, .token token.kind token.text)]
  | .interior symbol _ _ children => (depth, .symbol symbol) :: headingsOf (depth + 1) children

def headingsOf (depth : Nat) : List Shape → List (Nat × Heading)
  | [] => []
  | shape :: rest => shape.headings depth ++ headingsOf depth rest

end

mutual

/-- Positions do not show in headings. -/
theorem headings_unplaced (depth : Nat) (shape : Shape) :
    shape.unplaced.headings depth = shape.headings depth := by
  cases shape with
  | leaf token col => rfl
  | interior symbol line col children =>
      rw [unplaced, headings, headings, headingsOf_unplacedAll]

theorem headingsOf_unplacedAll (depth : Nat) (shapes : List Shape) :
    headingsOf depth (unplacedAll shapes) = headingsOf depth shapes := by
  cases shapes with
  | nil => rfl
  | cons shape rest =>
      rw [unplacedAll, headingsOf, headingsOf, headings_unplaced, headingsOf_unplacedAll]

end

/-- Entries that do not begin at a depth or below it. -/
def Above (depth : Nat) (entries : List (Nat × Heading)) : Prop :=
  ∀ entry ∈ entries.head?, entry.1 < depth

theorem above_nil (depth : Nat) : Above depth [] := by
  simp [Above]

theorem Above.not_cons {depth : Nat} {heading : Heading} {entries : List (Nat × Heading)} :
    ¬ Above depth ((depth, heading) :: entries) := fun above =>
  Nat.lt_irrefl depth (above (depth, heading) rfl)

theorem exists_headings_eq_cons (depth : Nat) (shape : Shape) :
    ∃ heading below, shape.headings depth = (depth, heading) :: below := by
  cases shape with
  | leaf token col => exact ⟨_, _, rfl⟩
  | interior symbol line col children => exact ⟨_, _, rfl⟩

/-- What follows a shape is not below it: neither its siblings are, nor what follows them. -/
theorem above_headingsOf {depth : Nat} {rest : List (Nat × Heading)} (above : Above depth rest)
    (shapes : List Shape) : Above (depth + 1) (headingsOf depth shapes ++ rest) := by
  cases shapes with
  | nil =>
      intro entry first
      exact Nat.lt_succ_of_lt (above entry first)
  | cons shape others =>
      obtain ⟨heading, below, headings⟩ := shape.exists_headings_eq_cons depth
      intro entry first
      rw [headingsOf, headings] at first
      cases first
      exact Nat.lt_succ_self depth

mutual

/-- Headings of a shape, with whatever follows the shape, determine the shape but for positions. -/
theorem unplaced_eq_of_headings {depth : Nat} (left right : Shape)
    {restLeft restRight : List (Nat × Heading)} (leftAbove : Above (depth + 1) restLeft)
    (rightAbove : Above (depth + 1) restRight)
    (same : left.headings depth ++ restLeft = right.headings depth ++ restRight) :
    left.unplaced = right.unplaced ∧ restLeft = restRight := by
  cases left with
  | leaf token col =>
      cases right with
      | leaf other otherCol =>
          obtain ⟨first, rests⟩ := List.cons.inj same
          cases token
          cases other
          cases first
          exact ⟨rfl, rests⟩
      | interior symbol line col children => cases (List.cons.inj same).1
  | interior symbol line col children =>
      cases right with
      | leaf token col => cases (List.cons.inj same).1
      | interior otherSymbol otherLine otherCol others =>
          obtain ⟨first, below⟩ := List.cons.inj same
          cases first
          obtain ⟨childrenSame, rests⟩ :=
            unplacedAll_eq_of_headings children others leftAbove rightAbove below
          exact ⟨by rw [unplaced, unplaced, childrenSame], rests⟩

theorem unplacedAll_eq_of_headings {depth : Nat} (left right : List Shape)
    {restLeft restRight : List (Nat × Heading)} (leftAbove : Above depth restLeft)
    (rightAbove : Above depth restRight)
    (same : headingsOf depth left ++ restLeft = headingsOf depth right ++ restRight) :
    unplacedAll left = unplacedAll right ∧ restLeft = restRight := by
  cases left with
  | nil =>
      cases right with
      | nil => exact ⟨rfl, same⟩
      | cons shape rest =>
          obtain ⟨heading, below, headings⟩ := shape.exists_headings_eq_cons depth
          have begins : restLeft = _ := same
          rw [begins, headingsOf, headings] at leftAbove
          exact absurd leftAbove Above.not_cons
  | cons shape rest =>
      cases right with
      | nil =>
          obtain ⟨heading, below, headings⟩ := shape.exists_headings_eq_cons depth
          have begins : restRight = _ := same.symm
          rw [begins, headingsOf, headings] at rightAbove
          exact absurd rightAbove Above.not_cons
      | cons other others =>
          rw [headingsOf, headingsOf, List.append_assoc, List.append_assoc] at same
          obtain ⟨firstSame, below⟩ := unplaced_eq_of_headings shape other
            (above_headingsOf leftAbove rest) (above_headingsOf rightAbove others) same
          obtain ⟨restSame, rests⟩ :=
            unplacedAll_eq_of_headings rest others leftAbove rightAbove below
          exact ⟨by rw [unplacedAll, unplacedAll, firstSame, restSame], rests⟩

end

theorem headings_eq_iff {left right : Shape} :
    left.headings 0 = right.headings 0 ↔ left.unplaced = right.unplaced := by
  constructor
  · intro same
    exact (unplaced_eq_of_headings left right (above_nil 1) (above_nil 1) (by rw [same])).1
  · intro same
    rw [← headings_unplaced 0 left, same, headings_unplaced]

/-! ## Plain renderings -/

section Plain

variable {nameOf : NonterminalId → String}

mutual

theorem lines_plain (depth : Nat) (shape : Shape) :
    shape.lines nameOf .plain depth =
      (shape.headings depth).map fun entry => (entry.1, String.ofList (entry.2.text nameOf)) := by
  cases shape with
  | leaf token col =>
      simp [lines, headings, Heading.text, Palette.text, Palette.detail, ← String.toList_inj]
  | interior symbol line col children =>
      rw [lines, headings, List.map_cons, linesOf_plain]
      simp [Heading.text, Palette.symbol]

theorem linesOf_plain (depth : Nat) (shapes : List Shape) :
    linesOf nameOf .plain depth shapes =
      (headingsOf depth shapes).map fun entry =>
        (entry.1, String.ofList (entry.2.text nameOf)) := by
  cases shapes with
  | nil => rfl
  | cons shape rest => rw [linesOf, headingsOf, List.map_append, lines_plain, linesOf_plain]

end

theorem toList_rendering_plain (shape : Shape) :
    (shape.rendering nameOf .plain).toList =
      (shape.headings 0).flatMap fun entry => Heading.line nameOf entry ++ ['\n'] := by
  rw [rendering, lines_plain, String.toList_join]
  simp [List.flatMap_map, written, Heading.line]

theorem rendering_plain_eq_iff (legible : Legible nameOf) {left right : Shape} :
    left.rendering nameOf .plain = right.rendering nameOf .plain ↔
      left.unplaced = right.unplaced := by
  rw [← headings_eq_iff, ← String.toList_inj, toList_rendering_plain, toList_rendering_plain]
  constructor
  · exact Heading.eq_of_lines legible
  · intro same
    rw [same]

end Plain

end Shape

/-! ## Main statement -/

namespace Tree

/-- A plain rendering loses nothing but positions. Two trees, whatever was asked for, are rendered
alike exactly if their shapes are equal up to positions: the same nesting, with the same symbols, and
the same kinds and texts of tokens, at every place. -/
theorem plain_rendering_determines_tree {nameOf : NonterminalId → String} (legible : Legible nameOf)
    (leftSymbol rightSymbol : NonterminalId) (leftLine leftCol rightLine rightCol : Nat)
    (leftRequests rightRequests : List Request) :
    ∃ left right leftText rightText,
      (grown leftSymbol leftLine leftCol leftRequests).shape? = some left ∧
      (grown rightSymbol rightLine rightCol rightRequests).shape? = some right ∧
      (grown leftSymbol leftLine leftCol leftRequests).render nameOf .plain = .ok leftText ∧
      (grown rightSymbol rightLine rightCol rightRequests).render nameOf .plain = .ok rightText ∧
      (leftText = rightText ↔ left.unplaced = right.unplaced) := by
  have leftOwned := owned_of_requests leftSymbol leftLine leftCol leftRequests
  have rightOwned := owned_of_requests rightSymbol rightLine rightCol rightRequests
  obtain ⟨left, leftHeld⟩ := leftOwned.exists_shapeAt? (within_size leftOwned.size_pos)
  obtain ⟨right, rightHeld⟩ := rightOwned.exists_shapeAt? (within_size rightOwned.size_pos)
  exact ⟨left, right, _, _, leftHeld, rightHeld, leftOwned.render_eq nameOf .plain leftHeld,
    rightOwned.render_eq nameOf .plain rightHeld, Shape.rendering_plain_eq_iff legible⟩

/-- The list again, put together in another order and elsewhere in a text. -/
def movedListRequests : List Request :=
  [.interior 0 ⟨257⟩ 7 4, .leaf 0 .comma "," 9 6, .leaf 1 .name "a" 8 5]

/-- One name whose text looks like the end of a line and the line of a comma. -/
def forgedListRequests : List Request :=
  [.interior 0 ⟨257⟩ 1 0, .leaf 1 .name "a\"\n  COMMA \"," 1 0]

/-- Where and in which order the list was built does not show, but no text of a token passes for more
than one token. -/
theorem plain_rendering_determines_tree_list :
    Legible NonterminalId.describe ∧
      (grown ⟨256⟩ 0 0 listRequests).render NonterminalId.describe .plain =
        (grown ⟨256⟩ 7 3 movedListRequests).render NonterminalId.describe .plain ∧
      (grown ⟨256⟩ 0 0 listRequests).render NonterminalId.describe .plain ≠
        (grown ⟨256⟩ 0 0 forgedListRequests).render NonterminalId.describe .plain := by
  have list : (grown ⟨256⟩ 0 0 listRequests).shape? =
      some (.interior ⟨256⟩ 0 0 [.interior ⟨257⟩ 1 0 [.leaf ⟨.name, "a", 1⟩ 0],
        .leaf ⟨.comma, ",", 1⟩ 3]) := rfl
  have moved : (grown ⟨256⟩ 7 3 movedListRequests).shape? =
      some (.interior ⟨256⟩ 7 3 [.interior ⟨257⟩ 7 4 [.leaf ⟨.name, "a", 8⟩ 5],
        .leaf ⟨.comma, ",", 9⟩ 6]) := rfl
  have forged : (grown ⟨256⟩ 0 0 forgedListRequests).shape? =
      some (.interior ⟨256⟩ 0 0 [.interior ⟨257⟩ 1 0
        [.leaf ⟨.name, "a\"\n  COMMA \",", 1⟩ 0]]) := rfl
  refine ⟨legible_describe, ?_, ?_⟩
  · obtain ⟨left, right, _, _, leftHeld, rightHeld, leftRendered, rightRendered, alike⟩ :=
      plain_rendering_determines_tree legible_describe ⟨256⟩ ⟨256⟩ 0 0 7 3 listRequests
        movedListRequests
    obtain rfl := Option.some.inj (list.symm.trans leftHeld)
    obtain rfl := Option.some.inj (moved.symm.trans rightHeld)
    rw [leftRendered, rightRendered, alike.mpr rfl]
  · obtain ⟨left, right, _, _, leftHeld, rightHeld, leftRendered, rightRendered, alike⟩ :=
      plain_rendering_determines_tree legible_describe ⟨256⟩ ⟨256⟩ 0 0 0 0 listRequests
        forgedListRequests
    obtain rfl := Option.some.inj (list.symm.trans leftHeld)
    obtain rfl := Option.some.inj (forged.symm.trans rightHeld)
    rw [leftRendered, rightRendered]
    intro same
    have unplaced := alike.mp (Except.ok.inj same)
    simp [Shape.unplaced, Shape.unplacedAll] at unplaced

end Tree

end TransitionNetwork
