/-!
# Token kinds

The lexical kinds a tokenizer delivers. Every kind has an ordinal, its position in `TokenKind.all`,
a canonical upper-case name, under which grammar tables refer to it, and a spelling in mixed case,
under which structure text does. Both ways of naming are injective.
-/

set_option autoImplicit false

namespace TransitionNetwork

inductive TokenKind where
  | endMarker | name | number | string | newline | indent | dedent | leftParen | rightParen
  | leftBracket | rightBracket | colon | comma | semicolon | plus | minus | star | slash | bar
  | ampersand | less | greater | equal | dot | percent | leftBrace | rightBrace | equalEqual
  | notEqual | lessEqual | greaterEqual | tilde | circumflex | leftShift | rightShift
  | doubleStar | plusEqual | minusEqual | starEqual | slashEqual | percentEqual | ampersandEqual
  | barEqual | circumflexEqual | leftShiftEqual | rightShiftEqual | doubleStarEqual | doubleSlash
  | doubleSlashEqual | at | atEqual | rightArrow | ellipsis | operator | errorToken
  deriving DecidableEq, Repr

namespace TokenKind

/-- All kinds, each at the position that is its ordinal. -/
def all : List TokenKind :=
  [.endMarker, .name, .number, .string, .newline, .indent, .dedent, .leftParen, .rightParen,
    .leftBracket, .rightBracket, .colon, .comma, .semicolon, .plus, .minus, .star, .slash, .bar,
    .ampersand, .less, .greater, .equal, .dot, .percent, .leftBrace, .rightBrace, .equalEqual,
    .notEqual, .lessEqual, .greaterEqual, .tilde, .circumflex, .leftShift, .rightShift,
    .doubleStar, .plusEqual, .minusEqual, .starEqual, .slashEqual, .percentEqual,
    .ampersandEqual, .barEqual, .circumflexEqual, .leftShiftEqual, .rightShiftEqual,
    .doubleStarEqual, .doubleSlash, .doubleSlashEqual, .at, .atEqual, .rightArrow, .ellipsis,
    .operator, .errorToken]

def ordinal (kind : TokenKind) : Nat :=
  kind.ctorIdx

def ofOrdinal? (ordinal : Nat) : Option TokenKind :=
  all[ordinal]?

def canonicalName : TokenKind → String
  | .endMarker => "ENDMARKER"
  | .name => "NAME"
  | .number => "NUMBER"
  | .string => "STRING"
  | .newline => "NEWLINE"
  | .indent => "INDENT"
  | .dedent => "DEDENT"
  | .leftParen => "LPAR"
  | .rightParen => "RPAR"
  | .leftBracket => "LSQB"
  | .rightBracket => "RSQB"
  | .colon => "COLON"
  | .comma => "COMMA"
  | .semicolon => "SEMI"
  | .plus => "PLUS"
  | .minus => "MINUS"
  | .star => "STAR"
  | .slash => "SLASH"
  | .bar => "VBAR"
  | .ampersand => "AMPER"
  | .less => "LESS"
  | .greater => "GREATER"
  | .equal => "EQUAL"
  | .dot => "DOT"
  | .percent => "PERCENT"
  | .leftBrace => "LBRACE"
  | .rightBrace => "RBRACE"
  | .equalEqual => "EQEQUAL"
  | .notEqual => "NOTEQUAL"
  | .lessEqual => "LESSEQUAL"
  | .greaterEqual => "GREATEREQUAL"
  | .tilde => "TILDE"
  | .circumflex => "CIRCUMFLEX"
  | .leftShift => "LEFTSHIFT"
  | .rightShift => "RIGHTSHIFT"
  | .doubleStar => "DOUBLESTAR"
  | .plusEqual => "PLUSEQUAL"
  | .minusEqual => "MINEQUAL"
  | .starEqual => "STAREQUAL"
  | .slashEqual => "SLASHEQUAL"
  | .percentEqual => "PERCENTEQUAL"
  | .ampersandEqual => "AMPEREQUAL"
  | .barEqual => "VBAREQUAL"
  | .circumflexEqual => "CIRCUMFLEXEQUAL"
  | .leftShiftEqual => "LEFTSHIFTEQUAL"
  | .rightShiftEqual => "RIGHTSHIFTEQUAL"
  | .doubleStarEqual => "DOUBLESTAREQUAL"
  | .doubleSlash => "DOUBLESLASH"
  | .doubleSlashEqual => "DOUBLESLASHEQUAL"
  | .at => "AT"
  | .atEqual => "ATEQUAL"
  | .rightArrow => "RARROW"
  | .ellipsis => "ELLIPSIS"
  | .operator => "OP"
  | .errorToken => "ERRORTOKEN"

/-- Spelling in mixed case, as structure text writes the kind. -/
def spelling : TokenKind → String
  | .endMarker => "EndMarker"
  | .name => "Name"
  | .number => "Number"
  | .string => "String"
  | .newline => "Newline"
  | .indent => "Indent"
  | .dedent => "Dedent"
  | .leftParen => "LPar"
  | .rightParen => "RPar"
  | .leftBracket => "LSqb"
  | .rightBracket => "RSqb"
  | .colon => "Colon"
  | .comma => "Comma"
  | .semicolon => "Semi"
  | .plus => "Plus"
  | .minus => "Minus"
  | .star => "Star"
  | .slash => "Slash"
  | .bar => "VBar"
  | .ampersand => "Amper"
  | .less => "Less"
  | .greater => "Greater"
  | .equal => "Equal"
  | .dot => "Dot"
  | .percent => "Percent"
  | .leftBrace => "LBrace"
  | .rightBrace => "RBrace"
  | .equalEqual => "EqEqual"
  | .notEqual => "NotEqual"
  | .lessEqual => "LessEqual"
  | .greaterEqual => "GreaterEqual"
  | .tilde => "Tilde"
  | .circumflex => "Circumflex"
  | .leftShift => "LeftShift"
  | .rightShift => "RightShift"
  | .doubleStar => "DoubleStar"
  | .plusEqual => "PlusEqual"
  | .minusEqual => "MinEqual"
  | .starEqual => "StarEqual"
  | .slashEqual => "SlashEqual"
  | .percentEqual => "PercentEqual"
  | .ampersandEqual => "AmperEqual"
  | .barEqual => "VBarEqual"
  | .circumflexEqual => "CircumflexEqual"
  | .leftShiftEqual => "LeftShiftEqual"
  | .rightShiftEqual => "RightShiftEqual"
  | .doubleStarEqual => "DoubleStarEqual"
  | .doubleSlash => "DoubleSlash"
  | .doubleSlashEqual => "DoubleSlashEqual"
  | .at => "At"
  | .atEqual => "AtEqual"
  | .rightArrow => "RArrow"
  | .ellipsis => "Ellipsis"
  | .operator => "Op"
  | .errorToken => "ErrorToken"

def ofCanonicalName? (name : String) : Option TokenKind :=
  all.find? fun kind => kind.canonicalName == name

def ofSpelling? (spelling : String) : Option TokenKind :=
  all.find? fun kind => kind.spelling == spelling

def isEndMarker (kind : TokenKind) : Bool :=
  kind == .endMarker

theorem ofOrdinal?_ordinal (kind : TokenKind) : ofOrdinal? kind.ordinal = some kind := by
  cases kind <;> rfl

theorem ordinal_lt (kind : TokenKind) : kind.ordinal < all.length := by
  cases kind <;> decide

/-- Looking a canonical name up gives the kind it belongs to. -/
theorem ofCanonicalName?_canonicalName (kind : TokenKind) :
    ofCanonicalName? kind.canonicalName = some kind := by
  cases kind <;> decide

/-- Looking a spelling up gives the kind it belongs to. -/
theorem ofSpelling?_spelling (kind : TokenKind) : ofSpelling? kind.spelling = some kind := by
  cases kind <;> decide

end TokenKind

end TransitionNetwork
