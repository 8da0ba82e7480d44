import Mathlib.Data.List.Infix
import TransitionNetwork.Json.Writer
import TransitionNetwork.Proofs.Json.Numeral

/-!
# Documents and their texts

What a JSON text says, apart from how it is written. One document has many texts: blanks may stand
between any two parts, a character of a string may be written as itself or by one of several
escapes, and the fields of a record may come in any order. A mapping is an object in which the order
of the members counts. The texts that are written here are among those of a document.
-/

set_option autoImplicit false

namespace TransitionNetwork.Json

/-! ## Documents -/

/-- A JSON value as far as tables have such values; numbers are natural and have 16 bits. -/
inductive Document where
  | null
  | number (word : UInt16)
  | text (content : String)
  | list (elements : List Document)
  | record (fields : List (String × Document))
  | mapping (entries : List (String × Document))

/-! ## Texts of strings -/

/-- The four digits of a code, in either case. -/
inductive SpellsCode : Nat → List Char → Prop where
  | digits {a b c d : Char} {first second third fourth : Nat} : hexValue? a = some first →
      hexValue? b = some second → hexValue? c = some third → hexValue? d = some fourth →
      SpellsCode (((first * 16 + second) * 16 + third) * 16 + fourth) [a, b, c, d]

/-- A character between quotes: as it is, by an escape of its own, by its code, or by the codes of
two surrogates. -/
inductive SpellsChar : Char → List Char → Prop where
  | plain {c : Char} : c ≠ '"' → c ≠ '\\' → 32 ≤ c.toNat → SpellsChar c [c]
  | short {c escape : Char} : shortEscape? escape = some c → SpellsChar c ['\\', escape]
  | code {c : Char} {digits : List Char} : SpellsCode c.toNat digits →
      SpellsChar c ('\\' :: 'u' :: digits)
  | pair {c : Char} {high low : Nat} {digits more : List Char} :
      isLeading high = true → isTrailing low = true →
      c.toNat = (high - 0xD800) * 1024 + (low - 0xDC00) + 0x10000 → SpellsCode high digits →
      SpellsCode low more → SpellsChar c ('\\' :: 'u' :: (digits ++ '\\' :: 'u' :: more))

inductive SpellsChars : List Char → List Char → Prop where
  | nil : SpellsChars [] []
  | cons {c : Char} {chars text more : List Char} : SpellsChar c text → SpellsChars chars more →
      SpellsChars (c :: chars) (text ++ more)

/-! ## Texts of documents -/

def Blank (gap : List Char) : Prop :=
  ∀ c ∈ gap, isBlank c = true

mutual

/-- A text of a document, with the blanks before it and without those after it. -/
inductive Spells : Document → List Char → Prop where
  | null {gap : List Char} : Blank gap → Spells .null (gap ++ ['n', 'u', 'l', 'l'])
  | number {gap : List Char} {word : UInt16} : Blank gap →
      Spells (.number word) (gap ++ writeWord16 word)
  | text {gap body : List Char} {content : String} : Blank gap →
      SpellsChars content.toList body → Spells (.text content) (gap ++ '"' :: (body ++ ['"']))
  | list {gap body : List Char} {elements : List Document} : Blank gap →
      SpellsElements true elements body → Spells (.list elements) (gap ++ '[' :: body)
  | record {gap body : List Char} {fields members : List (String × Document)} : Blank gap →
      members.Perm fields → SpellsMembers true members body →
      Spells (.record fields) (gap ++ '\x7b' :: body)
  | mapping {gap body : List Char} {entries : List (String × Document)} : Blank gap →
      SpellsMembers true entries body → Spells (.mapping entries) (gap ++ '\x7b' :: body)

/-- What is left of a list, up to the closing bracket: from its first element on, or after one. -/
inductive SpellsElements : Bool → List Document → List Char → Prop where
  | close {first : Bool} {gap : List Char} : Blank gap → SpellsElements first [] (gap ++ [']'])
  | first {document : Document} {others : List Document} {text more : List Char} :
      Spells document text → SpellsElements false others more →
      SpellsElements true (document :: others) (text ++ more)
  | next {document : Document} {others : List Document} {gap text more : List Char} : Blank gap →
      Spells document text → SpellsElements false others more →
      SpellsElements false (document :: others) (gap ++ ',' :: (text ++ more))

/-- What is left of an object, up to the closing brace: from its first member on, or after one. -/
inductive SpellsMembers : Bool → List (String × Document) → List Char → Prop where
  | close {first : Bool} {gap : List Char} : Blank gap → SpellsMembers first [] (gap ++ ['\x7d'])
  | first {key : String} {document : Document} {others : List (String × Document)}
      {name gap text more : List Char} : Spells (.text key) name → Blank gap →
      Spells document text → SpellsMembers false others more →
      SpellsMembers true ((key, document) :: others) (name ++ gap ++ ':' :: (text ++ more))
  | next {key : String} {document : Document} {others : List (String × Document)}
      {before name gap text more : List Char} : Blank before → Spells (.text key) name → Blank gap →
      Spells document text → SpellsMembers false others more →
      SpellsMembers false ((key, document) :: others)
        (before ++ ',' :: (name ++ gap ++ ':' :: (text ++ more)))

end

/-- A text that holds a document and nothing else. -/
def Holds (text : String) (document : Document) : Prop :=
  ∃ body gap, Spells document body ∧ Blank gap ∧ text.toList = body ++ gap

/-! ## Blanks -/

theorem blank_nil : Blank [] := by
  simp [Blank]

theorem skipBlanks_append {gap : List Char} (blank : Blank gap) (text : List Char) :
    skipBlanks (gap ++ text) = skipBlanks text :=
  List.dropWhile_append_of_pos blank

theorem skipBlanks_cons {c : Char} (dark : isBlank c = false) (rest : List Char) :
    skipBlanks (c :: rest) = c :: rest := by
  simp [skipBlanks, dark]

/-- After a gap comes what is no blank. -/
theorem skipBlanks_gap {gap : List Char} (blank : Blank gap) {c : Char} (dark : isBlank c = false)
    (rest : List Char) : skipBlanks (gap ++ c :: rest) = c :: rest := by
  rw [skipBlanks_append blank, skipBlanks_cons dark]

theorem delimited_gap {gap : List Char} (blank : Blank gap) {c : Char}
    (ends : c = ',' ∨ c = ']' ∨ c = '\x7d') (rest : List Char) : Delimited (gap ++ c :: rest) := by
  intro d isHead
  cases gap with
  | nil =>
      cases isHead
      exact .inr ends
  | cons first others =>
      cases isHead
      exact .inl (blank _ (.head _))

theorem delimited_of_blank {gap : List Char} (blank : Blank gap) : Delimited gap := by
  intro d isHead
  exact .inl (blank d (List.mem_of_mem_head? isHead))

theorem SpellsElements.delimited {documents : List Document} {text : List Char}
    (spelled : SpellsElements false documents text) (rest : List Char) :
    Delimited (text ++ rest) := by
  cases spelled with
  | close blank => simpa using delimited_gap blank (.inr (.inl rfl)) rest
  | next blank _ _ =>
      rw [List.append_assoc, List.cons_append]
      exact delimited_gap blank (.inl rfl) _

theorem SpellsMembers.delimited {members : List (String × Document)} {text : List Char}
    (spelled : SpellsMembers false members text) (rest : List Char) :
    Delimited (text ++ rest) := by
  cases spelled with
  | close blank => simpa using delimited_gap blank (.inr (.inr rfl)) rest
  | next blank _ _ _ _ =>
      rw [List.append_assoc, List.cons_append]
      exact delimited_gap blank (.inl rfl) _

/-! ## Writing -/

theorem spellsChar_writeChar (c : Char) : SpellsChar c (writeChar c) := by
  unfold writeChar
  split
  case h_8 quote backslash _ _ _ _ _ =>
      split
      case isTrue control =>
          have digits : ∀ code : Fin 32,
              hexValue? (hexDigit (code.val / 16)) = some (code.val / 16) ∧
                hexValue? (hexDigit (code.val % 16)) = some (code.val % 16) := by decide
          obtain ⟨high, low⟩ := digits ⟨c.toNat, control⟩
          have zero : hexValue? '0' = some 0 := by decide
          have code := SpellsCode.digits zero zero high low
          have value : ((0 * 16 + 0) * 16 + c.toNat / 16) * 16 + c.toNat % 16 = c.toNat := by omega
          rw [value] at code
          exact .code code
      case isFalse printable => exact .plain quote backslash (by omega)
  all_goals exact .short rfl

theorem spellsChars_writeChar (chars : List Char) :
    SpellsChars chars (chars.flatMap writeChar) := by
  induction chars with
  | nil => exact .nil
  | cons c chars ih => exact .cons (spellsChar_writeChar c) ih

theorem spells_writeQuoted (content : String) : Spells (.text content) (writeQuoted content) :=
  .text blank_nil (spellsChars_writeChar content.toList)

theorem spells_writeWord16 (word : UInt16) : Spells (.number word) (writeWord16 word) :=
  .number blank_nil

def optionalText : Option String → Document
  | none => .null
  | some content => .text content

theorem spells_writeOptionalText (value : Option String) :
    Spells (optionalText value) (writeOptionalText value) := by
  cases value with
  | none => exact .null blank_nil
  | some content => exact spells_writeQuoted content

theorem separated_cons (first : List Char) (others : List (List Char)) :
    separated (first :: others) = first ++ others.flatMap (',' :: ·) := by
  induction others generalizing first with
  | nil => simp [separated]
  | cons second others ih =>
      have unfolded : separated (first :: second :: others) =
          first ++ [','] ++ separated (second :: others) := List.intercalate_cons_cons
      rw [unfolded, ih]
      simp

section Lists

variable {α : Type} {write : α → List Char} {document : α → Document} {values : List α}

theorem spellsElements_flatMap (spells : ∀ value ∈ values, Spells (document value) (write value)) :
    SpellsElements false (values.map document)
      ((values.map write).flatMap (',' :: ·) ++ [']']) := by
  induction values with
  | nil => exact .close blank_nil
  | cons value rest ih =>
      obtain ⟨first, others⟩ := List.forall_mem_cons.mp spells
      have spelled := SpellsElements.next blank_nil first (ih others)
      simpa using spelled

theorem spells_writeList (spells : ∀ value ∈ values, Spells (document value) (write value)) :
    Spells (.list (values.map document)) (writeList write values) := by
  refine .list blank_nil ?_
  cases values with
  | nil => exact .close blank_nil
  | cons value rest =>
      obtain ⟨first, others⟩ := List.forall_mem_cons.mp spells
      rw [List.map_cons, List.map_cons, separated_cons, List.append_assoc]
      exact .first first (spellsElements_flatMap others)

end Lists

section Objects

/-- Written members, each with the document that it holds. -/
def SpellEach : List (String × Document) → List (String × List Char) → Prop :=
  List.Forall₂ fun field member => field.1 = member.1 ∧ Spells field.2 member.2

theorem spellsMembers_flatMap {fields : List (String × Document)}
    {members : List (String × List Char)} (each : SpellEach fields members) :
    SpellsMembers false fields
      ((members.map fun (key, value) => writeQuoted key ++ ':' :: value).flatMap (',' :: ·) ++
        ['\x7d']) := by
  induction each with
  | nil => exact .close blank_nil
  | @cons field member fields members spells _ ih =>
      obtain ⟨key, document⟩ := field
      obtain ⟨name, value⟩ := member
      obtain ⟨rfl, spelled⟩ := spells
      have next := SpellsMembers.next blank_nil (spells_writeQuoted key) blank_nil spelled ih
      simpa using next

theorem spellsMembers_writeObject {fields : List (String × Document)}
    {members : List (String × List Char)} (each : SpellEach fields members) :
    ∃ body, writeObject members = '\x7b' :: body ∧ SpellsMembers true fields body := by
  refine ⟨_, rfl, ?_⟩
  cases each with
  | nil => exact .close blank_nil
  | @cons field member fields members spells others =>
      obtain ⟨key, document⟩ := field
      obtain ⟨name, value⟩ := member
      obtain ⟨rfl, spelled⟩ := spells
      have first := SpellsMembers.first (spells_writeQuoted key) blank_nil spelled
        (spellsMembers_flatMap others)
      rw [List.map_cons, separated_cons]
      simpa using first

theorem spells_record {fields : List (String × Document)} {members : List (String × List Char)}
    (each : SpellEach fields members) : Spells (.record fields) (writeObject members) := by
  obtain ⟨body, written, spelled⟩ := spellsMembers_writeObject each
  rw [written]
  exact .record blank_nil (.refl _) spelled

theorem spells_mapping {entries : List (String × Document)} {members : List (String × List Char)}
    (each : SpellEach entries members) : Spells (.mapping entries) (writeObject members) := by
  obtain ⟨body, written, spelled⟩ := spellsMembers_writeObject each
  rw [written]
  exact .mapping blank_nil spelled

theorem holds_ofList {document : Document} {text : List Char} (spelled : Spells document text) :
    Holds (String.ofList text) document :=
  ⟨text, [], spelled, blank_nil, by simp⟩

end Objects

end TransitionNetwork.Json
