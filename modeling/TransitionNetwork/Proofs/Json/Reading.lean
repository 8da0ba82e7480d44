import Mathlib.Data.List.TakeWhile
import TransitionNetwork.Json.Container
import TransitionNetwork.Json.Value
import TransitionNetwork.Proofs.Fallible
import TransitionNetwork.Proofs.Json.Document

/-!
# Reading documents

Every text of a document is read as that document, whatever follows it. A reader is described by the
value that it gives for a document; of a record it is shown that each field is taken up when it
comes, so that the order of the fields does not matter.
-/

set_option autoImplicit false

namespace TransitionNetwork.Json

/-! ## Strings -/

theorem readHex_code {code : Nat} {digits : List Char} (spelled : SpellsCode code digits)
    (rest : List Char) : readHex (digits ++ rest) = .ok code := by
  cases spelled with
  | digits first second third fourth => simp [readHex, first, second, third, fourth]

theorem no_surrogate (c : Char) : isTrailing c.toNat = false ∧ isLeading c.toNat = false := by
  have valid : c.toNat < 0xD800 ∨ (0xDFFF < c.toNat ∧ c.toNat < 0x110000) := c.valid
  simp only [isTrailing, isLeading, Bool.and_eq_false_iff, decide_eq_false_iff_not]
  omega

theorem not_trailing_of_leading {code : Nat} (leading : isLeading code = true) :
    isTrailing code = false := by
  simp only [isLeading, Bool.and_eq_true, decide_eq_true_eq] at leading
  simp only [isTrailing, Bool.and_eq_false_iff, decide_eq_false_iff_not]
  omega

theorem SpellsCode.length {code : Nat} {digits : List Char} (spelled : SpellsCode code digits) :
    digits.length = 4 := by
  cases spelled
  rfl

theorem scanQuoted_skip {escape : List Char → Except Defect (Char × Nat)}
    (skipped rest done : List Char) :
    scanQuoted escape (skipped ++ rest) skipped.length done = scanQuoted escape rest 0 done := by
  induction skipped with
  | nil => rfl
  | cons c others ih => exact ih

/-- An escape is read as the character that it stands for. -/
theorem scanQuoted_escape {c : Char} (escape rest done : List Char)
    (read : readEscape (escape ++ rest) = .ok (c, escape.length)) :
    scanQuoted readEscape ('\\' :: (escape ++ rest)) 0 done =
      scanQuoted readEscape rest 0 (c :: done) := by
  have opened : scanQuoted readEscape ('\\' :: (escape ++ rest)) 0 done =
      scanQuoted readEscape (escape ++ rest) escape.length (c :: done) := by
    simp [scanQuoted, read]
  rw [opened, scanQuoted_skip]

theorem scanQuoted_spelled {c : Char} {text : List Char} (spelled : SpellsChar c text)
    (rest done : List Char) :
    scanQuoted readEscape (text ++ rest) 0 done = scanQuoted readEscape rest 0 (c :: done) := by
  cases spelled with
  | plain quote backslash printable =>
      simp [scanQuoted, quote, backslash, Nat.not_lt.mpr printable]
  | @short escape meaning =>
      -- Which alternative of `readEscape` applies depends on it.
      have notCode : escape ≠ 'u' := by
        rintro rfl
        cases meaning
      apply scanQuoted_escape [escape]
      simp [readEscape, meaning]
  | @code digits spelledCode =>
      apply scanQuoted_escape ('u' :: digits)
      simp [readEscape, readCode, readHex_code spelledCode, no_surrogate, spelledCode.length]
  | @pair high low digits more leading trailing value first second =>
      apply scanQuoted_escape ('u' :: (digits ++ '\\' :: 'u' :: more))
      have behind : (digits ++ '\\' :: 'u' :: (more ++ rest)).drop 4 =
          '\\' :: 'u' :: (more ++ rest) := by
        rw [← first.length, List.drop_left]
      simp [readEscape, readCode, readHex_code first, not_trailing_of_leading leading, leading,
        behind, readTrailing, readHex_code second, trailing, ← value, first.length, second.length]

theorem scanQuoted_spelledChars {chars text : List Char} (spelled : SpellsChars chars text)
    (rest done : List Char) :
    scanQuoted readEscape (text ++ '"' :: rest) 0 done = .ok (done.reverse ++ chars, rest) := by
  induction spelled generalizing done with
  | nil => simp [scanQuoted]
  | cons first _ ih => simp [scanQuoted_spelled first, ih]

/-- Text between quotes is read, however its characters are spelled, and what follows it is left. -/
theorem readQuoted_spelled {content : String} {body : List Char}
    (spelled : SpellsChars content.toList body) (rest : List Char) :
    readQuoted (body ++ '"' :: rest) = .ok (content, rest) := by
  simp [readQuoted, scanQuoted_spelledChars spelled]

/-! ## Values -/

section Values

variable {α β : Type} {limit : Nat}

/-- Any text of the document, in front of what can follow it, is read as the value. -/
def Reads (limit : Nat) (read : Reader α) (document : Document) (value : α) : Prop :=
  ∀ text rest, Spells document text → text.length < limit → Delimited rest →
    read (text ++ rest) = .ok (value, rest)

theorem Reads.last {read : Reader α} {next : α → Reader β} {document : Document} {value : α}
    {final : β} (reads : Reads limit read document value) (ends : next value = pure final) :
    Reads limit (read >>= next) document final := by
  intro text rest spelled short delimited
  rw [bind_of_ok (reads text rest spelled short delimited), ends]
  rfl

/-- What is neither a blank nor the end of a list, as every value begins. -/
def Opens (c : Char) : Prop :=
  isBlank c = false ∧ c ≠ ']'

instance (c : Char) : Decidable (Opens c) :=
  inferInstanceAs (Decidable (isBlank c = false ∧ c ≠ ']'))

theorem opens_of_isDigit {c : Char} (digit : c.isDigit = true) : Opens c := by
  constructor
  · cases blank : isBlank c with
    | false => rfl
    | true =>
        have named : c = ' ' ∨ c = '\n' ∨ c = '\t' ∨ c = '\r' := by
          simpa [isBlank, or_assoc] using blank
        rcases named with rfl | rfl | rfl | rfl <;> cases digit
  · rintro rfl
    cases digit

theorem exists_writeWord16 (word : UInt16) :
    ∃ c others, writeWord16 word = c :: others ∧ Opens c := by
  cases written : writeWord16 word with
  | nil => exact absurd written Nat.toDigits_ne_nil
  | cons c others =>
      have among : c ∈ writeWord16 word := by simp [written]
      exact ⟨c, others, rfl, opens_of_isDigit (isDigit_of_mem_writeWord16 among)⟩

/-- Without the blanks before it, a text is still a text of the same document. -/
theorem Spells.trimmed {document : Document} {text : List Char} (spelled : Spells document text) :
    ∃ gap c others, text = gap ++ c :: others ∧ Blank gap ∧ Opens c ∧
      Spells document (c :: others) := by
  cases spelled with
  | null blank => exact ⟨_, _, _, rfl, blank, by decide, .null blank_nil⟩
  | @number gap word blank =>
      obtain ⟨c, others, written, opening⟩ := exists_writeWord16 word
      refine ⟨gap, c, others, by rw [written], blank, opening, ?_⟩
      rw [← written]
      exact .number blank_nil
  | text blank chars => exact ⟨_, _, _, rfl, blank, by decide, .text blank_nil chars⟩
  | list blank body => exact ⟨_, _, _, rfl, blank, by decide, .list blank_nil body⟩
  | record blank order body =>
      exact ⟨_, _, _, rfl, blank, by decide, .record blank_nil order body⟩
  | mapping blank body => exact ⟨_, _, _, rfl, blank, by decide, .mapping blank_nil body⟩

theorem reads_text (content : String) : Reads limit readText (.text content) content := by
  intro text rest spelled _ _
  cases spelled with
  | text blank chars =>
      rw [List.append_assoc, readText, List.cons_append, skipBlanks_gap blank (by decide)]
      simp [readQuoted_spelled chars]

theorem reads_optionalText (value : Option String) :
    Reads limit readOptionalText (optionalText value) value := by
  intro text rest spelled short delimited
  cases value with
  | none =>
      cases spelled with
      | null blank =>
          rw [List.append_assoc, readOptionalText, List.cons_append,
            skipBlanks_gap blank (by decide)]
          rfl
  | some content =>
      cases spelled with
      | text blank chars =>
          rw [List.append_assoc, readOptionalText, List.cons_append,
            skipBlanks_gap blank (by decide)]
          simp [readText, skipBlanks_cons (by decide : isBlank '"' = false),
            readQuoted_spelled chars]

theorem reads_word16 (word : UInt16) : Reads limit readWord16 (.number word) word := by
  intro text rest spelled _ delimited
  cases spelled with
  | number blank =>
      obtain ⟨c, others, written, opening⟩ := exists_writeWord16 word
      have skipped : skipBlanks (writeWord16 word ++ rest) = writeWord16 word ++ rest := by
        rw [written]
        exact skipBlanks_cons opening.1 _
      rw [List.append_assoc, readWord16]
      simp only [skipBlanks_append blank, skipped, readNumeral_writeWord16 word delimited,
        word16?_writeWord16]

end Values

/-! ## Lists -/

section Lists

variable {α β : Type} {limit : Nat} {read : Reader α} {document : Document} {value : α}

theorem hasElement_close (first : Bool) {gap : List Char} (blank : Blank gap) (rest : List Char) :
    hasElement first (gap ++ ']' :: rest) = .ok (false, ']' :: rest) := by
  simp [hasElement, skipBlanks_gap blank (by decide : isBlank ']' = false)]

/-- The next element of a list is reached, and what is left of the list comes behind it. -/
theorem SpellsElements.exists_next {first : Bool} {others : List Document} {text : List Char}
    (spelled : SpellsElements first (document :: others) text) :
    ∃ element more, Spells document element ∧ SpellsElements false others more ∧
      element.length ≤ text.length ∧ more.length < text.length ∧
      ∀ rest, hasElement first (text ++ rest) = .ok (true, element ++ (more ++ rest)) := by
  cases spelled with
  | first spelledElement spelledOthers =>
      obtain ⟨gap, c, core, rfl, blank, opening, trimmed⟩ := spelledElement.trimmed
      refine ⟨_, _, trimmed, spelledOthers, by simp; omega, by simp; omega, ?_⟩
      intro rest
      simp [hasElement, skipBlanks_gap blank opening.1, opening.2]
  | next blankBefore spelledElement spelledOthers =>
      obtain ⟨gap, c, core, rfl, blank, opening, trimmed⟩ := spelledElement.trimmed
      refine ⟨_, _, trimmed, spelledOthers, by simp; omega, by simp; omega, ?_⟩
      intro rest
      simp [hasElement, skipBlanks_gap blankBefore (by decide : isBlank ',' = false),
        skipBlanks_gap blank opening.1, opening.2]

theorem readElements_spelled {documents : List Document} {values : List α}
    (each : List.Forall₂ (Reads limit read) documents values) {first : Bool} {text : List Char}
    (spelled : SpellsElements first documents text) (short : text.length < limit) {fuel : Nat}
    (enough : text.length < fuel) (before : Array α) (rest : List Char) :
    readElements read fuel first before (text ++ rest) = .ok (before ++ values.toArray, rest) := by
  -- `fuel` goes down with the elements, while `limit` stays what the readers of elements have.
  induction each generalizing first text fuel before with
  | nil =>
      cases spelled with
      | close blank =>
          obtain ⟨fuel, rfl⟩ := Nat.exists_eq_succ_of_ne_zero (Nat.ne_zero_of_lt enough)
          simp [readElements, hasElement_close first blank]
  | cons reads _ ih =>
      obtain ⟨fuel, rfl⟩ := Nat.exists_eq_succ_of_ne_zero (Nat.ne_zero_of_lt enough)
      obtain ⟨element, more, spelledElement, spelledOthers, inside, less, reached⟩ :=
        spelled.exists_next
      have taken := reads element (more ++ rest) spelledElement (by omega)
        (spelledOthers.delimited rest)
      rw [readElements, reached]
      simp only [taken]
      rw [ih spelledOthers (by omega) (by omega)]
      simp

theorem Spells.exists_elements {documents : List Document} {text : List Char}
    (spelled : Spells (.list documents) text) :
    ∃ body, SpellsElements true documents body ∧ body.length < text.length ∧
      ∀ rest, openList (text ++ rest) = .ok ((), body ++ rest) := by
  cases spelled with
  | list blank elements =>
      refine ⟨_, elements, by simp; omega, ?_⟩
      intro rest
      simp [openList, skipBlanks_gap blank (by decide : isBlank '[' = false)]

theorem reads_list {documents : List Document} {values : List α}
    (each : List.Forall₂ (Reads limit read) documents values) :
    Reads limit (readList limit read) (.list documents) values.toArray := by
  intro text rest spelled short _
  obtain ⟨body, elements, less, opened⟩ := spelled.exists_elements
  have within : body.length < limit := Nat.lt_trans less short
  rw [readList, bind_of_ok (opened rest)]
  simpa using readElements_spelled each elements within within #[] rest

theorem reads_listOf {write : α → Document} (values : List α)
    (reads : ∀ value ∈ values, Reads limit read (write value) value) :
    Reads limit (readList limit read) (.list (values.map write)) values.toArray := by
  apply reads_list
  induction values with
  | nil => exact .nil
  | cons value others ih =>
      obtain ⟨first, rest⟩ := List.forall_mem_cons.mp reads
      exact .cons first (ih rest)

theorem readElement_spelled {first : Bool} {others : List Document} {text : List Char}
    (reads : Reads limit read document value)
    (spelled : SpellsElements first (document :: others) text) (short : text.length < limit) :
    ∃ more, SpellsElements false others more ∧ more.length < limit ∧
      ∀ rest, readElement first read (text ++ rest) = .ok (value, more ++ rest) := by
  obtain ⟨element, more, spelledElement, spelledOthers, inside, less, reached⟩ :=
    spelled.exists_next
  refine ⟨more, spelledOthers, by omega, ?_⟩
  intro rest
  rw [readElement, bind_of_ok (reached rest)]
  exact reads element _ spelledElement (by omega) (spelledOthers.delimited rest)

theorem closeList_spelled {first : Bool} {text : List Char}
    (spelled : SpellsElements first [] text) (rest : List Char) :
    closeList (text ++ rest) = .ok ((), rest) := by
  cases spelled with
  | close blank => simp [closeList, skipBlanks_gap blank (by decide : isBlank ']' = false)]

theorem reads_pair {readSecond : Reader β} {second : Document} {other : β}
    (reads : Reads limit read document value) (readsSecond : Reads limit readSecond second other) :
    Reads limit (readPair read readSecond) (.list [document, second]) (value, other) := by
  intro text rest spelled short _
  obtain ⟨body, elements, less, opened⟩ := spelled.exists_elements
  obtain ⟨more, spelledMore, shortMore, takenFirst⟩ :=
    readElement_spelled reads elements (Nat.lt_trans less short)
  obtain ⟨last, spelledLast, _, takenSecond⟩ :=
    readElement_spelled readsSecond spelledMore shortMore
  rw [readPair, bind_of_ok (opened rest), bind_of_ok (takenFirst rest),
    bind_of_ok (takenSecond rest), bind_of_ok (closeList_spelled spelledLast rest)]
  rfl

end Lists

/-! ## Objects -/

section Objects

variable {α β σ : Type} {limit : Nat} {document : Document}

/-- Like `Reads`, for a reader that begins after a key and before the colon. -/
def ReadsEntry (limit : Nat) (read : Reader α) (document : Document) (value : α) : Prop :=
  ∀ gap text rest, Blank gap → Spells document text → text.length < limit → Delimited rest →
    read (gap ++ ':' :: (text ++ rest)) = .ok (value, rest)

theorem readColon_gap {gap : List Char} (blank : Blank gap) (rest : List Char) :
    readColon (gap ++ ':' :: rest) = .ok ((), rest) := by
  simp [readColon, skipBlanks_gap blank (by decide : isBlank ':' = false)]

theorem Reads.entry {read : Reader α} {value : α} (reads : Reads limit read document value) :
    ReadsEntry limit (readColon >>= fun _ => read) document value := by
  intro gap text rest blank spelled short delimited
  rw [bind_of_ok (readColon_gap blank _)]
  exact reads text rest spelled short delimited

theorem ReadsEntry.map {read : Reader α} {value : α} (reads : ReadsEntry limit read document value)
    (next : α → β) : ReadsEntry limit (next <$> read) document (next value) := by
  intro gap text rest blank spelled short delimited
  rw [map_eq_pure_bind, bind_of_ok (reads gap text rest blank spelled short delimited)]
  rfl

theorem Reads.once {read : Reader α} {value : α} (reads : Reads limit read document value) :
    ReadsEntry limit (readOnce none read) document (some value) := by
  have firstTime : readOnce none read =
      (readColon >>= fun _ => read >>= fun value => pure (some value) : Reader (Option α)) := rfl
  rw [firstTime]
  apply Reads.entry
  exact reads.last rfl

/-- Members that are read one after the other take what has been read before them to what has been
read after them. -/
inductive ReadsMembers (limit : Nat) (member : σ → String → Reader σ) :
    List (String × Document) → σ → σ → Prop where
  | nil {state : σ} : ReadsMembers limit member [] state state
  | cons {key : String} {document : Document} {others : List (String × Document)}
      {before between after : σ} : ReadsEntry limit (member before key) document between →
      ReadsMembers limit member others between after →
      ReadsMembers limit member ((key, document) :: others) before after

variable {member : σ → String → Reader σ}

theorem SpellsMembers.exists_next {first : Bool} {key : String}
    {others : List (String × Document)} {text : List Char}
    (spelled : SpellsMembers first ((key, document) :: others) text) :
    ∃ gap value more, Blank gap ∧ Spells document value ∧ SpellsMembers false others more ∧
      value.length ≤ text.length ∧ more.length < text.length ∧
      ∀ (fuel : Nat) (before after : σ) (rest : List Char),
        member before key (gap ++ ':' :: (value ++ (more ++ rest))) = .ok (after, more ++ rest) →
        readMembers member (fuel + 1) first before (text ++ rest) =
          readMembers member fuel false after (more ++ rest) := by
  cases spelled with
  | first spelledName blank spelledValue spelledOthers =>
      cases spelledName with
      | text blankName chars =>
          refine ⟨_, _, _, blank, spelledValue, spelledOthers, by simp; omega, by simp; omega, ?_⟩
          intro fuel before after rest taken
          simp [readMembers, skipBlanks_gap blankName (by decide : isBlank '"' = false),
            readQuoted_spelled chars, taken]
  | next blankBefore spelledName blank spelledValue spelledOthers =>
      cases spelledName with
      | text blankName chars =>
          refine ⟨_, _, _, blank, spelledValue, spelledOthers, by simp; omega, by simp; omega, ?_⟩
          intro fuel before after rest taken
          simp [readMembers, skipBlanks_gap blankBefore (by decide : isBlank ',' = false),
            skipBlanks_gap blankName (by decide : isBlank '"' = false),
            readQuoted_spelled chars, taken]

theorem readMembers_spelled {members : List (String × Document)} {before after : σ}
    (reads : ReadsMembers limit member members before after) {first : Bool} {text : List Char}
    (spelled : SpellsMembers first members text) (short : text.length < limit) {fuel : Nat}
    (enough : text.length < fuel) (rest : List Char) :
    readMembers member fuel first before (text ++ rest) = .ok (after, rest) := by
  induction reads generalizing first text fuel with
  | nil =>
      obtain ⟨fuel, rfl⟩ := Nat.exists_eq_succ_of_ne_zero (Nat.ne_zero_of_lt enough)
      cases spelled with
      | close blank =>
          simp [readMembers, skipBlanks_gap blank (by decide : isBlank '\x7d' = false)]
  | @cons key document others before between after reads _ ih =>
      obtain ⟨fuel, rfl⟩ := Nat.exists_eq_succ_of_ne_zero (Nat.ne_zero_of_lt enough)
      obtain ⟨gap, value, more, blank, spelledValue, spelledOthers, inside, less, reached⟩ :=
        spelled.exists_next
      have taken := reads gap value (more ++ rest) blank spelledValue (by omega)
        (spelledOthers.delimited rest)
      rw [reached fuel before between rest taken]
      exact ih spelledOthers (by omega) (by omega)

theorem inner_lt {gap body : List Char} {opening : Char}
    (short : (gap ++ opening :: body).length < limit) : body.length < limit := by
  rw [List.length_append, List.length_cons] at short
  omega

theorem reads_mapping {entries : List (String × Document)} {before after : σ}
    (reads : ReadsMembers limit member entries before after) :
    Reads limit (readObject (readMembers member limit true before)) (.mapping entries) after := by
  intro text rest spelled short _
  cases spelled with
  | @mapping gap body _ blank members =>
      rw [List.append_assoc, readObject, List.cons_append, skipBlanks_gap blank (by decide)]
      exact readMembers_spelled reads members (inner_lt short) (inner_lt short) rest

/-- The field is taken up whenever it comes. `state known` is what has been read once the fields
with known keys have come. -/
def TakesUpField (limit : Nat) (member : σ → String → Reader σ) (state : (String → Bool) → σ)
    (key : String) (document : Document) : Prop :=
  ∀ known : String → Bool, known key = false →
    ReadsEntry limit (member (state known) key) document
      (state fun other => other == key || known other)

def TakesUp (limit : Nat) (member : σ → String → Reader σ) (state : (String → Bool) → σ)
    (fields : List (String × Document)) : Prop :=
  ∀ field ∈ fields, TakesUpField limit member state field.1 field.2

section Fields

variable {fields members : List (String × Document)} {state : (String → Bool) → σ}

theorem TakesUp.nil : TakesUp limit member state [] := by
  simp [TakesUp]

theorem TakesUp.cons {key : String} (first : TakesUpField limit member state key document)
    (others : TakesUp limit member state fields) :
    TakesUp limit member state ((key, document) :: fields) :=
  List.forall_mem_cons.mpr ⟨first, others⟩

theorem TakesUp.readsMembers (takesUp : TakesUp limit member state fields)
    (among : ∀ field ∈ members, field ∈ fields) (distinct : (members.map Prod.fst).Nodup)
    {known : String → Bool} (fresh : ∀ key ∈ members.map Prod.fst, known key = false) :
    ReadsMembers limit member members (state known)
      (state fun key => (members.map Prod.fst).contains key || known key) := by
  -- The keys that are known grow with each member, and stay apart from those still to come.
  induction members generalizing known with
  | nil => simpa using ReadsMembers.nil
  | cons field others ih =>
      obtain ⟨key, document⟩ := field
      obtain ⟨freshKey, freshOthers⟩ := List.forall_mem_cons.mp fresh
      obtain ⟨isField, areFields⟩ := List.forall_mem_cons.mp among
      obtain ⟨differs, distinctOthers⟩ := List.nodup_cons.mp distinct
      refine .cons (takesUp _ isField known freshKey) ?_
      have regrouped : (fun other => (key :: others.map Prod.fst).contains other || known other) =
          fun other => (others.map Prod.fst).contains other || (other == key || known other) := by
        funext other
        rw [List.contains_cons, Bool.or_assoc, Bool.or_left_comm]
      rw [List.map_cons, regrouped]
      refine ih areFields distinctOthers ?_
      intro other isOther
      have notKey : other ≠ key := fun same => differs (same ▸ isOther)
      simp [notKey, freshOthers other isOther]

/-- A record is read in any order of its fields. -/
theorem reads_record {asList : Reader α} {next : σ → Reader α} {start : σ} {value : α}
    (distinct : (fields.map Prod.fst).Nodup) (takesUp : TakesUp limit member state fields)
    (fresh : state (fun _ => false) = start)
    (ends : next (state fun key => (fields.map Prod.fst).contains key) = pure value) :
    Reads limit (readRecord asList (readMembers member limit true start >>= next)) (.record fields)
      value := by
  intro text rest spelled short _
  cases spelled with
  | @record gap body _ members blank order spelledMembers =>
      rw [List.append_assoc, readRecord, List.cons_append, skipBlanks_gap blank (by decide)]
      have keys := order.map Prod.fst
      have reads : ReadsMembers limit member members (state fun _ => false) _ :=
        takesUp.readsMembers (fun _ => order.mem_iff.mp) (keys.nodup_iff.mpr distinct) (by simp)
      have all : (fun key => (members.map Prod.fst).contains key || false) =
          fun key => (fields.map Prod.fst).contains key := by
        funext key
        rw [Bool.or_false, Bool.eq_iff_iff, List.contains_iff_mem, List.contains_iff_mem,
          keys.mem_iff]
      rw [all, fresh] at reads
      have taken := readMembers_spelled reads spelledMembers (inner_lt short) (inner_lt short) rest
      exact (bind_of_ok taken).trans (by rw [ends]; rfl)

end Fields

/-- The value of a field, once its key is known. -/
def ifKnown (known : Bool) (value : α) : Option α :=
  if known then some value else none

@[simp] theorem ifKnown_true (value : α) : ifKnown true value = some value := rfl

@[simp] theorem ifKnown_false (value : α) : ifKnown false value = none := rfl

end Objects

/-! ## Whole texts -/

theorem readWhole_of_holds {α : Type} {limit : Nat} {read : Reader α} {document : Document}
    {value : α} {text : String} (reads : Reads limit read document value)
    (holds : Holds text document) (enough : text.toList.length < limit) :
    readWhole read text.toList = .ok value := by
  obtain ⟨body, gap, spelled, blank, split⟩ := holds
  rw [split, List.length_append] at enough
  have taken := reads body gap spelled (by omega) (delimited_of_blank blank)
  have nothing : skipBlanks gap = [] := List.dropWhile_eq_nil_iff.mpr blank
  simp [split, readWhole, taken, nothing]

end TransitionNetwork.Json
