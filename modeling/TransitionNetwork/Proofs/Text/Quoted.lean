import TransitionNetwork.Text.Quoted

/-!
# Quoted text is unambiguous

Where the encoding of a value ends can be seen without knowing what follows, so encodings that are
written one after another can be told apart. The escapes of characters are of this kind, and with
them quoted texts: the closing quote is the first one that no escape contains. Whatever a text
holds, all of its quoted form can be seen. In particular it contains no line end and never spreads
over two lines.
-/

set_option autoImplicit false

namespace TransitionNetwork

/-! ## Encodings that end by themselves -/

/-- No encoding begins with another one: an encoding and what follows it are determined by the
whole. -/
def PrefixFree {α β : Type} (encode : α → List β) : Prop :=
  ∀ (left right : α) (behindLeft behindRight : List β),
    encode left ++ behindLeft = encode right ++ behindRight →
      left = right ∧ behindLeft = behindRight

section PrefixFree

variable {α β : Type} {encode : α → List β}

theorem PrefixFree.injective (free : PrefixFree encode) : Function.Injective encode := by
  intro left right same
  exact (free left right [] [] (by rw [same])).1

/-- Two texts that end at the first occurrence of a mark. -/
theorem eq_of_marked {mark : β} {left right behindLeft behindRight : List β}
    (notLeft : mark ∉ left) (notRight : mark ∉ right)
    (same : left ++ mark :: behindLeft = right ++ mark :: behindRight) :
    left = right ∧ behindLeft = behindRight := by
  induction left generalizing right with
  | nil =>
      cases right with
      | nil => simpa using same
      | cons first others =>
          obtain ⟨rfl, _⟩ := List.cons.inj same
          exact absurd List.mem_cons_self notRight
  | cons first others ih =>
      cases right with
      | nil =>
          obtain ⟨rfl, _⟩ := List.cons.inj same
          exact absurd List.mem_cons_self notLeft
      | cons other rest =>
          obtain ⟨rfl, tails⟩ := List.cons.inj same
          obtain ⟨rfl, behind⟩ := ih (fun member => notLeft (List.mem_cons_of_mem _ member))
            (fun member => notRight (List.mem_cons_of_mem _ member)) tails
          exact ⟨rfl, behind⟩

/-- A mark that occurs in no encoding makes the encodings end by themselves. -/
theorem PrefixFree.of_mark {mark : β} (injective : Function.Injective encode)
    (absent : ∀ value, mark ∉ encode value) : PrefixFree fun value => encode value ++ [mark] := by
  intro left right behindLeft behindRight same
  rw [List.append_assoc, List.append_assoc] at same
  obtain ⟨encoded, behind⟩ := eq_of_marked (absent left) (absent right) same
  exact ⟨injective encoded, behind⟩

/-- Encodings in a row, up to something that no encoding begins. -/
theorem PrefixFree.flatMap (free : PrefixFree encode) {left right : List α}
    {behindLeft behindRight : List β}
    (leftStops : ∀ value rest, encode value ++ rest ≠ behindLeft)
    (rightStops : ∀ value rest, encode value ++ rest ≠ behindRight)
    (same : left.flatMap encode ++ behindLeft = right.flatMap encode ++ behindRight) :
    left = right ∧ behindLeft = behindRight := by
  induction left generalizing right with
  | nil =>
      cases right with
      | nil => exact ⟨rfl, same⟩
      | cons first others =>
          rw [List.flatMap_cons, List.append_assoc] at same
          exact absurd same.symm (leftStops first _)
  | cons first others ih =>
      rw [List.flatMap_cons, List.append_assoc] at same
      cases right with
      | nil => exact absurd same (rightStops first _)
      | cons other rest =>
          rw [List.flatMap_cons, List.append_assoc] at same
          obtain ⟨rfl, tails⟩ := free _ _ _ _ same
          obtain ⟨rfl, behind⟩ := ih tails
          exact ⟨rfl, behind⟩

end PrefixFree

/-! ## Hexadecimal numbers -/

section Hexadecimal

theorem eq_of_digitChar_eq :
    ∀ left < 16, ∀ right < 16, Nat.digitChar left = Nat.digitChar right → left = right := by
  decide

/-- The last hexadecimal digit of a number, and those before it. -/
theorem toDigits_hex (number : Nat) :
    Nat.toDigits 16 number =
      (if number < 16 then [] else Nat.toDigits 16 (number / 16)) ++
        [Nat.digitChar (number % 16)] := by
  split
  · next small => rw [Nat.toDigits_of_lt_base small, Nat.mod_eq_of_lt small, List.nil_append]
  · next large => exact Nat.toDigits_of_base_le (by decide) (Nat.le_of_not_lt large)

theorem toDigits_hex_injective : Function.Injective (Nat.toDigits 16) := by
  intro left
  induction left using Nat.strongRecOn with
  | ind left ih =>
      intro right same
      rw [toDigits_hex left, toDigits_hex right] at same
      obtain ⟨high, low⟩ := List.append_inj' same rfl
      have lastSame : left % 16 = right % 16 :=
        eq_of_digitChar_eq _ (Nat.mod_lt _ (by decide)) _ (Nat.mod_lt _ (by decide))
          (List.cons.inj low).1
      split at high <;> split at high
      · omega
      · exact absurd high.symm Nat.toDigits_ne_nil
      · exact absurd high Nat.toDigits_ne_nil
      · have highSame := ih (left / 16) (by omega) high
        omega

theorem exists_digit_of_mem {number : Nat} {c : Char} (member : c ∈ Nat.toDigits 16 number) :
    ∃ digit < 16, c = Nat.digitChar digit := by
  induction number using Nat.strongRecOn with
  | ind number ih =>
      rw [toDigits_hex, List.mem_append, List.mem_singleton] at member
      rcases member with high | low
      · split at high
        · cases high
        · exact ih (number / 16) (by omega) high
      · exact ⟨number % 16, Nat.mod_lt _ (by decide), low⟩

theorem not_mem_toDigits_hex {number : Nat} {c : Char}
    (noDigit : ∀ digit < 16, c ≠ Nat.digitChar digit) : c ∉ Nat.toDigits 16 number := by
  intro member
  obtain ⟨digit, small, same⟩ := exists_digit_of_mem member
  exact noDigit digit small same

end Hexadecimal

namespace Text

/-! ## Escapes -/

/-- What the character behind a backslash stands for, if it is not the mark of a code point. -/
def shortMeaning? : Char → Option Char
  | '0' => some '\x00'
  | 't' => some '\t'
  | 'r' => some '\r'
  | 'n' => some '\n'
  | '\\' => some '\\'
  | '"' => some '"'
  | _ => none

/-- The three forms in which characters stand in quoted text. -/
inductive Escaped : Char → List Char → Prop where
  | literal {c : Char} : c ≠ '\\' → c ≠ '"' → needsCodePoint c = false → Escaped c [c]
  | short {c mark : Char} : shortMeaning? mark = some c → Escaped c ['\\', mark]
  | codePoint {c : Char} : Escaped c (codePointEscape c)

theorem escaped_escape (c : Char) : Escaped c (escape c) := by
  unfold escape
  split
  · exact .short rfl
  · exact .short rfl
  · exact .short rfl
  · exact .short rfl
  · exact .short rfl
  · exact .short rfl
  · next notBackslash notQuote =>
      split
      · exact .codePoint
      · next shown => exact .literal notBackslash notQuote (Bool.eq_false_iff.mpr shown)

theorem codePointEscape_prefixFree : PrefixFree codePointEscape := by
  intro left right behindLeft behindRight same
  have digits : Nat.toDigits 16 left.toNat ++ '\x7d' :: behindLeft =
      Nat.toDigits 16 right.toNat ++ '\x7d' :: behindRight := by
    simpa [codePointEscape] using same
  obtain ⟨code, behind⟩ := eq_of_marked (not_mem_toDigits_hex (by decide))
    (not_mem_toDigits_hex (by decide)) digits
  exact ⟨Char.toNat_inj.mp (toDigits_hex_injective code), behind⟩

theorem escape_prefixFree : PrefixFree escape := by
  intro left right behindLeft behindRight same
  have leftEscaped := escaped_escape left
  have rightEscaped := escaped_escape right
  generalize escape left = leftChars at same leftEscaped
  generalize escape right = rightChars at same rightEscaped
  cases leftEscaped with
  | literal notBackslash _ _ =>
      cases rightEscaped with
      | literal => simpa using same
      | short => exact absurd (List.cons.inj same).1 notBackslash
      | codePoint => exact absurd (List.cons.inj same).1 notBackslash
  | short leftMeaning =>
      cases rightEscaped with
      | literal notBackslash _ _ => exact absurd (List.cons.inj same).1.symm notBackslash
      | short rightMeaning =>
          obtain ⟨_, marks⟩ := List.cons.inj same
          obtain ⟨rfl, behind⟩ := List.cons.inj marks
          exact ⟨Option.some.inj (leftMeaning.symm.trans rightMeaning), behind⟩
      | codePoint =>
          obtain ⟨_, marks⟩ := List.cons.inj same
          obtain ⟨rfl, _⟩ := List.cons.inj marks
          cases leftMeaning
  | codePoint =>
      cases rightEscaped with
      | literal notBackslash _ _ => exact absurd (List.cons.inj same).1.symm notBackslash
      | short rightMeaning =>
          obtain ⟨_, marks⟩ := List.cons.inj same
          obtain ⟨rfl, _⟩ := List.cons.inj marks
          cases rightMeaning
      | codePoint => exact codePointEscape_prefixFree _ _ _ _ same

theorem escape_append_ne_quote (c : Char) (rest behind : List Char) :
    escape c ++ rest ≠ '"' :: behind := by
  intro same
  have escaped := escaped_escape c
  generalize escape c = chars at same escaped
  cases escaped with
  | literal _ notQuote _ => exact notQuote (List.cons.inj same).1
  | short => exact absurd (List.cons.inj same).1 (by decide)
  | codePoint => exact absurd (List.cons.inj same).1 (by decide)

/-! ## Quoted texts -/

theorem quoteChars_prefixFree : PrefixFree quoteChars := by
  intro left right behindLeft behindRight same
  have inside : left.flatMap escape ++ '"' :: behindLeft =
      right.flatMap escape ++ '"' :: behindRight := by
    simpa [quoteChars] using same
  obtain ⟨chars, behind⟩ := escape_prefixFree.flatMap
    (fun c rest => escape_append_ne_quote c rest behindLeft)
    (fun c rest => escape_append_ne_quote c rest behindRight) inside
  exact ⟨chars, (List.cons.inj behind).2⟩

/-- Different texts are quoted differently. -/
theorem quote_injective : Function.Injective quote := by
  intro left right same
  have chars := congrArg String.toList same
  rw [toList_quote, toList_quote] at chars
  exact String.toList_inj.mp (quoteChars_prefixFree.injective chars)

/-! ## What quoted texts show -/

/-- Both tables are ascending, so the search misses none of their ranges. -/
theorem needsCodePoint_iff {c : Char} :
    needsCodePoint c = true ↔
      ∃ range ∈ extendingMarks ++ unprintable, range.1 ≤ c.toNat ∧ c.toNat ≤ range.2 := by
  rw [needsCodePoint, Bool.or_eq_true, Ranges.contains_iff ascending_extendingMarks,
    Ranges.contains_iff ascending_unprintable]
  simp only [List.mem_append, or_and_right, exists_or]

theorem needsCodePoint_digitChar : ∀ digit < 16, needsCodePoint (Nat.digitChar digit) = false := by
  decide

theorem needsCodePoint_of_shortMeaning {mark c : Char} (meaning : shortMeaning? mark = some c) :
    needsCodePoint mark = false := by
  unfold shortMeaning? at meaning
  split at meaning
  case h_7 => cases meaning
  all_goals decide

/-- No character of an escape would have to be escaped itself. -/
theorem needsCodePoint_of_mem_escape {c shown : Char} (member : shown ∈ escape c) :
    needsCodePoint shown = false := by
  have escaped := escaped_escape c
  generalize escape c = chars at member escaped
  cases escaped with
  | literal _ _ itself => rwa [List.mem_singleton.mp member]
  | short meaning =>
      rcases List.mem_cons.mp member with rfl | last
      · decide
      · rw [List.mem_singleton.mp last]
        exact needsCodePoint_of_shortMeaning meaning
  | codePoint =>
      simp only [codePointEscape, List.mem_cons, List.mem_append, List.not_mem_nil,
        or_false] at member
      rcases member with rfl | rfl | rfl | isDigit | rfl
      · decide
      · decide
      · decide
      · obtain ⟨digit, small, rfl⟩ := exists_digit_of_mem isDigit
        exact needsCodePoint_digitChar digit small
      · decide

/-- Every character of a quoted text can be seen and keeps apart from its neighbours: it lies in no
range of unprintable characters or of extending marks. -/
theorem visible_of_mem_quote {text : String} {c : Char} (member : c ∈ (quote text).toList) :
    ∀ range ∈ extendingMarks ++ unprintable, ¬ (range.1 ≤ c.toNat ∧ c.toNat ≤ range.2) := by
  have shown : needsCodePoint c = false := by
    simp only [toList_quote, quoteChars, List.mem_cons, List.mem_append, List.mem_flatMap,
      List.not_mem_nil, or_false] at member
    rcases member with rfl | ⟨inside, _, escaped⟩ | rfl
    · decide
    · exact needsCodePoint_of_mem_escape escaped
    · decide
  intro range inTables within
  have hidden := needsCodePoint_iff.mpr ⟨range, inTables, within⟩
  rw [shown] at hidden
  cases hidden

theorem lineEnd_not_mem_quote (text : String) : '\n' ∉ (quote text).toList := by
  intro member
  have control : (0x0, 0x1F) ∈ extendingMarks ++ unprintable :=
    List.mem_append_right _ List.mem_cons_self
  exact visible_of_mem_quote member _ control ⟨by decide, by decide⟩

/-- A line end, a quote and a combining accent are all escaped; the accented letter is not. -/
example : quote "\n\"e\u0301é" = "\"\\n\\\"e\\u\x7b301\x7dé\"" := by
  decide +kernel

end Text

end TransitionNetwork
