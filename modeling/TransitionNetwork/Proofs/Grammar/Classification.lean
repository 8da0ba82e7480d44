import Mathlib.Data.List.Perm.Basic
import TransitionNetwork.Grammar.Classification
import TransitionNetwork.Proofs.Grammar.Validity

/-!
# Labels of tokens

In a valid grammar no two labels stand for the same names. A name therefore has at most one label
that it can be classified as, and which one that is depends on the labels but not on their order: a
keyword comes before the label for other names, wherever the two stand. Tokens of other kinds have
the first label of their kind.
-/

set_option autoImplicit false

namespace TransitionNetwork

/-! ## Names in one pass -/

/-- The position of a name's label, searched for in one pass from a position on: a keyword with the
text ends the search, and the first label for other names is remembered until the end. -/
def searchName (text : String) (position : Nat) (remembered : Option Nat) :
    List Label → Option Nat
  | [] => remembered
  | label :: rest =>
      if label.isKeyword then
        if label.literal = some text then some position
        else searchName text (position + 1) remembered rest
      else if label.tokenKind? = some .name then
        searchName text (position + 1) (remembered.or (some position)) rest
      else
        searchName text (position + 1) remembered rest

theorem Label.beq_keyword_of_not_isKeyword {label : Label} (notKeyword : ¬ label.isKeyword)
    (text : String) : (label == .keyword text) = false := by
  rw [beq_eq_false_iff_ne]
  intro same
  exact notKeyword (Label.isKeyword_iff.mpr ⟨text, same⟩)

/-- Of the labels for names, only the one without a literal is not a keyword. -/
theorem Label.eq_token_name {label : Label} (notKeyword : ¬ label.isKeyword)
    (isName : label.tokenKind? = some .name) : label = .token .name := by
  obtain ⟨kind, literal⟩ := label
  cases Label.tokenKind?_eq_some_iff.mp isName
  cases literal with
  | none => rfl
  | some literal => exact absurd rfl notKeyword

-- The pass may start anywhere and with something remembered; what it finds in the rest of the table
-- stands relative to the position, and anything remembered comes before it.
theorem searchName_eq (text : String) (position : Nat) (remembered : Option Nat)
    (labels : List Label) :
    searchName text position remembered labels =
      ((labels.findIdx? (· == .keyword text)).map (position + ·)).or
        (remembered.or ((labels.findIdx? (· == .token .name)).map (position + ·))) := by
  induction labels generalizing position remembered with
  | nil => simp [searchName]
  | cons label rest ih =>
      have shifted (found : Option Nat) :
          (found.map (· + 1)).map (position + ·) = found.map (position + 1 + ·) := by
        simp [Function.comp_def, Nat.add_assoc, Nat.add_comm 1]
      simp only [searchName, List.findIdx?_cons, ih]
      by_cases isKeyword : label.isKeyword = true
      · obtain ⟨literal, rfl⟩ := Label.isKeyword_iff.mp isKeyword
        have notOther : (Label.keyword literal == .token .name) = false := rfl
        by_cases same : literal = text
        · subst same
          have pinned : (Label.keyword literal).literal = some literal := rfl
          rw [if_pos isKeyword, if_pos pinned]
          simp
        · have notThis : (Label.keyword literal == .keyword text) = false := by
            simpa [Label.keyword, Label.pinned] using same
          have different : (Label.keyword literal).literal ≠ some text := by
            simpa [Label.keyword, Label.pinned] using same
          rw [if_pos isKeyword, if_neg different]
          simp [notThis, notOther, shifted]
      · have notThis := Label.beq_keyword_of_not_isKeyword isKeyword text
        rw [if_neg isKeyword]
        by_cases isName : label.tokenKind? = some .name
        · obtain rfl := Label.eq_token_name isKeyword isName
          rw [if_pos isName]
          simp [notThis, shifted]
        · have notOther : (label == .token .name) = false := by
            rw [beq_eq_false_iff_ne]
            intro same
            exact isName (by rw [same]; rfl)
          rw [if_neg isName]
          simp [notThis, notOther, shifted]

namespace Grammar

/-! ## Labels without duplicates -/

/-- What classification relies on: the positions of labels fit into their numbers, and no two labels
stand for the same tokens. The order of the labels does not matter. -/
structure Classifies (grammar : Grammar) : Prop where
  labels_le : grammar.labels.size ≤ 65535
  distinct : grammar.labels.toList.Pairwise fun left right => ¬ Clash left right

section Labels

variable {grammar other : Grammar} {label : Label}

theorem Clash.symm {left right : Label} (clash : Clash left right) : Clash right left := by
  cases clash with
  | fallback => exact .fallback
  | keyword => exact .keyword

theorem Valid.classifies (valid : grammar.Valid) : grammar.Classifies where
  labels_le := valid.labels_le
  distinct := by
    rw [List.pairwise_iff_getElem]
    intro earlier later earlierInside laterInside before
    have found : grammar.labels[later]? = some (grammar.labels.toList[later]) := by
      rw [← Array.getElem?_toList, List.getElem?_eq_getElem]
    refine (valid.labels later _ found).distinct earlier before _ ?_
    rw [← Array.getElem?_toList, List.getElem?_eq_getElem]

theorem Classifies.reorder (classifies : grammar.Classifies)
    (reordered : other.labels.Perm grammar.labels) : other.Classifies where
  labels_le := by
    rw [reordered.size_eq]
    exact classifies.labels_le
  distinct := by
    have symmetric {left right : Label} (apart : ¬ Clash left right) : ¬ Clash right left :=
      fun clash => apart clash.symm
    exact (reordered.toList.pairwise_iff symmetric).mpr classifies.distinct

theorem Classifies.position_unique (classifies : grammar.Classifies) (exclusive : Clash label label)
    {first second : Nat} (firstFound : grammar.labels[first]? = some label)
    (secondFound : grammar.labels[second]? = some label) : first = second := by
  have apart {left right : Nat} (leftFound : grammar.labels[left]? = some label)
      (rightFound : grammar.labels[right]? = some label) : ¬ left < right := by
    intro before
    rw [← Array.getElem?_toList] at leftFound rightFound
    obtain ⟨leftInside, leftSame⟩ := List.getElem?_eq_some_iff.mp leftFound
    obtain ⟨rightInside, rightSame⟩ := List.getElem?_eq_some_iff.mp rightFound
    have distinct := List.pairwise_iff_getElem.mp classifies.distinct left right leftInside
      rightInside before
    rw [leftSame, rightSame] at distinct
    exact distinct exclusive
  have notBefore := apart firstFound secondFound
  have notAfter := apart secondFound firstFound
  omega

theorem Classifies.findIdx?_eq_some_iff (classifies : grammar.Classifies)
    (exclusive : Clash label label) {position : Nat} :
    grammar.labels.findIdx? (· == label) = some position ↔
      grammar.labels[position]? = some label := by
  constructor
  · intro found
    obtain ⟨inside, same, _⟩ := Array.findIdx?_eq_some_iff_getElem.mp found
    rw [Array.getElem?_eq_getElem inside, beq_iff_eq.mp same]
  · intro there
    obtain ⟨inside, same⟩ := Array.getElem?_eq_some_iff.mp there
    refine Array.findIdx?_eq_some_iff_getElem.mpr ⟨inside, by simp [same], ?_⟩
    intro earlier before alike
    have again : grammar.labels[earlier]? = some label := by
      rw [Array.getElem?_eq_getElem (Nat.lt_trans before inside)]
      simpa using alike
    have unique := classifies.position_unique exclusive again there
    omega

theorem findIdx?_eq_none_iff_not_mem :
    grammar.labels.findIdx? (· == label) = none ↔ label ∉ grammar.labels := by
  rw [Array.findIdx?_eq_none_iff]
  constructor
  · intro absent member
    simpa using absent label member
  · rintro absent entry member
    rw [beq_eq_false_iff_ne]
    rintro rfl
    exact absent member

end Labels

/-! ## Classification -/

section Classification

variable {grammar other : Grammar} {token : Token} {id : LabelId}

theorem map_toUInt16_eq_some_iff {position : Option Nat}
    (small : ∀ place, position = some place → place < 65536) :
    position.map Nat.toUInt16 = some id ↔ position = some id.toNat := by
  constructor
  · intro found
    obtain ⟨place, rfl, rfl⟩ := Option.map_eq_some_iff.mp found
    simp [Nat.toUInt16, Nat.mod_eq_of_lt (small place rfl)]
  · rintro rfl
    simp [Nat.toUInt16]

theorem Classifies.position_lt (classifies : grammar.Classifies) {position : Nat} {label : Label}
    (found : grammar.labels[position]? = some label) : position < 65536 := by
  obtain ⟨inside, _⟩ := Array.getElem?_eq_some_iff.mp found
  have few := classifies.labels_le
  omega

theorem Classifies.exists_label? (classifies : grammar.Classifies) {label : Label}
    (member : label ∈ grammar.labels) : ∃ id, grammar.label? id = some label := by
  obtain ⟨position, found⟩ := Array.mem_iff_getElem?.mp member
  refine ⟨position.toUInt16, ?_⟩
  have exact : position.toUInt16.toNat = position := by
    simp [Nat.toUInt16, Nat.mod_eq_of_lt (classifies.position_lt found)]
  rwa [label?, exact]

theorem Classifies.classify_name_eq_some_iff (classifies : grammar.Classifies)
    (isName : token.kind = .name) :
    grammar.classify token = some id ↔
      grammar.label? id = some (.keyword token.text) ∨
        Label.keyword token.text ∉ grammar.labels ∧ grammar.label? id = some (.token .name) := by
  have iff (position : Nat) :
      (grammar.labels.findIdx? (· == .keyword token.text)).or
          (grammar.labels.findIdx? (· == .token .name)) = some position ↔
        grammar.labels[position]? = some (.keyword token.text) ∨
          Label.keyword token.text ∉ grammar.labels ∧
            grammar.labels[position]? = some (.token .name) := by
    rw [Option.or_eq_some_iff, classifies.findIdx?_eq_some_iff .keyword,
      classifies.findIdx?_eq_some_iff .fallback, findIdx?_eq_none_iff_not_mem]
  rw [classify, if_pos isName, map_toUInt16_eq_some_iff, iff]
  · rfl
  · intro position found
    rcases (iff position).mp found with there | ⟨_, there⟩ <;> exact classifies.position_lt there

theorem classify_name_eq_none_iff (isName : token.kind = .name) :
    grammar.classify token = none ↔
      Label.keyword token.text ∉ grammar.labels ∧ Label.token .name ∉ grammar.labels := by
  rw [classify, if_pos isName, Option.map_eq_none_iff, Option.or_eq_none_iff,
    findIdx?_eq_none_iff_not_mem, findIdx?_eq_none_iff_not_mem]

/-- In another order of the same labels, a name has the same label at its position there. -/
theorem Classifies.classify_name_reorder (classifies : grammar.Classifies)
    (isName : token.kind = .name) (reordered : other.labels.Perm grammar.labels) :
    other.classify token = some id ↔
      ∃ same, grammar.classify token = some same ∧ other.label? id = grammar.label? same := by
  have mem_iff (label : Label) : label ∈ other.labels ↔ label ∈ grammar.labels :=
    reordered.mem_iff
  simp only [(classifies.reorder reordered).classify_name_eq_some_iff isName,
    classifies.classify_name_eq_some_iff isName, mem_iff]
  constructor
  · rintro (there | ⟨noKeyword, there⟩)
    · obtain ⟨same, found⟩ :=
        classifies.exists_label? ((mem_iff _).mp (Array.mem_of_getElem? there))
      exact ⟨same, .inl found, there.trans found.symm⟩
    · obtain ⟨same, found⟩ :=
        classifies.exists_label? ((mem_iff _).mp (Array.mem_of_getElem? there))
      exact ⟨same, .inr ⟨noKeyword, found⟩, there.trans found.symm⟩
  · rintro ⟨same, found | ⟨noKeyword, found⟩, alike⟩
    · exact .inl (alike.trans found)
    · exact .inr ⟨noKeyword, alike.trans found⟩

theorem Classifies.classify_other_eq_some_iff (classifies : grammar.Classifies)
    (notName : token.kind ≠ .name) :
    grammar.classify token = some id ↔
      (∃ label, grammar.label? id = some label ∧ label.kind = .token token.kind) ∧
        ∀ position < id.toNat, ∀ label, grammar.labels[position]? = some label →
          label.kind ≠ .token token.kind := by
  rw [classify, if_neg notName, map_toUInt16_eq_some_iff, Array.findIdx?_eq_some_iff_getElem]
  · constructor
    · rintro ⟨inside, same, least⟩
      refine ⟨⟨_, Array.getElem?_eq_getElem inside, by simpa using same⟩, ?_⟩
      intro position before label found alike
      obtain ⟨_, rfl⟩ := Array.getElem?_eq_some_iff.mp found
      exact least position before (by simpa using alike)
    · rintro ⟨⟨label, found, same⟩, least⟩
      obtain ⟨inside, rfl⟩ := Array.getElem?_eq_some_iff.mp found
      refine ⟨inside, by simpa using same, ?_⟩
      intro position before alike
      exact least position before _ (Array.getElem?_eq_getElem _) (by simpa using alike)
  · intro position found
    obtain ⟨inside, _⟩ := Array.findIdx?_eq_some_iff_getElem.mp found
    exact classifies.position_lt (Array.getElem?_eq_getElem inside)

theorem classify_other_eq_none_iff (notName : token.kind ≠ .name) :
    grammar.classify token = none ↔ ∀ label ∈ grammar.labels, label.kind ≠ .token token.kind := by
  rw [classify, if_neg notName, Option.map_eq_none_iff, Array.findIdx?_eq_none_iff]
  simp

/-- Whatever its kind, a token has a label of that kind. -/
theorem Classifies.exists_label_of_classify (classifies : grammar.Classifies)
    (classified : grammar.classify token = some id) :
    ∃ label, grammar.label? id = some label ∧ label.kind = .token token.kind := by
  by_cases isName : token.kind = .name
  · rw [isName]
    rcases (classifies.classify_name_eq_some_iff isName).mp classified with there | ⟨_, there⟩
    · exact ⟨_, there, rfl⟩
    · exact ⟨_, there, rfl⟩
  · exact ((classifies.classify_other_eq_some_iff isName).mp classified).1

theorem classify_eq_searchName (isName : token.kind = .name) :
    grammar.classify token =
      (searchName token.text 0 none grammar.labels.toList).map Nat.toUInt16 := by
  have asList (p : Label → Bool) :
      grammar.labels.findIdx? p = grammar.labels.toList.findIdx? p := by
    rw [← List.findIdx?_toArray, Array.toArray_toList]
  rw [classify, if_pos isName, searchName_eq]
  simp [asList]

end Classification

/-! ## Main statement -/

/-- Classification is exact. A name has the label of the keyword that it spells, or else the label
for other names; each of them is there at most once, and the name has no label only if both are
missing. In every other order of the labels the name has the same label. A token of another kind has
the first label of its kind, literals or not. A label that a token has is in the table and stands
for tokens of that kind. -/
theorem classify_exact (grammar : Grammar) (token : Token) (valid : grammar.validate = .ok ()) :
    (token.kind = .name →
      (∀ id, grammar.classify token = some id ↔
        grammar.label? id = some (.keyword token.text) ∨
          Label.keyword token.text ∉ grammar.labels ∧
            grammar.label? id = some (.token .name)) ∧
      (∀ label : Label, label = .keyword token.text ∨ label = .token .name →
        ∀ first second : Nat, grammar.labels[first]? = some label →
          grammar.labels[second]? = some label → first = second) ∧
      (grammar.classify token = none ↔
        Label.keyword token.text ∉ grammar.labels ∧ Label.token .name ∉ grammar.labels) ∧
      (∀ other : Grammar, other.labels.Perm grammar.labels →
        ∀ id, other.classify token = some id ↔
          ∃ same, grammar.classify token = some same ∧ other.label? id = grammar.label? same) ∧
      grammar.classify token =
        (searchName token.text 0 none grammar.labels.toList).map Nat.toUInt16) ∧
    (token.kind ≠ .name →
      (∀ id, grammar.classify token = some id ↔
        (∃ label, grammar.label? id = some label ∧ label.kind = .token token.kind) ∧
          ∀ position < id.toNat, ∀ label, grammar.labels[position]? = some label →
            label.kind ≠ .token token.kind) ∧
      (grammar.classify token = none ↔
        ∀ label ∈ grammar.labels, label.kind ≠ .token token.kind)) ∧
    ∀ id, grammar.classify token = some id →
      id.toNat < grammar.labels.size ∧
        ∃ label, grammar.label? id = some label ∧ label.kind = .token token.kind := by
  have classifies := (defect?_eq_none_iff.mp (validate_eq_ok_iff.mp valid)).classifies
  refine ⟨?_, ?_, ?_⟩
  · intro isName
    refine ⟨fun id => classifies.classify_name_eq_some_iff isName, ?_,
      classify_name_eq_none_iff isName, ?_, classify_eq_searchName isName⟩
    · rintro label (rfl | rfl) first second
      · exact classifies.position_unique .keyword
      · exact classifies.position_unique .fallback
    · intro other reordered id
      exact classifies.classify_name_reorder isName reordered
  · intro notName
    exact ⟨fun id => classifies.classify_other_eq_some_iff notName,
      classify_other_eq_none_iff notName⟩
  · intro id classified
    obtain ⟨label, found, kind⟩ := classifies.exists_label_of_classify classified
    obtain ⟨inside, _⟩ := Array.getElem?_eq_some_iff.mp found
    exact ⟨inside, label, found, kind⟩

def wordLabels : Array Label :=
  #[.empty, .token .name, .keyword "if", .token .number, .pinned .number "0"]

/-- A keyword behind the label for other names keeps its name, and so it does in front of it. The
second label for numbers, which has a literal, plays no part. -/
theorem classify_exact_words :
    (oneWord wordLabels).validate = .ok () ∧
      (oneWord wordLabels).classify ⟨.name, "if", 1⟩ = some 2 ∧
      (oneWord #[.keyword "if", .empty, .token .name, .pinned .number "0", .token .number]).classify
        ⟨.name, "if", 1⟩ = some 0 ∧
      (oneWord wordLabels).classify ⟨.number, "0", 1⟩ = some 3 := by
  have valid : (oneWord wordLabels).validate = .ok () :=
    validate_eq_ok_iff.mpr (by decide +kernel)
  obtain ⟨names, _, _⟩ := classify_exact _ ⟨.name, "if", 1⟩ valid
  obtain ⟨name_iff, _, _, reorder, _⟩ := names rfl
  obtain ⟨_, others, _⟩ := classify_exact _ ⟨.number, "0", 1⟩ valid
  obtain ⟨number_iff, _⟩ := others (by decide)
  have keyword := (name_iff 2).mpr (.inl rfl)
  refine ⟨valid, keyword, ?_, ?_⟩
  · refine (reorder _ ?_ 0).mpr ⟨2, keyword, rfl⟩
    rw [Array.perm_iff_toList_perm]
    decide
  · refine (number_iff 3).mpr ⟨⟨_, rfl, rfl⟩, ?_⟩
    intro position before label found
    have three : position = 0 ∨ position = 1 ∨ position = 2 := by
      change position < 3 at before
      omega
    rcases three with rfl | rfl | rfl <;> cases found <;> decide

end Grammar

end TransitionNetwork
