import TransitionNetwork.Proofs.Grammar.Storage
import TransitionNetwork.Proofs.Grammar.TableText

/-!
# Names for numbers

Table text puts names for the numbers of nonterminals. Where the automata of a grammar have distinct
names and are numbered in order, resolving the names gives the grammar back. So loading a text that
holds a table of these names is the same as building the network from the grammar, and fails with
the same defect.
-/

set_option autoImplicit false

namespace TransitionNetwork

open Json

/-! ## Names -/

/-- What a grammar has to be like for names to stand for its numbers: the automata have distinct
names and are numbered in order, of the labels only those of tokens have literals, and a label
stands for no nonterminal but those of the grammar. -/
structure Grammar.Nameable (grammar : Grammar) : Prop where
  few : grammar.automata.size ≤ 65280
  distinct : (grammar.automata.toList.map Automaton.name).Nodup
  numbered : ∀ (position : Nat) (automaton : Automaton),
    grammar.automata[position]? = some automaton → automaton.id = .ofIndex position
  unpinned : ∀ label ∈ grammar.labels, label.literal.isSome = true →
    ∃ kind, label.kind = .token kind
  listed : ∀ label ∈ grammar.labels, ∀ id, label.kind = .nonterminal id →
    ∃ automaton ∈ grammar.automata, automaton.id = id

inductive LabelText.Names (grammar : Grammar) : LabelText → Label → Prop where
  | empty : Names grammar (.plain emptyName) .empty
  | bare {kind : TokenKind} : Names grammar (.plain kind.canonicalName) (.token kind)
  | token {kind : TokenKind} {literal : Option String} :
      Names grammar (.token kind.canonicalName literal) ⟨.token kind, literal⟩
  | nonterminal {automaton : Automaton} : automaton ∈ grammar.automata →
      Names grammar (.nonterminal automaton.name) (.nonterminal automaton.id)

/-- The start symbol goes by the name of its automaton, or by none if it is the first. -/
inductive Grammar.StartName (grammar : Grammar) : Option String → Prop where
  | named {automaton : Automaton} : automaton ∈ grammar.automata →
      automaton.id = grammar.start → grammar.StartName (some automaton.name)
  | omitted : grammar.start = .ofIndex 0 → grammar.StartName none

def AutomatonText.ofAutomaton (automaton : Automaton) : AutomatonText :=
  { initial := automaton.initial, states := automaton.states }

theorem Grammar.Nameable.nameOf {grammar : Grammar} (nameable : grammar.Nameable)
    {automaton : Automaton} (among : automaton ∈ grammar.automata) :
    grammar.nameOf automaton.id = automaton.name := by
  obtain ⟨position, found⟩ := Array.mem_iff_getElem?.mp among
  have inside : position < grammar.automata.size := (Array.getElem?_eq_some_iff.mp found).1
  have index : automaton.id.index = position := by
    rw [nameable.numbered position automaton found]
    apply NonterminalId.index_ofIndex
    exact Nat.lt_trans (Nat.lt_of_lt_of_le inside nameable.few) (by decide)
  rw [Grammar.nameOf, Grammar.automaton?, index, found]

namespace TableText

structure Names (table : TableText) (grammar : Grammar) : Prop where
  start : grammar.StartName table.start
  labels : List.Forall₂ (LabelText.Names grammar) table.labels.toList grammar.labels.toList
  automata : table.automata =
    grammar.automata.map fun automaton => (automaton.name, .ofAutomaton automaton)

variable {table : TableText} {grammar : Grammar}

theorem Names.distinct (names : table.Names grammar) (nameable : grammar.Nameable) :
    (table.automata.toList.map Prod.fst).Nodup := by
  have same : table.automata.toList.map Prod.fst = grammar.automata.toList.map Automaton.name := by
    simp [names.automata]
  rw [same]
  exact nameable.distinct

/-- Names lead to the numbers that they stand for. -/
theorem Names.number (names : table.Names grammar) (nameable : grammar.Nameable)
    {automaton : Automaton} (among : automaton ∈ grammar.automata) :
    table.number? automaton.name = some automaton.id := by
  obtain ⟨position, found⟩ := Array.mem_iff_getElem?.mp among
  have first : (table.automata.findIdx? fun entry => entry.1 == automaton.name) =
      some position := by
    obtain ⟨inside, rfl⟩ := Array.getElem?_eq_some_iff.mp found
    rw [names.automata, Array.findIdx?_map, Array.findIdx?_eq_some_iff_getElem]
    refine ⟨inside, by simp, ?_⟩
    intro earlier before same
    apply List.nodup_iff_getElem?_ne_getElem?.mp nameable.distinct earlier position before
    · simpa using inside
    · simpa [inside, Nat.lt_trans before inside] using same
  rw [number?, first, nameable.numbered position automaton found]
  rfl

theorem canonicalName_ne_emptyName (kind : TokenKind) :
    kind.canonicalName ≠ LabelText.emptyName := by
  cases kind <;> decide

theorem Names.label (names : table.Names grammar) (nameable : grammar.Nameable) {text : LabelText}
    {label : Label} (named : LabelText.Names grammar text label) :
    table.label text = .ok label := by
  cases named with
  | empty => rfl
  | @bare kind =>
      rw [TableText.label, if_neg (canonicalName_ne_emptyName kind), tokenKind,
        TokenKind.ofCanonicalName?_canonicalName]
      rfl
  | @token kind literal =>
      rw [TableText.label, tokenKind, TokenKind.ofCanonicalName?_canonicalName]
      rfl
  | nonterminal among => rw [TableText.label, names.number nameable among]

theorem Names.startNumber (names : table.Names grammar) (nameable : grammar.Nameable) :
    table.startNumber = .ok grammar.start := by
  have startName := names.start
  unfold TableText.startNumber
  cases written : table.start with
  | none =>
      rw [written] at startName
      cases startName with
      | omitted first => rw [first]
  | some name =>
      rw [written] at startName
      cases startName with
      | named among isStart => simp only [names.number nameable among, isStart]

theorem Names.numbered (names : table.Names grammar) (nameable : grammar.Nameable) :
    (table.automata.toList.zipIdx.map fun ((name, automaton), position) =>
      ({ id := .ofIndex position, name, initial := automaton.initial,
         states := automaton.states } : Automaton)) = grammar.automata.toList := by
  apply List.ext_getElem?
  intro position
  rw [names.automata]
  cases found : grammar.automata[position]? with
  | none => simp [found]
  | some automaton =>
      have number := nameable.numbered position automaton found
      simp [found, AutomatonText.ofAutomaton, ← number]

theorem mapM_eq_ok {ε α β : Type} {step : α → Except ε β} {items : List α} {values : List β}
    (each : List.Forall₂ (fun item value => step item = .ok value) items values) :
    items.mapM step = .ok values := by
  induction each with
  | nil => rfl
  | cons first _ ih =>
      rw [List.mapM_cons, first, ok_bind, ih, ok_bind]
      rfl

/-- Resolving the names of a grammar gives the grammar. -/
theorem Names.resolve (names : table.Names grammar) (nameable : grammar.Nameable) :
    table.resolve = .ok grammar := by
  have labels : table.labels.toList.mapM table.label = .ok grammar.labels.toList :=
    mapM_eq_ok (names.labels.imp fun _ _ => names.label nameable)
  rw [TableText.resolve, labels, ok_bind, names.startNumber nameable, ok_bind]
  simp only [names.numbered nameable]
  rfl

theorem names_labelOfGrammar (nameable : grammar.Nameable) {label : Label}
    (among : label ∈ grammar.labels) :
    LabelText.Names grammar (labelOfGrammar grammar label) label := by
  obtain ⟨kind, literal⟩ := label
  have unpinned := nameable.unpinned _ among
  have listed := nameable.listed _ among
  cases kind with
  | empty =>
      cases literal with
      | none => exact .empty
      | some literal =>
          obtain ⟨_, isToken⟩ := unpinned rfl
          cases isToken
  | token kind =>
      cases literal with
      | none => exact .bare
      | some literal => exact .token
  | nonterminal id =>
      cases literal with
      | none =>
          obtain ⟨automaton, listedHere, rfl⟩ := listed id rfl
          have named := LabelText.Names.nonterminal listedHere
          rw [← nameable.nameOf listedHere] at named
          exact named
      | some literal =>
          obtain ⟨_, isToken⟩ := unpinned rfl
          cases isToken

theorem names_ofGrammar (nameable : grammar.Nameable) {start : Option String}
    (startName : grammar.StartName start) :
    ({ TableText.ofGrammar grammar with start } : TableText).Names grammar where
  start := startName
  labels := by
    rw [TableText.ofGrammar, Array.toList_map, List.forall₂_map_left_iff, List.forall₂_same]
    exact fun label among => names_labelOfGrammar nameable (by simpa using among)
  automata := rfl

end TableText

namespace Network

open Grammar

/-! ## Main statement -/

theorem ofTableText_of_holds {grammar : Grammar} (nameable : grammar.Nameable) {table : TableText}
    (names : table.Names grammar) {document : Document} (form : table.Form document) {text : String}
    (holds : Holds text document) :
    Network.ofTableText text = (Network.ofGrammar grammar).mapError loadFailure := by
  rw [Network.ofTableText, TableText.parse_of_holds form (names.distinct nameable) holds]
  simp only [names.resolve nameable]

/-- Table text loads as the grammar that it names. Whatever text holds a table of the names of a
grammar, loading it gives the network of the grammar, tables included, or fails with the defect of
the grammar; and each grammar whose numbers can be named has such a text, with the start symbol or,
if it is the first, without. -/
theorem ofTableText_eq_ofGrammar (grammar : Grammar) (nameable : grammar.Nameable) :
    (∀ (table : TableText) (document : Document) (text : String), table.Names grammar →
      table.Form document → Holds text document →
      Network.ofTableText text = (Network.ofGrammar grammar).mapError loadFailure) ∧
    ∀ start, grammar.StartName start →
      Network.ofTableText
          (String.ofList ({ TableText.ofGrammar grammar with start } : TableText).write) =
        (Network.ofGrammar grammar).mapError loadFailure := by
  refine ⟨?_, ?_⟩
  · intro table document text names form holds
    exact ofTableText_of_holds nameable names form holds
  · intro start startName
    exact ofTableText_of_holds nameable (TableText.names_ofGrammar nameable startName)
      (TableText.form_document _) (holds_ofList (TableText.spells_write _))

/-- Nested lists are loaded from the text that names them, without naming the start symbol;
ambiguous phrases are refused with the defect that they have. -/
theorem ofTableText_eq_ofGrammar_samples :
    nestedLists.Nameable ∧ ambiguousPhrases.Nameable ∧
    (∃ full : AcceleratedGrammar, full.grammar = nestedLists ∧
      Network.ofTableText ("\x7b\"labels\":[\"EMPTY\",\"NAME\",\"LPAR\"," ++
        "\x7b\"nonterminal\":\"item\"\x7d,\x7b\"nonterminal\":\"list\"\x7d,\"RPAR\"]," ++
        "\"dfas\":\x7b\"list\":\x7b\"initial\":0,\"states\":[[[3,1]],[[3,1],[0,1]]]\x7d," ++
        "\"item\":\x7b\"initial\":0," ++
        "\"states\":[[[1,3],[2,1]],[[4,2]],[[5,3]],[[0,3]]]\x7d\x7d\x7d") =
        .ok (.accelerated full)) ∧
    Network.ofTableText (String.ofList (TableText.ofGrammar ambiguousPhrases).write) =
      .error (.error (.grammar (.ambiguous "phrase" 0 1))) := by
  have lists : nestedLists.Nameable := by
    constructor
    case few => decide
    case distinct => decide
    case numbered =>
      intro position automaton found
      rcases position with _ | _ | _ <;> cases found <;> rfl
    all_goals simp [nestedLists, Label.empty, Label.token, Label.nonterminal]
  have phrases : ambiguousPhrases.Nameable := by
    constructor
    case few => decide
    case distinct => decide
    case numbered =>
      intro position automaton found
      rcases position with _ | _ | _ <;> cases found <;> rfl
    all_goals simp [ambiguousPhrases, Label.empty, Label.token, Label.nonterminal]
  refine ⟨lists, phrases, ?_, ?_⟩
  · obtain ⟨tables, compiled⟩ : ∃ tables, nestedLists.compile = .ok tables := ⟨_, by cbv⟩
    let full : AcceleratedGrammar := ⟨nestedLists, tables, compiled⟩
    refine ⟨full, rfl, ?_⟩
    have built : Network.ofGrammar nestedLists = .ok (.accelerated full) := by
      rw [ofGrammar, Grammar.accelerate_grammar full]
      rfl
    have loaded := (ofTableText_eq_ofGrammar nestedLists lists).1 _ _ _
      (TableText.names_ofGrammar lists (.omitted rfl)) (TableText.form_document _)
      (holds_ofList (TableText.spells_write _))
    rw [built] at loaded
    refine Eq.trans (congrArg Network.ofTableText ?_) loaded
    cbv
  · have failed : ambiguousPhrases.compile = .error (.error (.ambiguous "phrase" 0 1)) := by cbv
    have first : ambiguousPhrases.automata[0]? = some _ := rfl
    have loaded := (ofTableText_eq_ofGrammar ambiguousPhrases phrases).2 _
      (.named (Array.mem_of_getElem? first) rfl)
    rw [← Grammar.accelerate_eq_error_iff] at failed
    rw [ofGrammar, failed] at loaded
    exact loaded

end Network

end TransitionNetwork
