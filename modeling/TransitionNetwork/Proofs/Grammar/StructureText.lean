import TransitionNetwork.Proofs.Grammar.Storage
import TransitionNetwork.Proofs.Json.Reading

/-!
# Grammars in structure text

Structure text says of a grammar what a document of records says: each structure is a record of its
fields, each alternative its name or a record of one field. What is written is a text of that
document, and every text of it is read as the grammar. Tables are no part of it, but compiling the
grammar makes them again.
-/

set_option autoImplicit false

namespace TransitionNetwork

open Json

namespace StructureText

/-! ## Documents -/

def arcDocument (arc : Arc) : Document :=
  .record [("label", .number arc.label), ("target", .number arc.target)]

def stateDocument (state : State) : Document :=
  .record [("arcs", .list (state.arcs.map arcDocument))]

def automatonDocument (automaton : Automaton) : Document :=
  .record [
    ("id", .number automaton.id.raw),
    ("name", .text automaton.name),
    ("initial", .number automaton.initial),
    ("states", .list (automaton.states.toList.map stateDocument))]

def labelKindDocument : LabelKind → Document
  | .empty => .text "Empty"
  | .token kind => .record [("Token", .text kind.spelling)]
  | .nonterminal id => .record [("Nonterminal", .number id.raw)]

def labelDocument (label : Label) : Document :=
  .record [("kind", labelKindDocument label.kind), ("literal", optionalText label.literal)]

def grammarDocument (grammar : Grammar) : Document :=
  .record [
    ("dfas", .list (grammar.automata.toList.map automatonDocument)),
    ("labels", .list (grammar.labels.toList.map labelDocument)),
    ("start", .number grammar.start.raw)]

/-! ## Writing -/

theorem spells_arc (arc : Arc) : Spells (arcDocument arc) (writeArc arc) :=
  spells_record <|
    .cons ⟨rfl, spells_writeWord16 arc.label⟩ <|
    .cons ⟨rfl, spells_writeWord16 arc.target⟩ .nil

theorem spells_state (state : State) : Spells (stateDocument state) (writeState state) :=
  spells_record <| .cons ⟨rfl, spells_writeList fun arc _ => spells_arc arc⟩ .nil

theorem spells_automaton (automaton : Automaton) :
    Spells (automatonDocument automaton) (writeAutomaton automaton) :=
  spells_record <|
    .cons ⟨rfl, spells_writeWord16 automaton.id.raw⟩ <|
    .cons ⟨rfl, spells_writeQuoted automaton.name⟩ <|
    .cons ⟨rfl, spells_writeWord16 automaton.initial⟩ <|
    .cons ⟨rfl, spells_writeList fun state _ => spells_state state⟩ .nil

theorem spells_labelKind (kind : LabelKind) :
    Spells (labelKindDocument kind) (writeLabelKind kind) := by
  cases kind with
  | empty => exact spells_writeQuoted "Empty"
  | token kind => exact spells_record (.cons ⟨rfl, spells_writeQuoted kind.spelling⟩ .nil)
  | nonterminal id => exact spells_record (.cons ⟨rfl, spells_writeWord16 id.raw⟩ .nil)

theorem spells_label (label : Label) : Spells (labelDocument label) (writeLabel label) :=
  spells_record <|
    .cons ⟨rfl, spells_labelKind label.kind⟩ <|
    .cons ⟨rfl, spells_writeOptionalText label.literal⟩ .nil

theorem spells_grammar (grammar : Grammar) :
    Spells (grammarDocument grammar) (writeGrammar grammar) :=
  spells_record <|
    .cons ⟨rfl, spells_writeList fun automaton _ => spells_automaton automaton⟩ <|
    .cons ⟨rfl, spells_writeList fun label _ => spells_label label⟩ <|
    .cons ⟨rfl, spells_writeWord16 grammar.start.raw⟩ .nil

/-! ## Reading -/

section Reading

variable {limit : Nat}

/-- What has been read of an arc once the fields with known keys have come. -/
def arcFields (arc : Arc) (known : String → Bool) : ArcFields :=
  { label := ifKnown (known "label") arc.label, target := ifKnown (known "target") arc.target }

theorem reads_arc (arc : Arc) : Reads limit (readArc limit) (arcDocument arc) arc := by
  refine reads_record (by simp) (?_ : TakesUp limit (arcMember limit) (arcFields arc) _) rfl rfl
  refine .cons ?label <| .cons ?target .nil
  case label =>
    intro known fresh
    simpa [arcMember, arcFields, fresh] using (reads_word16 arc.label).once.map _
  case target =>
    intro known fresh
    simpa [arcMember, arcFields, fresh] using (reads_word16 arc.target).once.map _

theorem reads_state (state : State) :
    Reads limit (readState limit) (stateDocument state) state := by
  have arcs : TakesUpField limit (stateMember limit)
      (fun known => ifKnown (known "arcs") state.arcs.toArray) "arcs"
      (.list (state.arcs.map arcDocument)) := by
    intro known fresh
    simpa [stateMember, fresh] using
      (reads_listOf state.arcs fun arc _ => reads_arc arc).once
  exact reads_record (by simp) (.cons arcs .nil) rfl rfl

theorem reads_nonterminalId (id : NonterminalId) :
    Reads limit readNonterminalId (.number id.raw) id :=
  (reads_word16 id.raw).last rfl

def automatonFields (automaton : Automaton) (known : String → Bool) : AutomatonFields :=
  { id := ifKnown (known "id") automaton.id
    name := ifKnown (known "name") automaton.name
    initial := ifKnown (known "initial") automaton.initial
    states := ifKnown (known "states") automaton.states }

theorem reads_automaton (automaton : Automaton) :
    Reads limit (readAutomaton limit) (automatonDocument automaton) automaton := by
  refine reads_record (by simp)
    (?_ : TakesUp limit (automatonMember limit) (automatonFields automaton) _) rfl rfl
  refine .cons ?id <| .cons ?name <| .cons ?initial <| .cons ?states .nil
  case id =>
    intro known fresh
    simpa [automatonMember, automatonFields, fresh] using (reads_nonterminalId _).once.map _
  case name =>
    intro known fresh
    simpa [automatonMember, automatonFields, fresh] using (reads_text _).once.map _
  case initial =>
    intro known fresh
    simpa [automatonMember, automatonFields, fresh] using (reads_word16 _).once.map _
  case states =>
    intro known fresh
    simpa [automatonMember, automatonFields, fresh] using
      (reads_listOf automaton.states.toList fun state _ => reads_state state).once.map _

section Alternatives

variable {α : Type} {bare : String → Reader α} {payload : String → Reader (Reader α)}
  {name : String} {value : α}

theorem reads_bare (chosen : bare name = pure value) :
    Reads limit (readAlternative bare payload) (.text name) value := by
  intro text rest spelled _ _
  cases spelled with
  | text blank chars =>
      simp only [List.append_assoc, List.cons_append, List.nil_append, readAlternative,
        skipBlanks_gap blank (by decide : isBlank '"' = false)]
      rw [bind_of_ok (readQuoted_spelled chars rest), chosen]
      rfl

theorem readKey_spelled {text : List Char} (spelled : Spells (.text name) text)
    (rest : List Char) : readKey (text ++ rest) = .ok (name, rest) := by
  cases spelled with
  | text blank chars =>
      simp [readKey, skipBlanks_gap blank (by decide : isBlank '"' = false),
        readQuoted_spelled chars]

theorem reads_payload {read : Reader α} {document : Document} (chosen : payload name = pure read)
    (reads : Reads limit read document value) :
    Reads limit (readAlternative bare payload) (.record [(name, document)]) value := by
  intro text rest spelled short _
  cases spelled with
  | record blank order spelledMembers =>
      obtain rfl := List.perm_singleton.mp order
      cases spelledMembers with
      | @first _ _ _ key gap inner more spelledName blankName spelledInner spelledMore =>
          have enough : inner.length < limit := by
            simp at short
            omega
          have taken := reads inner (more ++ rest) spelledInner enough (spelledMore.delimited rest)
          simp only [List.append_assoc, List.cons_append, readAlternative,
            skipBlanks_gap blank (by decide : isBlank '\x7b' = false)]
          rw [bind_of_ok (readKey_spelled spelledName _), chosen, pure_bind,
            bind_of_ok (readColon_gap blankName _), taken]
          cases spelledMore with
          | close blankMore =>
              simp [skipBlanks_gap blankMore (by decide : isBlank '\x7d' = false)]

end Alternatives

theorem reads_tokenKind (kind : TokenKind) :
    Reads limit readTokenKind (.text kind.spelling) kind := by
  apply reads_bare
  rw [TokenKind.ofSpelling?_spelling]
  rfl

theorem reads_labelKind (kind : LabelKind) :
    Reads limit readLabelKind (labelKindDocument kind) kind := by
  cases kind with
  | empty => exact reads_bare rfl
  | token kind => exact reads_payload rfl ((reads_tokenKind kind).last rfl)
  | nonterminal id => exact reads_payload rfl ((reads_nonterminalId id).last rfl)

def labelFields (label : Label) (known : String → Bool) : LabelFields :=
  { kind := ifKnown (known "kind") label.kind
    literal := ifKnown (known "literal") label.literal }

theorem reads_label (label : Label) :
    Reads limit (readLabel limit) (labelDocument label) label := by
  refine reads_record (by simp)
    (?_ : TakesUp limit (labelMember limit) (labelFields label) _) rfl rfl
  refine .cons ?kind <| .cons ?literal .nil
  case kind =>
    intro known fresh
    simpa [labelMember, labelFields, fresh] using (reads_labelKind label.kind).once.map _
  case literal =>
    intro known fresh
    simpa [labelMember, labelFields, fresh] using (reads_optionalText label.literal).once.map _

def grammarFields (grammar : Grammar) (known : String → Bool) : GrammarFields :=
  { automata := ifKnown (known "dfas") grammar.automata
    labels := ifKnown (known "labels") grammar.labels
    start := ifKnown (known "start") grammar.start }

theorem reads_grammar (grammar : Grammar) :
    Reads limit (readGrammar limit) (grammarDocument grammar) grammar := by
  refine reads_record (by simp)
    (?_ : TakesUp limit (grammarMember limit) (grammarFields grammar) _) rfl rfl
  refine .cons ?automata <| .cons ?labels <| .cons ?start .nil
  case automata =>
    intro known fresh
    simpa [grammarMember, grammarFields, fresh] using
      (reads_listOf grammar.automata.toList fun automaton _ =>
        reads_automaton automaton).once.map _
  case labels =>
    intro known fresh
    simpa [grammarMember, grammarFields, fresh] using
      (reads_listOf grammar.labels.toList fun label _ => reads_label label).once.map _
  case start =>
    intro known fresh
    simpa [grammarMember, grammarFields, fresh] using
      (reads_nonterminalId grammar.start).once.map _

end Reading

end StructureText

namespace Grammar

/-- A grammar is read from every text of its document, however the text is laid out. -/
theorem ofStructureText_of_holds {grammar : Grammar} {text : String}
    (holds : Holds text (StructureText.grammarDocument grammar)) :
    Grammar.ofStructureText text = .ok grammar :=
  readWhole_of_holds (StructureText.reads_grammar grammar) holds (Nat.lt_succ_self _)

theorem holds_toStructureText (grammar : Grammar) :
    Holds grammar.toStructureText (StructureText.grammarDocument grammar) :=
  holds_ofList (StructureText.spells_grammar grammar)

example : toStructureText
      { automata := #[], labels := #[⟨.empty, some "\"\n\x01é"⟩], start := ⟨7⟩ } =
    "\x7b\"dfas\":[],\"labels\":[\x7b\"kind\":\"Empty\",\"literal\":\"\\\"\\n\\u0001é\"\x7d]," ++
      "\"start\":7\x7d" := by
  decide

end Grammar

namespace Network

open Grammar

/-! ## Main statement -/

/-- Every network, with tables or without and whatever its grammar is, is read back from its
structure text without its tables; if it had tables, compiling makes the very same network again. -/
theorem ofStructureText_toStructureText (network : Network) :
    Network.ofStructureText network.grammar.toStructureText = .ok network.cleared ∧
    (network.cleared.grammar = network.grammar ∧ network.cleared.isAccelerated = false ∧
      ∀ id, network.cleared.first id = .empty ∧
        ∀ position, network.cleared.table id position = .blank) ∧
    (network.isAccelerated = true → network.cleared.accelerate = (network, .ok ())) := by
  refine ⟨?_, ⟨rfl, rfl, fun _ => ⟨rfl, fun _ => rfl⟩⟩, ?_⟩
  · have read := Grammar.ofStructureText_of_holds (Grammar.holds_toStructureText network.grammar)
    rw [ofStructureText, read]
    rfl
  · intro complete
    cases network with
    | plain grammar => cases complete
    | accelerated full =>
        rw [cleared, grammar, accelerate, Grammar.accelerate_grammar]

/-- Nested lists come back without tables and get them again; ambiguous phrases come back although
they never had any. -/
theorem ofStructureText_toStructureText_samples :
    (∃ full : AcceleratedGrammar, full.grammar = nestedLists ∧
      Network.ofStructureText nestedLists.toStructureText = .ok (.plain nestedLists) ∧
      (Network.plain nestedLists).accelerate = (.accelerated full, .ok ())) ∧
    Network.ofStructureText ambiguousPhrases.toStructureText = .ok (.plain ambiguousPhrases) := by
  refine ⟨?_, (ofStructureText_toStructureText (.plain ambiguousPhrases)).1⟩
  obtain ⟨tables, compiled⟩ : ∃ tables, nestedLists.compile = .ok tables := ⟨_, by cbv⟩
  let full : AcceleratedGrammar := ⟨nestedLists, tables, compiled⟩
  obtain ⟨read, _, again⟩ := ofStructureText_toStructureText (.accelerated full)
  exact ⟨full, rfl, read, again rfl⟩

end Network

end TransitionNetwork
