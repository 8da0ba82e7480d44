import Mathlib.Data.List.Nodup
import Mathlib.Data.List.Perm.Basic
import TransitionNetwork.Grammar.TableText
import TransitionNetwork.Proofs.Json.Reading

/-!
# Tables and their texts

A text that holds a table is read as that table, in whatever order its fields come and whichever of
its forms a label or an automaton has. What is written is such a text.
-/

set_option autoImplicit false

namespace TransitionNetwork

open Json

/-! ## Forms -/

namespace TableText

def labelDocument : LabelText → Document
  | .plain name => .text name
  | .token kind none => .record [("kind", .text kind)]
  | .token kind (some literal) => .record [("kind", .text kind), ("literal", .text literal)]
  | .nonterminal name => .record [("nonterminal", .text name)]

def arcDocument (arc : Arc) : Document :=
  .list [.number arc.label, .number arc.target]

def stateDocument (state : State) : Document :=
  .list (state.arcs.map arcDocument)

def statesDocument (states : Array State) : Document :=
  .list (states.toList.map stateDocument)

end TableText

/-- The initial state may be left out if it is the first. -/
inductive AutomatonText.Form (automaton : AutomatonText) : Document → Prop where
  | full : automaton.Form (.record [("initial", .number automaton.initial),
      ("states", TableText.statesDocument automaton.states)])
  | fromFirst : automaton.initial = 0 →
      automaton.Form (.record [("states", TableText.statesDocument automaton.states)])

namespace TableText

def startField : Option String → List (String × Document)
  | none => []
  | some name => [("start", .text name)]

/-- The documents that say what a table says. -/
inductive Form (table : TableText) : Document → Prop where
  | fields {automata : List (String × Document)} :
      List.Forall₂ (fun entry field => entry.1 = field.1 ∧ entry.2.Form field.2)
        table.automata.toList automata →
      table.Form (.record (startField table.start ++
        [("labels", .list (table.labels.toList.map labelDocument)), ("dfas", .mapping automata)]))

/-! ## Reading -/

section Reading

variable {limit : Nat}

theorem reads_arc (arc : Arc) : Reads limit readArc (arcDocument arc) arc :=
  (reads_pair (reads_word16 arc.label) (reads_word16 arc.target)).last rfl

theorem reads_state (state : State) : Reads limit (readState limit) (stateDocument state) state :=
  (reads_listOf state.arcs fun arc _ => reads_arc arc).last rfl

/-- What has been read of an automaton once the fields with known keys have come. -/
def automatonFields (automaton : AutomatonText) (known : String → Bool) : AutomatonFields :=
  { initial := ifKnown (known "initial") automaton.initial
    states := ifKnown (known "states") automaton.states }

theorem reads_automaton {automaton : AutomatonText} {document : Document}
    (form : automaton.Form document) : Reads limit (readAutomaton limit) document automaton := by
  have initial : TakesUpField limit (automatonMember limit) (automatonFields automaton) "initial"
      (.number automaton.initial) := by
    intro known fresh
    simpa [automatonMember, automatonFields, fresh] using
      (reads_word16 automaton.initial).once.map _
  have states : TakesUpField limit (automatonMember limit) (automatonFields automaton) "states"
      (statesDocument automaton.states) := by
    intro known fresh
    simpa [automatonMember, automatonFields, statesDocument, fresh] using
      (reads_listOf automaton.states.toList fun state _ => reads_state state).once.map _
  cases form with
  | full => exact reads_record (by simp) (.cons initial (.cons states .nil)) rfl rfl
  | fromFirst first =>
      obtain ⟨number, kept⟩ := automaton
      obtain rfl : number = 0 := first
      exact reads_record (by simp) (.cons states .nil) rfl rfl

/-! ### Labels -/

theorem reads_value (content : String) (nesting : Nat) :
    Reads limit (readValue limit nesting) (.text content) (.text content) := by
  intro text rest spelled _ _
  cases spelled with
  | text blank chars =>
      rw [readValue]
      simp [skipBlanks_gap blank (by decide : isBlank '"' = false), readQuoted_spelled chars]

/-- The members of an object that holds texts only. -/
def textMembers (members : List (String × String)) : List (String × Document) :=
  members.map fun member => (member.1, .text member.2)

def textValue (members : List (String × String)) : List (String × Value) :=
  members.map fun member => (member.1, .text member.2)

theorem readsMembers_texts (nesting : Nat) (members : List (String × String))
    (before : Array (String × Value)) :
    ReadsMembers limit
      (fun members key => do
        readColon
        let value ← readValue limit nesting
        return members.push (key, value))
      (textMembers members) before (before ++ (textValue members).toArray) := by
  induction members generalizing before with
  | nil =>
      have none : before ++ (textValue []).toArray = before := by simp [textValue]
      rw [none]
      exact .nil
  | cons member others ih =>
      obtain ⟨key, content⟩ := member
      have moved : before ++ (textValue ((key, content) :: others)).toArray =
          before.push (key, .text content) ++ (textValue others).toArray := by simp [textValue]
      have first : Reads limit
          (readValue limit nesting >>= fun value => pure (before.push (key, value)))
          (.text content) (before.push (key, .text content)) :=
        (reads_value content nesting).last rfl
      rw [moved]
      exact .cons first.entry (ih _)

/-- An object of texts is read with its members in the order in which they come. -/
theorem readValue_texts {fields : List (String × String)} {text : List Char}
    (spelled : Spells (.record (textMembers fields)) text) (short : text.length < limit)
    (nesting : Nat) (rest : List Char) :
    ∃ members : List (String × String), members.Perm fields ∧
      readValue limit (nesting + 1) (text ++ rest) = .ok (.object (textValue members), rest) := by
  cases spelled with
  | @record gap body _ members blank order spelledMembers =>
      have mapped : Relation.Comp (fun texts source => texts = textMembers source) List.Perm
          members fields := by
        have same := List.eq_map_comp_perm fun member : String × String =>
          (member.1, Document.text member.2)
        exact (congrFun (congrFun same members) fields).mpr order
      obtain ⟨source, rfl, reordered⟩ := mapped
      have taken := readMembers_spelled (readsMembers_texts nesting source #[]) spelledMembers
        (inner_lt short) (inner_lt short) rest
      refine ⟨source, reordered, ?_⟩
      rw [readValue]
      simp only [List.append_assoc, List.cons_append,
        skipBlanks_gap blank (by decide : isBlank '\x7b' = false)]
      rw [taken]
      simp

theorem valuesOf_perm {members fields : List (String × String)} (order : members.Perm fields)
    (key : String) :
    (Value.valuesOf (textValue members) key).Perm (Value.valuesOf (textValue fields) key) :=
  ((order.map _).filter _).map _

/-- The order of the members of an object does not matter to the label that it stands for. -/
theorem reads_object (fields : List (String × String)) {label : LabelText}
    (means : ∀ members : List (String × String), members.Perm fields →
      LabelText.ofValue? (.object (textValue members)) = some label) :
    Reads limit (readLabel limit) (.record (textMembers fields)) label := by
  intro text rest spelled short _
  obtain ⟨members, order, taken⟩ := readValue_texts spelled short (maxNesting - 3) rest
  have nesting : maxNesting - 2 = maxNesting - 3 + 1 := rfl
  rw [readLabel, nesting, bind_of_ok taken, means members order]
  rfl

theorem reads_label (label : LabelText) :
    Reads limit (readLabel limit) (labelDocument label) label := by
  cases label with
  | plain name =>
      intro text rest spelled short delimited
      rw [readLabel, bind_of_ok (reads_value name _ text rest spelled short delimited)]
      rfl
  | token kind literal =>
      cases literal with
      | none =>
          apply reads_object [("kind", kind)]
          intro members order
          have kinds : Value.valuesOf (textValue members) "kind" = [.text kind] :=
            List.perm_singleton.mp (valuesOf_perm order "kind")
          have literals : Value.valuesOf (textValue members) "literal" = [] :=
            List.perm_nil.mp (valuesOf_perm order "literal")
          rw [LabelText.ofValue?, kinds, literals]
          rfl
      | some literal =>
          apply reads_object [("kind", kind), ("literal", literal)]
          intro members order
          have kinds : Value.valuesOf (textValue members) "kind" = [.text kind] :=
            List.perm_singleton.mp (valuesOf_perm order "kind")
          have literals : Value.valuesOf (textValue members) "literal" = [.text literal] :=
            List.perm_singleton.mp (valuesOf_perm order "literal")
          rw [LabelText.ofValue?, kinds, literals]
          rfl
  | nonterminal name =>
      apply reads_object [("nonterminal", name)]
      intro members order
      have kinds : Value.valuesOf (textValue members) "kind" = [] :=
        List.perm_nil.mp (valuesOf_perm order "kind")
      have names : Value.valuesOf (textValue members) "nonterminal" = [.text name] :=
        List.perm_singleton.mp (valuesOf_perm order "nonterminal")
      rw [LabelText.ofValue?, kinds, names]
      rfl

/-! ### Automata -/

theorem enter_new {automata : Array (String × AutomatonText)} {name : String}
    (fresh : name ∉ automata.toList.map Prod.fst) (automaton : AutomatonText) :
    enter automata name automaton = automata.push (name, automaton) := by
  have missing : (automata.findIdx? fun entry => entry.1 == name) = none := by
    rw [Array.findIdx?_eq_none_iff]
    intro entry among
    have member : entry.1 ∈ automata.toList.map Prod.fst :=
      List.mem_map_of_mem (Array.mem_toList_iff.mpr among)
    exact beq_false_of_ne fun same => fresh (same ▸ member)
  rw [enter, missing]

theorem readsMembers_automata {entries : List (String × AutomatonText)}
    {fields : List (String × Document)}
    (forms : List.Forall₂ (fun entry field => entry.1 = field.1 ∧ entry.2.Form field.2) entries
      fields)
    {before : Array (String × AutomatonText)}
    (distinct : (before.toList.map Prod.fst ++ entries.map Prod.fst).Nodup) :
    ReadsMembers limit
      (fun automata name => do
        readColon
        let automaton ← readAutomaton limit
        return enter automata name automaton)
      fields before (before ++ entries.toArray) := by
  induction forms generalizing before with
  | nil => simpa using ReadsMembers.nil
  | @cons entry field entries fields form _ ih =>
      obtain ⟨name, automaton⟩ := entry
      obtain ⟨key, document⟩ := field
      obtain ⟨rfl, form⟩ := form
      have moved : before ++ ((name, automaton) :: entries).toArray =
          before.push (name, automaton) ++ entries.toArray := by simp
      have fresh : name ∉ before.toList.map Prod.fst := by
        rw [List.map_cons, List.nodup_middle, List.nodup_cons, List.mem_append] at distinct
        exact fun among => distinct.1 (.inl among)
      have first : Reads limit
          (readAutomaton limit >>= fun automaton => pure (enter before name automaton))
          document (before.push (name, automaton)) :=
        (reads_automaton form).last (by rw [enter_new fresh])
      rw [moved]
      exact .cons first.entry (ih (by simpa using distinct))

theorem reads_automata {table : TableText} {fields : List (String × Document)}
    (forms : List.Forall₂ (fun entry field => entry.1 = field.1 ∧ entry.2.Form field.2)
      table.automata.toList fields)
    (distinct : (table.automata.toList.map Prod.fst).Nodup) :
    Reads limit (readAutomata limit) (.mapping fields) table.automata := by
  apply reads_mapping
  have reads : ReadsMembers limit _ fields #[] _ :=
    readsMembers_automata forms (by simpa using distinct)
  simpa using reads

def tableFields (table : TableText) (known : String → Bool) : Fields :=
  { start := table.start.bind fun name => ifKnown (known "start") (some name)
    labels := ifKnown (known "labels") table.labels
    automata := ifKnown (known "dfas") table.automata }

theorem reads_table {table : TableText} {document : Document} (form : table.Form document)
    (distinct : (table.automata.toList.map Prod.fst).Nodup) :
    Reads limit (TableText.read limit) document table := by
  cases form with
  | @fields automata forms =>
      have both : TakesUp limit (member limit) (tableFields table)
          [("labels", .list (table.labels.toList.map labelDocument)),
            ("dfas", .mapping automata)] := by
        refine .cons ?labels <| .cons ?automata .nil
        case labels =>
          intro known fresh
          simpa [member, tableFields, fresh] using
            (reads_listOf table.labels.toList fun label _ => reads_label label).once.map _
        case automata =>
          intro known fresh
          simpa [member, tableFields, fresh] using (reads_automata forms distinct).once.map _
      obtain ⟨start, labels, entries⟩ := table
      cases start with
      | none => exact reads_record (by simp [startField]) both rfl rfl
      | some name =>
          have named : Reads limit readOptionalText (.text name) (some name) :=
            reads_optionalText (some name)
          refine reads_record (by simp [startField]) (.cons ?_ both) rfl rfl
          intro known fresh
          simpa [member, tableFields, fresh] using named.once.map _

end Reading

theorem parse_of_holds {table : TableText} {document : Document} {text : String}
    (form : table.Form document) (distinct : (table.automata.toList.map Prod.fst).Nodup)
    (holds : Holds text document) : TableText.parse text = .ok table :=
  readWhole_of_holds (reads_table form distinct) holds (Nat.lt_succ_self _)

/-! ## Writing -/

theorem spells_writeArc (arc : Arc) : Spells (arcDocument arc) (writeArc arc) := by
  have written : Spells (.list ([arc.label, arc.target].map .number)) (writeArc arc) :=
    spells_writeList fun word _ => spells_writeWord16 word
  exact written

theorem spells_writeState (state : State) : Spells (stateDocument state) (writeState state) :=
  spells_writeList fun arc _ => spells_writeArc arc

theorem spells_writeLabel (label : LabelText) :
    Spells (labelDocument label) (writeLabel label) := by
  cases label with
  | plain name => exact spells_writeQuoted name
  | token kind literal =>
      have first := spells_writeQuoted kind
      cases literal with
      | none => exact spells_record (.cons ⟨rfl, first⟩ .nil)
      | some literal =>
          exact spells_record (.cons ⟨rfl, first⟩ (.cons ⟨rfl, spells_writeQuoted literal⟩ .nil))
  | nonterminal name => exact spells_record (.cons ⟨rfl, spells_writeQuoted name⟩ .nil)

/-- The form in which an automaton is written. -/
def automatonDocument (automaton : AutomatonText) : Document :=
  .record [("initial", .number automaton.initial), ("states", statesDocument automaton.states)]

theorem spells_writeAutomaton (automaton : AutomatonText) :
    Spells (automatonDocument automaton) (writeAutomaton automaton) :=
  spells_record <|
    .cons ⟨rfl, spells_writeWord16 automaton.initial⟩ <|
    .cons ⟨rfl, spells_writeList fun state _ => spells_writeState state⟩ .nil

def document (table : TableText) : Document :=
  .record (startField table.start ++ [
    ("labels", .list (table.labels.toList.map labelDocument)),
    ("dfas", .mapping (table.automata.toList.map fun entry =>
      (entry.1, automatonDocument entry.2)))])

theorem form_document (table : TableText) : table.Form table.document := by
  apply Form.fields
  rw [List.forall₂_map_right_iff, List.forall₂_same]
  exact fun entry _ => ⟨rfl, .full⟩

theorem spells_write (table : TableText) : Spells table.document table.write := by
  have automata : SpellEach
      (table.automata.toList.map fun entry => (entry.1, automatonDocument entry.2))
      (table.automata.toList.map fun entry => (entry.1, writeAutomaton entry.2)) := by
    rw [SpellEach, List.forall₂_map_left_iff, List.forall₂_map_right_iff, List.forall₂_same]
    exact fun entry _ => ⟨rfl, spells_writeAutomaton entry.2⟩
  have start : SpellEach (startField table.start) (writeStart table.start) := by
    cases table.start with
    | none => exact .nil
    | some name => exact .cons ⟨rfl, spells_writeQuoted name⟩ .nil
  apply spells_record
  apply List.rel_append start
  exact .cons ⟨rfl, spells_writeList fun label _ => spells_writeLabel label⟩ <|
    .cons ⟨rfl, spells_mapping automata⟩ .nil

end TableText

end TransitionNetwork
