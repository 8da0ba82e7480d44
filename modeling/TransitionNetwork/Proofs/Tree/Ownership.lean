import Mathlib.Data.List.Nodup
import TransitionNetwork.Tree.Basic

/-!
# Ownership in trees

An arena could hold any graph. That it holds a tree follows from how it grows: whatever is asked
for, with parents that do not exist and with leaves as parents among it, each node that is appended
is listed once, at the end of the children of an older node. So every node but the root has one
owner, and following the owners up from any node ends at the root.
-/

set_option autoImplicit false

namespace TransitionNetwork

namespace Tree

/-! ## Requests -/

/-- A node that is to be appended below a parent, which may be any number. -/
inductive Request where
  | interior (parent : NodeId) (symbol : NonterminalId) (line col : Nat)
  | leaf (parent : NodeId) (kind : TokenKind) (text : String) (line col : Nat)
  deriving DecidableEq, Repr

namespace Request

def parent : Request → NodeId
  | .interior parent .. => parent
  | .leaf parent .. => parent

def node : Request → Node
  | .interior _ symbol line col => .interior symbol #[] line col
  | .leaf _ kind text line col => .leaf kind text line col

theorem children_node (request : Request) : request.node.children = #[] := by
  cases request <;> rfl

end Request

def ask (tree : Tree) : Request → Except Fault (NodeId × Tree)
  | .interior parent symbol line col => tree.appendInterior parent symbol line col
  | .leaf parent kind text line col => tree.appendLeaf parent kind text line col

/-- The tree after a request. One that meets a fault leaves no trace. -/
def afterRequest (tree : Tree) (request : Request) : Tree :=
  match tree.ask request with
  | .ok (_, grown) => grown
  | .error _ => tree

def afterRequests (tree : Tree) (requests : List Request) : Tree :=
  requests.foldl afterRequest tree

section Requests

variable {tree grown : Tree} {request : Request} {id : NodeId}

theorem ask_eq_append (tree : Tree) (request : Request) :
    tree.ask request = tree.append request.parent request.node := by
  cases request <;> rfl

theorem ask_eq_ok_iff :
    tree.ask request = .ok (id, grown) ↔
      tree.parentFault? request.parent = none ∧ tree.size = id ∧
        tree.attach request.parent request.node = grown := by
  rw [ask_eq_append, append_eq_ok_iff]

theorem parentFault?_eq_none_iff_interior {parent : NodeId} :
    tree.parentFault? parent = none ↔
      ∃ symbol children line col,
        tree.nodes[parent]? = some (.interior symbol children line col) := by
  rw [parentFault?_eq_none_iff]
  constructor
  · rintro ⟨node, found, inside⟩
    cases node with
    | interior symbol children line col => exact ⟨symbol, children, line, col, found⟩
    | leaf kind text line col => cases inside
  · rintro ⟨symbol, children, line, col, found⟩
    exact ⟨_, found, rfl⟩

/-- A property of trees that appending keeps is kept by requests. -/
theorem afterRequests_induction {motive : Tree → Prop} (requests : List Request)
    (holds : motive tree)
    (kept : ∀ (tree : Tree) (request : Request), tree.parentFault? request.parent = none →
      motive tree → motive (tree.attach request.parent request.node)) :
    motive (tree.afterRequests requests) := by
  induction requests generalizing tree with
  | nil => exact holds
  | cons request rest ih =>
      apply ih
      unfold afterRequest
      cases asked : tree.ask request with
      | error fault => exact holds
      | ok result =>
          obtain ⟨id, grown⟩ := result
          obtain ⟨accepted, _, rfl⟩ := ask_eq_ok_iff.mp asked
          exact kept tree request accepted holds

end Requests

/-! ## Owners -/

/-- All lists of children, one after another. -/
def listed (tree : Tree) : List NodeId :=
  tree.nodes.toList.flatMap fun node => node.children.toList

/-- Whether a node lists another one among its children. -/
def Owns (tree : Tree) (owner child : NodeId) : Prop :=
  ∃ node, tree.nodes[owner]? = some node ∧ child ∈ node.children

/-- A way from a node up to the root, from each node to one that lists it. -/
inductive WayUp (tree : Tree) : NodeId → List NodeId → Prop where
  | root : WayUp tree root [root]
  | step {owner child : NodeId} {way : List NodeId} : tree.Owns owner child →
      WayUp tree owner way → WayUp tree child (child :: way)

/-- What makes an arena a tree. -/
structure Owned (tree : Tree) : Prop where
  root : ∃ symbol children line col,
    tree.nodes[Tree.root]? = some (.interior symbol children line col)
  listed : tree.listed.Perm (List.range' 1 (tree.size - 1))
  owner_lt : ∀ owner child, tree.Owns owner child → owner < child
  ascending : ∀ (id : NodeId) (node : Node), tree.nodes[id]? = some node →
    node.children.toList.Pairwise (· < ·)

theorem mem_listed_iff {tree : Tree} {child : NodeId} :
    child ∈ tree.listed ↔ ∃ owner, tree.Owns owner child := by
  simp only [listed, Owns, List.mem_flatMap, Array.mem_toList_iff]
  constructor
  · rintro ⟨node, member, among⟩
    obtain ⟨owner, small, rfl⟩ := Array.mem_iff_getElem.mp member
    exact ⟨owner, _, Array.getElem?_eq_getElem small, among⟩
  · rintro ⟨owner, node, found, among⟩
    exact ⟨node, Array.mem_of_getElem? found, among⟩

section Attaching

variable {tree : Tree} {parent : NodeId} {symbol : NonterminalId} {children : Array NodeId}
  {line col : Nat} {node : Node}

theorem listed_attach (found : tree.nodes[parent]? = some (.interior symbol children line col))
    (bare : node.children = #[]) :
    (tree.attach parent node).listed.Perm (tree.size :: tree.listed) := by
  obtain ⟨small, here⟩ := Array.getElem?_eq_some_iff.mp found
  have inside : parent < tree.nodes.toList.length := by simpa using small
  let childrenOf (node : Node) : List NodeId := node.children.toList
  let before := (tree.nodes.toList.take parent).flatMap childrenOf
  let after := (tree.nodes.toList.drop (parent + 1)).flatMap childrenOf
  have old : tree.listed = before ++ (children.toList ++ after) := by
    have split := List.getElem_cons_drop inside
    have whole := List.take_append_drop parent tree.nodes.toList
    rw [← split, Array.getElem_toList, here] at whole
    rw [listed, ← whole, List.flatMap_append, List.flatMap_cons]
    rfl
  have new : (tree.attach parent node).listed =
      before ++ (children.toList ++ [tree.size] ++ after) := by
    simp only [listed, attach, Array.toList_push, Array.toList_modify,
      List.modify_eq_take_cons_drop inside, Array.getElem_toList, here, List.flatMap_append,
      List.flatMap_cons, List.flatMap_nil, bare, Node.addChild]
    simp [before, after, childrenOf, Node.children, size]
  rw [old, new]
  have moved : ((before ++ children.toList) ++ tree.size :: after).Perm
      (tree.size :: ((before ++ children.toList) ++ after)) := List.perm_middle
  simpa using moved

theorem owns_attach_iff (found : tree.nodes[parent]? = some (.interior symbol children line col))
    (bare : node.children = #[]) {owner child : NodeId} :
    (tree.attach parent node).Owns owner child ↔
      tree.Owns owner child ∨ (owner = parent ∧ child = tree.size) := by
  have small : parent < tree.size := (Array.getElem?_eq_some_iff.mp found).1
  unfold Owns
  rw [getElem?_attach]
  by_cases new : owner = tree.size
  · have absent : tree.nodes[owner]? = none := by
      rw [new, size, Array.getElem?_size]
    have other : owner ≠ parent := new ▸ Nat.ne_of_gt small
    rw [if_pos new]
    simp [absent, bare, other]
  · rw [if_neg new]
    by_cases here : owner = parent
    · rw [if_pos here, here, found]
      simp [Node.addChild, Node.children]
    · simp [here]

theorem Owned.size_pos (owned : tree.Owned) : 0 < tree.size := by
  obtain ⟨_, _, _, _, found⟩ := owned.root
  exact (Array.getElem?_eq_some_iff.mp found).1

theorem Owned.mem_listed_iff (owned : tree.Owned) {child : Nat} :
    child ∈ tree.listed ↔ child ≠ Tree.root ∧ child < tree.size := by
  have positive := owned.size_pos
  rw [owned.listed.mem_iff, List.mem_range'_1, Tree.root]
  omega

theorem Owned.child_lt (owned : tree.Owned) {owner child : NodeId} (owns : tree.Owns owner child) :
    child < tree.size :=
  (owned.mem_listed_iff.mp (Tree.mem_listed_iff.mpr ⟨owner, owns⟩)).2

theorem Owned.attach (owned : tree.Owned)
    (found : tree.nodes[parent]? = some (.interior symbol children line col))
    (bare : node.children = #[]) : (tree.attach parent node).Owned := by
  have small : parent < tree.size := (Array.getElem?_eq_some_iff.mp found).1
  constructor
  case root =>
    obtain ⟨rootSymbol, rootChildren, rootLine, rootCol, top⟩ := owned.root
    have notNew : Tree.root ≠ tree.size := Nat.ne_of_lt (Nat.zero_lt_of_lt small)
    rw [getElem?_attach, if_neg notNew, top]
    split
    · exact ⟨_, _, _, _, rfl⟩
    · exact ⟨_, _, _, _, rfl⟩
  case listed =>
    have one_le : 1 ≤ tree.size := Nat.one_le_of_lt small
    have range : List.range' 1 tree.size = List.range' 1 (tree.size - 1) ++ [tree.size] := by
      have split : List.range' 1 (tree.size - 1 + 1) =
          List.range' 1 (tree.size - 1) ++ [1 + (tree.size - 1)] := List.range'_1_concat
      rwa [Nat.sub_add_cancel one_le, Nat.add_sub_cancel' one_le] at split
    rw [size_attach, Nat.add_sub_cancel, range]
    refine (listed_attach found bare).trans ?_
    exact (owned.listed.cons tree.size).trans (List.perm_append_singleton _ _).symm
  case owner_lt =>
    intro owner child owns
    rcases (owns_attach_iff found bare).mp owns with before | ⟨rfl, rfl⟩
    · exact owned.owner_lt owner child before
    · exact small
  case ascending =>
    intro id other there
    rw [getElem?_attach] at there
    split at there
    · cases there
      simp [bare]
    · split at there
      · next here =>
          subst here
          rw [found] at there
          cases there
          simp only [Node.addChild, Node.children, Array.toList_push, List.pairwise_append]
          refine ⟨owned.ascending id _ found, List.pairwise_singleton _ _, ?_⟩
          intro child among last new
          rw [List.mem_singleton.mp new]
          exact owned.child_lt ⟨_, found, Array.mem_toList_iff.mp among⟩
      · exact owned.ascending id other there

end Attaching

/-! ## Trees -/

section Trees

variable {tree : Tree}

theorem Owned.count_listed (owned : tree.Owned) {child : NodeId} (notRoot : child ≠ Tree.root)
    (small : child < tree.size) : tree.listed.count child = 1 := by
  refine List.count_eq_one_of_mem ?_ (owned.mem_listed_iff.mpr ⟨notRoot, small⟩)
  exact owned.listed.nodup_iff.mpr List.nodup_range'

theorem Owned.not_lt_of_owns (owned : tree.Owned) {first second child : NodeId}
    (firstOwns : tree.Owns first child) (secondOwns : tree.Owns second child) :
    ¬ first < second := by
  intro before
  have nodup : tree.listed.Nodup := owned.listed.nodup_iff.mpr List.nodup_range'
  rw [Tree.listed, List.nodup_flatMap, List.pairwise_iff_getElem] at nodup
  obtain ⟨_, firstFound, firstLists⟩ := firstOwns
  obtain ⟨_, secondFound, secondLists⟩ := secondOwns
  obtain ⟨firstSmall, rfl⟩ := Array.getElem?_eq_some_iff.mp firstFound
  obtain ⟨secondSmall, rfl⟩ := Array.getElem?_eq_some_iff.mp secondFound
  have apart := nodup.2 first second firstSmall secondSmall before
  exact apart (Array.mem_toList_iff.mpr firstLists) (Array.mem_toList_iff.mpr secondLists)

theorem Owned.unique_owner (owned : tree.Owned) {first second child : NodeId}
    (firstOwns : tree.Owns first child) (secondOwns : tree.Owns second child) :
    first = second :=
  Nat.le_antisymm (Nat.le_of_not_lt (owned.not_lt_of_owns secondOwns firstOwns))
    (Nat.le_of_not_lt (owned.not_lt_of_owns firstOwns secondOwns))

theorem Owned.exists_owner (owned : tree.Owned) {child : NodeId} (notRoot : child ≠ Tree.root)
    (small : child < tree.size) : ∃ owner < child, tree.Owns owner child := by
  have listed : child ∈ tree.listed := owned.mem_listed_iff.mpr ⟨notRoot, small⟩
  obtain ⟨owner, owns⟩ := Tree.mem_listed_iff.mp listed
  exact ⟨owner, owned.owner_lt owner child owns, owns⟩

theorem Owned.exists_wayUp (owned : tree.Owned) {id : NodeId} (small : id < tree.size) :
    ∃ way, tree.WayUp id way := by
  induction id using Nat.strongRecOn with
  | ind id ih =>
      by_cases top : id = Tree.root
      · subst top
        exact ⟨_, .root⟩
      · obtain ⟨owner, older, owns⟩ := owned.exists_owner top small
        obtain ⟨way, up⟩ := ih owner older (Nat.lt_trans older small)
        exact ⟨id :: way, .step owns up⟩

theorem Owned.unique_wayUp (owned : tree.Owned) {id : NodeId} {first second : List NodeId}
    (firstUp : tree.WayUp id first) (secondUp : tree.WayUp id second) : first = second := by
  have unowned : ∀ owner, ¬ tree.Owns owner Tree.root := fun owner owns =>
    Nat.not_lt_zero owner (owned.owner_lt owner Tree.root owns)
  induction firstUp generalizing second with
  | root =>
      cases secondUp with
      | root => rfl
      | step owns _ => exact absurd owns (unowned _)
  | step owns _ ih =>
      cases secondUp with
      | root => exact absurd owns (unowned _)
      | step again beyond =>
          obtain rfl := owned.unique_owner owns again
          rw [ih beyond]

theorem children_of_single {symbol : NonterminalId} {line col : Nat} {id : NodeId} {node : Node}
    (found : (single symbol line col).nodes[id]? = some node) : node.children = #[] := by
  have member : node ∈ #[Node.interior symbol #[] line col] := Array.mem_of_getElem? found
  rw [List.mem_toArray, List.mem_singleton] at member
  rw [member]
  rfl

theorem owned_single (symbol : NonterminalId) (line col : Nat) :
    (single symbol line col).Owned where
  root := ⟨symbol, #[], line, col, rfl⟩
  listed := .refl _
  owner_lt := by
    rintro owner child ⟨node, found, among⟩
    rw [children_of_single found] at among
    simp at among
  ascending := by
    intro id node found
    rw [children_of_single found]
    exact .nil

theorem owned_of_requests (symbol : NonterminalId) (line col : Nat) (requests : List Request) :
    ((single symbol line col).afterRequests requests).Owned := by
  apply afterRequests_induction requests (owned_single symbol line col)
  intro tree request accepted owned
  obtain ⟨_, _, _, _, found⟩ := parentFault?_eq_none_iff_interior.mp accepted
  exact owned.attach found request.children_node

/-! ## Main statement -/

/-- Nodes and lists of children form a tree from the root down. -/
structure IsTree (tree : Tree) : Prop where
  root : ∃ symbol children line col,
    tree.nodes[Tree.root]? = some (.interior symbol children line col)
  root_not_listed : Tree.root ∉ tree.listed
  listed_once : ∀ id < tree.size, id ≠ Tree.root → tree.listed.count id = 1
  older_owner : ∀ id < tree.size, id ≠ Tree.root → ∃! owner, owner < id ∧ tree.Owns owner id
  listed_lt : ∀ child ∈ tree.listed, child < tree.size
  ascending : ∀ (id : NodeId) (node : Node), tree.nodes[id]? = some node →
    node.children.toList.Pairwise (· < ·)
  leaf : ∀ (id : NodeId) (node : Node), tree.nodes[id]? = some node → node.isLeaf = true →
    node.children = #[]
  way : ∀ id < tree.size, ∃! way, tree.WayUp id way

/-- The new node comes at the end, its number becomes the last child of the parent, and no other
node changes. -/
structure Appends (tree : Tree) (request : Request) (id : NodeId) (grown : Tree) : Prop where
  number : id = tree.size
  size : grown.size = tree.size + 1
  node : grown.nodes[id]? = some request.node
  parent : ∃ symbol children line col,
    tree.nodes[request.parent]? = some (.interior symbol children line col) ∧
      grown.nodes[request.parent]? = some (.interior symbol (children.push id) line col)
  others : ∀ other < tree.size, other ≠ request.parent →
    grown.nodes[other]? = tree.nodes[other]?

theorem Owned.isTree (owned : tree.Owned) : tree.IsTree where
  root := owned.root
  root_not_listed among := (owned.mem_listed_iff.mp among).1 rfl
  listed_once _ small notRoot := owned.count_listed notRoot small
  older_owner id small notRoot := by
    obtain ⟨owner, older, owns⟩ := owned.exists_owner notRoot small
    exact ⟨owner, ⟨older, owns⟩, fun other ⟨_, again⟩ => owned.unique_owner again owns⟩
  listed_lt _ among := (owned.mem_listed_iff.mp among).2
  ascending := owned.ascending
  leaf _ node _ isLeaf := by
    cases node with
    | interior => cases isLeaf
    | leaf => rfl
  way id small := by
    obtain ⟨way, up⟩ := owned.exists_wayUp small
    exact ⟨way, up, fun other again => owned.unique_wayUp again up⟩

theorem exists_ask_iff {request : Request} :
    (∃ result, tree.ask request = .ok result) ↔ tree.parentFault? request.parent = none := by
  constructor
  · rintro ⟨⟨id, grown⟩, asked⟩
    exact (ask_eq_ok_iff.mp asked).1
  · intro accepted
    exact ⟨_, ask_eq_ok_iff.mpr ⟨accepted, rfl, rfl⟩⟩

theorem appends_of_ask {grown : Tree} {request : Request} {id : NodeId}
    (asked : tree.ask request = .ok (id, grown)) : Appends tree request id grown := by
  obtain ⟨accepted, rfl, rfl⟩ := ask_eq_ok_iff.mp asked
  obtain ⟨symbol, children, line, col, found⟩ := parentFault?_eq_none_iff_interior.mp accepted
  have old : request.parent ≠ tree.size :=
    Nat.ne_of_lt (Array.getElem?_eq_some_iff.mp found).1
  constructor
  case number => rfl
  case size => exact size_attach tree request.parent request.node
  case node => rw [getElem?_attach, if_pos rfl]
  case parent =>
    refine ⟨symbol, children, line, col, found, ?_⟩
    rw [getElem?_attach, if_neg old, if_pos rfl, found]
    rfl
  case others =>
    intro other small notParent
    rw [getElem?_attach, if_neg (Nat.ne_of_lt small), if_neg notParent]

/-- Arenas are trees. Whatever nodes are asked for from a new tree on, the root is listed nowhere,
every other node is listed once, by an older node, and has one way up to the root. A request is
granted exactly if its parent is there and is no leaf, and then changes only what it has to. -/
theorem isTree_of_requests (symbol : NonterminalId) (line col : Nat) (requests : List Request) :
    ((single symbol line col).afterRequests requests).IsTree ∧
      ∀ request, ((∃ result, ((single symbol line col).afterRequests requests).ask request =
          .ok result) ↔
        ∃ inner children innerLine innerCol,
          ((single symbol line col).afterRequests requests).nodes[request.parent]? =
            some (.interior inner children innerLine innerCol)) ∧
        ∀ id grown, ((single symbol line col).afterRequests requests).ask request =
            .ok (id, grown) →
          Appends ((single symbol line col).afterRequests requests) request id grown := by
  refine ⟨(owned_of_requests symbol line col requests).isTree, ?_⟩
  intro request
  exact ⟨exists_ask_iff.trans parentFault?_eq_none_iff_interior, fun _ _ => appends_of_ask⟩

/-- Of five requests, the third has a leaf as its parent and the fourth no node at all. -/
example : ((single ⟨256⟩ 0 0).afterRequests [.interior 0 ⟨257⟩ 1 0, .leaf 1 .name "a" 1 0,
    .leaf 2 .name "b" 1 1, .leaf 3 .name "c" 1 2, .leaf 0 .comma "," 1 3]).nodes =
      #[.interior ⟨256⟩ #[1, 3] 0 0, .interior ⟨257⟩ #[2] 1 0, .leaf .name "a" 1 0,
        .leaf .comma "," 1 3] := by
  decide

end Trees

end Tree

end TransitionNetwork
