import Mathlib.Data.List.Induction
import Mathlib.Data.List.Nodup
import Mathlib.Data.List.Perm.Basic
import Mathlib.Logic.Relation
import TransitionNetwork.Proofs.Tree.Ownership
import TransitionNetwork.Tree.Shape
import TransitionNetwork.Tree.Walk

/-!
# Traversals

A walk with its own stack of pending nodes meets the same nodes in the same order as recursion over
the children does. In an arena that only grew by appending, children are younger than their owner
and no node has two owners, so the recursion ends, meets no node twice and misses none below its
start. Rendering and leaf text are therefore those of the shape that the arena holds. The children
of one node can also be taken from both ends in turn, which gives each of them once.
-/

set_option autoImplicit false

namespace TransitionNetwork

namespace Shape

theorem linesOf_eq_flatMap (nameOf : NonterminalId → String) (palette : Palette) (depth : Nat)
    (shapes : List Shape) :
    linesOf nameOf palette depth shapes = shapes.flatMap (lines nameOf palette depth) := by
  induction shapes with
  | nil => rfl
  | cons shape rest ih => rw [linesOf, List.flatMap_cons, ih]

/-- A line of a rendering: two spaces for each level of depth, the contents, and the line end. -/
def written (line : Nat × String) : String :=
  String.ofList (List.replicate (2 * line.1) ' ') ++ line.2 ++ "\n"

/-- The rendering of a shape by recursion over its children. -/
def rendering (nameOf : NonterminalId → String) (palette : Palette) (shape : Shape) : String :=
  String.join ((shape.lines nameOf palette 0).map written)

end Shape

namespace Tree

/-! ## Recursion over the children -/

/-- The nodes from a node down in document order, a node before everything below its children. -/
def descend (tree : Tree) : Nat → NodeId → Nat → List Visit
  | 0, _, _ => []
  | bound + 1, id, depth =>
      match tree.nodes[id]? with
      | none => []
      | some node =>
          { id, depth, node } ::
            node.children.toList.flatMap fun child => tree.descend bound child (depth + 1)

section Recursion

variable {tree : Tree} {bound : Nat} {id : NodeId} {node : Node} {depth : Nat}

theorem descend_succ (found : tree.nodes[id]? = some node) :
    tree.descend (bound + 1) id depth = ⟨id, depth, node⟩ ::
      node.children.toList.flatMap fun child => tree.descend bound child (depth + 1) := by
  rw [descend, found]

/-- Pending nodes of one depth are walked one after another. -/
theorem walk_flatMap {children : List NodeId} {below : NodeId → List Visit}
    (each : ∀ child ∈ children, ∀ rest pending visited,
      tree.walk ((below child).length + rest) ((child, depth) :: pending) visited =
        tree.walk rest pending (visited ++ below child)) (rest : Nat)
    (pending : List (NodeId × Nat)) (visited : Array Visit) :
    tree.walk ((children.flatMap below).length + rest) (children.map (·, depth) ++ pending) visited =
      tree.walk rest pending (visited ++ children.flatMap below) := by
  induction children generalizing visited with
  | nil => simp
  | cons child others ih =>
      have first := each child List.mem_cons_self ((others.flatMap below).length + rest)
        (others.map (·, depth) ++ pending) visited
      have later := ih (fun other member => each other (List.mem_cons_of_mem _ member))
        (visited ++ below child)
      have together : visited ++ below child ++ others.flatMap below =
          visited ++ (child :: others).flatMap below := by
        rw [← Array.toList_inj]
        simp
      rw [List.flatMap_cons, List.length_append, Nat.add_assoc, List.map_cons, List.cons_append,
        first, later, together, List.flatMap_cons]

end Recursion

/-! ## Recursion in arenas that are trees -/

/-- A node of the arena with no more nodes from it on than a bound. All below it are among them, so
recursion within the bound meets everything. -/
structure Within (tree : Tree) (bound id : Nat) : Prop where
  inside : id < tree.size
  enough : tree.size ≤ id + bound

section Owned

open Relation

variable {tree : Tree} {bound id depth : Nat} {node : Node}

theorem Within.exists_node (within : tree.Within bound id) : ∃ node, tree.nodes[id]? = some node :=
  ⟨_, Array.getElem?_eq_getElem within.inside⟩

theorem not_within_zero : ¬ tree.Within 0 id := by
  rintro ⟨inside, enough⟩
  omega

theorem Owned.within_child (owned : tree.Owned) (within : tree.Within (bound + 1) id)
    (found : tree.nodes[id]? = some node) {child : Nat} (member : child ∈ node.children.toList) :
    tree.Within bound child := by
  have owns : tree.Owns id child := ⟨node, found, Array.mem_toList_iff.mp member⟩
  have younger : id < child := owned.owner_lt id child owns
  have enough := within.enough
  exact ⟨owned.child_lt owns, by omega⟩

theorem exists_mapM_of_forall {α β : Type} {find : α → Option β} {items : List α}
    (each : ∀ item ∈ items, ∃ value, find item = some value) :
    ∃ values, items.mapM find = some values := by
  induction items with
  | nil => exact ⟨[], rfl⟩
  | cons item rest ih =>
      obtain ⟨value, found⟩ := each item List.mem_cons_self
      obtain ⟨values, mapped⟩ := ih fun other member => each other (List.mem_cons_of_mem _ member)
      exact ⟨value :: values, by simp [found, mapped]⟩

theorem Owned.exists_shapeAt? (owned : tree.Owned) (within : tree.Within bound id) :
    ∃ shape, tree.shapeAt? bound id = some shape := by
  induction bound generalizing id with
  | zero => exact absurd within not_within_zero
  | succ bound ih =>
      obtain ⟨node, found⟩ := within.exists_node
      rw [shapeAt?, found]
      cases node with
      | leaf kind text line col => exact ⟨_, rfl⟩
      | interior symbol children line col =>
          obtain ⟨shapes, mapped⟩ : ∃ shapes,
              children.toList.mapM (tree.shapeAt? bound) = some shapes :=
            exists_mapM_of_forall fun child member => ih (owned.within_child within found member)
          exact ⟨.interior symbol line col shapes, by simp [mapped]⟩

/-- The stack of pending nodes makes no difference: a walk does what recursion does, then goes on. -/
theorem Owned.walk_descend (owned : tree.Owned) (within : tree.Within bound id) (depth rest : Nat)
    (pending : List (NodeId × Nat)) (visited : Array Visit) :
    tree.walk ((tree.descend bound id depth).length + rest) ((id, depth) :: pending) visited =
      tree.walk rest pending (visited ++ tree.descend bound id depth) := by
  induction bound generalizing id depth rest pending visited with
  | zero => exact absurd within not_within_zero
  | succ bound ih =>
      obtain ⟨node, found⟩ := within.exists_node
      have below := walk_flatMap
        (fun child member => ih (owned.within_child within found member) (depth + 1)) rest pending
        (visited.push ⟨id, depth, node⟩)
      rw [descend_succ found, List.length_cons, Nat.add_right_comm, walk, found]
      simpa using below

/-- The numbers met from a node down are those of its descendants and its own. -/
theorem Owned.mem_descend_iff (owned : tree.Owned) (within : tree.Within bound id) {other : Nat} :
    other ∈ (tree.descend bound id depth).map Visit.id ↔ ReflTransGen tree.Owns id other := by
  induction bound generalizing id depth with
  | zero => exact absurd within not_within_zero
  | succ bound ih =>
      obtain ⟨node, found⟩ := within.exists_node
      have owns_iff (child : NodeId) : child ∈ node.children.toList ↔ tree.Owns id child := by
        simp [Owns, found]
      rw [ReflTransGen.cases_head_iff, descend_succ found, List.map_cons, List.map_flatMap,
        List.mem_cons, List.mem_flatMap, eq_comm]
      refine or_congr Iff.rfl (exists_congr fun child => ?_)
      rw [← owns_iff]
      exact and_congr_right fun member => ih (owned.within_child within found member)

theorem Owned.le_of_reflTransGen (owned : tree.Owned) {owner child : Nat}
    (below : ReflTransGen tree.Owns owner child) : owner ≤ child := by
  induction below with
  | refl => exact Nat.le_refl owner
  | tail _ owns ih => exact Nat.le_trans ih (Nat.le_of_lt (owned.owner_lt _ _ owns))

theorem Owned.lt_of_reflTransGen (owned : tree.Owned) {child : Nat} (inside : id < tree.size)
    (below : ReflTransGen tree.Owns id child) : child < tree.size := by
  cases below with
  | refl => exact inside
  | tail _ owns => exact owned.child_lt owns

/-- Two children of one node have no descendant in common: the way up from it passes through one of
them only. -/
theorem Owned.children_apart (owned : tree.Owned) {first second other : Nat}
    (firstOwned : tree.Owns id first) (secondOwned : tree.Owns id second) (different : first ≠ second)
    (belowFirst : ReflTransGen tree.Owns first other) :
    ¬ ReflTransGen tree.Owns second other := by
  intro belowSecond
  have unique : Relator.RightUnique (Function.swap tree.Owns) := fun _ _ _ => owned.unique_owner
  -- If one child were below the other, so would be their owner, which is older.
  have apart {upper lower : Nat} (upperOwned : tree.Owns id upper)
      (lowerOwned : tree.Owns id lower) (notSame : upper ≠ lower) :
      ¬ ReflTransGen tree.Owns upper lower := by
    intro below
    rcases ReflTransGen.cases_tail below with same | ⟨owner, above, owns⟩
    · exact notSame same.symm
    · obtain rfl := owned.unique_owner owns lowerOwned
      exact Nat.not_lt.mpr (owned.le_of_reflTransGen above) (owned.owner_lt _ _ upperOwned)
  rcases ReflTransGen.total_of_right_unique unique belowFirst.swap belowSecond.swap with up | up
  · exact apart secondOwned firstOwned different.symm up.swap
  · exact apart firstOwned secondOwned different up.swap

/-- No node is met twice. -/
theorem Owned.nodup_descend (owned : tree.Owned) (within : tree.Within bound id) :
    ((tree.descend bound id depth).map Visit.id).Nodup := by
  induction bound generalizing id depth with
  | zero => exact absurd within not_within_zero
  | succ bound ih =>
      obtain ⟨node, found⟩ := within.exists_node
      have owns {child : Nat} (member : child ∈ node.children.toList) : tree.Owns id child :=
        ⟨node, found, Array.mem_toList_iff.mp member⟩
      rw [descend_succ found, List.map_cons, List.map_flatMap, List.nodup_cons, List.nodup_flatMap]
      refine ⟨?_, ?_, ?_⟩
      · intro again
        obtain ⟨child, member, below⟩ := List.mem_flatMap.mp again
        have down := (owned.mem_descend_iff (owned.within_child within found member)).mp below
        exact Nat.not_lt.mpr (owned.le_of_reflTransGen down) (owned.owner_lt id child (owns member))
      · intro child member
        exact ih (owned.within_child within found member)
      · refine (owned.ascending id node found).imp_of_mem ?_
        intro first second firstMember secondMember ascending other belowFirst belowSecond
        exact owned.children_apart (owns firstMember) (owns secondMember) (Nat.ne_of_lt ascending)
          ((owned.mem_descend_iff (owned.within_child within found firstMember)).mp belowFirst)
          ((owned.mem_descend_iff (owned.within_child within found secondMember)).mp belowSecond)

theorem Owned.length_descend_le (owned : tree.Owned) (within : tree.Within bound id) (depth : Nat) :
    (tree.descend bound id depth).length ≤ tree.size := by
  have among : (tree.descend bound id depth).map Visit.id ⊆ List.range tree.size := by
    intro other member
    exact List.mem_range.mpr
      (owned.lt_of_reflTransGen within.inside ((owned.mem_descend_iff within).mp member))
  simpa using (List.subperm_of_subset (owned.nodup_descend within) among).length_le

theorem within_size (inside : id < tree.size) : tree.Within tree.size id :=
  ⟨inside, Nat.le_add_left _ _⟩

/-- The bound of a walk suffices, whatever node it starts from. -/
theorem Owned.preorder_eq (owned : tree.Owned) (inside : id < tree.size) :
    tree.preorder id = .ok (tree.descend tree.size id 0) := by
  have within := within_size inside
  obtain ⟨rest, size⟩ := Nat.exists_eq_add_of_le (owned.length_descend_le within 0)
  have walked := owned.walk_descend within 0 rest [] #[]
  rw [← size] at walked
  rw [preorder, walked]
  cases rest <;> simp [walk, Except.map]

end Owned

/-! ## Shapes of arenas -/

section Shapes

variable {tree : Tree} {bound id : Nat} {shape : Shape}

theorem flatMap_eq_of_mapM {α β γ : Type} {find : α → Option β} {items : List α} {values : List β}
    {left : α → List γ} {right : β → List γ} (mapped : items.mapM find = some values)
    (same : ∀ item value, find item = some value → left item = right value) :
    items.flatMap left = values.flatMap right := by
  induction items generalizing values with
  | nil =>
      cases mapped
      rfl
  | cons item rest ih =>
      rw [List.mapM_cons] at mapped
      obtain ⟨value, found, others⟩ := Option.bind_eq_some_iff.mp mapped
      obtain ⟨values, mappedRest, last⟩ := Option.bind_eq_some_iff.mp others
      cases last
      rw [List.flatMap_cons, List.flatMap_cons, same item value found, ih mappedRest]

theorem shapeAt?_succ_cases (held : tree.shapeAt? (bound + 1) id = some shape) :
    (∃ kind text line col, tree.nodes[id]? = some (.leaf kind text line col) ∧
      shape = .leaf ⟨kind, text, line⟩ col) ∨
    ∃ symbol children line col shapes,
      tree.nodes[id]? = some (.interior symbol children line col) ∧
        children.toList.mapM (tree.shapeAt? bound) = some shapes ∧
        shape = .interior symbol line col shapes := by
  unfold shapeAt? at held
  split at held
  · cases held
  · next kind text line col found =>
      cases held
      exact .inl ⟨kind, text, line, col, found, rfl⟩
  · next symbol children line col found =>
      obtain ⟨shapes, mapped, rfl⟩ := Option.map_eq_some_iff.mp held
      exact .inr ⟨symbol, children, line, col, shapes, found, mapped, rfl⟩

/-- Each node met from a node down yields one line of the shape there, at its depth. -/
theorem lines_descend (nameOf : NonterminalId → String) (palette : Palette)
    (held : tree.shapeAt? bound id = some shape) (depth : Nat) :
    (tree.descend bound id depth).map
        (fun visit => (visit.depth, visit.node.render nameOf palette)) =
      shape.lines nameOf palette depth := by
  induction bound generalizing id shape depth with
  | zero => cases held
  | succ bound ih =>
      rcases shapeAt?_succ_cases held with ⟨_, _, _, _, found, rfl⟩ | ⟨_, _, _, _, _, found, mapped, rfl⟩
      · rw [descend_succ found]
        simp [Node.children, Node.render, Shape.lines]
      · rw [descend_succ found, List.map_cons, List.map_flatMap, Shape.lines,
          Shape.linesOf_eq_flatMap]
        exact congrArg _ (flatMap_eq_of_mapM mapped fun _ _ below => ih below (depth + 1))

end Shapes

/-! ## Rendering and leaf text -/

section Rendering

variable {tree : Tree} {id : Nat} {shape : Shape}

theorem indent_eq (depth : Nat) : indent depth = String.ofList (List.replicate (2 * depth) ' ') := by
  rw [← String.toList_inj, indent, String.pushn]
  induction 2 * depth with
  | zero => rfl
  | succ count ih =>
      rw [Nat.repeat, String.toList_push, ih]
      simp [List.replicate_succ']

theorem Owned.render_eq (owned : tree.Owned) (nameOf : NonterminalId → String) (palette : Palette)
    (held : tree.shape? = some shape) :
    tree.render nameOf palette = .ok (shape.rendering nameOf palette) := by
  have lines := lines_descend nameOf palette held 0
  have visits : tree.preorder Tree.root = .ok (tree.descend tree.size Tree.root 0) :=
    owned.preorder_eq owned.size_pos
  rw [render, visits, Shape.rendering, ← lines, List.map_map]
  simp [Except.map, indent_eq, Shape.written, Function.comp_def]

/-- The tree that requests make of a new one. -/
def grown (symbol : NonterminalId) (line col : Nat) (requests : List Request) : Tree :=
  (single symbol line col).afterRequests requests

/-- An item with a name in it and a comma behind it. Under the name nothing can be put. -/
def listRequests : List Request :=
  [.interior 0 ⟨257⟩ 1 0, .leaf 1 .name "a" 1 0, .leaf 2 .name "b" 1 1, .leaf 0 .comma "," 1 3]

end Rendering

end Tree

/-! ## Children from both ends -/

section BothEnds

variable {α : Type}

theorem takeEnds_cons_concat (first last : α) (inner : List α) :
    takeEnds (first :: (inner ++ [last])) =
      (inner.length + 2, first) :: (inner.length + 1, last) :: takeEnds inner := by
  simp [takeEnds]

theorem perm_takeEnds (members : List α) : ((takeEnds members).map Prod.snd).Perm members := by
  induction members using List.bidirectionalRec with
  | nil => simp [takeEnds]
  | singleton only => simp [takeEnds]
  | cons_append first inner last ih =>
      rw [takeEnds_cons_concat, List.map_cons, List.map_cons]
      exact ((ih.cons last).trans (List.perm_append_singleton last inner).symm).cons first

/-- The place of the member that is taken at a turn. Even turns count from the front and odd ones
from the back. -/
def endPlace (size turn : Nat) : Nat :=
  if turn % 2 = 0 then turn / 2 else size - 1 - turn / 2

theorem endPlace_lt {size turn : Nat} (more : turn < size) : endPlace size turn < size := by
  unfold endPlace
  split <;> omega

theorem endPlace_add_two {size turn : Nat} (more : turn < size) :
    endPlace (size + 2) (turn + 2) = endPlace size turn + 1 := by
  unfold endPlace
  split <;> split <;> omega

theorem getElem?_takeEnds {members : List α} {turn : Nat} (more : turn < members.length) :
    (takeEnds members)[turn]? =
      members[endPlace members.length turn]?.map (members.length - turn, ·) := by
  induction members using List.bidirectionalRec generalizing turn with
  | nil => cases more
  | singleton only =>
      obtain rfl : turn = 0 := by simpa using more
      simp [takeEnds, endPlace]
  | cons_append first inner last ih =>
      have size : (first :: (inner ++ [last])).length = inner.length + 2 := by simp
      rw [takeEnds_cons_concat]
      rw [size] at more ⊢
      cases turn with
      | zero => rfl
      | succ before =>
          cases before with
          | zero => simp [endPlace]
          | succ turn =>
              have inside : turn < inner.length := Nat.lt_of_add_lt_add_right more
              rw [endPlace_add_two inside, List.getElem?_cons_succ, List.getElem?_cons_succ,
                List.getElem?_cons_succ, List.getElem?_append_left (endPlace_lt inside), ih inside,
                Nat.add_sub_add_right]

/-- Taken from both ends, every child of a node comes once, with the number of children that are
left. Even turns take the first of these and odd turns the last. -/
theorem takeEnds_children (node : Node) :
    ((takeEnds node.children.toList).map Prod.snd).Perm node.children.toList ∧
      ∀ turn < node.children.size,
        (takeEnds node.children.toList)[turn]? =
          node.children[endPlace node.children.size turn]?.map (node.children.size - turn, ·) := by
  refine ⟨perm_takeEnds _, ?_⟩
  intro turn more
  rw [← Array.getElem?_toList]
  exact getElem?_takeEnds more

/-- Of four children the outer ones come first, front before back. -/
example : takeEnds (Node.interior ⟨256⟩ #[1, 2, 5, 7] 0 0).children.toList =
    [(4, 1), (3, 7), (2, 2), (1, 5)] := by
  cbv

end BothEnds

end TransitionNetwork
