import TransitionNetwork.Failure
import TransitionNetwork.Nonterminal
import TransitionNetwork.Token.Kind

/-!
# Trees

A concrete tree as an arena of nodes that only grows: nodes are appended under an existing interior
node and are never moved or removed, so the number of a node stays valid for the life of the tree.
Node 0 is the root.

Node numbers are not bounded here. Numbers of 32 bits are the same as these as long as a tree has
fewer than 2^32 nodes, and only so long.
-/

set_option autoImplicit false

namespace TransitionNetwork

abbrev NodeId := Nat

/-- A node: a nonterminal with its children in order, or a token. -/
inductive Node where
  | interior (symbol : NonterminalId) (children : Array NodeId) (line col : Nat)
  | leaf (kind : TokenKind) (text : String) (line col : Nat)
  deriving DecidableEq, Repr

namespace Node

def isLeaf : Node → Bool
  | .interior .. => false
  | .leaf .. => true

def symbol? : Node → Option NonterminalId
  | .interior symbol .. => some symbol
  | .leaf .. => none

def kind? : Node → Option TokenKind
  | .interior .. => none
  | .leaf kind .. => some kind

def text? : Node → Option String
  | .interior .. => none
  | .leaf _ text .. => some text

def line : Node → Nat
  | .interior _ _ line _ => line
  | .leaf _ _ line _ => line

def col : Node → Nat
  | .interior _ _ _ col => col
  | .leaf _ _ _ col => col

/-- The children in the order they were appended; leaves have none. -/
def children : Node → Array NodeId
  | .interior _ children .. => children
  | .leaf .. => #[]

/-- An interior node with one more child at the end; a leaf stays as it is. -/
def addChild : Node → NodeId → Node
  | .interior symbol children line col, child => .interior symbol (children.push child) line col
  | leaf@(.leaf ..), _ => leaf

end Node

structure Tree where
  nodes : Array Node
  deriving DecidableEq, Repr

namespace Tree

/-- The tree that is only its root, without children. -/
def single (symbol : NonterminalId) (line col : Nat) : Tree :=
  ⟨#[.interior symbol #[] line col]⟩

def root : NodeId := 0

def size (tree : Tree) : Nat :=
  tree.nodes.size

/-- The node of a given number, or the fault that there is none. -/
def node (tree : Tree) (id : NodeId) : Except Fault Node :=
  match tree.nodes[id]? with
  | some node => .ok node
  | none => .error (.nodeNotFound id)

def parentFault? (tree : Tree) (parent : NodeId) : Option Fault :=
  match tree.nodes[parent]?.map Node.isLeaf with
  | some false => none
  | some true => some (.leafParent parent)
  | none => some (.nodeNotFound parent)

/-- Puts a node at the end of the arena and of its parent's children. The parent is not checked. -/
def attach (tree : Tree) (parent : NodeId) (node : Node) : Tree :=
  let id := tree.nodes.size
  ⟨(tree.nodes.modify parent (·.addChild id)).push node⟩

/-- Appends a node as the last child of an existing interior node, and tells its number. -/
def append (tree : Tree) (parent : NodeId) (node : Node) : Except Fault (NodeId × Tree) :=
  match tree.parentFault? parent with
  | some fault => .error fault
  | none => .ok (tree.size, tree.attach parent node)

def appendInterior (tree : Tree) (parent : NodeId) (symbol : NonterminalId) (line col : Nat) :
    Except Fault (NodeId × Tree) :=
  tree.append parent (.interior symbol #[] line col)

def appendLeaf (tree : Tree) (parent : NodeId) (kind : TokenKind) (text : String)
    (line col : Nat) : Except Fault (NodeId × Tree) :=
  tree.append parent (.leaf kind text line col)

@[simp] theorem size_attach (tree : Tree) (parent : NodeId) (node : Node) :
    (tree.attach parent node).size = tree.size + 1 := by
  simp [attach, size]

/-- Attaching changes no node but the parent, which gets the new node as its last child. -/
theorem getElem?_attach (tree : Tree) (parent : NodeId) (node : Node) (id : NodeId) :
    (tree.attach parent node).nodes[id]? =
      if id = tree.size then some node
      else if id = parent then tree.nodes[id]?.map (·.addChild tree.size)
      else tree.nodes[id]? := by
  simp only [attach, size, Array.getElem?_push, Array.size_modify, Array.getElem?_modify]
  by_cases last : id = tree.nodes.size <;> simp [last, eq_comm]

/-- A node takes children exactly if it exists and is no leaf. -/
theorem parentFault?_eq_none_iff {tree : Tree} {parent : NodeId} :
    tree.parentFault? parent = none ↔
      ∃ node, tree.nodes[parent]? = some node ∧ node.isLeaf = false := by
  unfold parentFault?
  cases found : tree.nodes[parent]? with
  | none => simp
  | some node => cases leaf : node.isLeaf <;> simp [leaf]

theorem append_eq_ok_iff {tree grown : Tree} {parent id : NodeId} {node : Node} :
    tree.append parent node = .ok (id, grown) ↔
      tree.parentFault? parent = none ∧ tree.size = id ∧ tree.attach parent node = grown := by
  cases fault : tree.parentFault? parent <;> simp [append, fault]

theorem node_eq_ok_iff {tree : Tree} {id : NodeId} {node : Node} :
    tree.node id = .ok node ↔ tree.nodes[id]? = some node := by
  unfold Tree.node
  split <;> simp_all

end Tree

end TransitionNetwork
