/-!
# Nonterminal numbers

Tokens and nonterminals share one space of 16-bit symbol numbers: numbers below 256 belong to token
kinds, and the automaton at position `i` of a grammar has the number `256 + i`. A number below 256
that stands where a nonterminal is expected wraps around to a position past every automaton of a
grammar that passes validation.
-/

set_option autoImplicit false

namespace TransitionNetwork

/-- Symbol number of a nonterminal. Table text and binary data may carry a number below 256. -/
structure NonterminalId where
  raw : UInt16
  deriving DecidableEq, Repr

namespace NonterminalId

def offset : UInt16 := 256

/-- A nonterminal from a symbol number; numbers of token kinds give none. -/
def ofRaw? (raw : UInt16) : Option NonterminalId :=
  if offset ≤ raw then some ⟨raw⟩ else none

/-- The nonterminal whose automaton stands at a position. -/
def ofIndex (index : Nat) : NonterminalId :=
  ⟨offset + index.toUInt16⟩

/-- The position of the nonterminal's automaton, counted modulo 65536. -/
def index (id : NonterminalId) : Nat :=
  (id.raw - offset).toNat

def describe (id : NonterminalId) : String :=
  toString id.raw.toNat

/-- Positions and numbers determine each other below 65536. -/
theorem index_ofIndex {index : Nat} (small : index < 65536) : (ofIndex index).index = index := by
  simp only [NonterminalId.index, ofIndex, offset]
  rw [UInt16.add_comm, UInt16.add_sub_cancel]
  simp [Nat.toUInt16, UInt16.toNat_ofNat', Nat.mod_eq_of_lt small]

theorem ofIndex_index (id : NonterminalId) : ofIndex id.index = id := by
  cases id with
  | mk raw =>
      simp only [NonterminalId.index, ofIndex, offset, Nat.toUInt16, UInt16.ofNat_toNat]
      rw [UInt16.add_comm, UInt16.sub_add_cancel]

theorem index_injective {left right : NonterminalId} (same : left.index = right.index) :
    left = right := by
  rw [← ofIndex_index left, ← ofIndex_index right, same]

end NonterminalId

end TransitionNetwork
