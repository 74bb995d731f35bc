import IPv6Suite.Lib.SerialNumber

namespace IPv6Suite

open Lib

def seqLess (a b : BitVec 32) : Prop := a ≠ b ∧ (b - a).toNat < 2 ^ 31

def seqLE (a b : BitVec 32) : Prop := (b - a).toNat < 2 ^ 31

def seqGreater (a b : BitVec 32) : Prop := a ≠ b ∧ (a - b).toNat < 2 ^ 31

def seqGE (a b : BitVec 32) : Prop := (a - b).toNat < 2 ^ 31

instance : DecidableRel seqLess := fun _ _ => inferInstanceAs (Decidable (_ ∧ _))
instance : DecidableRel seqLE := fun _ _ => inferInstanceAs (Decidable (_ < _))
instance : DecidableRel seqGreater := fun _ _ => inferInstanceAs (Decidable (_ ∧ _))
instance : DecidableRel seqGE := fun _ _ => inferInstanceAs (Decidable (_ < _))

section Places

open SerialNumber

variable (base : BitVec 32) {i j : Nat}

theorem seqLE_place (near : j < i + 2 ^ 31) (close : i ≤ j + 2 ^ 31) :
    seqLE (place base i) (place base j) ↔ i ≤ j := by
  unfold seqLE
  by_cases le : i ≤ j
  · rw [toNat_sub_place base le (by omega)]
    omega
  · rw [toNat_sub_place_earlier base (Nat.lt_of_not_le le) (by omega)]
    omega

theorem place_eq_iff (near : j < i + 2 ^ 32) (close : i < j + 2 ^ 32) : place base i = place base j ↔ i = j := by
  by_cases le : i ≤ j
  · exact place_inj base le (by omega)
  · rw [eq_comm, place_inj base (Nat.le_of_not_le le) (by omega), eq_comm]

theorem seqLess_place (near : j < i + 2 ^ 31) (close : i ≤ j + 2 ^ 31) :
    seqLess (place base i) (place base j) ↔ i < j := by
  change place base i ≠ place base j ∧ seqLE (place base i) (place base j) ↔ i < j
  rw [seqLE_place base near close, ne_eq, place_eq_iff base (by omega) (by omega)]
  omega

theorem seqGE_place (near : i < j + 2 ^ 31) (close : j ≤ i + 2 ^ 31) :
    seqGE (place base i) (place base j) ↔ j ≤ i := seqLE_place base near close

theorem seqGreater_place (near : i < j + 2 ^ 31) (close : j ≤ i + 2 ^ 31) :
    seqGreater (place base i) (place base j) ↔ j < i := by
  change place base i ≠ place base j ∧ seqLE (place base j) (place base i) ↔ j < i
  rw [seqLE_place base near close, ne_eq, place_eq_iff base (by omega) (by omega)]
  omega

end Places

/-- What the program reads of an application message; the length is in bits. -/
structure CMessage where
  name : String
  length : Nat
deriving DecidableEq

namespace CMessage

def bytes (msg : CMessage) : Nat := msg.length >>> 3

end CMessage

structure TCPPayloadMessage where
  endSequenceNo : BitVec 32
  msg : CMessage
deriving DecidableEq

/-- Ports, the urgent pointer and the flags `urgBit` and `pshBit` are not read by what is
modelled here. -/
structure TCPSegment where
  sequenceNo : BitVec 32
  ackNo : BitVec 32
  ackBit : Bool
  rstBit : Bool
  synBit : Bool
  finBit : Bool
  window : BitVec 32
  payloadLength : Nat
  payload : List TCPPayloadMessage
deriving DecidableEq

namespace TCPSegment

def create : TCPSegment where
  sequenceNo := 0
  ackNo := 0
  ackBit := false
  rstBit := false
  synBit := false
  finBit := false
  window := 0
  payloadLength := 0
  payload := []

def addPayloadMessage (tcpseg : TCPSegment) (payload : TCPPayloadMessage) : TCPSegment :=
  { tcpseg with payload := tcpseg.payload ++ [payload] }

end TCPSegment

end IPv6Suite
