import IPv6Suite.IPv6Address
import Mathlib.Algebra.Order.Field.Rat

namespace IPv6Suite

/-- The seconds between two ticks of the lifetimes -/
def mipv6Period : BitVec 32 := 1

/-- A nonce indices option -/
structure MIPv6OptNI where
  hni : BitVec 16
  coni : BitVec 16
deriving DecidableEq

/-- A Binding Update with its mobility options: nonce indices, an alternate care-of address and
authorization data. -/
structure BU where
  ack : Bool
  homereg : Bool
  llac : Bool
  mapreg : Bool
  sequence : BitVec 16
  expires : BitVec 16
  ni : Option MIPv6OptNI
  acoa : Option Ipv6Addr
  auth : Bool
deriving DecidableEq

inductive BAStatus where
  | accepted
  | hrNotSupported
  | notHomeSubnet
  | notHAForMN
  | seqOutOfWindow
  | unrecHoNI
  | unrecCoNI
  | unrecBothNI
  | regTypeChangeDis
deriving DecidableEq

/-- A Binding Acknowledgement -/
structure BA where
  status : BAStatus
  sequence : BitVec 16
  lifetime : BitVec 16
deriving DecidableEq

/-- A datagram with a mobility message and, in its destination options, a home address. -/
structure MobilityDatagram (α : Type) where
  srcAddress : Ipv6Addr
  destAddress : Ipv6Addr
  homeAddressOpt : Option Ipv6Addr
  inputPort : Int
  timestamp : ℚ
  encapsulatedMsg : α
deriving DecidableEq

/-- `bu->setSequence(seq)` of the Binding Update in a datagram -/
def MobilityDatagram.setSequence (dgram : MobilityDatagram BU) (seq : BitVec 16) :
    MobilityDatagram BU :=
  { dgram with encapsulatedMsg := { dgram.encapsulatedMsg with sequence := seq } }

def lessThanEqualsModulo (x y : BitVec 32) (modulo : Nat) : Bool :=
  let upper := y - (2 : BitVec 32) <<< (modulo - 2) + (2 : BitVec 32) <<< (modulo - 1)
  x ≤ y || upper ≤ x

/-- Nothing below `y` counts as greater, although half of the numbers are that modulo 2^modulo. -/
theorem lessThanEqualsModulo_of_lt {x y : BitVec 32} {modulo : Nat} (low : 2 ≤ modulo) (high : modulo ≤ 16)
    (short : y.toNat < 2 ^ modulo) :
    lessThanEqualsModulo x y modulo = true ↔ x.toNat ≤ y.toNat ∨ y.toNat + 2 ^ (modulo - 1) ≤ x.toNat := by
  have shifted (i : Nat) (inside : i < 16) : ((2 : BitVec 32) <<< i).toNat = 2 ^ (i + 1) := by
    have room : 2 ^ (i + 1) ≤ 2 ^ 16 := Nat.pow_le_pow_right (by decide) (by omega)
    have two : (2 : BitVec 32).toNat = 2 := rfl
    rw [BitVec.toNat_shiftLeft, Nat.shiftLeft_eq, two, ← Nat.pow_succ']
    exact Nat.mod_eq_of_lt (by omega)
  have half := shifted (modulo - 2) (by omega)
  have whole := shifted (modulo - 1) (by omega)
  rw [show modulo - 2 + 1 = modulo - 1 by omega] at half
  rw [Nat.sub_add_cancel (by omega)] at whole
  have double : 2 ^ modulo = 2 * 2 ^ (modulo - 1) := by
    rw [← Nat.pow_succ', Nat.succ_eq_add_one, Nat.sub_add_cancel (by omega)]
  have room : 2 ^ modulo ≤ 2 ^ 16 := Nat.pow_le_pow_right (by decide) high
  have upper : (y - (2 : BitVec 32) <<< (modulo - 2) + (2 : BitVec 32) <<< (modulo - 1)).toNat =
      y.toNat + 2 ^ (modulo - 1) := by
    rw [BitVec.toNat_add, BitVec.toNat_sub, half, whole]
    omega
  unfold lessThanEqualsModulo
  simp only [Bool.or_eq_true, decide_eq_true_eq, BitVec.le_def, upper]

theorem lessThanEqualsModulo_iff {x y : BitVec 32} (short : y.toNat < 2 ^ 16) :
    lessThanEqualsModulo x y 16 = true ↔ x.toNat ≤ y.toNat ∨ y.toNat + 2 ^ 15 ≤ x.toNat :=
  lessThanEqualsModulo_of_lt (by decide) (by decide) short

/-- The order of section 9.5.1 of RFC 3775: what is not more than half of the numbers before `y` is less than or equal
to it. -/
structure ComparesModulo (x y : BitVec 32) (modulo : Nat) : Prop where
  inWindow : lessThanEqualsModulo x y modulo = true ↔
    ((y.toNat : Int) - x.toNat) % 2 ^ modulo < 2 ^ (modulo - 1)
  oneOf : x ≠ y → ((y.toNat : Int) - x.toNat) % 2 ^ modulo ≠ 2 ^ (modulo - 1) →
    lessThanEqualsModulo x y modulo ≠ lessThanEqualsModulo y x modulo

theorem emod_difference {x y m : Nat} (insideX : x < m) (insideY : y < m) :
    ((y : Int) - x) % m = if x ≤ y then (y : Int) - x else y - x + m := by
  split
  · exact Int.emod_eq_of_lt (by omega) (by omega)
  · rw [← Int.add_emod_right]
    exact Int.emod_eq_of_lt (by omega) (by omega)

/-- The numbers are compared modulo 2^modulo only if they are less than half of the numbers apart. -/
theorem comparesModulo_iff {x y : BitVec 32} {modulo : Nat} (low : 2 ≤ modulo) (high : modulo ≤ 16)
    (shortX : x.toNat < 2 ^ modulo) (shortY : y.toNat < 2 ^ modulo) :
    ComparesModulo x y modulo ↔
      x.toNat < y.toNat + 2 ^ (modulo - 1) ∧ y.toNat < x.toNat + 2 ^ (modulo - 1) := by
  have double : 2 ^ modulo = 2 * 2 ^ (modulo - 1) := by
    rw [← Nat.pow_succ', Nat.succ_eq_add_one, Nat.sub_add_cancel (by omega)]
  have distance := emod_difference shortX shortY
  push_cast at distance
  have forwards := lessThanEqualsModulo_of_lt (x := x) low high shortY
  have backwards := lessThanEqualsModulo_of_lt (x := y) low high shortX
  have halfInt : ((2 ^ (modulo - 1) : Nat) : Int) = 2 ^ (modulo - 1) := by push_cast; rfl
  have doubleInt : (2 : Int) ^ modulo = 2 * 2 ^ (modulo - 1) := by exact_mod_cast double
  have differ : x ≠ y ↔ x.toNat ≠ y.toNat := by
    rw [ne_eq, ← BitVec.toNat_inj]
  have unlike : lessThanEqualsModulo x y modulo ≠ lessThanEqualsModulo y x modulo ↔
      ¬ (lessThanEqualsModulo x y modulo = true ↔ lessThanEqualsModulo y x modulo = true) := by
    rw [ne_eq, Bool.eq_iff_iff]
  constructor
  · intro compares
    have window := compares.inWindow
    have oneOf := compares.oneOf
    rw [unlike, differ] at oneOf
    rw [forwards] at window oneOf
    rw [backwards] at oneOf
    rw [distance, ← halfInt] at window oneOf
    rw [doubleInt, ← halfInt] at window oneOf
    generalize 2 ^ (modulo - 1) = half at *
    split_ifs at window oneOf <;> omega
  · rintro ⟨above, below⟩
    refine ⟨?_, ?_⟩
    · rw [forwards, distance, doubleInt, ← halfInt]
      generalize 2 ^ (modulo - 1) = half at *
      split_ifs <;> omega
    · rw [unlike, differ, forwards, backwards, distance, doubleInt, ← halfInt]
      generalize 2 ^ (modulo - 1) = half at *
      omega

theorem comparesModulo_iff_next :
    ComparesModulo 6 7 16 ↔ (6 : BitVec 32).toNat < (7 : BitVec 32).toNat + 2 ^ 15 ∧
      (7 : BitVec 32).toNat < (6 : BitVec 32).toNat + 2 ^ 15 :=
  comparesModulo_iff (by decide) (by decide) (by decide) (by decide)

/-- Number 0 comes after 65535, and counts as less than or equal to it. -/
theorem lessThanEqualsModulo_wrapped : lessThanEqualsModulo 0 65535 16 = true ∧ ¬ ComparesModulo 0 65535 16 := by
  refine ⟨by decide, fun compares => ?_⟩
  have window := compares.inWindow.mp (by decide)
  simp at window

end IPv6Suite
