import Mathlib.Algebra.Group.Nat.Defs

namespace Lib

namespace SerialNumber

variable {w : Nat}

/-- The number `i` places after `base` in a sequence that wraps around. -/
def place (base : BitVec w) (i : Nat) : BitVec w := base + BitVec.ofNat w i

variable (base : BitVec w) {i j : Nat}

@[simp] theorem place_zero : place base 0 = base := by simp [place]

theorem place_add (i d : Nat) : place base i + BitVec.ofNat w d = place base (i + d) := by
  unfold place
  rw [BitVec.ofNat_add, BitVec.add_assoc]

theorem toNat_place (i : Nat) : (place base i).toNat = (base.toNat + i) % 2 ^ w := by
  simp [place]

/-- The distance to a later place. -/
theorem toNat_sub_place (le : i ≤ j) (near : j - i < 2 ^ w) : (place base j - place base i).toNat = j - i := by
  obtain ⟨d, rfl⟩ := Nat.exists_eq_add_of_le le
  have difference : place base (i + d) - place base i = BitVec.ofNat w d := by
    rw [← place_add, BitVec.add_comm, BitVec.add_sub_cancel]
  rw [difference, BitVec.toNat_ofNat, Nat.add_sub_cancel_left]
  rw [Nat.add_sub_cancel_left] at near
  exact Nat.mod_eq_of_lt near

/-- The distance to an earlier place is the way around. -/
theorem toNat_sub_place_earlier (lt : i < j) (near : j - i < 2 ^ w) :
    (place base i - place base j).toNat = 2 ^ w - (j - i) := by
  have distance := toNat_sub_place base (Nat.le_of_lt lt) near
  have opposite : place base i - place base j = -(place base j - place base i) := by
    rw [BitVec.neg_sub, BitVec.sub_eq_add_neg, BitVec.add_comm]
  rw [opposite, BitVec.toNat_neg, distance]
  exact Nat.mod_eq_of_lt (by omega)

theorem place_inj (near : i ≤ j) (close : j - i < 2 ^ w) : place base i = place base j ↔ i = j := by
  constructor
  · intro same
    have distance := toNat_sub_place base near close
    rw [same, BitVec.sub_self, BitVec.toNat_zero] at distance
    omega
  · rintro rfl
    rfl

end SerialNumber

end Lib
