import IPv6Suite.Lib.Exec
import Mathlib.Algebra.Group.Nat.Defs

namespace Lib

abbrev Bytes := List (BitVec 8)

namespace Bytes

/-- The `n` bytes of a value, the lowest first -/
def ofNat : Nat → Nat → Bytes
  | 0, _ => []
  | n + 1, value => BitVec.ofNat 8 value :: ofNat n (value / 256)

def toNat : Bytes → Nat
  | [] => 0
  | b :: bs => b.toNat + 256 * toNat bs

/-- `memcpy` of `size` bytes at an offset of a buffer, which must not end before -/
def read (buffer : Bytes) (offset size : Nat) : Exec Bytes :=
  if offset + size ≤ buffer.length then .ok ((buffer.drop offset).take size) else .error .outOfBounds

/-- `memcpy` to an offset of a buffer -/
def write (buffer : Bytes) (offset : Nat) (bytes : Bytes) : Exec Bytes :=
  if offset + bytes.length ≤ buffer.length then
    .ok (buffer.take offset ++ bytes ++ buffer.drop (offset + bytes.length))
  else .error .outOfBounds

theorem toNat_ofNat (n value : Nat) : toNat (ofNat n value) = value % 256 ^ n := by
  induction n generalizing value with
  | zero => rw [Nat.pow_zero, Nat.mod_one, ofNat, toNat]
  | succ n ih =>
      rw [ofNat, toNat, ih, BitVec.toNat_ofNat]
      change value % 256 + 256 * (value / 256 % 256 ^ n) = value % (256 ^ n * 256)
      rw [Nat.mul_comm (256 ^ n), Nat.mod_mul]

/-- A word is read back from its bytes. -/
theorem toNat_word {n w : Nat} (x : BitVec w) (width : 2 ^ w = 256 ^ n) :
    BitVec.ofNat w (toNat (ofNat n x.toNat)) = x := by
  rw [toNat_ofNat, ← width, Nat.mod_eq_of_lt x.isLt, BitVec.ofNat_toNat, BitVec.setWidth_eq]

variable {front bytes old back : Bytes}

theorem read_append : read (front ++ bytes ++ back) front.length bytes.length = .ok bytes := by
  unfold read
  rw [if_pos]
  · rw [List.append_assoc, List.drop_left, List.take_left]
  · simp only [List.length_append]
    omega

theorem write_append (same : old.length = bytes.length) :
    write (front ++ old ++ back) front.length bytes = .ok (front ++ bytes ++ back) := by
  have head : (front ++ old ++ back).take front.length = front := by
    rw [List.append_assoc, List.take_left]
  have tail : (front ++ old ++ back).drop (front.length + bytes.length) = back := by
    rw [← same, ← List.length_append, List.drop_left]
  unfold write
  rw [if_pos, head, tail]
  simp only [List.length_append]
  omega

end Bytes

end Lib
