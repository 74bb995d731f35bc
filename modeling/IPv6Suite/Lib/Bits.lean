import Mathlib.Data.BitVec
import Mathlib.Tactic.Common

namespace Lib

/-! ### Flags and fields of a word -/

namespace Flags

variable {w : Nat} {x y : BitVec w} {i k n : Nat} {b : Bool}

/-- The word after the flag at a bit is set or cleared -/
def put (x : BitVec w) (k : Nat) (b : Bool) : BitVec w :=
  if b then x ||| BitVec.twoPow w k else x &&& ~~~BitVec.twoPow w k

/-- A mask of one bit reads the bit. -/
theorem and_twoPow_ne_zero (inside : k < w) : decide (x &&& BitVec.twoPow w k ≠ 0) = x.getLsbD k := by
  rw [BitVec.and_twoPow]
  cases bit : x.getLsbD k with
  | false => rfl
  | true =>
      have nonzero : BitVec.twoPow w k ≠ 0 := by
        intro zero
        have selected := congrArg (fun bits => bits.getLsbD k) zero
        simp [inside] at selected
      exact decide_eq_true nonzero

theorem getLsbD_put_ne (differs : i ≠ k) : (put x k b).getLsbD i = x.getLsbD i := by
  have unset : (BitVec.twoPow w k).getLsbD i = false := by
    rw [BitVec.getLsbD_twoPow, decide_eq_false (Ne.symm differs), Bool.and_false]
  unfold put
  cases b with
  | true => rw [if_pos rfl, BitVec.getLsbD_or, unset, Bool.or_false]
  | false =>
      rw [if_neg Bool.false_ne_true, BitVec.getLsbD_and, BitVec.getLsbD_not, unset, Bool.not_false, Bool.and_true]
      by_cases inside : i < w
      · rw [decide_eq_true inside, Bool.and_true]
      · rw [BitVec.getLsbD_of_ge x i (Nat.le_of_not_lt inside), Bool.false_and]

theorem getLsbD_put_same (inside : k < w) : (put x k b).getLsbD k = b := by
  have set : (BitVec.twoPow w k).getLsbD k = true := by
    rw [BitVec.getLsbD_twoPow, decide_eq_true inside, decide_eq_true rfl, Bool.and_self]
  unfold put
  cases b with
  | true => rw [if_pos rfl, BitVec.getLsbD_or, set, Bool.or_true]
  | false =>
      rw [if_neg Bool.false_ne_true, BitVec.getLsbD_and, BitVec.getLsbD_not, set, Bool.not_true, Bool.and_false,
        Bool.and_false]

/-- A flag below a field at the top -/
theorem put_ushiftRight (below : k < n) : put x k b >>> n = x >>> n := by
  apply BitVec.eq_of_getLsbD_eq
  intro i _
  rw [BitVec.getLsbD_ushiftRight, BitVec.getLsbD_ushiftRight, getLsbD_put_ne (by omega)]

/-- A flag above a field at the bottom -/
theorem put_and (above : ∀ i, y.getLsbD i → i ≠ k) : put x k b &&& y = x &&& y := by
  apply BitVec.eq_of_getLsbD_eq
  intro i _
  rw [BitVec.getLsbD_and, BitVec.getLsbD_and]
  cases field : y.getLsbD i with
  | false => rw [Bool.and_false, Bool.and_false]
  | true => rw [getLsbD_put_ne (above i field)]

/-- Bits that are only set in a field do not reach a flag below it. -/
theorem getLsbD_or_shiftLeft (below : k < n) : (x ||| y <<< n).getLsbD k = x.getLsbD k := by
  rw [BitVec.getLsbD_or, BitVec.getLsbD_shiftLeft, decide_eq_true below, Bool.not_true, Bool.and_false,
    Bool.false_and, Bool.or_false]

/-- What is in a field at the top after bits of it are set -/
theorem or_shiftLeft_ushiftRight (room : y.toNat < 2 ^ (w - n)) : (x ||| y <<< n) >>> n = x >>> n ||| y := by
  apply BitVec.eq_of_getLsbD_eq
  intro i inside
  rw [BitVec.getLsbD_ushiftRight, BitVec.getLsbD_or, BitVec.getLsbD_or, BitVec.getLsbD_ushiftRight,
    BitVec.getLsbD_shiftLeft, Nat.add_sub_cancel_left, decide_eq_false (Nat.not_lt.mpr (Nat.le_add_right n i)),
    Bool.not_false, Bool.and_true]
  by_cases fits : n + i < w
  · rw [decide_eq_true fits, Bool.true_and]
  · have unset : y.getLsbD i = false :=
      Nat.testBit_lt_two_pow (room.trans_le (Nat.pow_le_pow_right (by decide) (by omega)))
    rw [unset, Bool.and_false]

/-- Bits of a field at the bottom do not reach a flag above it. -/
theorem getLsbD_or_small (small : y.toNat < 2 ^ n) (above : n ≤ k) : (x ||| y).getLsbD k = x.getLsbD k := by
  have unset : y.getLsbD k = false :=
    Nat.testBit_lt_two_pow (small.trans_le (Nat.pow_le_pow_right (by decide) above))
  rw [BitVec.getLsbD_or, unset, Bool.or_false]

theorem or_small_ushiftRight (small : y.toNat < 2 ^ n) : (x ||| y) >>> n = x >>> n := by
  apply BitVec.eq_of_getLsbD_eq
  intro i _
  rw [BitVec.getLsbD_ushiftRight, BitVec.getLsbD_ushiftRight, getLsbD_or_small small (Nat.le_add_right n i)]

end Flags

/-! ### Shifts -/

namespace Shift

variable {w : Nat}

/-- `a << s`, undefined from the width of the operand on. -/
def left (a : BitVec w) (s : Nat) : Option (BitVec w) := if s < w then some (a <<< s) else none

/-- `a >> s` of an unsigned operand -/
def right (a : BitVec w) (s : Nat) : Option (BitVec w) := if s < w then some (a >>> s) else none

/-- `a - b` of signed operands, undefined when the difference does not fit. -/
def signedSub (a b : BitVec w) : Option (BitVec w) := if a.ssubOverflow b then none else some (a - b)

theorem left_eq {a : BitVec w} {s : Nat} (inRange : s < w) : left a s = some (a <<< s) := by
  simp [left, inRange]

theorem right_eq {a : BitVec w} {s : Nat} (inRange : s < w) : right a s = some (a >>> s) := by
  simp [right, inRange]

theorem left_none {a : BitVec w} {s : Nat} (outside : w ≤ s) : left a s = none := by
  simp [left, Nat.not_lt.mpr outside]

/-- `(1 << s) - 1` of the signed type of width `w` -/
def lowMask (w s : Nat) : Option (BitVec w) := (left 1 s).bind fun power => signedSub power 1

/-- Below the sign bit the mask has exactly the low bits set. -/
theorem lowMask_eq {s : Nat} (inside : s + 1 < w) : lowMask w s = some (BitVec.ofNat w (2 ^ s - 1)) := by
  have positive : 0 < 2 ^ s := Nat.two_pow_pos s
  have smaller : 2 ^ s < 2 ^ (w - 1) := Nat.pow_lt_pow_right (by omega) (by omega)
  have double : 2 ^ w = 2 * 2 ^ (w - 1) := by
    rw [← Nat.pow_succ', Nat.succ_eq_add_one, Nat.sub_add_cancel (by omega)]
  have power : (1#w <<< s).toInt = 2 ^ s := by
    rw [← BitVec.twoPow_eq, BitVec.toInt_twoPow]
    simp [show ¬ w ≤ s by omega, show s + 1 ≠ w by omega]
  have one : (1#w).toInt = 1 := BitVec.toInt_one (by omega)
  have fits : (1#w <<< s).ssubOverflow 1#w = false := by
    rw [BitVec.ssubOverflow, power, one]
    have below : (2 : Int) ^ s < 2 ^ (w - 1) := by exact_mod_cast smaller
    have above : 0 < (2 : Int) ^ s := by exact_mod_cast positive
    simp only [Bool.or_eq_false_iff, decide_eq_false_iff_not]
    constructor <;> omega
  rw [lowMask, left_eq (by omega), Option.bind_some, signedSub]
  simp only [BitVec.ofNat_eq_ofNat, fits, Bool.false_eq_true, if_false, Option.some.injEq]
  apply BitVec.eq_of_toNat_eq
  rw [← BitVec.twoPow_eq, BitVec.toNat_sub, BitVec.toNat_twoPow_of_lt (by omega), BitVec.toNat_ofNat,
    BitVec.toNat_ofNat, Nat.mod_eq_of_lt (by omega : 1 < 2 ^ w), Nat.mod_eq_of_lt (by omega : 2 ^ s - 1 < 2 ^ w),
    show 2 ^ w - 1 + 2 ^ s = 2 ^ s - 1 + 2 ^ w by omega, Nat.add_mod_right]
  exact Nat.mod_eq_of_lt (by omega)

/-- The power in the sign bit has no predecessor. -/
theorem lowMask_none {s : Nat} (wide : 1 < w) (outside : w ≤ s + 1) : lowMask w s = none := by
  by_cases inRange : s < w
  · have sign : s = w - 1 := by omega
    have power : (1#w <<< s).toInt = -2 ^ (w - 1) := by
      rw [← BitVec.twoPow_eq, BitVec.toInt_twoPow, sign]
      simp [show ¬ w ≤ w - 1 by omega, show w - 1 + 1 = w by omega]
    have one : (1#w).toInt = 1 := BitVec.toInt_one (by omega)
    have overflows : (1#w <<< s).ssubOverflow 1#w = true := by
      rw [BitVec.ssubOverflow, power, one]
      simp only [Bool.or_eq_true, decide_eq_true_eq]
      exact Or.inr (by omega)
    rw [lowMask, left_eq inRange, Option.bind_some, signedSub]
    simp [overflows]
  · rw [lowMask, left_none (by omega), Option.bind_none]

/-- The mask is not negative, so it is extended with zeros. -/
theorem signExtend_lowMask {v s : Nat} (inside : s < w) (wider : w ≤ v) :
    (BitVec.ofNat w (2 ^ s - 1)).signExtend v = BitVec.ofNat v (2 ^ s - 1) := by
  have small : 2 ^ s ≤ 2 ^ (w - 1) := Nat.pow_le_pow_right (by omega) (by omega)
  have double : 2 ^ w = 2 * 2 ^ (w - 1) := by
    rw [← Nat.pow_succ', Nat.succ_eq_add_one, Nat.sub_add_cancel (by omega)]
  have positive : 0 < 2 ^ (w - 1) := Nat.two_pow_pos _
  have within : 2 ^ w ≤ 2 ^ v := Nat.pow_le_pow_right (by omega) wider
  have fits : (2 ^ s - 1) % 2 ^ w = 2 ^ s - 1 := Nat.mod_eq_of_lt (by omega)
  rw [BitVec.signExtend_eq_setWidth_of_msb_false]
  · apply BitVec.eq_of_toNat_eq
    rw [BitVec.toNat_setWidth, BitVec.toNat_ofNat, BitVec.toNat_ofNat, fits]
  · rw [BitVec.msb_eq_false_iff_two_mul_lt, BitVec.toNat_ofNat, fits]
    omega

variable (hi lo : BitVec w) {s : Nat}

/-- A right shift across two words: the low bits of the upper word are carried over. -/
theorem right_append (inside : s < w) : (hi ++ lo) >>> s =
    (hi >>> s) ++ (lo >>> s ||| (hi &&& BitVec.ofNat w (2 ^ s - 1)) <<< (w - s)) := by
  apply BitVec.eq_of_getLsbD_eq
  intro k below
  simp only [BitVec.getLsbD_ushiftRight, BitVec.getLsbD_append, BitVec.getLsbD_or, BitVec.getLsbD_shiftLeft,
    BitVec.getLsbD_and, BitVec.getLsbD_ofNat, Nat.testBit_two_pow_sub_one]
  by_cases upper : k < w
  · by_cases own : s + k < w
    · simp [own, upper, show k < w - s by omega]
    · have carried : k - (w - s) = s + k - w := by omega
      have outside := BitVec.getLsbD_of_ge lo (s + k) (by omega)
      simp [own, upper, outside, carried, show ¬ k < w - s by omega, show s + k - w < w by omega,
        show s + k - w < s by omega]
  · have across : s + (k - w) = s + k - w := by omega
    simp [upper, show ¬ s + k < w by omega, across]

/-- From the width of a word on only the upper word is left. -/
theorem right_append_of_le (far : w ≤ s) : (hi ++ lo) >>> s = (0 : BitVec w) ++ hi >>> (s - w) := by
  apply BitVec.eq_of_getLsbD_eq
  intro k below
  simp only [BitVec.getLsbD_ushiftRight, BitVec.getLsbD_append]
  have across : s - w + k = s + k - w := by omega
  by_cases upper : k < w
  · simp [upper, show ¬ s + k < w by omega, across]
  · simp [upper, show ¬ s + k < w by omega, BitVec.getLsbD_of_ge hi (s + k - w) (by omega)]

/-- A left shift across two words: the high bits of the lower word are carried over. -/
theorem left_append (inside : s < w) : (hi ++ lo) <<< s = (hi <<< s ||| lo >>> (w - s)) ++ lo <<< s := by
  apply BitVec.eq_of_getLsbD_eq
  intro k below
  simp only [BitVec.getLsbD_ushiftRight, BitVec.getLsbD_append, BitVec.getLsbD_or, BitVec.getLsbD_shiftLeft]
  by_cases upper : k < w
  · by_cases empty : k < s
    · simp [upper, empty]
    · simp [upper, empty, show k < w + w by omega, show k - s < w by omega]
  · by_cases carried : k - w < s
    · have position : w - s + (k - w) = k - s := by omega
      simp [upper, carried, position, below, show ¬ k < s by omega, show k - s < w by omega]
    · have position : k - w - s = k - s - w := by omega
      have outside := BitVec.getLsbD_of_ge lo (w - s + (k - w)) (by omega)
      simp [upper, carried, position, outside, below, show ¬ k < s by omega, show ¬ k - s < w by omega,
        show k - w < w by omega]

theorem left_append_of_le (far : w ≤ s) : (hi ++ lo) <<< s = lo <<< (s - w) ++ (0 : BitVec w) := by
  apply BitVec.eq_of_getLsbD_eq
  intro k below
  simp only [BitVec.getLsbD_append, BitVec.getLsbD_shiftLeft]
  by_cases upper : k < w
  · simp [upper, show k < s by omega]
  · by_cases empty : k < s
    · simp [upper, empty, show k - w < s - w by omega]
    · have position : k - w - (s - w) = k - s := by omega
      simp [upper, empty, below, position, show ¬ k - w < s - w by omega, show k - w < w by omega,
        show k - s < w by omega]

end Shift

/-! ### Leading bits -/

section

variable {w n k : Nat} {x y mask mask' : BitVec w}

/-- The mask of the first `n` bits -/
def LeadingOnes (mask : BitVec w) (n : Nat) : Prop := ∀ i < w, mask.getMsbD i = decide (i < n)

/-- The first `n` bits of two words are the same. -/
def AgreeFirst (n : Nat) (x y : BitVec w) : Prop := ∀ i < n, x.getMsbD i = y.getMsbD i

theorem agreeFirst_width : AgreeFirst w x y ↔ x = y := by
  constructor
  · exact BitVec.eq_of_getMsbD_eq
  · intro same i _
    rw [same]

theorem LeadingOnes.and_eq_and_iff (ones : LeadingOnes mask n) : x &&& mask = y &&& mask ↔ AgreeFirst n x y := by
  constructor
  · intro same i inside
    by_cases short : i < w
    · have bit := congrArg (fun v => v.getMsbD i) same
      simpa only [BitVec.getMsbD_and, ones i short, inside, decide_true, Bool.and_true] using bit
    · rw [BitVec.getMsbD_of_ge _ _ (by omega), BitVec.getMsbD_of_ge _ _ (by omega)]
  · intro agree
    apply BitVec.eq_of_getMsbD_eq
    intro i short
    rw [BitVec.getMsbD_and, BitVec.getMsbD_and, ones i short]
    by_cases inside : i < n
    · rw [agree i inside]
    · simp [inside]

theorem LeadingOnes.unique (ones : LeadingOnes mask n) (ones' : LeadingOnes mask' n) : mask = mask' := by
  apply BitVec.eq_of_getMsbD_eq
  intro i inside
  rw [ones i inside, ones' i inside]

theorem leadingOnes_not_shift (n : Nat) : LeadingOnes (~~~ (BitVec.allOnes w >>> n)) n := by
  intro i inside
  rw [BitVec.getMsbD_not, BitVec.getMsbD_ushiftRight, BitVec.getMsbD_allOnes]
  by_cases first : i < n
  · simp [inside, first]
  · have room : i - n < w := by omega
    simp [inside, first, room]

theorem LeadingOnes.toNat_eq (ones : LeadingOnes mask n) (short : n ≤ w) : mask.toNat = 2 ^ w - 2 ^ (w - n) := by
  have parts : 2 ^ w = 2 ^ n * 2 ^ (w - n) := by
    rw [← Nat.pow_add, Nat.add_sub_cancel' short]
  have rest : (2 ^ w - 1) / 2 ^ n = 2 ^ (w - n) - 1 := by
    have unit := Nat.two_pow_pos n
    apply Nat.div_eq_of_lt_le
    · rw [Nat.sub_mul, Nat.mul_comm, ← parts]
      omega
    · rw [Nat.sub_add_cancel (Nat.two_pow_pos _), Nat.mul_comm, ← parts]
      have whole := Nat.two_pow_pos w
      omega
  have less : 2 ^ (w - n) ≤ 2 ^ w := Nat.pow_le_pow_right (by decide) (by omega)
  have unit := Nat.two_pow_pos (w - n)
  rw [ones.unique (leadingOnes_not_shift n), BitVec.toNat_not, BitVec.toNat_ushiftRight, Nat.shiftRight_eq_div_pow,
    BitVec.toNat_allOnes, rest]
  omega

/-- Masks of leading ones are ordered by their lengths. -/
theorem LeadingOnes.lt_iff (ones : LeadingOnes mask n) (short : n ≤ w) (ones' : LeadingOnes mask' k) (short' : k ≤ w) :
    mask < mask' ↔ n < k := by
  rw [BitVec.lt_def, ones.toNat_eq short, ones'.toNat_eq short']
  have less : 2 ^ (w - n) ≤ 2 ^ w := Nat.pow_le_pow_right (by decide) (by omega)
  have less' : 2 ^ (w - k) ≤ 2 ^ w := Nat.pow_le_pow_right (by decide) (by omega)
  have order : 2 ^ (w - k) < 2 ^ (w - n) ↔ w - k < w - n := Nat.pow_lt_pow_iff_right (by decide)
  omega

end

end Lib
