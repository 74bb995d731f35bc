import IPv6Suite.IPv6Address
import IPv6Suite.Lib.Bits

namespace IPv6Suite

open Lib

/-- The halves `ipv6_addr_toLongArray` gives: `addr[0]` and `addr[1]`. -/
structure LongArray where
  lower : BitVec 64
  upper : BitVec 64

namespace LongArray

def toAddr (addr : LongArray) : Ipv6Addr where
  extreme := (addr.upper >>> 32).setWidth 32
  high := (addr.upper &&& ((1#64 <<< 32) - 1)).setWidth 32
  normal := (addr.lower >>> 32).setWidth 32
  low := (addr.lower &&& ((1#64 <<< 32) - 1)).setWidth 32

def toBits (addr : LongArray) : BitVec 128 := addr.upper ++ addr.lower

end LongArray

namespace Ipv6Addr

def toLongArray (src : Ipv6Addr) : LongArray where
  lower := (src.normal.setWidth 64 <<< 32) + src.low.setWidth 64
  upper := (src.extreme.setWidth 64 <<< 32) + src.high.setWidth 64

/-- `operator>>=`: none where a shift amount or the signed mask is undefined. -/
def shiftRight (a : Ipv6Addr) (shift : Nat) : Option Ipv6Addr :=
  if shift = 0 then some a
  else
    let addr := a.toLongArray
    if shift < 64 then do
      let lower ← Shift.right addr.lower shift
      -- `1` is an `int` here, not one of the 64-bit halves
      let mask ← Shift.lowMask 32 shift
      let carry := addr.upper &&& mask.signExtend 64
      let upper ← Shift.right addr.upper shift
      let carried ← Shift.left carry (64 - shift)
      return LongArray.toAddr ⟨lower ||| carried, upper⟩
    else if shift = 64 then some (LongArray.toAddr ⟨addr.upper, 0⟩)
    else do
      let lower ← Shift.right addr.upper (shift % 64)
      return LongArray.toAddr ⟨lower, 0⟩

/-- `operator<<=` -/
def shiftLeft (a : Ipv6Addr) (shift : Nat) : Option Ipv6Addr :=
  if shift = 0 then some a
  else
    let addr := a.toLongArray
    if shift < 64 then do
      let upper ← Shift.left addr.upper shift
      let carry ← Shift.right addr.lower (64 - shift)
      let lower ← Shift.left addr.lower shift
      return LongArray.toAddr ⟨lower, upper ||| carry⟩
    else if shift = 64 then some (LongArray.toAddr ⟨0, addr.lower⟩)
    else do
      let upper ← Shift.left addr.lower (shift % 64)
      return LongArray.toAddr ⟨0, upper⟩

def toBits (a : Ipv6Addr) : BitVec 128 := (a.extreme ++ a.high) ++ (a.normal ++ a.low)

theorem pair_eq_append (hi lo : BitVec 32) : (hi.setWidth 64 <<< 32) + lo.setWidth 64 = hi ++ lo := by
  apply BitVec.eq_of_toNat_eq
  have upper := hi.isLt
  have lower := lo.isLt
  rw [BitVec.toNat_append, ← Nat.shiftLeft_add_eq_or_of_lt lower]
  simp only [BitVec.toNat_add, BitVec.toNat_shiftLeft, BitVec.toNat_setWidth, Nat.shiftLeft_eq]
  omega

theorem append_pair (word : BitVec 64) :
    (word >>> 32).setWidth 32 ++ (word &&& ((1#64 <<< 32) - 1)).setWidth 32 = word := by
  have mask : (1#64 <<< 32) - 1 = BitVec.ofNat 64 (2 ^ 32 - 1) := by decide
  apply BitVec.eq_of_getLsbD_eq
  intro k below
  simp only [mask, BitVec.getLsbD_append, BitVec.getLsbD_setWidth, BitVec.getLsbD_ushiftRight,
    BitVec.getLsbD_and, BitVec.getLsbD_ofNat, Nat.testBit_two_pow_sub_one]
  by_cases lower : k < 32
  · simp [lower, below]
  · simp [lower, show k - 32 < 32 by omega, show 32 + (k - 32) = k by omega]

theorem toBits_toLongArray (a : Ipv6Addr) : a.toLongArray.toBits = a.toBits := by
  simp only [toLongArray, LongArray.toBits, pair_eq_append, toBits]

theorem toBits_toAddr (addr : LongArray) : addr.toAddr.toBits = addr.toBits := by
  unfold Ipv6Addr.toBits LongArray.toAddr LongArray.toBits
  rw [append_pair, append_pair]

/-- `bit` counts from the most significant one. -/
theorem getMsbD_toBits (a : Ipv6Addr) {k : Nat} (inside : k < 128) : a.toBits.getMsbD k = a.bit k := by
  rw [toBits, BitVec.getMsbD_append, BitVec.getMsbD_append, BitVec.getMsbD_append, bit,
    words]
  by_cases first : k < 32
  · rw [wordsBit_head first, if_neg (by omega), if_neg (by omega)]
  obtain ⟨k, rfl⟩ : ∃ i, k = 32 + i := ⟨k - 32, by omega⟩
  rw [wordsBit_tail]
  by_cases second : k < 32
  · rw [wordsBit_head second, if_neg (by omega), if_pos (by omega), Nat.add_sub_cancel_left]
  obtain ⟨k, rfl⟩ : ∃ i, k = 32 + i := ⟨k - 32, by omega⟩
  rw [wordsBit_tail, if_pos (by omega), show 32 + (32 + k) - (32 + 32) = k by omega]
  by_cases third : k < 32
  · rw [wordsBit_head third, if_neg (by omega)]
  obtain ⟨k, rfl⟩ : ∃ i, k = 32 + i := ⟨k - 32, by omega⟩
  rw [wordsBit_tail, wordsBit_head (by omega), if_pos (by omega), Nat.add_sub_cancel_left]

/-- The carry is masked with an `int`, which has no bit to spare for the top of the word. -/
theorem shiftRight_eq (a : Ipv6Addr) {s : Nat} (inside : s ≤ 30 ∨ 64 ≤ s) (range : s < 128) :
    ∃ r, a.shiftRight s = some r ∧ r.toBits = a.toBits >>> s := by
  have halves := toBits_toLongArray a
  unfold LongArray.toBits at halves
  by_cases still : s = 0
  · exact ⟨a, by simp [shiftRight, still], by simp [still]⟩
  rcases inside with near | far
  · let addr := a.toLongArray
    let carry := addr.upper &&& BitVec.ofNat 64 (2 ^ s - 1)
    refine ⟨LongArray.toAddr ⟨addr.lower >>> s ||| carry <<< (64 - s), addr.upper >>> s⟩, ?_, ?_⟩
    · simp only [shiftRight, still, if_false, show s < 64 by omega, if_true, Shift.lowMask_eq (show s + 1 < 32 by omega),
        Shift.right_eq (show s < 64 by omega), Shift.left_eq (show 64 - s < 64 by omega), Option.bind_eq_bind,
        Option.bind_some, Shift.signExtend_lowMask (show s < 32 by omega) (show 32 ≤ 64 by decide)]
      rfl
    · rw [toBits_toAddr, ← halves, Shift.right_append _ _ (by omega)]
      rfl
  · have remainder : s % 64 = s - 64 := by omega
    refine ⟨LongArray.toAddr ⟨a.toLongArray.upper >>> (s - 64), 0⟩, ?_, ?_⟩
    · by_cases whole : s = 64
      · simp [shiftRight, whole]
      · simp only [shiftRight, still, if_false, show ¬ s < 64 by omega, whole, remainder,
          Shift.right_eq (show s - 64 < 64 by omega)]
        rfl
    · rw [toBits_toAddr, ← halves, Shift.right_append_of_le _ _ far]
      rfl

theorem shiftRight_undefined (a : Ipv6Addr) {s : Nat} (above : 31 ≤ s) (below : s < 64) :
    a.shiftRight s = none := by
  simp only [shiftRight, show s ≠ 0 by omega, if_false, below, if_true, Shift.right_eq below,
    Shift.lowMask_none (show 1 < 32 by decide) (show 32 ≤ s + 1 by omega)]
  rfl

theorem shiftLeft_eq (a : Ipv6Addr) {s : Nat} (range : s < 128) :
    ∃ l, a.shiftLeft s = some l ∧ l.toBits = a.toBits <<< s := by
  have halves := toBits_toLongArray a
  unfold LongArray.toBits at halves
  by_cases still : s = 0
  · exact ⟨a, by simp [shiftLeft, still], by simp [still]⟩
  by_cases near : s < 64
  · let addr := a.toLongArray
    refine ⟨LongArray.toAddr ⟨addr.lower <<< s, addr.upper <<< s ||| addr.lower >>> (64 - s)⟩, ?_, ?_⟩
    · simp only [shiftLeft, still, if_false, near, if_true, Shift.left_eq near,
        Shift.right_eq (show 64 - s < 64 by omega)]
      rfl
    · rw [toBits_toAddr, ← halves, Shift.left_append _ _ near]
      rfl
  · have remainder : s % 64 = s - 64 := by omega
    refine ⟨LongArray.toAddr ⟨0, a.toLongArray.lower <<< (s - 64)⟩, ?_, ?_⟩
    · by_cases whole : s = 64
      · simp [shiftLeft, whole]
      · simp only [shiftLeft, still, if_false, near, whole, remainder, Shift.left_eq (show s - 64 < 64 by omega)]
        rfl
    · rw [toBits_toAddr, ← halves, Shift.left_append_of_le _ _ (by omega)]
      rfl

/-- Both operators are the logical shifts of the 128-bit word, and one after the other clears the top bits. -/
structure ShiftsExactly (a : Ipv6Addr) (s : Nat) : Prop where
  right : ∃ r, a.shiftRight s = some r ∧ r.toBits = a.toBits >>> s
  left : ∃ l, a.shiftLeft s = some l ∧ l.toBits = a.toBits <<< s
  clears : ∃ r, (a.shiftLeft s).bind (·.shiftRight s) = some r ∧
    ∀ k < 128, r.bit k = (decide (s ≤ k) && a.bit k)

theorem shifts_exactly (a : Ipv6Addr) (s : Nat) (range : s ≤ 127) :
    a.ShiftsExactly s ↔ s ≤ 30 ∨ 64 ≤ s := by
  constructor
  · intro exact
    obtain ⟨r, moved, _⟩ := exact.right
    by_contra masked
    rw [shiftRight_undefined a (by omega) (by omega)] at moved
    cases moved
  · intro inside
    obtain ⟨l, moved, shifted⟩ := shiftLeft_eq a (show s < 128 by omega)
    obtain ⟨r, back, cleared⟩ := shiftRight_eq l inside (by omega)
    refine ⟨shiftRight_eq a inside (by omega), ⟨l, moved, shifted⟩, r, by rw [moved, Option.bind_some, back], ?_⟩
    intro k below
    rw [← getMsbD_toBits r below, cleared, shifted, ← getMsbD_toBits a below]
    simp only [BitVec.getMsbD_ushiftRight, BitVec.getMsbD_shiftLeft]
    by_cases kept : s ≤ k
    · simp [kept, below, show ¬ k < s by omega]
    · simp [kept, show k < s by omega]

theorem shifts_exactly_test : (65 : Nat) ≤ 127 ∧
    ((⟨0x80000000, 0x8002, 0, 0⟩ : Ipv6Addr).ShiftsExactly 65 ↔ 65 ≤ 30 ∨ 64 ≤ 65) :=
  ⟨by decide, shifts_exactly _ 65 (by decide)⟩

/-- `1 << 48` does not fit the `int` it is computed in. -/
theorem shift_undefined : ¬ ∀ (a : Ipv6Addr) (s : Nat), s ≤ 127 → a.ShiftsExactly s := by
  intro claimed
  obtain ⟨r, moved, _⟩ := (claimed ⟨0x20010DB8, 0, 0, 1⟩ 48 (by decide)).right
  have undefinedMask : (⟨0x20010DB8, 0, 0, 1⟩ : Ipv6Addr).shiftRight 48 = none := by decide
  rw [undefinedMask] at moved
  cases moved

end Ipv6Addr

end IPv6Suite
