import IPv6Suite.HMIPv6NDStateHost
import IPv6Suite.Lib.Bits

namespace IPv6Suite

open Lib

namespace Ipv6Addr

/-- Word `i` of an address in the loop of `higherNbBits` -/
def higherSegment (nbSegs nthBit i : Nat) (word : BitVec 32) : Option (BitVec 32) :=
  if i < nbSegs then some word
  else if i = nbSegs then (Shift.right word nthBit).bind fun shifted => Shift.left shifted nthBit
  else some 0

/-- `IPv6Address::higherNbBits`: none where the assertion fails or a shift is undefined. -/
def higherNbBits (a : Ipv6Addr) (nbbits : Nat) : Option Ipv6Addr :=
  if nbbits ≤ 128 then
    if nbbits = 0 then some unspecified
    else if nbbits = 128 then some a
    else do
      let nbSegs := nbbits / 32
      let nthBit := 32 - nbbits % 32
      let extreme ← higherSegment nbSegs nthBit 0 a.extreme
      let high ← higherSegment nbSegs nthBit 1 a.high
      let normal ← higherSegment nbSegs nthBit 2 a.normal
      let low ← higherSegment nbSegs nthBit 3 a.low
      return ⟨extreme, high, normal, low⟩
  else none

end Ipv6Addr

/-- `truncate` with the shifts of the source -/
def IPv6Address.truncateInPlace (a : IPv6Address) : Option IPv6Address :=
  if 0 < a.prefixLength ∧ a.prefixLength < 128 then
    (a.addr.higherNbBits a.prefixLength).map fun addr => ⟨addr, a.prefixLength⟩
  else some a

namespace Ipv6Addr

/-- The lengths that do not end at a word inside the address -/
def WithinWord (n : Nat) : Prop := n = 0 ∨ n = 128 ∨ n % 32 ≠ 0
deriving Decidable

theorem getMsbD_higherSegment {n : Nat} (inner : n % 32 ≠ 0) (i : Nat) (word : BitVec 32) :
    ∃ kept, higherSegment (n / 32) (32 - n % 32) i word = some kept ∧
      ∀ k < 32, kept.getMsbD k = (decide (32 * i + k < n) && word.getMsbD k) := by
  have split := Nat.div_add_mod n 32
  unfold higherSegment
  by_cases before : i < n / 32
  · refine ⟨word, by rw [if_pos before], fun k inside => ?_⟩
    simp [show 32 * i + k < n by omega]
  by_cases last : i = n / 32
  · rw [if_neg before, if_pos last, Shift.right_eq (by omega), Option.bind_some, Shift.left_eq (by omega)]
    refine ⟨_, rfl, fun k inside => ?_⟩
    rw [BitVec.getMsbD_shiftLeft, BitVec.getMsbD_ushiftRight]
    by_cases kept : 32 * i + k < n
    · simp [kept, show k + (32 - n % 32) < 32 by omega]
    · simp [kept, show ¬ k + (32 - n % 32) < 32 by omega]
  · refine ⟨0, by rw [if_neg before, if_neg last], fun k inside => ?_⟩
    simp [show ¬ 32 * i + k < n by omega]

theorem bit_segment (a : Ipv6Addr) (i : Nat) {k : Nat} (inside : k < 32) :
    a.bit (32 * i + k) = (a.words.getD i 0).getMsbD k := by
  rw [bit, wordsBit, show (32 * i + k) / 32 = i by omega, show (32 * i + k) % 32 = k by omega]

theorem forall_position {P : Nat → Prop} (every : ∀ i < 4, ∀ k < 32, P (32 * i + k)) : ∀ k < 128, P k := by
  intro k inside
  rw [← Nat.div_add_mod k 32]
  exact every _ (by omega) _ (Nat.mod_lt _ (by decide))

/-- The four words have the bits of an address between them. -/
theorem forall_segment {P : Nat → Prop} (extreme : P 0) (high : P 1) (normal : P 2) (low : P 3) : ∀ i < 4, P i := by
  intro i member
  rcases show i = 0 ∨ i = 1 ∨ i = 2 ∨ i = 3 by omega with rfl | rfl | rfl | rfl
  · exact extreme
  · exact high
  · exact normal
  · exact low

theorem eq_of_bit {a b : Ipv6Addr} (same : ∀ k < 128, a.bit k = b.bit k) : a = b := by
  have words (i : Nat) (member : i < 4) : a.words.getD i 0 = b.words.getD i 0 := by
    apply BitVec.eq_of_getMsbD_eq
    intro k inside
    rw [← bit_segment a i inside, ← bit_segment b i inside]
    exact same _ (by omega)
  have extreme : a.extreme = b.extreme := words 0 (by decide)
  have high : a.high = b.high := words 1 (by decide)
  have normal : a.normal = b.normal := words 2 (by decide)
  have low : a.low = b.low := words 3 (by decide)
  cases a
  cases b
  simp_all

/-- The first `n` bits stay and the others are cleared. -/
def KeepsUpper (n : Nat) (a kept : Ipv6Addr) : Prop := ∀ k < 128, kept.bit k = (decide (k < n) && a.bit k)

theorem higherNbBits_eq (a : Ipv6Addr) {n : Nat} (fits : n ≤ 128) (inner : WithinWord n) :
    ∃ kept, a.higherNbBits n = some kept ∧ KeepsUpper n a kept := by
  by_cases nothing : n = 0
  · have clear : ∀ i < 4, unspecified.words.getD i 0 = 0 := forall_segment rfl rfl rfl rfl
    refine ⟨unspecified, by simp [higherNbBits, nothing], forall_position fun i member k inside => ?_⟩
    rw [bit_segment _ i inside, clear i member]
    simp [nothing]
  by_cases everything : n = 128
  · refine ⟨a, by simp [higherNbBits, everything], fun k inside => ?_⟩
    simp [everything, inside]
  have inside : n % 32 ≠ 0 := by
    unfold WithinWord at inner
    omega
  obtain ⟨extreme, first, extremeBits⟩ := getMsbD_higherSegment inside 0 a.extreme
  obtain ⟨high, second, highBits⟩ := getMsbD_higherSegment inside 1 a.high
  obtain ⟨normal, third, normalBits⟩ := getMsbD_higherSegment inside 2 a.normal
  obtain ⟨low, fourth, lowBits⟩ := getMsbD_higherSegment inside 3 a.low
  refine ⟨⟨extreme, high, normal, low⟩, ?_, forall_position ?_⟩
  · simp only [higherNbBits, fits, nothing, everything, if_true, if_false, first, second, third, fourth]
    rfl
  · have segments := forall_segment (P := fun i => ∀ k < 32,
      ((⟨extreme, high, normal, low⟩ : Ipv6Addr).words.getD i 0).getMsbD k =
        (decide (32 * i + k < n) && (a.words.getD i 0).getMsbD k)) extremeBits highBits normalBits lowBits
    intro i member k below
    rw [bit_segment _ i below, bit_segment _ i below]
    exact segments i member k below

/-- A prefix that ends at a word has nothing of the next word to keep, which is shifted by its width. -/
theorem higherNbBits_undefined (a : Ipv6Addr) {n : Nat} (fits : n ≤ 128) (boundary : ¬ WithinWord n) :
    a.higherNbBits n = none := by
  simp only [WithinWord, not_or, ne_eq, not_not] at boundary
  rcases show n = 32 ∨ n = 64 ∨ n = 96 by omega with rfl | rfl | rfl
  · rfl
  · rfl
  · rfl

theorem keepsUpper_eq_iff {n : Nat} {a b a' b' : Ipv6Addr} (fits : n ≤ 128) (first : KeepsUpper n a a')
    (second : KeepsUpper n b b') : n ≤ calcBitsMatch a b ↔ a' = b' := by
  rw [le_calcBitsMatch fits]
  constructor
  · intro agree
    apply eq_of_bit
    intro k inside
    rw [first k inside, second k inside]
    by_cases kept : k < n
    · rw [agree k kept]
    · simp [kept]
  · rintro rfl k kept
    have same := (first k (by omega)).symm.trans (second k (by omega))
    simpa [kept] using same

/-- Truncation and matching agree on the first `n` bits, and a truncated address has no more to lose. -/
structure Truncates (a b : Ipv6Addr) (n : Nat) : Prop where
  keeps : ∃ kept, a.higherNbBits n = some kept ∧ KeepsUpper n a kept
  agrees : 1 ≤ n → ∃ a' b', a.higherNbBits n = some a' ∧ b.higherNbBits n = some b' ∧
    (n ≤ calcBitsMatch a b ↔ a' = b')
  idempotent : ∃ t : IPv6Address, (⟨a, n⟩ : IPv6Address).truncateInPlace = some t ∧ t.truncateInPlace = some t

theorem truncates_iff (a b : Ipv6Addr) (n : Nat) (fits : n ≤ 128) :
    Truncates a b n ↔ n = 0 ∨ n = 128 ∨ n % 32 ≠ 0 := by
  change _ ↔ WithinWord n
  constructor
  · intro truncates
    by_contra boundary
    obtain ⟨kept, kept_eq, _⟩ := truncates.keeps
    rw [higherNbBits_undefined a fits boundary] at kept_eq
    cases kept_eq
  · intro inner
    obtain ⟨a', first, upper⟩ := higherNbBits_eq a fits inner
    obtain ⟨b', second, upper'⟩ := higherNbBits_eq b fits inner
    refine ⟨⟨a', first, upper⟩, fun _ => ⟨a', b', first, second, keepsUpper_eq_iff fits upper upper'⟩, ?_⟩
    by_cases shortened : 0 < n ∧ n < 128
    · obtain ⟨a'', again, upper''⟩ := higherNbBits_eq a' fits inner
      have same : a'' = a' := eq_of_bit fun k inside => by
        rw [upper'' k inside, upper k inside]
        simp
      rw [same] at again
      exact ⟨⟨a', n⟩, by simp [IPv6Address.truncateInPlace, shortened, first],
        by simp [IPv6Address.truncateInPlace, shortened, again]⟩
    · exact ⟨⟨a, n⟩, by simp [IPv6Address.truncateInPlace, shortened],
        by simp [IPv6Address.truncateInPlace, shortened]⟩

theorem truncates_site : (48 : Nat) ≤ 128 ∧ (Truncates ⟨0x20010DB8, 0x00010002, 0, 1⟩ ⟨0x20010DB8, 0x00010003, 0, 1⟩ 48 ↔
    48 = 0 ∨ 48 = 128 ∨ 48 % 32 ≠ 0) :=
  ⟨by decide, truncates_iff _ _ 48 (by decide)⟩

/-- The usual prefix length ends at a word. -/
theorem truncate_undefined : ¬ ∀ (a b : Ipv6Addr) (n : Nat), n ≤ 128 → Truncates a b n := by
  intro claimed
  obtain ⟨kept, kept_eq, _⟩ := (claimed ⟨0x20010DB8, 0, 0, 1⟩ ⟨0x20010DB8, 0, 0, 2⟩ 64 (by decide)).keeps
  have shifted : (⟨0x20010DB8, 0, 0, 1⟩ : Ipv6Addr).higherNbBits 64 = none := by decide
  rw [shifted] at kept_eq
  cases kept_eq

end Ipv6Addr

end IPv6Suite
