import Mathlib.Tactic.IntervalCases
import IPv6Suite.Lib.Bits

namespace IPv6Suite

open Lib

/-- `IPAddress`, coded in the form of four numbers -/
structure IPAddressBytes where
  addr : Vector (BitVec 8) 4
deriving DecidableEq

namespace IPAddressBytes

def ofBytes (i0 i1 i2 i3 : BitVec 8) : IPAddressBytes := ⟨#v[i0, i1, i2, i3]⟩

def ofInt (ip : BitVec 32) : IPAddressBytes :=
  ⟨#v[(ip >>> 24 &&& 0xFF).setWidth 8, (ip >>> 16 &&& 0xFF).setWidth 8, (ip >>> 8 &&& 0xFF).setWidth 8,
    (ip &&& 0xFF).setWidth 8]⟩

def isNull (a : IPAddressBytes) : Bool := a.addr[0] = 0 ∧ a.addr[1] = 0 ∧ a.addr[2] = 0 ∧ a.addr[3] = 0

def isMulticast (a : IPAddressBytes) : Bool := a.addr[0] &&& 0xF0 = 0xE0

def equals (a toCmp : IPAddressBytes) : Bool :=
  a.addr[0] = toCmp.addr[0] ∧ a.addr[1] = toCmp.addr[1] ∧ a.addr[2] = toCmp.addr[2] ∧ a.addr[3] = toCmp.addr[3]

def doAnd (a ip : IPAddressBytes) : IPAddressBytes :=
  ⟨#v[a.addr[0] &&& ip.addr[0], a.addr[1] &&& ip.addr[1], a.addr[2] &&& ip.addr[2], a.addr[3] &&& ip.addr[3]]⟩

def getInt (a : IPAddressBytes) : BitVec 32 :=
  a.addr[0].setWidth 32 <<< 24 + a.addr[1].setWidth 32 <<< 16 + a.addr[2].setWidth 32 <<< 8 + a.addr[3].setWidth 32

def prefixMatches (a to_cmp : IPAddressBytes) (numbits : Int) : Bool :=
  if numbits < 1 then true
  else if 31 < numbits then a.getInt = to_cmp.getInt
  else
    let mask : BitVec 32 := ~~~ (0xFFFFFFFF#32 >>> numbits.toNat)
    a.getInt &&& mask = to_cmp.getInt &&& mask

def numMatchingPrefixBits (a to_cmp : IPAddressBytes) : Nat :=
  let res := a.getInt ^^^ to_cmp.getInt
  match (List.range 32).reverse.find? fun i => res &&& 1#32 <<< i ≠ 0 with
  | some i => 31 - i
  | none => 32

def netmaskLength (a : IPAddressBytes) : Nat :=
  match (List.range 31).find? fun i => a.getInt &&& 1#32 <<< i ≠ 0 with
  | some i => 32 - i
  | none => 0

def keepFirstBits (a : IPAddressBytes) (n : Nat) : IPAddressBytes :=
  if n > 31 then a
  else
    let len_bytes := n / 8
    let mask : BitVec 32 := ~~~ (0xFF#32 >>> (n - len_bytes * 8))
    ⟨Vector.ofFn fun i =>
      if i.val < len_bytes then a.addr[i]
      else if i.val = len_bytes then (a.addr[i].setWidth 32 &&& mask).setWidth 8
      else 0⟩

def maskedAddrAreEqual (addr1 addr2 netmask : IPAddressBytes) : Bool :=
  (addr1.doAnd netmask).equals (addr2.doAnd netmask)

def str (a : IPAddressBytes) : List Char :=
  Nat.toDigits 10 a.addr[0].toNat ++ '.' :: (Nat.toDigits 10 a.addr[1].toNat ++ '.' ::
    (Nat.toDigits 10 a.addr[2].toNat ++ '.' :: Nat.toDigits 10 a.addr[3].toNat))

variable {a b m : IPAddressBytes} {n : Nat}

theorem toNat_append_byte {w : Nat} (v : BitVec w) (byte : BitVec 8) :
    (v ++ byte).toNat = v.toNat * 2 ^ 8 + byte.toNat := by
  rw [BitVec.toNat_append, ← Nat.shiftLeft_add_eq_or_of_lt byte.isLt, Nat.shiftLeft_eq]

theorem getInt_eq_append (a : IPAddressBytes) : a.getInt = a.addr[0] ++ a.addr[1] ++ a.addr[2] ++ a.addr[3] := by
  have h0 := a.addr[0].isLt
  have h1 := a.addr[1].isLt
  have h2 := a.addr[2].isLt
  have h3 := a.addr[3].isLt
  apply BitVec.eq_of_toNat_eq
  rw [toNat_append_byte, toNat_append_byte, toNat_append_byte]
  simp only [getInt, BitVec.toNat_add, BitVec.toNat_shiftLeft, BitVec.toNat_setWidth, Nat.shiftLeft_eq]
  omega

/-- The bits of the four bytes stand in the word in their order. -/
theorem getMsbD_getInt (a : IPAddressBytes) {i : Nat} (inside : i < 32) :
    a.getInt.getMsbD i = (a.addr[i / 8]).getMsbD (i % 8) := by
  rw [getInt_eq_append, BitVec.getMsbD_append, BitVec.getMsbD_append, BitVec.getMsbD_append]
  by_cases first : i < 8
  · have byte : i / 8 = 0 := by omega
    simp [byte, show ¬ 24 ≤ i by omega, show ¬ 16 ≤ i by omega, show ¬ 8 ≤ i by omega, show i % 8 = i by omega]
  by_cases second : i < 16
  · have byte : i / 8 = 1 := by omega
    simp [byte, show ¬ 24 ≤ i by omega, show ¬ 16 ≤ i by omega, show 8 ≤ i by omega, show i % 8 = i - 8 by omega]
  by_cases third : i < 24
  · have byte : i / 8 = 2 := by omega
    simp [byte, show ¬ 24 ≤ i by omega, show 16 ≤ i by omega, show i % 8 = i - 16 by omega]
  · have byte : i / 8 = 3 := by omega
    simp [byte, show 24 ≤ i by omega, show i % 8 = i - 24 by omega]

theorem getMsbD_addr (a : IPAddressBytes) {k j : Nat} (byte : k < 4) (inside : j < 8) :
    (a.addr[k]).getMsbD j = a.getInt.getMsbD (8 * k + j) := by
  have room : 8 * k + j < 32 := by omega
  have place : (8 * k + j) / 8 = k := by omega
  have offset : (8 * k + j) % 8 = j := by omega
  simp only [a.getMsbD_getInt room, place, offset]

theorem eq_of_bytes (same : ∀ k (byte : k < 4), a.addr[k] = b.addr[k]) : a = b := by
  obtain ⟨bytes⟩ := a
  obtain ⟨bytes'⟩ := b
  congr
  ext1 k byte
  exact same k byte

theorem getInt_inj : a.getInt = b.getInt ↔ a = b := by
  constructor
  · intro same
    apply eq_of_bytes
    intro k byte
    apply BitVec.eq_of_getMsbD_eq
    intro j inside
    rw [getMsbD_addr a byte inside, getMsbD_addr b byte inside, same]
  · exact congrArg getInt

theorem equals_iff : a.equals b = true ↔ a = b := by
  unfold equals
  rw [decide_eq_true_eq]
  constructor
  · rintro ⟨h0, h1, h2, h3⟩
    apply eq_of_bytes
    intro k byte
    interval_cases k
    · exact h0
    · exact h1
    · exact h2
    · exact h3
  · rintro rfl
    simp

theorem getInt_doAnd (a ip : IPAddressBytes) : (a.doAnd ip).getInt = a.getInt &&& ip.getInt := by
  rw [getInt_eq_append, getInt_eq_append a, getInt_eq_append ip]
  symm
  exact BitVec.and_append.trans (congrArg (· ++ _) (BitVec.and_append.trans (congrArg (· ++ _) BitVec.and_append)))

theorem getInt_ofInt (ip : BitVec 32) : (ofInt ip).getInt = ip := by
  apply BitVec.eq_of_toNat_eq
  have less := ip.isLt
  rw [getInt_eq_append, toNat_append_byte, toNat_append_byte, toNat_append_byte]
  have low (v : Nat) : v &&& BitVec.toNat (255 : BitVec 32) = v % 256 := Nat.and_two_pow_sub_one_eq_mod v 8
  simp only [ofInt, Vector.getElem_mk, List.getElem_toArray, List.getElem_cons_zero, List.getElem_cons_succ,
    BitVec.toNat_setWidth, BitVec.toNat_and, BitVec.toNat_ushiftRight, Nat.shiftRight_eq_div_pow,
    Nat.reducePow, low]
  omega

theorem maskedAddrAreEqual_iff : maskedAddrAreEqual a b m = true ↔ a.getInt &&& m.getInt = b.getInt &&& m.getInt := by
  rw [maskedAddrAreEqual, equals_iff, ← getInt_inj, getInt_doAnd, getInt_doAnd]

def IsNetmask (m : IPAddressBytes) (n : Nat) : Prop := LeadingOnes m.getInt n

theorem isNetmask_ofInt (n : Nat) : IsNetmask (ofInt (~~~ (0xFFFFFFFF#32 >>> n))) n := by
  unfold IsNetmask
  rw [getInt_ofInt]
  exact leadingOnes_not_shift n

theorem maskedAddrAreEqual_agree (netmask : IsNetmask m n) :
    maskedAddrAreEqual a b m = true ↔ AgreeFirst n a.getInt b.getInt := by
  rw [maskedAddrAreEqual_iff]
  exact netmask.and_eq_and_iff

theorem prefixMatches_agree (short : n ≤ 32) : a.prefixMatches b n = true ↔ AgreeFirst n a.getInt b.getInt := by
  unfold prefixMatches
  by_cases none : n = 0
  · subst none
    simp [AgreeFirst]
  rw [if_neg (by omega)]
  by_cases whole : n = 32
  · subst whole
    simp [agreeFirst_width]
  rw [if_neg (by omega), Int.toNat_natCast, decide_eq_true_eq]
  exact (leadingOnes_not_shift n).and_eq_and_iff

theorem and_shifted_one {w : BitVec 32} {i : Nat} (inside : i < 32) :
    w &&& 1#32 <<< i ≠ 0 ↔ w.getMsbD (31 - i) = true := by
  have single : 1#32 <<< i ≠ 0#32 := by
    intro zero
    have bit := congrArg (fun v => v.getLsbD i) zero
    simp [inside] at bit
  have index : w.getMsbD (31 - i) = w.getLsbD i := by
    rw [BitVec.getMsbD_eq_getLsbD, show 32 - 1 - (31 - i) = i by omega]
    simp
    omega
  have place := BitVec.and_twoPow w i
  rw [BitVec.twoPow] at place
  rw [index, place]
  split
  · simp_all
  · simp_all

theorem numMatchingPrefixBits_agree (short : n ≤ 32) :
    n ≤ a.numMatchingPrefixBits b ↔ AgreeFirst n a.getInt b.getInt := by
  have differ (i : Nat) (inside : i < 32) : (a.getInt ^^^ b.getInt) &&& 1#32 <<< i ≠ 0 ↔
      a.getInt.getMsbD (31 - i) ≠ b.getInt.getMsbD (31 - i) := by
    rw [and_shifted_one inside, BitVec.getMsbD_xor]
    simp
  unfold numMatchingPrefixBits
  dsimp only
  split
  · rename_i i found
    obtain ⟨bit, j, inside, rfl, before⟩ := List.find?_eq_some_iff_getElem.mp found
    rw [List.length_reverse, List.length_range] at inside
    simp only [List.getElem_reverse, List.length_range, List.getElem_range, decide_eq_true_eq] at bit before ⊢
    rw [differ _ (by omega), show 31 - (32 - 1 - j) = j by omega] at bit
    constructor
    · intro length k first
      have same := before k (by omega)
      rw [Bool.not_eq_true', decide_eq_false_iff_not, differ _ (by omega), not_not, show 31 - (32 - 1 - k) = k by omega] at same
      exact same
    · intro agree
      have beyond : ¬ j < n := fun first => bit (agree j first)
      omega
  · rename_i none
    rw [List.find?_eq_none] at none
    refine ⟨fun _ k first => ?_, fun _ => short⟩
    have same := none (31 - k) (by simp; omega)
    rw [decide_eq_true_eq, differ _ (by omega), not_not, show 31 - (31 - k) = k by omega] at same
    exact same

/-- The loop ends before the first bit, so that the mask of one leading one has the length of none. -/
theorem netmaskLength_netmask (short : n ≤ 32) (netmask : IsNetmask m n) :
    m.netmaskLength = if n = 1 then 0 else n := by
  have bit (i : Nat) (inside : i < 32) : m.getInt &&& 1#32 <<< i ≠ 0 ↔ 31 - i < n := by
    rw [and_shifted_one inside, netmask _ (by omega), decide_eq_true_eq]
  unfold netmaskLength
  split
  · rename_i i found
    obtain ⟨set, inside, before⟩ := List.find?_range_eq_some.mp found
    rw [List.mem_range] at inside
    rw [decide_eq_true_eq, bit i (by omega)] at set
    have least : i = 32 - n := by
      by_contra other
      have clear := before (32 - n) (by omega)
      rw [Bool.not_eq_true', decide_eq_false_iff_not, bit _ (by omega)] at clear
      omega
    rw [if_neg (by omega)]
    omega
  · rename_i none
    have clear := List.find?_range_eq_none.mp none
    by_cases ones : n < 2
    · split <;> omega
    · have last := clear (32 - n) (by omega)
      rw [Bool.not_eq_true', decide_eq_false_iff_not, bit _ (by omega)] at last
      omega

theorem getMsbD_cutByte (byte : BitVec 8) (s : Nat) {j : Nat} (inside : j < 8) :
    ((byte.setWidth 32 &&& ~~~ (0xFF#32 >>> s)).setWidth 8).getMsbD j = (byte.getMsbD j && decide (j < s)) := by
  have ones (k : Nat) : (0xFF#32).getLsbD k = decide (k < 8) := by
    rw [BitVec.getLsbD_ofNat, show 0xFF = 2 ^ 8 - 1 by decide, Nat.testBit_two_pow_sub_one]
    by_cases low : k < 8
    · simp [low, show k < 32 by omega]
    · simp [low]
  have place : 8 - 1 - j < 8 := by omega
  have room : 8 - 1 - j < 32 := by omega
  have order : s + (8 - 1 - j) < 8 ↔ ¬ j < s := by omega
  simp only [BitVec.getMsbD_eq_getLsbD, BitVec.getLsbD_setWidth, BitVec.getLsbD_and, BitVec.getLsbD_not,
    BitVec.getLsbD_ushiftRight, inside, ones, place, room, order, decide_true, Bool.true_and, decide_not, Bool.not_not]

theorem getInt_keepFirstBits (short : n ≤ 32) (netmask : IsNetmask m n) :
    (a.keepFirstBits n).getInt = a.getInt &&& m.getInt := by
  apply BitVec.eq_of_getMsbD_eq
  intro i inside
  rw [BitVec.getMsbD_and, netmask i inside, getMsbD_getInt a inside, getMsbD_getInt _ inside]
  unfold keepFirstBits
  split
  · have first : i < n := by omega
    simp [first]
  · have offset : i % 8 < 8 := Nat.mod_lt _ (by decide)
    simp only [Vector.getElem_ofFn]
    split_ifs with before at'
    · simp [show i < n by omega]
    · have rest : i % 8 < n - n / 8 * 8 ↔ i < n := by omega
      simp only [getMsbD_cutByte _ _ offset, rest]
      rfl
    · simp [show ¬ i < n by omega]

theorem keepFirstBits_agree (short : n ≤ 32) :
    a.keepFirstBits n = b.keepFirstBits n ↔ AgreeFirst n a.getInt b.getInt := by
  have netmask := isNetmask_ofInt n
  rw [← getInt_inj, getInt_keepFirstBits short netmask, getInt_keepFirstBits short netmask]
  exact netmask.and_eq_and_iff

structure PrefixFunctionsAgree (a b m : IPAddressBytes) (n : Nat) : Prop where
  numMatching : a.prefixMatches b n = true ↔ n ≤ a.numMatchingPrefixBits b
  masked : a.prefixMatches b n = true ↔ maskedAddrAreEqual a b m = true
  kept : a.prefixMatches b n = true ↔ a.keepFirstBits n = b.keepFirstBits n
  length : m.netmaskLength = n

/-- Of all the lengths only 1 is not recognized. -/
theorem prefixFunctionsAgree_iff (short : n ≤ 32) (netmask : IsNetmask m n) :
    PrefixFunctionsAgree a b m n ↔ n ≠ 1 := by
  have length := netmaskLength_netmask short netmask
  constructor
  · rintro agree rfl
    have one := agree.length
    rw [length] at one
    simp at one
  · intro other
    rw [if_neg other] at length
    have matches' := prefixMatches_agree (a := a) (b := b) short
    refine ⟨?_, ?_, ?_, length⟩
    · rw [matches', numMatchingPrefixBits_agree short]
    · rw [matches', maskedAddrAreEqual_agree netmask]
    · rw [matches', keepFirstBits_agree short]

theorem prefixFunctionsAgree_iff_example :
    PrefixFunctionsAgree ⟨#v[130, 206, 72, 237]⟩ ⟨#v[130, 206, 72, 0]⟩ (ofInt (~~~ (0xFFFFFFFF#32 >>> 24))) 24 ↔
      24 ≠ 1 :=
  prefixFunctionsAgree_iff (by decide) (isNetmask_ofInt 24)

theorem netmaskLength_one :
    IsNetmask ⟨#v[128, 0, 0, 0]⟩ 1 ∧ (⟨#v[128, 0, 0, 0]⟩ : IPAddressBytes).netmaskLength = 0 ∧
      ¬ PrefixFunctionsAgree ⟨#v[1, 2, 3, 4]⟩ ⟨#v[1, 2, 3, 4]⟩ ⟨#v[128, 0, 0, 0]⟩ 1 := by
  refine ⟨isNetmask_ofInt 1, by decide, fun agree => ?_⟩
  have length : (⟨#v[128, 0, 0, 0]⟩ : IPAddressBytes).netmaskLength = 0 := by decide
  rw [agree.length] at length
  exact absurd length (by decide)

end IPAddressBytes

end IPv6Suite
