import IPv6Suite.Lib.StdMap
import Mathlib.Algebra.Group.Nat.Defs

namespace IPv6Suite

/-- Four 32-bit words, most significant first. -/
structure Ipv6Addr where
  extreme : BitVec 32
  high : BitVec 32
  normal : BitVec 32
  low : BitVec 32
deriving DecidableEq

namespace Ipv6Addr

def unspecified : Ipv6Addr := ⟨0, 0, 0, 0⟩

def loopback : Ipv6Addr := ⟨0, 0, 0, 1⟩
def multicastPrefix : Ipv6Addr := ⟨0xFF000000, 0, 0, 0⟩
def multNodePrefix : Ipv6Addr := ⟨0xFF010000, 0, 0, 0⟩
def multLinkPrefix : Ipv6Addr := ⟨0xFF020000, 0, 0, 0⟩
def multSitePrefix : Ipv6Addr := ⟨0xFF050000, 0, 0, 0⟩
def multOrgnPrefix : Ipv6Addr := ⟨0xFF080000, 0, 0, 0⟩
def multGlobPrefix : Ipv6Addr := ⟨0xFF0E0000, 0, 0, 0⟩
def linkLocalPrefix : Ipv6Addr := ⟨0xFE800000, 0, 0, 0⟩
def siteLocalPrefix : Ipv6Addr := ⟨0xFEC00000, 0, 0, 0⟩
def globalPrefix : Ipv6Addr := ⟨0x20000000, 0, 0, 0⟩

/-- The reversed order of the source's `operator<`: a larger address is less. -/
def lt (lhs rhs : Ipv6Addr) : Prop :=
  if lhs.extreme ≠ rhs.extreme then ¬ lhs.extreme < rhs.extreme
  else if lhs.high ≠ rhs.high then ¬ lhs.high < rhs.high
  else if lhs.normal ≠ rhs.normal then ¬ lhs.normal < rhs.normal
  else if lhs.low ≠ rhs.low then ¬ lhs.low < rhs.low
  else False

instance : DecidableRel lt := fun lhs rhs => by unfold lt; infer_instance

/-- `operator&` -/
def and (lhs rhs : Ipv6Addr) : Ipv6Addr :=
  ⟨lhs.extreme &&& rhs.extreme, lhs.high &&& rhs.high, lhs.normal &&& rhs.normal,
    lhs.low &&& rhs.low⟩

def isMulticast (a : Ipv6Addr) : Bool :=
  a.extreme &&& multicastPrefix.extreme == multicastPrefix.extreme

inductive Scope where
  | none
  | node
  | link
  | site
  | organization
  | global
deriving DecidableEq

def scope (a : Ipv6Addr) : Scope :=
  if ¬ a.isMulticast then
    if a.and siteLocalPrefix = siteLocalPrefix then .site
    else if a.and linkLocalPrefix = linkLocalPrefix then .link
    else if a.and globalPrefix = globalPrefix then .global
    else if a = loopback then .node
    else .none
  else
    if a.extreme &&& multLinkPrefix.extreme = multLinkPrefix.extreme then .link
    else if a.extreme &&& multSitePrefix.extreme = multSitePrefix.extreme then .site
    else if a.extreme &&& multNodePrefix.extreme = multNodePrefix.extreme then .node
    else if a.extreme &&& multOrgnPrefix.extreme = multOrgnPrefix.extreme then .organization
    else if a.extreme &&& multGlobPrefix.extreme = multGlobPrefix.extreme then .global
    else .none

def words (a : Ipv6Addr) : List (BitVec 32) := [a.extreme, a.high, a.normal, a.low]

/-- Scan one exclusive-or word from bit `j - 1` down for a set bit. -/
def firstSetBit (res : BitVec 32) : Nat → Option Nat
  | 0 => none
  | j + 1 => if res.getLsbD j then some (31 - j) else firstSetBit res j

/-- The loop of `calcBitsMatch` from word `i` on. -/
def bitsMatchFrom (i : Nat) : List (BitVec 32) → List (BitVec 32) → Nat
  | w₁ :: rest₁, w₂ :: rest₂ =>
      match firstSetBit (w₁ ^^^ w₂) 32 with
      | some k => k + 32 * i
      | none => bitsMatchFrom (i + 1) rest₁ rest₂
  | _, _ => 32 * i

def calcBitsMatch (addr₁ addr₂ : Ipv6Addr) : Nat := bitsMatchFrom 0 addr₁.words addr₂.words

/-- The address as a 128-bit number. -/
def value (a : Ipv6Addr) : Nat :=
  ((a.extreme.toNat * 2 ^ 32 + a.high.toNat) * 2 ^ 32 + a.normal.toNat) * 2 ^ 32 + a.low.toNat

/-- Bit `k` of a list of words, counted from the most significant. -/
def wordsBit (ws : List (BitVec 32)) (k : Nat) : Bool := (ws.getD (k / 32) 0).getMsbD (k % 32)

def bit (a : Ipv6Addr) (k : Nat) : Bool := wordsBit a.words k

theorem lt_iff (lhs rhs : Ipv6Addr) : lhs.lt rhs ↔ rhs.value < lhs.value := by
  have bounds := And.intro (And.intro lhs.high.isLt rhs.high.isLt)
    (And.intro (And.intro lhs.normal.isLt rhs.normal.isLt) (And.intro lhs.low.isLt rhs.low.isLt))
  unfold lt value
  simp only [ne_eq, BitVec.lt_def, ← BitVec.toNat_inj]
  split_ifs
  · rw [false_iff]
    omega
  · omega
  · omega
  · omega
  · omega

theorem value_inj {a b : Ipv6Addr} : a.value = b.value ↔ a = b := by
  refine ⟨fun same => ?_, congrArg value⟩
  have bounds := And.intro (And.intro a.high.isLt b.high.isLt)
    (And.intro (And.intro a.normal.isLt b.normal.isLt) (And.intro a.low.isLt b.low.isLt))
  obtain ⟨e₁, h₁, n₁, l₁⟩ := a
  obtain ⟨e₂, h₂, n₂, l₂⟩ := b
  simp only [value] at same bounds
  simp only [mk.injEq, ← BitVec.toNat_inj]
  omega

instance : IsStrictTotalOrder Ipv6Addr lt where
  trichotomous a b below above := by
    rw [lt_iff] at below above
    exact value_inj.mp (by omega)
  irrefl a := by
    rw [lt_iff]
    omega
  trans a b c first second := by
    rw [lt_iff] at *
    omega

theorem firstSetBit_eq_none {res : BitVec 32} {n : Nat} (clear : firstSetBit res n = none) :
    ∀ j < n, res.getLsbD j = false := by
  induction n with
  | zero => exact fun j below => absurd below (Nat.not_lt_zero j)
  | succ n ih =>
      unfold firstSetBit at clear
      split at clear
      · cases clear
      · intro j below
        rcases Nat.lt_succ_iff_lt_or_eq.mp below with lower | rfl
        · exact ih clear j lower
        · simp_all

theorem firstSetBit_eq_some {res : BitVec 32} {n k : Nat} (found : firstSetBit res n = some k) :
    ∃ j < n, k = 31 - j ∧ res.getLsbD j = true ∧ ∀ j', j < j' → j' < n → res.getLsbD j' = false := by
  induction n with
  | zero => cases found
  | succ n ih =>
      unfold firstSetBit at found
      split at found
      · cases found
        exact ⟨n, by omega, rfl, by assumption, fun j' above below => absurd above (by omega)⟩
      · obtain ⟨j, below, position, set, above⟩ := ih found
        refine ⟨j, by omega, position, set, fun j' later under => ?_⟩
        rcases Nat.lt_succ_iff_lt_or_eq.mp under with lower | rfl
        · exact above j' later lower
        · simp_all

/-- `none`: the words agree. `some k`: bit `k` is the first one they differ in. -/
theorem firstSetBit_xor_none {w₁ w₂ : BitVec 32} (clear : firstSetBit (w₁ ^^^ w₂) 32 = none) : w₁ = w₂ := by
  apply BitVec.eq_of_getLsbD_eq
  intro j below
  have agree := firstSetBit_eq_none clear j below
  simpa using agree

theorem firstSetBit_xor_some {w₁ w₂ : BitVec 32} {k : Nat} (found : firstSetBit (w₁ ^^^ w₂) 32 = some k) :
    k < 32 ∧ w₁.getMsbD k ≠ w₂.getMsbD k ∧ ∀ k' < k, w₁.getMsbD k' = w₂.getMsbD k' := by
  obtain ⟨j, below, position, set, above⟩ := firstSetBit_eq_some found
  have index : 32 - 1 - k = j := by omega
  refine ⟨by omega, ?_, fun k' earlier => ?_⟩
  · have inside : k < 32 := by omega
    rw [BitVec.getLsbD_xor] at set
    simp only [BitVec.getMsbD_eq_getLsbD, index, inside, decide_true, Bool.true_and]
    intro equal
    simp [equal] at set
  · have agree := above (31 - k') (by omega) (by omega)
    simp only [BitVec.getMsbD_eq_getLsbD]
    simp_all

theorem wordsBit_head {w : BitVec 32} {ws : List (BitVec 32)} {k : Nat} (inside : k < 32) :
    wordsBit (w :: ws) k = w.getMsbD k := by
  simp [wordsBit, Nat.div_eq_of_lt inside, Nat.mod_eq_of_lt inside]

theorem wordsBit_tail (w : BitVec 32) (ws : List (BitVec 32)) (k : Nat) :
    wordsBit (w :: ws) (32 + k) = wordsBit ws k := by
  simp [wordsBit, Nat.add_div_left, Nat.add_mod_left]

theorem le_bitsMatchFrom (i n : Nat) (ws₁ ws₂ : List (BitVec 32)) (aligned : ws₁.length = ws₂.length) :
    32 * i + n ≤ bitsMatchFrom i ws₁ ws₂ ↔ n ≤ 32 * ws₁.length ∧ ∀ k < n, wordsBit ws₁ k = wordsBit ws₂ k := by
  induction ws₁ generalizing i n ws₂ with
  | nil =>
      simp only [bitsMatchFrom, List.length_nil]
      cases ws₂ with
      | nil =>
          constructor
          · exact fun bound => ⟨by omega, by omega⟩
          · exact fun bound => by omega
      | cons w₂ rest₂ => cases aligned
  | cons w₁ rest₁ ih =>
      cases ws₂ with
      | nil => cases aligned
      | cons w₂ rest₂ =>
          simp only [List.length_cons, Nat.add_right_cancel_iff] at aligned
          simp only [bitsMatchFrom, List.length_cons]
          cases found : firstSetBit (w₁ ^^^ w₂) 32 with
          | some k =>
              dsimp only
              obtain ⟨inside, differ, agree⟩ := firstSetBit_xor_some found
              constructor
              · intro bound
                refine ⟨by omega, fun k' below => ?_⟩
                rw [wordsBit_head (by omega), wordsBit_head (by omega)]
                exact agree k' (by omega)
              · intro same
                by_contra outside
                have equal := same.2 k (by omega)
                rw [wordsBit_head inside, wordsBit_head inside] at equal
                exact differ equal
          | none =>
              dsimp only
              have equal := firstSetBit_xor_none found
              subst equal
              have start := (ih (i + 1) 0 rest₂ aligned).mpr ⟨by omega, by omega⟩
              have next := ih (i + 1) (n - 32) rest₂ aligned
              constructor
              · intro bound
                by_cases short : n ≤ 32
                · refine ⟨by omega, fun k below => ?_⟩
                  rw [wordsBit_head (by omega), wordsBit_head (by omega)]
                · obtain ⟨length, agree⟩ := next.mp (by omega)
                  refine ⟨by omega, fun k below => ?_⟩
                  by_cases inside : k < 32
                  · rw [wordsBit_head inside, wordsBit_head inside]
                  · have tail := agree (k - 32) (by omega)
                    rwa [← wordsBit_tail w₁, ← wordsBit_tail w₁ rest₂,
                      Nat.add_sub_cancel' (by omega)] at tail
              · intro same
                by_cases short : n ≤ 32
                · omega
                · have rest := next.mpr ⟨by omega, fun k below => ?_⟩
                  · omega
                  · have tail := same.2 (32 + k) (by omega)
                    rwa [wordsBit_tail, wordsBit_tail] at tail

theorem calcBitsMatch_le (a b : Ipv6Addr) : calcBitsMatch a b ≤ 128 := by
  have spec := le_bitsMatchFrom 0 (calcBitsMatch a b) a.words b.words rfl
  simp only [Nat.mul_zero, Nat.zero_add] at spec
  exact (spec.mp (Nat.le_refl _)).1

theorem le_calcBitsMatch {a b : Ipv6Addr} {n : Nat} (fits : n ≤ 128) :
    n ≤ calcBitsMatch a b ↔ ∀ k < n, a.bit k = b.bit k := by
  have spec := le_bitsMatchFrom 0 n a.words b.words rfl
  simp only [Nat.mul_zero, Nat.zero_add] at spec
  rw [calcBitsMatch, spec]
  exact ⟨fun h => h.2, fun h => ⟨fits, h⟩⟩

end Ipv6Addr

/-- An address with a prefix length, as a key: `operator<` and `isNetwork` read
only these two members. -/
structure IPv6Address where
  addr : Ipv6Addr
  prefixLength : Nat
deriving DecidableEq

namespace IPv6Address

def ofAddr (addr : Ipv6Addr) (prefixLen : Nat) : IPv6Address :=
  if prefixLen = 0 ∧ addr ≠ .unspecified then ⟨addr, 128⟩ else ⟨addr, prefixLen⟩

/-- `IPv6Address(addr)`: the key of a host. -/
def host (addr : Ipv6Addr) : IPv6Address := ofAddr addr 128

/-- Longest prefix first, then the order of the addresses. -/
def lt (lhs rhs : IPv6Address) : Prop :=
  if lhs.prefixLength ≠ rhs.prefixLength then ¬ lhs.prefixLength < rhs.prefixLength
  else lhs.addr.lt rhs.addr

instance : DecidableRel lt := fun lhs rhs => by unfold lt; infer_instance

def isNetwork (a : IPv6Address) (toCmp : Ipv6Addr) : Bool :=
  a.addr.calcBitsMatch toCmp ≥ if a.prefixLength = 0 then 128 else a.prefixLength

theorem lt_iff (lhs rhs : IPv6Address) : lhs.lt rhs ↔ rhs.prefixLength < lhs.prefixLength ∨
      rhs.prefixLength = lhs.prefixLength ∧ lhs.addr.lt rhs.addr := by
  unfold lt
  split_ifs with apart
  · omega
  · rw [ne_eq, not_not] at apart
    simp [apart]

instance : IsStrictTotalOrder IPv6Address lt where
  trichotomous a b below above := by
    simp only [lt_iff, Ipv6Addr.lt_iff] at below above
    have sameAddr := Ipv6Addr.value_inj (a := a.addr) (b := b.addr).mp (by omega)
    have sameLength : a.prefixLength = b.prefixLength := by omega
    cases a
    cases b
    simp_all
  irrefl a := by
    simp only [lt_iff, Ipv6Addr.lt_iff]
    omega
  trans a b c first second := by
    simp only [lt_iff, Ipv6Addr.lt_iff] at *
    omega

/-- The number of leading bits `isNetwork` compares: length 0 stands for all. -/
def matchLength (a : IPv6Address) : Nat := if a.prefixLength = 0 then 128 else a.prefixLength

/-- The prefix covers the address: the leading bits of both agree. -/
def Covers (a : IPv6Address) (toCmp : Ipv6Addr) : Prop :=
  a.matchLength ≤ 128 ∧ ∀ k < a.matchLength, a.addr.bit k = toCmp.bit k

theorem isNetwork_iff (a : IPv6Address) (toCmp : Ipv6Addr) : a.isNetwork toCmp = true ↔ a.Covers toCmp := by
  change decide (a.matchLength ≤ a.addr.calcBitsMatch toCmp) = true ↔ _
  rw [decide_eq_true_eq, Covers]
  by_cases fits : a.matchLength ≤ 128
  · rw [Ipv6Addr.le_calcBitsMatch fits]
    simp [fits]
  · have bound := Ipv6Addr.calcBitsMatch_le a.addr toCmp
    exact ⟨fun reaches => absurd (Nat.le_trans reaches bound) fits, fun covers => absurd covers.1 fits⟩

theorem host_eq (addr : Ipv6Addr) : host addr = ⟨addr, 128⟩ := rfl

theorem host_inj {a b : Ipv6Addr} : host a = host b ↔ a = b := by
  simp [host_eq]

end IPv6Address

/-! ### Scopes -/

namespace Ipv6Addr

def Scope.value : Scope → Nat
  | .none => 0
  | .node => 1
  | .link => 2
  | .site => 5
  | .organization => 8
  | .global => 14

/-- The scope field of a multicast address, behind the flags -/
def scopeNibble (a : Ipv6Addr) : BitVec 4 := a.extreme.extractLsb' 16 4

/-- The first word of the prefix of the multicast addresses with a scope nibble -/
def multPrefix (nibble : BitVec 4) : BitVec 32 := multicastPrefix.extreme ||| nibble.setWidth 32 <<< 16

theorem and_shifted_nibble (w : BitVec 32) (nibble : BitVec 4) :
    w &&& nibble.setWidth 32 <<< 16 = (w.extractLsb' 16 4 &&& nibble).setWidth 32 <<< 16 := by
  apply BitVec.eq_of_getLsbD_eq
  intro i inside
  simp only [BitVec.getLsbD_and, BitVec.getLsbD_shiftLeft, BitVec.getLsbD_setWidth, BitVec.getLsbD_extractLsb']
  by_cases low : i < 16
  · simp [low]
  · by_cases high : i - 16 < 4
    · have place : 16 + (i - 16) = i := by omega
      have room : i - 16 < 32 := by omega
      simp [inside, low, high, place, room]
    · have outside : nibble.getLsbD (i - 16) = false := BitVec.getLsbD_of_ge _ _ (by omega)
      simp [outside]

theorem multPrefix_inj {nibble nibble' : BitVec 4} (same : multPrefix nibble = multPrefix nibble') :
    nibble = nibble' := by
  apply BitVec.eq_of_getLsbD_eq
  intro i inside
  have bit := congrArg (fun w => w.getLsbD (16 + i)) same
  have clear : multicastPrefix.extreme.getLsbD (16 + i) = false := by
    have each : ∀ j < 4, multicastPrefix.extreme.getLsbD (16 + j) = false := by decide
    exact each i inside
  have room : 16 + i < 32 := by omega
  have place : ¬ 16 + i < 16 := by omega
  have small : i < 32 := by omega
  simpa only [multPrefix, BitVec.getLsbD_or, BitVec.getLsbD_shiftLeft, BitVec.getLsbD_setWidth, clear, room, place,
    small, decide_true, decide_false, Bool.not_false, Bool.true_and, Bool.false_or, Nat.add_sub_cancel_left] using bit

theorem and_multPrefix {a : Ipv6Addr} (multicast : a.isMulticast = true) (nibble : BitVec 4) :
    a.extreme &&& multPrefix nibble = multPrefix nibble ↔ a.scopeNibble &&& nibble = nibble := by
  have top : a.extreme &&& multicastPrefix.extreme = multicastPrefix.extreme := by
    simpa [isMulticast] using multicast
  have split : a.extreme &&& multPrefix nibble = multPrefix (a.scopeNibble &&& nibble) := by
    unfold multPrefix scopeNibble
    rw [BitVec.and_or_distrib_left, top, and_shifted_nibble]
  rw [split]
  exact ⟨multPrefix_inj, congrArg multPrefix⟩

/-- What the tests of `ipv6_addr_scope` make of a scope nibble, in their order -/
def multScope (nibble : BitVec 4) : Scope :=
  if nibble &&& 2 = 2 then .link
  else if nibble &&& 5 = 5 then .site
  else if nibble &&& 1 = 1 then .node
  else if nibble &&& 8 = 8 then .organization
  else if nibble &&& 14 = 14 then .global
  else .none

theorem scope_multicast {a : Ipv6Addr} (multicast : a.isMulticast = true) : a.scope = multScope a.scopeNibble := by
  have link := and_multPrefix multicast 2
  have site := and_multPrefix multicast 5
  have node := and_multPrefix multicast 1
  have organization := and_multPrefix multicast 8
  have global := and_multPrefix multicast 14
  have multLink : multPrefix 2 = multLinkPrefix.extreme := by decide
  have multSite : multPrefix 5 = multSitePrefix.extreme := by decide
  have multNode : multPrefix 1 = multNodePrefix.extreme := by decide
  have multOrgn : multPrefix 8 = multOrgnPrefix.extreme := by decide
  have multGlob : multPrefix 14 = multGlobPrefix.extreme := by decide
  rw [multLink] at link
  rw [multSite] at site
  rw [multNode] at node
  rw [multOrgn] at organization
  rw [multGlob] at global
  unfold scope multScope
  rw [if_neg (not_not_intro multicast)]
  simp only [link, site, node, organization, global]

/-- Of the well-known scopes of multicast addresses the global one alone is not found. -/
theorem multicast_scope_iff {a : Ipv6Addr} {s : Scope} (multicast : a.isMulticast = true) (known : s ≠ .none)
    (nibble : a.scopeNibble.toNat = s.value) : a.scope = s ↔ s ≠ .global := by
  rw [scope_multicast multicast]
  have field : a.scopeNibble = BitVec.ofNat 4 s.value := by
    apply BitVec.eq_of_toNat_eq
    rw [nibble]
    cases s <;> rfl
  rw [field]
  cases s with
  | none => exact absurd rfl known
  | node => decide
  | link => decide
  | site => decide
  | organization => decide
  | global => decide

theorem multicast_scope_iff_allNodes : scope ⟨0xFF020000, 0, 0, 1⟩ = .link ↔ Scope.link ≠ .global :=
  multicast_scope_iff (by decide) (by decide) (by decide)

/-- A multicast address of global scope -/
def globalGroup : Ipv6Addr := ⟨0xFF0E0000, 0, 0, 0x101⟩

theorem globalGroup_link :
    globalGroup.isMulticast = true ∧ globalGroup.scopeNibble.toNat = Scope.global.value ∧
      globalGroup.scope = .link := by
  decide

end Ipv6Addr

end IPv6Suite
