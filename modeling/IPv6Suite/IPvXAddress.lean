import IPv6Suite.Lib.WeakOrder

namespace IPv6Suite

open Lib

inductive ByteOrder where
  | littleEndian
  | bigEndian
deriving DecidableEq

def ByteOrder.bytes (order : ByteOrder) (word : BitVec 32) : List (BitVec 8) :=
  let bytes := [word.extractLsb' 0 8, word.extractLsb' 8 8, word.extractLsb' 16 8,
    word.extractLsb' 24 8]
  match order with
  | .littleEndian => bytes
  | .bigEndian => bytes.reverse

theorem ByteOrder.bytes_inj (order : ByteOrder) {v w : BitVec 32}
    (same : order.bytes v = order.bytes w) : v = w := by
  have bytes : v.extractLsb' 0 8 = w.extractLsb' 0 8 ∧ v.extractLsb' 8 8 = w.extractLsb' 8 8 ∧
      v.extractLsb' 16 8 = w.extractLsb' 16 8 ∧ v.extractLsb' 24 8 = w.extractLsb' 24 8 := by
    cases order with
    | littleEndian => simpa [ByteOrder.bytes] using same
    | bigEndian =>
        have reversed := congrArg List.reverse same
        simpa [ByteOrder.bytes] using reversed
  have less := And.intro v.isLt w.isLt
  simp only [← BitVec.toNat_inj, BitVec.extractLsb'_toNat, Nat.shiftRight_eq_div_pow] at bytes ⊢
  omega

/-- The four words of an IPv6 address -/
@[ext] structure IPv6Address_ where
  d0 : BitVec 32
  d1 : BitVec 32
  d2 : BitVec 32
  d3 : BitVec 32
deriving DecidableEq

def IPv6Address_.isNull (addr : IPv6Address_) : Prop :=
  addr.d0 ||| addr.d1 ||| addr.d2 ||| addr.d3 = 0
deriving Decidable

/-- An IPv4 or an IPv6 address. Only the first word of an IPv4 address is ever set, the others have
any values. -/
structure IPvXAddress where
  d : IPv6Address_
  isv6 : Bool
deriving DecidableEq

namespace IPvXAddress

def setIPv4 (a : IPvXAddress) (addr : BitVec 32) : IPvXAddress :=
  { a with isv6 := false, d := { a.d with d0 := addr } }

def setIPv6 (a : IPvXAddress) (addr : IPv6Address_) : IPvXAddress :=
  if addr.isNull then { a with isv6 := false, d := { a.d with d0 := 0 } }
  else { isv6 := true, d := addr }

def set (a addr : IPvXAddress) : IPvXAddress :=
  let a := { a with isv6 := addr.isv6, d := { a.d with d0 := addr.d.d0 } }
  if a.isv6 then { a with d := { a.d with d1 := addr.d.d1, d2 := addr.d.d2, d3 := addr.d.d3 } } else a

def equals (a addr : IPvXAddress) : Prop :=
  a.d.d0 = addr.d.d0 ∧
    (a.isv6 = false ∨ a.d.d1 = addr.d.d1 ∧ a.d.d2 = addr.d.d2 ∧ a.d.d3 = addr.d.d3)

instance : DecidableRel equals := fun _ _ =>
  inferInstanceAs (Decidable (_ ∧ (_ ∨ _ ∧ _ ∧ _)))

def bytes (order : ByteOrder) (a : IPvXAddress) : List (BitVec 8) :=
  order.bytes a.d.d0 ++ order.bytes a.d.d1 ++ order.bytes a.d.d2 ++ order.bytes a.d.d3

/-- `operator<` -/
def lt (order : ByteOrder) (a addr : IPvXAddress) : Prop :=
  if a.isv6 ≠ addr.isv6 then a.isv6 = false
  else if a.isv6 = false then a.d.d0 < addr.d.d0
  else memcmp (a.bytes order) (addr.bytes order) < 0

instance (order : ByteOrder) : DecidableRel (lt order) := fun a addr =>
  inferInstanceAs (Decidable (if a.isv6 ≠ addr.isv6 then a.isv6 = false
    else if a.isv6 = false then a.d.d0 < addr.d.d0
    else memcmp (a.bytes order) (addr.bytes order) < 0))

/-- What an address stands for: the family and the bits -/
inductive Address where
  | ipv4 (bits : BitVec 32)
  | ipv6 (bits : IPv6Address_)
deriving DecidableEq

def address (a : IPvXAddress) : Address :=
  if a.isv6 then .ipv6 a.d else .ipv4 a.d.d0

/-- The values that the setters build in memory that has any contents -/
inductive Built : IPvXAddress → Prop where
  | null (d : IPv6Address_) : Built ⟨{ d with d0 := 0 }, false⟩
  | setIPv4 (a : IPvXAddress) (addr : BitVec 32) : Built (a.setIPv4 addr)
  | setIPv6 (a : IPvXAddress) (addr : IPv6Address_) : Built (a.setIPv6 addr)
  | set (a : IPvXAddress) {addr : IPvXAddress} (built : Built addr) : Built (a.set addr)

theorem address_setIPv6 (a : IPvXAddress) (addr : IPv6Address_) :
    (a.setIPv6 addr).address = if addr.isNull then .ipv4 0 else .ipv6 addr := by
  unfold setIPv6
  split
  · rfl
  · rfl

theorem address_set (a addr : IPvXAddress) : (a.set addr).address = addr.address := by
  unfold set address
  cases six : addr.isv6 with
  | false => rfl
  | true => rfl

theorem Built.not_isNull {a : IPvXAddress} (built : Built a) (bits : IPv6Address_)
    (six : a.address = .ipv6 bits) : ¬ bits.isNull := by
  induction built generalizing bits with
  | null d => cases six
  | setIPv4 a addr => cases six
  | setIPv6 a addr =>
      rw [address_setIPv6] at six
      split at six
      · cases six
      · rename_i some
        cases six
        exact some
  | set a built ih =>
      rw [address_set] at six
      exact ih bits six

theorem address_eq {a b : IPvXAddress} : a.address = b.address ↔
    a.isv6 = b.isv6 ∧ if a.isv6 then a.d = b.d else a.d.d0 = b.d.d0 := by
  unfold address
  cases a.isv6 with
  | false =>
      cases b.isv6 with
      | false => simp
      | true => simp
  | true =>
      cases b.isv6 with
      | false => simp
      | true => simp

theorem equals_iff {a b : IPvXAddress} :
    a.equals b ↔ if a.isv6 then a.d = b.d else a.d.d0 = b.d.d0 := by
  unfold equals
  cases a.isv6 with
  | false => simp
  | true => simp [IPv6Address_.ext_iff]

/-- `equals` holds of two different addresses only for an IPv4 and an IPv6 one with the same first
word. -/
theorem equals_iff_address {a b : IPvXAddress} (same : a.d.d0 = b.d.d0 → a.isv6 = b.isv6) :
    a.equals b ↔ a.address = b.address := by
  rw [equals_iff, address_eq, iff_and_self]
  intro equal
  split at equal
  · exact same (congrArg IPv6Address_.d0 equal)
  · exact same equal

/-- The place of an address in the order -/
def rank (order : ByteOrder) (a : IPvXAddress) : List Nat :=
  if a.isv6 then 1 :: (a.bytes order).map BitVec.toNat else [0, a.d.d0.toNat]

theorem length_bytes (order : ByteOrder) (a : IPvXAddress) : (a.bytes order).length = 16 := by
  cases order with
  | littleEndian => rfl
  | bigEndian => rfl

theorem lt_iff_rank (order : ByteOrder) (a b : IPvXAddress) : a.lt order b ↔ a.rank order < b.rank order := by
  have size : (a.bytes order).length = (b.bytes order).length := by
    rw [length_bytes, length_bytes]
  unfold lt rank
  cases a.isv6 with
  | false =>
      cases b.isv6 with
      | false => simp [List.cons_lt_cons_iff, BitVec.lt_def]
      | true => simp [List.cons_lt_cons_iff]
  | true =>
      cases b.isv6 with
      | false => simp [List.cons_lt_cons_iff]
      | true => simp [memcmp_neg size]

/-- Two addresses have the same place in the order only if they are the same. -/
theorem rank_eq_iff (order : ByteOrder) (a b : IPvXAddress) :
    a.rank order = b.rank order ↔ a.address = b.address := by
  rw [address_eq]
  unfold rank
  cases a.isv6 with
  | false =>
      cases b.isv6 with
      | false => simp [BitVec.toNat_inj]
      | true => simp
  | true =>
      cases b.isv6 with
      | false => simp
      | true =>
          simp only [if_true, List.cons.injEq, true_and]
          refine ⟨fun same => ?_, fun same => by unfold bytes; rw [same]⟩
          have equal : a.bytes order = b.bytes order :=
            List.map_injective_iff.mpr (fun _ _ => BitVec.eq_of_toNat_eq) same
          unfold bytes at equal
          have four (w : BitVec 32) : (order.bytes w).length = 4 := by
            cases order with
            | littleEndian => rfl
            | bigEndian => rfl
          obtain ⟨equal, d3⟩ := List.append_inj' equal (by rw [four, four])
          obtain ⟨equal, d2⟩ := List.append_inj' equal (by rw [four, four])
          obtain ⟨d0, d1⟩ := List.append_inj' equal (by rw [four, four])
          ext1
          · exact ByteOrder.bytes_inj order d0
          · exact ByteOrder.bytes_inj order d1
          · exact ByteOrder.bytes_inj order d2
          · exact ByteOrder.bytes_inj order d3

end IPvXAddress

/-! ### Pairs of sockets -/

/-- `TCPMain::SockPair` -/
structure SockPair where
  localAddr : IPvXAddress
  remoteAddr : IPvXAddress
  localPort : BitVec 16
  remotePort : BitVec 16
deriving DecidableEq

namespace SockPair

/-- `operator<`; the ports are `short`. -/
def lt (order : ByteOrder) (a b : SockPair) : Prop :=
  if ¬ a.remoteAddr.equals b.remoteAddr then a.remoteAddr.lt order b.remoteAddr
  else if ¬ a.localAddr.equals b.localAddr then a.localAddr.lt order b.localAddr
  else if a.remotePort ≠ b.remotePort then a.remotePort.toInt < b.remotePort.toInt
  else a.localPort.toInt < b.localPort.toInt

instance (order : ByteOrder) : DecidableRel (lt order) := fun a b =>
  inferInstanceAs (Decidable (if ¬ a.remoteAddr.equals b.remoteAddr then
      a.remoteAddr.lt order b.remoteAddr
    else if ¬ a.localAddr.equals b.localAddr then a.localAddr.lt order b.localAddr
    else if a.remotePort ≠ b.remotePort then a.remotePort.toInt < b.remotePort.toInt
    else a.localPort.toInt < b.localPort.toInt))

/-- The pairs of two of the addresses `S` -/
def Between (S : Set IPvXAddress) : Set SockPair :=
  { p | p.localAddr ∈ S ∧ p.remoteAddr ∈ S }

/-- All four components are equal. -/
def Same (a b : SockPair) : Prop :=
  a.localAddr.address = b.localAddr.address ∧ a.remoteAddr.address = b.remoteAddr.address ∧
    a.localPort = b.localPort ∧ a.remotePort = b.remotePort

end SockPair

/-- The addresses `S` can be compared, and used for the keys of a `std::map`. -/
structure Comparable (order : ByteOrder) (S : Set IPvXAddress) : Prop where
  exact : ∀ a ∈ S, ∀ b ∈ S, a.equals b ↔ a.address = b.address
  equivalence : Equivalence fun a b : S => a.1.equals b.1
  weakOrder : IsStrictWeakOrder S fun a b => a.1.lt order b.1
  incomparable : ∀ a ∈ S, ∀ b ∈ S, (¬ a.lt order b ∧ ¬ b.lt order a) ↔ a.equals b
  pairWeakOrder : IsStrictWeakOrder (SockPair.Between S) fun a b => a.1.lt order b.1
  pairSame : ∀ a ∈ SockPair.Between S, ∀ b ∈ SockPair.Between S,
    ¬ a.lt order b → ¬ b.lt order a → a.Same b

namespace SockPair

/-- The place of a pair in the order -/
def rank (order : ByteOrder) (p : SockPair) : List Nat ×ₗ List Nat ×ₗ Int ×ₗ Int :=
  toLex (p.remoteAddr.rank order,
    toLex (p.localAddr.rank order, toLex (p.remotePort.toInt, p.localPort.toInt)))

theorem lt_iff_rank (order : ByteOrder) {a b : SockPair}
    (remoteAddr : a.remoteAddr.equals b.remoteAddr ↔ a.remoteAddr.address = b.remoteAddr.address)
    (localAddr : a.localAddr.equals b.localAddr ↔ a.localAddr.address = b.localAddr.address) :
    a.lt order b ↔ a.rank order < b.rank order := by
  unfold lt rank
  simp only [Prod.Lex.toLex_lt_toLex, remoteAddr, localAddr, ← IPvXAddress.rank_eq_iff order,
    IPvXAddress.lt_iff_rank, ← BitVec.toInt_inj, ne_eq]
  rw [lexicographic_iff, lexicographic_iff, lexicographic_iff]

theorem same_of_rank (order : ByteOrder) {a b : SockPair} (equal : a.rank order = b.rank order) : a.Same b := by
  unfold rank at equal
  simp only [EmbeddingLike.apply_eq_iff_eq, Prod.mk.injEq, IPvXAddress.rank_eq_iff,
    BitVec.toInt_inj] at equal
  obtain ⟨remoteAddr, localAddr, remotePort, localPort⟩ := equal
  exact ⟨localAddr, remoteAddr, localPort, remotePort⟩

end SockPair

/-- The addresses can be compared if and only if no IPv4 and IPv6 address share the first word. -/
theorem comparable_iff (order : ByteOrder) (S : Set IPvXAddress) :
    Comparable order S ↔
      ∀ a ∈ S, ∀ b ∈ S, a.isv6 = false → b.isv6 = true → a.d.d0 ≠ b.d.d0 := by
  constructor
  · intro comparable a first b second four six same
    have equal : a.equals b := ⟨same, Or.inl four⟩
    have families := (IPvXAddress.address_eq.mp ((comparable.exact a first b second).mp equal)).1
    rw [four, six] at families
    cases families
  · intro apart
    have exact : ∀ a ∈ S, ∀ b ∈ S, a.equals b ↔ a.address = b.address := by
      intro a first b second
      refine IPvXAddress.equals_iff_address fun same => ?_
      cases four : a.isv6 with
      | false =>
          cases six : b.isv6 with
          | false => rfl
          | true => exact absurd same (apart a first b second four six)
      | true =>
          cases four' : b.isv6 with
          | false => exact absurd same.symm (apart b second a first four' four)
          | true => rfl
    have compares (a b : S) := IPvXAddress.lt_iff_rank order a.1 b.1
    have pairs (a b : SockPair.Between S) : a.1.lt order b.1 ↔ a.1.rank order < b.1.rank order :=
      SockPair.lt_iff_rank order (exact _ a.2.2 _ b.2.2) (exact _ a.2.1 _ b.2.1)
    refine ⟨exact, ⟨fun a => ?_, fun {a b} same => ?_, fun {a b c} first second => ?_⟩,
      isStrictWeakOrder_of_rank (fun a => a.1.rank order) compares, fun a first b second => ?_,
      isStrictWeakOrder_of_rank (fun a => a.1.rank order) pairs, fun a first b second below above => ?_⟩
    · exact (exact a a.2 a a.2).mpr rfl
    · exact (exact b b.2 a a.2).mpr ((exact a a.2 b b.2).mp same).symm
    · exact (exact a a.2 c c.2).mpr
        (((exact a a.2 b b.2).mp first).trans ((exact b b.2 c c.2).mp second))
    · rw [incomparable_iff (IPvXAddress.lt_iff_rank order), IPvXAddress.rank_eq_iff]
      exact (exact a first b second).symm
    · exact SockPair.same_of_rank order
        ((incomparable_iff pairs ⟨a, first⟩ ⟨b, second⟩).mp ⟨below, above⟩)

/-- The null address and the IPv6 address `::1`, after an IPv4 address in memory with zeros -/
theorem null_equals_loopback :
    let null : IPvXAddress := ⟨⟨0, 0, 0, 0⟩, false⟩
    let loopback := null.setIPv6 ⟨0, 0, 0, 1⟩
    null.Built ∧ loopback.Built ∧ null.equals loopback ∧ null.address ≠ loopback.address ∧
      ¬ loopback.equals null ∧ null.lt .littleEndian loopback ∧
      ¬ SockPair.lt .littleEndian ⟨null, null, 0, 0⟩ ⟨null, loopback, 0, 0⟩ ∧
      ¬ SockPair.lt .littleEndian ⟨null, loopback, 0, 0⟩ ⟨null, null, 0, 0⟩ := by
  refine ⟨.null ⟨0, 0, 0, 0⟩, .setIPv6 _ _, ?_⟩
  decide

end IPv6Suite
