import IPv6Suite.IPv6Address
import IPv6Suite.Lib.TextStream

namespace IPv6Suite

open Lib

/-! ### Printing -/

namespace Ipv6Addr

def groups (a : Ipv6Addr) : List (BitVec 32) :=
  [a.extreme >>> 16, a.extreme &&& 0xFFFF, a.high >>> 16, a.high &&& 0xFFFF,
    a.normal >>> 16, a.normal &&& 0xFFFF, a.low >>> 16, a.low &&& 0xFFFF]

/-- A number, as a stream prints it in the base it is set to -/
def printed (base : Nat) (n : BitVec 32) : List Char := Nat.toDigits base n.toNat

/-- `operator<<`: the groups in hexadecimal, with colons between them. -/
def text (a : Ipv6Addr) : List Char :=
  (a.groups.take 7).flatMap (fun group => printed 16 group ++ [':']) ++ printed 16 (a.low &&& 0xFFFF)

/-- The address of eight numbers that have been read, those missing being 0. The numbers are not checked. -/
def ofOctals (octals : List (BitVec 32)) : Ipv6Addr :=
  let word (i : Nat) : BitVec 32 := (octals.getD (i * 2) 0 <<< 16) + octals.getD (2 * i + 1) 0
  ⟨word 0, word 1, word 2, word 3⟩

theorem word_of_groups (word : BitVec 32) : ((word >>> 16) <<< 16) + (word &&& 0xFFFF) = word := by
  apply BitVec.eq_of_toNat_eq
  have small := word.isLt
  have low : word.toNat &&& 0xFFFF = word.toNat % 2 ^ 16 := Nat.and_two_pow_sub_one_eq_mod word.toNat 16
  have mask : (0xFFFF : BitVec 32).toNat = 0xFFFF := rfl
  simp only [BitVec.toNat_add, BitVec.toNat_shiftLeft, BitVec.toNat_ushiftRight, BitVec.toNat_and, mask, low,
    Nat.shiftLeft_eq, Nat.shiftRight_eq_div_pow]
  omega

theorem ofOctals_groups (a : Ipv6Addr) : ofOctals a.groups = a := by
  obtain ⟨extreme, high, normal, low⟩ := a
  simp only [ofOctals, groups, mk.injEq]
  exact ⟨word_of_groups extreme, word_of_groups high, word_of_groups normal, word_of_groups low⟩

/-- `c_ipv6_addr`, the numbers it reads: it stops at the end of the text and at the prefix length. -/
def readOctals : Nat → List (BitVec 32) → Char → TextStream → List (BitVec 32)
  | 0, octals, _, _ => octals
  | rounds + 1, octals, sep, is =>
      let (octal, is) := is.getUnsigned 16 0
      if is.eof then octals ++ [octal]
      else
        let (sep, is) := is.getChar sep
        if sep = '/' then octals ++ [octal] else readOctals rounds (octals ++ [octal]) sep is

def ofText (addr : Option (List Char)) : Ipv6Addr :=
  ofOctals (readOctals 8 [] '\x00' (.ofText (addr.getD [])))

end Ipv6Addr

/-! ### Address objects -/

/-- An object of class `IPv6Address`, with the scope that is worked out when it is first asked for -/
structure AddressObject where
  mAddr : Ipv6Addr
  mPrefixLength : BitVec 32
  mScope : Ipv6Addr.Scope
deriving DecidableEq

namespace AddressObject

/-- The members that `operator<` and `isNetwork` read -/
def key (a : AddressObject) : IPv6Address := ⟨a.mAddr, a.mPrefixLength.toNat⟩

def ofAddr (addr : Ipv6Addr) (prefixLen : BitVec 32) : AddressObject :=
  if prefixLen = 0 ∧ addr ≠ .unspecified then ⟨addr, 128, .none⟩ else ⟨addr, prefixLen, .none⟩

def scope (a : AddressObject) : Ipv6Addr.Scope := if a.mScope = .none then a.mAddr.scope else a.mScope

/-- `operator==` -/
def eq (lhs rhs : AddressObject) : Bool :=
  lhs.mAddr = rhs.mAddr ∧ lhs.mPrefixLength = rhs.mPrefixLength ∧ lhs.scope = rhs.scope

def address (a : AddressObject) : List Char := a.mAddr.text ++ '/' :: Ipv6Addr.printed 10 a.mPrefixLength

/-- The loop of `operator>>`, with the prefix length it reads. It goes on after the prefix length. -/
def readOctals : Nat → List (BitVec 32) → Char → BitVec 32 → TextStream → List (BitVec 32) × BitVec 32
  | 0, octals, _, prefixLength, _ => (octals, prefixLength)
  | rounds + 1, octals, sep, prefixLength, is =>
      let (octal, is) := is.getUnsigned 16 0
      if is.eof then (octals ++ [octal], prefixLength)
      else
        let (sep, is) := is.getChar sep
        if sep = '/' then
          let (prefixLength, is) := is.getUnsigned 10 prefixLength
          readOctals rounds (octals ++ [octal]) sep prefixLength is
        else readOctals rounds (octals ++ [octal]) sep prefixLength is

/-- `operator>>` -/
def read (a : AddressObject) (is : TextStream) : AddressObject :=
  let (octals, prefixLength) := readOctals 8 [] '\x00' 0 is
  { a with mAddr := Ipv6Addr.ofOctals octals, mPrefixLength := prefixLength }

def setAddress (a : AddressObject) : Option (List Char) → AddressObject
  | none => { a with mAddr := .unspecified, mPrefixLength := 0 }
  | some t => { a.read (.ofText t) with mScope := .none }

def ofText (t : Option (List Char)) : AddressObject :=
  let a := setAddress ⟨.unspecified, 0, .none⟩ t
  if a.mPrefixLength = 0 ∧ a.mAddr ≠ .unspecified then { a with mPrefixLength := 128 } else a

def ScopeKept (a : AddressObject) : Prop := a.mScope = .none ∨ a.mScope = a.mAddr.scope

theorem ScopeKept.scope_eq {a : AddressObject} (kept : a.ScopeKept) : a.scope = a.mAddr.scope := by
  unfold scope
  cases kept with
  | inl unknown => rw [if_pos unknown]
  | inr known =>
      rw [known]
      exact ite_self _

end AddressObject

/-! ### Reading what is printed -/

theorem endsNumber_colon : TextStream.EndsNumber ':' := by decide

theorem endsNumber_slash : TextStream.EndsNumber '/' := by decide

theorem getUnsigned_printed {base : Nat} {n : BitVec 32} {c : Char} {tail : List Char} (least : 1 < base)
    (most : base ≤ 16) (ends : TextStream.EndsNumber c) (old : BitVec 32) :
    TextStream.getUnsigned base ⟨Ipv6Addr.printed base n ++ c :: tail, false, false⟩ old =
      (n, ⟨c :: tail, false, false⟩) := by
  have stops : ∀ d ∈ (c :: tail).head?, TextStream.EndsNumber d := by simpa using ends
  have read := TextStream.getUnsigned_toDigits least most n.isLt stops old
  rw [BitVec.ofNat_toNat, BitVec.setWidth_eq] at read
  exact read

theorem read_colons {α : Type} (read : Nat → List (BitVec 32) → Char → TextStream → α)
    (colon : ∀ (rounds : Nat) (octals : List (BitVec 32)) (sep : Char) (group : BitVec 32) (tail : List Char),
      read (rounds + 1) octals sep ⟨Ipv6Addr.printed 16 group ++ ':' :: tail, false, false⟩ =
        read rounds (octals ++ [group]) ':' ⟨tail, false, false⟩)
    (front : List (BitVec 32)) (tail : List Char) (rounds : Nat) :
    ∀ (octals : List (BitVec 32)) (sep : Char), ∃ sep', read (front.length + rounds) octals sep
          ⟨front.flatMap (fun group => Ipv6Addr.printed 16 group ++ [':']) ++ tail, false, false⟩ =
        read rounds (octals ++ front) sep' ⟨tail, false, false⟩ := by
  induction front with
  | nil =>
      intro octals sep
      exact ⟨sep, by simp⟩
  | cons group front ih =>
      intro octals sep
      obtain ⟨sep', rest⟩ := ih (octals ++ [group]) ':'
      have counted : (group :: front).length + rounds = front.length + rounds + 1 := by
        simp only [List.length_cons]
        omega
      exists sep'
      rw [counted, List.flatMap_cons, List.append_assoc, List.append_assoc, List.singleton_append, colon, rest,
        List.append_assoc, List.singleton_append]

namespace Ipv6Addr

theorem readOctals_colon (rounds : Nat) (octals : List (BitVec 32)) (sep : Char) (group : BitVec 32)
    (tail : List Char) : readOctals (rounds + 1) octals sep ⟨printed 16 group ++ ':' :: tail, false, false⟩ =
      readOctals rounds (octals ++ [group]) ':' ⟨tail, false, false⟩ := by
  rw [readOctals, getUnsigned_printed (by decide) (by decide) endsNumber_colon]
  rfl

/-- The last group is followed by the prefix length, which `c_ipv6_addr` leaves out. -/
theorem readOctals_slash (rounds : Nat) (octals : List (BitVec 32)) (sep : Char) (group : BitVec 32)
    (tail : List Char) :
    readOctals (rounds + 1) octals sep ⟨printed 16 group ++ '/' :: tail, false, false⟩ = octals ++ [group] := by
  rw [readOctals, getUnsigned_printed (by decide) (by decide) endsNumber_slash]
  rfl

theorem groups_snoc (a : Ipv6Addr) : a.groups.take 7 ++ [a.low &&& 0xFFFF] = a.groups := rfl

theorem ofText_text (a : Ipv6Addr) (tail : List Char) : ofText (some (a.text ++ '/' :: tail)) = a := by
  obtain ⟨sep, colons⟩ := read_colons readOctals readOctals_colon (a.groups.take 7)
    (printed 16 (a.low &&& 0xFFFF) ++ '/' :: tail) 1 [] '\x00'
  have all : readOctals 8 [] '\x00' (.ofText (a.text ++ '/' :: tail)) = a.groups := by
    rw [TextStream.ofText, text, List.append_assoc]
    show readOctals ((a.groups.take 7).length + 1) _ _ _ = _
    rw [colons, readOctals_slash]
    exact groups_snoc a
  rw [ofText, Option.getD_some, all]
  exact ofOctals_groups a

end Ipv6Addr

namespace AddressObject

theorem readOctals_colon (rounds : Nat) (octals : List (BitVec 32)) (sep : Char) (prefixLength group : BitVec 32)
    (tail : List Char) :
    readOctals (rounds + 1) octals sep prefixLength ⟨Ipv6Addr.printed 16 group ++ ':' :: tail, false, false⟩ =
      readOctals rounds (octals ++ [group]) ':' prefixLength ⟨tail, false, false⟩ := by
  rw [readOctals, getUnsigned_printed (by decide) (by decide) endsNumber_colon]
  rfl

theorem readOctals_slash (octals : List (BitVec 32)) (sep : Char) (old group prefixLength : BitVec 32) :
    readOctals 1 octals sep old
        ⟨Ipv6Addr.printed 16 group ++ '/' :: Ipv6Addr.printed 10 prefixLength, false, false⟩ =
      (octals ++ [group], prefixLength) := by
  have stops : ∀ d ∈ ([] : List Char).head?, TextStream.EndsNumber d := by simp
  have last := TextStream.getUnsigned_toDigits (show 1 < 10 by decide) (by decide) prefixLength.isLt stops old
  rw [List.append_nil, BitVec.ofNat_toNat, BitVec.setWidth_eq] at last
  rw [readOctals, getUnsigned_printed (by decide) (by decide) endsNumber_slash]
  show (let (value, is) := TextStream.getUnsigned 10 ⟨Nat.toDigits 10 prefixLength.toNat, false, false⟩ old
    readOctals 0 (octals ++ [group]) '/' value is) = _
  rw [last]
  rfl

theorem read_address (a old : AddressObject) :
    old.read (.ofText a.address) = { old with mAddr := a.mAddr, mPrefixLength := a.mPrefixLength } := by
  obtain ⟨sep, colons⟩ := read_colons (fun rounds octals sep => readOctals rounds octals sep 0)
    (fun rounds octals sep => readOctals_colon rounds octals sep 0) (a.mAddr.groups.take 7)
    (Ipv6Addr.printed 16 (a.mAddr.low &&& 0xFFFF) ++ '/' :: Ipv6Addr.printed 10 a.mPrefixLength) 1 [] '\x00'
  have all : readOctals 8 [] '\x00' 0 (.ofText a.address) = (a.mAddr.groups, a.mPrefixLength) := by
    rw [TextStream.ofText, address, Ipv6Addr.text, List.append_assoc]
    show readOctals ((a.mAddr.groups.take 7).length + 1) _ _ _ _ = _
    rw [colons, readOctals_slash]
    exact congrArg (·, a.mPrefixLength) (Ipv6Addr.groups_snoc a.mAddr)
  rw [read, all]
  exact congrArg (fun addr => { old with mAddr := addr, mPrefixLength := a.mPrefixLength })
    (Ipv6Addr.ofOctals_groups a.mAddr)

theorem ofText_address {a : AddressObject} (positive : a.mPrefixLength ≠ 0) :
    ofText (some a.address) = { a with mScope := .none } := by
  rw [ofText, setAddress, read_address, if_neg (fun unset => positive unset.1)]

/-- The object built again equals the first one, unless that one holds the scope of an address it had before. -/
theorem ofText_eq {a : AddressObject} (positive : a.mPrefixLength ≠ 0) (kept : a.ScopeKept) :
    (ofText (some a.address)).eq a = true := by
  rw [ofText_address positive]
  unfold eq
  have known : scope { a with mScope := .none } = a.scope := by
    rw [kept.scope_eq]
    exact if_pos rfl
  simpa using known

/-- What `address` prints of an address and its prefix length, the constructor and `c_ipv6_addr` both read back. -/
theorem address_agrees (addr : Ipv6Addr) {prefixLen : Nat} (least : 1 ≤ prefixLen) (most : prefixLen ≤ 128) :
    (ofText (some (ofAddr addr (.ofNat 32 prefixLen)).address)).eq (ofAddr addr (.ofNat 32 prefixLen)) = true ∧
      (ofText (some (ofAddr addr (.ofNat 32 prefixLen)).address)).mPrefixLength.toNat = prefixLen ∧
      Ipv6Addr.ofText (some (ofAddr addr (.ofNat 32 prefixLen)).address) = addr := by
  have length : (BitVec.ofNat 32 prefixLen).toNat = prefixLen := Nat.mod_eq_of_lt (by omega)
  have positive : BitVec.ofNat 32 prefixLen ≠ 0 := by
    intro zero
    rw [zero] at length
    have none : (0 : BitVec 32).toNat = 0 := rfl
    omega
  have object : ofAddr addr (.ofNat 32 prefixLen) = ⟨addr, .ofNat 32 prefixLen, .none⟩ :=
    if_neg (fun unset => positive unset.1)
  have set : (ofAddr addr (.ofNat 32 prefixLen)).mPrefixLength ≠ 0 := by
    rw [object]
    exact positive
  refine ⟨ofText_eq set (.inl (by rw [object])), ?_, ?_⟩
  · rw [ofText_address set, object]
    exact length
  · rw [object]
    exact Ipv6Addr.ofText_text addr _

theorem address_agrees_zeroes :
    (ofText (some (ofAddr ⟨0x20010DB8, 0, 0, 0xFF0000⟩ 64).address)).eq (ofAddr ⟨0x20010DB8, 0, 0, 0xFF0000⟩ 64) =
        true ∧
      (ofText (some (ofAddr ⟨0x20010DB8, 0, 0, 0xFF0000⟩ 64).address)).mPrefixLength.toNat = 64 ∧
      Ipv6Addr.ofText (some (ofAddr ⟨0x20010DB8, 0, 0, 0xFF0000⟩ 64).address) = ⟨0x20010DB8, 0, 0, 0xFF0000⟩ :=
  address_agrees _ (by decide) (by decide)

example : String.ofList (ofAddr ⟨0x20010DB8, 0, 0, 0xFF0000⟩ 64).address = "2001:db8:0:0:0:0:ff:0/64" := by decide

end AddressObject

end IPv6Suite
