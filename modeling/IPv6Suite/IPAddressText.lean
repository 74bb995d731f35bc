import IPv6Suite.IPAddress
import IPv6Suite.AddressText

namespace IPv6Suite

open Lib

namespace IPAddressBytes

/-- The inner loop of `parseIPAddress`. The `int` is not checked before the digits end. -/
def readNumber (digits : List Char) : BitVec 32 :=
  digits.foldl (fun num c => 10 * num + BitVec.ofNat 32 (c.toNat - 48)) 0

/-- `parseIPAddress`, with the numbers that are still missing -/
def parseNumbers : Nat → Vector (BitVec 8) 4 → List Char → Option (Vector (BitVec 8) 4)
  | 0, _, _ => none
  | missing + 1, tobytes, s =>
      let digits := s.takeWhile (isDigitOf 10)
      if digits = [] then none
      else
        let num := readNumber digits
        if (255#32).slt num then none
        else
          let tobytes := tobytes.setIfInBounds (3 - missing) (num.setWidth 8)
          match s.dropWhile (isDigitOf 10) with
          | [] => if missing = 0 then some tobytes else none
          | c :: s => if c ≠ '.' then none else parseNumbers missing tobytes s

def parseIPAddress (text : List Char) : Option IPAddressBytes :=
  (parseNumbers 4 #v[0, 0, 0, 0] text).map fun tobytes => ⟨tobytes⟩

def isWellFormed (text : List Char) : Bool := (parseIPAddress text).isSome

def Decimal (p : List Char) : Prop := p ≠ [] ∧ ∀ c ∈ p, isDigitOf 10 c = true

/-- The number is at most 255 modulo 2^32, or it is one that an `int` takes for negative. -/
def PassesForByte (p : List Char) : Prop :=
  digitsValue 10 p % 2 ^ 32 ≤ 255 ∨ 2 ^ 31 ≤ digitsValue 10 p % 2 ^ 32
deriving Decidable

instance (p : List Char) : Decidable (Decimal p) :=
  @instDecidableAnd _ _ inferInstance (List.decidableBAll _ p)

theorem digitValue_decimal {c : Char} (digit : isDigitOf 10 c = true) : digitValue c = some (c.toNat - 48) := by
  unfold isDigitOf digitValue at *
  split at digit
  · rename_i range
    rw [if_pos range]
  split at digit
  · simp at digit
    omega
  split at digit
  · simp at digit
    omega
  · cases digit

theorem readNumber_eq {digits : List Char} (all : ∀ c ∈ digits, isDigitOf 10 c = true) :
    readNumber digits = BitVec.ofNat 32 (digitsValue 10 digits) := by
  unfold readNumber digitsValue
  have each : ∀ value : Nat, digits.foldl (fun num c => 10 * num + BitVec.ofNat 32 (c.toNat - 48))
      (BitVec.ofNat 32 value) =
        BitVec.ofNat 32 (digits.foldl (fun value c => value * 10 + (digitValue c).getD 0) value) := by
    induction digits with
    | nil => exact fun value => rfl
    | cons c digits ih =>
        intro value
        rw [List.foldl_cons, List.foldl_cons, ← ih (fun d member => all d (List.mem_cons_of_mem c member)),
          digitValue_decimal (all c List.mem_cons_self), Option.getD_some, BitVec.ofNat_add, BitVec.ofNat_mul,
          BitVec.mul_comm]
        rfl
  exact each 0

theorem passes_iff {p : List Char} (all : ∀ c ∈ p, isDigitOf 10 c = true) :
    ¬ (255#32).slt (readNumber p) = true ↔ PassesForByte p := by
  have limit : (255#32).toInt = 255 := by decide
  have value := BitVec.toInt_eq_toNat_cond (BitVec.ofNat 32 (digitsValue 10 p))
  rw [BitVec.toNat_ofNat] at value
  rw [readNumber_eq all, BitVec.slt_iff_toInt_lt, limit, value]
  unfold PassesForByte
  split <;> omega

theorem decimal_not_mem {p : List Char} {c : Char} (other : isDigitOf 10 c = false)
    (all : ∀ c ∈ p, isDigitOf 10 c = true) : c ∉ p := by
  intro member
  rw [all c member] at other
  cases other

theorem refused_iff {digits : List Char} (all : ∀ c ∈ digits, isDigitOf 10 c = true) :
    digits = [] ∨ (255#32).slt (readNumber digits) = true ↔ ¬ (Decimal digits ∧ PassesForByte digits) := by
  rw [← passes_iff all]
  unfold Decimal
  tauto

/-- If the first number is refused, or something else than a dot ends it, one of the parts is not such a number. -/
theorem not_all_parts {digits rest : List Char} (all : ∀ c ∈ digits, isDigitOf 10 c = true)
    (ends : ∀ c ∈ rest.head?, isDigitOf 10 c = false)
    (wrong : ¬ (Decimal digits ∧ PassesForByte digits) ∨ ∃ c ∈ rest.head?, c ≠ '.') :
    ¬ ∀ p ∈ (digits ++ rest).splitOn '.', Decimal p ∧ PassesForByte p := by
  have noDot := decimal_not_mem (c := '.') (by decide) all
  intro each
  cases rest with
  | nil =>
      rw [List.append_nil, List.splitOn_eq_singleton noDot] at each
      rcases wrong with refused | ⟨c, first, -⟩
      · exact refused (each digits List.mem_cons_self)
      · cases first
  | cons c t =>
      by_cases dot : c = '.'
      · subst dot
        rw [List.splitOn_append_cons_self_of_not_mem noDot] at each
        rcases wrong with refused | ⟨c, first, other⟩
        · exact refused (each digits List.mem_cons_self)
        · cases first
          exact other rfl
      · have within : c ∈ digits ++ c :: t := List.mem_append_right digits List.mem_cons_self
        obtain ⟨p, part, inside⟩ := mem_splitOn.mpr ⟨within, dot⟩
        exact decimal_not_mem (ends c rfl) (each p part).1.2 inside

theorem parseNumbers_isSome (missing : Nat) (tobytes : Vector (BitVec 8) 4) (s : List Char) :
    (parseNumbers missing tobytes s).isSome = true ↔
      (s.splitOn '.').length = missing ∧ ∀ p ∈ s.splitOn '.', Decimal p ∧ PassesForByte p := by
  induction missing generalizing tobytes s with
  | zero =>
      have some := List.splitOn_ne_nil '.' s
      simp [parseNumbers, some]
  | succ missing ih =>
      have split := List.takeWhile_append_dropWhile (p := isDigitOf 10) (l := s)
      have all : ∀ c ∈ s.takeWhile (isDigitOf 10), isDigitOf 10 c = true := fun c => List.mem_takeWhile_imp
      have ends : ∀ c ∈ (s.dropWhile (isDigitOf 10)).head?, isDigitOf 10 c = false := by
        intro c first
        have stop := List.head?_dropWhile_not (isDigitOf 10) s
        rw [first] at stop
        simpa using stop
      have parts : s.splitOn '.' = (s.takeWhile (isDigitOf 10) ++ s.dropWhile (isDigitOf 10)).splitOn '.' := by
        rw [split]
      rw [parts, parseNumbers]
      generalize s.takeWhile (isDigitOf 10) = digits at all
      generalize s.dropWhile (isDigitOf 10) = rest at ends
      have refused := refused_iff all
      have wrong := not_all_parts all ends
      dsimp only
      by_cases number : Decimal digits ∧ PassesForByte digits
      · have kept := not_or.mp (fun bad => refused.mp bad number)
        have noDot := decimal_not_mem (c := '.') (by decide) all
        rw [if_neg kept.1, if_neg kept.2]
        cases rest with
        | nil =>
            rw [List.append_nil, List.splitOn_eq_singleton noDot]
            by_cases last : missing = 0
            · simp [last, number]
            · simp [last]
        | cons c t =>
            by_cases dot : c = '.'
            · subst dot
              rw [List.splitOn_append_cons_self_of_not_mem noDot]
              simp [ih, number]
            · simp [dot, wrong (.inr ⟨c, rfl, dot⟩)]
      · have none := wrong (.inl number)
        rcases refused.mpr number with empty | big
        · simp [empty] at none ⊢
          simp [none]
        · simp [big, none]

theorem isWellFormed_iff (text : List Char) : isWellFormed text = true ↔
      (text.splitOn '.').length = 4 ∧ ∀ p ∈ text.splitOn '.', Decimal p ∧ PassesForByte p := by
  rw [isWellFormed, parseIPAddress, Option.isSome_map]
  exact parseNumbers_isSome 4 _ text

theorem parseNumbers_toDigits (missing : Nat) (tobytes : Vector (BitVec 8) 4) (byte : BitVec 8) (rest : List Char)
    (ends : ∀ c ∈ rest.head?, isDigitOf 10 c = false) :
    parseNumbers (missing + 1) tobytes (Nat.toDigits 10 byte.toNat ++ rest) =
      match rest with
      | [] => if missing = 0 then some (tobytes.setIfInBounds (3 - missing) byte) else none
      | c :: s => if c ≠ '.' then none else parseNumbers missing (tobytes.setIfInBounds (3 - missing) byte) s := by
  have all := isDigitOf_toDigits (show 1 < 10 by decide) (by decide) byte.toNat
  have small : byte.toNat < 256 := byte.isLt
  have value := digitsValue_toDigits (show 1 < 10 by decide) (by decide) byte.toNat
  have passed : PassesForByte (Nat.toDigits 10 byte.toNat) := by
    unfold PassesForByte
    omega
  have number : ((readNumber (Nat.toDigits 10 byte.toNat)).setWidth 8) = byte := by
    rw [readNumber_eq all, value]
    apply BitVec.eq_of_toNat_eq
    rw [BitVec.toNat_setWidth, BitVec.toNat_ofNat]
    omega
  have digits : (Nat.toDigits 10 byte.toNat ++ rest).takeWhile (isDigitOf 10) = Nat.toDigits 10 byte.toNat ∧
      (Nat.toDigits 10 byte.toNat ++ rest).dropWhile (isDigitOf 10) = rest := by
    rw [List.takeWhile_append_of_pos all, List.dropWhile_append_of_pos all]
    cases rest with
    | nil => simp
    | cons c t => simp [ends c rfl]
  rw [parseNumbers, digits.1, digits.2, if_neg Nat.toDigits_ne_nil]
  dsimp only
  rw [if_neg ((passes_iff all).mpr passed), number]
  cases rest with
  | nil => rfl
  | cons c t => rfl

theorem parseIPAddress_str (a : IPAddressBytes) : parseIPAddress a.str = some a := by
  have dot (t : List Char) : ∀ c ∈ ('.' :: t).head?, isDigitOf 10 c = false := by
    intro c first
    cases first
    decide
  unfold parseIPAddress str
  rw [parseNumbers_toDigits _ _ _ _ (dot _)]
  dsimp only
  rw [if_neg (by decide), parseNumbers_toDigits _ _ _ _ (dot _)]
  dsimp only
  rw [if_neg (by decide), parseNumbers_toDigits _ _ _ _ (dot _)]
  dsimp only
  rw [if_neg (by decide), ← List.append_nil (Nat.toDigits 10 a.addr[3].toNat),
    parseNumbers_toDigits _ _ _ _ (by simp), if_pos rfl, Option.map_some]
  apply congrArg some
  apply eq_of_bytes
  intro k byte
  interval_cases k <;> rfl

end IPAddressBytes

end IPv6Suite
