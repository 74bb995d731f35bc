import IPv6Suite.IPAddressText
import IPv6Suite.IPvXAddress

namespace IPv6Suite

open Lib

namespace IPv6Address_

def ofAddr (addr : Ipv6Addr) : IPv6Address_ := ⟨addr.extreme, addr.high, addr.normal, addr.low⟩

/-- The loop of `tryParse`, with the rounds that are left. Of the octals that are not read the stream leaves 0. -/
def readOctals : Nat → List (BitVec 32) → Char → TextStream → Option (List (BitVec 32))
  | 0, _, _, _ => none
  | rounds + 1, octals, sep, is =>
      let (octal, is) := is.getUnsigned 16 0
      if is.eof then if rounds = 0 then some (octals ++ [octal]) else none
      else
        let (sep, is) := is.getChar sep
        if sep ≠ ':' then none else readOctals rounds (octals ++ [octal]) sep is

def tryParse (addr : List Char) : Option IPv6Address_ :=
  (readOctals 8 [] '\x00' (.ofText addr)).map fun octals => ofAddr (Ipv6Addr.ofOctals octals)

/-- `str`, the eight groups in hexadecimal -/
def str (a : IPv6Address_) : List Char := (⟨a.d0, a.d1, a.d2, a.d3⟩ : Ipv6Addr).text

/-- A group of one to four hexadecimal digits -/
def Group (p : List Char) : Prop := 1 ≤ p.length ∧ p.length ≤ 4 ∧ ∀ c ∈ p, isDigitOf 16 c = true

/-- The part is read as a number, with nothing but blanks behind it: there may be blanks, a sign and `0x` in front. -/
def PassesForGroup (p : List Char) : Prop :=
  TextStream.numberDigits 16 p ≠ [] ∧ digitsValue 16 (TextStream.numberDigits 16 p) < 2 ^ 32 ∧
    ∀ c ∈ TextStream.numberRest 16 p, TextStream.isSpace c = true

instance (p : List Char) : Decidable (Group p) :=
  @instDecidableAnd _ _ inferInstance (@instDecidableAnd _ _ inferInstance (List.decidableBAll _ p))

instance (p : List Char) : Decidable (PassesForGroup p) :=
  @instDecidableAnd _ _ inferInstance (@instDecidableAnd _ _ inferInstance (List.decidableBAll _ _))

theorem readOctals_failed (rounds : Nat) (octals : List (BitVec 32)) (sep : Char) (rest : List Char) :
    readOctals rounds octals sep ⟨rest, false, true⟩ = none := by
  induction rounds generalizing octals with
  | zero => rfl
  | succ rounds ih =>
      rw [readOctals]
      by_cases colon : sep = ':'
      · simpa [TextStream.getUnsigned, TextStream.getChar, TextStream.good, colon] using colon ▸ ih _
      · simp [TextStream.getUnsigned, TextStream.getChar, TextStream.good, colon]

/-- At the end of the text the loop ends, with the number as it was. -/
theorem readOctals_eof (rounds : Nat) (octals : List (BitVec 32)) (sep : Char) :
    (readOctals rounds octals sep ⟨[], true, true⟩).isSome = true ↔ rounds = 1 := by
  cases rounds with
  | zero => simp [readOctals]
  | succ rounds =>
      rw [readOctals]
      by_cases last : rounds = 0
      · simp [TextStream.getUnsigned, TextStream.good, last]
      · simp [TextStream.getUnsigned, TextStream.good, last]

theorem separates_colon : TextStream.Separates ':' := by decide

theorem readOctals_colon (rounds : Nat) (octals : List (BitVec 32)) (sep : Char) {p : List Char} (noColon : ':' ∉ p)
    (t : List Char) : ∃ octals', (readOctals (rounds + 1) octals sep (.ofText (p ++ ':' :: t))).isSome = true ↔
        PassesForGroup p ∧ (readOctals rounds octals' ':' (.ofText t)).isSome = true := by
  have read := @TextStream.getUnsigned_stream 16 32 (p ++ ':' :: t) 0
  have inside := (TextStream.numberRest_suffix 16 p).subset
  rw [TextStream.numberRest_append (by decide) separates_colon,
    TextStream.numberDigits_append (by decide) separates_colon] at read
  rw [readOctals, TextStream.ofText, TextStream.ofText]
  unfold PassesForGroup
  generalize TextStream.numberDigits 16 p = digits at read ⊢
  generalize TextStream.numberRest 16 p = rest at read inside ⊢
  generalize TextStream.getUnsigned 16 ⟨p ++ ':' :: t, false, false⟩ (0 : BitVec 32) = result at read
  obtain ⟨octal, is⟩ := result
  dsimp only at read ⊢
  subst read
  have more : (rest ++ ':' :: t).isEmpty = false := by simp
  simp only [more, Bool.false_eq_true, if_false]
  refine ⟨octals ++ [octal], ?_⟩
  by_cases number : digits = [] ∨ 2 ^ 32 ≤ digitsValue 16 digits
  · have refused : ¬ (digits ≠ [] ∧ digitsValue 16 digits < 2 ^ 32) := by
      rw [← Nat.not_le, ← not_or]
      exact not_not_intro number
    rw [decide_eq_true number]
    simp only [TextStream.getChar, TextStream.good, Bool.not_true, Bool.and_false, Bool.false_eq_true, if_false]
    rw [readOctals_failed, ite_self]
    simp only [Option.isSome_none, Bool.false_eq_true, false_iff]
    exact fun passes => refused ⟨passes.1.1, passes.1.2.1⟩
  · have passed : digits ≠ [] ∧ digitsValue 16 digits < 2 ^ 32 := by
      rw [← Nat.not_le, ← not_or]
      exact number
    have blanks := (TextStream.takeWhile_append_stop (f := TextStream.isSpace) (c := ':') (by decide) rest t).2
    have all : rest.dropWhile TextStream.isSpace = [] ↔ ∀ c ∈ rest, TextStream.isSpace c = true :=
      List.dropWhile_eq_nil_iff
    have left := (List.dropWhile_suffix TextStream.isSpace (l := rest)).subset
    rw [decide_eq_false number]
    simp only [TextStream.getChar, TextStream.good, Bool.not_false, Bool.and_true, if_true, blanks]
    cases behind : rest.dropWhile TextStream.isSpace with
    | nil =>
        have blank := all.mp behind
        simp only [List.nil_append, ne_eq, not_true_eq_false, if_false]
        exact (and_iff_right ⟨passed.1, passed.2, blank⟩).symm
    | cons d q =>
        have other : d ≠ ':' := by
          rintro rfl
          exact noColon (inside (left (behind ▸ List.mem_cons_self)))
        have notAll : ¬ ∀ c ∈ rest, TextStream.isSpace c = true := by
          rw [← all, behind]
          simp
        simp only [List.cons_append, ne_eq, other, not_false_eq_true, if_true, Option.isSome_none, Bool.false_eq_true,
          false_iff]
        exact fun passes => notAll passes.1.2.2

/-- The part behind the last colon. If there are blanks behind its number, one more round ends at once. -/
theorem readOctals_last (rounds : Nat) (octals : List (BitVec 32)) (sep : Char) {p : List Char} (noColon : ':' ∉ p) :
    (readOctals (rounds + 1) octals sep (.ofText p)).isSome = true ↔ rounds = 0 ∧ TextStream.numberRest 16 p = [] ∨
        rounds = 1 ∧ sep = ':' ∧ PassesForGroup p ∧ TextStream.numberRest 16 p ≠ [] := by
  have read := @TextStream.getUnsigned_stream 16 32 p 0
  have inside := (TextStream.numberRest_suffix 16 p).subset
  rw [readOctals, TextStream.ofText]
  unfold PassesForGroup
  generalize TextStream.numberDigits 16 p = digits at read ⊢
  generalize TextStream.numberRest 16 p = rest at read inside ⊢
  generalize TextStream.getUnsigned 16 ⟨p, false, false⟩ (0 : BitVec 32) = result at read
  obtain ⟨octal, is⟩ := result
  dsimp only at read ⊢
  subst read
  by_cases ended : rest = []
  · by_cases last : rounds = 0
    · simp [ended, last]
    · simp [ended, last]
  have more : rest.isEmpty = false := by simpa using ended
  simp only [more, Bool.false_eq_true, if_false, ended, and_false, false_or]
  by_cases number : digits = [] ∨ 2 ^ 32 ≤ digitsValue 16 digits
  · have refused : ¬ (digits ≠ [] ∧ digitsValue 16 digits < 2 ^ 32) := by
      rw [← Nat.not_le, ← not_or]
      exact not_not_intro number
    rw [decide_eq_true number]
    simp only [TextStream.getChar, TextStream.good, Bool.not_true, Bool.and_false, Bool.false_eq_true, if_false]
    rw [readOctals_failed, ite_self]
    simp only [Option.isSome_none, Bool.false_eq_true, false_iff]
    exact fun passes => refused ⟨passes.2.2.1.1, passes.2.2.1.2.1⟩
  · have passed : digits ≠ [] ∧ digitsValue 16 digits < 2 ^ 32 := by
      rw [← Nat.not_le, ← not_or]
      exact number
    have all : rest.dropWhile TextStream.isSpace = [] ↔ ∀ c ∈ rest, TextStream.isSpace c = true :=
      List.dropWhile_eq_nil_iff
    have left := (List.dropWhile_suffix TextStream.isSpace (l := rest)).subset
    rw [decide_eq_false number]
    simp only [TextStream.getChar, TextStream.good, Bool.not_false, Bool.and_true, if_true]
    cases behind : rest.dropWhile TextStream.isSpace with
    | nil =>
        have blank := all.mp behind
        by_cases colon : sep = ':'
        · subst colon
          simp only [ne_eq, not_true_eq_false, if_false, readOctals_eof]
          exact (and_iff_left ⟨trivial, ⟨passed.1, passed.2, blank⟩, ended⟩).symm
        · simp [colon]
    | cons d q =>
        have other : d ≠ ':' := by
          rintro rfl
          exact noColon (inside (left (behind ▸ List.mem_cons_self)))
        have notAll : ¬ ∀ c ∈ rest, TextStream.isSpace c = true := by
          rw [← all, behind]
          simp
        simp only [ne_eq, other, not_false_eq_true, if_true, Option.isSome_none, Bool.false_eq_true, false_iff]
        exact fun passes => notAll passes.2.2.1.2.2

/-- What the loop reads: parts between colons, of which the last may end with its digits, or hold none, and is one less
if there are blanks behind it. -/
def ReadsParts (rounds : Nat) (s : List Char) : Prop :=
  ∃ front last, s.splitOn ':' = front ++ [last] ∧ (∀ p ∈ front, PassesForGroup p) ∧
    (front.length + 1 = rounds ∧ TextStream.numberRest 16 last = [] ∨
      front.length + 2 = rounds ∧ PassesForGroup last ∧ TextStream.numberRest 16 last ≠ [])

theorem readOctals_isSome (rounds : Nat) (octals : List (BitVec 32)) (sep : Char) (s : List Char)
    (between : sep = ':' ∨ rounds ≠ 2) :
    (readOctals rounds octals sep (.ofText s)).isSome = true ↔ ReadsParts rounds s := by
  induction rounds generalizing octals sep s with
  | zero => simp [readOctals, ReadsParts]
  | succ rounds ih =>
      by_cases colon : ':' ∈ s
      · obtain ⟨p, t, rfl, noColon⟩ := List.eq_append_cons_of_mem colon
        obtain ⟨octals', round⟩ := readOctals_colon rounds octals sep noColon t
        rw [round, ih octals' ':' t (.inl rfl), ReadsParts, ReadsParts,
          List.splitOn_append_cons_self_of_not_mem noColon]
        constructor
        · rintro ⟨passes, front, last, parts, all, ends⟩
          refine ⟨p :: front, last, by rw [parts, List.cons_append], ?_, ?_⟩
          · simpa using ⟨passes, all⟩
          · simpa [Nat.add_right_cancel_iff, Nat.add_right_comm _ 1] using ends
        · rintro ⟨front, last, parts, all, ends⟩
          cases front with
          | nil =>
              have none : t.splitOn ':' = [] := by simpa using congrArg List.tail parts
              exact absurd none (List.splitOn_ne_nil ':' t)
          | cons q front =>
              rw [List.cons_append, List.cons.injEq] at parts
              obtain ⟨rfl, parts⟩ := parts
              refine ⟨all p List.mem_cons_self, front, last, parts,
                fun q member => all q (List.mem_cons_of_mem p member), ?_⟩
              simpa [Nat.add_right_cancel_iff, Nat.add_right_comm _ 1] using ends
      · rw [readOctals_last rounds octals sep colon, ReadsParts, List.splitOn_eq_singleton colon]
        constructor
        · intro reads
          refine ⟨[], s, rfl, by simp, ?_⟩
          rcases reads with ⟨last, ended⟩ | ⟨last, -, passes, more⟩
          · exact .inl ⟨by simp [last], ended⟩
          · exact .inr ⟨by simp [last], passes, more⟩
        · rintro ⟨front, last, parts, -, ends⟩
          have empty : front = [] := by
            have count := congrArg List.length parts
            rw [List.length_append, List.length_singleton, List.length_singleton] at count
            exact List.length_eq_zero_iff.mp (by omega)
          subst empty
          simp only [List.nil_append, List.cons.injEq, and_true, List.length_nil] at parts ends
          subst parts
          rcases ends with ⟨last, ended⟩ | ⟨last, passes, more⟩
          · exact .inl ⟨by omega, ended⟩
          · exact .inr ⟨by omega, between.resolve_right (by omega), passes, more⟩

theorem tryParse_isSome (addr : List Char) : (tryParse addr).isSome = true ↔ ReadsParts 8 addr := by
  rw [tryParse, Option.isSome_map]
  exact readOctals_isSome 8 [] _ addr (.inr (by decide))

theorem Group.passes {p : List Char} (group : Group p) : PassesForGroup p ∧ TextStream.numberRest 16 p = [] := by
  obtain ⟨least, most, all⟩ := group
  obtain ⟨digits, ended⟩ := TextStream.number_digits all
  have value := digitsValue_lt all
  have power : 16 ^ p.length ≤ 16 ^ 4 := Nat.pow_le_pow_right (by decide) most
  unfold PassesForGroup
  rw [digits, ended]
  refine ⟨⟨List.ne_nil_of_length_pos least, by omega, by simp⟩, rfl⟩

theorem readOctals_printed (rounds : Nat) (octals : List (BitVec 32)) (sep : Char) (group : BitVec 32)
    (tail : List Char) :
    readOctals (rounds + 1) octals sep ⟨Ipv6Addr.printed 16 group ++ ':' :: tail, false, false⟩ =
      readOctals rounds (octals ++ [group]) ':' ⟨tail, false, false⟩ := by
  rw [readOctals, getUnsigned_printed (by decide) (by decide) endsNumber_colon]
  rfl

theorem readOctals_end (octals : List (BitVec 32)) (sep : Char) (group : BitVec 32) :
    readOctals 1 octals sep ⟨Ipv6Addr.printed 16 group, false, false⟩ = some (octals ++ [group]) := by
  have stops : ∀ d ∈ ([] : List Char).head?, TextStream.EndsNumber d := by simp
  have last := TextStream.getUnsigned_toDigits (show 1 < 16 by decide) (by decide) group.isLt stops 0
  rw [List.append_nil, BitVec.ofNat_toNat, BitVec.setWidth_eq] at last
  rw [readOctals, Ipv6Addr.printed, last]
  rfl

theorem tryParse_str (a : IPv6Address_) : tryParse a.str = some a := by
  obtain ⟨d0, d1, d2, d3⟩ := a
  obtain ⟨sep, colons⟩ := read_colons readOctals readOctals_printed ((⟨d0, d1, d2, d3⟩ : Ipv6Addr).groups.take 7)
    (Ipv6Addr.printed 16 (d3 &&& 0xFFFF)) 1 [] '\x00'
  have all : readOctals 8 [] '\x00' (.ofText (str ⟨d0, d1, d2, d3⟩)) =
      some (⟨d0, d1, d2, d3⟩ : Ipv6Addr).groups := by
    rw [TextStream.ofText, str, Ipv6Addr.text]
    show readOctals (((⟨d0, d1, d2, d3⟩ : Ipv6Addr).groups.take 7).length + 1) _ _ _ = _
    rw [colons, readOctals_end]
    rfl
  rw [tryParse, all, Option.map_some, Ipv6Addr.ofOctals_groups]
  rfl

end IPv6Address_

namespace IPvXAddress

def tryParse (a : IPvXAddress) (addr : List Char) : Option IPvXAddress :=
  match IPAddressBytes.parseIPAddress addr with
  | some ip => some (a.setIPv4 ip.getInt)
  | none =>
      match IPv6Address_.tryParse addr with
      | some ipv6 => some (a.setIPv6 ipv6)
      | none => none

def str (a : IPvXAddress) : List Char := if a.isv6 then a.d.str else (IPAddressBytes.ofInt a.d.d0).str

/-- Four decimal numbers 0..255 between dots, or eight groups of one to four hexadecimal digits between colons -/
def WellFormed (s : List Char) : Prop :=
  ((s.splitOn '.').length = 4 ∧ ∀ p ∈ s.splitOn '.', IPAddressBytes.Decimal p ∧ digitsValue 10 p ≤ 255) ∨
    (s.splitOn ':').length = 8 ∧ ∀ p ∈ s.splitOn ':', IPv6Address_.Group p
deriving Decidable

/-- Four decimal numbers of which one is too large, but all pass as bytes -/
def Overflows (s : List Char) : Prop :=
  (s.splitOn '.').length = 4 ∧
    (∀ p ∈ s.splitOn '.', IPAddressBytes.Decimal p ∧ IPAddressBytes.PassesForByte p) ∧
      ∃ p ∈ s.splitOn '.', 255 < digitsValue 10 p

/-- Parts between colons of which one is not a group of an address, but the stream reads them as such -/
def Misspelt (s : List Char) : Prop :=
  IPv6Address_.ReadsParts 8 s ∧ ((s.splitOn ':').length = 7 ∨ ∃ p ∈ s.splitOn ':', ¬ IPv6Address_.Group p)

theorem tryParse_isSome (a : IPvXAddress) (s : List Char) :
    (a.tryParse s).isSome = true ↔ IPAddressBytes.isWellFormed s = true ∨ IPv6Address_.ReadsParts 8 s := by
  rw [← IPv6Address_.tryParse_isSome]
  unfold tryParse IPAddressBytes.isWellFormed
  cases IPAddressBytes.parseIPAddress s with
  | some ip => simp
  | none =>
      cases IPv6Address_.tryParse s with
      | some ipv6 => simp
      | none => simp

theorem decimal_no_colon {s : List Char} (all : ∀ p ∈ s.splitOn '.', IPAddressBytes.Decimal p) : ':' ∉ s := by
  intro colon
  obtain ⟨p, part, inside⟩ := mem_splitOn.mpr ⟨colon, show ':' ≠ '.' by decide⟩
  exact IPAddressBytes.decimal_not_mem (by decide) (all p part).2 inside

theorem readsParts_length {s : List Char} (reads : IPv6Address_.ReadsParts 8 s) :
    (s.splitOn ':').length = 8 ∨ (s.splitOn ':').length = 7 := by
  obtain ⟨front, last, parts, -, ends⟩ := reads
  rw [parts, List.length_append, List.length_singleton]
  omega

theorem readsParts_of_groups {s : List Char} (eight : (s.splitOn ':').length = 8)
    (all : ∀ p ∈ s.splitOn ':', IPv6Address_.Group p) : IPv6Address_.ReadsParts 8 s := by
  have some : s.splitOn ':' ≠ [] := List.splitOn_ne_nil ':' s
  have parts := (List.dropLast_append_getLast some).symm
  refine ⟨(s.splitOn ':').dropLast, (s.splitOn ':').getLast some, parts, ?_, .inl ⟨?_, ?_⟩⟩
  · exact fun p member => (all p (List.dropLast_subset _ member)).passes.1
  · rw [List.length_dropLast, eight]
  · exact (all _ (List.getLast_mem some)).passes.2

theorem passesForByte_of_le {p : List Char} (small : digitsValue 10 p ≤ 255) : IPAddressBytes.PassesForByte p := by
  unfold IPAddressBytes.PassesForByte
  omega

/-- Only numbers that overflow and groups that are spelled in another way are accepted without being well formed. -/
theorem tryParse_wellFormed_iff (a : IPvXAddress) (s : List Char) :
    ((a.tryParse s).isSome = true ↔ WellFormed s) ↔ ¬ (Overflows s ∨ Misspelt s) := by
  have apart (all : ∀ p ∈ s.splitOn '.', IPAddressBytes.Decimal p) : (s.splitOn ':').length = 1 := by
    rw [List.splitOn_eq_singleton (decimal_no_colon all), List.length_singleton]
  rw [tryParse_isSome, IPAddressBytes.isWellFormed_iff]
  unfold WellFormed Overflows Misspelt
  by_cases dotted : (s.splitOn '.').length = 4 ∧
      ∀ p ∈ s.splitOn '.', IPAddressBytes.Decimal p ∧ IPAddressBytes.PassesForByte p
  · have single := apart (fun p part => (dotted.2 p part).1)
    have noParts : ¬ IPv6Address_.ReadsParts 8 s := by
      intro reads
      have length := readsParts_length reads
      omega
    have noGroups : ¬ (s.splitOn ':').length = 8 := by omega
    simp only [dotted.1, noParts, noGroups, false_and, or_false, true_and, not_and, not_exists, Nat.not_lt]
    constructor
    · exact fun accepted _ p part => ((accepted.mp dotted.2) p part).2
    · intro small
      exact iff_of_true dotted.2 (fun p part => ⟨(dotted.2 p part).1, small dotted.2 p part⟩)
  · have noNumbers : ¬ ((s.splitOn '.').length = 4 ∧
        ∀ p ∈ s.splitOn '.', IPAddressBytes.Decimal p ∧ digitsValue 10 p ≤ 255) :=
      fun numbers => dotted ⟨numbers.1, fun p part =>
        ⟨(numbers.2 p part).1, passesForByte_of_le (numbers.2 p part).2⟩⟩
    have noOverflow : ¬ ((s.splitOn '.').length = 4 ∧
        (∀ p ∈ s.splitOn '.', IPAddressBytes.Decimal p ∧ IPAddressBytes.PassesForByte p) ∧
          ∃ p ∈ s.splitOn '.', 255 < digitsValue 10 p) := fun overflow => dotted ⟨overflow.1, overflow.2.1⟩
    simp only [dotted, noNumbers, noOverflow, false_or]
    by_cases reads : IPv6Address_.ReadsParts 8 s
    · have length := readsParts_length reads
      simp only [reads, true_and, true_iff, not_or, not_exists, not_and, not_not]
      constructor
      · exact fun groups => ⟨by omega, groups.2⟩
      · exact fun groups => ⟨by omega, groups.2⟩
    · have noGroups : ¬ ((s.splitOn ':').length = 8 ∧ ∀ p ∈ s.splitOn ':', IPv6Address_.Group p) :=
        fun groups => reads (readsParts_of_groups groups.1 groups.2)
      simp only [reads, noGroups, false_and, not_false_eq_true]

theorem colon_mem_str (a : IPv6Address_) : ':' ∈ a.str := by
  unfold IPv6Address_.str Ipv6Addr.text Ipv6Addr.groups
  simp

/-- What is printed is read back as the same address. -/
theorem tryParse_str {a : IPvXAddress} (built : Built a) (b : IPvXAddress) :
    ∃ c, b.tryParse a.str = some c ∧ c.address = a.address := by
  unfold str tryParse
  cases six : a.isv6 with
  | false =>
      simp only [Bool.false_eq_true, if_false, IPAddressBytes.parseIPAddress_str, IPAddressBytes.getInt_ofInt]
      refine ⟨_, rfl, ?_⟩
      unfold address
      rw [six]
      rfl
  | true =>
      have bits : a.address = .ipv6 a.d := by
        unfold address
        rw [six]
        rfl
      have refused : IPAddressBytes.parseIPAddress a.d.str = none := by
        rw [← Option.not_isSome_iff_eq_none]
        intro accepted
        have numbers := ((IPAddressBytes.isWellFormed_iff a.d.str).mp accepted).2
        exact decimal_no_colon (fun p part => (numbers p part).1) (colon_mem_str a.d)
      simp only [if_true, refused, IPv6Address_.tryParse_str]
      refine ⟨_, rfl, ?_⟩
      rw [address_setIPv6, if_neg (built.not_isNull a.d bits), bits]

/-- Exactly the well-formed strings are accepted and what is printed is read back, if the string neither overflows
nor is misspelt. -/
theorem tryParse_spec (b : IPvXAddress) (s : List Char) {a : IPvXAddress} (built : Built a) :
    ((b.tryParse s).isSome = true ↔ WellFormed s) ∧
        (∃ c, b.tryParse a.str = some c ∧ c.equals a ∧ a.equals c) ↔
      ¬ (Overflows s ∨ Misspelt s) := by
  have printed : ∃ c, b.tryParse a.str = some c ∧ c.equals a ∧ a.equals c := by
    obtain ⟨c, parsed, same⟩ := tryParse_str built b
    have family := (address_eq.mp same).1
    exact ⟨c, parsed, (equals_iff_address (fun _ => family)).mpr same,
      (equals_iff_address (fun _ => family.symm)).mpr same.symm⟩
  rw [and_iff_left printed]
  exact tryParse_wellFormed_iff b s

theorem tryParse_spec_link :
    let b : IPvXAddress := ⟨⟨0, 0, 0, 0⟩, false⟩
    let a := b.setIPv6 ⟨0xFE800000, 0, 0, 1⟩
    let s := "10.0.0.256".toList
    ((b.tryParse s).isSome = true ↔ WellFormed s) ∧
        (∃ c, b.tryParse a.str = some c ∧ c.equals a ∧ a.equals c) ↔
      ¬ (Overflows s ∨ Misspelt s) :=
  tryParse_spec _ _ (.setIPv6 _ _)

/-- Seven groups and a colon behind them are accepted. -/
theorem trailingColon_accepted :
    ((⟨⟨0, 0, 0, 0⟩, false⟩ : IPvXAddress).tryParse "1:2:3:4:5:6:7:".toList).isSome = true ∧
      ¬ WellFormed "1:2:3:4:5:6:7:".toList := by
  decide

end IPvXAddress

end IPv6Suite
