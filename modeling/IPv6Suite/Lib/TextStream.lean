import Mathlib.Algebra.Group.Nat.Defs
import Mathlib.Data.List.Induction
import Mathlib.Data.List.TakeWhile
import Mathlib.Tactic.Common

namespace Lib

/-! ### Digits -/

/-- The value of a digit, in any base up to 16 -/
def digitValue (c : Char) : Option Nat :=
  if 48 ≤ c.toNat ∧ c.toNat ≤ 57 then some (c.toNat - 48)
  else if 97 ≤ c.toNat ∧ c.toNat ≤ 102 then some (c.toNat - 87)
  else if 65 ≤ c.toNat ∧ c.toNat ≤ 70 then some (c.toNat - 55)
  else none

def isDigitOf (base : Nat) (c : Char) : Bool := (digitValue c).any (· < base)

def digitsValue (base : Nat) (digits : List Char) : Nat :=
  digits.foldl (fun value c => value * base + (digitValue c).getD 0) 0

theorem digitValue_digitChar {d : Nat} (small : d < 16) : digitValue d.digitChar = some d := by
  have each : ∀ e ∈ List.range 16, digitValue (Nat.digitChar e) = some e := by decide
  exact each d (List.mem_range.mpr small)

theorem digitsValue_snoc (base : Nat) (digits : List Char) (c : Char) :
    digitsValue base (digits ++ [c]) = digitsValue base digits * base + (digitValue c).getD 0 := by
  simp [digitsValue]

section

variable {base : Nat}

theorem isDigitOf_digitChar {d : Nat} (most : base ≤ 16) (small : d < base) : isDigitOf base d.digitChar = true := by
  rw [isDigitOf, digitValue_digitChar (by omega)]
  simpa using small

/-- The digits of a number have its value. -/
theorem digitsValue_toDigits (least : 1 < base) (most : base ≤ 16) (n : Nat) :
    digitsValue base (Nat.toDigits base n) = n := by
  induction n using Nat.strong_induction_on with
  | _ n ih =>
      rw [Nat.toDigits_eq_if least]
      split
      · rename_i small
        simp [digitsValue, digitValue_digitChar (Nat.lt_of_lt_of_le small most)]
      · have smaller : n / base < n := Nat.div_lt_self (by omega) least
        have digit : n % base < 16 := Nat.lt_of_lt_of_le (Nat.mod_lt n (by omega)) most
        rw [digitsValue_snoc, ih _ smaller, digitValue_digitChar digit, Option.getD_some]
        exact Nat.div_add_mod' n base

theorem isDigitOf_toDigits (least : 1 < base) (most : base ≤ 16) (n : Nat) :
    ∀ c ∈ Nat.toDigits base n, isDigitOf base c = true := by
  induction n using Nat.strong_induction_on with
  | _ n ih =>
      rw [Nat.toDigits_eq_if least]
      split
      · rename_i small
        simpa using isDigitOf_digitChar most small
      · have smaller : n / base < n := Nat.div_lt_self (by omega) least
        have last := isDigitOf_digitChar most (Nat.mod_lt n (by omega))
        intro c member
        rcases List.mem_append.mp member with front | back
        · exact ih _ smaller c front
        · rw [List.mem_singleton.mp back]
          exact last

theorem digitsValue_lt {digits : List Char} (all : ∀ c ∈ digits, isDigitOf base c = true) :
    digitsValue base digits < base ^ digits.length := by
  induction digits using List.reverseRecOn with
  | nil => simp [digitsValue]
  | append_singleton digits c ih =>
      have front := ih (fun d member => all d (List.mem_append_left [c] member))
      have last := all c (by simp)
      unfold isDigitOf at last
      cases value : digitValue c with
      | none => simp [value] at last
      | some d =>
          have small : d < base := by simpa [value] using last
          rw [digitsValue_snoc, value, Option.getD_some, List.length_append, List.length_singleton, Nat.pow_succ]
          have product := Nat.mul_le_mul_right base (Nat.succ_le_of_lt front)
          rw [Nat.succ_mul] at product
          omega

end

/-! ### Parts of a text -/

theorem mem_splitOn {α : Type} [DecidableEq α] {sep c : α} {s : List α} :
    (∃ p ∈ s.splitOn sep, c ∈ p) ↔ c ∈ s ∧ c ≠ sep := by
  induction s with
  | nil => simp
  | cons d s ih =>
      rw [List.splitOn_cons_eq_if_modifyHead]
      cases split : s.splitOn sep with
      | nil => exact absurd split (List.splitOn_ne_nil sep s)
      | cons p parts =>
          rw [split] at ih
          by_cases ends : d = sep
          · subst ends
            simp only [beq_self_eq_true, if_true, List.mem_cons, exists_eq_or_imp, List.not_mem_nil, false_or] at ih ⊢
            rw [ih]
            tauto
          · simp only [beq_eq_false_iff_ne.mpr ends, Bool.false_eq_true, if_false, List.modifyHead_cons, List.mem_cons,
              exists_eq_or_imp] at ih ⊢
            rw [or_assoc, ih]
            constructor
            · rintro (rfl | inside)
              · exact ⟨.inl rfl, ends⟩
              · exact ⟨.inr inside.1, inside.2⟩
            · rintro ⟨rfl | inside, other⟩
              · exact .inl rfl
              · exact .inr ⟨inside, other⟩

/-! ### Streams -/

/-- What is left of a text that is being read, and the state of the stream -/
structure TextStream where
  rest : List Char
  eof : Bool
  fail : Bool
deriving DecidableEq

namespace TextStream

def ofText (text : List Char) : TextStream := ⟨text, false, false⟩

def good (is : TextStream) : Bool := !is.eof && !is.fail

/-- `isspace`, skipped by formatted input -/
def isSpace (c : Char) : Bool := c.toNat = 32 ∨ 9 ≤ c.toNat ∧ c.toNat ≤ 13

/-- `is >> c` of a character. A stream that is not good leaves the variable as it was. -/
def getChar (is : TextStream) (old : Char) : Char × TextStream :=
  if is.good then
    match is.rest.dropWhile isSpace with
    | [] => (old, ⟨[], true, true⟩)
    | c :: rest => (c, ⟨rest, false, false⟩)
  else (old, { is with fail := true })

/-- In base 16 the digits may stand behind `0x`. -/
def skipBase (base : Nat) (text : List Char) : List Char :=
  if base = 16 ∧ text.head? = some '0' ∧ (text.tail.head? = some 'x' ∨ text.tail.head? = some 'X') then text.drop 2
  else text

/-- `is >> v` of an unsigned number. Without a digit, or when the number is too large, the variable is left as it was. -/
def getUnsigned {w : Nat} (base : Nat) (is : TextStream) (old : BitVec w) : BitVec w × TextStream :=
  if is.good then
    let text := is.rest.dropWhile isSpace
    let negative : Bool := text.head? = some '-'
    let signed : Bool := negative ∨ text.head? = some '+'
    let text := skipBase base (if signed then text.tail else text)
    let digits := text.takeWhile (isDigitOf base)
    let rest := text.dropWhile (isDigitOf base)
    let value := digitsValue base digits
    if digits = [] ∨ 2 ^ w ≤ value then (old, ⟨rest, rest.isEmpty, true⟩)
    else (if negative then -BitVec.ofNat w value else BitVec.ofNat w value, ⟨rest, rest.isEmpty, false⟩)
  else (old, { is with fail := true })

/-- A character that ends a number in any base -/
def EndsNumber (c : Char) : Prop := isDigitOf 16 c = false ∧ c ≠ 'x' ∧ c ≠ 'X'
deriving Decidable

/-- What stands behind the blanks, the sign and the mark of the base at the beginning of a number -/
def unsignedText (base : Nat) (text : List Char) : List Char :=
  let text := text.dropWhile isSpace
  skipBase base (if text.head? = some '-' ∨ text.head? = some '+' then text.tail else text)

def numberDigits (base : Nat) (text : List Char) : List Char := (unsignedText base text).takeWhile (isDigitOf base)

/-- What is left behind a number that has been read -/
def numberRest (base : Nat) (text : List Char) : List Char := (unsignedText base text).dropWhile (isDigitOf base)

/-- A character that ends a number wherever it stands -/
def Separates (c : Char) : Prop := EndsNumber c ∧ isSpace c = false ∧ c ≠ '-' ∧ c ≠ '+'
deriving Decidable

theorem isDigitOf_mono {base : Nat} {c : Char} (most : base ≤ 16) (digit : isDigitOf base c = true) :
    isDigitOf 16 c = true := by
  unfold isDigitOf at *
  cases value : digitValue c with
  | none => simp [value] at digit
  | some d =>
      simp only [value, Option.any_some, decide_eq_true_eq] at digit ⊢
      omega

theorem not_isSpace {c : Char} (digit : isDigitOf 16 c = true) : isSpace c = false := by
  unfold isDigitOf digitValue at digit
  unfold isSpace
  simp only [decide_eq_false_iff_not]
  intro space
  rw [if_neg (by omega), if_neg (by omega), if_neg (by omega)] at digit
  cases digit

section

variable {base : Nat} {tail : List Char}

/-- Digits are not taken for a sign or for the mark of the base. -/
theorem skipBase_digits {c : Char} {digits : List Char} (more : ∀ d ∈ digits, isDigitOf 16 d = true)
    (ends : ∀ d ∈ tail.head?, EndsNumber d) : skipBase base (c :: digits ++ tail) = c :: digits ++ tail := by
  have other : ∀ d ∈ (digits ++ tail).head?, d ≠ 'x' ∧ d ≠ 'X' := by
    cases digits with
    | nil => exact fun d first => (ends d first).2
    | cons d' rest =>
        intro d first
        have digit := more d' List.mem_cons_self
        cases first
        constructor
        · rintro rfl
          exact absurd digit (by decide)
        · rintro rfl
          exact absurd digit (by decide)
  unfold skipBase
  rw [if_neg]
  rintro ⟨-, -, lower | upper⟩
  · exact (other 'x' lower).1 rfl
  · exact (other 'X' upper).2 rfl

/-- A number that is printed is read back, up to the character that ends it. -/
theorem getUnsigned_toDigits {w n : Nat} (least : 1 < base) (most : base ≤ 16) (fits : n < 2 ^ w)
    (ends : ∀ d ∈ tail.head?, EndsNumber d) (old : BitVec w) :
    getUnsigned base ⟨Nat.toDigits base n ++ tail, false, false⟩ old =
      (BitVec.ofNat w n, ⟨tail, tail.isEmpty, false⟩) := by
  have all := isDigitOf_toDigits least most n
  have value := digitsValue_toDigits least most n
  have stops : tail.takeWhile (isDigitOf base) = [] ∧ tail.dropWhile (isDigitOf base) = tail := by
    cases tail with
    | nil => exact ⟨rfl, rfl⟩
    | cons d rest =>
        have no : isDigitOf base d = false := by
          by_contra digit
          rw [Bool.not_eq_false] at digit
          have ended := (ends d rfl).1
          rw [isDigitOf_mono most digit] at ended
          cases ended
        simp [no]
  have any : Nat.toDigits base n ≠ [] := Nat.toDigits_ne_nil
  generalize Nat.toDigits base n = digits at all value any
  cases digits with
  | nil => exact absurd rfl any
  | cons c more =>
      have digit := isDigitOf_mono most (all c List.mem_cons_self)
      have first : (c :: more ++ tail).dropWhile isSpace = c :: more ++ tail := by
        simp [not_isSpace digit]
      have unsigned : c ≠ '-' ∧ c ≠ '+' := by
        constructor
        · rintro rfl
          exact absurd digit (by decide)
        · rintro rfl
          exact absurd digit (by decide)
      have same : skipBase base (c :: more ++ tail) = c :: more ++ tail :=
        skipBase_digits (fun d member => isDigitOf_mono most (all d (List.mem_cons_of_mem c member))) ends
      have taken : (c :: more ++ tail).takeWhile (isDigitOf base) = c :: more := by
        rw [List.takeWhile_append_of_pos all, stops.1, List.append_nil]
      have left : (c :: more ++ tail).dropWhile (isDigitOf base) = tail := by
        rw [List.dropWhile_append_of_pos all, stops.2]
      unfold getUnsigned
      have plain : (TextStream.mk (c :: more ++ tail) false false).good = true := rfl
      simp only [plain, if_true, first]
      have sign : ¬ ((c :: more ++ tail).head? = some '-') ∧ ¬ ((c :: more ++ tail).head? = some '+') := by
        simpa using unsigned
      simp only [sign.1, sign.2, decide_false, or_self, Bool.false_eq_true, if_false, same, taken, left, value]
      rw [if_neg]
      simp
      omega

/-- A stream that is good after a number has read digits of a value that fits. -/
theorem getUnsigned_stream {w : Nat} (text : List Char) (old : BitVec w) :
    (getUnsigned base ⟨text, false, false⟩ old).2 = ⟨numberRest base text, (numberRest base text).isEmpty,
        decide (numberDigits base text = [] ∨ 2 ^ w ≤ digitsValue base (numberDigits base text))⟩ := by
  have sign : (decide (decide ((text.dropWhile isSpace).head? = some '-') = true ∨
      (text.dropWhile isSpace).head? = some '+') = true) =
        ((text.dropWhile isSpace).head? = some '-' ∨ (text.dropWhile isSpace).head? = some '+') := by
    simp
  have plain : (TextStream.mk text false false).good = true := rfl
  have shape : getUnsigned base ⟨text, false, false⟩ old =
      if numberDigits base text = [] ∨ 2 ^ w ≤ digitsValue base (numberDigits base text) then
        (old, ⟨numberRest base text, (numberRest base text).isEmpty, true⟩)
      else
        (if decide ((text.dropWhile isSpace).head? = some '-') then
            -BitVec.ofNat w (digitsValue base (numberDigits base text))
          else BitVec.ofNat w (digitsValue base (numberDigits base text)),
          ⟨numberRest base text, (numberRest base text).isEmpty, false⟩) := by
    unfold getUnsigned
    simp only [plain, if_true, sign]
    rfl
  rw [shape]
  split
  · rename_i none
    rw [decide_eq_true none]
  · rename_i number
    rw [decide_eq_false number]

theorem skipBase_append {c : Char} (ends : EndsNumber c) (p t : List Char) :
    skipBase base (p ++ c :: t) = skipBase base p ++ c :: t := by
  obtain ⟨digit, lower, upper⟩ := ends
  have noZero : c ≠ '0' := by
    rintro rfl
    exact absurd digit (by decide)
  unfold skipBase
  match p with
  | [] => simp [noZero]
  | [d] => simp [lower, upper]
  | d :: e :: p =>
      simp only [List.cons_append, List.head?_cons, List.tail_cons, List.drop_succ_cons, List.drop_zero]
      split
      · rfl
      · rfl

/-- A character that separates numbers is not read with the one in front of it. -/
theorem unsignedText_append {c : Char} (separates : Separates c) (p t : List Char) :
    unsignedText base (p ++ c :: t) = unsignedText base p ++ c :: t := by
  obtain ⟨ends, noBlank, minus, plus⟩ := separates
  have blanks : (p ++ c :: t).dropWhile isSpace = p.dropWhile isSpace ++ c :: t := by
    rw [List.dropWhile_append]
    cases left : p.dropWhile isSpace with
    | nil => simp [noBlank]
    | cons d rest => simp
  unfold unsignedText
  dsimp only
  rw [blanks]
  cases p.dropWhile isSpace with
  | nil =>
      have unsigned : ¬ ((c :: t).head? = some '-' ∨ (c :: t).head? = some '+') := by simp [minus, plus]
      rw [List.nil_append, if_neg unsigned]
      exact skipBase_append ends [] t
  | cons d q =>
      have first : (d :: q ++ c :: t).head? = (d :: q).head? := rfl
      rw [first]
      by_cases sign : (d :: q).head? = some '-' ∨ (d :: q).head? = some '+'
      · rw [if_pos sign, if_pos sign]
        exact skipBase_append ends q t
      · rw [if_neg sign, if_neg sign]
        exact skipBase_append ends (d :: q) t

theorem stops_at {c : Char} (most : base ≤ 16) (ends : EndsNumber c) : isDigitOf base c = false := by
  by_contra digit
  have ended := ends.1
  rw [isDigitOf_mono most (by simpa using digit)] at ended
  cases ended

theorem takeWhile_append_stop {f : Char → Bool} {c : Char} (stop : f c = false) (p t : List Char) :
    (p ++ c :: t).takeWhile f = p.takeWhile f ∧ (p ++ c :: t).dropWhile f = p.dropWhile f ++ c :: t := by
  induction p with
  | nil => simp [stop]
  | cons d p ih =>
      cases inside : f d with
      | false => simp [inside]
      | true => simpa [inside] using ih

theorem numberDigits_append {c : Char} (most : base ≤ 16) (separates : Separates c) (p t : List Char) :
    numberDigits base (p ++ c :: t) = numberDigits base p := by
  rw [numberDigits, unsignedText_append separates]
  exact (takeWhile_append_stop (stops_at most separates.1) _ t).1

theorem numberRest_append {c : Char} (most : base ≤ 16) (separates : Separates c) (p t : List Char) :
    numberRest base (p ++ c :: t) = numberRest base p ++ c :: t := by
  rw [numberRest, unsignedText_append separates]
  exact (takeWhile_append_stop (stops_at most separates.1) _ t).2

theorem skipBase_suffix (base : Nat) (text : List Char) : skipBase base text <:+ text := by
  unfold skipBase
  split
  · exact List.drop_suffix 2 text
  · exact List.suffix_rfl

theorem numberRest_suffix (base : Nat) (text : List Char) : numberRest base text <:+ text := by
  unfold numberRest unsignedText
  refine (List.dropWhile_suffix _).trans ((skipBase_suffix base _).trans ?_)
  split
  · exact (List.tail_suffix _).trans (List.dropWhile_suffix _)
  · exact List.dropWhile_suffix _

/-- A text of digits alone is read as it is. -/
theorem unsignedText_digits {text : List Char} (all : ∀ c ∈ text, isDigitOf 16 c = true) :
    unsignedText base text = text := by
  cases text with
  | nil => simp [unsignedText, skipBase]
  | cons c digits =>
      have digit := all c List.mem_cons_self
      have front : (c :: digits).dropWhile isSpace = c :: digits := by simp [not_isSpace digit]
      have unsigned : ¬ ((c :: digits).head? = some '-' ∨ (c :: digits).head? = some '+') := by
        rintro (minus | plus)
        · cases minus
          exact absurd digit (by decide)
        · cases plus
          exact absurd digit (by decide)
      have plain := @skipBase_digits base [] c digits
        (fun d member => all d (List.mem_cons_of_mem c member)) (by simp)
      rw [List.append_nil] at plain
      unfold unsignedText
      dsimp only
      rw [front, if_neg unsigned, plain]

theorem number_digits {text : List Char} (all : ∀ c ∈ text, isDigitOf 16 c = true) :
    numberDigits 16 text = text ∧ numberRest 16 text = [] := by
  rw [numberDigits, numberRest, unsignedText_digits all]
  exact ⟨List.takeWhile_eq_self_iff.mpr all, List.dropWhile_eq_nil_iff.mpr all⟩

end

end TextStream

namespace TextParts

open TextStream (isSpace)

/-! ### Lines -/

/-- What stands behind a line: the newline and the other lines, and what comes after the text. -/
def afterLine : List (List Char) → List Char → List Char
  | [], rest => rest
  | line :: lines, rest => '\n' :: (line ++ afterLine lines rest)

theorem exists_lines (text : List Char) : ∃ line lines, text.splitOn '\n' = line :: lines ∧
    ∀ rest, text ++ rest = line ++ afterLine lines rest := by
  induction text with
  | nil => exact ⟨[], [], rfl, fun rest => rfl⟩
  | cons c text ih =>
      obtain ⟨line, lines, split, same⟩ := ih
      rw [List.splitOn_cons_eq_if_modifyHead, split]
      by_cases newline : c = '\n'
      · refine ⟨[], line :: lines, if_pos (beq_iff_eq.mpr newline), fun rest => ?_⟩
        rw [List.cons_append, same rest, newline]
        rfl
      · refine ⟨c :: line, lines, if_neg (by simpa using newline), fun rest => ?_⟩
        rw [List.cons_append, same rest]
        rfl

theorem length_lines_le (lines : List (List Char)) (rest : List Char) :
    lines.length + rest.length ≤ (afterLine lines rest).length := by
  induction lines with
  | nil => exact Nat.le_of_eq (Nat.zero_add _)
  | cons line lines ih =>
      unfold afterLine
      rw [List.length_cons, List.length_cons, List.length_append]
      omega

/-- What begins with a later line is an end of what begins with an earlier one. -/
theorem suffix_of_lines {line last : List Char} {lines after : List (List Char)}
    (suffix : last :: after <:+ line :: lines) (rest : List Char) :
    last ++ afterLine after rest <:+ line ++ afterLine lines rest := by
  induction lines generalizing line with
  | nil =>
      rcases List.suffix_cons_iff.mp suffix with same | suffix
      · obtain ⟨rfl, rfl⟩ := List.cons.inj same
        exact List.suffix_rfl
      · cases List.suffix_nil.mp suffix
  | cons next lines ih =>
      rcases List.suffix_cons_iff.mp suffix with same | suffix
      · obtain ⟨rfl, rfl⟩ := List.cons.inj same
        exact List.suffix_rfl
      · refine (ih suffix).trans ?_
        exact ⟨line ++ ['\n'], by simp [afterLine]⟩

/-! ### Words -/

/-- The parts of a text between its blanks -/
def words (text : List Char) : List (List Char) := (text.splitOnP isSpace).filter (· ≠ [])

@[simp] theorem words_nil : words [] = [] := rfl

theorem words_space {c : Char} (space : isSpace c = true) (text : List Char) : words (c :: text) = words text := by
  unfold words
  rw [List.splitOnP_cons_eq_if_modifyHead, if_pos space]
  rfl

theorem words_dropWhile (text : List Char) : words (text.dropWhile isSpace) = words text := by
  induction text with
  | nil => rfl
  | cons c text ih =>
      cases space : isSpace c with
      | true => rw [List.dropWhile_cons_of_pos space, ih, words_space space]
      | false => rw [List.dropWhile_cons_of_neg (by simp [space])]

/-- A blank ends a word. -/
theorem words_append {word text : List Char} {c : Char} (some : word ≠ [])
    (whole : ∀ d ∈ word, isSpace d = false) (space : isSpace c = true) :
    words (word ++ c :: text) = word :: words text := by
  unfold words
  rw [List.splitOnP_append_cons_of_forall_mem whole c space, List.filter_cons_of_pos (by simpa using some)]

end TextParts

end Lib
