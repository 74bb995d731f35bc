import Mathlib.Data.List.Basic

namespace Lib

/-- The numbers from `start` up to `stop`, with those that were passed over: they are recorded or not. -/
structure Tally where
  start : Nat
  stop : Nat
  recorded : List Nat
  unrecorded : List Nat
deriving DecidableEq

namespace Tally

def empty : Tally := ⟨0, 0, [], []⟩

def width (t : Tally) : Nat := t.stop - t.start

/-- A number from `stop` on is received. -/
def jump (t : Tally) (records : Bool) (n : Nat) : Tally :=
  let skipped := List.range' t.stop (n - t.stop)
  { t with
    stop := n + 1
    recorded := t.recorded ++ if records then skipped else []
    unrecorded := t.unrecorded ++ if records then [] else skipped }

/-- A number that was passed over is received. -/
def fill (t : Tally) (n : Nat) : Tally :=
  if n ∈ t.recorded then { t with recorded := t.recorded.erase n }
  else { t with unrecorded := t.unrecorded.erase n }

def restart (t : Tally) : Tally := ⟨t.stop, t.stop, [], []⟩

/-- `count` of the numbers are neither recorded nor unrecorded, and those were received. -/
structure Accounts (t : Tally) (received : List Nat) (count : Nat) : Prop where
  order : t.start ≤ t.stop
  total : count + t.recorded.length + t.unrecorded.length = t.width
  skipped : ∀ n, t.start ≤ n → n < t.stop → n ∈ received ∨ n ∈ t.recorded ∨ n ∈ t.unrecorded

variable {t : Tally} {received : List Nat} {count n : Nat} {records : Bool}

theorem accounts_empty : empty.Accounts received 0 where
  order := Nat.le_refl 0
  total := rfl
  skipped n _ below := absurd below (Nat.not_lt_zero n)

theorem Accounts.weaken (accounts : t.Accounts received count) (n : Nat) : t.Accounts (n :: received) count where
  order := accounts.order
  total := accounts.total
  skipped m from_start below := (accounts.skipped m from_start below).imp_left (List.mem_cons_of_mem n)

theorem length_jump (t : Tally) (records : Bool) (n : Nat) :
    (t.jump records n).recorded.length + (t.jump records n).unrecorded.length =
      t.recorded.length + t.unrecorded.length + (n - t.stop) := by
  cases records <;> simp [jump] <;> omega

theorem mem_jump {m : Nat} (beyond : t.stop ≤ m) (below : m < n) :
    m ∈ (t.jump records n).recorded ∨ m ∈ (t.jump records n).unrecorded := by
  have skipped : m ∈ List.range' t.stop (n - t.stop) := List.mem_range'_1.mpr ⟨beyond, by omega⟩
  cases records with
  | true => exact .inl (List.mem_append_right _ skipped)
  | false => exact .inr (List.mem_append_right _ skipped)

theorem accounts_jump (accounts : t.Accounts received count) (beyond : t.stop ≤ n) :
    (t.jump records n).Accounts (n :: received) (count + 1) where
  order := Nat.le_succ_of_le (Nat.le_trans accounts.order beyond)
  total := by
    have lengths := length_jump t records n
    have total := accounts.total
    have order := accounts.order
    change count + 1 + _ + _ = n + 1 - t.start
    unfold width at total
    omega
  skipped m from_start below := by
    by_cases before : m < t.stop
    · rcases accounts.skipped m from_start before with known | recorded | unrecorded
      · exact .inl (List.mem_cons_of_mem n known)
      · exact .inr (.inl (List.mem_append_left _ recorded))
      · exact .inr (.inr (List.mem_append_left _ unrecorded))
    · rcases Nat.lt_succ_iff_lt_or_eq.mp below with between | rfl
      · exact .inr (mem_jump (Nat.le_of_not_lt before) between)
      · exact .inl List.mem_cons_self

theorem accounts_fill (accounts : t.Accounts received count) (fresh : n ∉ received) (from_start : t.start ≤ n)
    (below : n < t.stop) : (t.fill n).Accounts (n :: received) (count + 1) := by
  have total := accounts.total
  have kept {l : List Nat} {m : Nat} (mem : m ∈ l) : m ∈ n :: received ∨ m ∈ l.erase n := by
    by_cases same : m = n
    · exact .inl (same ▸ List.mem_cons_self)
    · exact .inr ((List.mem_erase_of_ne same).mpr mem)
  unfold fill
  by_cases recorded : n ∈ t.recorded
  · have length := List.length_erase_of_mem recorded
    have some := List.length_pos_of_mem recorded
    rw [if_pos recorded]
    refine ⟨accounts.order, ?_, fun m first last => ?_⟩
    · change count + 1 + (t.recorded.erase n).length + t.unrecorded.length = t.width
      omega
    · rcases accounts.skipped m first last with known | inside | unrecorded
      · exact .inl (List.mem_cons_of_mem n known)
      · exact (kept inside).imp_right .inl
      · exact .inr (.inr unrecorded)
  · have unrecorded := ((accounts.skipped n from_start below).resolve_left fresh).resolve_left recorded
    have length := List.length_erase_of_mem unrecorded
    have some := List.length_pos_of_mem unrecorded
    rw [if_neg recorded]
    refine ⟨accounts.order, ?_, fun m first last => ?_⟩
    · change count + 1 + t.recorded.length + (t.unrecorded.erase n).length = t.width
      omega
    · rcases accounts.skipped m first last with known | inside | unrecorded
      · exact .inl (List.mem_cons_of_mem n known)
      · exact .inr (.inl inside)
      · exact (kept unrecorded).imp_right .inr

theorem accounts_restart (t : Tally) (received : List Nat) : t.restart.Accounts received 0 where
  order := Nat.le_refl _
  total := (Nat.sub_self t.stop).symm
  skipped _ from_start below := absurd below (Nat.not_lt.mpr from_start)

/-- Everything is accounted for when nothing was passed over without a record. -/
theorem Accounts.width_eq_iff (accounts : t.Accounts received count) :
    count + t.recorded.length = t.width ↔ t.unrecorded = [] := by
  have total := accounts.total
  rw [← List.length_eq_zero_iff]
  omega

end Tally

end Lib
