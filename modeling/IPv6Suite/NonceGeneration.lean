import IPv6Suite.Lib.Machine
import Mathlib.Algebra.Order.Field.Rat
import Mathlib.Data.Fin.Basic
import Mathlib.Data.Nat.Cast.Order.Basic
import Mathlib.Tactic.Linarith
import Mathlib.Tactic.NormNum
import Mathlib.Tactic.Push

namespace IPv6Suite

open Lib

/-- A HoT or CoT message with the cookie that it answers and a nonce -/
inductive TestMsg where
  | hot (homeCookie : BitVec 32) (hni : BitVec 16)
  | cot (careOfCookie : BitVec 32) (coni : BitVec 16)
deriving DecidableEq

def TestMsg.nonce : TestMsg → BitVec 16
  | .hot _ hni => hni
  | .cot _ coni => coni

def nonceGenerationPeriod : ℚ := 30

def maxTokenLifetime : ℚ := 210

/-- The nonces of a correspondent node, and the time at which the timer for the next one is due.
`generated` counts the values that were taken from `rand`, and the latest was at `generatedAt`. -/
structure NonceGeneration where
  nonces : Fin 8 → BitVec 16
  noncesIndex : Fin 8
  nonceGenTmr : ℚ
  now : ℚ
  generated : Nat
  generatedAt : ℚ

/-- Time passes, or the timer fires. -/
inductive NonceEvent where
  | wait (time : ℚ)
  | nonceGenTmr

namespace NonceGeneration

variable (rand : Nat → Nat)

def create (start : ℚ) : NonceGeneration where
  nonces i := if i = 0 then BitVec.ofNat 16 (rand 0) else 0
  noncesIndex := 0
  nonceGenTmr := start + nonceGenerationPeriod
  now := start
  generated := 1
  generatedAt := start

def nonceGeneration (s : NonceGeneration) : NonceGeneration where
  nonces := Function.update s.nonces (s.noncesIndex + 1) (BitVec.ofNat 16 (rand s.generated))
  noncesIndex := s.noncesIndex + 1
  nonceGenTmr := s.now + nonceGenerationPeriod
  now := s.now
  generated := s.generated + 1
  generatedAt := s.now

def step (s : NonceGeneration) : NonceEvent → Exec NonceGeneration
  | .wait time => .ok { s with now := time }
  | .nonceGenTmr => .ok (s.nonceGeneration rand)

/-- The timer fires when it is due. -/
def Due (s : NonceGeneration) : NonceEvent → Prop
  | .wait time => s.now ≤ time ∧ time ≤ s.nonceGenTmr
  | .nonceGenTmr => s.now = s.nonceGenTmr

/-- A message is handled after the timer if that is due at the same time, because the timer was
scheduled a period before. -/
def Idle (s : NonceGeneration) : Prop := s.now < s.nonceGenTmr

end NonceGeneration

def checkNonces (nonceIndex : BitVec 16) (nonces : Fin 8 → BitVec 16) : Bool :=
  if nonceIndex = 0 then false else (List.finRange 8).any fun i => nonceIndex = nonces i

namespace NonceGeneration

variable {rand : Nat → Nat} {start : ℚ} {s t : NonceGeneration}

/-- The slots have the latest values, and the timer keeps to its period. -/
structure Periodic (rand : Nat → Nat) (start : ℚ) (s : NonceGeneration) : Prop where
  positive : 0 < s.generated
  index : s.noncesIndex.val = (s.generated - 1) % 8
  filled : ∀ (k : Nat) (i : Fin 8), k < s.generated → s.generated ≤ k + 8 → i.val = k % 8 →
    s.nonces i = BitVec.ofNat 16 (rand k)
  timer : s.nonceGenTmr = start + 30 * s.generated
  generatedAt : s.generatedAt + 30 = s.nonceGenTmr
  since : s.generatedAt ≤ s.now
  until' : s.now ≤ s.nonceGenTmr

theorem Periodic.create : (NonceGeneration.create rand start).Periodic rand start where
  positive := Nat.one_pos
  index := rfl
  filled := by
    intro k i less _ slot
    have zero : k = 0 := Nat.lt_one_iff.mp less
    subst zero
    exact if_pos (Fin.val_injective slot)
  timer := by
    change start + 30 = start + 30 * ((1 : ℕ) : ℚ)
    rw [Nat.cast_one, mul_one]
  generatedAt := rfl
  since := le_refl start
  until' := by
    change start ≤ start + 30
    linarith

theorem Periodic.step {e : NonceEvent} (s : NonceGeneration) (periodic : s.Periodic rand start)
    (due : s.Due e) (steps : s.step rand e = .ok t) : t.Periodic rand start := by
  cases e with
  | wait time =>
      cases steps
      exact ⟨periodic.positive, periodic.index, periodic.filled, periodic.timer, periodic.generatedAt,
        periodic.since.trans due.1, due.2⟩
  | nonceGenTmr =>
      cases steps
      have due : s.now = s.nonceGenTmr := due
      have positive := periodic.positive
      have next : (s.noncesIndex + 1).val = s.generated % 8 := by
        rw [Fin.val_add, periodic.index]
        change ((s.generated - 1) % 8 + 1) % 8 = _
        omega
      refine ⟨Nat.succ_pos _, next, fun k i less recent slot => ?_, ?_, rfl, le_refl _, ?_⟩
      · change Function.update s.nonces (s.noncesIndex + 1) _ i = _
        have less : k < s.generated + 1 := less
        have recent : s.generated + 1 ≤ k + 8 := recent
        by_cases latest : k = s.generated
        · have here : i = s.noncesIndex + 1 := Fin.val_injective (by omega)
          rw [here, latest, Function.update_self]
        · have other : i ≠ s.noncesIndex + 1 := by
            intro same
            rw [same] at slot
            omega
          rw [Function.update_of_ne other]
          exact periodic.filled k i (by omega) (by omega) slot
      · change s.now + 30 = start + 30 * ((s.generated + 1 : ℕ) : ℚ)
        rw [due, periodic.timer, Nat.cast_succ, mul_add, mul_one, add_assoc]
      · change s.now ≤ s.now + 30
        linarith

theorem Periodic.run {es : List NonceEvent} (periodic : s.Periodic rand start)
    (runs : Runs (NonceGeneration.step rand) Due s es t) : t.Periodic rand start :=
  runs.invariant (Periodic rand start) (fun s _ _ => Periodic.step s) periodic

end NonceGeneration

end IPv6Suite
