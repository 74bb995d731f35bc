import IPv6Suite.WEQoSQueue
import Mathlib.Tactic.FieldSimp
import Mathlib.Tactic.FinCases
import Mathlib.Tactic.NormNum
import Mathlib.Tactic.Positivity

namespace IPv6Suite

open Lib

theorem slotTime_pos : 0 < slotTime := by norm_num [slotTime]

theorem precError_pos : 0 < precError := by norm_num [precError]

theorem precError_le_slotTime : precError ≤ slotTime := by norm_num [precError, slotTime]

theorem uint_eq {x : Int} (positive : 0 ≤ x) (fits : x < 2 ^ 32) : uint x = x.toNat := by
  rw [uint, Int.emod_eq_of_lt positive fits]

namespace AppType

/-- The slots of an `AIFS` -/
def aifsSlots : AppType → Nat
  | 0 => 7
  | 1 => 7
  | 2 => 4
  | 3 => 2

theorem AIFS_eq (AC : AppType) : AC.AIFS = SIFS + AC.aifsSlots * slotTime := by
  fin_cases AC <;> norm_num [AIFS, aifsSlots, SIFS, slotTime]

theorem AIFS_pos (AC : AppType) : 0 < AC.AIFS := by
  rw [AIFS_eq]
  have := slotTime_pos
  have sifs : 0 < SIFS := by norm_num [SIFS]
  positivity

/-- The sizes that a contention window can have -/
def windows : AppType → List Nat
  | 0 => [63, 127, 255, 511, 1023]
  | 1 => [63, 127, 255, 511, 1023]
  | 2 => [31, 63, 127]
  | 3 => [15, 31, 63]

theorem CWmin_mem (AC : AppType) : AC.CWmin ∈ AC.windows := by
  fin_cases AC <;> decide

theorem windows_bounds (AC : AppType) : ∀ w ∈ AC.windows, AC.CWmin ≤ w ∧ w ≤ AC.CWmax ∧ w ≤ 1023 := by
  fin_cases AC <;> decide

theorem windows_double (AC : AppType) : ∀ w ∈ AC.windows, (if w < AC.CWmax then w * 2 + 1 else w) ∈ AC.windows := by
  fin_cases AC <;> decide

end AppType

namespace AccessCategoryQ

/-- The frames of a category, whatever the retry flag of the first -/
def held (a : AccessCategoryQ) : List WirelessEtherFrame :=
  (a.readyFrame.toList ++ a.queue).map fun frame => { frame with retry := true }

/-- What holds of a category between the operations -/
structure Fits (a : AccessCategoryQ) (AC : AppType) (now : SimTime) : Prop where
  queued : a.readyFrame = none → a.queue = []
  window : a.CW ∈ AC.windows
  slots : a.readyFrame.isSome = true → a.backoffSlots ≤ 1023
  timed : a.readyFrame.isSome = true → a.timeToSend = a.backoffSlots * slotTime + AC.AIFS
  started : a.readyFrame.isSome = true → a.contentionStartTime ≤ now

variable {a : AccessCategoryQ} {AC : AppType} {now time : SimTime}

theorem Fits.later {then' : SimTime} (fits : a.Fits AC now) (later : now ≤ then') : a.Fits AC then' :=
  { fits with started := fun ready => (fits.started ready).trans later }

theorem timeToSend_pos (fits : a.Fits AC now) (ready : a.readyFrame.isSome = true) : 0 < a.timeToSend := by
  rw [fits.timed ready]
  have := slotTime_pos
  have := AC.AIFS_pos
  positivity

theorem calculateTimeToSend_eq (window : a.CW ∈ AC.windows) (rand : Nat) :
    a.calculateTimeToSend AC rand = .ok { a with
      backoffSlots := rand % (a.CW + 1)
      timeToSend := (rand % (a.CW + 1) : Nat) * slotTime + AC.AIFS } := by
  obtain ⟨least, most, _⟩ := AC.windows_bounds a.CW window
  rw [calculateTimeToSend, assert_pos ⟨least, most⟩]
  rfl

theorem prepareNextFrame_cons {frame : WirelessEtherFrame} {queue : List WirelessEtherFrame}
    (waiting : a.queue = frame :: queue) (time : SimTime) (rand : Nat) :
    a.prepareNextFrame AC time rand = .ok {
      queue
      readyFrame := some frame
      contentionStartTime := time
      timeToSend := (rand % (AC.CWmin + 1) : Nat) * slotTime + AC.AIFS
      CW := AC.CWmin
      backoffSlots := rand % (AC.CWmin + 1)
      retry := 0 } := by
  unfold prepareNextFrame
  simp only [resetParams, waiting]
  rw [calculateTimeToSend_eq AC.CWmin_mem]
  rfl

theorem prepareNextFrame_spec (a : AccessCategoryQ) (AC : AppType) (time : SimTime) (rand : Nat) :
    ∃ a', a.prepareNextFrame AC time rand = .ok a' ∧ a'.Fits AC time ∧
      a'.held = a.queue.map fun frame => { frame with retry := true } := by
  cases waiting : a.queue with
  | nil =>
      simp only [prepareNextFrame, resetParams, waiting]
      refine ⟨_, rfl, ⟨fun _ => rfl, AC.CWmin_mem, ?_, ?_, ?_⟩, rfl⟩ <;> simp
  | cons frame queue =>
      have bounds := AC.windows_bounds AC.CWmin AC.CWmin_mem
      have drawn := Nat.mod_lt rand (show 0 < AC.CWmin + 1 by omega)
      rw [prepareNextFrame_cons waiting]
      refine ⟨_, rfl, ⟨nofun, AC.CWmin_mem, ?_, fun _ => rfl, fun _ => le_refl _⟩, rfl⟩
      intro _
      dsimp only
      omega

theorem initiateRetry_spec {frame : WirelessEtherFrame} (window : a.CW ∈ AC.windows) (ready : a.readyFrame = some frame)
    (time : SimTime) (rand : Nat) : ∃ status a', a.initiateRetry AC time rand = .ok (status, a') ∧ a'.Fits AC time ∧
      (a'.held = a.held ∨ (AC.retryLimit ≤ a.retry ∨ frame.address1 = MACAddress6.broadcast) ∧
        a'.held = a.held.tail) := by
  unfold initiateRetry
  rw [ready]
  dsimp only
  by_cases gone : AC.retryLimit < a.retry + 1 ∨ frame.address1 = MACAddress6.broadcast
  · obtain ⟨a', done, fits, frames⟩ := prepareNextFrame_spec { a with retry := a.retry + 1 } AC time rand
    rw [if_pos gone, ready.symm, done]
    refine ⟨false, a', rfl, fits, Or.inr ⟨gone.imp_left Nat.le_of_lt_succ, ?_⟩⟩
    rw [frames]
    simp [held, ready]
  · rw [if_neg gone]
    have window' := AC.windows_double a.CW window
    rw [calculateTimeToSend_eq window']
    refine ⟨true, _, rfl, ⟨nofun, window', ?_, fun _ => rfl, fun _ => le_refl _⟩, Or.inl ?_⟩
    · intro _
      have bounds := AC.windows_bounds _ window'
      have := Nat.mod_lt rand (show 0 < (if a.CW < AC.CWmax then a.CW * 2 + 1 else a.CW) + 1 by omega)
      dsimp only
      omega
    · simp [held, ready]

theorem deductElapsed_spec (fits : a.Fits AC now) (ready : a.readyFrame.isSome = true)
    (inTime : time - a.contentionStartTime < a.timeToSend + precError) :
    ∃ m : Nat, a.deductElapsed AC time = .ok { a with backoffSlots := m, timeToSend := m * slotTime + AC.AIFS } ∧
      m ≤ 1023 := by
  have slots := fits.slots ready
  have timed := fits.timed ready
  have step := slotTime_pos
  have precise : 2 * precError < slotTime := by norm_num [precError, slotTime]
  have error := precError_pos
  unfold deductElapsed
  rw [assert_pos (timeToSend_pos fits ready), ok_bind]
  dsimp only
  split
  · rename_i elapsed
    obtain ⟨n, floor⟩ : ∃ n, ⌊(time - a.contentionStartTime - AC.AIFS) / slotTime⌋ = n := ⟨_, rfl⟩
    have below : (n : ℚ) * slotTime ≤ time - a.contentionStartTime - AC.AIFS := by
      rw [← floor, ← le_div_iff₀ step]
      exact Int.floor_le _
    have above : time - a.contentionStartTime - AC.AIFS < ((n : ℚ) + 1) * slotTime := by
      rw [← floor, ← div_lt_iff₀ step]
      exact Int.lt_floor_add_one _
    have positive : 0 ≤ n := by
      rw [← floor, Int.floor_nonneg]
      exact div_nonneg (by linarith) step.le
    -- Less than a whole slot is missing behind the last one.
    have few : n ≤ a.backoffSlots := by
      have less : (n : ℚ) * slotTime < (a.backoffSlots + 1 : ℚ) * slotTime := by
        rw [timed] at inTime
        linarith
      have := lt_of_mul_lt_mul_right less step.le
      have : n < (a.backoffSlots : Int) + 1 := by exact_mod_cast this
      omega
    rw [floor, assert_pos (by linarith), ok_bind]
    have left : uint (a.backoffSlots - n) = a.backoffSlots - n.toNat := by
      rw [uint_eq (by omega) (by omega)]
      omega
    have rest : ((a.backoffSlots - n.toNat : Nat) : ℚ) = a.backoffSlots - n := by
      rw [Nat.cast_sub (by omega)]
      congr 1
      exact_mod_cast Int.toNat_of_nonneg positive
    by_cases close : slotTime - (time - a.contentionStartTime - AC.AIFS - n * slotTime) < precError
    · rw [if_pos close]
      have more : n < a.backoffSlots := by
        have less : (n : ℚ) * slotTime < (a.backoffSlots : ℚ) * slotTime := by
          rw [timed] at inTime
          linarith
        exact_mod_cast lt_of_mul_lt_mul_right less step.le
      have one : uint ((uint (a.backoffSlots - n) : Int) - 1) = a.backoffSlots - n.toNat - 1 := by
        rw [left, uint_eq (by omega) (by omega)]
        omega
      refine ⟨a.backoffSlots - n.toNat - 1, ?_, by omega⟩
      rw [one, timed, Nat.cast_sub (by omega), rest]
      simp only [pure_eq_ok, Except.ok.injEq, AccessCategoryQ.mk.injEq, true_and, and_true]
      push_cast
      ring
    · rw [if_neg close]
      refine ⟨a.backoffSlots - n.toNat, ?_, by omega⟩
      rw [left, timed, rest]
      simp only [pure_eq_ok, Except.ok.injEq, AccessCategoryQ.mk.injEq, true_and, and_true]
      ring
  · exact ⟨a.backoffSlots, by rw [← timed]; rfl, slots⟩

end AccessCategoryQ

end IPv6Suite
