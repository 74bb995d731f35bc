import IPv6Suite.AccessCategories
import IPv6Suite.Lib.Contest

namespace IPv6Suite

open Lib

namespace WEQoSQueue

/-- When the categories with a ready frame get access: an instant during contention, else the time it takes -/
def accessInstant (q : WEQoSQueue) (i : AppType) : Option SimTime :=
  (q.acQ i).readyFrame.map fun _ =>
    if q.contentionStart then (q.acQ i).timeToSend + (q.acQ i).contentionStartTime else (q.acQ i).timeToSend

/-- Whether an instant is found before the one that is compared with -/
def Sooner (q : WEQoSQueue) (x y : SimTime) : Prop := if q.contentionStart then x < y else x ≤ y

instance (q : WEQoSQueue) : DecidableRel q.Sooner := fun x y =>
  inferInstanceAs (Decidable (if q.contentionStart then x < y else x ≤ y))

variable {q : WEQoSQueue} {AC i : AppType} {x y : SimTime}

theorem Sooner.le (sooner : q.Sooner x y) : x ≤ y := by
  unfold Sooner at sooner
  split at sooner
  · exact sooner.le
  · exact sooner

theorem le_of_not_sooner (later : ¬ q.Sooner x y) : y ≤ x := by
  unfold Sooner at later
  split at later
  · exact not_lt.mp later
  · exact (not_le.mp later).le

theorem sooner_iff (start : q.contentionStart = true) : q.Sooner x y ↔ x < y := by
  simp [Sooner, start]

theorem sooner_iff' (start : q.contentionStart = false) : q.Sooner x y ↔ x ≤ y := by
  simp [Sooner, start]

theorem soonestToSendQ_eq (timed : ∀ i, (q.acQ i).readyFrame.isSome = true → (q.acQ i).timeToSend ≠ 0) :
    q.soonestToSendQ = .ok (Contest.soonest q.Sooner q.accessInstant 99999 [0, 1, 2, 3]).1 := by
  unfold soonestToSendQ Contest.soonest
  rw [Exec.foldlM_ok (g := Contest.soonestStep q.Sooner q.accessInstant)]
  · rfl
  · intro best i _
    dsimp only
    unfold Contest.soonestStep accessInstant
    cases ready : (q.acQ i).readyFrame with
    | none => simp
    | some frame =>
        simp only [Option.isSome_some, if_true, Option.map_some]
        rw [assert_pos (timed i (by simp [ready])), ok_bind]
        cases start : q.contentionStart with
        | true =>
            simp only [if_true, sooner_iff start]
            split <;> rfl
        | false =>
            simp only [Bool.false_eq_true, if_false, sooner_iff' start]
            split <;> rfl

theorem collidesWith_eq (first : q.accessInstant AC = some x) (other : q.accessInstant i = some y) (le : x ≤ y) :
    q.collidesWith AC i = .ok (decide (y - x < precError)) := by
  have diff : (if q.contentionStart then ((q.acQ i).timeToSend + (q.acQ i).contentionStartTime) -
      ((q.acQ AC).timeToSend + (q.acQ AC).contentionStartTime)
    else (q.acQ i).timeToSend - (q.acQ AC).timeToSend) = y - x := by
    unfold accessInstant at first other
    rw [Option.map_eq_some_iff] at first other
    obtain ⟨_, _, rfl⟩ := first
    obtain ⟨_, _, rfl⟩ := other
    split <;> rfl
  have positive : 0 ≤ y - x := sub_nonneg.mpr le
  unfold collidesWith
  simp only [diff, abs_of_nonneg positive]
  by_cases close : y - x < precError
  · simp [close, Exec.assert]
  · have apart : y - x ≠ 0 := by
      have := precError_pos
      intro same
      rw [same] at close
      exact close this
    rw [if_neg close, assert_pos positive, ok_bind]
    simp [close, apart]

/-- A category with an instant close to that of `AC` -/
def Ties (q : WEQoSQueue) (AC i : AppType) : Prop :=
  ∃ x ∈ q.accessInstant AC, ∃ y ∈ q.accessInstant i, y - x < precError

instance (q : WEQoSQueue) (AC : AppType) : DecidablePred (q.Ties AC) := fun i =>
  match first : q.accessInstant AC, other : q.accessInstant i with
  | some x, some y => decidable_of_iff (y - x < precError) (by simp [Ties, first, other])
  | none, _ => isFalse (by simp [Ties, first])
  | some _, none => isFalse (by simp [Ties, other])

theorem isSome_accessInstant : (q.accessInstant i).isSome = (q.acQ i).readyFrame.isSome := by
  simp [accessInstant]

theorem collides_round (earliest : Contest.Earliest q.accessInstant AC) {β : Type} (tie free : Exec β) :
    (if (q.acQ i).readyFrame.isSome then do
      if ← q.collidesWith AC i then tie else free
    else free) = if q.Ties AC i then tie else free := by
  obtain ⟨x, first, least⟩ := earliest
  cases other : q.accessInstant i with
  | none =>
      have absent : (q.acQ i).readyFrame.isSome = false := by rw [← isSome_accessInstant, other]; rfl
      simp [absent, Ties, other]
  | some y =>
      have present : (q.acQ i).readyFrame.isSome = true := by rw [← isSome_accessInstant, other]; rfl
      have ties : q.Ties AC i ↔ y - x < precError := by simp [Ties, first, other]
      rw [if_pos present, collidesWith_eq first other (least i y other), ok_bind]
      by_cases close : y - x < precError
      · simp [close, ties]
      · simp [close, ties]

theorem resolveCollisionsWithQ_eq (earliest : Contest.Earliest q.accessInstant AC) :
    q.resolveCollisionsWithQ (some AC) =
      let r := Contest.resolve (q.Ties AC) ([3, 2, 1, 0].filter (AC < ·)) ([0, 1, 2, 3].filter (· < AC)) AC
      .ok (some r.1, r.2) := by
  have ready : (q.acQ AC).readyFrame.isSome = true := by
    rw [← isSome_accessInstant]
    exact earliest.isSome
  unfold resolveCollisionsWithQ Contest.resolve
  simp only [collides_round earliest]
  rw [assert_pos ready, ok_bind, Exec.foldlM_ok (g := Contest.resolveStep (q.Ties AC)), ok_bind,
    Exec.foldlM_ok (g := fun kept i => if decide (q.Ties AC i) then kept ++ [i] else kept), ok_bind,
    Exec.foldl_filter_append]
  · rfl
  · intro kept i _
    by_cases ties : q.Ties AC i <;> simp [ties]
  · intro r i _
    unfold Contest.resolveStep
    by_cases ties : q.Ties AC i
    · by_cases less : r.1 < i <;> simp [ties, less]
    · simp [ties]

theorem ties_iff (earliest : Contest.Earliest q.accessInstant AC) :
    q.Ties AC i ↔ Contest.Near precError q.accessInstant i := by
  obtain ⟨x, first, least⟩ := earliest
  cases other : q.accessInstant i with
  | none =>
      constructor
      · simp [Ties, other]
      · intro near
        have := near.isSome
        simp [other] at this
  | some y =>
      rw [Contest.near_iff least first other]
      simp [Ties, first, other]

theorem nodup_others (AC : AppType) :
    (AC :: ([3, 2, 1, 0].filter (AC < ·) ++ [0, 1, 2, 3].filter (· < AC))).Nodup := by
  fin_cases AC <;> decide

theorem mem_others (AC j : AppType) : j ∈ AC :: ([3, 2, 1, 0].filter (AC < ·) ++ [0, 1, 2, 3].filter (· < AC)) := by
  fin_cases AC <;> fin_cases j <;> decide

/-- The category to be served and the others that tie with it are chosen as they should, if some instant is in
time for the search, or none has a ready frame and nothing is left to be retried. -/
theorem serve_spec (timed : ∀ i, (q.acQ i).readyFrame.isSome = true → 0 < (q.acQ i).timeToSend)
    (inTime : (∃ i, ∃ x ∈ q.accessInstant i, q.Sooner x 99999) ∨
      (∀ i, q.accessInstant i = none) ∧ q.acQToRetry = []) :
    ∃ servedQ acQToRetry, q.serve = .ok { q with servedQ, acQToRetry } ∧
      Contest.Decided (Contest.Near precError q.accessInstant) servedQ acQToRetry := by
  have all (i : AppType) : i ∈ [0, 1, 2, 3] := by fin_cases i <;> decide
  unfold serve
  rw [soonestToSendQ_eq fun i ready => (timed i ready).ne', ok_bind]
  cases found : (Contest.soonest q.Sooner q.accessInstant 99999 [0, 1, 2, 3]).1 with
  | none =>
      rw [Contest.soonest_eq_none] at found
      rcases inTime with ⟨i, x, entrant, early⟩ | ⟨nobody, empty⟩
      · exact absurd early (found i (all i) x entrant)
      · exact ⟨none, [], by simp [resolveCollisionsWithQ, empty], Contest.decided_nobody nobody⟩
  | some AC =>
      have earliest := Contest.earliest_soonest q.accessInstant Sooner.le le_of_not_sooner all found
      have tied := fun j => ties_iff (i := j) earliest
      have decided : Contest.Decided (q.Ties AC) _ _ :=
        Contest.decided_resolve ((tied AC).mpr (earliest.near precError_pos)) (nodup_others AC) (mem_others AC)
          fun j => by simp
      rw [resolveCollisionsWithQ_eq earliest]
      refine ⟨_, _, rfl, ?_⟩
      rw [← funext fun j => propext (tied j)]
      exact decided

end WEQoSQueue

end IPv6Suite
