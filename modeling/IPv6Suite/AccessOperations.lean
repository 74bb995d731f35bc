import IPv6Suite.AccessContest

namespace IPv6Suite

open Lib

namespace AccessCategoryQ

variable {a : AccessCategoryQ} {AC : AppType} {now : SimTime}

theorem timeToSend_le (fits : a.Fits AC now) (ready : a.readyFrame.isSome = true) : a.timeToSend ≤ 99999 := by
  have slots : (a.backoffSlots : ℚ) ≤ 1023 := by exact_mod_cast fits.slots ready
  have times := mul_le_mul_of_nonneg_right slots slotTime_pos.le
  have small : 1023 * slotTime + AC.AIFS ≤ 99999 := by
    fin_cases AC <;> norm_num [AppType.AIFS, slotTime, SIFS]
  rw [fits.timed ready]
  linarith

theorem held_congr {b : AccessCategoryQ} (ready : a.readyFrame = b.readyFrame) (queue : a.queue = b.queue) :
    a.held = b.held := by
  rw [held, held, ready, queue]

theorem held_tail (fits : a.Fits AC now) : a.held.tail = a.queue.map fun frame => { frame with retry := true } := by
  cases ready : a.readyFrame with
  | none => simp [held, ready, fits.queued ready]
  | some frame => simp [held, ready]

end AccessCategoryQ

namespace WEQoSQueue

variable {q : WEQoSQueue} {AC : AppType} {now time : SimTime} {rand : AppType → Nat}

/-! ### Outside of the contention -/

theorem accessInstant_of_rest (rest : q.contentionStart = false) (i : AppType) :
    q.accessInstant i = (q.acQ i).readyFrame.map fun _ => (q.acQ i).timeToSend := by
  simp [accessInstant, rest]

theorem apart_of_rest (fit : ∀ i, (q.acQ i).Fits i now) (rest : q.contentionStart = false) :
    Contest.Apart precError q.accessInstant := by
  apply Contest.apart_of_steps precError_le_slotTime _ slotTime_pos
  · exact SIFS
  · intro i x entrant
    rw [accessInstant_of_rest rest, Option.map_eq_some_iff] at entrant
    obtain ⟨frame, ready, rfl⟩ := entrant
    refine ⟨(q.acQ i).backoffSlots + i.aifsSlots, ?_⟩
    rw [(fit i).timed (by simp [ready]), AppType.AIFS_eq]
    push_cast
    ring

theorem serve_of_rest (fit : ∀ i, (q.acQ i).Fits i now) (rest : q.contentionStart = false)
    (kept : ∀ j ∈ q.acQToRetry, (q.acQ j).readyFrame.isSome = true) :
    ∃ servedQ acQToRetry, q.serve = .ok { q with servedQ, acQToRetry } ∧
      Contest.Decided (Contest.Near precError q.accessInstant) servedQ acQToRetry := by
  apply serve_spec fun i ready => AccessCategoryQ.timeToSend_pos (fit i) ready
  by_cases nobody : ∀ i, q.accessInstant i = none
  · right
    refine ⟨nobody, List.eq_nil_iff_forall_not_mem.mpr ?_⟩
    intro j member
    have ready := kept j member
    rw [← isSome_accessInstant, nobody j] at ready
    simp at ready
  · left
    obtain ⟨i, entrant⟩ := not_forall.mp nobody
    have ready : (q.acQ i).readyFrame.isSome = true := by
      rw [← isSome_accessInstant]
      exact Option.isSome_iff_ne_none.mpr entrant
    refine ⟨i, (q.acQ i).timeToSend, ?_, ?_⟩
    · rw [accessInstant_of_rest rest]
      obtain ⟨frame, same⟩ := Option.isSome_iff_exists.mp ready
      simp [same]
    · rw [sooner_iff' rest]
      exact AccessCategoryQ.timeToSend_le (fit i) ready

/-! ### The operations on single categories -/

/-- Each of the categories is retried once. -/
theorem retry_loop {new : AppType → AccessCategoryQ} {l : List AppType} (nodup : l.Nodup)
    (each : ∀ i ∈ l, ∃ status, (q.acQ i).initiateRetry i time (rand i) = .ok (status, new i)) :
    l.foldlM (fun q AC => (·.2) <$> initiateRetryForQ q time rand AC) q =
      .ok { q with acQ := fun i => if i ∈ l then new i else q.acQ i } := by
  induction l generalizing q with
  | nil => simp
  | cons head rest ih =>
      obtain ⟨fresh, nodup⟩ := List.nodup_cons.mp nodup
      obtain ⟨status, first⟩ := each head List.mem_cons_self
      have step : (·.2) <$> q.initiateRetryForQ time rand head =
          .ok { q with acQ := Function.update q.acQ head (new head) } := by
        rw [initiateRetryForQ, first]
        rfl
      rw [List.foldlM_cons, step, ok_bind, ih nodup]
      · congr 2
        funext i
        by_cases same : i = head
        · subst same
          simp [fresh]
        · simp [same]
      · intro i member
        have other : i ≠ head := fun same => fresh (same ▸ member)
        dsimp only
        rw [Function.update_of_ne other]
        exact each i (List.mem_cons_of_mem _ member)

theorem retryCollided_spec (rand : AppType → Nat) (fit : ∀ i, (q.acQ i).Fits i now) (later : now ≤ time) (nodup : q.acQToRetry.Nodup)
    (ready : ∀ i ∈ q.acQToRetry, (q.acQ i).readyFrame.isSome = true) :
    ∃ acQ, q.retryCollided time rand = .ok { q with acQToRetry := [], acQ } ∧ (∀ i, (acQ i).Fits i time) ∧
      (∀ i, i ∉ q.acQToRetry → acQ i = q.acQ i) ∧
      ∀ i ∈ q.acQToRetry, (acQ i).held = (q.acQ i).held ∨
        (i.retryLimit ≤ (q.acQ i).retry ∨
          ∃ frame ∈ (q.acQ i).readyFrame, frame.address1 = MACAddress6.broadcast) ∧
        (acQ i).held = (q.acQ i).held.tail := by
  have each (i : AppType) : ∃ a', i ∈ q.acQToRetry → (∃ status, (q.acQ i).initiateRetry i time (rand i) =
      .ok (status, a')) ∧ a'.Fits i time ∧ (a'.held = (q.acQ i).held ∨ (i.retryLimit ≤ (q.acQ i).retry ∨
          ∃ frame ∈ (q.acQ i).readyFrame, frame.address1 = MACAddress6.broadcast) ∧
        a'.held = (q.acQ i).held.tail) := by
    by_cases member : i ∈ q.acQToRetry
    · obtain ⟨frame, same⟩ := Option.isSome_iff_exists.mp (ready i member)
      obtain ⟨status, a', retried, fits, frames⟩ :=
        AccessCategoryQ.initiateRetry_spec (fit i).window same time (rand i)
      refine ⟨a', fun _ => ⟨⟨status, retried⟩, fits, frames.imp_right fun gone => ⟨gone.1.imp_right ?_, gone.2⟩⟩⟩
      intro broadcast
      exact ⟨frame, same, broadcast⟩
    · exact ⟨q.acQ i, fun listed => absurd listed member⟩
  choose new retried using each
  refine ⟨fun i => if i ∈ q.acQToRetry then new i else q.acQ i, ?_, ?_, ?_, ?_⟩
  · exact retry_loop (q := { q with acQToRetry := [] }) nodup fun i member => (retried i member).1
  · intro i
    by_cases member : i ∈ q.acQToRetry
    · simpa [member] using (retried i member).2.1
    · simpa [member] using (fit i).later later
  · intro i other
    simp [other]
  · intro i member
    simpa [member] using (retried i member).2.2

/-- Nothing but the back-off of the categories that are not spared is changed. -/
theorem deductElapsed_spec (fit : ∀ i, (q.acQ i).Fits i now) (later : now ≤ time) (spared : AppType → Bool)
    (inTime : ∀ i, (q.acQ i).readyFrame.isSome = true →
      time - (q.acQ i).contentionStartTime < (q.acQ i).timeToSend + precError) :
    ∃ acQ, q.deductElapsed spared time = .ok acQ ∧ (∀ i, (acQ i).Fits i time) ∧
      ∀ i, (acQ i).readyFrame = (q.acQ i).readyFrame ∧ (acQ i).queue = (q.acQ i).queue ∧
        (acQ i).retry = (q.acQ i).retry := by
  have each (i : AppType) : ∃ a', (if !spared i && (q.acQ i).readyFrame.isSome then (q.acQ i).deductElapsed i time
      else .ok (q.acQ i)) = .ok a' ∧ a'.Fits i time ∧ a'.readyFrame = (q.acQ i).readyFrame ∧
        a'.queue = (q.acQ i).queue ∧ a'.retry = (q.acQ i).retry := by
    have fits := (fit i).later later
    by_cases takesPart : (!spared i && (q.acQ i).readyFrame.isSome) = true
    · have ready := (Bool.and_eq_true_iff.mp takesPart).2
      obtain ⟨m, deducted, few⟩ := AccessCategoryQ.deductElapsed_spec (fit i) ready (inTime i ready)
      rw [if_pos takesPart, deducted]
      exact ⟨_, rfl, { fits with slots := fun _ => few, timed := fun _ => rfl }, rfl, rfl, rfl⟩
    · rw [if_neg takesPart]
      exact ⟨_, rfl, fits, rfl, rfl, rfl⟩
  choose new deducted using each
  have all (i : AppType) : i ∈ [0, 1, 2, 3] := by fin_cases i <;> decide
  refine ⟨new, ?_, fun i => (deducted i).2.1, fun i => (deducted i).2.2⟩
  unfold deductElapsed
  rw [Exec.foldlM_update (by decide)]
  · congr 1
    funext i
    rw [if_pos (all i)]
  · intro acQ i _ same
    have round := (deducted i).1
    rw [← same] at round
    by_cases takesPart : (!spared i && (acQ i).readyFrame.isSome) = true
    · rw [if_pos takesPart] at round ⊢
      rw [round]
      rfl
    · rw [if_neg takesPart] at round ⊢
      rw [round]
      rfl

/-! ### The next frame of a category -/

theorem rescheduleBackoff_of_rest (rest : q.contentionStart = false) : q.rescheduleBackoff = .ok q := by
  unfold rescheduleBackoff
  cases q.servedQ with
  | none => rfl
  | some AC => simp [rest]

theorem rescheduleBackoff_contending (start : q.contentionStart = true) (served : q.servedQ = some AC)
    (scheduled : q.backoffTimer.isSome = true) : q.rescheduleBackoff =
      .ok { q with backoffTimer := some ((q.acQ AC).contentionStartTime + (q.acQ AC).timeToSend) } := by
  unfold rescheduleBackoff
  rw [served]
  simp only [start, if_true]
  rw [assert_pos scheduled]
  rfl

theorem prepareNextFrameForQ_spec (rand : AppType → Nat) (fit : ∀ i, i ≠ AC → (q.acQ i).Fits i now)
    (later : now ≤ time) :
    ∃ acQ, q.prepareNextFrameForQ time rand AC = .ok { q with acQ } ∧ (∀ i, (acQ i).Fits i time) ∧
      (∀ i, i ≠ AC → acQ i = q.acQ i) ∧
      (acQ AC).held = (q.acQ AC).queue.map fun frame => { frame with retry := true } := by
  obtain ⟨a', prepared, fits, held⟩ := AccessCategoryQ.prepareNextFrame_spec (q.acQ AC) AC time (rand AC)
  refine ⟨Function.update q.acQ AC a', ?_, ?_, fun i other => Function.update_of_ne other _ _, ?_⟩
  · rw [prepareNextFrameForQ, prepared]
    rfl
  · intro i
    by_cases same : i = AC
    · subst same
      rwa [Function.update_self]
    · rw [Function.update_of_ne same]
      exact (fit i same).later later
  · rwa [Function.update_self]

theorem serveNext_spec (rand : AppType → Nat) (fit : ∀ i, i ≠ AC → (q.acQ i).Fits i now) (later : now ≤ time)
    (rest : q.contentionStart = false)
    (kept : ∀ j ∈ q.acQToRetry, j ≠ AC ∧ (q.acQ j).readyFrame.isSome = true) :
    ∃ acQ servedQ acQToRetry, (do
        let q ← q.prepareNextFrameForQ time rand AC
        let q ← q.serve
        q.rescheduleBackoff) = .ok { q with acQ, servedQ, acQToRetry } ∧
      Contest.Decided (Contest.Near precError { q with acQ }.accessInstant) servedQ acQToRetry ∧
      (∀ i, (acQ i).Fits i time) ∧ (∀ i, i ≠ AC → acQ i = q.acQ i) ∧
      (acQ AC).held = (q.acQ AC).queue.map fun frame => { frame with retry := true } := by
  obtain ⟨acQ, prepared, fits, others, held⟩ := prepareNextFrameForQ_spec rand fit later
  have ready (j : AppType) (member : j ∈ q.acQToRetry) : (acQ j).readyFrame.isSome = true := by
    rw [others j (kept j member).1]
    exact (kept j member).2
  obtain ⟨servedQ, acQToRetry, serves, decided⟩ := serve_of_rest (q := { q with acQ }) fits rest ready
  refine ⟨acQ, servedQ, acQToRetry, ?_, decided, fits, others, held⟩
  rw [prepared, ok_bind, serves, ok_bind]
  exact rescheduleBackoff_of_rest rest

theorem prepareNextFrame_quiet (quiet : q.readyQSending = false) (served : q.servedQ = some AC) :
    q.prepareNextFrame time rand = (do
      let q ← q.prepareNextFrameForQ time rand AC
      let q ← q.serve
      q.rescheduleBackoff) := by
  unfold prepareNextFrame
  rw [if_neg (by simp [quiet]), ok_bind]
  dsimp only
  rw [served]
  rfl

theorem prepareNextFrame_sent {retried : WEQoSQueue} (sending : q.readyQSending = true)
    (retries : q.retryCollided time rand = .ok retried) (served : retried.servedQ = some AC) :
    q.prepareNextFrame time rand = (do
      let q ← prepareNextFrameForQ { retried with readyQSending := false } time rand AC
      let q ← q.serve
      q.rescheduleBackoff) := by
  unfold prepareNextFrame
  rw [if_pos sending, retries]
  simp only [ok_bind, pure_eq_ok]
  rw [served]
  rfl

/-! ### Insertion -/

/-- The rest of `insertFrame`, once the frame has been stored -/
def fill (q : WEQoSQueue) (AC : AppType) (time : SimTime) (rand : AppType → Nat) : Exec WEQoSQueue :=
  if (q.acQ AC).readyFrame = none then do
    let q ← q.prepareNextFrameForQ time rand AC
    if q.readyQSending then return q
    else
      let q ← q.serve
      q.rescheduleBackoff
  else .ok q

def withQueue (q : WEQoSQueue) (AC : AppType) (queue : List WirelessEtherFrame) : WEQoSQueue :=
  { q with acQ := Function.update q.acQ AC { q.acQ AC with queue } }

theorem withQueue_self (q : WEQoSQueue) (AC : AppType) (queue : List WirelessEtherFrame) :
    (q.withQueue AC queue).acQ AC = { q.acQ AC with queue } := Function.update_self ..

theorem withQueue_of_ne {i : AppType} (other : i ≠ AC) (queue : List WirelessEtherFrame) :
    (q.withQueue AC queue).acQ i = q.acQ i := Function.update_of_ne other _ _

theorem accessInstant_withQueue (q : WEQoSQueue) (AC : AppType) (queue : List WirelessEtherFrame) :
    (q.withQueue AC queue).accessInstant = q.accessInstant := by
  funext i
  by_cases same : i = AC
  · subst same
    simp only [accessInstant, withQueue_self]
    rfl
  · simp only [accessInstant, withQueue_of_ne same]
    rfl

theorem insertFrame_spec {frame : WirelessEtherFrame} (time : SimTime) (rand : AppType → Nat)
    (room : ¬ (q.maxQueueSize = 0 ∧ (q.acQ frame.appType).queue = [])) :
    ∃ queue, q.insertFrame frame time rand = (q.withQueue frame.appType queue).fill frame.appType time rand ∧
      (queue = (q.acQ frame.appType).queue ++ [frame] ∨
        (0 ≤ q.maxQueueSize ∧ q.maxQueueSize ≤ (q.acQ frame.appType).queue.length) ∧
          ∃ oldest rest, (q.acQ frame.appType).queue = oldest :: rest ∧ queue = rest ++ [frame]) := by
  have rest (queue : List WirelessEtherFrame) : (q.withQueue frame.appType queue).fill frame.appType time rand =
      if (q.acQ frame.appType).readyFrame = none then do
        let q ← (q.withQueue frame.appType queue).prepareNextFrameForQ time rand frame.appType
        if q.readyQSending then return q
        else
          let q ← q.serve
          q.rescheduleBackoff
      else .ok (q.withQueue frame.appType queue) := by
    rw [fill, withQueue_self]
  unfold insertFrame
  by_cases free : q.maxQueueSize < 0 ∨ (q.acQ frame.appType).queue.length < q.maxQueueSize
  · refine ⟨(q.acQ frame.appType).queue ++ [frame], ?_, Or.inl rfl⟩
    rw [if_pos free, rest]
    rfl
  · have full : 0 ≤ q.maxQueueSize ∧ q.maxQueueSize ≤ (q.acQ frame.appType).queue.length := by omega
    cases queue : (q.acQ frame.appType).queue with
    | nil =>
        rw [queue] at full
        simp only [List.length_nil] at full
        exact absurd ⟨by omega, queue⟩ room
    | cons oldest others =>
        refine ⟨others ++ [frame], ?_, Or.inr ⟨by rwa [queue] at full, oldest, others, rfl, rfl⟩⟩
        rw [if_neg free, rest, queue]
        rfl

theorem fill_ready (ready : (q.acQ AC).readyFrame ≠ none) : q.fill AC time rand = .ok q := if_neg ready

theorem fill_sending {queue : List WirelessEtherFrame} {acQ : AppType → AccessCategoryQ}
    (empty : (q.acQ AC).readyFrame = none) (sending : q.readyQSending = true)
    (prepared : (q.withQueue AC queue).prepareNextFrameForQ time rand AC = .ok { q with acQ }) :
    (q.withQueue AC queue).fill AC time rand = .ok { q with acQ } := by
  rw [fill, if_pos (by rwa [withQueue_self]), prepared, ok_bind]
  exact if_pos sending

theorem fill_quiet {queue : List WirelessEtherFrame} (empty : (q.acQ AC).readyFrame = none)
    (quiet : q.readyQSending = false) :
    (q.withQueue AC queue).fill AC time rand = (do
      let q ← (q.withQueue AC queue).prepareNextFrameForQ time rand AC
      let q ← q.serve
      q.rescheduleBackoff) := by
  rw [fill, if_pos (by rwa [withQueue_self]), prepareNextFrameForQ]
  cases ((q.withQueue AC queue).acQ AC).prepareNextFrame AC time (rand AC) with
  | error fault => rfl
  | ok a => exact if_neg (by simp [withQueue, quiet])

end WEQoSQueue

end IPv6Suite
