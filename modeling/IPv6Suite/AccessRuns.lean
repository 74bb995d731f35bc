import IPv6Suite.AccessSteps

namespace IPv6Suite

open Lib

namespace QueueAccess

variable {s s' : QueueAccess} {e : Event} {q : WEQoSQueue} {frame : WirelessEtherFrame}
  {queue : List WirelessEtherFrame} {AC : AppType}

/-! ### The insertion of a frame -/

theorem change_other {i : AppType} {a : AccessCategoryQ} (same : a = q.acQ i) : Change q e i a.held :=
  .kept [] (by simp [same])

theorem change_stored (call : e.call = .insertFrame frame) (ready : (q.acQ frame.appType).readyFrame ≠ none)
    (stored : queue = (q.acQ frame.appType).queue ++ [frame] ∨
      (0 ≤ q.maxQueueSize ∧ q.maxQueueSize ≤ (q.acQ frame.appType).queue.length) ∧
        ∃ oldest rest, (q.acQ frame.appType).queue = oldest :: rest ∧ queue = rest ++ [frame]) (i : AppType) :
    Change q e i ((q.withQueue frame.appType queue).acQ i).held := by
  by_cases same : i = frame.appType
  · subst same
    obtain ⟨sent, first⟩ := Option.ne_none_iff_exists'.mp ready
    rw [WEQoSQueue.withQueue_self]
    rcases stored with rfl | ⟨full, oldest, rest, before, rfl⟩
    · exact .kept [{ frame with retry := true }] (by simp [AccessCategoryQ.held])
    · exact .overflow frame call rfl full (by simp [AccessCategoryQ.held, first, before])
  · exact change_other (WEQoSQueue.withQueue_of_ne same queue)

theorem insertFrame_ready (inv : Inv s) (call : e.call = .insertFrame frame) (later : s.now ≤ e.time)
    (ready : (s.queue.acQ frame.appType).readyFrame ≠ none)
    (stored : queue = (s.queue.acQ frame.appType).queue ++ [frame] ∨
      (0 ≤ s.queue.maxQueueSize ∧ s.queue.maxQueueSize ≤ (s.queue.acQ frame.appType).queue.length) ∧
        ∃ oldest rest, (s.queue.acQ frame.appType).queue = oldest :: rest ∧ queue = rest ++ [frame]) :
    Stepped s e ⟨s.queue.withQueue frame.appType queue, e.time, s.contest⟩ := by
  have instants : accessInstants ⟨s.queue.withQueue frame.appType queue, e.time, s.contest⟩ = s.accessInstants := by
    unfold accessInstants
    dsimp only
    rw [WEQoSQueue.accessInstant_withQueue]
    rfl
  have frames (i : AppType) : ((s.queue.withQueue frame.appType queue).acQ i).readyFrame =
      (s.queue.acQ i).readyFrame := by
    by_cases same : i = frame.appType
    · subst same
      rw [WEQoSQueue.withQueue_self]
    · rw [WEQoSQueue.withQueue_of_ne same]
  refine ⟨⟨?_, ?_, ?_, inv.exclusive, inv.served, ?_⟩, change_stored call ready stored, ?_⟩
  · intro i
    by_cases same : i = frame.appType
    · subst same
      have fits := (inv.fits frame.appType).later later
      dsimp only
      rw [WEQoSQueue.withQueue_self]
      exact ⟨fun empty => absurd empty ready, fits.window, fits.slots, fits.timed, fits.started⟩
    · dsimp only
      rw [WEQoSQueue.withQueue_of_ne same]
      exact (inv.fits i).later later
  · rw [instants]
    exact inv.decided
  · intro i entrant
    rw [instants] at entrant
    rw [frames i]
    exact inv.entered i entrant
  · intro start i served
    dsimp only
    rw [WEQoSQueue.accessInstant_withQueue]
    exact inv.due start i served
  · intro apart _
    rwa [instants]

theorem fit_others (inv : Inv s) (queue : List WirelessEtherFrame) (i : AppType) (different : i ≠ frame.appType) :
    ((s.queue.withQueue frame.appType queue).acQ i).Fits i s.now := by
  rw [WEQoSQueue.withQueue_of_ne different]
  exact inv.fits i

theorem change_filled (inv : Inv s) (none : (s.queue.acQ frame.appType).readyFrame = none)
    {acQ : AppType → AccessCategoryQ} (same : ∀ i, i ≠ frame.appType → acQ i = s.queue.acQ i)
    (held : (acQ frame.appType).held = [{ frame with retry := true }]) (i : AppType) :
    Change s.queue e i (acQ i).held := by
  by_cases category : i = frame.appType
  · subst category
    have empty := (inv.fits frame.appType).queued none
    exact .kept [{ frame with retry := true }] (by rw [held]; simp [AccessCategoryQ.held, empty, none])
  · exact change_other (same i category)

theorem insertFrame_sending (inv : Inv s) (later : s.now ≤ e.time)
    (none : (s.queue.acQ frame.appType).readyFrame = none) (sending : s.queue.readyQSending = true) :
    ∃ q, (s.queue.withQueue frame.appType [frame]).fill frame.appType e.time e.rand = .ok q ∧
      Stepped s e ⟨q, e.time, s.contest⟩ := by
  obtain ⟨acQ, prepared, fits, others, held⟩ := WEQoSQueue.prepareNextFrameForQ_spec e.rand
    (fit_others inv [frame]) later
  have same (i : AppType) (different : i ≠ frame.appType) : acQ i = s.queue.acQ i :=
    (others i different).trans (WEQoSQueue.withQueue_of_ne different _)
  have before := accessInstants_sending sending
  have after : accessInstants ⟨{ s.queue with acQ }, e.time, s.contest⟩ = s.contest := if_pos sending
  have decided := inv.decided
  refine ⟨{ s.queue with acQ }, WEQoSQueue.fill_sending none sending prepared, ?_, ?_, ?_⟩
  · rw [before] at decided
    refine ⟨fits, by rwa [after], ?_, inv.exclusive, inv.served, ?_⟩
    · intro i entrant
      rw [after, ← before] at entrant
      have ready := inv.entered i entrant
      have different : i ≠ frame.appType := by
        rintro rfl
        simp [none] at ready
      dsimp only
      rwa [same i different]
    · intro start
      have := inv.exclusive start
      simp [sending] at this
  · exact change_filled inv none same (by rw [held, WEQoSQueue.withQueue_self]; rfl)
  · intro apart _
    rwa [after, ← before]

theorem insertFrame_resting (inv : Inv s) (later : s.now ≤ e.time)
    (none : (s.queue.acQ frame.appType).readyFrame = none) (quiet : s.queue.readyQSending = false)
    (rest : s.queue.contentionStart = false) :
    ∃ q, (s.queue.withQueue frame.appType [frame]).fill frame.appType e.time e.rand = .ok q ∧
      Stepped s e ⟨q, e.time, s.contest⟩ := by
  have kept (j : AppType) (member : j ∈ s.queue.acQToRetry) :
      j ≠ frame.appType ∧ ((s.queue.withQueue frame.appType [frame]).acQ j).readyFrame.isSome = true := by
    have ready := inv.ready_to_retry j member
    have different : j ≠ frame.appType := by
      rintro rfl
      simp [none] at ready
    exact ⟨different, by rwa [WEQoSQueue.withQueue_of_ne different]⟩
  obtain ⟨acQ, servedQ, acQToRetry, next, decided, fits, others, held⟩ :=
    WEQoSQueue.serveNext_spec e.rand (fit_others inv [frame]) later rest kept
  have same (i : AppType) (different : i ≠ frame.appType) : acQ i = s.queue.acQ i :=
    (others i different).trans (WEQoSQueue.withQueue_of_ne different _)
  refine ⟨{ s.queue with acQ, servedQ, acQToRetry }, ?_, ?_⟩
  · exact (WEQoSQueue.fill_quiet none quiet).trans next
  · apply stepped_of_rest
    · exact fits
    · exact rest
    · exact quiet
    · exact decided
    · exact change_filled inv none same (by rw [held, WEQoSQueue.withQueue_self]; rfl)

theorem insertFrame_contending (inv : Inv s) (call : e.call = .insertFrame frame) (later : s.now ≤ e.time)
    (none : (s.queue.acQ frame.appType).readyFrame = none) (start : s.queue.contentionStart = true)
    (inTime : ∃ i, ∃ x ∈ instantsWith s.queue frame e i, x < 99999) :
    ∃ q, (s.queue.withQueue frame.appType [frame]).fill frame.appType e.time e.rand = .ok q ∧
      Stepped s e ⟨q, e.time, s.contest⟩ := by
  have quiet := inv.exclusive start
  have empty : ((s.queue.withQueue frame.appType [frame]).acQ frame.appType).queue = [frame] := by
    rw [WEQoSQueue.withQueue_self]
  obtain ⟨acQ, prepared, fits, others, held⟩ := WEQoSQueue.prepareNextFrameForQ_spec e.rand
    (fit_others inv [frame]) later
  have same (i : AppType) (different : i ≠ frame.appType) : acQ i = s.queue.acQ i :=
    (others i different).trans (WEQoSQueue.withQueue_of_ne different _)
  have own : acQ frame.appType = {
      queue := []
      readyFrame := some frame
      contentionStartTime := e.time
      timeToSend := (e.rand frame.appType % (frame.appType.CWmin + 1) : Nat) * slotTime + frame.appType.AIFS
      CW := frame.appType.CWmin
      backoffSlots := e.rand frame.appType % (frame.appType.CWmin + 1)
      retry := 0 } := by
    rw [WEQoSQueue.prepareNextFrameForQ, AccessCategoryQ.prepareNextFrame_cons empty] at prepared
    simp only [ok_bind, pure_eq_ok, Except.ok.injEq, WEQoSQueue.mk.injEq, true_and, and_true] at prepared
    rw [← prepared, Function.update_self]
  have instants : WEQoSQueue.accessInstant { s.queue with acQ } = instantsWith s.queue frame e := by
    funext i
    unfold instantsWith
    by_cases category : i = frame.appType
    · subst category
      rw [Function.update_self]
      simp [WEQoSQueue.accessInstant, own, start]
    · rw [Function.update_of_ne category]
      simp only [WEQoSQueue.accessInstant, same i category]
  obtain ⟨servedQ, acQToRetry, serves, decided⟩ := WEQoSQueue.serve_spec (q := { s.queue with acQ })
    (fun i ready => AccessCategoryQ.timeToSend_pos (fits i) ready) (by
      left
      obtain ⟨i, x, entrant, early⟩ := inTime
      refine ⟨i, x, by rwa [instants], ?_⟩
      rwa [WEQoSQueue.sooner_iff (by exact start)])
  obtain ⟨first, served⟩ : ∃ first, servedQ = some first := by
    obtain ⟨i, x, entrant, _⟩ := inTime
    rw [← instants] at entrant
    obtain ⟨first, earliest⟩ := Contest.exists_earliest (Option.isSome_of_mem entrant)
    apply Option.ne_none_iff_exists'.mp
    intro nobody
    exact decided.none nobody first (earliest.near precError_pos)
  have scheduled : s.queue.backoffTimer.isSome = true := by
    obtain ⟨before, leads⟩ := Option.ne_none_iff_exists'.mp (inv.served (Or.inl start))
    rw [inv.due start before leads, WEQoSQueue.isSome_accessInstant]
    exact inv.ready_of_served leads
  refine ⟨{ s.queue with
    acQ
    servedQ
    acQToRetry
    backoffTimer := some ((acQ first).contentionStartTime + (acQ first).timeToSend) }, ?_, ?_, ?_, ?_⟩
  · refine (WEQoSQueue.fill_quiet none quiet).trans ?_
    rw [prepared, ok_bind]
    exact (congrArg (· >>= WEQoSQueue.rescheduleBackoff) serves).trans
      (WEQoSQueue.rescheduleBackoff_contending start served scheduled)
  · apply inv_of_contention
    · exact fits
    · exact quiet
    · exact decided
    · exact served
    · obtain ⟨x, entrant, _⟩ := (decided.highest first served).1
      obtain ⟨sent, ready, _⟩ := Option.map_eq_some_iff.mp entrant
      show _ = WEQoSQueue.accessInstant { s.queue with acQ } first
      dsimp only at ready
      simp [WEQoSQueue.accessInstant, ready, start, add_comm]
  · exact change_filled inv none same (by rw [held, WEQoSQueue.withQueue_self]; rfl)
  · intro _ distinct
    rw [accessInstants_quiet (by exact quiet)]
    show Contest.Apart precError (WEQoSQueue.accessInstant { s.queue with acQ })
    rw [instants]
    exact distinct frame call ⟨start, none⟩

theorem insertFrame_step (inv : Inv s) (call : e.call = .insertFrame frame) (admits : Admits s e)
    (sound : Sound s.queue e) : ∃ q, perform s.queue e = .ok q ∧ Stepped s e ⟨q, e.time, s.contest⟩ := by
  have later := admits.1
  simp only [Sound, call] at sound
  obtain ⟨queue, inserts, stored⟩ := WEQoSQueue.insertFrame_spec e.time e.rand sound.1
  simp only [perform, call]
  rw [inserts]
  cases ready : (s.queue.acQ frame.appType).readyFrame with
  | some first =>
      have present : (s.queue.acQ frame.appType).readyFrame ≠ none := by simp [ready]
      refine ⟨_, WEQoSQueue.fill_ready (by rwa [WEQoSQueue.withQueue_self]), ?_⟩
      exact insertFrame_ready inv call later present stored
  | none =>
      have alone : queue = [frame] := by
        have empty := (inv.fits frame.appType).queued ready
        rcases stored with rfl | ⟨_, oldest, rest, before, _⟩
        · simp [empty]
        · simp [empty] at before
      subst alone
      by_cases sending : s.queue.readyQSending = true
      · exact insertFrame_sending inv later ready sending
      · by_cases start : s.queue.contentionStart = true
        · exact insertFrame_contending inv call later ready start (sound.2 ⟨start, ready⟩)
        · exact insertFrame_resting inv later ready (by simpa using sending) (by simpa using start)

/-! ### Runs -/

theorem step_of_perform {q : WEQoSQueue} (performs : perform s.queue e = .ok q) (other : e.call ≠ .sendingReadyFrame) :
    step s e = .ok ⟨q, e.time, s.contest⟩ := by
  unfold step
  rw [performs, ok_bind]
  split
  · rename_i same
    exact absurd same other
  · rfl

theorem step_spec (inv : Inv s) (admits : Admits s e) (sound : Sound s.queue e) :
    ∃ s', step s e = .ok s' ∧ Stepped s e s' := by
  cases call : e.call with
  | insertFrame frame =>
      obtain ⟨q, performs, stepped⟩ := insertFrame_step inv call admits sound
      exact ⟨_, step_of_perform performs (by simp [call]), stepped⟩
  | startingContention =>
      obtain ⟨q, performs, stepped⟩ := startingContention_step inv call admits sound
      exact ⟨_, step_of_perform performs (by simp [call]), stepped⟩
  | contentionInterrupted =>
      obtain ⟨q, performs, stepped⟩ := contentionInterrupted_step inv call admits
      exact ⟨_, step_of_perform performs (by simp [call]), stepped⟩
  | sendingReadyFrame =>
      obtain ⟨q, performs, stepped⟩ := sendingReadyFrame_step inv call admits
      refine ⟨_, ?_, stepped⟩
      rw [step, performs, ok_bind, call]
      rfl
  | prepareNextFrame =>
      obtain ⟨q, performs, stepped⟩ := prepareNextFrame_step inv call admits
      exact ⟨_, step_of_perform performs (by simp [call]), stepped⟩
  | initiateRetry =>
      obtain ⟨q, performs, stepped⟩ := initiateRetry_step inv call admits
      exact ⟨_, step_of_perform performs (by simp [call]), stepped⟩
  | reset =>
      obtain ⟨q, performs, stepped⟩ := reset_step (s := s) call
      exact ⟨_, step_of_perform performs (by simp [call]), stepped⟩
  | getters =>
      obtain ⟨q, performs, stepped⟩ := getters_step inv call admits sound
      exact ⟨_, step_of_perform performs (by simp [call]), stepped⟩

theorem initial_inv (maxQueueSize : Int) : Inv (initial maxQueueSize) := by
  apply inv_of_rest
  · intro AC
    refine ⟨fun _ => rfl, AC.CWmin_mem, ?_, ?_, ?_⟩ <;> simp [WEQoSQueue.initial]
  · rfl
  · rfl
  · exact Contest.decided_nobody fun AC => rfl

theorem runs_inv {maxQueueSize : Int} {es : List Event}
    (runs : Runs step (fun s e => Admits s e ∧ Sound s.queue e) (initial maxQueueSize) es s) : Inv s := by
  apply runs.invariant Inv _ (initial_inv maxQueueSize)
  intro s e s' inv ok steps
  obtain ⟨next, same, stepped⟩ := step_spec inv ok.1 ok.2
  cases steps.symm.trans same
  exact stepped.inv

/-- Without frames that come in at nearly the same time nobody ties who is not as early. -/
theorem runs_apart {maxQueueSize : Int} {es : List Event}
    (runs : Runs step (fun s e => Admits s e ∧ Sound s.queue e ∧ Distinct s.queue e) (initial maxQueueSize) es s) :
    Contest.Apart precError s.accessInstants := by
  have both : Inv s ∧ Contest.Apart precError s.accessInstants := by
    apply runs.invariant (fun s => Inv s ∧ Contest.Apart precError s.accessInstants)
    · intro s e s' inv ok steps
      obtain ⟨next, same, stepped⟩ := step_spec inv.1 ok.1 ok.2.1
      cases steps.symm.trans same
      exact ⟨stepped.inv, stepped.apart inv.2 ok.2.2⟩
    · refine ⟨initial_inv maxQueueSize, ?_⟩
      exact WEQoSQueue.apart_of_rest (initial_inv maxQueueSize).fits rfl
  exact both.2

/-- The categories are served in the order of their access, the higher priority first, and no frame is lost that was
not completed, pushed out, or given up. Ties are those within the precision of the times, and are exact if no frame
that enters a contention is late by less than that. -/
theorem serves_by_priority {maxQueueSize : Int} {es : List Event}
    (runs : Runs step (fun s e => Admits s e ∧ Sound s.queue e) (initial maxQueueSize) es s) :
    Orderly (Contest.Near precError s.accessInstants) s.queue ∧
      (Runs step (fun s e => Admits s e ∧ Sound s.queue e ∧ Distinct s.queue e) (initial maxQueueSize) es s →
        Orderly (Contest.Earliest s.accessInstants) s.queue) ∧
      ∀ e, Admits s e → Sound s.queue e →
        ∃ s', step s e = .ok s' ∧ ∀ AC, Change s.queue e AC (s'.queue.acQ AC).held := by
  have inv := runs_inv runs
  refine ⟨inv.orderly, ?_, ?_⟩
  · intro distinct
    have exact : Contest.Near precError s.accessInstants = Contest.Earliest s.accessInstants :=
      funext fun j => propext ((runs_apart distinct).near_iff precError_pos j)
    rw [← exact]
    exact inv.orderly
  · intro e admits sound
    obtain ⟨s', steps, stepped⟩ := step_spec inv admits sound
    exact ⟨s', steps, stepped.change⟩

def dataFrame (AC : AppType) : WirelessEtherFrame := ⟨.data, true, false, false, 1, 2, 3, 0, AC, none⟩

def event (call : Call) (time : SimTime) : Event := ⟨call, time, fun _ => 0⟩

/-- A voice frame is sent before one of best effort, which then contends for the medium. -/
def voiceFirst : List Event :=
  [event (.insertFrame (dataFrame .bestEffort)) 0, event (.insertFrame (dataFrame .voice)) 0,
    event .startingContention 0, event .sendingReadyFrame (1 / 20000), event .prepareNextFrame (1 / 1000),
    event .startingContention (1 / 1000)]

theorem serves_by_priority_voiceFirst : ∃ s,
    Runs step (fun s e => Admits s e ∧ Sound s.queue e) (initial 10) voiceFirst s ∧
    s.queue.servedQ = some AppType.bestEffort ∧ Orderly (Contest.Earliest s.accessInstants) s.queue ∧
    ∀ e, Admits s e → Sound s.queue e →
      ∃ s', step s e = .ok s' ∧ ∀ AC, Change s.queue e AC (s'.queue.acQ AC).held := by
  have result : (run (fun s e => Exec.assert ((Admits s e ∧ Sound s.queue e) ∧
      ((e.call matches .insertFrame _) = true → s.queue.contentionStart = false)) >>= fun _ => step s e)
      (initial 10) voiceFirst).map (fun s => decide (s.queue.servedQ = some AppType.bestEffort)) = .ok true := by
    decide +kernel
  obtain ⟨s, result, served⟩ := map_eq_ok result
  have checked := Runs.of_checked result
  have runs : Runs step (fun s e => Admits s e ∧ Sound s.queue e) (initial 10) voiceFirst s :=
    checked.mono fun _ _ ok => ok.1
  have distinct : Runs step (fun s e => Admits s e ∧ Sound s.queue e ∧ Distinct s.queue e) (initial 10) voiceFirst s :=
    checked.mono fun s e ok => ⟨ok.1.1, ok.1.2, fun frame call enters => by simp [call, enters.1] at ok⟩
  obtain ⟨_, earliest, next⟩ := serves_by_priority runs
  exact ⟨s, runs, of_decide_eq_true served, earliest distinct, next⟩

/-- The getters reject a frame that waits in the category of the lowest priority, the only one there is. -/
theorem not_always_served : ¬ ∀ (maxQueueSize : Int) (es : List Event) (s : QueueAccess),
    Runs step Admits (initial maxQueueSize) es s →
      Orderly (Contest.Earliest s.accessInstants) s.queue ∧
      ∀ e, Admits s e → ∃ s', step s e = .ok s' ∧ ∀ AC, Change s.queue e AC (s'.queue.acQ AC).held := by
  intro always
  have result : (run (fun s e => Exec.assert (Admits s e) >>= fun _ => step s e) (initial 10)
      [event (.insertFrame (dataFrame 0)) 0]).map (fun s => decide (Admits s (event .getters 0) ∧
        (step s (event .getters 0)).toOption.isNone = true)) = .ok true := by
    decide +kernel
  obtain ⟨s, result, fails⟩ := map_eq_ok result
  obtain ⟨admits, fails⟩ := of_decide_eq_true fails
  obtain ⟨s', steps, _⟩ := (always 10 _ s (Runs.of_checked result)).2 _ admits
  rw [steps] at fails
  cases fails

end QueueAccess

end IPv6Suite
