import IPv6Suite.QueueAccess

namespace IPv6Suite

open Lib

namespace QueueAccess

/-- What the operations keep. While a category is sent, the contest that it has won still stands. -/
structure Inv (s : QueueAccess) : Prop where
  fits : ∀ AC, (s.queue.acQ AC).Fits AC s.now
  decided : Contest.Decided (Contest.Near precError s.accessInstants) s.queue.servedQ s.queue.acQToRetry
  entered : ∀ AC, (s.accessInstants AC).isSome = true → (s.queue.acQ AC).readyFrame.isSome = true
  exclusive : s.queue.contentionStart = true → s.queue.readyQSending = false
  served : s.queue.contentionStart = true ∨ s.queue.readyQSending = true → s.queue.servedQ ≠ none
  due : s.queue.contentionStart = true → ∀ AC ∈ s.queue.servedQ, s.queue.backoffTimer = s.queue.accessInstant AC

variable {s s' : QueueAccess} {e : Event} {q : WEQoSQueue} {AC : AppType} {now time : SimTime}
  {contest : AppType → Option SimTime}

theorem accessInstants_sending (sending : s.queue.readyQSending = true) : s.accessInstants = s.contest :=
  if_pos sending

theorem accessInstants_quiet (quiet : s.queue.readyQSending = false) : s.accessInstants = s.queue.accessInstant :=
  if_neg (by simp [quiet])

theorem entered_of_quiet (quiet : s.queue.readyQSending = false) (AC : AppType)
    (entrant : (s.accessInstants AC).isSome = true) : (s.queue.acQ AC).readyFrame.isSome = true := by
  rwa [accessInstants_quiet quiet, WEQoSQueue.isSome_accessInstant] at entrant

theorem inv_of_rest (fit : ∀ AC, (q.acQ AC).Fits AC now) (rest : q.contentionStart = false)
    (quiet : q.readyQSending = false)
    (decided : Contest.Decided (Contest.Near precError q.accessInstant) q.servedQ q.acQToRetry) :
    Inv ⟨q, now, contest⟩ where
  fits := fit
  decided := by rwa [accessInstants_quiet quiet]
  entered := entered_of_quiet quiet
  exclusive := by simp [rest]
  served := by simp [rest, quiet]
  due := by simp [rest]

theorem inv_of_contention (fit : ∀ AC, (q.acQ AC).Fits AC now) (quiet : q.readyQSending = false)
    (decided : Contest.Decided (Contest.Near precError q.accessInstant) q.servedQ q.acQToRetry)
    (served : q.servedQ = some AC) (due : q.backoffTimer = q.accessInstant AC) : Inv ⟨q, now, contest⟩ where
  fits := fit
  decided := by rwa [accessInstants_quiet quiet]
  entered := entered_of_quiet quiet
  exclusive _ := quiet
  served _ := by simp [served]
  due := by
    intro _ first same
    cases served.symm.trans same
    exact due

namespace Inv

theorem ready_of_tied (inv : Inv s) (near : Contest.Near precError s.accessInstants AC) :
    (s.queue.acQ AC).readyFrame.isSome = true := inv.entered AC near.isSome

theorem ready_of_served (inv : Inv s) (served : s.queue.servedQ = some AC) :
    (s.queue.acQ AC).readyFrame.isSome = true := inv.ready_of_tied (inv.decided.highest AC served).1

theorem ready_to_retry (inv : Inv s) : ∀ AC ∈ s.queue.acQToRetry, (s.queue.acQ AC).readyFrame.isSome = true :=
  fun AC member => inv.ready_of_tied ((inv.decided.mem AC).mp member).1

/-- Nothing is served exactly if nothing can be sent. -/
theorem orderly (inv : Inv s) : Orderly (Contest.Near precError s.accessInstants) s.queue where
  queued AC := (inv.fits AC).queued
  decided := inv.decided
  idle := by
    constructor
    · intro none AC
      have rest : s.queue.readyQSending = false := by
        by_contra sending
        exact inv.served (Or.inr (by simpa using sending)) none
      by_contra ready
      have entrant : (s.accessInstants AC).isSome = true := by
        rw [accessInstants_quiet rest, WEQoSQueue.isSome_accessInstant]
        exact Option.isSome_iff_ne_none.mpr ready
      obtain ⟨first, earliest⟩ := Contest.exists_earliest entrant
      exact inv.decided.none none first (earliest.near precError_pos)
    · intro nobody
      cases served : s.queue.servedQ with
      | none => rfl
      | some AC =>
          have := inv.ready_of_served served
          simp [nobody AC] at this

theorem served_of_ready (inv : Inv s) (ready : ∃ AC, (s.queue.acQ AC).readyFrame.isSome = true) :
    ∃ AC, s.queue.servedQ = some AC := by
  apply Option.ne_none_iff_exists'.mp
  intro none
  obtain ⟨AC, ready⟩ := ready
  simp [inv.orderly.idle.mp none AC] at ready

theorem ready_of_size (inv : Inv s) (size : 0 < s.queue.size) : ∃ AC, (s.queue.acQ AC).readyFrame.isSome = true := by
  by_contra nobody
  have none (AC : AppType) : (s.queue.acQ AC).readyFrame = none := by
    by_contra ready
    exact nobody ⟨AC, Option.isSome_iff_ne_none.mpr ready⟩
  have empty (AC : AppType) : s.queue.sizeOfQ AC = 0 := by
    simp [WEQoSQueue.sizeOfQ, none AC, (inv.fits AC).queued (none AC)]
  simp [WEQoSQueue.size, empty] at size

theorem inTime (inv : Inv s) (start : s.queue.contentionStart = true)
    (timely : ∀ due ∈ s.queue.backoffTimer, time ≤ due) (AC : AppType)
    (ready : (s.queue.acQ AC).readyFrame.isSome = true) :
    time - (s.queue.acQ AC).contentionStartTime < (s.queue.acQ AC).timeToSend + precError := by
  obtain ⟨first, served⟩ := Option.ne_none_iff_exists'.mp (inv.served (Or.inl start))
  obtain ⟨x, same, near⟩ := (inv.decided.highest first served).1
  rw [accessInstants_quiet (inv.exclusive start)] at same near
  have late : time ≤ x := timely x (by rw [inv.due start first served, same]; rfl)
  obtain ⟨frame, entrant⟩ := Option.isSome_iff_exists.mp ready
  have := near AC ((s.queue.acQ AC).timeToSend + (s.queue.acQ AC).contentionStartTime) (by
    simp [WEQoSQueue.accessInstant, entrant, start])
  linarith

end Inv

/-! ### Single calls -/

/-- What a call leaves behind -/
structure Stepped (s : QueueAccess) (e : Event) (s' : QueueAccess) : Prop where
  inv : Inv s'
  change : ∀ AC, Change s.queue e AC (s'.queue.acQ AC).held
  apart : Contest.Apart precError s.accessInstants → Distinct s.queue e → Contest.Apart precError s'.accessInstants

theorem stepped_of_rest (fit : ∀ AC, (q.acQ AC).Fits AC e.time) (rest : q.contentionStart = false)
    (quiet : q.readyQSending = false)
    (decided : Contest.Decided (Contest.Near precError q.accessInstant) q.servedQ q.acQToRetry)
    (change : ∀ AC, Change s.queue e AC (q.acQ AC).held) : Stepped s e ⟨q, e.time, contest⟩ where
  inv := inv_of_rest fit rest quiet decided
  change := change
  apart := by
    intro _ _
    rw [accessInstants_quiet quiet]
    exact WEQoSQueue.apart_of_rest fit rest

theorem reset_step (call : e.call = .reset) :
    ∃ q, perform s.queue e = .ok q ∧ Stepped s e ⟨q, e.time, s.contest⟩ := by
  refine ⟨{ s.queue.reset with backoffTimer := none }, by simp only [perform, call], ?_⟩
  apply stepped_of_rest
  · intro AC
    refine ⟨fun _ => rfl, AC.CWmin_mem, ?_, ?_, ?_⟩ <;> simp [WEQoSQueue.reset]
  · rfl
  · rfl
  · exact Contest.decided_nobody fun AC => rfl
  · exact fun AC => .reset call rfl

theorem served_eq (served : q.servedQ = some AC) (other : q.servedQ ≠ some 0) : q.served = .ok (q.acQ AC) := by
  have positive : 0 < q.servedIndex := by
    have : AC ≠ 0 := by
      rintro rfl
      exact other served
    have := Fin.pos_iff_ne_zero.mpr this
    simp only [WEQoSQueue.servedIndex, served]
    exact_mod_cast this
  rw [WEQoSQueue.served, assert_pos positive, ok_bind, served]
  rfl

theorem getters_step (inv : Inv s) (call : e.call = .getters) (admits : Admits s e) (sound : Sound s.queue e) :
    ∃ q, perform s.queue e = .ok q ∧ Stepped s e ⟨q, e.time, s.contest⟩ := by
  obtain ⟨later, _, phase⟩ := admits
  rw [call] at phase
  simp only [Sound, call] at sound
  obtain ⟨AC, served⟩ := inv.served_of_ready phase
  have index : 0 ≤ s.queue.servedIndex := by simp [WEQoSQueue.servedIndex, served]
  refine ⟨s.queue, ?_, ?_, fun AC => .kept [] (by simp), fun apart _ => apart⟩
  · simp only [perform, call, WEQoSQueue.getRetry, WEQoSQueue.getCW, WEQoSQueue.getBackoffSlots,
      WEQoSQueue.getTimeToSend, WEQoSQueue.getQueueType, served_eq served sound]
    rw [assert_pos index]
    rfl
  · exact { inv with fits := fun AC => (inv.fits AC).later later }

theorem getReadyFrame_isSome (inv : Inv s) (served : s.queue.servedQ = some AC) :
    s.queue.getReadyFrame.isSome = true := by
  rw [WEQoSQueue.getReadyFrame, served]
  exact inv.ready_of_served served

theorem accessInstant_starting (time : SimTime) (rest : q.contentionStart = false) (AC : AppType) :
    (q.startingContention time).accessInstant AC = (q.accessInstant AC).map (· + time) := by
  cases ready : (q.acQ AC).readyFrame with
  | none => simp [WEQoSQueue.accessInstant, WEQoSQueue.startingContention, ready]
  | some frame => simp [WEQoSQueue.accessInstant, WEQoSQueue.startingContention, ready, rest]

theorem startingContention_step (inv : Inv s) (call : e.call = .startingContention) (admits : Admits s e)
    (sound : Sound s.queue e) : ∃ q, perform s.queue e = .ok q ∧ Stepped s e ⟨q, e.time, s.contest⟩ := by
  obtain ⟨later, _, phase⟩ := admits
  rw [call] at phase
  obtain ⟨rest, quiet, size⟩ := phase
  simp only [Sound, call] at sound
  obtain ⟨AC, served⟩ := inv.served_of_ready (inv.ready_of_size size)
  have shifted := accessInstant_starting e.time rest
  have before := accessInstants_quiet quiet
  have near : Contest.Near precError (s.queue.startingContention e.time).accessInstant =
      Contest.Near precError s.queue.accessInstant :=
    funext fun j => propext (Contest.near_shift shifted)
  have decided := inv.decided
  rw [before, ← near] at decided
  refine ⟨{ s.queue.startingContention e.time with
    backoffTimer := some (e.time + (s.queue.acQ AC).timeToSend) }, ?_, ?_, ?_, ?_⟩
  · simp only [perform, call, WEQoSQueue.getTimeToSend, served_eq served sound]
    rw [assert_pos (getReadyFrame_isSome inv served)]
    rfl
  · apply inv_of_contention
    · intro AC
      have fits := (inv.fits AC).later later
      dsimp only [WEQoSQueue.startingContention]
      split
      · exact ⟨fits.queued, fits.window, fits.slots, fits.timed, fun _ => le_refl _⟩
      · exact fits
    · exact quiet
    · exact decided
    · exact served
    · obtain ⟨frame, ready⟩ := Option.isSome_iff_exists.mp (inv.ready_of_served served)
      show _ = (s.queue.startingContention e.time).accessInstant AC
      rw [shifted, WEQoSQueue.accessInstant_of_rest rest, ready]
      simp [add_comm]
  · intro AC
    refine .kept [] ?_
    rw [List.append_nil]
    apply AccessCategoryQ.held_congr <;> · dsimp only [WEQoSQueue.startingContention]; split <;> rfl
  · intro apart _
    rw [before] at apart
    rw [accessInstants_quiet (by exact quiet)]
    exact Contest.apart_shift shifted apart

theorem held_of_frames {acQ : AppType → AccessCategoryQ}
    (same : ∀ i, (acQ i).readyFrame = (q.acQ i).readyFrame ∧ (acQ i).queue = (q.acQ i).queue ∧
      (acQ i).retry = (q.acQ i).retry) (AC : AppType) : Change q e AC (acQ AC).held :=
  .kept [] (by rw [List.append_nil]; exact AccessCategoryQ.held_congr (same AC).1 (same AC).2.1)

theorem contentionInterrupted_step (inv : Inv s) (call : e.call = .contentionInterrupted) (admits : Admits s e) :
    ∃ q, perform s.queue e = .ok q ∧ Stepped s e ⟨q, e.time, s.contest⟩ := by
  obtain ⟨later, timely, phase⟩ := admits
  rw [call] at phase
  have start := phase.1
  have quiet := inv.exclusive start
  obtain ⟨acQ, deducted, fit, same⟩ :=
    WEQoSQueue.deductElapsed_spec inv.fits later (fun _ => false) (inv.inTime start timely)
  have kept (i : AppType) (member : i ∈ s.queue.acQToRetry) : (acQ i).readyFrame.isSome = true := by
    rw [(same i).1]
    exact inv.ready_to_retry i member
  obtain ⟨servedQ, acQToRetry, serves, decided⟩ :=
    WEQoSQueue.serve_of_rest (q := { s.queue with contentionStart := false, acQ }) fit rfl kept
  refine ⟨{ s.queue with contentionStart := false, acQ, servedQ, acQToRetry, backoffTimer := none }, ?_, ?_⟩
  · simp only [perform, call, WEQoSQueue.contentionInterrupted]
    rw [deducted, ok_bind, serves]
    rfl
  · apply stepped_of_rest
    · exact fit
    · rfl
    · exact quiet
    · exact decided
    · exact held_of_frames same

theorem sendingReadyFrame_step (inv : Inv s) (call : e.call = .sendingReadyFrame) (admits : Admits s e) :
    ∃ q, perform s.queue e = .ok q ∧ Stepped s e ⟨q, e.time, s.queue.accessInstant⟩ := by
  obtain ⟨later, timely, phase⟩ := admits
  rw [call] at phase
  have start := phase.1
  have before := accessInstants_quiet (inv.exclusive start)
  have decided := inv.decided
  rw [before] at decided
  obtain ⟨AC, served⟩ := Option.ne_none_iff_exists'.mp (inv.served (Or.inl start))
  obtain ⟨acQ, deducted, fit, same⟩ :=
    WEQoSQueue.deductElapsed_spec inv.fits later (fun i => s.queue.servedQ = some i) (inv.inTime start timely)
  refine ⟨{ s.queue with contentionStart := false, readyQSending := true, acQ, backoffTimer := none }, ?_, ?_, ?_, ?_⟩
  · have deducts : WEQoSQueue.deductElapsed { s.queue with backoffTimer := none }
        (fun i => s.queue.servedQ = some i) e.time = .ok acQ := deducted
    simp only [perform, call, WEQoSQueue.sendingReadyFrame]
    rw [assert_pos (getReadyFrame_isSome inv served), ok_bind, deducts]
    rfl
  · refine ⟨fit, decided, ?_, ?_, fun _ => by simp [served], ?_⟩
    · intro i entrant
      dsimp only
      rw [(same i).1, ← WEQoSQueue.isSome_accessInstant]
      exact entrant
    · intro absurd
      cases absurd
    · intro absurd
      cases absurd
  · exact held_of_frames same
  · intro apart _
    rw [before] at apart
    exact apart

theorem prepareNextFrame_step (inv : Inv s) (call : e.call = .prepareNextFrame) (admits : Admits s e) :
    ∃ q, perform s.queue e = .ok q ∧ Stepped s e ⟨q, e.time, s.contest⟩ := by
  obtain ⟨later, _, phase⟩ := admits
  rw [call] at phase
  cases sending : s.queue.readyQSending with
  | false =>
      obtain ⟨rest, size⟩ : s.queue.contentionStart = false ∧ 0 < s.queue.size := by
        rcases phase with sent | idle
        · simp [sending] at sent
        · exact idle
      obtain ⟨AC, served⟩ := inv.served_of_ready (inv.ready_of_size size)
      have kept (j : AppType) (member : j ∈ s.queue.acQToRetry) : j ≠ AC ∧ (s.queue.acQ j).readyFrame.isSome = true := by
        refine ⟨?_, inv.ready_to_retry j member⟩
        rintro rfl
        exact ((inv.decided.mem j).mp member).2 served
      obtain ⟨acQ, servedQ, acQToRetry, next, decided, fits, others, held⟩ :=
        WEQoSQueue.serveNext_spec e.rand (fun i _ => inv.fits i) later rest kept
      refine ⟨{ s.queue with acQ, servedQ, acQToRetry }, ?_, ?_⟩
      · simp only [perform, call]
        rw [WEQoSQueue.prepareNextFrame_quiet sending served, next]
      · apply stepped_of_rest
        · exact fits
        · exact rest
        · exact sending
        · exact decided
        · intro i
          by_cases same : i = AC
          · subst same
            exact .completed call served (held.trans (AccessCategoryQ.held_tail (inv.fits i)).symm)
          · exact .kept [] (by simp [others i same])
  | true =>
      have rest : s.queue.contentionStart = false := by
        by_contra start
        have := inv.exclusive (by simpa using start)
        simp [sending] at this
      obtain ⟨AC, served⟩ := Option.ne_none_iff_exists'.mp (inv.served (Or.inr sending))
      have unlisted : AC ∉ s.queue.acQToRetry := fun member => ((inv.decided.mem AC).mp member).2 served
      obtain ⟨acQ', retried, fits', untouched, gone⟩ :=
        WEQoSQueue.retryCollided_spec e.rand inv.fits later inv.decided.nodup inv.ready_to_retry
      obtain ⟨acQ, servedQ, acQToRetry, next, decided, fits, others, held⟩ :=
        WEQoSQueue.serveNext_spec (q := { s.queue with acQToRetry := [], acQ := acQ', readyQSending := false })
          e.rand (fun i _ => fits' i) (le_refl _) rest nofun
      refine ⟨{ s.queue with readyQSending := false, acQ, servedQ, acQToRetry }, ?_, ?_⟩
      · simp only [perform, call]
        rw [WEQoSQueue.prepareNextFrame_sent sending retried served, next]
      · apply stepped_of_rest
        · exact fits
        · exact rest
        · rfl
        · exact decided
        · intro i
          by_cases same : i = AC
          · subst same
            refine .completed call served (held.trans ?_)
            rw [AccessCategoryQ.held_tail (inv.fits i)]
            dsimp only
            rw [untouched i unlisted]
          · dsimp only
            rw [others i same]
            by_cases member : i ∈ s.queue.acQToRetry
            · rcases gone i member with stays | ⟨last, left⟩
              · exact .kept [] (by simp [stays])
              · exact .discarded (Or.inl ⟨Or.inl call, sending, member⟩) last left
            · exact .kept [] (by simp [untouched i member])

theorem initiateRetry_step (inv : Inv s) (call : e.call = .initiateRetry) (admits : Admits s e) :
    ∃ q, perform s.queue e = .ok q ∧ Stepped s e ⟨q, e.time, s.contest⟩ := by
  obtain ⟨later, _, phase⟩ := admits
  rw [call] at phase
  have sending : s.queue.readyQSending = true := phase
  have rest : s.queue.contentionStart = false := by
    by_contra start
    have := inv.exclusive (by simpa using start)
    simp [sending] at this
  obtain ⟨AC, served⟩ := Option.ne_none_iff_exists'.mp (inv.served (Or.inr sending))
  have unlisted : AC ∉ s.queue.acQToRetry := fun member => ((inv.decided.mem AC).mp member).2 served
  obtain ⟨frame, ready⟩ := Option.isSome_iff_exists.mp (inv.ready_of_served served)
  obtain ⟨status, a, first, fitsFirst, frames⟩ :=
    AccessCategoryQ.initiateRetry_spec (inv.fits AC).window ready e.time (e.rand AC)
  have other (i : AppType) (member : i ∈ s.queue.acQToRetry) : i ≠ AC := by
    rintro rfl
    exact unlisted member
  have fit (i : AppType) : (Function.update s.queue.acQ AC a i).Fits i e.time := by
    by_cases same : i = AC
    · subst same
      rwa [Function.update_self]
    · rw [Function.update_of_ne same]
      exact (inv.fits i).later later
  obtain ⟨acQ, retried, fits, untouched, gone⟩ := WEQoSQueue.retryCollided_spec
    (q := { s.queue with readyQSending := false, acQ := Function.update s.queue.acQ AC a }) e.rand fit (le_refl _)
    inv.decided.nodup (by
      intro i member
      dsimp only
      rw [Function.update_of_ne (other i member)]
      exact inv.ready_to_retry i member)
  obtain ⟨servedQ, acQToRetry, serves, decided⟩ := WEQoSQueue.serve_of_rest
    (q := { s.queue with readyQSending := false, acQToRetry := [], acQ }) fits rest nofun
  have starts : WEQoSQueue.initiateRetryForQ { s.queue with readyQSending := false } e.time e.rand AC =
      .ok (status, { s.queue with readyQSending := false, acQ := Function.update s.queue.acQ AC a }) := by
    rw [WEQoSQueue.initiateRetryForQ, first]
    rfl
  refine ⟨{ s.queue with readyQSending := false, acQ, servedQ, acQToRetry }, ?_, ?_⟩
  · have category : Exec.deref .outOfBounds s.queue.servedQ = .ok AC := by rw [served]; rfl
    simp only [perform, call, WEQoSQueue.initiateRetry]
    rw [category, ok_bind, assert_pos (by simp [ready]), ok_bind, assert_pos sending,
      ok_bind, starts, ok_bind]
    dsimp only at retried ⊢
    rw [retried, ok_bind, serves]
    rfl
  · apply stepped_of_rest
    · exact fits
    · exact rest
    · rfl
    · exact decided
    · intro i
      dsimp only
      by_cases same : i = AC
      · subst same
        rw [untouched i unlisted]
        dsimp only
        rw [Function.update_self]
        rcases frames with stays | ⟨last, left⟩
        · exact .kept [] (by simp [stays])
        · refine .discarded (Or.inr ⟨call, served⟩) (last.imp_right fun broadcast => ⟨frame, ready, broadcast⟩) left
      · by_cases member : i ∈ s.queue.acQToRetry
        · have left := gone i member
          dsimp only at left
          rw [Function.update_of_ne same] at left
          rcases left with stays | ⟨last, left⟩
          · exact .kept [] (by simp [stays])
          · exact .discarded (Or.inl ⟨Or.inr call, sending, member⟩) last left
        · rw [untouched i member]
          dsimp only
          rw [Function.update_of_ne same]
          exact .kept [] (by simp)

end QueueAccess

end IPv6Suite
