import IPv6Suite.EtherMACStates

namespace IPv6Suite

open Lib

def EtherFrame.pauseTime (frame : EtherFrame) : Option (BitVec 32) :=
  match frame.kind with
  | .ethFrame => none
  | .ethPause pauseTime => some pauseTime

theorem EtherFrame.pauseTime_of (frame : EtherFrame) {units : BitVec 32} (kind : frame.kind = .ethPause units) :
    frame.pauseTime = some units := by
  unfold EtherFrame.pauseTime
  rw [kind]

theorem EtherFrame.kind_of (frame : EtherFrame) {units : BitVec 32} (time : frame.pauseTime = some units) :
    frame.kind = .ethPause units := by
  unfold EtherFrame.pauseTime at time
  cases kind : frame.kind with
  | ethFrame =>
      rw [kind] at time
      cases time
  | ethPause pauseTime =>
      rw [kind] at time
      exact congrArg _ (Option.some.inj time)

def NetworkMsg.isFrame : NetworkMsg → Bool
  | .etherFrame _ => true
  | .jamSignal | .autoconfig .. => false

namespace EtherMAC

variable {strict : Prop} {m m' : EtherMAC} {e : Event} {frame : EtherFrame}

/-- The effect of a frame that has been received: an idle transmitter may go to the PAUSE state. -/
def Received (strict : Prop) (rx : ReceiveState) (m m' : EtherMAC) : Prop :=
  ∃ tx timers units outs, m' = { m with
      timers, transmitState := tx, pauseUnitsRequested := units, sent := m.sent ++ outs } ∧
    Armed strict timers m.autoconfigInProgress tx rx ∧ requests outs = 0 ∧
      (tx = m.transmitState ∨ m.transmitState = .idle ∧ tx = .pause)

variable {rx : ReceiveState}

theorem received_self (armed : Armed strict m.timers m.autoconfigInProgress m.transmitState rx) :
    Received strict rx m m :=
  ⟨m.transmitState, m.timers, m.pauseUnitsRequested, [], by rw [List.append_nil], armed, rfl, .inl rfl⟩

theorem processReceivedDataFrame_ensures (armed : Armed strict m.timers m.autoconfigInProgress m.transmitState rx) :
    Ensures (Quiet strict) (Received strict rx m) (m.processReceivedDataFrame frame) := by
  refine Ensures.ite (fun _ => received_self armed) fun _ => Ensures.ite (fun _ => quiet_of_consistent rfl) fun _ =>
    Ensures.ite (fun _ => received_self armed) fun _ => ?_
  exact ⟨m.transmitState, m.timers, m.pauseUnitsRequested, _, rfl, armed, rfl, .inl rfl⟩

theorem processPauseCommand_ensures {pauseUnits : BitVec 32}
    (armed : Armed strict m.timers m.autoconfigInProgress m.transmitState rx)
    (sound : strict → m.transmitState = .pause → 0 < pauseUnits.toInt) :
    Ensures (Quiet strict) (Received strict rx m) (m.processPauseCommand pauseUnits) := by
  have stored : Received strict rx m { m with pauseUnitsRequested := pauseUnits } :=
    ⟨m.transmitState, m.timers, pauseUnits, [], by rw [List.append_nil], armed, rfl, .inl rfl⟩
  unfold processPauseCommand
  cases state : m.transmitState with
  | idle =>
      rw [state] at armed
      refine Ensures.ite (fun _ => (enter_ensures .pause armed rfl).imp ?_) fun _ => received_self (state ▸ armed)
      rintro _ ⟨timers, armed', rfl⟩
      exact ⟨.pause, timers, m.pauseUnitsRequested, [], by rw [List.append_nil], armed', rfl, .inr ⟨state, rfl⟩⟩
  | pause =>
      rw [state] at armed
      refine Ensures.ite (fun _ => (enter_ensures (m := m.cancelEvent .endPause) .pause
        (armed.cancel_tx rfl) rfl).imp ?_) fun none => ?_
      · rintro _ ⟨timers, armed', rfl⟩
        exact ⟨.pause, timers, m.pauseUnitsRequested, [], by rw [List.append_nil]; rfl, armed', rfl, .inl state.symm⟩
      · have loose : ¬ strict := fun tight => none (sound tight state)
        exact ⟨m.transmitState, _, m.pauseUnitsRequested, [], by rw [List.append_nil]; rfl,
          state ▸ armed.release loose .endPause, rfl, .inl rfl⟩
  | waitIFG | transmitting | jamming | backoff =>
      rw [state] at stored
      exact stored

theorem frameReceptionComplete_ensures (armed : Armed strict m.timers m.autoconfigInProgress m.transmitState rx)
    (sound : strict → m.transmitState = .pause → ∀ units ∈ frame.pauseTime, 0 < units.toInt) :
    Ensures (Quiet strict) (Received strict rx m) (m.frameReceptionComplete frame) := by
  unfold frameReceptionComplete
  cases kind : frame.kind with
  | ethFrame => exact processReceivedDataFrame_ensures armed
  | ethPause units =>
      exact processPauseCommand_ensures armed fun tight state => sound tight state units (frame.pauseTime_of kind)

/-- In the PAUSE state, the frame that is being received is no PAUSE frame of no time. -/
def KeepsPause (m : EtherMAC) : Prop :=
  m.transmitState = .pause → ∀ frame ∈ m.frameBeingReceived, ∀ units ∈ frame.pauseTime, 0 < units.toInt
deriving Decidable

theorem completeReception_ensures (some : m.frameBeingReceived.isSome)
    (armed : Armed strict m.timers m.autoconfigInProgress m.transmitState rx) (sound : strict → m.KeepsPause) :
    Ensures (Quiet strict) (Received strict rx { m with frameBeingReceived := none }) m.completeReception := by
  obtain ⟨frame, received⟩ := Option.isSome_iff_exists.mp some
  unfold completeReception
  rw [received]
  exact frameReceptionComplete_ensures (m := { m with frameBeingReceived := none }) armed
    fun tight state => sound tight state frame received

/-- What a step leaves: the states are settled, and the queue has moved on. -/
def Moves (strict : Prop) (e : Event) (m m' : EtherMAC) : Prop :=
  m'.Settled strict ∧ m'.par = m.par ∧ ∃ outs, m'.sent = m.sent ++ outs ∧
    Turn e m.transmitter m'.transmitter (requests outs)

theorem scheduleEndIFG_moves (sane : m.Sane) (running : m.autoconfigInProgress = false)
    (armed : Armed strict m.timers m.autoconfigInProgress .idle m.receiveState) (queued : m.txQueue ≠ []) :
    Ensures (Quiet strict) (Moves strict e m) m.scheduleEndIFGPeriod := by
  refine (scheduleEndIFGPeriod_ensures sane running armed queued).imp ?_
  rintro m' ⟨settled, par, queue, state, sent⟩
  refine ⟨settled, par, [], by rw [sent, List.append_nil], .keep (congrArg _ queue) fun idle => ?_⟩
  cases state.symm.trans idle

theorem handleEndIFGPeriod_moves (coherent : m.Coherent) (running : m.autoconfigInProgress = false)
    (state : m.transmitState = .waitIFG)
    (armed : Armed strict m.timers m.autoconfigInProgress .idle m.receiveState) :
    Ensures (Quiet strict) (Moves strict e m) m.handleEndIFGPeriod := by
  obtain ⟨frame, rest, queue⟩ := List.exists_cons_of_ne_nil (coherent.queued (by rw [state]; exact ⟨nofun, nofun⟩))
  unfold handleEndIFGPeriod
  rw [if_neg (not_not.mpr state), queue]
  obtain ⟨bytes, frames, burst⟩ := startBurst_eq { m with txQueue := m.extendCarrier frame :: rest }
  dsimp only
  rw [burst]
  have nonempty := List.cons_ne_nil (m.extendCarrier frame) rest
  refine (@startFrameTransmission_ensures strict { m with
    txQueue := _, bytesSentInBurst := bytes, framesSentInBurst := frames } ⟨coherent.sane.frame, coherent.sane.rate⟩
    running armed nonempty).imp ?_
  rintro m' ⟨settled, par, same, sends, outs, sent, none⟩
  have length : m'.txQueue.length = m.txQueue.length := by
    rw [same, queue]
    rfl
  exact ⟨settled, par, outs, sent, none ▸ .keep length fun idle => (sends.1 idle).elim⟩

theorem requestFrame_eq (m : EtherMAC) : ∃ outs, m.requestFrame = { m with sent := m.sent ++ outs } ∧
    requests outs = if m.par.queueModule then 1 else 0 := by
  unfold requestFrame
  split
  · exact ⟨[.requestPacket], rfl, rfl⟩
  · exact ⟨[], by rw [List.append_nil], rfl⟩

theorem beginSendFrames_ensures (sane : m.Sane) (running : m.autoconfigInProgress = false)
    (armed : Armed strict m.timers m.autoconfigInProgress .idle m.receiveState) :
    Ensures (Quiet strict) (fun m' => m'.Settled strict ∧ m'.par = m.par ∧ m'.txQueue = m.txQueue ∧
      ∃ outs, m'.sent = m.sent ++ outs ∧
        (m.txQueue ≠ [] ∧ m'.transmitState = .waitIFG ∧ requests outs = 0 ∨
          m.txQueue = [] ∧ m'.transmitState = .idle ∧ requests outs = if m.par.queueModule then 1 else 0))
      m.beginSendFrames := by
  refine Ensures.ite (fun queued => ?_) fun empty => ?_
  · refine (scheduleEndIFGPeriod_ensures sane running armed queued).imp ?_
    rintro m' ⟨settled, par, queue, state, sent⟩
    exact ⟨settled, par, queue, [], by rw [sent, List.append_nil], .inl ⟨queued, state, rfl⟩⟩
  · have none := not_not.mp empty
    have ended : ∀ {p : Prop}, m.autoconfigInProgress = true → p := fun auto =>
      (Bool.false_ne_true (running.symm.trans auto)).elim
    obtain ⟨outs, requested, count⟩ := requestFrame_eq { m with transmitState := .idle }
    rw [requested]
    exact ⟨⟨⟨⟨sane.frame, sane.rate⟩, fun sends => (sends.1 rfl).elim, fun _ => nofun, ended⟩, armed,
      fun _ _ queued => (queued none).elim⟩, rfl, rfl, outs, rfl, .inr ⟨none, rfl, count⟩⟩

theorem handleEndPausePeriod_moves (coherent : m.Coherent) (running : m.autoconfigInProgress = false)
    (state : m.transmitState = .pause) (armed : Armed strict m.timers m.autoconfigInProgress .idle m.receiveState)
    (ends : ∃ slotNumber, e = .selfMsg .endPause slotNumber) :
    Ensures (Quiet strict) (Moves strict e m) m.handleEndPausePeriod := by
  unfold handleEndPausePeriod
  rw [if_neg (not_not.mpr state)]
  refine (beginSendFrames_ensures coherent.sane running armed).imp ?_
  rintro m' ⟨settled, par, queue, outs, sent, ⟨queued, waits, none⟩ | ⟨empty, idle, one⟩⟩
  · refine ⟨settled, par, outs, sent, none ▸ .keep (congrArg _ queue) fun idle => .inr queued⟩
  · exact ⟨settled, par, outs, sent, one ▸ .resume ends empty (queue.trans empty) idle⟩

theorem handleEndTxPeriod_moves (coherent : m.Coherent) (running : m.autoconfigInProgress = false)
    (state : m.transmitState = .transmitting)
    (armed : Armed strict m.timers m.autoconfigInProgress .idle m.receiveState) :
    Ensures (Quiet strict) (Moves strict e m) m.handleEndTxPeriod := by
  obtain ⟨frame, rest, queue⟩ := List.exists_cons_of_ne_nil (coherent.queued (by rw [state]; exact ⟨nofun, nofun⟩))
  have length : rest.length + 1 = m.txQueue.length := (congrArg List.length queue).symm
  unfold handleEndTxPeriod
  rw [if_neg, queue]
  · refine Ensures.ite (fun paused => ?_) fun _ => Ensures.ite (fun burst => ?_) fun _ => ?_
    · refine (enter_ensures (m := { m with txQueue := rest, backoffs := 0 }) .pause armed rfl).bind ?_
      rintro _ ⟨timers, armed', rfl⟩
      refine ⟨⟨⟨⟨coherent.sane.frame, coherent.sane.rate⟩, fun sends => (sends.2 rfl).elim, fun _ => nofun, ?_⟩, armed',
        fun _ _ _ => nofun⟩, rfl, [], by rw [List.append_nil], .finish state length nofun⟩
      exact fun auto => (Bool.false_ne_true (running.symm.trans auto)).elim
    · refine (@startFrameTransmission_ensures strict { m with txQueue := rest, backoffs := 0 }
        ⟨coherent.sane.frame, coherent.sane.rate⟩ running armed burst.2.1).imp ?_
      rintro m' ⟨settled, par, same, sends, outs, sent, none⟩
      exact ⟨settled, par, outs, sent, none ▸ .finish state ((congrArg (List.length · + 1) same).trans length) sends.1⟩
    · refine (@beginSendFrames_ensures strict { m with txQueue := rest, backoffs := 0 }
        ⟨coherent.sane.frame, coherent.sane.rate⟩ running armed).imp ?_
      rintro m' ⟨settled, par, same, outs, sent, ⟨queued, waits, none⟩ | ⟨empty, idle, one⟩⟩
      · refine ⟨settled, par, outs, sent, none ▸ .finish state ((congrArg (List.length · + 1) same).trans length) ?_⟩
        exact fun idle => nomatch waits.symm.trans idle
      · have single : rest.length = 0 := congrArg List.length empty
        exact ⟨settled, par, outs, sent, one ▸ .finishLast state (by rw [single] at length; exact length.symm)
          (same.trans empty) idle⟩
  · rintro (other | ⟨half, busy⟩)
    · exact other state
    · exact busy (coherent.half (Bool.eq_false_iff.mpr half) state)

theorem handleEndBackoffPeriod_moves (coherent : m.Coherent) (running : m.autoconfigInProgress = false)
    (state : m.transmitState = .backoff)
    (armed : Armed strict m.timers m.autoconfigInProgress .idle m.receiveState) :
    Ensures (Quiet strict) (Moves strict e m) m.handleEndBackoffPeriod := by
  have queued := coherent.queued (by rw [state]; exact ⟨nofun, nofun⟩)
  unfold handleEndBackoffPeriod
  rw [if_neg (not_not.mpr state), if_neg queued]
  refine Ensures.ite (fun _ => scheduleEndIFG_moves coherent.sane running armed queued) fun busy => ?_
  refine ⟨⟨⟨⟨coherent.sane.frame, coherent.sane.rate⟩, fun sends => (sends.1 rfl).elim, fun _ => nofun, ?_⟩, armed,
    fun _ _ _ _ => busy⟩, rfl, [], by rw [List.append_nil], .keep rfl fun _ => .inr queued⟩
  exact fun auto => (Bool.false_ne_true (running.symm.trans auto)).elim

variable {slotNumber : Nat}

/-- A frame is given up after too many attempts. In a strict run, the receiver is still busy then, or no other
frame is queued. -/
theorem handleEndJammingPeriod_moves (coherent : m.Coherent)
    (running : m.autoconfigInProgress = false) (state : m.transmitState = .jamming)
    (armed : Armed strict m.timers m.autoconfigInProgress .idle m.receiveState)
    (sound : strict → maxAttempts ≤ m.backoffs → m.receiveState = .idle → m.txQueue.length ≤ 1)
    (ends : ∃ slotNumber, e = .selfMsg .endJamming slotNumber) :
    Ensures (Quiet strict) (Moves strict e m) (m.handleEndJammingPeriod slotNumber) := by
  have queued := coherent.queued (by rw [state]; exact ⟨nofun, nofun⟩)
  have positive := List.length_pos_iff.mpr queued
  have ended : ∀ {p : Prop}, m.autoconfigInProgress = true → p := fun auto =>
    (Bool.false_ne_true (running.symm.trans auto)).elim
  unfold handleEndJammingPeriod
  rw [if_neg (not_not.mpr state)]
  refine Ensures.ite (fun many => ?_) fun _ => ?_
  · refine ⟨⟨⟨⟨coherent.sane.frame, coherent.sane.rate⟩, fun sends => (sends.1 rfl).elim, fun _ => nofun, ended⟩, armed,
      fun tight _ left _ idle => left ?_⟩, rfl, [], by rw [List.append_nil], .abandon ends (Nat.le_of_lt_succ many) ?_ rfl⟩
    · have few := sound tight (Nat.le_of_lt_succ many) idle
      refine List.length_eq_zero_iff.mp ?_
      change m.txQueue.tail.length = 0
      rw [List.length_tail]
      exact Nat.sub_eq_zero_of_le few
    · change m.txQueue.tail.length + 1 = m.txQueue.length
      rw [List.length_tail]
      omega
  · refine (enter_ensures (m := { m with backoffs := m.backoffs + 1 }) .backoff armed rfl).imp ?_
    rintro _ ⟨timers, armed', rfl⟩
    exact ⟨⟨⟨⟨coherent.sane.frame, coherent.sane.rate⟩, fun _ => queued, fun _ => nofun, ended⟩, armed',
      fun _ _ _ => nofun⟩, rfl, [], by rw [List.append_nil], .keep rfl fun idle => nomatch idle⟩

theorem handleEndRxPeriod_moves (coherent : m.Coherent) (running : m.autoconfigInProgress = false)
    (armed : Armed strict m.timers m.autoconfigInProgress m.transmitState .idle)
    (sound : strict → m.receiveState = .receiving → m.KeepsPause) :
    Ensures (Quiet strict) (Moves strict e m) m.handleEndRxPeriod := by
  have completed : Ensures (Quiet strict) (Received strict .idle { m with frameBeingReceived := none })
      (if m.receiveState = .receiving then m.completeReception else .ok m) := by
    refine Ensures.ite (fun receiving => ?_) fun other => ?_
    · exact completeReception_ensures (coherent.sane.frame.mpr receiving) armed fun tight => sound tight receiving
    · have none := Option.not_isSome_iff_eq_none.mp (mt coherent.sane.frame.mp other)
      have same : { m with frameBeingReceived := .none } = m := by rw [← none]
      rw [same]
      exact received_self armed
  refine completed.bind ?_
  rintro _ ⟨tx, timers, units, outs, rfl, armed', count, state⟩
  have sane : Sane { m with
      timers, transmitState := tx, pauseUnitsRequested := units, sent := m.sent ++ outs
      frameBeingReceived := none, receiveState := .idle, numConcurrentTransmissions := 0 } :=
    ⟨iff_of_false Bool.false_ne_true nofun, coherent.sane.rate⟩
  refine Ensures.ite (fun waiting => ?_) fun still => ?_
  · obtain ⟨idle, queued⟩ : tx = .idle ∧ m.txQueue ≠ [] := waiting
    subst idle
    refine (scheduleEndIFGPeriod_ensures sane running armed' queued).imp ?_
    rintro m' ⟨settled, par, queue, waits, sent⟩
    refine ⟨settled, par, outs, sent, count ▸ .keep (congrArg _ queue) fun idle => ?_⟩
    cases waits.symm.trans idle
  · refine ⟨⟨⟨sane, fun sends => ?_, fun _ _ => rfl, ?_⟩, armed', fun _ _ queued idle => (still ⟨idle, queued⟩).elim⟩,
      rfl, outs, rfl, ?_⟩
    · obtain same | ⟨_, paused⟩ := state
      · exact coherent.queued (same ▸ sends)
      · exact (sends.2 paused).elim
    · exact fun auto => (Bool.false_ne_true (running.symm.trans auto)).elim
    · rw [count]
      refine .keep rfl fun idle => ?_
      obtain same | ⟨_, paused⟩ := state
      · exact .inl (same.symm.trans idle)
      · cases paused.symm.trans idle

theorem enqueue_ensures : Ensures (Quiet strict) (fun m' => ∃ queue, m' = { m with txQueue := queue } ∧
    queue.length = m.txQueue.length + 1) (m.enqueue frame) := by
  unfold enqueue
  cases frame.kind with
  | ethFrame =>
      refine Ensures.ite (fun _ => quiet_of_consistent rfl) fun _ => ⟨_, rfl, ?_⟩
      rw [List.length_append, List.length_singleton]
  | ethPause units =>
      cases queue : m.txQueue with
      | nil => exact ⟨_, rfl, rfl⟩
      | cons tail rest => exact ⟨_, rfl, rfl⟩

/-- A frame from above is queued. -/
structure Enters (strict : Prop) (m m' : EtherMAC) : Prop where
  settled : m'.Settled strict
  par : m'.par = m.par
  sent : m'.sent = m.sent
  length : m'.txQueue.length = m.txQueue.length + 1
  state : m'.transmitState = m.transmitState ∨ m'.transmitState = .waitIFG

theorem Enters.moves (enters : Enters strict m m') (frame : EtherFrame) : Moves strict (.upperLayerIn frame) m m' :=
  ⟨enters.settled, enters.par, [], by rw [enters.sent, List.append_nil],
    .enter ⟨frame, rfl⟩ enters.length enters.state⟩

theorem processFrameFromUpperLayer_enters (settled : m.Settled strict) :
    Ensures (Quiet strict) (Enters strict m) (m.processFrameFromUpperLayer frame) := by
  obtain ⟨coherent, armed, unsent⟩ := settled
  refine Ensures.ite (fun _ => quiet_of_consistent rfl) fun _ => Ensures.ite (fun _ => quiet_of_consistent rfl) fun _ =>
    enqueue_ensures.bind ?_
  rintro _ ⟨queue, rfl, length⟩
  have queued : queue ≠ [] := List.ne_nil_of_length_eq_add_one length
  have sane : Sane { m with txQueue := queue } := ⟨coherent.sane.frame, coherent.sane.rate⟩
  refine Ensures.ite (fun clear => ?_) fun occupied => ?_
  · obtain ⟨running, _, idle⟩ : ¬ m.autoconfigInProgress = true ∧ _ ∧ m.transmitState = .idle := clear
    rw [idle] at armed
    refine (scheduleEndIFGPeriod_ensures sane (Bool.eq_false_iff.mpr running) armed queued).imp ?_
    rintro m' ⟨settled, par, same, waits, sent⟩
    exact ⟨settled, par, sent, (congrArg _ same).trans length, .inr waits⟩
  · refine ⟨⟨⟨sane, fun _ => queued, coherent.half, coherent.starting⟩, armed, fun _ running _ idle clear => ?_⟩, rfl,
      rfl, length, .inl rfl⟩
    exact occupied ⟨Bool.eq_false_iff.mp running, .inr clear, idle⟩

variable {time : SimTime}

theorem rescheduleEndRx_ensures {p : Prop} [Decidable p] {count : Nat}
    (armed : Armed strict m.timers m.autoconfigInProgress m.transmitState m.receiveState)
    (busy : m.receiveState ≠ .idle) : Ensures (Quiet strict) (fun m' => ∃ timers,
      Armed strict timers m.autoconfigInProgress m.transmitState m.receiveState ∧
        m' = { m with timers, numConcurrentTransmissions := count })
      (if p then { m with numConcurrentTransmissions := count }.rescheduleEndRx time
        else .ok { m with numConcurrentTransmissions := count }) := by
  have cancelled := armed.cancel_rx
  refine Ensures.ite (fun _ => ?_) fun _ => ⟨m.timers, armed, rfl⟩
  refine (@scheduleAt_ensures strict (cancelEvent { m with numConcurrentTransmissions := count } .endReception) _ _
    cancelled.free_rx).imp ?_
  rintro _ rfl
  exact ⟨_, cancelled.schedule_rx busy, rfl⟩

theorem enterCollision_moves {timers : Alarms SelfMsg SimTime} {count : Nat} (coherent : m.Coherent)
    (running : m.autoconfigInProgress = false) (busy : m.receiveState ≠ .idle)
    (armed : Armed strict timers m.autoconfigInProgress m.transmitState m.receiveState) :
    Moves strict e m { m with timers, numConcurrentTransmissions := count }.enterCollision := by
  refine ⟨⟨⟨⟨iff_of_false (none_enterCollision coherent.sane.frame) nofun, coherent.sane.rate⟩, coherent.queued,
    fun half sends => (busy (coherent.half half sends)).elim, ?_⟩, armed.busy_rx busy nofun, fun _ _ _ _ => nofun⟩, rfl, [],
    (List.append_nil _).symm, .keep rfl .inl⟩
  exact fun auto => (Bool.false_ne_true (running.symm.trans auto)).elim

variable {endRxTime : SimTime}

theorem overlapJam_moves (settled : m.Settled strict)
    (running : m.autoconfigInProgress = false) (busy : m.receiveState ≠ .idle)
    (sound : strict → 0 < m.numConcurrentTransmissions) :
    Ensures (Quiet strict) (Moves strict e m) (m.overlapJam endRxTime) := by
  refine Ensures.ite (fun stray _ => ⟨rfl, fun tight => ?_⟩) fun _ => ?_
  · exact absurd (sound tight) (Nat.not_lt.mpr stray)
  · refine (rescheduleEndRx_ensures settled.armed busy).bind ?_
    rintro _ ⟨timers, armed, rfl⟩
    exact enterCollision_moves settled.coherent running busy armed

theorem overlapFrame_moves (settled : m.Settled strict)
    (running : m.autoconfigInProgress = false) (busy : m.receiveState ≠ .idle) :
    Ensures (Quiet strict) (Moves strict e m) (m.overlapFrame endRxTime) := by
  refine (rescheduleEndRx_ensures settled.armed busy).bind ?_
  rintro _ ⟨timers, armed, rfl⟩
  exact enterCollision_moves settled.coherent running busy armed

theorem interruptTransmission_moves (settled : m.Settled strict)
    (running : m.autoconfigInProgress = false) (half : m.link.duplexMode = false)
    (state : m.transmitState = .transmitting) :
    Ensures (Quiet strict) (Moves strict e m) (m.interruptTransmission endRxTime) := by
  obtain ⟨coherent, armed, _⟩ := settled
  have clear := coherent.half half state
  have queued := coherent.queued (by rw [state]; exact ⟨nofun, nofun⟩)
  rw [state, clear] at armed
  refine (sendJamSignal_ensures (m := m.cancelEvent .endTransmission) (armed.cancel_tx rfl)).bind ?_
  rintro _ ⟨timers, armed', rfl⟩
  refine (@scheduleAt_ensures strict { m with
    timers, sent := _, transmitState := .jamming, receiveState := .collision, numConcurrentTransmissions := _ } _ _
    armed'.free_rx).imp ?_
  rintro _ rfl
  refine ⟨⟨⟨⟨?_, coherent.sane.rate⟩, fun _ => queued, fun _ => nofun, ?_⟩, armed'.schedule_rx nofun,
    fun _ _ _ => nofun⟩, rfl, _, rfl, .keep rfl fun idle => nomatch idle⟩
  · refine iff_of_false (fun some => ?_) nofun
    cases clear.symm.trans (coherent.sane.frame.mp some)
  · exact fun auto => (Bool.false_ne_true (running.symm.trans auto)).elim

theorem startReception_moves (settled : m.Settled strict) (running : m.autoconfigInProgress = false)
    (free : ¬ (¬ m.link.duplexMode ∧ m.transmitState = .transmitting)) (clear : m.receiveState = .idle) :
    Ensures (Quiet strict) (Moves strict e m) (m.startReception frame) := by
  obtain ⟨coherent, armed, _⟩ := settled
  rw [clear] at armed
  unfold startReception
  rw [if_neg]
  · refine (@scheduleEndRxPeriod_ensures strict { m with
      numConcurrentTransmissions := _, frameBeingReceived := some frame } frame _ armed).imp ?_
    rintro _ ⟨timers, armed', rfl⟩
    refine ⟨⟨⟨⟨iff_of_true rfl rfl, coherent.sane.rate⟩, coherent.queued, ?_, ?_⟩, armed', fun _ _ _ _ => nofun⟩, rfl, [],
      (List.append_nil _).symm, .keep rfl .inl⟩
    · exact fun half sends => (free ⟨Bool.eq_false_iff.mp half, sends⟩).elim
    · exact fun auto => (Bool.false_ne_true (running.symm.trans auto)).elim
  · intro some
    cases clear.symm.trans (coherent.sane.frame.mp some)

theorem nextReception_moves (settled : m.Settled strict) (running : m.autoconfigInProgress = false)
    (receiving : m.receiveState = .receiving) (sound : strict → m.KeepsPause) :
    Ensures (Quiet strict) (Moves strict e m) (m.nextReception frame) := by
  obtain ⟨coherent, armed, _⟩ := settled
  refine (@completeReception_ensures strict (m.cancelEvent .endReception) .idle
    (coherent.sane.frame.mpr receiving) armed.cancel_rx sound).bind ?_
  rintro _ ⟨tx, timers, units, outs, rfl, armed', count, state⟩
  refine (@scheduleEndRxPeriod_ensures strict { m with
    timers, transmitState := tx, pauseUnitsRequested := units, sent := m.sent ++ outs
    frameBeingReceived := some frame } frame _ armed').imp ?_
  rintro _ ⟨timers', armed'', rfl⟩
  refine ⟨⟨⟨⟨iff_of_true rfl rfl, coherent.sane.rate⟩, fun sends => ?_, fun half sends => ?_, ?_⟩, armed'',
    fun _ _ _ _ => nofun⟩, rfl, outs, rfl, ?_⟩
  · obtain same | ⟨_, paused⟩ := state
    · exact coherent.queued (same ▸ sends)
    · exact (sends.2 paused).elim
  · obtain same | ⟨_, paused⟩ := state
    · cases receiving.symm.trans (coherent.half half (same.symm.trans sends))
    · cases paused.symm.trans sends
  · exact fun auto => (Bool.false_ne_true (running.symm.trans auto)).elim
  · rw [count]
    refine .keep rfl fun idle => ?_
    obtain same | ⟨_, paused⟩ := state
    · exact .inl (same.symm.trans idle)
    · cases paused.symm.trans idle

theorem receiveFrame_moves (settled : m.Settled strict) (running : m.autoconfigInProgress = false)
    (sound : strict → m.BackToBack → m.KeepsPause) :
    Ensures (Quiet strict) (Moves strict e m) (m.receiveFrame frame) := by
  refine Ensures.ite (fun collides => ?_) fun free => Ensures.ite (fun clear => ?_) fun busy =>
    Ensures.ite (fun next => ?_) fun _ => ?_
  · exact interruptTransmission_moves settled running (Bool.eq_false_iff.mpr collides.1) collides.2
  · exact startReception_moves settled running free clear
  · exact nextReception_moves settled running next.1 fun tight => sound tight next
  · exact overlapFrame_moves settled running busy

theorem processMsgFromNetwork_moves {msg : NetworkMsg} {sendingTime : SimTime} (settled : m.Settled strict)
    (running : m.autoconfigInProgress = false) (sound : strict → ¬ m.LongPropagation sendingTime →
      (msg = .jamSignal → m.receiveState ≠ .idle → 0 < m.numConcurrentTransmissions) ∧
        (msg.isFrame → m.BackToBack → m.KeepsPause)) :
    Ensures (Quiet strict) (Moves strict e m) (m.processMsgFromNetwork msg sendingTime) := by
  cases msg with
  | autoconfig txrate halfDuplex => exact quiet_of_consistent rfl
  | etherFrame frame =>
      refine Ensures.ite (fun _ => quiet_of_consistent rfl) fun short => ?_
      exact receiveFrame_moves settled running fun tight => (sound tight short).2 rfl
  | jamSignal =>
      refine Ensures.ite (fun _ => quiet_of_consistent rfl) fun short => Ensures.ite
        (fun _ => quiet_of_consistent rfl) fun _ => Ensures.ite (fun _ => quiet_of_consistent rfl) fun busy => ?_
      exact overlapJam_moves settled running busy fun tight => (sound tight short).1 rfl busy

theorem bitTime_nonneg {txrate : ℚ} {duplexMode : Bool} : Ensures (Quiet strict) (fun link => 0 ≤ link.bitTime)
    (calculateParameters txrate duplexMode) := by
  refine Ensures.ite (fun _ => quiet_of_consistent rfl) fun standard => ?_
  change 0 ≤ 1 / txrate
  by_contra negative
  refine standard ⟨?_, ?_, ?_⟩
  all_goals
    rintro rfl
    exact negative (by decide +kernel)

/-- Frames of the autoconfiguration period are sent after it. -/
theorem endAutoconfig_moves {msg : SelfMsg} (coherent : m.Coherent)
    (progress : m.autoconfigInProgress = true) (armed : Armed strict m.timers false .idle .idle) :
    Ensures (Quiet strict) (Moves strict e m) (m.handleAutoconfigMessage (.selfMsg msg slotNumber)) := by
  obtain ⟨idle, clear⟩ := coherent.starting progress
  refine bitTime_nonneg.bind fun link rate => ?_
  have sane : Sane { m with autoconfigInProgress := false, link } := ⟨coherent.sane.frame, rate⟩
  have armed' : Armed strict m.timers false .idle m.receiveState := clear ▸ armed
  refine Ensures.ite (fun queued => ?_) fun empty => ?_
  · refine (scheduleEndIFGPeriod_ensures sane rfl armed' queued).imp ?_
    rintro m' ⟨settled, par, queue, waits, sent⟩
    refine ⟨settled, par, [], by rw [List.append_nil]; exact sent, .keep (congrArg _ queue) fun _ => .inl idle⟩
  · refine ⟨⟨⟨sane, coherent.queued, fun _ _ => clear, nofun⟩, ?_, fun _ _ queued => (empty queued).elim⟩, rfl, [],
      by rw [List.append_nil], .keep rfl .inl⟩
    change Armed strict m.timers false m.transmitState m.receiveState
    rw [idle, clear]
    exact armed

theorem handleAutoconfigMessage_moves {e : Event} (settled : m.Settled strict)
    (network : ∀ msg slotNumber, e ≠ .selfMsg msg slotNumber) :
    Ensures (Quiet strict) (Moves strict e m) (m.handleAutoconfigMessage e) := by
  cases e with
  | upperLayerIn frame => exact (processFrameFromUpperLayer_enters settled).imp fun _ enters => enters.moves frame
  | physIn msg sendingTime =>
      cases msg with
      | autoconfig txrate halfDuplex =>
          obtain ⟨⟨sane, queued, half, starting⟩, armed, unsent⟩ := settled
          exact ⟨⟨⟨⟨sane.frame, sane.rate⟩, queued, half, starting⟩, armed, unsent⟩, rfl, [], (List.append_nil _).symm,
            .keep rfl .inl⟩
      | etherFrame frame => exact quiet_of_consistent rfl
      | jamSignal => exact quiet_of_consistent rfl
  | selfMsg msg slotNumber => exact (network msg slotNumber rfl).elim

/-- The steps that keep every transmitter going: no PAUSE frame of no time is received in the PAUSE state, a frame
is given up only while the receiver is busy or as the last one, and no jam signal comes without a
transmission. -/
def Sound (m : EtherMAC) (e : SimTime × Event) : Prop :=
  m.autoconfigInProgress = false →
    match e.2 with
    | .upperLayerIn _ => True
    | .physIn msg sendingTime => ¬ (m.deliver e.1 e.2).LongPropagation sendingTime →
        (msg = .jamSignal → m.receiveState ≠ .idle → 0 < m.numConcurrentTransmissions) ∧
          (msg.isFrame → (m.deliver e.1 e.2).BackToBack → m.KeepsPause)
    | .selfMsg .endReception _ => m.receiveState = .receiving → m.KeepsPause
    | .selfMsg .endJamming _ => maxAttempts ≤ m.backoffs → m.receiveState = .idle → m.txQueue.length ≤ 1
    | .selfMsg _ _ => True

instance (m : EtherMAC) (e : SimTime × Event) : Decidable (m.Sound e) := by
  unfold Sound
  obtain ⟨time, _ | _ | ⟨_ | _, _⟩⟩ := e <;> infer_instance

theorem handleMessage_running {e : Event} (coherent : m.Coherent) (running : m.autoconfigInProgress = false) :
    m.handleMessage e = m.dispatch e := by
  unfold handleMessage
  rw [running, if_neg Bool.false_ne_true, if_neg]
  rintro ⟨half, sends, busy⟩
  exact busy (coherent.half (Bool.eq_false_iff.mpr half) sends)

theorem transmitter_deliver (m : EtherMAC) (time : SimTime) (e : Event) :
    (m.deliver time e).transmitter = m.transmitter := by
  cases e <;> rfl

theorem sent_deliver (m : EtherMAC) (time : SimTime) (e : Event) : (m.deliver time e).sent = m.sent := by
  cases e <;> rfl

theorem par_deliver (m : EtherMAC) (time : SimTime) (e : Event) : (m.deliver time e).par = m.par := by
  cases e <;> rfl

theorem Moves.of_deliver (time : SimTime) (e : Event) (moves : Moves strict e (m.deliver time e) m') :
    Moves strict e m m' := by
  unfold Moves at moves
  rw [transmitter_deliver, sent_deliver, par_deliver] at moves
  exact moves

theorem Coherent.deliver (coherent : m.Coherent) (time : SimTime) (e : Event) : (m.deliver time e).Coherent := by
  obtain ⟨⟨frame, rate⟩, queued, half, starting⟩ := coherent
  cases e <;> exact ⟨⟨frame, rate⟩, queued, half, starting⟩

theorem running_of_transmits (coherent : m.Coherent) (busy : m.transmitState ≠ .idle) :
    m.autoconfigInProgress = false :=
  Bool.eq_false_iff.mpr fun progress => busy (coherent.starting progress).1

theorem running_of_receives (coherent : m.Coherent) (busy : m.receiveState ≠ .idle) :
    m.autoconfigInProgress = false :=
  Bool.eq_false_iff.mpr fun progress => busy (coherent.starting progress).2

theorem handle_selfMsg_moves {msg : SelfMsg} (settled : m.Settled strict)
    (on : m.timers.On msg) (sound : strict → m.Sound (time, .selfMsg msg slotNumber)) :
    Ensures (Quiet strict) (Moves strict (.selfMsg msg slotNumber) m) (m.handle (time, .selfMsg msg slotNumber)) := by
  obtain ⟨coherent, armed, unsent⟩ := settled
  have coherent' := coherent.deliver time (.selfMsg msg slotNumber)
  refine Ensures.imp ?_ fun _ => Moves.of_deliver time (.selfMsg msg slotNumber)
  obtain ⟨progress, rfl⟩ | sends | receives := armed.1 msg on
  · obtain ⟨idle, clear⟩ := coherent.starting progress
    rw [progress, idle, clear] at armed
    change Ensures _ _ (if m.autoconfigInProgress = true then _ else _)
    rw [if_pos progress]
    exact endAutoconfig_moves coherent' progress armed.cancel_autoconfig
  · have running := running_of_transmits coherent fun idle => by
      rw [idle] at sends
      cases sends
    have cancelled := armed.cancel_tx sends
    change Ensures _ _ (handleMessage _ _)
    rw [handleMessage_running coherent' running]
    cases state : m.transmitState with
    | idle =>
        rw [state] at sends
        cases sends
    | waitIFG =>
        rw [state] at sends
        cases sends
        exact handleEndIFGPeriod_moves coherent' running state cancelled
    | transmitting =>
        rw [state] at sends
        cases sends
        exact handleEndTxPeriod_moves coherent' running state cancelled
    | jamming =>
        rw [state] at sends
        cases sends
        exact handleEndJammingPeriod_moves coherent' running state cancelled (fun tight => sound tight running)
          ⟨slotNumber, rfl⟩
    | backoff =>
        rw [state] at sends
        cases sends
        exact handleEndBackoffPeriod_moves coherent' running state cancelled
    | pause =>
        rw [state] at sends
        cases sends
        exact handleEndPausePeriod_moves coherent' running state cancelled ⟨slotNumber, rfl⟩
  · cases ReceiveState.timer_eq receives
    have running := running_of_receives coherent fun idle => by
      rw [idle] at receives
      cases receives
    change Ensures _ _ (handleMessage _ _)
    rw [handleMessage_running coherent' running]
    exact handleEndRxPeriod_moves coherent' running armed.cancel_rx fun tight => sound tight running

theorem handle_moves {e : SimTime × Event} (settled : m.Settled strict) (admits : m.Admits e)
    (sound : strict → m.Sound e) : Ensures (Quiet strict) (Moves strict e.2 m) (m.handle e) := by
  obtain ⟨time, e⟩ := e
  obtain ⟨_, _, admits⟩ := admits
  by_cases self : ∃ msg slotNumber, e = .selfMsg msg slotNumber
  · obtain ⟨msg, slotNumber, rfl⟩ := self
    exact handle_selfMsg_moves settled admits.1 sound
  · have network : ∀ msg slotNumber, e ≠ .selfMsg msg slotNumber := fun msg slotNumber same => self ⟨_, _, same⟩
    have settled' : (m.deliver time e).Settled strict := by
      obtain ⟨coherent, armed, unsent⟩ := settled
      have coherent' := coherent.deliver time e
      cases e with
      | upperLayerIn frame => exact ⟨coherent', armed, unsent⟩
      | physIn msg sendingTime => exact ⟨coherent', armed, unsent⟩
      | selfMsg msg slotNumber => exact (network msg slotNumber rfl).elim
    refine Ensures.imp ?_ fun _ => Moves.of_deliver time e
    change Ensures _ _ (handleMessage _ _)
    cases progress : (m.deliver time e).autoconfigInProgress with
    | true =>
        unfold handleMessage
        rw [if_pos progress]
        exact handleAutoconfigMessage_moves settled' network
    | false =>
        rw [handleMessage_running settled'.coherent progress]
        cases e with
        | upperLayerIn frame => exact (processFrameFromUpperLayer_enters settled').imp fun _ enters => enters.moves frame
        | physIn msg sendingTime =>
            exact processMsgFromNetwork_moves settled' progress fun tight => sound tight progress
        | selfMsg msg slotNumber => exact (network msg slotNumber rfl).elim

theorem handle_enters (settled : m.Settled strict) :
    Ensures (Quiet strict) (Enters strict m) (m.handle (time, .upperLayerIn frame)) := by
  obtain ⟨coherent, armed, unsent⟩ := settled
  have settled' : (m.deliver time (.upperLayerIn frame)).Settled strict :=
    ⟨coherent.deliver time (.upperLayerIn frame), armed, unsent⟩
  have enters : Ensures (Quiet strict) (Enters strict m)
      ((m.deliver time (.upperLayerIn frame)).processFrameFromUpperLayer frame) :=
    (processFrameFromUpperLayer_enters settled').imp fun _ enters =>
      ⟨enters.settled, enters.par, enters.sent, enters.length, enters.state⟩
  change Ensures _ _ (handleMessage _ _)
  cases progress : (m.deliver time (.upperLayerIn frame)).autoconfigInProgress with
  | true =>
      unfold handleMessage
      rw [if_pos progress]
      exact enters
  | false =>
      rw [handleMessage_running settled'.coherent progress]
      exact enters

end EtherMAC

end IPv6Suite
