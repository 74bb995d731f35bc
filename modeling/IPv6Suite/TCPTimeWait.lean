import IPv6Suite.TCPTimers

namespace IPv6Suite

open Lib

/-- `TCP_TIMEOUT_2MSL`, 240 seconds in ticks of 4 microseconds -/
def timeout2MSL : Nat := 240 * 250000

/-- A connection with the time at which its 2MSL timer is due -/
structure TimedConnection where
  connection : TCPConnection
  due : Option Nat
  scheduled : connection.the2MSLTimer = due.isSome

namespace TimedConnection

variable {t : TimedConnection} {tcpseg : TCPSegment}

/-- A change of the connection that leaves the timer alone -/
def update (t : TimedConnection) (c : TCPConnection) (kept : c.the2MSLTimer = t.connection.the2MSLTimer) :
    TimedConnection :=
  ⟨c, t.due, kept.trans t.scheduled⟩

/-- `cancelEvent(the2MSLTimer); scheduleTimeout(the2MSLTimer, TCP_TIMEOUT_2MSL)` -/
def restart2MSLTimer (t : TimedConnection) : TimedConnection :=
  ⟨{ t.connection with the2MSLTimer := true }, some (t.connection.simTime + timeout2MSL), rfl⟩

def sendAck (t : TimedConnection) : TimedConnection := t.update t.connection.sendAck rfl

def sendIndicationToApp (t : TimedConnection) (code : TCPIndication) : TimedConnection :=
  t.update (t.connection.sendIndicationToApp code) rfl

theorem receiveFin_the2MSLTimer (c : TCPConnection) (tcpseg : TCPSegment) :
    (c.receiveFin tcpseg).the2MSLTimer = c.the2MSLTimer := by
  unfold TCPConnection.receiveFin
  dsimp only
  split
  · rfl
  · rfl

def receiveFin (t : TimedConnection) (tcpseg : TCPSegment) : TimedConnection :=
  t.update (t.connection.receiveFin tcpseg) (receiveFin_the2MSLTimer _ _)

theorem acknowledge_the2MSLTimer (c : TCPConnection) (oldRcvNxt : BitVec 32) :
    (c.acknowledge oldRcvNxt).the2MSLTimer = c.the2MSLTimer := by
  unfold TCPConnection.acknowledge TCPBaseAlg.receiveSeqChanged
  split
  · split
    · rfl
    · rfl
  · rfl

def acknowledge (t : TimedConnection) (oldRcvNxt : BitVec 32) : TimedConnection :=
  t.update (t.connection.acknowledge oldRcvNxt) (acknowledge_the2MSLTimer _ _)

/-- `processSegment1stThru8th` in TIME_WAIT. Segment text is ignored there. -/
def processSegmentInTimeWait (t : TimedConnection) (tcpseg : TCPSegment) : TCPEventCode × TimedConnection :=
  if ¬ t.connection.isSegmentAcceptable tcpseg then (.ignore, if tcpseg.rstBit then t else t.sendAck)
  else if tcpseg.rstBit then (.rcvRst, t.sendIndicationToApp .closed)
  else if tcpseg.synBit then (.rcvUnexpSyn, t.sendIndicationToApp .connectionReset)
  else if ¬ tcpseg.ackBit then (.ignore, t)
  else
    let t := t.sendAck.restart2MSLTimer
    let oldRcvNxt := t.connection.rcvNxt
    if tcpseg.finBit then (.rcvFin, (t.receiveFin tcpseg).restart2MSLTimer.acknowledge oldRcvNxt)
    else (.ignore, t.acknowledge oldRcvNxt)

theorem receiveFin_fsm (c : TCPConnection) (tcpseg : TCPSegment) : (c.receiveFin tcpseg).fsm = c.fsm := by
  unfold TCPConnection.receiveFin
  dsimp only
  split
  · rfl
  · rfl

theorem acknowledge_fsm (c : TCPConnection) (oldRcvNxt : BitVec 32) : (c.acknowledge oldRcvNxt).fsm = c.fsm := by
  unfold TCPConnection.acknowledge TCPBaseAlg.receiveSeqChanged
  split
  · split
    · rfl
    · rfl
  · rfl

theorem finEvent_timeWait {c : TCPConnection} (waits : c.fsm = .timeWait) :
    c.finEvent = .ok (.rcvFin, { c with the2MSLTimer := true }) := by
  unfold TCPConnection.finEvent
  split
  · simp_all
  · simp_all
  · rfl
  · simp_all

theorem processTextAndFin_timeWait {c : TCPConnection} (waits : c.fsm = .timeWait) (event : TCPEventCode)
    (oldSndNxt : BitVec 32) :
    c.processTextAndFin tcpseg event oldSndNxt =
      .ok (if tcpseg.finBit then
          (.rcvFin, { c.receiveFin tcpseg with the2MSLTimer := true }.acknowledge c.rcvNxt)
        else (event, c.acknowledge c.rcvNxt)) := by
  have text : c.processText tcpseg = .ok c := by simp [TCPConnection.processText, TCPConnection.takesText, waits]
  have noClose (c' : TCPConnection) (event : TCPEventCode) (inState : c'.fsm = .timeWait) :
      c'.deferredClose event oldSndNxt = event := by
    simp [TCPConnection.deferredClose, inState]
  unfold TCPConnection.processTextAndFin
  rw [text]
  show c.processFin tcpseg event >>= _ = _
  by_cases fin : tcpseg.finBit = true
  · have received := (receiveFin_fsm c tcpseg).trans waits
    have processed : c.processFin tcpseg event =
        .ok (.rcvFin, { c.receiveFin tcpseg with the2MSLTimer := true }) :=
      (if_pos fin).trans (finEvent_timeWait received)
    rw [processed, if_pos fin]
    show Except.ok (TCPConnection.deferredClose _ _ _, _) = _
    rw [noClose]
    exact (acknowledge_fsm _ _).trans received
  · have processed : c.processFin tcpseg event = .ok (event, c) := if_neg fin
    rw [processed, if_neg fin]
    show Except.ok (TCPConnection.deferredClose _ _ _, _) = _
    rw [noClose]
    exact (acknowledge_fsm _ _).trans waits

/-- The connection does what it does without the times. -/
theorem processSegmentInTimeWait_connection (waits : t.connection.fsm = .timeWait) :
    t.connection.processSegment1stThru8th tcpseg =
      .ok ((t.processSegmentInTimeWait tcpseg).1, (t.processSegmentInTimeWait tcpseg).2.connection) := by
  have checked : t.connection.processAck tcpseg =
      .ok (.proceed .ignore t.sendAck.restart2MSLTimer.connection) := by
    simp only [TCPConnection.processAck, waits]
    rfl
  unfold TCPConnection.processSegment1stThru8th processSegmentInTimeWait
  split
  · split
    · rfl
    · rfl
  split
  · simp only [TCPConnection.processRst, waits]
    rfl
  split
  · rfl
  split
  · rfl
  rw [checked]
  show t.sendAck.restart2MSLTimer.connection.processTextAndFin tcpseg .ignore _ = _
  have waits' : t.sendAck.restart2MSLTimer.connection.fsm = .timeWait := waits
  rw [processTextAndFin_timeWait waits']
  by_cases fin : tcpseg.finBit = true
  · simp only [if_pos fin]
    rfl
  · simp only [if_neg fin]
    rfl

/-- The peer's FIN once more, when `rcv_nxt` has moved over it. -/
structure RetransmitsFin (c : TCPConnection) (tcpseg : TCPSegment) : Prop where
  finBit : tcpseg.finBit = true
  ackBit : tcpseg.ackBit = true
  rstBit : tcpseg.rstBit = false
  synBit : tcpseg.synBit = false
  consumed : seqLess (tcpseg.sequenceNo + BitVec.ofNat 32 tcpseg.payloadLength) c.rcvNxt

/-- The 2MSL timer is due the whole time-out from now. -/
def Restarted (t : TimedConnection) : Prop := t.due = some (t.connection.simTime + timeout2MSL)

/-- What is sent is one segment, which acknowledges what has been received. -/
def Acks (c c' : TCPConnection) : Prop :=
  c'.toIP = c.toIP ++ [{ TCPSegment.create with
    ackBit := true, sequenceNo := c.sndNxt, ackNo := c.rcvNxt, window := c.rcvWnd }]

/-- The segment passes the first check: it begins so far before `rcv_nxt` that it is taken for new. -/
def TakenForNew (c : TCPConnection) (tcpseg : TCPSegment) : Prop :=
  (tcpseg.sequenceNo = c.rcvNxt ∨ 2 ^ 31 < (c.rcvNxt - tcpseg.sequenceNo).toNat) ∧
    seqLE (tcpseg.sequenceNo + BitVec.ofNat 32 tcpseg.payloadLength) (c.rcvNxt + c.rcvWnd)

theorem isSegmentAcceptable_iff (c : TCPConnection) (tcpseg : TCPSegment) :
    c.isSegmentAcceptable tcpseg ↔ TakenForNew c tcpseg := by
  have ahead : seqGE tcpseg.sequenceNo c.rcvNxt ↔
      tcpseg.sequenceNo = c.rcvNxt ∨ 2 ^ 31 < (c.rcvNxt - tcpseg.sequenceNo).toNat := by
    unfold seqGE
    bv_omega
  unfold TCPConnection.isSegmentAcceptable TakenForNew
  rw [ahead]

theorem receiveFin_consumed {c : TCPConnection} (again : RetransmitsFin c tcpseg) :
    c.receiveFin tcpseg = { c with
      finRcvd := true
      rcvFinSeq := tcpseg.sequenceNo + BitVec.ofNat 32 tcpseg.payloadLength } := by
  have other : c.rcvNxt ≠ tcpseg.sequenceNo + BitVec.ofNat 32 tcpseg.payloadLength := by
    intro same
    exact again.consumed.1 same.symm
  exact if_neg other

theorem processSegmentInTimeWait_acceptable (acceptable : t.connection.isSegmentAcceptable tcpseg)
    (again : RetransmitsFin t.connection tcpseg) : t.processSegmentInTimeWait tcpseg =
      (.rcvFin, (t.sendAck.restart2MSLTimer.receiveFin tcpseg).restart2MSLTimer.acknowledge t.connection.rcvNxt) := by
  unfold processSegmentInTimeWait
  simp only [acceptable, not_true, if_false, again.rstBit, again.synBit, again.ackBit, again.finBit, if_true,
    Bool.false_eq_true]
  rfl

theorem processSegmentInTimeWait_unacceptable (rejected : ¬ t.connection.isSegmentAcceptable tcpseg)
    (rstBit : tcpseg.rstBit = false) : t.processSegmentInTimeWait tcpseg = (.ignore, t.sendAck) := by
  unfold processSegmentInTimeWait
  simp [rejected, rstBit]

/-- A FIN that is sent again is always acknowledged. The timer is started anew only if the segment is taken for new, or
if it has just been started. -/
theorem finAgain_restarts_iff (waits : t.connection.fsm = .timeWait) (again : RetransmitsFin t.connection tcpseg) :
    t.connection.processSegment1stThru8th tcpseg =
        .ok ((t.processSegmentInTimeWait tcpseg).1, (t.processSegmentInTimeWait tcpseg).2.connection) ∧
      Acks t.connection (t.processSegmentInTimeWait tcpseg).2.connection ∧
        ((t.processSegmentInTimeWait tcpseg).2.Restarted ↔
          TakenForNew t.connection tcpseg ∨ t.Restarted) := by
  refine ⟨processSegmentInTimeWait_connection waits, ?_⟩
  rw [← isSegmentAcceptable_iff]
  by_cases acceptable : t.connection.isSegmentAcceptable tcpseg
  · rw [processSegmentInTimeWait_acceptable acceptable again]
    have again' : RetransmitsFin t.sendAck.restart2MSLTimer.connection tcpseg :=
      ⟨again.finBit, again.ackBit, again.rstBit, again.synBit, again.consumed⟩
    have received := receiveFin_consumed again'
    -- `rcv_nxt` has moved over the FIN before, so that no second ACK is sent
    have nothing : ((t.sendAck.restart2MSLTimer.receiveFin tcpseg).restart2MSLTimer.acknowledge
        t.connection.rcvNxt).connection =
          (t.sendAck.restart2MSLTimer.receiveFin tcpseg).restart2MSLTimer.connection := by
      apply if_neg
      apply not_not_intro
      show _ = (t.sendAck.restart2MSLTimer.connection.receiveFin tcpseg).rcvNxt
      rw [received]
      rfl
    unfold Acks Restarted
    rw [nothing]
    simp only [acceptable, true_or, iff_true]
    constructor
    · show (t.sendAck.restart2MSLTimer.connection.receiveFin tcpseg).toIP = _
      rw [received]
      rfl
    · rfl
  · rw [processSegmentInTimeWait_unacceptable acceptable again.rstBit]
    simp only [acceptable, false_or]
    exact ⟨rfl, Iff.rfl⟩

def exampleWaiting : List (Nat × TCPInput) :=
  [(0, .command (.openActive true)), (1, .segment TCPConnection.exampleSynAck), (2, .command .close),
    (3, .segment { TCPConnection.exampleFin 2 with sequenceNo := 501 })]

/-- The peer has not got the acknowledgement of its FIN, and sends it again. -/
def exampleFinAgain : TCPSegment := { TCPConnection.exampleFin 2 with sequenceNo := 501 }

theorem finAgain_restarts_iff_example : ∃ (t : TimedConnection),
    run TCPConnection.step (.create .reno) exampleWaiting = .ok t.connection ∧
      Acks t.connection (t.processSegmentInTimeWait exampleFinAgain).2.connection ∧
        ((t.processSegmentInTimeWait exampleFinAgain).2.Restarted ↔
          TakenForNew t.connection exampleFinAgain ∨ t.Restarted) := by
  refine ⟨⟨_, some (3 + timeout2MSL), rfl⟩, rfl, (finAgain_restarts_iff rfl ?_).2⟩
  exact ⟨rfl, rfl, rfl, rfl, by decide⟩

/-- The FIN that comes again a second later is acknowledged, but the timer stays as it was. -/
theorem finAgain_keeps_timer : ∃ (c : TCPConnection) (scheduled : c.the2MSLTimer = true),
    run TCPConnection.step (.create .reno) exampleWaiting = .ok c ∧ c.fsm = .timeWait ∧
      RetransmitsFin c exampleFinAgain ∧
        ¬ (processSegmentInTimeWait ⟨c.atTime 250003, some (3 + timeout2MSL), scheduled⟩
          exampleFinAgain).2.Restarted := by
  refine ⟨_, ?_, rfl, rfl, ⟨rfl, rfl, rfl, rfl, by decide⟩, ?_⟩
  · rfl
  · rw [processSegmentInTimeWait_unacceptable (by decide) rfl]
    show ¬ some (3 + timeout2MSL) = some (250003 + timeout2MSL)
    simp

end TimedConnection

end IPv6Suite
