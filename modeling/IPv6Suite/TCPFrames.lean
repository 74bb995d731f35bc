import IPv6Suite.TCPSending

namespace IPv6Suite

open Lib

namespace TCPConnection

/-- All but what is changed when an ACK field is processed. -/
def exceptAcks (c : TCPConnection) : TCPConnection :=
  { c.exceptSending with
    sndUna := 0
    sendQueue := .create
    sndWnd := 0
    sndWl1 := 0
    sndWl2 := 0
    dupacks := 0
    finAckRcvd := false
    the2MSLTimer := false }

/-- All but what is changed when text and FIN are processed. -/
def exceptText (c : TCPConnection) : TCPConnection :=
  { c with
    rcvNxt := 0
    receiveQueue := ⟨0, []⟩
    finRcvd := false
    rcvFinSeq := 0
    delayedAckTimer := false
    the2MSLTimer := false
    finWait2Timer := false
    toIP := []
    toAppl := [] }

/-- All but what is changed when another state is entered that is not CLOSED. -/
def exceptTransition (c : TCPConnection) : TCPConnection :=
  { c with
    fsm := .init
    connEstabTimer := none
    synRexmitTimer := none
    toAppl := [] }

/-- All but what is changed when any other state is entered. -/
def exceptEntry (c : TCPConnection) : TCPConnection :=
  { c with
    fsm := .init
    connEstabTimer := none
    synRexmitTimer := none
    the2MSLTimer := false
    finWait2Timer := false
    rexmitTimer := false
    delayedAckTimer := false
    toAppl := [] }

/-- All but output and timers. -/
def exceptTimers (c : TCPConnection) : TCPConnection :=
  { c.exceptOutput with
    the2MSLTimer := false
    connEstabTimer := none
    finWait2Timer := false
    synRexmitTimer := none
    synRexmitCount := 0 }

/-- All but output and what an ACK changes that is dropped. -/
def exceptDropped (c : TCPConnection) : TCPConnection :=
  { c.exceptOutput with dupacks := 0, sndCwnd := 0 }

def timers (c : TCPConnection) : Bool × Option Bool × Bool × Option Bool :=
  (c.the2MSLTimer, c.connEstabTimer, c.finWait2Timer, c.synRexmitTimer)

/-- The indications after which the connection is closed -/
def terminal : TCPIndication → Bool
  | .closed | .connectionRefused | .connectionReset | .timedOut => true
  | _ => false

/-- What the application is told on the way to `next` where no bytes are handed up. -/
def Tells (c c' : TCPConnection) (next : TcpState) : Prop :=
  c'.toAppl = c.toAppl ∨ c'.toAppl = c.toAppl ++ [.status] ∨
    next = .closed ∧ ∃ code, terminal code = true ∧ c'.toAppl = c.toAppl ++ [code]

variable {c c' : TCPConnection}

theorem exceptAcks_of_exceptSending (same : c'.exceptSending = c.exceptSending) : c'.exceptAcks = c.exceptAcks := by
  unfold exceptAcks
  rw [same]

theorem exceptTimers_of_exceptOutput (same : c'.exceptOutput = c.exceptOutput) :
    c'.exceptTimers = c.exceptTimers := by
  unfold exceptTimers
  rw [same]

/-- A fault that neither the send queue raises nor the code that looks for bytes to retransmit. -/
def InRange : TCPFault → Prop
  | .sendQueue _ | .nothingToRetransmit | .outOfFuel => False
  | _ => True

theorem scheduleTimeout_inRange {timer : Bool} : Ensures InRange (fun _ => True) (scheduleTimeout timer) := by
  unfold scheduleTimeout
  split <;> exact True.intro

theorem acceptAck_returns (c : TCPConnection) (tcpseg : TCPSegment) : OnReturn
    (fun c' => c'.exceptAcks = c.exceptAcks ∧ c'.sndUna = tcpseg.ackNo ∧ c'.sndMax = c.sndMax ∧
      (c'.sndWnd = c.sndWnd ∨ c'.sndWnd = tcpseg.window)) (c.acceptAck tcpseg) := by
  unfold acceptAck
  refine Ensures.bind Ensures.trivial fun sendQueue _ => ?_
  rw [Ensures.pure_iff]
  split
  all_goals
    split
    · exact ⟨rfl, rfl, rfl, Or.inr rfl⟩
    · exact ⟨rfl, rfl, rfl, Or.inl rfl⟩

theorem processAckInEstabEtc_same (c : TCPConnection) (tcpseg : TCPSegment) : OnReturn
    (fun r => r.2.exceptAcks = c.exceptAcks) (c.processAckInEstabEtc tcpseg) := by
  unfold processAckInEstabEtc
  refine Ensures.ite (fun _ => ?_) fun _ => ?_
  · refine Ensures.ite (fun _ => ?_) fun _ => rfl
    refine Ensures.bind (TCPAlgorithm.receivedDuplicateAck_returns _) fun c' retransmits => ?_
    have same := exceptAcks_of_exceptSending retransmits.same
    exact same
  · refine Ensures.ite (fun _ => ?_) fun _ => ?_
    · refine Ensures.bind (acceptAck_returns c tcpseg) fun c₁ accepted => ?_
      refine Ensures.bind (TCPAlgorithm.receivedDataAck_returns c₁) fun c₂ advances => ?_
      exact (exceptAcks_of_exceptSending advances.same).trans accepted.1
    · refine Ensures.bind Ensures.trivial fun _ _ => ?_
      rfl

theorem established_same (c : TCPConnection) (active : Bool) : OnReturn
    (fun c' => c'.exceptAcks = c.exceptAcks) (TCPBaseAlg.established c active) :=
  (TCPBaseAlg.established_returns c active).imp fun _ advances =>
    exceptAcks_of_exceptSending advances.same

theorem processAck_same (c : TCPConnection) (tcpseg : TCPSegment) : OnReturn
    (fun check => check.connection.exceptAcks = c.exceptAcks) (c.processAck tcpseg) := by
  have processed := c.processAckInEstabEtc_same tcpseg
  unfold processAck
  split
  · refine Ensures.ite (fun _ => rfl) fun _ => ?_
    refine Ensures.bind (established_same c false) fun c₁ first => ?_
    refine Ensures.bind (c₁.processAckInEstabEtc_same tcpseg) fun r same => ?_
    rw [Ensures.pure_iff]
    split <;> exact same.trans first
  iterate 3
    refine Ensures.bind processed fun r same => ?_
    rw [Ensures.pure_iff]
    split <;> exact same
  · refine Ensures.bind processed fun r same => ?_
    rw [Ensures.pure_iff]
    split <;> exact same
  · refine Ensures.bind processed fun r same => ?_
    refine Ensures.ite (fun _ => ?_) fun _ => same
    refine Ensures.ite (fun _ => ?_) fun _ => same
    exact Ensures.bind Ensures.trivial fun _ _ => same
  · refine Ensures.ok ?_
    split <;> rfl
  iterate 5 rfl

/-- The states in which `processAckInEstabEtc` is called, but for SYN_RCVD -/
def checksAck : TcpState → Bool
  | .established | .finWait1 | .finWait2 | .closeWait | .closing => true
  | _ => false

theorem processAck_keeps {faults : TCPFault → Prop} {inv : TCPConnection → Prop}
    {tcpseg : TCPSegment} (past : c.fsm ≠ .synRcvd) (scheduled : faults .alreadyScheduled)
    (same : ∀ {c c' : TCPConnection}, inv c → c'.exceptTimers = c.exceptTimers →
      c'.transmissions = c.transmissions → inv c') (start : checksAck c.fsm = false → inv c)
    (processed : checksAck c.fsm = true → Ensures faults (fun r => inv r.2) (c.processAckInEstabEtc tcpseg)) :
    Ensures faults (fun check => inv check.connection) (c.processAck tcpseg) := by
  have outcome {r : Bool × TCPConnection} {event event' : TCPEventCode} (kept : inv r.2) :
      Ensures faults (fun check => inv check.connection)
        (pure (if r.1 = true then .proceed event r.2 else .drop event' r.2) : TCPExec AckCheck) := by
    rw [Ensures.pure_iff]
    split <;> exact kept
  unfold processAck
  split
  · rename_i fsm
    exact absurd fsm past
  iterate 4
    rename_i fsm
    exact Ensures.bind (processed (congrArg checksAck fsm)) fun r kept => outcome kept
  · rename_i fsm
    refine Ensures.bind (processed (congrArg checksAck fsm)) fun r kept => ?_
    refine Ensures.ite (fun _ => ?_) fun _ => kept
    refine Ensures.ite (fun _ => ?_) fun _ => kept
    unfold scheduleTimeout
    split
    · exact scheduled
    · exact same kept rfl rfl
  · rename_i fsm
    have start := start (congrArg checksAck fsm)
    rw [Ensures.ok_iff]
    split
    · exact same start rfl rfl
    · exact start
  · rename_i fsm
    exact same (start (congrArg checksAck fsm)) rfl (transmissions_sendAck c)
  iterate 4
    rename_i fsm
    exact start (congrArg checksAck fsm)

theorem processAckInEstabEtc_dropped (c : TCPConnection) (tcpseg : TCPSegment) : OnReturn
    (fun r => r.1 = false → r.2.exceptDropped = c.exceptDropped ∧ r.2.transmissions = c.transmissions)
    (c.processAckInEstabEtc tcpseg) := by
  unfold processAckInEstabEtc
  refine Ensures.ite (fun _ => ?_) fun _ => ?_
  · refine Ensures.ite (fun _ => ?_) fun _ => nofun
    exact Ensures.bind Ensures.trivial fun _ _ => nofun
  · refine Ensures.ite (fun _ => ?_) fun _ => ?_
    · refine Ensures.bind Ensures.trivial fun _ _ => ?_
      exact Ensures.bind Ensures.trivial fun _ _ => nofun
    · exact Ensures.bind Ensures.trivial fun _ _ _ => ⟨rfl, transmissions_sendAck c⟩

theorem processAck_synRcvd (fsm : c.fsm = .synRcvd) (tcpseg : TCPSegment) : OnReturn
    (fun check => match check with
      | .drop event c' => event = .ignore ∧ c'.exceptDropped = c.exceptDropped ∧
          c'.transmissions = c.transmissions
      | .proceed event _ => event = .rcvAck)
    (c.processAck tcpseg) := by
  unfold processAck
  rw [fsm]
  refine Ensures.ite (fun _ => ⟨rfl, rfl, transmissions_sendRst c tcpseg.ackNo⟩) fun _ => ?_
  refine Ensures.ok_bind ?_
  refine Ensures.bind (processAckInEstabEtc_dropped _ tcpseg) fun r dropped => ?_
  rw [Ensures.pure_iff]
  cases ok : r.1 with
  | true => rfl
  | false => exact ⟨rfl, dropped ok⟩

theorem processText_same (c : TCPConnection) (tcpseg : TCPSegment) : Ensures InRange
    (fun c' => c'.exceptText = c.exceptText) (c.processText tcpseg) := by
  unfold processText
  refine Ensures.ite (fun _ => ?_) fun _ => rfl
  refine Ensures.ite (fun _ => rfl) fun _ => ?_
  refine Ensures.bind Ensures.trivial.mapError fun extracted _ => ?_
  rw [Ensures.pure_iff]
  split <;> rfl

theorem finEvent_returns (c : TCPConnection) : Ensures InRange
    (fun r => (r.1 = .rcvFin ∨ r.1 = .rcvFinAck ∧ c.fsm = .finWait1) ∧
      ∃ the2MSLTimer finWait2Timer, r.2 = { c with the2MSLTimer, finWait2Timer }) c.finEvent := by
  unfold finEvent
  split
  · rename_i waits
    refine Ensures.ite (fun _ => ?_) fun _ => ⟨Or.inl rfl, _, _, rfl⟩
    exact Ensures.bind scheduleTimeout_inRange fun timer _ =>
      ⟨Or.inr ⟨rfl, waits⟩, timer, false, rfl⟩
  · exact Ensures.bind scheduleTimeout_inRange fun timer _ => ⟨Or.inl rfl, timer, false, rfl⟩
  · exact ⟨Or.inl rfl, _, _, rfl⟩
  · exact ⟨Or.inl rfl, _, _, rfl⟩

theorem receiveFin_same (c : TCPConnection) (tcpseg : TCPSegment) :
    (c.receiveFin tcpseg).exceptText = c.exceptText := by
  unfold receiveFin
  dsimp only
  split <;> rfl

theorem acknowledge_same (c : TCPConnection) (oldRcvNxt : BitVec 32) :
    (c.acknowledge oldRcvNxt).exceptText = c.exceptText := by
  unfold acknowledge TCPBaseAlg.receiveSeqChanged
  split
  · split <;> rfl
  · rfl

/-- What the checks from the sixth on leave unchanged, and the events they lead to. -/
theorem processTextAndFin_returns (c : TCPConnection) (tcpseg : TCPSegment) (event : TCPEventCode)
    (oldSndNxt : BitVec 32) : Ensures InRange (fun r => r.2.exceptText = c.exceptText ∧
      (r.1 = .close ∧ c.fsm = .closeWait ∨ r.1 = event ∧ tcpseg.finBit = false ∨
        r.1 = .rcvFin ∧ tcpseg.finBit = true ∨ r.1 = .rcvFinAck ∧ tcpseg.finBit = true ∧ c.fsm = .finWait1))
    (c.processTextAndFin tcpseg event oldSndNxt) := by
  unfold processTextAndFin
  refine Ensures.bind (c.processText_same tcpseg) fun c₁ text => ?_
  have fsm₁ : c₁.fsm = c.fsm := (congrArg fsm text :)
  have fin : Ensures InRange (fun r => r.2.exceptText = c.exceptText ∧
      (r.1 = event ∧ tcpseg.finBit = false ∨ r.1 = .rcvFin ∧ tcpseg.finBit = true ∨
        r.1 = .rcvFinAck ∧ tcpseg.finBit = true ∧ c.fsm = .finWait1))
      (c₁.processFin tcpseg event) := by
    unfold processFin
    refine Ensures.ite (fun fin => ?_) fun plain => ?_
    · refine (c₁.receiveFin tcpseg).finEvent_returns.imp ?_
      rintro ⟨event', c₂⟩ ⟨events, timer, timer', rfl⟩
      have same := (c₁.receiveFin_same tcpseg).trans text
      have fsm₂ : (c₁.receiveFin tcpseg).fsm = c.fsm := (congrArg fsm same :)
      rw [fsm₂] at events
      refine ⟨same, ?_⟩
      rcases events with rcvFin | ⟨rcvFinAck, waits⟩
      · exact Or.inr (Or.inl ⟨rcvFin, fin⟩)
      · exact Or.inr (Or.inr ⟨rcvFinAck, fin, waits⟩)
    · exact ⟨text, Or.inl ⟨rfl, Bool.eq_false_iff.mpr plain⟩⟩
  refine Ensures.bind fin ?_
  rintro ⟨event', c₂⟩ ⟨same, events⟩
  rw [Ensures.pure_iff]
  dsimp only at same events ⊢
  have notified := (c₂.acknowledge_same c.rcvNxt).trans same
  refine ⟨notified, ?_⟩
  unfold deferredClose
  split
  · rename_i deferred
    have fsm₃ := (congrArg fsm notified :)
    exact Or.inl ⟨rfl, fsm₃.symm.trans deferred.1⟩
  · exact Or.inr events

theorem finEvent_toIP (c : TCPConnection) : OnReturn (fun r => r.2.toIP = c.toIP) c.finEvent := by
  refine OnReturn.of_ensures (c.finEvent_returns.imp ?_)
  rintro r ⟨-, the2MSLTimer, finWait2Timer, same⟩
  rw [same]

theorem acknowledge_transmissions (c : TCPConnection) (oldRcvNxt : BitVec 32) :
    (c.acknowledge oldRcvNxt).transmissions = c.transmissions := by
  unfold acknowledge TCPBaseAlg.receiveSeqChanged
  split
  · split
    · exact transmissions_sendAck c
    · rfl
  · rfl

/-- From the sixth check on only acknowledgements are sent. -/
theorem processTextAndFin_transmissions (c : TCPConnection) (tcpseg : TCPSegment)
    (event : TCPEventCode) (oldSndNxt : BitVec 32) : OnReturn (fun r => r.2.transmissions = c.transmissions)
    (c.processTextAndFin tcpseg event oldSndNxt) := by
  have text : OnReturn (fun c' => c'.transmissions = c.transmissions) (c.processText tcpseg) := by
    unfold processText
    refine Ensures.ite (fun _ => ?_) fun _ => rfl
    refine Ensures.ite (fun _ => transmissions_sendAck _) fun _ => ?_
    refine Ensures.bind Ensures.trivial fun extracted _ => ?_
    rw [Ensures.pure_iff]
    split <;> rfl
  unfold processTextAndFin
  refine Ensures.bind text fun c₁ first => ?_
  have fin : OnReturn (fun r => r.2.transmissions = c.transmissions) (c₁.processFin tcpseg event) := by
    unfold processFin
    refine Ensures.ite (fun _ => ?_) fun _ => first
    refine (finEvent_toIP _).imp fun r same => ?_
    have received : (c₁.receiveFin tcpseg).toIP = c₁.toIP := by
      unfold receiveFin
      dsimp only
      split <;> rfl
    unfold transmissions at *
    rw [same, received, first]
  refine Ensures.bind fin fun r sent => ?_
  exact (r.2.acknowledge_transmissions c.rcvNxt).trans sent

/-- The segment gets as far as the fifth check. -/
structure Passes (c : TCPConnection) (tcpseg : TCPSegment) : Prop where
  acceptable : c.isSegmentAcceptable tcpseg
  plain : tcpseg.rstBit = false
  synBit : tcpseg.synBit = false
  ackBit : tcpseg.ackBit = true

/-- The ways through the checks, once the connection is past LISTEN and SYN_SENT. -/
inductive SegmentReaction (c : TCPConnection) (tcpseg : TCPSegment) :
    TCPEventCode × TCPConnection → Prop
  | refused {c' : TCPConnection} (same : c'.exceptOutput = c.exceptOutput)
      (blocked : ¬ c.Passes tcpseg) (told : c'.toAppl = c.toAppl)
      (sent : c'.transmissions = c.transmissions) : SegmentReaction c tcpseg (.ignore, c')
  | reset {r : TCPEventCode × TCPConnection} (reset : c.processRst = .ok r)
      (blocked : ¬ c.Passes tcpseg) : SegmentReaction c tcpseg r
  | unexpected (blocked : ¬ c.Passes tcpseg) :
      SegmentReaction c tcpseg (.rcvUnexpSyn, c.sendIndicationToApp .connectionReset)
  | drops {event : TCPEventCode} {c' : TCPConnection} (passes : c.Passes tcpseg)
      (checked : c.processAck tcpseg = .ok (.drop event c')) : SegmentReaction c tcpseg (event, c')
  | proceeds {event : TCPEventCode} {c' : TCPConnection} {r : TCPEventCode × TCPConnection}
      (passes : c.Passes tcpseg) (checked : c.processAck tcpseg = .ok (.proceed event c'))
      (processed : c'.processTextAndFin tcpseg event c.sndNxt = .ok r) : SegmentReaction c tcpseg r

/-- Where the checks fail. -/
inductive SegmentFault (c : TCPConnection) (tcpseg : TCPSegment) : TCPFault → Prop
  | inRange {fault : TCPFault} (inRange : InRange fault) : SegmentFault c tcpseg fault
  | reset {fault : TCPFault} (fails : c.processRst = .error fault) : SegmentFault c tcpseg fault
  | ack {fault : TCPFault} (passes : c.Passes tcpseg) (fails : c.processAck tcpseg = .error fault) :
      SegmentFault c tcpseg fault

theorem processSegment1stThru8th_returns (c : TCPConnection) (tcpseg : TCPSegment) :
    Ensures (SegmentFault c tcpseg) (SegmentReaction c tcpseg) (c.processSegment1stThru8th tcpseg) := by
  unfold processSegment1stThru8th
  refine Ensures.ite (fun beyond => .refused ?_ (fun passes => beyond passes.acceptable) ?_ ?_)
    fun acceptable => ?_
  · split <;> rfl
  · split <;> rfl
  · split
    · rfl
    · exact transmissions_sendAck c
  refine Ensures.ite (fun rst => ?_) fun plain => ?_
  · have blocked : ¬ c.Passes tcpseg := fun passes => Bool.noConfusion (passes.plain.symm.trans rst)
    exact Ensures.of_cases (fun _ reset => .reset reset blocked) fun _ => .reset
  refine Ensures.ite (fun syn => .unexpected fun passes => ?_) fun syn => ?_
  · exact Bool.noConfusion (passes.synBit.symm.trans syn)
  refine Ensures.ite (fun ack => .refused rfl (fun passes => ack passes.ackBit) rfl rfl) fun
    ack => ?_
  have passes : c.Passes tcpseg :=
    ⟨not_not.mp acceptable, Bool.eq_false_iff.mpr plain, Bool.eq_false_iff.mpr syn, not_not.mp ack⟩
  cases checked : c.processAck tcpseg with
  | error fault => exact .ack passes checked
  | ok check =>
      cases check with
      | drop event c' => exact .drops passes checked
      | proceed event c' =>
          refine Ensures.of_cases (fun _ => .proceeds passes checked) fun fault fails => ?_
          exact .inRange ((processTextAndFin_returns _ _ _ _).of_error fails)

/-- A reset that is accepted closes the connection and is told, or leads back to LISTEN. -/
theorem processRst_tells (c : TCPConnection) : OnReturn
    (fun r => r.1 = .rcvRst ∧ ∃ sendQueue toAppl, r.2 = { c with sendQueue, toAppl } ∧
      (toAppl = c.toAppl ∧ c.fsm = .synRcvd ∧ c.active = false ∨ (c.fsm = .synRcvd → c.active = true) ∧
          ∃ code, terminal code = true ∧ toAppl = c.toAppl ++ [code])) c.processRst := by
  unfold processRst
  split
  · rename_i fsm
    unfold processRstInSynReceived
    refine Ensures.bind Ensures.trivial fun sendQueue _ => ?_
    rw [Ensures.pure_iff]
    split
    · rename_i active
      exact ⟨rfl, _, _, rfl, Or.inr ⟨fun _ => active, .connectionRefused, rfl, rfl⟩⟩
    · rename_i passive
      exact ⟨rfl, _, _, rfl, Or.inl ⟨rfl, fsm, Bool.eq_false_iff.mpr passive⟩⟩
  iterate 4
    rename_i fsm
    exact ⟨rfl, _, _, rfl,
      Or.inr ⟨fun waits => (nomatch fsm.symm.trans waits), .connectionReset, rfl, rfl⟩⟩
  iterate 3
    rename_i fsm
    exact ⟨rfl, _, _, rfl,
      Or.inr ⟨fun waits => (nomatch fsm.symm.trans waits), .closed, rfl, rfl⟩⟩
  iterate 4 exact True.intro

theorem processRst_returns (c : TCPConnection) : OnReturn
    (fun r => r.1 = .rcvRst ∧ ∃ sendQueue toAppl, r.2 = { c with sendQueue, toAppl }) c.processRst := by
  refine c.processRst_tells.imp ?_
  rintro r ⟨event, sendQueue, toAppl, same, -⟩
  exact ⟨event, sendQueue, toAppl, same⟩

theorem SegmentReaction.fsm {tcpseg : TCPSegment} {r : TCPEventCode × TCPConnection}
    (reaction : c.SegmentReaction tcpseg r) : r.2.fsm = c.fsm := by
  cases reaction with
  | refused same => exact (congrArg TCPConnection.fsm same :)
  | reset reset =>
      obtain ⟨-, sendQueue, toAppl, same⟩ := c.processRst_returns.of_ok reset
      rw [same]
  | unexpected => rfl
  | drops _ checked =>
      exact (congrArg TCPConnection.fsm ((c.processAck_same tcpseg).of_ok checked) :)
  | proceeds _ checked processed =>
      have acked := (c.processAck_same tcpseg).of_ok checked
      have text := ((processTextAndFin_returns _ tcpseg _ _).of_ok processed).1
      have fsm₁ := (congrArg TCPConnection.fsm acked :)
      have fsm₂ := (congrArg TCPConnection.fsm text :)
      exact fsm₂.trans fsm₁

theorem stateEntered_returns (c : TCPConnection) : Ensures InRange
    (fun c' => c'.fsm = c.fsm ∧ (c.fsm ≠ .closed → c'.exceptTransition = c.exceptTransition)) c.stateEntered := by
  unfold stateEntered
  split
  iterate 3 exact ⟨rfl, fun _ => rfl⟩
  · unfold TCPExec.assert
    split
    · exact ⟨rfl, fun _ => rfl⟩
    · exact True.intro
  iterate 7 exact ⟨rfl, fun _ => rfl⟩
  · rename_i closed
    exact ⟨rfl, fun remains => absurd closed remains⟩

theorem performStateTransition_returns (c : TCPConnection) (event : TCPEventCode) : Ensures InRange
    (fun c' => c'.fsm = c.nextState event ∧ (c'.fsm ≠ .closed → c'.exceptTransition = c.exceptTransition))
    (c.performStateTransition event) := by
  unfold performStateTransition
  refine Ensures.ite (fun stays => ⟨stays.symm, fun _ => rfl⟩) fun _ => ?_
  refine (stateEntered_returns _).imp ?_
  rintro c' ⟨fsm, same⟩
  exact ⟨fsm, fun remains => same fun closed => remains (fsm.trans closed)⟩

theorem performStateTransition_same (c : TCPConnection) (event : TCPEventCode) : Ensures InRange
    (fun c' => c'.fsm = c.nextState event ∧ c'.exceptEntry = c.exceptEntry) (c.performStateTransition event) := by
  unfold performStateTransition
  refine Ensures.ite (fun stays => ⟨stays.symm, rfl⟩) fun _ => ?_
  unfold stateEntered
  split
  case h_4 =>
    unfold TCPExec.assert
    split
    · rename_i fsm _
      exact ⟨rfl, rfl⟩
    · exact True.intro
  all_goals exact ⟨rfl, rfl⟩

variable {simTime : Nat} {input : TCPInput}

theorem handle_cases (alive : c.fsm ≠ .closed) (done : c.handle simTime input = .ok c') :
    ∃ r, (c.atTime simTime).processInput input = .ok r ∧ c'.fsm = r.2.nextState r.1 ∧
      c'.exceptEntry = r.2.exceptEntry := by
  unfold handle at done
  rw [if_neg alive] at done
  cases processed : (c.atTime simTime).processInput input with
  | error fault =>
      rw [processed] at done
      cases done
  | ok r =>
      rw [processed] at done
      obtain ⟨fsm, same⟩ := (performStateTransition_same r.2 r.1).of_ok done
      exact ⟨r, rfl, fsm, same⟩

/-- An invariant of state and connection that does not depend on what the state machine
changes is kept by a step if the code before the state machine keeps it for the next state. -/
theorem handle_ensures {faults : TCPFault → Prop} (others : ∀ fault, InRange fault → faults fault)
    (inv : TcpState → TCPConnection → Prop) (ends : ∀ c, inv .closed c)
    (entered : ∀ {fsm : TcpState} {c c' : TCPConnection},
      c'.exceptTransition = c.exceptTransition → inv fsm c → inv fsm c') (processed : c.fsm ≠ .closed →
      Ensures faults (fun r => inv (r.2.nextState r.1) r.2) ((c.atTime simTime).processInput input))
    (start : inv c.fsm c) : Ensures faults (fun c' => inv c'.fsm c') (c.handle simTime input) := by
  unfold handle
  refine Ensures.ite (fun _ => start) fun open' => ?_
  refine Ensures.bind (processed open') fun r next => ?_
  refine (performStateTransition_returns r.2 r.1).mono ?_ others
  rintro c' ⟨fsm, same⟩
  rw [← fsm] at next
  by_cases ended : c'.fsm = .closed
  · rw [ended]
    exact ends c'
  · exact entered (same ended) next

theorem handle_keeps (inv : TcpState → TCPConnection → Prop) (ends : ∀ c, inv .closed c)
    (entered : ∀ {fsm : TcpState} {c c' : TCPConnection},
      c'.exceptTransition = c.exceptTransition → inv fsm c → inv fsm c') (processed : c.fsm ≠ .closed →
      OnReturn (fun r => inv (r.2.nextState r.1) r.2) ((c.atTime simTime).processInput input))
    (start : inv c.fsm c) (done : c.handle simTime input = .ok c') : inv c'.fsm c' :=
  (handle_ensures (fun _ _ => True.intro) inv ends entered processed start).of_ok done

end TCPConnection

end IPv6Suite
