import IPv6Suite.TCPFrames

namespace IPv6Suite

open Lib

namespace TCPConnection

variable {c c' : TCPConnection}

/-- The initial sequence number that would be selected now. -/
def clockIss (c : TCPConnection) : BitVec 32 := BitVec.ofNat 32 c.simTime

/-- After a SYN or SYN+ACK with a new initial sequence number has been sent. -/
def withSynSent (c : TCPConnection) : TCPConnection :=
  { c with
    iss := c.clockIss
    sndUna := c.clockIss
    sndNxt := c.clockIss + 1
    sndMax := c.clockIss + 1
    sendQueue := ⟨c.clockIss + 1, c.clockIss + 1⟩ }

theorem sendSyn_returns (c : TCPConnection) : Ensures InRange
    (fun c' => c.remoteSpecified = true ∧ c'.transmissions = c.transmissions ∧
      ∃ toIP, c' = { c with sndNxt := c.iss + 1, sndMax := c.iss + 1, toIP })
    c.sendSyn := by
  unfold sendSyn
  split
  · rename_i specified
    exact ⟨specified, transmissions_append rfl rfl, _, rfl⟩
  · exact True.intro

theorem startSynRexmitTimer_returns (c : TCPConnection) : Ensures InRange
    (fun c' => ∃ synRexmitTimer synRexmitCount, c' = { c with synRexmitTimer, synRexmitCount })
    c.startSynRexmitTimer := by
  unfold startSynRexmitTimer
  split
  · exact True.intro
  · exact ⟨_, _, rfl⟩

theorem scheduleSetupTimer_inRange {timer : Option Bool} :
    Ensures InRange (fun timer' => timer' = some true) (scheduleSetupTimer timer) := by
  unfold scheduleSetupTimer scheduleTimeout
  split
  · exact True.intro
  · split
    · exact True.intro
    · exact Ensures.map rfl

theorem openActively_returns (c : TCPConnection) : Ensures InRange
    (fun c' => c.remoteSpecified = true ∧ c'.transmissions = c.transmissions ∧
      ∃ synRexmitTimer connEstabTimer synRexmitCount toIP,
        c' = { c.withSynSent with synRexmitTimer, connEstabTimer, synRexmitCount, toIP }) c.openActively := by
  unfold openActively
  refine Ensures.bind (sendSyn_returns _) ?_
  rintro c₁ ⟨specified, sent, toIP, rfl⟩
  refine Ensures.bind (startSynRexmitTimer_returns _) ?_
  rintro c₂ ⟨synRexmitTimer, synRexmitCount, rfl⟩
  exact Ensures.bind scheduleSetupTimer_inRange fun connEstabTimer _ =>
    ⟨specified, sent, _, _, _, _, rfl⟩

theorem processSegmentInListen_returns (c : TCPConnection) (tcpseg : TCPSegment) : Ensures InRange
    (fun r => r.1 = .ignore ∧ r.2.exceptOutput = c.exceptOutput ∧ r.2.toAppl = c.toAppl ∧
        r.2.transmissions = c.transmissions ∨
      r.1 = .rcvSyn ∧ r.2.transmissions = c.transmissions ∧ ∃ synRexmitTimer connEstabTimer synRexmitCount toIP,
        r.2 = insertBytes { c.withSynSent with
          remoteSpecified := true
          rcvNxt := tcpseg.sequenceNo + 1
          irs := tcpseg.sequenceNo
          receiveQueue := c.receiveQueue.init (tcpseg.sequenceNo + 1)
          sndWnd := tcpseg.window
          sndWl1 := tcpseg.sequenceNo
          sndWl2 := c.clockIss
          synRexmitTimer, connEstabTimer, synRexmitCount, toIP } tcpseg)
    (c.processSegmentInListen tcpseg) := by
  unfold processSegmentInListen
  refine Ensures.ite (fun _ => Or.inl ⟨rfl, rfl, rfl, rfl⟩) fun _ => ?_
  refine Ensures.ite (fun _ => Or.inl ⟨rfl, rfl, rfl, transmissions_sendRst _ _⟩) fun _ => ?_
  refine Ensures.ite (fun _ => ?_) fun _ => Or.inl ⟨rfl, rfl, rfl, rfl⟩
  refine Ensures.bind (startSynRexmitTimer_returns _) ?_
  rintro c₁ ⟨synRexmitTimer, synRexmitCount, rfl⟩
  split
  · exact True.intro
  · exact Or.inr ⟨rfl, transmissions_append rfl rfl, _, _, _, _, rfl⟩

/-- The number that the SYN has been sent with is acknowledged. -/
def AcksSyn (c : TCPConnection) (tcpseg : TCPSegment) : Prop :=
  ¬ (seqLE tcpseg.ackNo c.iss ∨ seqGreater tcpseg.ackNo c.sndNxt)

theorem AcksSyn.ackNo {tcpseg : TCPSegment} (acks : c.AcksSyn tcpseg)
    (sndNxt : c.sndNxt = c.iss + 1) : tcpseg.ackNo = c.iss + 1 := by
  unfold AcksSyn seqLE seqGreater at acks
  rw [sndNxt, not_or] at acks
  obtain ⟨after, before⟩ := acks
  by_contra other
  have beyond : ¬ (tcpseg.ackNo - (c.iss + 1)).toNat < 2 ^ 31 := fun near => before ⟨other, near⟩
  bv_omega

def withSynReceived (c : TCPConnection) (tcpseg : TCPSegment) : TCPConnection :=
  { c with
    remoteSpecified := true
    rcvNxt := tcpseg.sequenceNo + 1
    irs := tcpseg.sequenceNo
    receiveQueue := c.receiveQueue.init (tcpseg.sequenceNo + 1) }

/-- The connection after a SYN+ACK in SYN_SENT, before the algorithm is notified -/
def withSynAckReceived (c : TCPConnection) (tcpseg : TCPSegment)
    (sendQueue : TCPVirtualDataSendQueue) : TCPConnection :=
  let c := { c.withSynReceived tcpseg with
    sndUna := tcpseg.ackNo
    sendQueue
    sndWnd := tcpseg.window
    sndWl1 := tcpseg.sequenceNo
    sndWl2 := tcpseg.ackNo }
  if 0 < tcpseg.payloadLength then c.receiveBytes tcpseg else c

/-- The ways out of SYN_SENT, and what is left unchanged without one. -/
inductive SynSentReaction (c : TCPConnection) (tcpseg : TCPSegment) :
    TCPEventCode × TCPConnection → Prop
  | ignores {c' : TCPConnection} (same : c'.exceptOutput = c.exceptOutput)
      (told : c'.toAppl = c.toAppl) (sent : c'.transmissions = c.transmissions) :
      SynSentReaction c tcpseg (.ignore, c')
  | resets (acks : tcpseg.ackBit → c.AcksSyn tcpseg) (reset : tcpseg.rstBit ∧ tcpseg.ackBit) :
      SynSentReaction c tcpseg (.rcvRst, c.sendIndicationToApp .connectionReset)
  | establishes {c' : TCPConnection} {sendQueue : TCPVirtualDataSendQueue}
      (acks : c.AcksSyn tcpseg) (synAck : tcpseg.synBit ∧ tcpseg.ackBit)
      (discarded : c.sendQueue.discardUpTo tcpseg.ackNo = .ok sendQueue)
      (notified : TCPBaseAlg.established (c.withSynAckReceived tcpseg sendQueue) true = .ok c') :
      SynSentReaction c tcpseg (.rcvSynAck, c')
  | crosses {synRexmitTimer : Option Bool} {synRexmitCount : Nat} {toIP : List TCPSegment}
      (syn : tcpseg.synBit ∧ ¬ tcpseg.ackBit)
      (sent : { c with toIP }.transmissions = c.transmissions) :
      SynSentReaction c tcpseg (.rcvSyn, insertBytes { c.withSynReceived tcpseg with
        sndNxt := c.iss + 1, sndMax := c.iss + 1, synRexmitTimer, synRexmitCount, toIP } tcpseg)

/-- Where a segment in SYN_SENT makes the code fail. -/
inductive SynSentFault (c : TCPConnection) (tcpseg : TCPSegment) : TCPFault → Prop
  | inRange {fault : TCPFault} (inRange : InRange fault) : SynSentFault c tcpseg fault
  | discards {fault : Fault} (acks : c.AcksSyn tcpseg)
      (fails : c.sendQueue.discardUpTo tcpseg.ackNo = .error fault) :
      SynSentFault c tcpseg (.sendQueue fault)
  | establishes {fault : TCPFault} {sendQueue : TCPVirtualDataSendQueue}
      (acks : c.AcksSyn tcpseg)
      (discarded : c.sendQueue.discardUpTo tcpseg.ackNo = .ok sendQueue)
      (fails : TCPBaseAlg.established (c.withSynAckReceived tcpseg sendQueue) true = .error fault) :
      SynSentFault c tcpseg fault

theorem processSegmentInSynSent_returns {tcpseg : TCPSegment} (sndUna : c.sndUna = c.iss)
    (sndNxt : c.sndNxt = c.iss + 1) :
    Ensures (SynSentFault c tcpseg) (SynSentReaction c tcpseg) (c.processSegmentInSynSent tcpseg) := by
  unfold processSegmentInSynSent
  refine Ensures.ite (fun _ => .ignores rfl rfl (transmissions_sendRst _ _)) fun wrong => ?_
  have acks (ack : tcpseg.ackBit) : c.AcksSyn tcpseg := fun bad => wrong ⟨ack, bad⟩
  refine Ensures.ite (fun rst => ?_) fun _ => ?_
  · exact Ensures.ite (fun ack => .resets acks ⟨rst, ack⟩) fun _ => .ignores rfl rfl rfl
  refine Ensures.ite (fun syn => ?_) fun _ => .ignores rfl rfl rfl
  unfold acceptSynAck
  by_cases ack : tcpseg.ackBit = true
  · simp only [if_pos ack]
    have ackNo := (acks ack).ackNo sndNxt
    cases discarded : c.sendQueue.discardUpTo tcpseg.ackNo with
    | error fault => exact .discards (acks ack) discarded
    | ok sendQueue =>
        have past : seqGreater tcpseg.ackNo c.iss := by
          unfold seqGreater
          rw [ackNo]
          constructor
          · bv_omega
          · bv_omega
        change Ensures _ _ (if seqGreater tcpseg.ackNo c.iss then _ else _)
        rw [if_pos past]
        refine Ensures.bind (Ensures.returned fun fault => ?_) fun c' => ?_
        · exact .establishes (acks ack) discarded
        · exact .establishes (acks ack) ⟨syn, ack⟩ discarded
  · simp only [if_neg ack]
    have before : ¬ seqGreater c.sndUna c.iss := by
      rw [sndUna]
      exact fun greater => greater.1 rfl
    change Ensures _ _ (if seqGreater c.sndUna c.iss then _ else _)
    rw [if_neg before]
    refine Ensures.bind ((startSynRexmitTimer_returns _).mono (fun _ => id) fun _ => .inRange) ?_
    rintro c₁ ⟨synRexmitTimer, synRexmitCount, rfl⟩
    exact .crosses ⟨syn, ack⟩ (transmissions_append rfl rfl)

/-- The states up to SYN_RCVD -/
def opening : TcpState → Bool
  | .init | .listen | .synSent | .synRcvd => true
  | _ => false

variable {event : TCPEventCode}

/-- No state machine entry leads back to these states. -/
theorem opening_transition {active : Bool} {fsm next : TcpState}
    (past : opening fsm = false) (enters : transition active fsm event = some next) : opening next = false := by
  cases fsm <;> cases event <;>
    first | (cases enters; done) | (cases past; done) | (cases enters; rfl)

theorem opening_nextState (past : opening c.fsm = false) (event : TCPEventCode) :
    opening (c.nextState event) = false := by
  unfold nextState
  split
  · exact past
  · cases enters : transition c.active c.fsm event with
    | none => exact past
    | some next => exact opening_transition past enters

theorem synRcvd_not_late (late : opening c.fsm = false) : c.fsm ≠ .synRcvd := by
  intro waits
  rw [waits] at late
  cases late

theorem established_nextState (past : opening c.fsm = false)
    (enters : c.nextState event = .established) : c.fsm = .established := by
  unfold nextState at enters
  split at enters
  · exact enters
  · cases fsm : c.fsm
    case established => rfl
    all_goals
      rw [fsm] at past enters
      cases event <;> first | (cases past; done) | cases enters

/-- Where the code fails before the state machine is reached. -/
inductive InputFault (c : TCPConnection) : TCPInput → TCPFault → Prop
  | inRange {input : TCPInput} {fault : TCPFault} (inRange : InRange fault) :
      InputFault c input fault
  | sends {msg : CMessage} {fault : TCPFault} (open' : c.fsm = .established ∨ c.fsm = .closeWait)
      (fails : TCPBaseAlg.sendCommandInvoked (c.enqueueAppData msg) = .error fault) :
      InputFault c (.command (.send msg)) fault
  | synSent {tcpseg : TCPSegment} {fault : TCPFault} (waits : c.fsm = .synSent)
      (fails : c.SynSentFault tcpseg fault) : InputFault c (.segment tcpseg) fault
  | segment {tcpseg : TCPSegment} {fault : TCPFault}
      (past : c.fsm = .synRcvd ∨ opening c.fsm = false)
      (fails : c.SegmentFault tcpseg fault) : InputFault c (.segment tcpseg) fault
  | rexmit {fault : TCPFault} (scheduled : c.rexmitTimer = true)
      (fails : TCPAlgorithm.processRexmitTimer { c with rexmitTimer := false } = .error fault) :
      InputFault c (.timeout .rexmitTimer) fault

/-- Only an expiry changes a timer, the one that expires. -/
def KeepsTimers (c : TCPConnection) (input : TCPInput) (c' : TCPConnection) : Prop :=
  c'.timers = c.timers ∨ ∃ timer, input = .timeout timer ∧ c'.timers = (c.expire timer).timers

/-- What commands and time-outs do past SYN_RCVD; `quiet` are those that leave the send and
receive variables as they are. -/
inductive LateReaction (c : TCPConnection) : TCPInput → TCPEventCode × TCPConnection → Prop
  | sends {msg : CMessage} {c' : TCPConnection} (open' : c.fsm = .established ∨ c.fsm = .closeWait)
      (sent : TCPBaseAlg.sendCommandInvoked (c.enqueueAppData msg) = .ok c') :
      LateReaction c (.command (.send msg)) (.send, c')
  | closes {r : TCPEventCode × TCPConnection} (open' : c.fsm = .established ∨ c.fsm = .closeWait)
      (closes : c.processClose = .ok r) : LateReaction c (.command .close) r
  | quiet {input : TCPInput} {event : TCPEventCode} {c' : TCPConnection}
      (same : c'.exceptTimers = c.exceptTimers)
      (next : c'.nextState event = c.fsm ∨ c'.nextState event = .closed)
      (timers : c.KeepsTimers input c') (told : c.Tells c' (c'.nextState event))
      (sent : c'.transmissions = c.transmissions) : LateReaction c input (event, c')
  | segment {tcpseg : TCPSegment} {r : TCPEventCode × TCPConnection}
      (reaction : c.SegmentReaction tcpseg r) : LateReaction c (.segment tcpseg) r
  | rexmit {r : TCPEventCode × TCPConnection} (scheduled : c.rexmitTimer = true)
      (expires : TCPAlgorithm.processRexmitTimer { c with rexmitTimer := false } = .ok r) :
      LateReaction c (.timeout .rexmitTimer) r

/-- Events that close a connection or leave it in its state. -/
def closesOrStays : TCPEventCode → Bool
  | .ignore | .abort | .status | .timeout2MSL | .timeoutFinWait2 => true
  | _ => false

theorem nextState_eq {fsm : TcpState} (at' : c.fsm = fsm) (event : TCPEventCode) :
    c.nextState event = if event = .ignore then fsm else (transition c.active fsm event).getD fsm := by
  unfold nextState
  rw [at']

theorem nextState_closesOrStays (quiet : closesOrStays event = true)
    (c : TCPConnection) : c.nextState event = c.fsm ∨ c.nextState event = .closed := by
  unfold nextState
  cases c.fsm <;> cases event <;>
    first | exact Or.inl rfl | exact Or.inr rfl | cases quiet

variable {input : TCPInput}

theorem LateReaction.of_quiet (same : c'.exceptTimers = c.exceptTimers) (quiet : closesOrStays event = true)
    (timers : c.KeepsTimers input c') (told : c.Tells c' (c'.nextState event))
    (sent : c'.transmissions = c.transmissions) : LateReaction c input (event, c') := by
  have fsm : c'.fsm = c.fsm := (congrArg TCPConnection.fsm same :)
  refine .quiet same ?_ timers told sent
  rw [← fsm]
  exact nextState_closesOrStays quiet c'

theorem processClose_returns (c : TCPConnection) :
    Ensures InRange (fun r => c.processClose = .ok r) c.processClose := by
  refine Ensures.returned fun fault fails => ?_
  unfold processClose at fails
  cases fsm : c.fsm
  case synRcvd | established | closeWait =>
    rw [fsm] at fails
    dsimp only at fails
    split at fails <;> cases fails
  case listen | synSent | closed =>
    rw [fsm] at fails
    cases fails
  all_goals
    rw [fsm] at fails
    cases fails
    exact True.intro

theorem processAppCommand_late (past : opening c.fsm = false) (alive : c.fsm ≠ .closed) (cmd : TCPCommand) :
    Ensures (InputFault c (.command cmd)) (LateReaction c (.command cmd)) (c.processAppCommand cmd) := by
  cases cmd with
  | openActive remote =>
      refine Ensures.map ?_
      unfold processOpenActive
      split
      iterate 2
        rename_i fsm
        rw [fsm] at past
        cases past
      exact .inRange True.intro
  | openPassive =>
      refine Ensures.map ?_
      unfold processOpenPassive
      split
      iterate 2
        rename_i fsm
        rw [fsm] at past
        cases past
      exact .inRange True.intro
  | send msg =>
      refine Ensures.map ?_
      unfold processSend
      split
      iterate 3
        rename_i fsm
        rw [fsm] at past
        cases past
      · rename_i fsm
        exact Ensures.of_cases (fun _ => .sends (Or.inl fsm)) fun _ => .sends (Or.inl fsm)
      · rename_i fsm
        exact Ensures.of_cases (fun _ => .sends (Or.inr fsm)) fun _ => .sends (Or.inr fsm)
      · rename_i fsm
        exact absurd fsm alive
      iterate 6 exact .inRange True.intro
  | close =>
      refine (processClose_returns c).mono (fun r closes => .closes ?_ closes) fun _ => .inRange
      unfold processClose at closes
      cases fsm : c.fsm
      case established => exact Or.inl rfl
      case closeWait => exact Or.inr rfl
      case closed => exact absurd fsm alive
      all_goals
        rw [fsm] at past closes
        first | (cases past; done) | cases closes
  | abort =>
      refine Ensures.map ?_
      unfold processAbort
      split
      · exact .inRange True.intro
      iterate 5 exact .of_quiet rfl rfl (Or.inl rfl) (Or.inl rfl) (transmissions_sendRst c c.sndNxt)
      exact .of_quiet rfl rfl (Or.inl rfl) (Or.inl rfl) rfl
  | status =>
      refine Ensures.map ?_
      unfold processStatus
      exact Ensures.ite (fun _ => .inRange True.intro) fun _ =>
        .of_quiet rfl rfl (Or.inl rfl) (Or.inr (Or.inl rfl)) rfl

theorem processTimer_late (past : opening c.fsm = false) {timer : TCPTimer}
    (scheduled : c.isScheduled timer = true) :
    Ensures (InputFault c (.timeout timer)) (LateReaction c (.timeout timer)) ((c.expire timer).processTimer timer) := by
  cases timer with
  | the2MSLTimer =>
      refine Ensures.map ?_
      refine Ensures.ite (fun fsm => ?_) fun _ => .inRange True.intro
      exact .of_quiet rfl rfl (Or.inr ⟨_, rfl, rfl⟩)
        (Or.inr (Or.inr ⟨nextState_eq fsm _, .closed, rfl, rfl⟩)) rfl
  | connEstabTimer =>
      refine Ensures.map ?_
      unfold processTimeoutConnEstab
      split
      iterate 2
        rename_i fsm
        change c.fsm = _ at fsm
        rw [fsm] at past
        cases past
      exact .inRange True.intro
  | finWait2Timer =>
      refine Ensures.map ?_
      refine Ensures.ite (fun fsm => ?_) fun _ => .inRange True.intro
      exact .of_quiet rfl rfl (Or.inr ⟨_, rfl, rfl⟩)
        (Or.inr (Or.inr ⟨nextState_eq fsm _, .closed, rfl, rfl⟩)) rfl
  | synRexmitTimer =>
      refine Ensures.ite (fun _ => ?_) fun _ => ?_
      · exact .of_quiet rfl rfl (Or.inr ⟨_, rfl, rfl⟩) (Or.inl rfl) rfl
      unfold resendSyn
      split
      iterate 2
        rename_i fsm
        change c.fsm = _ at fsm
        rw [fsm] at past
        cases past
      exact .inRange True.intro
  | rexmitTimer => exact Ensures.of_cases (fun _ => .rexmit scheduled) fun _ => .rexmit scheduled
  | delayedAckTimer =>
      exact .of_quiet rfl rfl (Or.inl rfl) (Or.inl rfl) (transmissions_append rfl rfl)

theorem processRcvSegment_late (past : opening c.fsm = false) (tcpseg : TCPSegment) :
    c.processRcvSegment tcpseg = c.processSegment1stThru8th tcpseg := by
  unfold processRcvSegment
  cases fsm : c.fsm
  case init | listen | synSent =>
    rw [fsm] at past
    cases past
  all_goals rfl

/-- The one inversion lemma for what happens to a connection past SYN_RCVD. -/
theorem processInput_late (past : opening c.fsm = false) (alive : c.fsm ≠ .closed)
    (input : TCPInput) : Ensures (InputFault c input) (LateReaction c input) (c.processInput input) := by
  cases input with
  | command cmd => exact processAppCommand_late past alive cmd
  | segment tcpseg =>
      change Ensures _ _ (c.processRcvSegment tcpseg)
      rw [processRcvSegment_late past]
      exact (c.processSegment1stThru8th_returns tcpseg).mono (fun _ => .segment) fun _ =>
        .segment (Or.inr past)
  | timeout timer =>
      refine Ensures.ite (fun scheduled => processTimer_late past scheduled) fun _ => ?_
      exact .of_quiet rfl rfl (Or.inl rfl) (Or.inl rfl) rfl

structure SynOutstanding (c : TCPConnection) : Prop where
  rexmitTimer : c.rexmitTimer = false
  sndUna : c.sndUna = c.iss
  sndNxt : c.sndNxt = c.iss + 1
  sndMax : c.sndMax = c.iss + 1

/-- What holds before the handshake is over; no data are sent, so the timer is off. -/
def Handshake (fsm : TcpState) (c : TCPConnection) : Prop :=
  match fsm with
  | .init | .listen => c.rexmitTimer = false
  | .synSent | .synRcvd => c.SynOutstanding
  | _ => True

/-- What happens to a connection up to SYN_RCVD; `quiet` is what leaves its send and receive
variables as they are. -/
inductive EarlyReaction (c : TCPConnection) : TCPInput → TCPEventCode × TCPConnection → Prop
  | quiet {input : TCPInput} {event : TCPEventCode} {c' : TCPConnection}
      (same : c'.exceptTimers = c.exceptTimers)
      (next : c'.nextState event = c.fsm ∨ c'.nextState event = .closed ∨
        c.fsm = .synRcvd ∧ c'.nextState event = .listen)
      (timers : c.KeepsTimers input c') (told : c.Tells c' (c'.nextState event))
      (sent : c'.transmissions = c.transmissions) : EarlyReaction c input (event, c')
  | listens (new : c.fsm = .init ∨ c.fsm = .listen) : EarlyReaction c (.command .openPassive)
      (.openPassive, { c with active := false, remoteSpecified := false })
  | opens {remoteSpecified : Bool} {synRexmitTimer connEstabTimer : Option Bool}
      {synRexmitCount : Nat} {toIP : List TCPSegment} (new : c.fsm = .init ∨ c.fsm = .listen)
      (sent : { c with toIP }.transmissions = c.transmissions) :
      EarlyReaction c (.command (.openActive remoteSpecified)) (.openActive,
        { c.withSynSent with
          active := true
          remoteSpecified := true
          synRexmitTimer
          connEstabTimer
          synRexmitCount
          toIP })
  | opensToSend {msg : CMessage} {synRexmitTimer connEstabTimer : Option Bool}
      {synRexmitCount : Nat} {toIP : List TCPSegment} (listens : c.fsm = .listen)
      (specified : c.remoteSpecified = true)
      (sent : { c with toIP }.transmissions = c.transmissions) :
      EarlyReaction c (.command (.send msg)) (.send, enqueueAppData
        { c.withSynSent with active := true, synRexmitTimer, connEstabTimer, synRexmitCount, toIP }
        msg)
  | enqueues {msg : CMessage} (waits : c.fsm = .synSent ∨ c.fsm = .synRcvd) :
      EarlyReaction c (.command (.send msg)) (.send, c.enqueueAppData msg)
  | closes {r : TCPEventCode × TCPConnection} (waits : c.fsm = .synRcvd)
      (closes : c.processClose = .ok r) : EarlyReaction c (.command .close) r
  | syn {tcpseg : TCPSegment} {synRexmitTimer connEstabTimer : Option Bool}
      {synRexmitCount : Nat} {toIP : List TCPSegment} (listens : c.fsm = .listen)
      (sent : { c with toIP }.transmissions = c.transmissions) :
      EarlyReaction c (.segment tcpseg) (.rcvSyn, insertBytes { c.withSynSent with
          remoteSpecified := true
          rcvNxt := tcpseg.sequenceNo + 1
          irs := tcpseg.sequenceNo
          receiveQueue := c.receiveQueue.init (tcpseg.sequenceNo + 1)
          sndWnd := tcpseg.window
          sndWl1 := tcpseg.sequenceNo
          sndWl2 := c.clockIss
          synRexmitTimer, connEstabTimer, synRexmitCount, toIP } tcpseg)
  | synSent {tcpseg : TCPSegment} {r : TCPEventCode × TCPConnection} (waits : c.fsm = .synSent)
      (reaction : c.SynSentReaction tcpseg r) : EarlyReaction c (.segment tcpseg) r
  | synRcvd {tcpseg : TCPSegment} {r : TCPEventCode × TCPConnection} (waits : c.fsm = .synRcvd)
      (reaction : c.SegmentReaction tcpseg r) : EarlyReaction c (.segment tcpseg) r

theorem EarlyReaction.of_quiet (same : c'.exceptTimers = c.exceptTimers) (quiet : closesOrStays event = true)
    (timers : c.KeepsTimers input c') (told : c.Tells c' (c'.nextState event))
    (sent : c'.transmissions = c.transmissions) : EarlyReaction c input (event, c') := by
  have fsm : c'.fsm = c.fsm := (congrArg TCPConnection.fsm same :)
  refine .quiet same ?_ timers told sent
  rw [← fsm]
  exact (nextState_closesOrStays quiet c').imp_right Or.inl

theorem processAppCommand_early (early : opening c.fsm = true) (cmd : TCPCommand) :
    Ensures (InputFault c (.command cmd)) (EarlyReaction c (.command cmd)) (c.processAppCommand cmd) := by
  cases cmd with
  | openActive remote =>
      refine Ensures.map ?_
      unfold processOpenActive
      split
      · rename_i fsm
        refine Ensures.ite (fun specified => ?_) fun _ => .inRange True.intro
        refine (openActively_returns _).mono ?_ fun _ => .inRange
        rintro c' ⟨-, sent, _, _, _, _, rfl⟩
        subst specified
        exact .opens (Or.inl fsm) sent
      · rename_i fsm
        refine Ensures.ite (fun specified => ?_) fun _ => .inRange True.intro
        refine (openActively_returns _).mono ?_ fun _ => .inRange
        rintro c' ⟨-, sent, _, _, _, _, rfl⟩
        subst specified
        exact .opens (Or.inr fsm) sent
      · exact .inRange True.intro
  | openPassive =>
      refine Ensures.map ?_
      unfold processOpenPassive
      split
      · rename_i fsm
        exact .listens (Or.inl fsm)
      · rename_i fsm
        exact .listens (Or.inr fsm)
      · exact .inRange True.intro
  | send msg =>
      refine Ensures.map ?_
      unfold processSend
      split
      · rename_i fsm
        refine Ensures.bind ((openActively_returns _).fewer fun _ => .inRange) ?_
        rintro c' ⟨specified, sent, _, _, _, _, rfl⟩
        exact .opensToSend fsm specified sent
      · rename_i fsm
        exact .enqueues (Or.inr fsm)
      · rename_i fsm
        exact .enqueues (Or.inl fsm)
      iterate 3
        rename_i fsm
        rw [fsm] at early
        cases early
      iterate 6 exact .inRange True.intro
  | close =>
      refine (processClose_returns c).mono (fun r closes => ?_) fun _ => .inRange
      unfold processClose at closes
      cases fsm : c.fsm
      case synRcvd => exact .closes fsm closes
      case listen | synSent =>
        rw [fsm] at closes
        cases closes
        refine .quiet rfl (Or.inr (Or.inl ?_)) (Or.inl rfl) (Or.inl rfl) rfl
        unfold nextState
        rw [fsm]
        rfl
      all_goals
        rw [fsm] at early closes
        first | (cases early; done) | cases closes
  | abort =>
      refine Ensures.map ?_
      unfold processAbort
      split
      · exact .inRange True.intro
      iterate 5 exact .of_quiet rfl rfl (Or.inl rfl) (Or.inl rfl) (transmissions_sendRst c c.sndNxt)
      exact .of_quiet rfl rfl (Or.inl rfl) (Or.inl rfl) rfl
  | status =>
      refine Ensures.map ?_
      unfold processStatus
      exact Ensures.ite (fun _ => .inRange True.intro) fun _ =>
        .of_quiet rfl rfl (Or.inl rfl) (Or.inr (Or.inl rfl)) rfl

theorem Handshake.rexmitTimer {fsm : TcpState} (handshake : Handshake fsm c)
    (early : opening fsm = true) : c.rexmitTimer = false := by
  cases fsm
  case init | listen => exact handshake
  case synSent | synRcvd => exact SynOutstanding.rexmitTimer handshake
  all_goals cases early

theorem resent_eq {sndNxt sndMax : BitVec 32} (nxt : c.sndNxt = sndNxt) (max : c.sndMax = sndMax) :
    { c with sndNxt, sndMax } = c := by
  subst nxt max
  rfl

theorem processTimer_early (handshake : Handshake c.fsm c) (early : opening c.fsm = true)
    {timer : TCPTimer} (scheduled : c.isScheduled timer = true) :
    Ensures (InputFault c (.timeout timer)) (EarlyReaction c (.timeout timer)) ((c.expire timer).processTimer timer) := by
  cases timer with
  | the2MSLTimer =>
      refine Ensures.map ?_
      refine Ensures.ite (fun fsm => ?_) fun _ => .inRange True.intro
      exact .of_quiet rfl rfl (Or.inr ⟨_, rfl, rfl⟩)
        (Or.inr (Or.inr ⟨nextState_eq fsm _, .closed, rfl, rfl⟩)) rfl
  | connEstabTimer =>
      refine Ensures.map ?_
      unfold processTimeoutConnEstab
      split
      · rename_i fsm
        change c.fsm = _ at fsm
        refine Ensures.ok ?_
        split
        · rename_i active
          change c.active = true at active
          have closed : ((c.expire .connEstabTimer).sendIndicationToApp .timedOut).nextState
              .timeoutConnEstab = .closed := by
            refine (nextState_eq fsm _).trans ?_
            rw [if_neg (by decide)]
            rw [active]
            rfl
          exact .quiet rfl (Or.inr (Or.inl closed)) (Or.inr ⟨_, rfl, rfl⟩)
            (Or.inr (Or.inr ⟨closed, .timedOut, rfl, rfl⟩)) rfl
        · rename_i passive
          change ¬ c.active = true at passive
          have listens : (c.expire .connEstabTimer).nextState .timeoutConnEstab = .listen := by
            refine (nextState_eq fsm _).trans ?_
            rw [if_neg (by decide)]
            rw [Bool.eq_false_iff.mpr passive]
            rfl
          exact .quiet rfl (Or.inr (Or.inr ⟨fsm, listens⟩)) (Or.inr ⟨_, rfl, rfl⟩) (Or.inl rfl)
            rfl
      · rename_i fsm
        change c.fsm = _ at fsm
        refine Ensures.ok ?_
        split
        · have closed : ((c.expire .connEstabTimer).sendIndicationToApp .timedOut).nextState
              .timeoutConnEstab = .closed := nextState_eq fsm _
          exact .quiet rfl (Or.inr (Or.inl closed)) (Or.inr ⟨_, rfl, rfl⟩)
            (Or.inr (Or.inr ⟨closed, .timedOut, rfl, rfl⟩)) rfl
        · exact .quiet rfl (Or.inr (Or.inl (nextState_eq fsm _))) (Or.inr ⟨_, rfl, rfl⟩) (Or.inl rfl)
            rfl
      · exact .inRange True.intro
  | finWait2Timer =>
      refine Ensures.map ?_
      refine Ensures.ite (fun fsm => ?_) fun _ => .inRange True.intro
      exact .of_quiet rfl rfl (Or.inr ⟨_, rfl, rfl⟩)
        (Or.inr (Or.inr ⟨nextState_eq fsm _, .closed, rfl, rfl⟩)) rfl
  | synRexmitTimer =>
      have running : c.timers = (c.the2MSLTimer, c.connEstabTimer, c.finWait2Timer, some true) := by
        unfold timers
        rw [of_decide_eq_true scheduled]
      refine Ensures.ite (fun _ => ?_) fun _ => ?_
      · exact .of_quiet rfl rfl (Or.inr ⟨_, rfl, rfl⟩) (Or.inl rfl) rfl
      unfold resendSyn
      split
      · rename_i fsm
        change c.fsm = _ at fsm
        rw [fsm] at handshake
        refine Ensures.bind ((sendSyn_returns _).fewer fun _ => .inRange) ?_
        rintro c₁ ⟨-, sent, toIP, rfl⟩
        refine Ensures.bind (scheduleSetupTimer_inRange.fewer fun _ => .inRange) ?_
        rintro timer rfl
        refine .of_quiet ?_ rfl (Or.inl running.symm) (Or.inl rfl) sent
        have same := congrArg exceptTimers (resent_eq handshake.sndNxt handshake.sndMax)
        exact same
      · rename_i fsm
        change c.fsm = _ at fsm
        rw [fsm] at handshake
        refine Ensures.ok_bind ?_
        refine Ensures.bind (scheduleSetupTimer_inRange.fewer fun _ => .inRange) ?_
        rintro timer rfl
        refine .of_quiet ?_ rfl (Or.inl running.symm) (Or.inl rfl) (transmissions_append rfl rfl)
        have same := congrArg exceptTimers (resent_eq handshake.sndNxt handshake.sndMax)
        exact same
      · exact .inRange True.intro
  | rexmitTimer =>
      have off := handshake.rexmitTimer early
      exact absurd (scheduled.symm.trans off) Bool.noConfusion
  | delayedAckTimer =>
      exact .of_quiet rfl rfl (Or.inl rfl) (Or.inl rfl) (transmissions_append rfl rfl)

/-- The one inversion lemma for what happens to a connection up to SYN_RCVD. -/
theorem processInput_early (handshake : Handshake c.fsm c) (early : opening c.fsm = true)
    (input : TCPInput) : Ensures (InputFault c input) (EarlyReaction c input) (c.processInput input) := by
  cases input with
  | command cmd => exact processAppCommand_early early cmd
  | segment tcpseg =>
      change Ensures _ _ (c.processRcvSegment tcpseg)
      unfold processRcvSegment
      cases fsm : c.fsm
      case init => exact .inRange True.intro
      case listen =>
        refine ((c.processSegmentInListen_returns tcpseg).mono ?_ fun _ => .inRange)
        rintro ⟨event, c'⟩ (⟨ignored, same, told, sent⟩ | ⟨received, sent, _, _, _, _, new⟩)
        · have kept : c'.exceptTimers = c.exceptTimers := by
            unfold exceptTimers
            rw [same]
          exact .of_quiet kept (congrArg closesOrStays ignored) (Or.inl (congrArg timers same :))
            (Or.inl told) sent
        · subst received new
          exact .syn fsm sent
      case synSent =>
        rw [fsm] at handshake
        exact (processSegmentInSynSent_returns handshake.sndUna handshake.sndNxt).mono
          (fun _ => .synSent fsm) fun _ => .synSent fsm
      case synRcvd =>
        exact (c.processSegment1stThru8th_returns tcpseg).mono (fun _ => .synRcvd fsm)
          fun _ => .segment (Or.inl fsm)
      all_goals
        rw [fsm] at early
        cases early
  | timeout timer =>
      refine Ensures.ite (fun scheduled => processTimer_early handshake early scheduled) fun _ => ?_
      exact .of_quiet rfl rfl (Or.inl rfl) (Or.inl rfl) rfl

def AcksNew (c : TCPConnection) (tcpseg : TCPSegment) : Prop :=
  ¬ seqGE c.sndUna tcpseg.ackNo ∧ seqLE tcpseg.ackNo c.sndMax
deriving Decidable

/-- How many numbers are sent and not acknowledged -/
def outstanding (c : TCPConnection) : Nat := (c.sndMax - c.sndUna).toNat

theorem AcksNew.outstanding {tcpseg : TCPSegment} (new : c.AcksNew tcpseg) :
    0 < (tcpseg.ackNo - c.sndUna).toNat ∧ (tcpseg.ackNo - c.sndUna).toNat ≤ c.outstanding := by
  obtain ⟨above, within⟩ := new
  unfold seqGE at above
  unfold seqLE at within
  unfold TCPConnection.outstanding
  constructor
  · bv_omega
  · bv_omega

theorem processAckInEstabEtc_new {tcpseg : TCPSegment} (new : c.AcksNew tcpseg) :
    c.processAckInEstabEtc tcpseg = (do
      let c ← c.acceptAck tcpseg
      let c ← TCPAlgorithm.receivedDataAck c
      return (true, { c with dupacks := 0 })) := (if_neg new.1).trans (if_pos new.2)

theorem SynOutstanding.ackNo {tcpseg : TCPSegment} (outstanding : c.SynOutstanding)
    (after : seqLE c.sndUna tcpseg.ackNo) (before : seqLE tcpseg.ackNo c.sndNxt)
    (other : tcpseg.ackNo ≠ c.iss) : tcpseg.ackNo = c.iss + 1 := by
  unfold seqLE at *
  rw [outstanding.sndUna] at after
  rw [outstanding.sndNxt] at before
  bv_omega

theorem SynOutstanding.acksNew {tcpseg : TCPSegment} (outstanding : c.SynOutstanding)
    (ackNo : tcpseg.ackNo = c.iss + 1) : c.AcksNew tcpseg := by
  unfold AcksNew seqGE seqLE
  rw [ackNo, outstanding.sndUna, outstanding.sndMax]
  constructor <;> bv_omega

theorem nextState_abort (past : opening c.fsm = false) (alive : c.fsm ≠ .closed) :
    c.nextState .abort = .closed := by
  unfold nextState
  cases fsm : c.fsm
  case init | listen | synSent | synRcvd =>
    rw [fsm] at past
    cases past
  case closed => exact absurd fsm alive
  all_goals rfl

theorem nextState_rcvRst (past : c.fsm = .synRcvd ∨ opening c.fsm = false) : c.nextState .rcvRst = .closed ∨
      c.fsm = .synRcvd ∧ c.active = false ∧ c.nextState .rcvRst = .listen := by
  unfold nextState
  generalize c.fsm = fsm, c.active = active at past ⊢
  cases fsm
  case synRcvd =>
    cases active with
    | true => exact Or.inl rfl
    | false => exact Or.inr ⟨rfl, rfl, rfl⟩
  case init | listen | synSent => rcases past with past | past <;> cases past
  all_goals exact Or.inl rfl

theorem nextState_rcvUnexpSyn (past : c.fsm = .synRcvd ∨ opening c.fsm = false) :
    c.nextState .rcvUnexpSyn = .closed := by
  unfold nextState
  generalize c.fsm = fsm, c.active = active at past ⊢
  cases fsm
  case init | listen | synSent => rcases past with past | past <;> cases past
  all_goals rfl

theorem processRst_late (past : opening c.fsm = false) (alive : c.fsm ≠ .closed) :
    ∃ code, c.processRst = .ok (.rcvRst, c.sendIndicationToApp code) ∧
      c.nextState .rcvRst = .closed ∧ (code = .connectionReset ∨ code = .closed) := by
  unfold processRst nextState
  cases fsm : c.fsm
  case init | listen | synSent | synRcvd =>
    rw [fsm] at past
    cases past
  case closed => exact absurd fsm alive
  case established | finWait1 | finWait2 | closeWait =>
    exact ⟨.connectionReset, rfl, rfl, Or.inl rfl⟩
  case closing | lastAck | timeWait => exact ⟨.closed, rfl, rfl, Or.inr rfl⟩

/-- What the handshake invariant is about -/
def handshakeVars (c : TCPConnection) : Bool × BitVec 32 × BitVec 32 × BitVec 32 × BitVec 32 :=
  (c.rexmitTimer, c.iss, c.sndUna, c.sndNxt, c.sndMax)

theorem Handshake.of_same {fsm : TcpState} (handshake : Handshake fsm c)
    (same : c'.handshakeVars = c.handshakeVars) : Handshake fsm c' := by
  unfold handshakeVars at same
  simp only [Prod.mk.injEq] at same
  obtain ⟨timer, iss, una, nxt, max⟩ := same
  cases fsm
  case init | listen => exact timer.trans handshake
  case synSent | synRcvd =>
    exact ⟨timer.trans (SynOutstanding.rexmitTimer handshake),
      una.trans ((SynOutstanding.sndUna handshake).trans iss.symm),
      nxt.trans ((SynOutstanding.sndNxt handshake).trans (congrArg (· + 1) iss.symm)),
      max.trans ((SynOutstanding.sndMax handshake).trans (congrArg (· + 1) iss.symm))⟩
  all_goals exact True.intro

theorem handshake_past {fsm : TcpState} (past : opening fsm = false) : Handshake fsm c := by
  cases fsm
  case init | listen | synSent | synRcvd => cases past
  all_goals exact True.intro

theorem nextState_ignore (c : TCPConnection) : c.nextState .ignore = c.fsm := rfl

variable {r : TCPEventCode × TCPConnection}

theorem SegmentReaction.synRcvd {tcpseg : TCPSegment}
    (reaction : c.SegmentReaction tcpseg r) (fsm : c.fsm = .synRcvd) :
    r.1 = .ignore ∧ r.2.exceptDropped = c.exceptDropped ∧ r.2.transmissions = c.transmissions ∨
      r.1 = .rcvRst ∧ (∃ sendQueue toAppl, r.2 = { c with sendQueue, toAppl }) ∨
      r.1 = .rcvUnexpSyn ∨ r.1 = .rcvAck ∧ tcpseg.finBit = false ∨ r.1 = .rcvFin ∧ tcpseg.finBit = true := by
  cases reaction with
  | refused same _ _ sent =>
      refine Or.inl ⟨rfl, ?_, sent⟩
      unfold exceptDropped
      rw [same]
  | reset reset => exact Or.inr (Or.inl (c.processRst_returns.of_ok reset))
  | unexpected => exact Or.inr (Or.inr (Or.inl rfl))
  | drops _ checked => exact Or.inl ((processAck_synRcvd fsm tcpseg).of_ok checked)
  | proceeds _ checked processed =>
      have acked := (processAck_synRcvd fsm tcpseg).of_ok checked
      have fsm' := ((congrArg TCPConnection.fsm ((c.processAck_same tcpseg).of_ok checked) :)).trans fsm
      have events := ((processTextAndFin_returns _ tcpseg _ _).of_ok processed).2
      rcases events with ⟨-, waits⟩ | ⟨event, plain⟩ | fin | ⟨-, -, waits⟩
      · cases fsm'.symm.trans waits
      · exact Or.inr (Or.inr (Or.inr (Or.inl ⟨event.trans acked, plain⟩)))
      · exact Or.inr (Or.inr (Or.inr (Or.inr fin)))
      · cases fsm'.symm.trans waits

theorem at_nextState (inv : TcpState → TCPConnection → Prop) {fsm next : TcpState}
    (at' : c.fsm = fsm)
    (enters : (if event = .ignore then fsm else (transition c.active fsm event).getD fsm) = next)
    (holds : inv next c) : inv (c.nextState event) c := by
  rw [nextState_eq at', enters]
  exact holds

theorem processClose_eq (open' : c.fsm = .synRcvd ∨ c.fsm = .established ∨ c.fsm = .closeWait) :
    c.processClose = if c.sndMax = c.sendQueue.endSeq then .ok (.close, c.sendFinNow.queueFin)
      else .ok (if c.fsm = .closeWait then .ignore else .close, c.queueFin) := by
  unfold processClose
  rcases open' with fsm | fsm | fsm
  all_goals
    rw [fsm]
    rfl

theorem processClose_cases (open' : c.fsm = .synRcvd ∨ c.fsm = .established ∨ c.fsm = .closeWait)
    (closes : c.processClose = .ok r) :
    c.sndMax = c.sendQueue.endSeq ∧ r = (.close, c.sendFinNow.queueFin) ∨
      c.sndMax ≠ c.sendQueue.endSeq ∧
        r = (if c.fsm = .closeWait then .ignore else .close, c.queueFin) := by
  rw [processClose_eq open'] at closes
  split at closes
  · rename_i sent
    cases closes
    exact Or.inl ⟨sent, rfl⟩
  · rename_i pending
    cases closes
    exact Or.inr ⟨pending, rfl⟩

theorem fsm_closing (c : TCPConnection) : c.sendFinNow.queueFin.fsm = c.fsm := by
  simp only [queueFin, sendFinNow, sendFinSegment, TCPBaseAlg.ackSent, sendToIP]

theorem fsm_queueFin (c : TCPConnection) : c.queueFin.fsm = c.fsm := by
  simp only [queueFin]

theorem fsm_withSynAckReceived {tcpseg : TCPSegment} {sendQueue : TCPVirtualDataSendQueue} :
    (c.withSynAckReceived tcpseg sendQueue).fsm = c.fsm := by
  unfold withSynAckReceived
  dsimp only
  split <;> rfl

theorem sendFin_withSynAckReceived {tcpseg : TCPSegment} {sendQueue : TCPVirtualDataSendQueue} :
    (c.withSynAckReceived tcpseg sendQueue).sendFin = c.sendFin := by
  unfold withSynAckReceived
  dsimp only
  split <;> rfl

theorem LateReaction.fsm (reaction : c.LateReaction input r) : r.2.fsm = c.fsm := by
  cases reaction with
  | sends _ sent =>
      have advances := (TCPBaseAlg.sendCommandInvoked_returns _).of_ok sent
      exact advances.state
  | closes open' closes =>
      rcases processClose_cases (Or.inr open') closes with ⟨-, rfl⟩ | ⟨-, rfl⟩
      · exact c.fsm_closing
      · exact c.fsm_queueFin
  | quiet same => exact (congrArg TCPConnection.fsm same :)
  | segment reaction => exact reaction.fsm
  | rexmit _ expires =>
      have same := ((TCPAlgorithm.processRexmitTimer_returns _).of_ok expires).same
      exact (congrArg TCPConnection.fsm same :)

theorem EarlyReaction.fsm (reaction : c.EarlyReaction input r) : r.2.fsm = c.fsm := by
  cases reaction with
  | quiet same => exact (congrArg TCPConnection.fsm same :)
  | listens | opens | opensToSend | enqueues | syn => rfl
  | closes waits closes =>
      rcases processClose_cases (Or.inl waits) closes with ⟨-, rfl⟩ | ⟨-, rfl⟩
      · exact c.fsm_closing
      · exact c.fsm_queueFin
  | synSent _ reaction =>
      cases reaction with
      | ignores same => exact (congrArg TCPConnection.fsm same :)
      | resets | crosses => rfl
      | establishes _ _ _ notified =>
          have advances := (TCPBaseAlg.established_returns _ _).of_ok notified
          exact advances.state.trans fsm_withSynAckReceived
  | synRcvd _ reaction => exact reaction.fsm

/-- Only the state machine changes the state. -/
theorem processInput_fsm (handshake : Handshake c.fsm c) (alive : c.fsm ≠ .closed)
    (input : TCPInput) : OnReturn (fun r => r.2.fsm = c.fsm) (c.processInput input) := by
  cases early : opening c.fsm with
  | true =>
      exact .of_ensures ((processInput_early handshake early input).imp fun _ reaction => reaction.fsm)
  | false =>
      exact .of_ensures ((processInput_late early alive input).imp fun _ reaction => reaction.fsm)

theorem EarlyReaction.handshake (reaction : c.EarlyReaction input r) (handshake : Handshake c.fsm c)
    (early : opening c.fsm = true) : Handshake (r.2.nextState r.1) r.2 := by
  have off := handshake.rexmitTimer early
  have sent : Handshake .synSent c.withSynSent := ⟨off, rfl, rfl, rfl⟩
  cases reaction with
  | quiet same next =>
      rcases next with stays | closed | ⟨-, listens⟩
      · rw [stays]
        exact handshake.of_same (congrArg handshakeVars same :)
      · rw [closed]
        exact True.intro
      · rw [listens]
        exact (congrArg TCPConnection.rexmitTimer same :).trans off
  | listens new =>
      rcases new with new | listens
      · exact at_nextState Handshake new rfl off
      · exact at_nextState Handshake listens rfl off
  | opens new =>
      rcases new with new | listens
      · exact at_nextState Handshake new rfl (sent.of_same rfl)
      · exact at_nextState Handshake listens rfl (sent.of_same rfl)
  | opensToSend listens => exact at_nextState Handshake listens rfl (sent.of_same rfl)
  | enqueues waits =>
      rcases waits with waits | waits
      · rw [waits] at handshake
        exact at_nextState Handshake waits rfl (handshake.of_same rfl)
      · rw [waits] at handshake
        exact at_nextState Handshake waits rfl (handshake.of_same rfl)
  | closes waits closes =>
      rcases processClose_cases (Or.inl waits) closes with ⟨-, rfl⟩ | ⟨-, rfl⟩
      · exact at_nextState Handshake (c.fsm_closing.trans waits) rfl True.intro
      · rw [waits]
        exact at_nextState Handshake (c.fsm_queueFin.trans waits) rfl True.intro
  | syn listens => exact at_nextState Handshake listens rfl (sent.of_same rfl)
  | synSent waits reaction =>
      rw [waits] at handshake
      cases reaction with
      | ignores same =>
          have fsm : _ = c.fsm := (congrArg TCPConnection.fsm same :)
          exact at_nextState Handshake (fsm.trans waits) rfl
            (handshake.of_same (congrArg handshakeVars same :))
      | resets => exact at_nextState Handshake waits rfl True.intro
      | establishes _ _ _ notified =>
          have advances := (TCPBaseAlg.established_returns _ _).of_ok notified
          have fsm := advances.state
          exact at_nextState Handshake (fsm.trans (fsm_withSynAckReceived.trans waits)) rfl True.intro
      | crosses => exact at_nextState Handshake waits rfl ⟨off, handshake.sndUna, rfl, rfl⟩
  | synRcvd waits reaction =>
      have fsm := reaction.fsm.trans waits
      rw [waits] at handshake
      rcases reaction.synRcvd waits with
        ⟨event, same, -⟩ | ⟨event, sendQueue, toAppl, reset⟩ | event | ⟨event, -⟩ | ⟨event, -⟩
      · rw [event]
        exact at_nextState Handshake fsm rfl (handshake.of_same (congrArg handshakeVars same :))
      · rw [event]
        refine at_nextState Handshake fsm rfl ?_
        cases r.2.active with
        | true => exact True.intro
        | false =>
            rw [reset]
            exact off
      all_goals
        rw [event]
        exact at_nextState Handshake fsm rfl True.intro

theorem handle_handshake (handshake : Handshake c.fsm c) {simTime : Nat}
    (done : c.handle simTime input = .ok c') : Handshake c'.fsm c' := by
  refine handle_keeps Handshake (fun _ => True.intro)
    (fun same holds => holds.of_same (congrArg handshakeVars same :)) (fun alive => ?_) handshake done
  cases early : opening c.fsm with
  | true =>
      have now : Handshake (c.atTime simTime).fsm (c.atTime simTime) := handshake.of_same rfl
      exact OnReturn.of_ensures ((processInput_early now early input).imp fun r reaction =>
        reaction.handshake now early)
  | false =>
      refine OnReturn.of_ensures ((processInput_late (c := c.atTime simTime) early alive input).imp
        fun r reaction => ?_)
      have fsm : r.2.fsm = c.fsm := reaction.fsm
      exact handshake_past (opening_nextState (fsm.symm ▸ early) r.1)

/-- What no code changes -/
def parameters (c : TCPConnection) : TCPAlgorithm × BitVec 32 × BitVec 32 :=
  (c.tcpAlgorithm, c.sndMss, c.rcvWnd)

theorem SegmentReaction.parameters {tcpseg : TCPSegment}
    (reaction : c.SegmentReaction tcpseg r) : r.2.parameters = c.parameters := by
  cases reaction with
  | refused same => exact (congrArg TCPConnection.parameters same :)
  | reset reset =>
      obtain ⟨-, sendQueue, toAppl, same⟩ := c.processRst_returns.of_ok reset
      rw [same]
      rfl
  | unexpected => rfl
  | drops _ checked =>
      exact (congrArg TCPConnection.parameters ((c.processAck_same tcpseg).of_ok checked) :)
  | proceeds _ checked processed =>
      have acked := (c.processAck_same tcpseg).of_ok checked
      have text := ((processTextAndFin_returns _ tcpseg _ _).of_ok processed).1
      have first := (congrArg TCPConnection.parameters acked :)
      have next := (congrArg TCPConnection.parameters text :)
      exact next.trans first

theorem processClose_parameters (open' : c.fsm = .synRcvd ∨ c.fsm = .established ∨ c.fsm = .closeWait)
    (closes : c.processClose = .ok r) : r.2.parameters = c.parameters := by
  rcases processClose_cases open' closes with ⟨-, rfl⟩ | ⟨-, rfl⟩
  · simp only [parameters, queueFin, sendFinNow, sendFinSegment, TCPBaseAlg.ackSent, sendToIP]
  · simp only [parameters, queueFin]

theorem LateReaction.parameters (reaction : c.LateReaction input r) : r.2.parameters = c.parameters := by
  cases reaction with
  | sends _ sent =>
      have advances := (TCPBaseAlg.sendCommandInvoked_returns _).of_ok sent
      exact (congrArg TCPConnection.parameters advances.same :)
  | closes open' closes => exact processClose_parameters (Or.inr open') closes
  | quiet same => exact (congrArg TCPConnection.parameters same :)
  | segment reaction => exact reaction.parameters
  | rexmit _ expires =>
      have same := ((TCPAlgorithm.processRexmitTimer_returns _).of_ok expires).same
      exact (congrArg TCPConnection.parameters same :)

theorem EarlyReaction.parameters (reaction : c.EarlyReaction input r) : r.2.parameters = c.parameters := by
  cases reaction with
  | quiet same => exact (congrArg TCPConnection.parameters same :)
  | listens | opens | opensToSend | enqueues | syn => rfl
  | closes waits closes => exact processClose_parameters (Or.inl waits) closes
  | synSent _ reaction =>
      cases reaction with
      | ignores same => exact (congrArg TCPConnection.parameters same :)
      | resets | crosses => rfl
      | establishes _ _ _ notified =>
          have advances := (TCPBaseAlg.established_returns _ _).of_ok notified
          refine (congrArg TCPConnection.parameters advances.same :).trans ?_
          unfold withSynAckReceived
          dsimp only
          split <;> rfl
  | synRcvd _ reaction => exact reaction.parameters

theorem handle_parameters (handshake : Handshake c.fsm c) {simTime : Nat} (done : c.handle simTime input = .ok c') :
    c'.fsm = .closed ∨ c'.parameters = c.parameters := by
  refine handle_keeps (fun fsm c' => fsm = .closed ∨ c'.parameters = c.parameters)
    (fun _ => Or.inl rfl) (fun same => Or.imp_right fun holds => ?_) (fun alive => ?_) (Or.inr rfl)
    done
  · exact (congrArg TCPConnection.parameters same :).trans holds
  · cases early : opening c.fsm with
    | true =>
        have now : Handshake (c.atTime simTime).fsm (c.atTime simTime) := handshake.of_same rfl
        exact OnReturn.of_ensures ((processInput_early now early input).imp fun r reaction =>
          Or.inr reaction.parameters)
    | false =>
        exact OnReturn.of_ensures ((processInput_late (c := c.atTime simTime) early alive input).imp
          fun r reaction => Or.inr reaction.parameters)

theorem handle_of_step {arrival : Nat × TCPInput} (steps : c.step arrival = .ok c') :
    c.handle arrival.1 arrival.2 = .ok c' := by
  unfold step at steps
  cases done : c.handle arrival.1 arrival.2 with
  | error fault =>
      rw [done] at steps
      cases steps
  | ok next =>
      rw [done] at steps
      cases steps
      rfl

variable {tcpAlgorithm : TCPAlgorithm}

theorem handshake_step {arrival : Nat × TCPInput} (kept : Handshake c.fsm c ∧
      (c.fsm = .closed ∨ c.parameters = (tcpAlgorithm, 1024, 128 * 1024)))
    (steps : c.step arrival = .ok c') : Handshake c'.fsm c' ∧
      (c'.fsm = .closed ∨ c'.parameters = (tcpAlgorithm, 1024, 128 * 1024)) := by
  obtain ⟨handshake, fixed⟩ := kept
  have done := handle_of_step steps
  refine ⟨handle_handshake handshake done, ?_⟩
  rcases fixed with closed | fixed
  · unfold handle at done
    rw [if_pos closed] at done
    cases done
    exact Or.inl closed
  · exact (handle_parameters handshake done).imp_right fun same => same.trans fixed

theorem handshake_create (tcpAlgorithm : TCPAlgorithm) : Handshake (create tcpAlgorithm).fsm (create tcpAlgorithm) ∧
      ((create tcpAlgorithm).fsm = .closed ∨ (create tcpAlgorithm).parameters = (tcpAlgorithm, 1024, 128 * 1024)) :=
  ⟨show (create tcpAlgorithm).rexmitTimer = false from rfl, Or.inr rfl⟩

/-- What holds in every run, whatever happens. -/
theorem handshake_of_runs {arrivals : List (Nat × TCPInput)} {ok : TCPConnection → Nat × TCPInput → Prop}
    (runs : Runs step ok (create tcpAlgorithm) arrivals c) :
    Handshake c.fsm c ∧ (c.fsm = .closed ∨ c.parameters = (tcpAlgorithm, 1024, 128 * 1024)) :=
  runs.invariant (fun c => Handshake c.fsm c ∧
      (c.fsm = .closed ∨ c.parameters = (tcpAlgorithm, 1024, 128 * 1024)))
    (fun _ _ _ kept _ steps => handshake_step kept steps) (handshake_create tcpAlgorithm)

theorem sndMss_positive (fixed : c.fsm = .closed ∨ c.parameters = (tcpAlgorithm, 1024, 128 * 1024)) :
    c.fsm = .closed ∨ 0 < c.sndMss.toNat := by
  refine fixed.imp_right fun fixed => ?_
  have mss : c.sndMss = 1024 := congrArg (·.2.1) fixed
  rw [mss]
  decide

theorem invariant_of_runs (inv : TCPConnection → Prop)
    {arrivals : List (Nat × TCPInput)} {ok : TCPConnection → Nat × TCPInput → Prop} (start : inv (create tcpAlgorithm))
    (keeps : ∀ {c c' : TCPConnection} {simTime : Nat} {input : TCPInput}, Handshake c.fsm c →
      (c.fsm = .closed ∨ 0 < c.sndMss.toNat) → inv c → ok c (simTime, input) →
        c.handle simTime input = .ok c' → inv c') (runs : Runs step ok (create tcpAlgorithm) arrivals c) :
    Handshake c.fsm c ∧ (c.fsm = .closed ∨ 0 < c.sndMss.toNat) ∧ inv c := by
  have kept : (Handshake c.fsm c ∧
      (c.fsm = .closed ∨ c.parameters = (tcpAlgorithm, 1024, 128 * 1024))) ∧ inv c := by
    refine runs.invariant (fun c => (Handshake c.fsm c ∧ (c.fsm = .closed ∨ c.parameters =
      (tcpAlgorithm, 1024, 128 * 1024))) ∧ inv c) ?_ ⟨handshake_create tcpAlgorithm, start⟩
    rintro c arrival c' ⟨kept, holds⟩ meets steps
    have done := handle_of_step steps
    exact ⟨handshake_step kept steps, keeps kept.1 (sndMss_positive kept.2) holds meets done⟩
  exact ⟨kept.1.1, sndMss_positive kept.1.2, kept.2⟩

/-- The answer to a SYN with the initial sequence number 0 -/
def exampleSynAck : TCPSegment :=
  { TCPSegment.create with
    sequenceNo := 500
    ackNo := 1
    synBit := true
    ackBit := true
    window := 4096 }

/-! ### The acknowledgement field -/

section

variable {tcpseg : TCPSegment}

/-- The FIN is sent, or will be, and the ACK field takes its number in. -/
def AcksFin (c : TCPConnection) (tcpseg : TCPSegment) : Prop :=
  c.sendFin = true ∧ tcpseg.ackNo = c.sndFinSeq + 1
deriving Decidable

/-- What the ACK field changes in the timers and the flags, and that nothing is told. -/
structure Acked (c : TCPConnection) (tcpseg : TCPSegment) (r : Bool × TCPConnection) : Prop where
  same : r.2.exceptAcks = c.exceptAcks
  the2MSLTimer : r.2.the2MSLTimer = c.the2MSLTimer
  toAppl : r.2.toAppl = c.toAppl
  finAckRcvd : r.2.finAckRcvd = (c.finAckRcvd || decide (c.AcksNew tcpseg ∧ c.AcksFin tcpseg))
  passes : c.AcksNew tcpseg → r.1 = true

/-- A fault of the send queue or a failed assertion -/
def AckFault : TCPFault → Prop
  | .assertFailed => True
  | fault => SendFault fault

theorem SendFault.ackFault {fault : TCPFault} (fails : SendFault fault) : AckFault fault := by
  cases fault <;> first | (cases fails; done) | exact True.intro

theorem acceptAck_acked (c : TCPConnection) (tcpseg : TCPSegment) : Ensures SendFault
    (fun c' => c'.exceptAcks = c.exceptAcks ∧ c'.the2MSLTimer = c.the2MSLTimer ∧
      c'.toAppl = c.toAppl ∧ c'.finAckRcvd = (c.finAckRcvd || decide (c.AcksFin tcpseg))) (c.acceptAck tcpseg) := by
  have acks : (c.sendFin && tcpseg.ackNo == c.sndFinSeq + 1) = decide (c.AcksFin tcpseg) := by
    rw [Bool.eq_iff_iff, Bool.and_eq_true, beq_iff_eq, decide_eq_true_eq]
    rfl
  rw [← acks]
  unfold acceptAck
  refine Ensures.bind Ensures.trivial.mapError fun sendQueue _ => ?_
  rw [Ensures.pure_iff]
  split
  all_goals split <;> exact ⟨rfl, rfl, rfl, rfl⟩

theorem processAckInEstabEtc_acked (c : TCPConnection) (tcpseg : TCPSegment) :
    Ensures AckFault (Acked c tcpseg) (c.processAckInEstabEtc tcpseg) := by
  have old (not : ¬ c.AcksNew tcpseg) :
      c.finAckRcvd = (c.finAckRcvd || decide (c.AcksNew tcpseg ∧ c.AcksFin tcpseg)) := by
    rw [decide_eq_false (mt And.left not), Bool.or_false]
  by_cases new : c.AcksNew tcpseg
  · rw [processAckInEstabEtc_new new]
    refine Ensures.bind ((c.acceptAck_acked tcpseg).fewer fun _ => SendFault.ackFault) ?_
    rintro c₁ ⟨same, msl, told, acked⟩
    have notified := (TCPAlgorithm.receivedDataAck_silent c₁).and
      (TCPAlgorithm.receivedDataAck_returns c₁)
    refine Ensures.bind (notified.fewer fun _ => SendFault.ackFault) ?_
    rintro c₂ ⟨silent, advances⟩
    have kept := (congrArg TCPConnection.the2MSLTimer advances.same :)
    have flag := (congrArg TCPConnection.finAckRcvd advances.same :)
    refine ⟨(exceptAcks_of_exceptSending advances.same).trans same, kept.trans msl,
      silent.trans told, flag.trans (acked.trans ?_), fun _ => rfl⟩
    rw [decide_eq_decide.mpr (and_iff_right new)]
  · unfold processAckInEstabEtc
    refine Ensures.ite (fun _ => ?_) fun later => ?_
    · refine Ensures.ite (fun _ => ?_) fun _ => ⟨rfl, rfl, rfl, old new, fun acks => absurd acks new⟩
      have notified := (TCPAlgorithm.receivedDuplicateAck_silent
        { c with dupacks := c.dupacks + 1 }).and (TCPAlgorithm.receivedDuplicateAck_returns _)
      refine Ensures.bind (notified.fewer fun _ => SendFault.ackFault) ?_
      rintro c₁ ⟨silent, retransmits⟩
      have same := exceptAcks_of_exceptSending retransmits.same
      have kept := (congrArg TCPConnection.the2MSLTimer retransmits.same :)
      have flag := (congrArg TCPConnection.finAckRcvd retransmits.same :)
      exact ⟨same, kept, silent, flag.trans (old new), fun acks => absurd acks new⟩
    · refine Ensures.ite (fun within => absurd ⟨later, within⟩ new) fun _ => ?_
      unfold TCPExec.assert
      split
      · exact ⟨rfl, rfl, rfl, old new, fun acks => absurd acks new⟩
      · exact True.intro

end

/-- Whatever arrives, as long as a connection is in SYN_SENT or SYN_RCVD the SYN is all that it has outstanding. -/
theorem synOutstanding_of_runs {tcpAlgorithm : TCPAlgorithm} {arrivals : List (Nat × TCPInput)} {c : TCPConnection}
    (runs : Runs step (fun _ _ => True) (create tcpAlgorithm) arrivals c)
    (early : c.fsm = .synSent ∨ c.fsm = .synRcvd) : c.SynOutstanding := by
  have handshake := (handshake_of_runs runs).1
  rcases early with sent | rcvd
  · rw [sent] at handshake
    exact handshake
  · rw [rcvd] at handshake
    exact handshake

theorem synOutstanding_openActive :
    ∃ c, run step (create .reno) [(0, .command (.openActive true))] = .ok c ∧ c.SynOutstanding := by
  have runs : Runs step (fun _ _ => True) (create .reno) [(0, .command (.openActive true))] _ :=
    .cons True.intro rfl (.nil _)
  exact ⟨_, runs.run_eq, synOutstanding_of_runs runs (Or.inl rfl)⟩

end TCPConnection

end IPv6Suite
