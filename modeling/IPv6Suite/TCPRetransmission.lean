import IPv6Suite.TCPSendRange

namespace IPv6Suite

open Lib

namespace TCPConnection

variable {c c' : TCPConnection}

/-- Until the SYN is acknowledged the queue begins behind it. -/
structure BeforeData (c : TCPConnection) : Prop where
  fin : c.sendFin = false
  first : c.sendQueue.beginSeq = c.iss + 1
  near : c.queued < 2 ^ 31

/-- What holds in every state, of the connection and the state that it is in. -/
def RangeInv (fsm : TcpState) (c : TCPConnection) : Prop :=
  match fsm with
  | .init | .listen => c.sendFin = false
  | .synSent | .synRcvd => c.BeforeData
  | .established => c.InQueue ∧ c.sendFin = false
  | .closed => True
  | _ => c.InQueue

/-- When an input does not lead out of the queue: not more bytes are queued than the modular
comparisons reach, nothing is sent after the FIN is queued, nothing that is sent again takes in
the FIN, and SYN_RCVD is not left with the SYN unacknowledged. -/
def StaysInQueue (c : TCPConnection) : TCPInput → Prop
  | .command (.send msg) =>
      (if c.fsm = .listen then 0 else c.queued) + msg.bytes < 2 ^ 31 ∧
        (c.fsm = .closeWait → c.sendFin = false)
  | .command .close => c.fsm ≠ .synRcvd
  | .segment tcpseg => c.Passes tcpseg →
      (c.fsm = .synRcvd → tcpseg.ackNo ≠ c.iss) ∧
        (checksAck c.fsm = true → c.ThirdDupAck tcpseg → ¬ c.FinInSegment)
  | .timeout .rexmitTimer => c.rexmitTimer = true → c.rexmitCount < TCPBaseAlg.maxRexmitCount →
      ¬ TCPAlgorithm.FinAgain c
  | _ => True

/-- What the invariant is about -/
def rangeVars (c : TCPConnection) :
    (TCPVirtualDataSendQueue × BitVec 32 × BitVec 32 × Bool × BitVec 32) × Bool × BitVec 32 :=
  (c.sendVars, c.rexmitTimer, c.iss)

theorem InQueue.of_rangeVars (inQueue : c.InQueue) (same : c'.rangeVars = c.rangeVars) : c'.InQueue := by
  have vars : c'.sendVars = c.sendVars := congrArg (·.1) same
  have timer : c'.rexmitTimer = c.rexmitTimer := congrArg (·.2.1) same
  exact inQueue.of_same vars timer.symm.trans

theorem BeforeData.of_rangeVars (before : c.BeforeData) (same : c'.rangeVars = c.rangeVars) : c'.BeforeData := by
  have queue : c'.sendQueue = c.sendQueue := congrArg (·.1.1) same
  have fin : c'.sendFin = c.sendFin := congrArg (·.1.2.2.2.1) same
  have iss : c'.iss = c.iss := congrArg (·.2.2) same
  refine ⟨fin.trans before.fin, ?_, ?_⟩
  · rw [queue, iss]
    exact before.first
  · unfold queued
    rw [queue]
    exact before.near

variable {fsm : TcpState}

theorem RangeInv.of_same (inv : RangeInv fsm c) (same : c'.rangeVars = c.rangeVars) : RangeInv fsm c' := by
  have fin : c'.sendFin = c.sendFin := congrArg (·.1.2.2.2.1) same
  cases fsm
  case init | listen => exact fin.trans inv
  case synSent | synRcvd => exact BeforeData.of_rangeVars inv same
  case established => exact ⟨inv.1.of_rangeVars same, fin.trans inv.2⟩
  case closed => exact True.intro
  all_goals exact InQueue.of_rangeVars inv same

theorem RangeInv.sendFin (inv : RangeInv fsm c) (early : opening fsm = true) : c.sendFin = false := by
  cases fsm
  case init | listen => exact inv
  case synSent | synRcvd => exact BeforeData.fin inv
  all_goals cases early

theorem RangeInv.of_inQueue (late : opening fsm = false) (inQueue : c.InQueue)
    (fin : fsm = .established → c.sendFin = false) : RangeInv fsm c := by
  cases fsm
  case init | listen | synSent | synRcvd => cases late
  case established => exact ⟨inQueue, fin rfl⟩
  case closed => exact True.intro
  all_goals exact inQueue

theorem RangeInv.inQueue (inv : RangeInv fsm c) (late : opening fsm = false)
    (alive : fsm ≠ .closed) : c.InQueue ∧ (fsm = .established → c.sendFin = false) := by
  cases fsm
  case init | listen | synSent | synRcvd => cases late
  case established => exact ⟨inv.1, fun _ => inv.2⟩
  case closed => exact absurd rfl alive
  all_goals exact ⟨inv, nofun⟩

theorem established_transition {active : Bool} {event : TCPEventCode}
    (late : opening fsm = false) : transition active fsm event ≠ some .established := by
  cases fsm <;> cases event <;> first | (cases late; done) | nofun

theorem RangeInv.next {event : TCPEventCode} (late : opening c.fsm = false) (inQueue : c.InQueue)
    (fin : c.fsm = .established → c.sendFin = false) : RangeInv (c.nextState event) c := by
  refine .of_inQueue (opening_nextState late event) inQueue fun established => fin ?_
  unfold nextState at established
  split at established
  · exact established
  · cases enters : transition c.active c.fsm event with
    | none =>
        rw [enters] at established
        exact established
    | some next =>
        rw [enters] at established
        exact absurd (enters.trans (congrArg some established)) (established_transition late)

theorem InQueue.enqueue {msg : CMessage} (inQueue : c.InQueue) (fin : c.sendFin = false)
    (near : c.queued + msg.bytes < 2 ^ 31) : (c.enqueueAppData msg).InQueue := by
  have sent : (c.sndMax - c.sendQueue.beginSeq).toNat ≤ c.queued :=
    inQueue.sndMax.resolve_right fun finished => by
      rw [fin] at finished
      cases finished.1
  have first : c.sndUna = c.sendQueue.beginSeq :=
    inQueue.sndUna.resolve_right fun ⟨una, empty, acked⟩ => by
      rw [acked, una] at sent
      bv_omega
  have longer : (c.enqueueAppData msg).queued = c.queued + msg.bytes := by
    unfold queued enqueueAppData TCPVirtualDataSendQueue.enqueueAppData at *
    bv_omega
  refine ⟨⟨⟨⟨?_, fun sendFin => ?_⟩, Or.inl ?_⟩, Or.inl first⟩, inQueue.timer⟩
  · rw [longer]
    exact near
  · exact absurd (fin.symm.trans sendFin) Bool.noConfusion
  · rw [longer]
    exact Nat.le_trans sent (Nat.le_add_right _ _)

theorem InQueue.queueFin (inQueue : c.InQueue) : c.queueFin.InQueue :=
  ⟨⟨⟨⟨inQueue.near, fun _ => rfl⟩, inQueue.sndMax.imp_right fun fin => ⟨rfl, fin.2⟩⟩,
    inQueue.sndUna⟩, inQueue.timer⟩

theorem InQueue.sendFinNow (inQueue : c.InQueue) (sent : c.sndMax = c.sendQueue.endSeq) :
    c.sendFinNow.queueFin.InQueue := by
  have near := inQueue.near
  have first : c.sndUna = c.sendQueue.beginSeq :=
    inQueue.sndUna.resolve_right fun ⟨una, empty, acked⟩ => by
      unfold queued at empty
      rw [← acked, sent] at una
      bv_omega
  refine ⟨⟨⟨⟨near, fun _ => rfl⟩, Or.inr ⟨rfl, ?_⟩⟩, Or.inl first⟩, fun _ => ?_⟩
  · exact congrArg (· + 1) sent
  · change c.sndUna ≠ c.sndMax + 1
    unfold queued at near
    rw [first, sent]
    bv_omega

variable {tcpseg : TCPSegment}

theorem processAck_inRange (late : opening c.fsm = false) (inQueue : c.InQueue) (mss : 0 < c.sndMss.toNat)
    (without : checksAck c.fsm = true → c.ThirdDupAck tcpseg → ¬ c.FinInSegment) :
    Ensures InRange (fun check => check.connection.InQueue) (c.processAck tcpseg) :=
  processAck_keeps (synRcvd_not_late late) True.intro
    (fun inQueue same _ => inQueue.of_rangeVars (congrArg rangeVars same :)) (fun _ => inQueue)
    fun checks => processAckInEstabEtc_inRange inQueue mss (without checks)

variable {r : TCPEventCode × TCPConnection}

theorem SegmentReaction.inQueue
    (reaction : c.SegmentReaction tcpseg r) (late : opening c.fsm = false) (alive : c.fsm ≠ .closed)
    (inQueue : c.InQueue) (mss : 0 < c.sndMss.toNat) (stays : c.StaysInQueue (.segment tcpseg)) :
    r.2.InQueue ∧ r.2.sendFin = c.sendFin := by
  cases reaction with
  | refused same =>
      exact ⟨inQueue.of_rangeVars (congrArg rangeVars same :), (congrArg sendFin same :)⟩
  | reset reset =>
      obtain ⟨code, same, -⟩ := processRst_late late alive
      cases reset.symm.trans same
      exact ⟨inQueue.of_rangeVars rfl, rfl⟩
  | unexpected => exact ⟨inQueue.of_rangeVars rfl, rfl⟩
  | drops passes checked =>
      have acked := (processAck_inRange late inQueue mss (stays passes).2).of_ok checked
      exact ⟨acked, (congrArg sendFin ((c.processAck_same tcpseg).of_ok checked) :)⟩
  | proceeds passes checked processed =>
      have acked := (processAck_inRange late inQueue mss (stays passes).2).of_ok checked
      have fin := (congrArg sendFin ((c.processAck_same tcpseg).of_ok checked) :)
      have text := ((processTextAndFin_returns _ tcpseg _ _).of_ok processed).1
      have fin' := (congrArg sendFin text :)
      exact ⟨acked.of_rangeVars (congrArg rangeVars text :), fin'.trans fin⟩

variable {input : TCPInput}

theorem LateReaction.rangeInv
    (reaction : c.LateReaction input r) (inv : RangeInv c.fsm c) (late : opening c.fsm = false)
    (alive : c.fsm ≠ .closed) (mss : 0 < c.sndMss.toNat) (stays : c.StaysInQueue input) :
    RangeInv (r.2.nextState r.1) r.2 := by
  have fsm := reaction.fsm
  obtain ⟨inQueue, fin⟩ := inv.inQueue late alive
  have kept (inQueue' : r.2.InQueue) (same : r.2.sendFin = c.sendFin) :
      RangeInv (r.2.nextState r.1) r.2 := by
    rw [← fsm] at late fin
    exact .next late inQueue' fun established => same.trans (fin established)
  cases reaction with
  | sends open' sent =>
      obtain ⟨near, unclosed⟩ := stays
      have other : c.fsm ≠ .listen := by rcases open' with fsm | fsm <;> rw [fsm] <;> decide
      rw [if_neg other] at near
      have enqueued := inQueue.enqueue (open'.elim fin unclosed) near
      have sends := TCPBaseAlg.sendCommandInvoked_inRange enqueued mss
      have advances := (TCPBaseAlg.sendCommandInvoked_returns _).of_ok sent
      exact kept (sends.of_ok sent) (congrArg sendFin advances.same :)
  | closes open' closes =>
      rcases processClose_cases (Or.inr open') closes with ⟨sent, rfl⟩ | ⟨-, rfl⟩
      · have inQueue' := inQueue.sendFinNow sent
        rcases open' with established | closeWait
        · exact at_nextState RangeInv (c.fsm_closing.trans established) rfl inQueue'
        · exact at_nextState RangeInv (c.fsm_closing.trans closeWait) rfl inQueue'
      · have inQueue' := inQueue.queueFin
        rcases open' with established | closeWait
        · rw [established]
          exact at_nextState RangeInv (c.fsm_queueFin.trans established) rfl inQueue'
        · rw [closeWait]
          exact at_nextState RangeInv (c.fsm_queueFin.trans closeWait) rfl inQueue'
  | quiet same => exact kept (inQueue.of_rangeVars (congrArg rangeVars same :)) (congrArg sendFin same :)
  | segment reaction =>
      obtain ⟨inQueue', same⟩ := reaction.inQueue late alive inQueue mss stays
      exact kept inQueue' same
  | rexmit scheduled expires =>
      have aligned : { c with rexmitTimer := false }.Aligned := inQueue.toAligned.of_same rfl
      have again := TCPAlgorithm.processRexmitTimer_inRange aligned mss (inQueue.timer scheduled)
        (stays scheduled)
      have same := ((TCPAlgorithm.processRexmitTimer_returns _).of_ok expires).same
      exact kept (again.of_ok expires) (congrArg sendFin same :)

theorem InputFault.inRange_late {fault : TCPFault}
    (fails : c.InputFault input fault) (inv : RangeInv c.fsm c) (late : opening c.fsm = false)
    (alive : c.fsm ≠ .closed) (mss : 0 < c.sndMss.toNat) (stays : c.StaysInQueue input) : InRange fault := by
  obtain ⟨inQueue, fin⟩ := inv.inQueue late alive
  cases fails with
  | inRange inRange => exact inRange
  | sends open' fails =>
      obtain ⟨near, unclosed⟩ := stays
      have other : c.fsm ≠ .listen := by rcases open' with fsm | fsm <;> rw [fsm] <;> decide
      rw [if_neg other] at near
      have enqueued := inQueue.enqueue (open'.elim fin unclosed) near
      exact (TCPBaseAlg.sendCommandInvoked_inRange enqueued mss).of_error fails
  | synSent waits =>
      rw [waits] at late
      cases late
  | segment _ fails =>
      cases fails with
      | inRange inRange => exact inRange
      | reset fails =>
          obtain ⟨code, same, -⟩ := processRst_late late alive
          cases same.symm.trans fails
      | ack passes fails =>
          exact (processAck_inRange late inQueue mss (stays passes).2).of_error fails
  | rexmit scheduled fails =>
      have aligned : { c with rexmitTimer := false }.Aligned := inQueue.toAligned.of_same rfl
      exact (TCPAlgorithm.processRexmitTimer_inRange aligned mss (inQueue.timer scheduled)
        (stays scheduled)).of_error fails

/-- The acknowledgement of the SYN, which is the number the queue begins with -/
theorem BeforeData.buffered (before : c.BeforeData) (max : c.sndMax = c.iss + 1) : c.Buffered := by
  refine ⟨⟨before.near, fun fin => absurd (before.fin.symm.trans fin) Bool.noConfusion⟩, Or.inl ?_⟩
  rw [before.first, max, BitVec.sub_self]
  exact Nat.zero_le _

theorem BeforeData.discardUpTo (before : c.BeforeData) {ackNo : BitVec 32}
    (acks : ackNo = c.iss + 1) : c.sendQueue.discardUpTo ackNo = .ok c.sendQueue := by
  have near := before.near
  have first := before.first
  unfold queued at near
  rw [first] at near
  rw [acks, ← first]
  refine discardUpTo_eq ⟨?_, ?_⟩
  · unfold seqLE
    rw [BitVec.sub_self]
    decide
  · unfold seqLE
    rw [first]
    exact near

theorem withSynAckReceived_inQueue (before : c.BeforeData)
    (outstanding : c.SynOutstanding) (ackNo : tcpseg.ackNo = c.iss + 1) :
    (c.withSynAckReceived tcpseg c.sendQueue).InQueue ∧
      (c.withSynAckReceived tcpseg c.sendQueue).sndMss = c.sndMss := by
  have buffered := before.buffered outstanding.sndMax
  have idle := outstanding.rexmitTimer
  have vars : (c.withSynAckReceived tcpseg c.sendQueue).rangeVars =
      ((c.sendQueue, tcpseg.ackNo, c.sndMax, c.sendFin, c.sndFinSeq), c.rexmitTimer, c.iss) := by
    unfold withSynAckReceived
    dsimp only
    split <;> rfl
  refine ⟨⟨.of_vars (congrArg (·.1) vars) before.near buffered.sndMax buffered.finSeq
    (Or.inl (ackNo.trans before.first.symm)), fun running => ?_⟩, ?_⟩
  · have timer : _ = c.rexmitTimer := congrArg (·.2.1) vars
    exact absurd (timer.symm.trans running |>.symm.trans idle) Bool.noConfusion
  · unfold withSynAckReceived
    dsimp only
    split <;> rfl

theorem processAck_inRange_synRcvd (waits : c.fsm = .synRcvd)
    (before : c.BeforeData) (outstanding : c.SynOutstanding) (mss : 0 < c.sndMss.toNat)
    (other : tcpseg.ackNo ≠ c.iss) : Ensures InRange
    (fun check => match check with
      | .drop _ _ => True
      | .proceed _ c' => c'.InQueue)
    (c.processAck tcpseg) := by
  unfold processAck
  rw [waits]
  refine Ensures.ite (fun _ => True.intro) fun acks => ?_
  rw [not_or, not_not, not_not] at acks
  have ackNo := outstanding.ackNo acks.1 acks.2 other
  have new : { c with sndCwnd := c.sndMss }.AcksNew tcpseg := outstanding.acksNew ackNo
  have before' : { c with sndCwnd := c.sndMss }.BeforeData := before.of_rangeVars rfl
  have buffered := before'.buffered outstanding.sndMax
  have acked : { c with sndCwnd := c.sndMss }.AcksSent tcpseg.ackNo := by
    change (tcpseg.ackNo - c.sendQueue.beginSeq).toNat ≤ _
    rw [ackNo, ← before.first, BitVec.sub_self]
    exact Nat.zero_le _
  refine Ensures.ok_bind ?_
  rw [processAckInEstabEtc_new new]
  refine Ensures.bind (receivesNew_inRange buffered mss acked) ?_
  rintro ⟨ok, c'⟩ inQueue
  rw [Ensures.pure_iff]
  cases ok with
  | true => exact inQueue
  | false => exact True.intro

/-- A new initial sequence number leaves nothing in the queue. -/
theorem withSynSent_queued : c.withSynSent.queued = 0 := by
  change (c.clockIss + 1 - (c.clockIss + 1)).toNat = 0
  rw [BitVec.sub_self]
  rfl

theorem withSynSent_beforeData (fin : c.sendFin = false) : c.withSynSent.BeforeData := by
  refine ⟨fin, rfl, ?_⟩
  rw [withSynSent_queued]
  decide

theorem BeforeData.enqueue {msg : CMessage} (before : c.BeforeData)
    (near : c.queued + msg.bytes < 2 ^ 31) : (c.enqueueAppData msg).BeforeData := by
  refine ⟨before.fin, before.first, ?_⟩
  unfold queued enqueueAppData TCPVirtualDataSendQueue.enqueueAppData at *
  bv_omega

theorem SegmentReaction.rangeInv_synRcvd (reaction : c.SegmentReaction tcpseg r) (waits : c.fsm = .synRcvd)
    (before : c.BeforeData) (outstanding : c.SynOutstanding) (mss : 0 < c.sndMss.toNat)
    (stays : c.StaysInQueue (.segment tcpseg)) : RangeInv (r.2.nextState r.1) r.2 := by
  have fsm := reaction.fsm.trans waits
  cases reaction with
  | refused same =>
      exact at_nextState RangeInv fsm rfl (before.of_rangeVars (congrArg rangeVars same :))
  | reset reset =>
      obtain ⟨event, sendQueue, toAppl, same⟩ := c.processRst_returns.of_ok reset
      have fin : r.2.sendFin = false := by
        rw [same]
        exact before.fin
      rw [event]
      refine at_nextState RangeInv fsm rfl ?_
      cases r.2.active with
      | true => exact True.intro
      | false => exact fin
  | unexpected => exact at_nextState RangeInv fsm rfl True.intro
  | drops _ checked =>
      obtain ⟨rfl, same, -⟩ := (processAck_synRcvd waits tcpseg).of_ok checked
      exact at_nextState RangeInv fsm rfl (before.of_rangeVars (congrArg rangeVars same :))
  | proceeds passes checked processed =>
      have acked : InQueue _ :=
        (processAck_inRange_synRcvd waits before outstanding mss ((stays passes).1 waits)).of_ok checked
      have rcvAck : _ = TCPEventCode.rcvAck := (processAck_synRcvd waits tcpseg).of_ok checked
      have fin := (congrArg sendFin ((c.processAck_same tcpseg).of_ok checked) :)
      obtain ⟨text, events⟩ := (processTextAndFin_returns _ tcpseg _ _).of_ok processed
      have fin' := (congrArg sendFin text :)
      have inQueue : r.2.InQueue := acked.of_rangeVars (congrArg rangeVars text :)
      have unclosed : r.2.sendFin = false := fin'.trans (fin.trans before.fin)
      have fsm' := ((congrArg TCPConnection.fsm text :)).symm.trans fsm
      rcases events with ⟨-, closeWait⟩ | ⟨event, -⟩ | ⟨event, -⟩ | ⟨-, -, finWait1⟩
      · cases fsm'.symm.trans closeWait
      · rw [event, rcvAck]
        exact at_nextState RangeInv fsm rfl ⟨inQueue, unclosed⟩
      · rw [event]
        exact at_nextState RangeInv fsm rfl inQueue
      · cases fsm'.symm.trans finWait1

theorem EarlyReaction.rangeInv
    (reaction : c.EarlyReaction input r) (handshake : Handshake c.fsm c) (inv : RangeInv c.fsm c)
    (early : opening c.fsm = true) (mss : 0 < c.sndMss.toNat) (stays : c.StaysInQueue input) :
    RangeInv (r.2.nextState r.1) r.2 := by
  have fin : c.sendFin = false := inv.sendFin early
  have sent : c.withSynSent.BeforeData := withSynSent_beforeData fin
  cases reaction with
  | @quiet _ _ c' same next =>
      have kept : RangeInv c.fsm c' := inv.of_same (congrArg rangeVars same :)
      rcases next with stays | closed | ⟨-, listens⟩
      · rw [stays]
        exact kept
      · rw [closed]
        exact True.intro
      · rw [listens]
        exact (congrArg sendFin same :).trans fin
  | listens new =>
      rcases new with new | listens
      · exact at_nextState RangeInv new rfl fin
      · exact at_nextState RangeInv listens rfl fin
  | opens new =>
      rcases new with new | listens
      · exact at_nextState RangeInv new rfl (sent.of_rangeVars rfl)
      · exact at_nextState RangeInv listens rfl (sent.of_rangeVars rfl)
  | opensToSend listens =>
      have near := stays.1
      rw [if_pos listens, ← withSynSent_queued (c := c)] at near
      exact at_nextState RangeInv listens rfl (BeforeData.enqueue (sent.of_rangeVars rfl) near)
  | enqueues waits =>
      have near := stays.1
      rcases waits with waits | waits
      · rw [waits] at inv near
        exact at_nextState RangeInv waits rfl (BeforeData.enqueue inv near)
      · rw [waits] at inv near
        exact at_nextState RangeInv waits rfl (BeforeData.enqueue inv near)
  | closes waits => exact absurd waits stays
  | syn listens => exact at_nextState RangeInv listens rfl (sent.of_rangeVars rfl)
  | synSent waits reaction =>
      rw [waits] at handshake inv
      cases reaction with
      | ignores same =>
          have fsm : _ = c.fsm := (congrArg TCPConnection.fsm same :)
          exact at_nextState RangeInv (fsm.trans waits) rfl
            (BeforeData.of_rangeVars inv (congrArg rangeVars same :))
      | resets => exact at_nextState RangeInv waits rfl True.intro
      | establishes acks synAck discarded notified =>
          have ackNo := acks.ackNo handshake.sndNxt
          cases (BeforeData.discardUpTo inv ackNo).symm.trans discarded
          obtain ⟨inQueue, mss'⟩ := withSynAckReceived_inQueue inv handshake ackNo
          have sends := TCPBaseAlg.established_inRange inQueue (mss' ▸ mss) true
          have advances := (TCPBaseAlg.established_returns _ _).of_ok notified
          have fsm := advances.state
          have same := (congrArg TCPConnection.sendFin advances.same :)
          refine at_nextState RangeInv (fsm.trans (fsm_withSynAckReceived.trans waits)) rfl ?_
          exact ⟨sends.of_ok notified, same.trans (sendFin_withSynAckReceived.trans fin)⟩
      | crosses =>
          have before : c.BeforeData := inv
          refine at_nextState RangeInv waits rfl (show BeforeData _ from ?_)
          exact ⟨before.fin, before.first, before.near⟩
  | synRcvd waits reaction =>
      rw [waits] at handshake inv
      exact reaction.rangeInv_synRcvd waits inv handshake mss stays

theorem InputFault.inRange_early {fault : TCPFault}
    (fails : c.InputFault input fault) (handshake : Handshake c.fsm c) (inv : RangeInv c.fsm c)
    (early : opening c.fsm = true) (mss : 0 < c.sndMss.toNat) (stays : c.StaysInQueue input) : InRange fault := by
  cases fails with
  | inRange inRange => exact inRange
  | sends open' =>
      rcases open' with open' | open'
      all_goals
        rw [open'] at early
        cases early
  | synSent waits fails =>
      rw [waits] at handshake inv
      cases fails with
      | inRange inRange => exact inRange
      | discards acks fails =>
          have ackNo := acks.ackNo handshake.sndNxt
          cases (BeforeData.discardUpTo inv ackNo).symm.trans fails
      | establishes acks discarded fails =>
          have ackNo := acks.ackNo handshake.sndNxt
          cases (BeforeData.discardUpTo inv ackNo).symm.trans discarded
          obtain ⟨inQueue, mss'⟩ := withSynAckReceived_inQueue inv handshake ackNo
          exact (TCPBaseAlg.established_inRange inQueue (mss' ▸ mss) true).of_error fails
  | segment past fails =>
      have waits : c.fsm = .synRcvd := past.resolve_right fun late =>
        Bool.noConfusion (late.symm.trans early)
      rw [waits] at handshake inv
      cases fails with
      | inRange inRange => exact inRange
      | reset fails =>
          have near : c.queued < 2 ^ 31 := BeforeData.near inv
          have discarded : c.sendQueue.discardUpTo c.sendQueue.bufferEndSeq = .ok _ :=
            discardUpTo_eq ⟨near, by
              unfold seqLE TCPVirtualDataSendQueue.bufferEndSeq
              rw [BitVec.sub_self]
              decide⟩
          unfold processRst at fails
          rw [waits] at fails
          dsimp only at fails
          unfold processRstInSynReceived at fails
          rw [discarded] at fails
          cases fails
      | ack passes fails =>
          exact (processAck_inRange_synRcvd waits inv handshake mss ((stays passes).1 waits)).of_error
            fails
  | rexmit scheduled =>
      exact absurd (scheduled.symm.trans (handshake.rexmitTimer early)) Bool.noConfusion

theorem StaysInQueue.atTime (stays : c.StaysInQueue input) (simTime : Nat) :
    (c.atTime simTime).StaysInQueue input := by
  cases input with
  | command cmd => cases cmd <;> exact stays
  | segment tcpseg =>
      intro passes
      exact stays ⟨passes.acceptable, passes.plain, passes.synBit, passes.ackBit⟩
  | timeout timer => cases timer <;> exact stays

theorem handle_inRange (handshake : Handshake c.fsm c) (inv : RangeInv c.fsm c)
    (mss : c.fsm = .closed ∨ 0 < c.sndMss.toNat) (simTime : Nat) (stays : c.StaysInQueue input) :
    Ensures InRange (fun c' => RangeInv c'.fsm c') (c.handle simTime input) := by
  refine handle_ensures (fun _ => id) RangeInv (fun _ => True.intro)
    (fun same inv => inv.of_same (congrArg rangeVars same :)) (fun alive => ?_) inv
  have now : RangeInv (c.atTime simTime).fsm (c.atTime simTime) := inv.of_same rfl
  have mss' : 0 < (c.atTime simTime).sndMss.toNat := mss.resolve_left alive
  have stays' := stays.atTime simTime
  cases early : opening c.fsm with
  | true =>
      have handshake' : Handshake (c.atTime simTime).fsm (c.atTime simTime) := handshake.of_same rfl
      exact (processInput_early handshake' early input).mono
        (fun r reaction => reaction.rangeInv handshake' now early mss' stays')
        fun fault fails => fails.inRange_early handshake' now early mss' stays'
  | false =>
      exact (processInput_late (c := c.atTime simTime) early alive input).mono
        (fun r reaction => reaction.rangeInv now early alive mss' stays')
        fun fault fails => fails.inRange_late now early alive mss' stays'

theorem rangeInv_of_runs {tcpAlgorithm : TCPAlgorithm} {arrivals : List (Nat × TCPInput)}
    (runs : Runs step (fun c arrival => c.StaysInQueue arrival.2) (create tcpAlgorithm) arrivals c) :
    Handshake c.fsm c ∧ (c.fsm = .closed ∨ 0 < c.sndMss.toNat) ∧ RangeInv c.fsm c := by
  have start : RangeInv (create tcpAlgorithm).fsm (create tcpAlgorithm) :=
    show (create tcpAlgorithm).sendFin = false from rfl
  refine invariant_of_runs (fun c => RangeInv c.fsm c) start ?_ runs
  intro c c' simTime input handshake mss inv stays done
  exact (handle_inRange handshake inv mss simTime stays).of_ok done

/-- In every run whose steps stay in the queue, no assertion about the range of what is sent,
discarded or sent again fails, and no state past SYN_RCVD has the SYN unacknowledged. -/
theorem inRange_of_staysInQueue {tcpAlgorithm : TCPAlgorithm} {arrivals : List (Nat × TCPInput)}
    (runs : Runs step (fun c arrival => c.StaysInQueue arrival.2) (create tcpAlgorithm) arrivals c) :
    (∀ simTime input fault, c.StaysInQueue input → c.handle simTime input = .error fault →
      InRange fault) ∧
    (opening c.fsm = false → c.fsm ≠ .closed →
      c.sendQueue.beginSeq = c.iss + 1 → c.sndUna ≠ c.iss) := by
  obtain ⟨handshake, mss, inv⟩ := rangeInv_of_runs runs
  refine ⟨fun simTime input fault stays fails => ?_, fun late alive first => ?_⟩
  · exact (handle_inRange handshake inv mss simTime stays).of_error fails
  · have una := (inv.inQueue late alive).1.sndUna
    rw [first] at una
    rcases una with una | ⟨una, -⟩
    · rw [una]
      bv_omega
    · rw [una]
      bv_omega

theorem inRange_example : ∃ c, Runs step (fun c arrival => c.StaysInQueue arrival.2) (create .tahoe)
    [(0, .command (.openActive true)), (1, .segment exampleSynAck),
      (2, .command (.send ⟨"data", 800⟩)), (3, .timeout .rexmitTimer)] c ∧
    c.fsm = .established ∧ c.sndUna ≠ c.iss ∧
      ∀ simTime fault, c.handle simTime (.timeout .rexmitTimer) = .error fault → InRange fault := by
  have runs : Runs step (fun c arrival => c.StaysInQueue arrival.2) (create .tahoe)
      [(0, .command (.openActive true)), (1, .segment exampleSynAck),
        (2, .command (.send ⟨"data", 800⟩)), (3, .timeout .rexmitTimer)] _ :=
    .cons True.intro rfl (.cons (fun _ => ⟨nofun, nofun⟩) rfl
      (.cons ⟨by decide, nofun⟩ rfl (.cons (fun _ _ => by decide) rfl (.nil _))))
  have holds := inRange_of_staysInQueue runs
  refine ⟨_, runs, rfl, holds.2 rfl (by decide) rfl, fun simTime fault => ?_⟩
  exact holds.1 simTime _ fault fun _ _ => by decide

/-- The timer with the FIN outstanding -/
theorem fin_sent_again :
    ¬ ∀ tcpAlgorithm arrivals c simTime input fault,
      Runs step (fun _ _ => True) (create tcpAlgorithm) arrivals c →
        c.handle simTime input = .error fault → InRange fault := by
  intro claim
  have runs : Runs step (fun _ _ => True) (create .reno)
      [(0, .command (.openActive true)), (1, .segment exampleSynAck),
        (2, .command (.send ⟨"data", 800⟩)), (3, .command .close)] _ :=
    .cons True.intro rfl (.cons True.intro rfl (.cons True.intro rfl (.cons True.intro rfl (.nil _))))
  exact claim _ _ _ 4 (.timeout .rexmitTimer) (.sendQueue .assertFailed) runs rfl

end TCPConnection

end IPv6Suite
