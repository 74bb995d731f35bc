import IPv6Suite.Lib.Ensures
import IPv6Suite.TCPConnectionBase

namespace IPv6Suite

open Lib

namespace TCPBaseAlg

theorem ensureRexmitTimer_eq (c : TCPConnection) : ∃ rexmitCount,
    ensureRexmitTimer c = .ok { c with rexmitTimer := true, rexmitCount } := by
  unfold ensureRexmitTimer startRexmitTimer TCPConnection.scheduleTimeout
  by_cases running : c.rexmitTimer = true
  · refine ⟨c.rexmitCount, ?_⟩
    rw [if_pos running, ← running]
  · refine ⟨0, ?_⟩
    rw [if_neg running, if_neg running]
    rfl

theorem dataSent_eq (c : TCPConnection) (fromseq : BitVec 32) : ∃ rexmitCount rtseq rtseqSendtime,
    dataSent c fromseq = .ok { c with rexmitTimer := true, rexmitCount, rtseq, rtseqSendtime } := by
  obtain ⟨rexmitCount, started⟩ := ensureRexmitTimer_eq c
  unfold dataSent
  rw [started]
  by_cases idle : c.rtseqSendtime = 0
  · exact ⟨rexmitCount, fromseq, c.simTime, congrArg Except.ok (if_pos idle)⟩
  · exact ⟨rexmitCount, c.rtseq, c.rtseqSendtime, congrArg Except.ok (if_neg idle)⟩

end TCPBaseAlg

/-- The segment carries data or a FIN. -/
def TCPSegment.carries (tcpseg : TCPSegment) : Bool :=
  decide (0 < tcpseg.payloadLength) || tcpseg.finBit

namespace TCPConnection

/-- The segments sent with data or a FIN -/
def transmissions (c : TCPConnection) : List TCPSegment := c.toIP.filter TCPSegment.carries

theorem transmissions_append {c c' : TCPConnection} {tcpseg : TCPSegment}
    (toIP : c'.toIP = c.toIP ++ [tcpseg]) (bare : tcpseg.carries = false) : c'.transmissions = c.transmissions := by
  unfold transmissions
  rw [toIP, List.filter_append, List.filter_cons_of_neg (Bool.eq_false_iff.mp bare),
    List.filter_nil, List.append_nil]

theorem transmissions_sendRst (c : TCPConnection) (seqNo : BitVec 32) :
    (c.sendRst seqNo).transmissions = c.transmissions := transmissions_append rfl rfl

theorem transmissions_sendAck (c : TCPConnection) : c.sendAck.transmissions = c.transmissions :=
  transmissions_append rfl rfl

/-- All but what a connection puts out. -/
def exceptOutput (c : TCPConnection) : TCPConnection :=
  { c with delayedAckTimer := false, toIP := [], toAppl := [] }

/-- All but what is changed when segments are sent. -/
def exceptSegments (c : TCPConnection) : TCPConnection := { c.exceptOutput with sndNxt := 0 }

/-- All but what is changed when the algorithm sends or sends again. -/
def exceptSending (c : TCPConnection) : TCPConnection :=
  { c.exceptSegments with
    sndMax := 0
    rexmitTimer := false
    rexmitCount := 0
    rtseq := 0
    rtseqSendtime := 0
    sndCwnd := 0
    ssthresh := 0 }

variable {c c' : TCPConnection}

theorem exceptSending_of_exceptSegments (same : c'.exceptSegments = c.exceptSegments) :
    c'.exceptSending = c.exceptSending := by
  unfold exceptSending
  rw [same]

/-- Where a segment of `bytes` bytes leaves `snd_nxt`; a FIN takes a number of its own. -/
def nxtAfter (c : TCPConnection) (bytes : Nat) : BitVec 32 :=
  let sndNxt := c.sndNxt + BitVec.ofNat 32 bytes
  if c.sendFin ∧ sndNxt = c.sndFinSeq then sndNxt + 1 else sndNxt

theorem sendSegment_returns (c : TCPConnection) (bytes : Nat) : OnReturn
    (fun c' => c'.exceptSegments = c.exceptSegments ∧ c'.sndNxt = c.nxtAfter bytes) (c.sendSegment bytes) := by
  unfold sendSegment
  refine Ensures.bind Ensures.trivial fun tcpseg _ => ?_
  unfold nxtAfter
  dsimp only
  split
  · rename_i fin
    rw [fin.2]
    exact ⟨rfl, rfl⟩
  · exact ⟨rfl, rfl⟩

/-- `snd_nxt` is `k` numbers past the FIN. -/
def FinBehind (c : TCPConnection) (k : Nat) : Prop :=
  c.sndNxt = c.sndFinSeq + BitVec.ofNat 32 (k + 1)

theorem FinBehind.nxtAfter {k bytes : Nat} (behind : c.FinBehind k) (near : k + bytes + 1 < 2 ^ 32) :
    c.nxtAfter bytes = c.sndNxt + BitVec.ofNat 32 bytes := by
  unfold TCPConnection.nxtAfter FinBehind at *
  refine if_neg fun fin => ?_
  have passed := fin.2
  rw [behind] at passed
  bv_omega

theorem FinBehind.advance {k bytes : Nat} (behind : c.FinBehind k) (same : c'.exceptSegments = c.exceptSegments)
    (nxt : c'.sndNxt = c.sndNxt + BitVec.ofNat 32 bytes) : c'.FinBehind (k + bytes) := by
  have finSeq : c'.sndFinSeq = c.sndFinSeq := (congrArg sndFinSeq same :)
  unfold FinBehind at *
  rw [nxt, behind, finSeq, BitVec.add_assoc, ← BitVec.ofNat_add]
  congr 2
  omega

/-- Segments are sent, and `snd_nxt` moves by `n`. -/
structure Moves (c c' : TCPConnection) (n : Nat) : Prop where
  same : c'.exceptSegments = c.exceptSegments
  sndNxt : c'.sndNxt = c.sndNxt + BitVec.ofNat 32 n

theorem Moves.refl (c : TCPConnection) : c.Moves c 0 := ⟨rfl, (BitVec.add_zero _).symm⟩

theorem Moves.trans {c'' : TCPConnection} {m n : Nat} (first : c.Moves c' m) (next : c'.Moves c'' n) :
    c.Moves c'' (m + n) where
  same := next.same.trans first.same
  sndNxt := by rw [next.sndNxt, first.sndNxt, BitVec.add_assoc, ← BitVec.ofNat_add]

theorem Moves.sndMss {n : Nat} (moves : c.Moves c' n) : c'.sndMss = c.sndMss :=
  (congrArg TCPConnection.sndMss moves.same :)

/-- Past the FIN every byte sent takes one number. -/
theorem sendWholeSegments_behind {k bytesToSend fuel : Nat} (behind : c.FinBehind k)
    (near : k + bytesToSend + 1 < 2 ^ 32) : OnReturn
    (fun c' => ∃ n, c.Moves c' n ∧ n ≤ bytesToSend ∧ bytesToSend < n + c.sndMss.toNat)
    (c.sendWholeSegments bytesToSend fuel) := by
  induction fuel generalizing c k bytesToSend with
  | zero =>
      unfold sendWholeSegments
      refine Ensures.ite (fun rest => ⟨0, .refl c, Nat.zero_le _, by omega⟩) fun _ => True.intro
  | succ fuel ih =>
      unfold sendWholeSegments
      refine Ensures.ite (fun rest => ⟨0, .refl c, Nat.zero_le _, by omega⟩) fun more => ?_
      refine Ensures.bind (sendSegment_returns c _) fun c₁ ⟨same, nxt⟩ => ?_
      rw [behind.nxtAfter (by omega)] at nxt
      have first : c.Moves c₁ c.sndMss.toNat := ⟨same, nxt⟩
      have mss := first.sndMss
      rw [mss]
      refine (ih (behind.advance same nxt) (by omega)).imp ?_
      rintro c₂ ⟨n, next, most, least⟩
      rw [mss] at least
      exact ⟨_, first.trans next, by omega, by omega⟩

theorem sendWholeSegments_returns {bytesToSend fuel : Nat} (near : bytesToSend + 1 < 2 ^ 32) : OnReturn
      (fun c' => ∃ n, c.Moves c' n ∧ n ≤ bytesToSend + 1 ∧ bytesToSend < n + c.sndMss.toNat)
      (c.sendWholeSegments bytesToSend fuel) := by
  induction fuel generalizing c bytesToSend with
  | zero =>
      unfold sendWholeSegments
      refine Ensures.ite (fun rest => ⟨0, .refl c, Nat.zero_le _, by omega⟩) fun _ => True.intro
  | succ fuel ih =>
      unfold sendWholeSegments
      refine Ensures.ite (fun rest => ⟨0, .refl c, Nat.zero_le _, by omega⟩) fun more => ?_
      refine Ensures.bind (sendSegment_returns c _) fun c₁ ⟨same, nxt⟩ => ?_
      unfold nxtAfter at nxt
      dsimp only at nxt
      split at nxt
      · rename_i fin
        have first : c.Moves c₁ (c.sndMss.toNat + 1) :=
          ⟨same, by rw [nxt, BitVec.ofNat_add, BitVec.add_assoc]; rfl⟩
        have mss := first.sndMss
        have behind : c₁.FinBehind 0 := by
          have finSeq : c₁.sndFinSeq = c.sndFinSeq := (congrArg sndFinSeq same :)
          unfold FinBehind
          rw [nxt, fin.2, finSeq]
          rfl
        rw [mss]
        refine (sendWholeSegments_behind behind (by omega)).imp ?_
        rintro c₂ ⟨n, next, most, least⟩
        rw [mss] at least
        exact ⟨_, first.trans next, by omega, by omega⟩
      · have first : c.Moves c₁ c.sndMss.toNat := ⟨same, nxt⟩
        have mss := first.sndMss
        rw [mss]
        refine (ih (by omega)).imp ?_
        rintro c₂ ⟨n, next, most, least⟩
        rw [mss] at least
        exact ⟨_, first.trans next, by omega, by omega⟩

theorem sendBytes_returns {bytesToSend : Nat} (some : 0 < bytesToSend) (near : bytesToSend + 1 < 2 ^ 32) :
    OnReturn (fun c' => ∃ n, c.Moves c' n ∧ 0 < n ∧ n ≤ bytesToSend + 1) (c.sendBytes bytesToSend) := by
  unfold sendBytes
  refine Ensures.ite (fun _ => ?_) fun more => ?_
  · refine (sendSegment_returns c bytesToSend).imp ?_
    rintro c' ⟨same, nxt⟩
    unfold nxtAfter at nxt
    dsimp only at nxt
    split at nxt
    · exact ⟨bytesToSend + 1, ⟨same, by rw [nxt, BitVec.ofNat_add, BitVec.add_assoc]; rfl⟩,
        Nat.succ_pos _, Nat.le_refl _⟩
    · exact ⟨bytesToSend, ⟨same, nxt⟩, some, Nat.le_succ _⟩
  · refine (sendWholeSegments_returns near).imp ?_
    rintro c' ⟨n, moves, most, least⟩
    exact ⟨n, moves, by omega, most⟩

/-- Nothing is sent beyond `snd_max`, or the timer runs and `snd_max` moves within the window
and over a FIN. -/
structure Advances (c c' : TCPConnection) : Prop where
  same : c'.exceptSending = c.exceptSending
  sent : c'.sndMax = c.sndMax ∧ c'.rexmitTimer = c.rexmitTimer ∨
    c'.rexmitTimer = true ∧ ∃ n, 0 < n ∧ n ≤ 2 ^ 31 ∧
      (c.sndMax - c.sndUna).toNat + n ≤ c.sndWnd.toNat + 1 ∧
      c'.sndMax = c.sndMax + BitVec.ofNat 32 n

theorem Advances.of_exceptSegments (same : c'.exceptSegments = c.exceptSegments) : c.Advances c' where
  same := exceptSending_of_exceptSegments same
  sent := Or.inl ⟨(congrArg sndMax same :), (congrArg rexmitTimer same :)⟩

theorem Advances.state {c c' : TCPConnection} (advances : c.Advances c') : c'.fsm = c.fsm := by
  have same := congrArg TCPConnection.fsm advances.same
  simp only [exceptSending, exceptSegments, exceptOutput] at same
  exact same

theorem Advances.window {c c' : TCPConnection} (advances : c.Advances c') : c'.sndWnd = c.sndWnd := by
  have same := congrArg TCPConnection.sndWnd advances.same
  simp only [exceptSending, exceptSegments, exceptOutput] at same
  exact same

theorem bytesAvailable_lt (q : TCPVirtualDataSendQueue) (fromSeq : BitVec 32) :
    q.bytesAvailable fromSeq < 2 ^ 31 := by
  unfold TCPVirtualDataSendQueue.bytesAvailable
  split
  · rename_i less
    exact less.2
  · decide

theorem effectiveWin_le (c : TCPConnection) (congestionWindow : Int) :
    c.effectiveWin congestionWindow ≤ c.sndWnd.toNat - (c.sndNxt - c.sndUna).toNat := by
  unfold effectiveWin
  dsimp only
  split <;> omega

theorem sendData_returns (c : TCPConnection) (fullSegmentsOnly : Prop) [Decidable fullSegmentsOnly]
    (congestionWindow : Int) :
    OnReturn (fun r => c.Advances r.2) (c.sendData fullSegmentsOnly congestionWindow) := by
  have unsent : c.Advances { c with sndNxt := c.sndMax } := .of_exceptSegments rfl
  have window := { c with sndNxt := c.sndMax }.effectiveWin_le congestionWindow
  have buffered := bytesAvailable_lt c.sendQueue c.sndMax
  unfold sendData
  dsimp only at window ⊢
  refine Ensures.ite (fun _ => unsent) fun queued => ?_
  refine Ensures.ite (fun _ => unsent) fun open' => ?_
  refine Ensures.ite (fun _ => unsent) fun _ => ?_
  refine Ensures.bind (sendBytes_returns (by omega) (by omega)) ?_
  rintro c₁ ⟨n, moves, some, most⟩
  obtain ⟨rexmitCount, rtseq, rtseqSendtime, sent⟩ :=
    TCPBaseAlg.dataSent_eq (TCPBaseAlg.ackSent { c₁ with sndMax := c₁.sndNxt }) c.sndMax
  rw [sent]
  refine ⟨?_, Or.inr ⟨rfl, n, some, by omega, by omega, moves.sndNxt⟩⟩
  have same : c₁.exceptSending = c.exceptSending := exceptSending_of_exceptSegments moves.same
  exact same

theorem Advances.of_same {c₁ : TCPConnection} (advances : c₁.Advances c')
    (same : c₁.exceptSending = c.exceptSending) (sndMax : c₁.sndMax = c.sndMax)
    (rexmitTimer : c₁.rexmitTimer = c.rexmitTimer) : c.Advances c' where
  same := advances.same.trans same
  sent := by
    have una : c₁.sndUna = c.sndUna := (congrArg sndUna same :)
    have wnd : c₁.sndWnd = c.sndWnd := (congrArg sndWnd same :)
    rw [← sndMax, ← rexmitTimer, ← una, ← wnd]
    exact advances.sent

theorem Advances.segments {c'' : TCPConnection} (advances : c.Advances c')
    (same : c''.exceptSegments = c'.exceptSegments) : c.Advances c'' where
  same := (exceptSending_of_exceptSegments same).trans advances.same
  sent := by
    have max : c''.sndMax = c'.sndMax := (congrArg sndMax same :)
    have timer : c''.rexmitTimer = c'.rexmitTimer := (congrArg rexmitTimer same :)
    rw [max, timer]
    exact advances.sent

/-- What a retransmission does: nothing that was not sent before is sent. -/
theorem retransmitOneSegment_returns (c : TCPConnection) : OnReturn
    (fun c' => c'.exceptSegments = c.exceptSegments) c.retransmitOneSegment := by
  unfold retransmitOneSegment
  refine Ensures.ite (fun _ => True.intro) fun _ => ?_
  exact Ensures.bind (sendSegment_returns _ _) fun c₁ sent => sent.1

theorem retransmitSegments_returns (c : TCPConnection) (bytesToSend fuel : Nat) : OnReturn
    (fun c' => c'.exceptSegments = c.exceptSegments) (c.retransmitSegments bytesToSend fuel) := by
  induction fuel generalizing c bytesToSend with
  | zero =>
      unfold retransmitSegments
      exact Ensures.ite (fun _ => rfl) fun _ => True.intro
  | succ fuel ih =>
      unfold retransmitSegments
      refine Ensures.ite (fun _ => rfl) fun _ => ?_
      refine Ensures.bind (sendSegment_returns c _) fun c₁ sent => ?_
      exact (ih c₁ _).imp fun c₂ rest => rest.trans sent.1

theorem retransmitData_returns (c : TCPConnection) : OnReturn
    (fun c' => c'.exceptSegments = c.exceptSegments) c.retransmitData := by
  unfold retransmitData
  refine Ensures.ite (fun _ => True.intro) fun _ => ?_
  exact retransmitSegments_returns _ _ _

end TCPConnection

namespace TCPBaseAlg

variable {c c' : TCPConnection}

theorem sendData_returns (c : TCPConnection) :
    OnReturn (fun r => c.Advances r.2) (sendData c) := c.sendData_returns _ _

theorem established_returns (c : TCPConnection) (active : Bool) :
    OnReturn (fun c' => c.Advances c') (established c active) := by
  unfold established
  refine Ensures.ite (fun _ => ?_) fun _ => ?_
  · refine Ensures.bind (sendData_returns _) ?_
    rintro ⟨sent, c'⟩ advances
    have further : c.Advances c' := advances.of_same rfl rfl rfl
    change c.Advances (if sent then c' else c'.sendAck)
    split
    · exact further
    · exact further.segments rfl
  · exact ⟨rfl, Or.inl ⟨rfl, rfl⟩⟩

theorem sendCommandInvoked_returns (c : TCPConnection) :
    OnReturn (fun c' => c.Advances c') (sendCommandInvoked c) :=
  Ensures.bind (sendData_returns c) fun _ advances => advances

theorem measureRtt_eq {c : TCPConnection} (idle : c.rexmitTimer = false) :
    ∃ rtseqSendtime, measureRtt c = .ok { c with rtseqSendtime } := by
  unfold measureRtt
  by_cases acked : c.rtseqSendtime ≠ 0 ∧ seqLess c.rtseq c.sndUna
  · rw [if_pos acked]
    unfold rttMeasurementComplete TCPExec.assert
    rw [if_pos idle]
    exact ⟨0, rfl⟩
  · rw [if_neg acked]
    exact ⟨c.rtseqSendtime, rfl⟩

theorem receivedDataAck_eq (c : TCPConnection) : ∃ rexmitCount rtseqSendtime,
    receivedDataAck c = .ok { c with
      rexmitTimer := decide (c.sndUna ≠ c.sndMax), rexmitCount, rtseqSendtime } := by
  obtain ⟨rtseqSendtime, measured⟩ := measureRtt_eq (c := { c with rexmitTimer := false }) rfl
  unfold receivedDataAck
  rw [measured]
  by_cases all : c.sndUna = c.sndMax
  · refine ⟨c.rexmitCount, rtseqSendtime, ?_⟩
    rw [decide_eq_false (not_not_intro all)]
    exact if_pos all
  · refine ⟨0, rtseqSendtime, ?_⟩
    rw [decide_eq_true all]
    exact if_neg all

end TCPBaseAlg

namespace TCPAlgorithm

variable {c c' : TCPConnection}

theorem receivedDataAck_returns (c : TCPConnection) : OnReturn
    (fun c' => { c with rexmitTimer := decide (c.sndUna ≠ c.sndMax) }.Advances c')
    (receivedDataAck c) := by
  obtain ⟨rexmitCount, rtseqSendtime, notified⟩ := TCPBaseAlg.receivedDataAck_eq c
  unfold receivedDataAck
  split
  · unfold TCPTahoe.receivedDataAck
    rw [notified]
    refine (TCPBaseAlg.sendCommandInvoked_returns _).imp fun c' advances => ?_
    refine advances.of_same ?_ ?_ ?_
    all_goals
      unfold TCPTahoeRenoFamily.increaseCwnd
      split <;> rfl
  · unfold TCPReno.receivedDataAck
    rw [notified]
    refine (TCPBaseAlg.sendCommandInvoked_returns _).imp fun c' advances => ?_
    refine advances.of_same ?_ ?_ ?_
    all_goals
      unfold TCPTahoeRenoFamily.increaseCwnd
      split
      · rfl
      · split <;> rfl
  · unfold TCPNoCongestionControl.receivedDataAck
    rw [notified]
    exact (TCPBaseAlg.sendCommandInvoked_returns _).imp fun c' advances =>
      advances.of_same rfl rfl rfl

/-- What a duplicate acknowledgement or the timer makes the algorithm do. -/
structure Retransmits (c c' : TCPConnection) : Prop where
  same : c'.exceptSending = c.exceptSending
  sndMax : c'.sndMax = c.sndMax
  rexmitTimer : c'.rexmitTimer = c.rexmitTimer ∨ c'.rexmitTimer = true

theorem exceptSending_recalculate (c : TCPConnection) (sndCwnd : BitVec 32) :
    { TCPTahoeRenoFamily.recalculateSlowStartThreshold c with sndCwnd }.exceptSending = c.exceptSending := by
  unfold TCPConnection.exceptSending TCPConnection.exceptSegments TCPConnection.exceptOutput
  rfl

theorem restartRexmitTimer_eq (c : TCPConnection) :
    TCPTahoeRenoFamily.restartRexmitTimer c =
      .ok { c with rexmitTimer := true, rexmitCount := 0, rtseqSendtime := 0 } := rfl

theorem receivedDuplicateAck_returns (c : TCPConnection) :
    OnReturn (fun c' => Retransmits c c') (receivedDuplicateAck c) := by
  have unsent : Retransmits c c := ⟨rfl, rfl, Or.inl rfl⟩
  unfold receivedDuplicateAck
  split
  · unfold TCPTahoe.receivedDuplicateAck
    refine Ensures.ite (fun _ => ?_) fun _ => unsent
    refine Ensures.bind c.retransmitOneSegment_returns fun c₁ same => ?_
    rw [restartRexmitTimer_eq]
    have rest := TCPConnection.exceptSending_of_exceptSegments same
    have sndMax : c₁.sndMax = c.sndMax := (congrArg TCPConnection.sndMax same :)
    exact ⟨(exceptSending_recalculate c₁ 0).trans rest, sndMax, Or.inr rfl⟩
  · unfold TCPReno.receivedDuplicateAck
    refine Ensures.ite (fun _ => ?_) fun _ => ?_
    · refine Ensures.bind c.retransmitOneSegment_returns fun c₁ same => ?_
      rw [restartRexmitTimer_eq]
      have rest := TCPConnection.exceptSending_of_exceptSegments same
      have sndMax : c₁.sndMax = c.sndMax := (congrArg TCPConnection.sndMax same :)
      exact ⟨(exceptSending_recalculate c₁ 0).trans rest, sndMax, Or.inr rfl⟩
    · rw [Ensures.ok_iff]
      split
      · exact ⟨rfl, rfl, Or.inl rfl⟩
      · exact unsent
  · exact unsent

/-- The connection is given up, or the timer runs again. -/
structure Expires (c : TCPConnection) (r : TCPEventCode × TCPConnection) : Prop where
  same : r.2.exceptSending = c.exceptSending
  sndMax : r.2.sndMax = c.sndMax
  event : r.1 = .abort ∨ r.1 = .ignore ∧ r.2.rexmitTimer = true

theorem processRexmitTimer_base (c : TCPConnection) : OnReturn (Expires c) (TCPBaseAlg.processRexmitTimer c) := by
  unfold TCPBaseAlg.processRexmitTimer TCPConnection.scheduleTimeout
  refine Ensures.ite (fun _ => ⟨rfl, rfl, Or.inl rfl⟩) fun _ => ?_
  split
  · exact True.intro
  · exact ⟨rfl, rfl, Or.inr ⟨rfl, rfl⟩⟩

/-- What the subclasses do after the base class, if the connection is not given up. -/
theorem Expires.retransmit {c c₁ : TCPConnection} {r : TCPEventCode × TCPConnection}
    {retransmitted : TCPExec TCPConnection} (expires : Expires c r)
    (same : c₁.exceptSending = r.2.exceptSending) (sndMax : c₁.sndMax = r.2.sndMax)
    (rexmitTimer : c₁.rexmitTimer = r.2.rexmitTimer)
    (segments : OnReturn (fun c' => c'.exceptSegments = c₁.exceptSegments) retransmitted) :
    OnReturn (Expires c) (retransmitted >>= fun c' => pure (r.1, c')) := by
  refine Ensures.bind segments fun c' sent => ?_
  have max : c'.sndMax = c₁.sndMax := (congrArg TCPConnection.sndMax sent :)
  have timer : c'.rexmitTimer = c₁.rexmitTimer := (congrArg TCPConnection.rexmitTimer sent :)
  refine ⟨?_, ?_, expires.event.imp_right fun again => ⟨again.1, ?_⟩⟩
  · exact (TCPConnection.exceptSending_of_exceptSegments sent).trans (same.trans expires.same)
  · exact max.trans (sndMax.trans expires.sndMax)
  · exact timer.trans (rexmitTimer.trans again.2)

theorem processRexmitTimer_returns (c : TCPConnection) : OnReturn (Expires c) (processRexmitTimer c) := by
  unfold processRexmitTimer
  split
  · refine Ensures.bind (processRexmitTimer_base c) fun r expires => ?_
    refine Ensures.ite (fun _ => expires) fun _ => ?_
    refine expires.retransmit ?_ ?_ ?_ (TCPConnection.retransmitOneSegment_returns _)
    · exact exceptSending_recalculate r.2 _
    · rfl
    · rfl
  · refine Ensures.bind (processRexmitTimer_base c) fun r expires => ?_
    refine Ensures.ite (fun _ => expires) fun _ => ?_
    refine expires.retransmit ?_ ?_ ?_ (TCPConnection.retransmitData_returns _)
    · exact exceptSending_recalculate r.2 _
    · rfl
    · rfl
  · refine Ensures.bind (processRexmitTimer_base c) fun r expires => ?_
    refine Ensures.ite (fun _ => expires) fun _ => ?_
    refine expires.retransmit ?_ ?_ ?_ (TCPConnection.retransmitOneSegment_returns _) <;> rfl

end TCPAlgorithm

def SendFault : TCPFault → Prop
  | .sendQueue _ | .nothingToRetransmit | .outOfFuel => True
  | _ => False

/-- Nothing is told to the application. -/
abbrev Silent (c : TCPConnection) (sent : TCPExec TCPConnection) : Prop :=
  Ensures SendFault (fun c' => c'.toAppl = c.toAppl) sent

namespace TCPConnection

variable {c : TCPConnection}

theorem sendSegment_silent (c : TCPConnection) (bytes : Nat) : Silent c (c.sendSegment bytes) := by
  unfold sendSegment TCPVirtualDataSendQueue.createSegmentWithBytes
  refine Ensures.bind Ensures.trivial.mapError ?_
  intro tcpseg _
  rw [Ensures.pure_iff]
  split <;> rfl

theorem sendWholeSegments_silent (c : TCPConnection) (bytesToSend fuel : Nat) :
    Silent c (c.sendWholeSegments bytesToSend fuel) := by
  induction fuel generalizing c bytesToSend with
  | zero =>
      unfold sendWholeSegments
      exact Ensures.ite (fun _ => rfl) fun _ => True.intro
  | succ fuel ih =>
      unfold sendWholeSegments
      refine Ensures.ite (fun _ => rfl) fun _ => ?_
      refine Ensures.bind (c.sendSegment_silent _) fun c₁ first => ?_
      exact (ih c₁ _).imp fun _ rest => rest.trans first

theorem sendBytes_silent (c : TCPConnection) (bytesToSend : Nat) : Silent c (c.sendBytes bytesToSend) := by
  unfold sendBytes
  exact Ensures.ite (fun _ => c.sendSegment_silent _) fun _ => c.sendWholeSegments_silent _ _

theorem sendData_silent (c : TCPConnection) (fullSegmentsOnly : Prop) [Decidable fullSegmentsOnly]
    (congestionWindow : Int) : Ensures SendFault (fun r => r.2.toAppl = c.toAppl)
      (c.sendData fullSegmentsOnly congestionWindow) := by
  unfold sendData
  refine Ensures.ite (fun _ => rfl) fun _ => ?_
  refine Ensures.ite (fun _ => rfl) fun _ => ?_
  refine Ensures.ite (fun _ => rfl) fun _ => ?_
  refine Ensures.bind (sendBytes_silent _ _) fun c₁ sent => ?_
  obtain ⟨rexmitCount, rtseq, rtseqSendtime, notified⟩ :=
    TCPBaseAlg.dataSent_eq (TCPBaseAlg.ackSent { c₁ with sndMax := c₁.sndNxt }) c.sndMax
  rw [notified]
  exact sent

theorem retransmitOneSegment_silent (c : TCPConnection) : Silent c c.retransmitOneSegment := by
  unfold retransmitOneSegment
  refine Ensures.ite (fun _ => True.intro) fun _ => ?_
  exact Ensures.bind (sendSegment_silent _ _) fun _ sent => sent

theorem retransmitSegments_silent (c : TCPConnection) (bytesToSend fuel : Nat) :
    Silent c (c.retransmitSegments bytesToSend fuel) := by
  induction fuel generalizing c bytesToSend with
  | zero =>
      unfold retransmitSegments
      exact Ensures.ite (fun _ => rfl) fun _ => True.intro
  | succ fuel ih =>
      unfold retransmitSegments
      refine Ensures.ite (fun _ => rfl) fun _ => ?_
      refine Ensures.bind (c.sendSegment_silent _) fun c₁ first => ?_
      exact (ih c₁ _).imp fun _ rest => rest.trans first

theorem retransmitData_silent (c : TCPConnection) : Silent c c.retransmitData := by
  unfold retransmitData
  refine Ensures.ite (fun _ => True.intro) fun _ => ?_
  exact retransmitSegments_silent _ _ _

end TCPConnection

namespace TCPBaseAlg

theorem sendCommandInvoked_silent (c : TCPConnection) : Silent c (sendCommandInvoked c) :=
  Ensures.bind (c.sendData_silent _ _) fun _ sent => sent

theorem established_silent (c : TCPConnection) (active : Bool) : Silent c (established c active) := by
  unfold established
  refine Ensures.ite (fun _ => ?_) fun _ => rfl
  refine Ensures.bind (TCPConnection.sendData_silent _ _ _) ?_
  rintro ⟨sent, c'⟩ silent
  rw [Ensures.pure_iff]
  split <;> exact silent

end TCPBaseAlg

namespace TCPAlgorithm

open TCPTahoeRenoFamily (increaseCwnd)

theorem toAppl_increaseCwnd (c : TCPConnection) : (increaseCwnd c).toAppl = c.toAppl := by
  unfold increaseCwnd
  split <;> rfl

theorem receivedDataAck_silent (c : TCPConnection) : Silent c (receivedDataAck c) := by
  obtain ⟨rexmitCount, rtseqSendtime, notified⟩ := TCPBaseAlg.receivedDataAck_eq c
  unfold receivedDataAck
  split
  · unfold TCPTahoe.receivedDataAck
    rw [notified]
    exact (TCPBaseAlg.sendCommandInvoked_silent _).imp fun _ sent =>
      sent.trans (toAppl_increaseCwnd _)
  · unfold TCPReno.receivedDataAck
    rw [notified]
    refine (TCPBaseAlg.sendCommandInvoked_silent _).imp fun _ sent => sent.trans ?_
    split
    · rfl
    · exact toAppl_increaseCwnd _
  · unfold TCPNoCongestionControl.receivedDataAck
    rw [notified]
    exact (TCPBaseAlg.sendCommandInvoked_silent _).imp fun _ sent => sent

theorem receivedDuplicateAck_silent (c : TCPConnection) : Silent c (receivedDuplicateAck c) := by
  unfold receivedDuplicateAck
  split
  · unfold TCPTahoe.receivedDuplicateAck
    refine Ensures.ite (fun _ => ?_) fun _ => rfl
    refine Ensures.bind c.retransmitOneSegment_silent fun c₁ sent => ?_
    rw [restartRexmitTimer_eq]
    exact sent
  · unfold TCPReno.receivedDuplicateAck
    refine Ensures.ite (fun _ => ?_) fun _ => ?_
    · refine Ensures.bind c.retransmitOneSegment_silent fun c₁ sent => ?_
      rw [restartRexmitTimer_eq]
      exact sent
    · rw [Ensures.ok_iff]
      split <;> rfl
  · exact rfl

/-- If the connection is given up, the application is told. -/
theorem processRexmitTimer_tells {c : TCPConnection} (expired : c.rexmitTimer = false) : Ensures SendFault
      (fun r => r.1 = .abort ∧ r.2.toAppl = c.toAppl ++ [.timedOut] ∨ r.1 = .ignore ∧ r.2.toAppl = c.toAppl)
      (processRexmitTimer c) := by
  have base : Ensures SendFault
      (fun r => r.1 = .abort ∧ r.2.toAppl = c.toAppl ++ [.timedOut] ∨
        r.1 = .ignore ∧ r.2.toAppl = c.toAppl)
      (TCPBaseAlg.processRexmitTimer c) := by
    unfold TCPBaseAlg.processRexmitTimer TCPConnection.scheduleTimeout
    refine Ensures.ite (fun _ => Or.inl ⟨rfl, rfl⟩) fun _ => ?_
    rw [if_neg (Bool.eq_false_iff.mp expired)]
    exact Or.inr ⟨rfl, rfl⟩
  have again {r : TCPEventCode × TCPConnection} {c₁ : TCPConnection}
      {retransmitted : TCPExec TCPConnection}
      (told : r.1 = .abort ∧ r.2.toAppl = c.toAppl ++ [.timedOut] ∨
        r.1 = .ignore ∧ r.2.toAppl = c.toAppl)
      (same : c₁.toAppl = r.2.toAppl) (silent : Silent c₁ retransmitted) :
      Ensures SendFault
        (fun r => r.1 = .abort ∧ r.2.toAppl = c.toAppl ++ [.timedOut] ∨
          r.1 = .ignore ∧ r.2.toAppl = c.toAppl)
        (retransmitted >>= fun c' => pure (r.1, c')) := by
    refine Ensures.bind silent fun c' sent => ?_
    rw [Ensures.pure_iff]
    dsimp only
    rw [sent, same]
    exact told
  unfold processRexmitTimer
  split
  · refine Ensures.bind base fun r told => ?_
    refine Ensures.ite (fun _ => told) fun _ => ?_
    refine again told ?_ (TCPConnection.retransmitOneSegment_silent _)
    rfl
  · refine Ensures.bind base fun r told => ?_
    refine Ensures.ite (fun _ => told) fun _ => ?_
    refine again told ?_ (TCPConnection.retransmitData_silent _)
    rfl
  · refine Ensures.bind base fun r told => ?_
    refine Ensures.ite (fun _ => told) fun _ => ?_
    exact again told rfl (TCPConnection.retransmitOneSegment_silent _)

end TCPAlgorithm

end IPv6Suite
