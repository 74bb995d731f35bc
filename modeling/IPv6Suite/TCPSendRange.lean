import IPv6Suite.TCPHandshake

namespace IPv6Suite

open Lib

namespace TCPConnection

variable {c c' : TCPConnection}

def queued (c : TCPConnection) : Nat := (c.sendQueue.endSeq - c.sendQueue.beginSeq).toNat

/-- The send queue is in the reach of the modular comparisons, and the FIN comes behind it. -/
structure Bounded (c : TCPConnection) : Prop where
  near : c.queued < 2 ^ 31
  finSeq : c.sendFin = true → c.sndFinSeq = c.sendQueue.endSeq

theorem Bounded.of_exceptSegments (bounded : c.Bounded)
    (same : c'.exceptSegments = c.exceptSegments) : c'.Bounded where
  near := by
    have queue : c'.queued = c.queued := (congrArg queued same :)
    rw [queue]
    exact bounded.near
  finSeq := by
    have fin : c'.sendFin = c.sendFin := (congrArg sendFin same :)
    have finSeq : c'.sndFinSeq = c.sndFinSeq := (congrArg sndFinSeq same :)
    have queue : c'.sendQueue = c.sendQueue := (congrArg sendQueue same :)
    rw [fin, finSeq, queue]
    exact bounded.finSeq

/-- The next `n` bytes from `snd_nxt` are in the queue. -/
def Sendable (c : TCPConnection) (n : Nat) : Prop :=
  (c.sndNxt - c.sendQueue.beginSeq).toNat + n ≤ c.queued

/-- Everything in the queue is sent, and the FIN. -/
def Finished (c : TCPConnection) : Prop :=
  c.sendFin = true ∧ c.sndNxt = c.sendQueue.endSeq + 1

theorem sendSegment_sends {bytes : Nat} (near : c.queued < 2 ^ 31) (sendable : c.Sendable bytes) :
    Ensures InRange (fun _ => True) (c.sendSegment bytes) := by
  unfold sendSegment TCPVirtualDataSendQueue.createSegmentWithBytes
  unfold Sendable queued at *
  have inside : seqLE c.sendQueue.beginSeq c.sndNxt ∧
      seqLE (c.sndNxt + BitVec.ofNat 32 bytes) c.sendQueue.endSeq := by
    unfold seqLE
    constructor <;> bv_omega
  rw [assert_pos inside]
  exact True.intro

theorem sendSegment_inRange {n bytes : Nat} (bounded : c.Bounded) (sendable : c.Sendable n)
    (le : bytes ≤ n) : Ensures InRange (fun c' => c'.exceptSegments = c.exceptSegments ∧
      (c'.Sendable (n - bytes) ∨ c'.Finished ∧ n = bytes)) (c.sendSegment bytes) := by
  have near := bounded.near
  have sends : c.Sendable bytes := by
    unfold Sendable at *
    omega
  refine ((sendSegment_sends near sends).and (sendSegment_returns c bytes)).imp ?_
  rintro c' ⟨-, same, nxt⟩
  have queue : c'.sendQueue = c.sendQueue := (congrArg sendQueue same :)
  have sendFin' : c'.sendFin = c.sendFin := (congrArg sendFin same :)
  refine ⟨same, ?_⟩
  unfold nxtAfter at nxt
  dsimp only at nxt
  unfold Sendable Finished queued at *
  rw [queue, nxt, sendFin']
  split
  · rename_i fin
    have finSeq := bounded.finSeq fin.1
    rw [finSeq] at fin
    rw [fin.2]
    refine Or.inr ⟨⟨fin.1, rfl⟩, ?_⟩
    have last := fin.2
    bv_omega
  · left
    bv_omega

theorem sendWholeSegments_zero (mss : 0 < c.sndMss.toNat) (fuel : Nat) : c.sendWholeSegments 0 fuel = .ok c := by
  cases fuel <;> exact if_pos mss

theorem sendWholeSegments_inRange {bytesToSend fuel : Nat} (bounded : c.Bounded)
    (mss : 0 < c.sndMss.toNat) (enough : bytesToSend ≤ fuel) (sendable : c.Sendable bytesToSend) :
    Ensures InRange (fun c' => c'.exceptSegments = c.exceptSegments ∧ (c'.Sendable 0 ∨ c'.Finished))
      (c.sendWholeSegments bytesToSend fuel) := by
  have stops : c.Sendable 0 := Nat.le_trans (Nat.add_le_add_left (Nat.zero_le _) _) sendable
  induction fuel generalizing c bytesToSend with
  | zero =>
      obtain rfl : bytesToSend = 0 := Nat.le_zero.mp enough
      rw [sendWholeSegments_zero mss]
      exact ⟨rfl, Or.inl stops⟩
  | succ fuel ih =>
      unfold sendWholeSegments
      refine Ensures.ite (fun _ => ⟨rfl, Or.inl stops⟩) fun more => ?_
      refine Ensures.bind (sendSegment_inRange bounded sendable (Nat.le_of_not_lt more)) ?_
      rintro c₁ ⟨same, rest⟩
      have mss₁ : c₁.sndMss = c.sndMss := (congrArg sndMss same :)
      rw [mss₁]
      rcases rest with sendable₁ | ⟨finished, last⟩
      · have stops₁ : c₁.Sendable 0 :=
          Nat.le_trans (Nat.add_le_add_left (Nat.zero_le _) _) sendable₁
        refine (ih (bounded.of_exceptSegments same) (mss₁ ▸ mss) (by omega) sendable₁ stops₁).imp ?_
        rintro c₂ ⟨further, sent⟩
        exact ⟨further.trans same, sent⟩
      · rw [last, Nat.sub_self, sendWholeSegments_zero (mss₁ ▸ mss)]
        exact ⟨same, Or.inr finished⟩

theorem sendBytes_inRange {bytesToSend : Nat} (bounded : c.Bounded) (mss : 0 < c.sndMss.toNat)
    (sendable : c.Sendable bytesToSend) :
    Ensures InRange (fun c' => c'.exceptSegments = c.exceptSegments ∧ (c'.Sendable 0 ∨ c'.Finished))
      (c.sendBytes bytesToSend) := by
  unfold sendBytes
  refine Ensures.ite (fun _ => ?_) fun _ => ?_
  · refine (sendSegment_inRange bounded sendable (Nat.le_refl _)).imp ?_
    rintro c' ⟨same, rest⟩
    rw [Nat.sub_self] at rest
    exact ⟨same, rest.imp_right And.left⟩
  · exact sendWholeSegments_inRange bounded mss (Nat.le_refl _) sendable

theorem retransmitSegments_zero (fuel : Nat) : c.retransmitSegments 0 fuel = .ok c := by
  cases fuel <;> exact if_pos rfl

theorem retransmitSegments_inRange {bytesToSend fuel : Nat} (bounded : c.Bounded)
    (mss : 0 < c.sndMss.toNat) (enough : bytesToSend ≤ fuel) (sendable : c.Sendable bytesToSend) :
    Ensures InRange (fun c' => c'.exceptSegments = c.exceptSegments) (c.retransmitSegments bytesToSend fuel) := by
  induction fuel generalizing c bytesToSend with
  | zero =>
      obtain rfl : bytesToSend = 0 := Nat.le_zero.mp enough
      rw [retransmitSegments_zero]
      exact rfl
  | succ fuel ih =>
      unfold retransmitSegments
      refine Ensures.ite (fun _ => rfl) fun more => ?_
      refine Ensures.bind (sendSegment_inRange bounded sendable (Nat.min_le_left _ _)) ?_
      rintro c₁ ⟨same, rest⟩
      have mss₁ : c₁.sndMss = c.sndMss := (congrArg sndMss same :)
      rcases rest with sendable₁ | ⟨-, last⟩
      · refine (ih (bounded.of_exceptSegments same) (mss₁ ▸ mss) (by omega) sendable₁).imp ?_
        exact fun c₂ further => further.trans same
      · rw [← last, Nat.sub_self, retransmitSegments_zero]
        exact same

/-- What is sent is in the queue, or is the FIN behind it. -/
structure Buffered (c : TCPConnection) : Prop extends Bounded c where
  sndMax : (c.sndMax - c.sendQueue.beginSeq).toNat ≤ c.queued ∨
    c.sendFin = true ∧ c.sndMax = c.sendQueue.endSeq + 1

/-- What is not acknowledged begins with the queue; a FIN that is acknowledged leaves it empty. -/
structure Aligned (c : TCPConnection) : Prop extends Buffered c where
  sndUna : c.sndUna = c.sendQueue.beginSeq ∨
    c.sndUna = c.sendQueue.beginSeq + 1 ∧ c.queued = 0 ∧ c.sndMax = c.sndUna

/-- While the timer runs there is something to send again. -/
structure InQueue (c : TCPConnection) : Prop extends Aligned c where
  timer : c.rexmitTimer = true → c.sndUna ≠ c.sndMax

/-- What these invariants are about -/
def sendVars (c : TCPConnection) :
    TCPVirtualDataSendQueue × BitVec 32 × BitVec 32 × Bool × BitVec 32 :=
  (c.sendQueue, c.sndUna, c.sndMax, c.sendFin, c.sndFinSeq)

theorem Aligned.of_same (aligned : c.Aligned) (same : c'.sendVars = c.sendVars) : c'.Aligned := by
  unfold sendVars at same
  simp only [Prod.mk.injEq] at same
  obtain ⟨queue, una, max, fin, finSeq⟩ := same
  have queued : c'.queued = c.queued := by
    unfold TCPConnection.queued
    rw [queue]
  refine ⟨⟨⟨queued ▸ aligned.near, ?_⟩, ?_⟩, ?_⟩
  · rw [fin, finSeq, queue]
    exact aligned.finSeq
  · rw [max, fin, queue, queued]
    exact aligned.sndMax
  · rw [una, max, queue, queued]
    exact aligned.sndUna

theorem InQueue.of_same (inQueue : c.InQueue) (same : c'.sendVars = c.sendVars)
    (timer : c'.rexmitTimer = true → c.rexmitTimer = true) : c'.InQueue where
  toAligned := inQueue.toAligned.of_same same
  timer := fun running => by
    have una : c'.sndUna = c.sndUna := congrArg (·.2.1) same
    have max : c'.sndMax = c.sndMax := congrArg (·.2.2.1) same
    rw [una, max]
    exact inQueue.timer (timer running)

theorem sendVars_of_exceptSegments (same : c'.exceptSegments = c.exceptSegments) :
    c'.sendVars = c.sendVars := (congrArg sendVars same :)

theorem sendable_of_bytesAvailable {bytesToSend : Nat} (buffered : c.Buffered)
    (some : c.sendQueue.bytesAvailable c.sndMax ≠ 0) (le : bytesToSend ≤ c.sendQueue.bytesAvailable c.sndMax) :
    { c with sndNxt := c.sndMax }.Sendable bytesToSend := by
  unfold TCPVirtualDataSendQueue.bytesAvailable TCPVirtualDataSendQueue.bufferEndSeq at *
  have near := buffered.near
  have sent := buffered.sndMax
  split at some
  · rename_i less
    rw [if_pos less] at le
    change (c.sndMax - c.sendQueue.beginSeq).toNat + bytesToSend ≤ c.queued
    unfold queued at *
    unfold seqLess at less
    rcases sent with within | ⟨-, fin⟩
    · bv_omega
    · bv_omega
  · exact absurd rfl some

theorem InQueue.advance {bytesToSend n : Nat} (inQueue : c.InQueue) (some : 0 < bytesToSend)
    (sendable : { c with sndNxt := c.sndMax }.Sendable bytesToSend)
    (moves : { c with sndNxt := c.sndMax }.Moves c' n) (more : 0 < n) (most : n ≤ bytesToSend + 1)
    (sent : c'.Sendable 0 ∨ c'.Finished) :
    { c' with sndMax := c'.sndNxt, rexmitTimer := true }.InQueue := by
  have bounded : c'.Bounded := inQueue.toBounded.of_exceptSegments moves.same
  have queue : c'.sendQueue = c.sendQueue := (congrArg sendQueue moves.same :)
  have una : c'.sndUna = c.sndUna := (congrArg sndUna moves.same :)
  have nxt : c'.sndNxt = c.sndMax + BitVec.ofNat 32 n := moves.sndNxt
  have near := inQueue.near
  change (c.sndMax - c.sendQueue.beginSeq).toNat + bytesToSend ≤ c.queued at sendable
  have first : c.sndUna = c.sendQueue.beginSeq :=
    inQueue.sndUna.resolve_right fun acked => by
      have empty := acked.2.1
      omega
  refine ⟨⟨⟨⟨bounded.near, bounded.finSeq⟩, sent⟩, Or.inl ?_⟩, fun _ => ?_⟩
  · change c'.sndUna = c'.sendQueue.beginSeq
    rw [una, queue, first]
  · change c'.sndUna ≠ c'.sndNxt
    rw [una, first, nxt]
    bv_omega

theorem sendData_inRange (inQueue : c.InQueue) (mss : 0 < c.sndMss.toNat)
    (fullSegmentsOnly : Prop) [Decidable fullSegmentsOnly] (congestionWindow : Int) :
    Ensures InRange (fun r => r.2.InQueue) (c.sendData fullSegmentsOnly congestionWindow) := by
  have unsent : { c with sndNxt := c.sndMax }.InQueue := inQueue.of_same rfl id
  have bounded : { c with sndNxt := c.sndMax }.Bounded := unsent.toBounded
  have near := inQueue.near
  unfold sendData
  dsimp only
  refine Ensures.ite (fun _ => unsent) fun queued => ?_
  refine Ensures.ite (fun _ => unsent) fun open' => ?_
  refine Ensures.ite (fun _ => unsent) fun _ => ?_
  have sendable := sendable_of_bytesAvailable inQueue.toBuffered queued (Nat.min_le_right
    ({ c with sndNxt := c.sndMax }.effectiveWin congestionWindow).toNat _)
  have some : 0 < min ({ c with sndNxt := c.sndMax }.effectiveWin congestionWindow).toNat
      (c.sendQueue.bytesAvailable c.sndMax) := by omega
  have small := bytesAvailable_lt c.sendQueue c.sndMax
  refine Ensures.bind ((sendBytes_inRange bounded mss sendable).and
    (sendBytes_returns some (by omega))) ?_
  rintro c₁ ⟨⟨-, sent⟩, n, moves, more, most⟩
  obtain ⟨rexmitCount, rtseq, rtseqSendtime, notified⟩ :=
    TCPBaseAlg.dataSent_eq (TCPBaseAlg.ackSent { c₁ with sndMax := c₁.sndNxt }) c.sndMax
  rw [notified]
  exact (inQueue.advance some sendable moves more most sent).of_same rfl id

theorem Aligned.sndUna_eq (aligned : c.Aligned) (unacked : c.sndUna ≠ c.sndMax) : c.sndUna = c.sendQueue.beginSeq :=
  aligned.sndUna.resolve_right fun acked => unacked acked.2.2.symm

theorem Aligned.sendable {n : Nat} (aligned : c.Aligned) (unacked : c.sndUna ≠ c.sndMax)
    (range : n ≤ c.queued) : { c with sndNxt := c.sndUna }.Sendable n := by
  have first := aligned.sndUna_eq unacked
  change (c.sndUna - c.sendQueue.beginSeq).toNat + n ≤ c.queued
  rw [first, BitVec.sub_self, BitVec.toNat_zero, Nat.zero_add]
  exact range

theorem retransmitOneSegment_inRange (aligned : c.Aligned) (mss : 0 < c.sndMss.toNat)
    (unacked : c.sndUna ≠ c.sndMax) (range : min c.sndMss.toNat (c.sndMax - c.sndUna).toNat ≤ c.queued) :
    Ensures InRange (fun c' => c'.exceptSegments = c.exceptSegments) c.retransmitOneSegment := by
  have bounded : { c with sndNxt := c.sndUna }.Bounded := ⟨aligned.near, aligned.finSeq⟩
  unfold retransmitOneSegment
  dsimp only
  refine Ensures.ite (fun nothing => ?_) fun _ => ?_
  · have some : (c.sndMax - c.sndUna).toNat ≠ 0 := by bv_omega
    omega
  · have sendable := aligned.sendable unacked range
    exact Ensures.bind (sendSegment_inRange bounded sendable (Nat.le_refl _)) fun c₁ sent => sent.1

theorem retransmitData_inRange (aligned : c.Aligned) (mss : 0 < c.sndMss.toNat)
    (unacked : c.sndUna ≠ c.sndMax) (range : (c.sndMax - c.sndUna).toNat ≤ c.queued) :
    Ensures InRange (fun c' => c'.exceptSegments = c.exceptSegments) c.retransmitData := by
  have bounded : { c with sndNxt := c.sndUna }.Bounded := ⟨aligned.near, aligned.finSeq⟩
  unfold retransmitData
  dsimp only
  refine Ensures.ite (fun nothing => ?_) fun _ => ?_
  · bv_omega
  · have sendable := aligned.sendable unacked range
    exact retransmitSegments_inRange bounded mss (Nat.le_refl _) sendable

def FinSent (c : TCPConnection) : Prop := c.sendFin = true ∧ c.sndMax = c.sndFinSeq + 1
deriving Decidable

theorem outstanding_le (aligned : c.Aligned) (unacked : c.sndUna ≠ c.sndMax) :
    (c.sndMax - c.sndUna).toNat ≤ c.queued ∨ c.FinSent ∧ (c.sndMax - c.sndUna).toNat = c.queued + 1 := by
  have near := aligned.near
  rw [aligned.sndUna_eq unacked]
  rcases aligned.sndMax with within | ⟨fin, max⟩
  · exact Or.inl within
  · refine Or.inr ⟨⟨fin, by rw [max, aligned.finSeq fin]⟩, ?_⟩
    unfold queued at *
    bv_omega

def FinInSegment (c : TCPConnection) : Prop :=
  c.FinSent ∧ (c.sndMax - c.sndUna).toNat ≤ c.sndMss.toNat
deriving Decidable

theorem segment_le (aligned : c.Aligned) (unacked : c.sndUna ≠ c.sndMax) (without : ¬ c.FinInSegment) :
    min c.sndMss.toNat (c.sndMax - c.sndUna).toNat ≤ c.queued := by
  rcases outstanding_le aligned unacked with within | ⟨fin, length⟩
  · omega
  · have beyond : ¬ (c.sndMax - c.sndUna).toNat ≤ c.sndMss.toNat := fun le => without ⟨fin, le⟩
    omega

end TCPConnection

open TCPConnection (InQueue Aligned FinSent FinInSegment InRange)

namespace TCPBaseAlg

variable {c c' : TCPConnection}

theorem sendCommandInvoked_inRange (inQueue : c.InQueue) (mss : 0 < c.sndMss.toNat) :
    Ensures InRange InQueue (sendCommandInvoked c) :=
  Ensures.bind (TCPConnection.sendData_inRange inQueue mss _ _) fun _ sent => sent

theorem established_inRange (inQueue : c.InQueue) (mss : 0 < c.sndMss.toNat) (active : Bool) :
    Ensures InRange InQueue (established c active) := by
  have started : { c with sndCwnd := c.sndMss }.InQueue := inQueue.of_same rfl id
  unfold established
  refine Ensures.ite (fun _ => ?_) fun _ => started
  refine Ensures.bind (TCPConnection.sendData_inRange started mss _ _) ?_
  rintro ⟨sent, c'⟩ inQueue'
  change InQueue (if sent then c' else c'.sendAck)
  split
  · exact inQueue'
  · exact inQueue'.of_same rfl id

end TCPBaseAlg

namespace TCPAlgorithm

variable {c c' : TCPConnection}

theorem receivedDataAck_inRange (aligned : c.Aligned) (mss : 0 < c.sndMss.toNat) :
    Ensures InRange InQueue (receivedDataAck c) := by
  obtain ⟨rexmitCount, rtseqSendtime, notified⟩ := TCPBaseAlg.receivedDataAck_eq c
  have timed : { c with rexmitTimer := decide (c.sndUna ≠ c.sndMax) }.InQueue :=
    ⟨aligned.of_same rfl, of_decide_eq_true⟩
  have sends {c₁ : TCPConnection} (same : c₁.sendVars = c.sendVars)
      (timer : c₁.rexmitTimer = decide (c.sndUna ≠ c.sndMax)) (mss₁ : c₁.sndMss = c.sndMss) :
      Ensures InRange InQueue (TCPBaseAlg.sendCommandInvoked c₁) :=
    TCPBaseAlg.sendCommandInvoked_inRange (timed.of_same same fun running => timer.symm.trans running)
      (mss₁ ▸ mss)
  unfold receivedDataAck
  split
  · unfold TCPTahoe.receivedDataAck
    rw [notified]
    refine sends ?_ ?_ ?_
    all_goals
      unfold TCPTahoeRenoFamily.increaseCwnd
      split <;> rfl
  · unfold TCPReno.receivedDataAck
    rw [notified]
    refine sends ?_ ?_ ?_
    all_goals
      unfold TCPTahoeRenoFamily.increaseCwnd
      split
      · rfl
      · split <;> rfl
  · unfold TCPNoCongestionControl.receivedDataAck
    rw [notified]
    exact sends rfl rfl rfl

/-- The third duplicate acknowledgement makes the algorithm send again. -/
def retransmitsFirst (c : TCPConnection) : Prop :=
  c.tcpAlgorithm ≠ .noCongestionControl ∧ c.dupacks = 3

theorem receivedDuplicateAck_inRange (inQueue : c.InQueue) (mss : 0 < c.sndMss.toNat)
    (unacked : c.sndUna ≠ c.sndMax) (without : retransmitsFirst c → ¬ c.FinInSegment) :
    Ensures InRange InQueue (receivedDuplicateAck c) := by
  have restarts (retransmits : retransmitsFirst c) (sndCwnd : TCPConnection → BitVec 32) :
      Ensures InRange InQueue (c.retransmitOneSegment >>= fun c₁ =>
        TCPTahoeRenoFamily.restartRexmitTimer
          { TCPTahoeRenoFamily.recalculateSlowStartThreshold c₁ with sndCwnd := sndCwnd c₁ }) := by
    refine Ensures.bind (TCPConnection.retransmitOneSegment_inRange inQueue.toAligned mss unacked
      (TCPConnection.segment_le inQueue.toAligned unacked (without retransmits))) ?_
    intro c₁ same
    have vars := TCPConnection.sendVars_of_exceptSegments same
    have una : c₁.sndUna = c.sndUna := congrArg (·.2.1) vars
    have max : c₁.sndMax = c.sndMax := congrArg (·.2.2.1) vars
    have unacked₁ : c₁.sndUna ≠ c₁.sndMax := by
      rw [una, max]
      exact unacked
    rw [restartRexmitTimer_eq]
    exact ⟨inQueue.toAligned.of_same vars, fun _ => unacked₁⟩
  unfold receivedDuplicateAck
  split
  · rename_i tahoe
    refine Ensures.ite (fun third => ?_) fun _ => inQueue
    exact restarts ⟨by rw [tahoe]; decide, third⟩ fun c₁ => c₁.sndMss
  · rename_i reno
    refine Ensures.ite (fun third => ?_) fun _ => ?_
    · exact restarts ⟨by rw [reno]; decide, third⟩ fun c₁ => 3 * c₁.sndMss
    · rw [Ensures.ok_iff]
      split
      · exact inQueue.of_same rfl id
      · exact inQueue
  · exact inQueue

/-- What the timer would make the algorithm send again takes in the FIN. -/
def FinAgain (c : TCPConnection) : Prop :=
  c.FinSent ∧ (c.tcpAlgorithm = .reno ∨ (c.sndMax - c.sndUna).toNat ≤ c.sndMss.toNat)
deriving Decidable

theorem processRexmitTimer_base_inRange (c : TCPConnection) : Ensures InRange
    (fun r => r.2.sendVars = c.sendVars ∧ r.2.sndMss = c.sndMss ∧
      (r.1 ≠ .abort → c.rexmitCount < TCPBaseAlg.maxRexmitCount)) (TCPBaseAlg.processRexmitTimer c) := by
  unfold TCPBaseAlg.processRexmitTimer
  refine Ensures.ite (fun _ => ⟨rfl, rfl, fun other => absurd rfl other⟩) fun again => ?_
  refine Ensures.bind TCPConnection.scheduleTimeout_inRange fun timer _ => ⟨rfl, rfl, fun _ => ?_⟩
  exact Nat.lt_of_succ_le (Nat.le_of_not_lt again)

/-- What is outstanding is sent again unless the connection is given up. -/
theorem processRexmitTimer_inRange (aligned : c.Aligned) (mss : 0 < c.sndMss.toNat) (unacked : c.sndUna ≠ c.sndMax)
    (without : c.rexmitCount < TCPBaseAlg.maxRexmitCount → ¬ FinAgain c) :
    Ensures InRange (fun r => r.2.InQueue) (processRexmitTimer c) := by
  have same₁ {c₁ : TCPConnection} (same : c₁.sendVars = c.sendVars) : c₁.Aligned ∧
      c₁.sndUna ≠ c₁.sndMax ∧ c₁.sndMax - c₁.sndUna = c.sndMax - c.sndUna ∧ c₁.queued = c.queued := by
    have una : c₁.sndUna = c.sndUna := congrArg (·.2.1) same
    have max : c₁.sndMax = c.sndMax := congrArg (·.2.2.1) same
    have queue : c₁.queued = c.queued := congrArg (fun vars => (vars.1.endSeq - vars.1.beginSeq).toNat) same
    refine ⟨aligned.of_same same, ?_, ?_, queue⟩
    all_goals rw [una, max]
    exact unacked
  have kept {c₁ : TCPConnection} (same : c₁.sendVars = c.sendVars) : c₁.InQueue :=
    ⟨(same₁ same).1, fun _ => (same₁ same).2.1⟩
  have again {c₁ : TCPConnection} (same : c₁.sendVars = c.sendVars) {event : TCPEventCode}
      {retransmitted : TCPExec TCPConnection}
      (sends : Ensures InRange (fun c' => c'.exceptSegments = c₁.exceptSegments) retransmitted) :
      Ensures InRange (fun r : TCPEventCode × TCPConnection => r.2.InQueue)
        (retransmitted >>= fun c' => pure (event, c')) :=
    Ensures.bind sends fun c' sent => kept ((TCPConnection.sendVars_of_exceptSegments sent).trans same)
  have oneSegment {c₁ : TCPConnection} (same : c₁.sendVars = c.sendVars) (mss₁ : c₁.sndMss = c.sndMss)
      (beyond : ¬ c.FinInSegment) :
      Ensures InRange (fun c' => c'.exceptSegments = c₁.exceptSegments) c₁.retransmitOneSegment := by
    obtain ⟨aligned₁, unacked₁, outstanding, queue⟩ := same₁ same
    refine TCPConnection.retransmitOneSegment_inRange aligned₁ (mss₁ ▸ mss) unacked₁ ?_
    rw [mss₁, outstanding, queue]
    exact TCPConnection.segment_le aligned unacked beyond
  have allData {c₁ : TCPConnection} (same : c₁.sendVars = c.sendVars) (mss₁ : c₁.sndMss = c.sndMss)
      (unsent : ¬ c.FinSent) :
      Ensures InRange (fun c' => c'.exceptSegments = c₁.exceptSegments) c₁.retransmitData := by
    obtain ⟨aligned₁, unacked₁, outstanding, queue⟩ := same₁ same
    refine TCPConnection.retransmitData_inRange aligned₁ (mss₁ ▸ mss) unacked₁ ?_
    rw [outstanding, queue]
    exact (TCPConnection.outstanding_le aligned unacked).resolve_right fun fin => unsent fin.1
  have beyond (few : c.rexmitCount < TCPBaseAlg.maxRexmitCount) : ¬ c.FinInSegment :=
    fun fin => without few ⟨fin.1, Or.inr fin.2⟩
  unfold processRexmitTimer
  split
  · refine Ensures.bind (processRexmitTimer_base_inRange c) fun r ⟨same, mss₁, more⟩ => ?_
    refine Ensures.ite (fun _ => kept same) fun other => ?_
    refine again ?_ (oneSegment ?_ ?_ (beyond (more other)))
    iterate 2 exact same
    exact mss₁
  · rename_i reno
    have unsent (few : c.rexmitCount < TCPBaseAlg.maxRexmitCount) : ¬ c.FinSent :=
      fun fin => without few ⟨fin, Or.inl reno⟩
    refine Ensures.bind (processRexmitTimer_base_inRange c) fun r ⟨same, mss₁, more⟩ => ?_
    refine Ensures.ite (fun _ => kept same) fun other => ?_
    refine again ?_ (allData ?_ ?_ (unsent (more other)))
    iterate 2 exact same
    exact mss₁
  · refine Ensures.bind (processRexmitTimer_base_inRange c) fun r ⟨same, mss₁, more⟩ => ?_
    refine Ensures.ite (fun _ => kept same) fun other => ?_
    exact again same (oneSegment same mss₁ (beyond (more other)))

end TCPAlgorithm

namespace TCPConnection

variable {c c' : TCPConnection}

def AcksSent (c : TCPConnection) (ackNo : BitVec 32) : Prop :=
  (ackNo - c.sendQueue.beginSeq).toNat ≤ (c.sndMax - c.sendQueue.beginSeq).toNat

theorem discardUpTo_eq {q : TCPVirtualDataSendQueue} {seqNum : BitVec 32}
    (inside : seqLE q.beginSeq seqNum ∧ seqLE seqNum q.endSeq) :
    q.discardUpTo seqNum = .ok { q with beginSeq := seqNum } := by
  unfold TCPVirtualDataSendQueue.discardUpTo
  rw [assert_pos inside]
  rfl

theorem Aligned.of_vars {sendQueue : TCPVirtualDataSendQueue} {una max finSeq : BitVec 32}
    {fin : Bool} (vars : c'.sendVars = (sendQueue, una, max, fin, finSeq))
    (near : (sendQueue.endSeq - sendQueue.beginSeq).toNat < 2 ^ 31)
    (sent : (max - sendQueue.beginSeq).toNat ≤ (sendQueue.endSeq - sendQueue.beginSeq).toNat ∨
      fin = true ∧ max = sendQueue.endSeq + 1) (finSeq : fin = true → finSeq = sendQueue.endSeq)
    (first : una = sendQueue.beginSeq ∨
      una = sendQueue.beginSeq + 1 ∧ (sendQueue.endSeq - sendQueue.beginSeq).toNat = 0 ∧ max = una) :
    c'.Aligned := by
  unfold sendVars at vars
  simp only [Prod.mk.injEq] at vars
  obtain ⟨rfl, rfl, rfl, rfl, rfl⟩ := vars
  exact ⟨⟨⟨near, finSeq⟩, sent⟩, first⟩

/-- The number behind the FIN is not that of a byte, so one less is discarded when it is
acknowledged. -/
theorem discardUpTo_inRange {ackNo : BitVec 32} (buffered : c.Buffered) (acks : c.AcksSent ackNo) :
    ∃ sendQueue, c.sendQueue.discardUpTo
        (if (c.sendFin && ackNo == c.sndFinSeq + 1) = true then ackNo - 1 else ackNo) = .ok sendQueue ∧
      ∀ {c' : TCPConnection}, c'.sendVars = (sendQueue, ackNo, c.sndMax, c.sendFin, c.sndFinSeq) →
        c'.Aligned := by
  have near := buffered.near
  have sent := buffered.sndMax
  unfold AcksSent queued at *
  by_cases fin : (c.sendFin && ackNo == c.sndFinSeq + 1) = true
  · rw [if_pos fin]
    rw [Bool.and_eq_true, beq_iff_eq] at fin
    obtain ⟨sendFin, ackNo_eq⟩ := fin
    have finSeq := buffered.finSeq sendFin
    have back : ackNo - 1 = c.sendQueue.endSeq := by
      rw [ackNo_eq, finSeq, BitVec.add_sub_cancel]
    rw [back]
    have max : c.sndMax = c.sendQueue.endSeq + 1 := by
      rcases sent with within | ⟨-, max⟩
      · rw [ackNo_eq, finSeq] at acks
        bv_omega
      · exact max
    refine ⟨_, discardUpTo_eq ⟨near, ?_⟩, fun vars => ?_⟩
    · unfold seqLE
      rw [BitVec.sub_self]
      decide
    · refine .of_vars vars ?_ (Or.inr ⟨sendFin, max⟩) (fun _ => finSeq) (Or.inr ⟨?_, ?_, ?_⟩)
      · rw [BitVec.sub_self]
        decide
      · rw [ackNo_eq, finSeq]
      · rw [BitVec.sub_self]
        rfl
      · rw [max, ackNo_eq, finSeq]
  · rw [if_neg fin]
    rw [Bool.and_eq_true, beq_iff_eq, not_and] at fin
    have within : (ackNo - c.sendQueue.beginSeq).toNat ≤
        (c.sendQueue.endSeq - c.sendQueue.beginSeq).toNat := by
      rcases sent with within | ⟨sendFin, max⟩
      · exact Nat.le_trans acks within
      · have other := fin sendFin
        rw [buffered.finSeq sendFin] at other
        rw [max] at acks
        bv_omega
    refine ⟨_, discardUpTo_eq ⟨?_, ?_⟩, fun vars => .of_vars vars ?_ ?_ buffered.finSeq (Or.inl rfl)⟩
    · unfold seqLE
      omega
    · unfold seqLE
      bv_omega
    · change (c.sendQueue.endSeq - ackNo).toNat < 2 ^ 31
      bv_omega
    · refine sent.imp_left fun le => ?_
      change (c.sndMax - ackNo).toNat ≤ (c.sendQueue.endSeq - ackNo).toNat
      bv_omega

theorem acceptAck_inRange {tcpseg : TCPSegment} (buffered : c.Buffered)
    (acks : c.AcksSent tcpseg.ackNo) : Ensures InRange Aligned (c.acceptAck tcpseg) := by
  obtain ⟨sendQueue, discarded, aligned⟩ := discardUpTo_inRange buffered acks
  unfold acceptAck
  dsimp only
  by_cases behind : seqLess c.sndNxt tcpseg.ackNo
  all_goals
    first | rw [if_pos behind] | rw [if_neg behind]
    dsimp only
    rw [discarded]
    refine Ensures.ok_bind ?_
    rw [Ensures.pure_iff]
    split <;> exact aligned rfl

theorem acksSent_of_new {ackNo : BitVec 32} (aligned : c.Aligned) (new : ¬ seqGE c.sndUna ackNo)
    (sent : seqLE ackNo c.sndMax) : c.AcksSent ackNo := by
  have near := aligned.near
  have max := aligned.sndMax
  unfold AcksSent queued seqGE seqLE at *
  rcases aligned.sndUna with first | ⟨-, -, acked⟩
  · rw [first] at new
    have far : (c.sndMax - c.sendQueue.beginSeq).toNat ≤ 2 ^ 31 := by
      rcases max with within | ⟨-, fin⟩
      · omega
      · rw [fin]
        bv_omega
    bv_omega
  · rw [acked] at sent
    bv_omega

/-- The third duplicate acknowledgement, of something outstanding -/
def ThirdDupAck (c : TCPConnection) (tcpseg : TCPSegment) : Prop :=
  c.tcpAlgorithm ≠ .noCongestionControl ∧ c.dupacks + 1 = 3 ∧ c.sndUna = tcpseg.ackNo ∧
    tcpseg.payloadLength = 0 ∧ c.sndUna ≠ c.sndMax
deriving Decidable

theorem receivesNew_inRange {tcpseg : TCPSegment} (buffered : c.Buffered)
    (mss : 0 < c.sndMss.toNat) (acks : c.AcksSent tcpseg.ackNo) :
    Ensures InRange (fun r : Bool × TCPConnection => r.2.InQueue)
      (do
        let c ← c.acceptAck tcpseg
        let c ← TCPAlgorithm.receivedDataAck c
        return (true, { c with dupacks := 0 })) := by
  refine Ensures.bind ((acceptAck_inRange buffered acks).and (acceptAck_returns c tcpseg)) ?_
  rintro c₁ ⟨aligned, same, -⟩
  have mss₁ : c₁.sndMss = c.sndMss := (congrArg sndMss same :)
  refine Ensures.bind (TCPAlgorithm.receivedDataAck_inRange aligned (mss₁ ▸ mss)) ?_
  exact fun c₂ inQueue => inQueue.of_same rfl id

theorem processAckInEstabEtc_inRange {tcpseg : TCPSegment} (inQueue : c.InQueue)
    (mss : 0 < c.sndMss.toNat) (without : c.ThirdDupAck tcpseg → ¬ c.FinInSegment) :
    Ensures InRange (fun r => r.2.InQueue) (c.processAckInEstabEtc tcpseg) := by
  unfold processAckInEstabEtc
  refine Ensures.ite (fun _ => ?_) fun new => ?_
  · refine Ensures.ite (fun duplicate => ?_) fun _ => inQueue.of_same rfl id
    have counted : { c with dupacks := c.dupacks + 1 }.InQueue := inQueue.of_same rfl id
    refine Ensures.bind (TCPAlgorithm.receivedDuplicateAck_inRange counted mss duplicate.2.2 ?_) ?_
    · exact fun retransmits => without ⟨retransmits.1, retransmits.2, duplicate⟩
    · exact fun c₁ inQueue₁ => inQueue₁
  · refine Ensures.ite (fun sent => ?_) fun _ => ?_
    · exact receivesNew_inRange inQueue.toBuffered mss (acksSent_of_new inQueue.toAligned new sent)
    · unfold TCPExec.assert
      split
      · exact inQueue.of_same rfl id
      · exact True.intro

end TCPConnection

end IPv6Suite
