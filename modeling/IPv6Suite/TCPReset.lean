import IPv6Suite.TCPHandshake

namespace IPv6Suite

open Lib

namespace TCPConnection

variable {c c' : TCPConnection}

def synWithPayload (c : TCPConnection) (payloadLength : Nat) : TCPSegment :=
  { c.synSegment with payloadLength }

def SendsAck (c : TCPConnection) (tcpseg : TCPSegment) : Prop :=
  c.sendAck.toIP = c.toIP ++ [tcpseg] ∨ c.sendFinSegment.toIP = c.toIP ++ [tcpseg] ∨
    ∃ bytes c', c.sendSegment bytes = .ok c' ∧ c'.toIP = c.toIP ++ [tcpseg]

/-- The segment reaches a node without the connection, and what comes back closes the
connection and tells the application so. -/
def ClosedByAnswer (c : TCPConnection) (tcpseg : TCPSegment) : Prop :=
  ∃ rst, segmentArrivalWhileClosed tcpseg = some rst ∧
    ∀ simTime, ∃ c' code, c.handle simTime (.segment rst) = .ok c' ∧ c'.fsm = .closed ∧
      c'.toAppl = c.toAppl ++ [code] ∧
      (code = .connectionReset ∨ code = .closed)

instance (c : TCPConnection) (tcpseg : TCPSegment) : Decidable (c.AcksSyn tcpseg) :=
  inferInstanceAs (Decidable (¬ _))

variable {tcpseg : TCPSegment}

theorem acksSyn_iff (sndNxt : c.sndNxt = c.iss + 1) : c.AcksSyn tcpseg ↔ tcpseg.ackNo = c.iss + 1 := by
  refine ⟨fun acks => acks.ackNo sndNxt, fun ackNo => ?_⟩
  unfold AcksSyn seqLE seqGreater
  rw [ackNo, sndNxt, not_or]
  refine ⟨?_, fun greater => greater.1 rfl⟩
  bv_omega

variable {input : TCPInput} {simTime : Nat}

theorem handle_ignored (alive : c.fsm ≠ .closed)
    (processed : (c.atTime simTime).processInput input = .ok (.ignore, c')) : c.handle simTime input = .ok c' := by
  unfold handle
  rw [if_neg alive, processed]
  exact if_pos rfl

theorem handle_closed {event : TCPEventCode} {code : TCPIndication}
    (alive : c.fsm ≠ .closed) (processed : (c.atTime simTime).processInput input = .ok (event, c'))
    (closes : c'.nextState event = .closed) (open' : c'.fsm ≠ .closed) (told : c'.toAppl = c.toAppl ++ [code]) :
    ∃ c'', c.handle simTime input = .ok c'' ∧ c''.fsm = .closed ∧ c''.toAppl = c.toAppl ++ [code] := by
  unfold handle
  rw [if_neg alive, processed]
  change ∃ c'', c'.performStateTransition event = .ok c'' ∧ _
  unfold performStateTransition
  rw [closes, if_neg (Ne.symm open')]
  exact ⟨_, rfl, rfl, told⟩

/-- In SYN_SENT a reset with the ACK bit either is refused as not acknowledging the SYN, or
closes the connection. -/
theorem processRcvSegment_rstAck (waits : c.fsm = .synSent) (seq ack : BitVec 32) :
    c.processRcvSegment (rstAckSegment seq ack) =
      .ok (if c.AcksSyn (rstAckSegment seq ack) then
          (.rcvRst, c.sendIndicationToApp .connectionReset)
        else (.ignore, c.sendRst ack)) := by
  unfold processRcvSegment
  rw [waits]
  change c.processSegmentInSynSent _ = _
  unfold processSegmentInSynSent AcksSyn
  by_cases wrong : seqLE ack c.iss ∨ seqGreater ack c.sndNxt
  · exact (if_pos ⟨rfl, wrong⟩).trans (congrArg Except.ok (if_neg (not_not_intro wrong)).symm)
  · exact (if_neg fun refused => wrong refused.2).trans (congrArg Except.ok (if_pos wrong).symm)

theorem closedByAnswer_syn_iff (waits : c.fsm = .synSent) (sndNxt : c.sndNxt = c.iss + 1) (payloadLength : Nat) :
    c.ClosedByAnswer (c.synWithPayload payloadLength) ↔ payloadLength % 2 ^ 32 = 1 := by
  let ack := c.iss + BitVec.ofNat 32 payloadLength
  have answer : segmentArrivalWhileClosed (c.synWithPayload payloadLength) =
      some (rstAckSegment 0 ack) := rfl
  have acks : c.AcksSyn (rstAckSegment 0 ack) ↔ payloadLength % 2 ^ 32 = 1 := by
    rw [acksSyn_iff sndNxt]
    change c.iss + BitVec.ofNat 32 payloadLength = c.iss + 1 ↔ _
    rw [BitVec.add_right_inj, ← BitVec.toNat_inj, BitVec.toNat_ofNat]
    rfl
  have alive : c.fsm ≠ .closed := by
    rw [waits]
    decide
  have processed (simTime : Nat) : (c.atTime simTime).processInput
      (.segment (rstAckSegment 0 ack)) = _ :=
    processRcvSegment_rstAck (c := c.atTime simTime) waits 0 ack
  rw [← acks]
  constructor
  · rintro ⟨rst, answered, closes⟩
    cases answer.symm.trans answered
    obtain ⟨c', code, done, closed, -⟩ := closes 0
    by_contra unacked
    have ignored := (processed 0).trans (congrArg Except.ok (if_neg unacked))
    cases (handle_ignored alive ignored).symm.trans done
    exact alive closed
  · intro acked
    refine ⟨_, answer, fun simTime => ?_⟩
    have reset := (processed simTime).trans (congrArg Except.ok (if_pos acked))
    have event : (sendIndicationToApp (c.atTime simTime) .connectionReset).nextState .rcvRst =
        .closed := nextState_eq waits _
    obtain ⟨c', done, closed, told⟩ := handle_closed alive reset event alive rfl
    exact ⟨c', _, done, closed, told, Or.inl rfl⟩

theorem closedByAnswer_of_ackNo (past : opening c.fsm = false)
    (alive : c.fsm ≠ .closed) (rcvWnd : c.rcvWnd = 128 * 1024) (ack : tcpseg.ackBit = true)
    (plain : tcpseg.rstBit = false) (ackNo : tcpseg.ackNo = c.rcvNxt) : c.ClosedByAnswer tcpseg := by
  have answer : segmentArrivalWhileClosed tcpseg = some (rstSegment c.rcvNxt) := by
    unfold segmentArrivalWhileClosed
    rw [plain, ack, ackNo]
    rfl
  have acceptable : c.isSegmentAcceptable (rstSegment c.rcvNxt) := by
    change seqGE c.rcvNxt c.rcvNxt ∧ seqLE (c.rcvNxt + 0) (c.rcvNxt + c.rcvWnd)
    unfold seqGE seqLE
    rw [rcvWnd]
    constructor <;> bv_omega
  refine ⟨_, answer, fun simTime => ?_⟩
  obtain ⟨code, reset, closes, told⟩ := processRst_late (c := c.atTime simTime) past alive
  have processed : (c.atTime simTime).processInput (.segment (rstSegment c.rcvNxt)) =
      .ok (.rcvRst, (c.atTime simTime).sendIndicationToApp code) := by
    have checked : (c.atTime simTime).processSegment1stThru8th (rstSegment c.rcvNxt) =
        (c.atTime simTime).processRst := if_neg (not_not_intro acceptable)
    exact (processRcvSegment_late (c := c.atTime simTime) past _).trans (checked.trans reset)
  obtain ⟨c', done, closed, toAppl⟩ := handle_closed alive processed closes alive rfl
  exact ⟨c', code, done, closed, toAppl, told⟩

theorem createSegmentWithBytes_returns (q : TCPVirtualDataSendQueue) (fromSeq : BitVec 32)
    (numBytes : Nat) : OnReturn (fun tcpseg => tcpseg =
      { TCPSegment.create with sequenceNo := fromSeq, payloadLength := numBytes })
    (q.createSegmentWithBytes fromSeq numBytes) :=
  Ensures.bind Ensures.trivial fun _ _ => rfl

theorem SendsAck.acks (sends : c.SendsAck tcpseg) :
    tcpseg.ackBit = true ∧ tcpseg.rstBit = false ∧ tcpseg.ackNo = c.rcvNxt := by
  rcases sends with ack | fin | ⟨bytes, c', sent, data⟩
  · cases List.append_cancel_left ack
    exact ⟨rfl, rfl, rfl⟩
  · cases List.append_cancel_left fin
    exact ⟨rfl, rfl, rfl⟩
  · have made : OnReturn (fun c' => ∃ finBit, c'.toIP = c.toIP ++ [{ TCPSegment.create with
        sequenceNo := c.sndNxt
        ackNo := c.rcvNxt
        ackBit := true
        finBit
        window := c.rcvWnd
        payloadLength := bytes }]) (c.sendSegment bytes) := by
      unfold sendSegment
      refine Ensures.bind (createSegmentWithBytes_returns _ _ _).mapError ?_
      rintro segment rfl
      rw [Ensures.pure_iff]
      split
      · exact ⟨true, rfl⟩
      · exact ⟨false, rfl⟩
    obtain ⟨finBit, toIP⟩ := made.of_ok sent
    cases List.append_cancel_left (data.symm.trans toIP)
    exact ⟨rfl, rfl, rfl⟩

/-- A reset that answers a SYN is accepted exactly if the SYN carries one byte; one that answers a
segment with ACK is accepted as long as `rcv_nxt` has not moved since. -/
theorem closedByAnswer_of_runs {tcpAlgorithm : TCPAlgorithm} {arrivals : List (Nat × TCPInput)}
    (runs : Runs step (fun _ _ => True) (create tcpAlgorithm) arrivals c) :
    (c.fsm = .synSent → ∀ payloadLength,
      c.ClosedByAnswer (c.synWithPayload payloadLength) ↔ payloadLength % 2 ^ 32 = 1) ∧
    (opening c.fsm = false → c.fsm ≠ .closed → ∀ (sender : TCPConnection) (tcpseg : TCPSegment),
      sender.rcvNxt = c.rcvNxt → sender.SendsAck tcpseg → c.ClosedByAnswer tcpseg) := by
  obtain ⟨handshake, fixed⟩ := handshake_of_runs runs
  constructor
  · intro waits payloadLength
    rw [waits] at handshake
    exact closedByAnswer_syn_iff waits handshake.sndNxt payloadLength
  · intro past alive sender tcpseg same sends
    obtain ⟨ack, plain, ackNo⟩ := sends.acks
    have rcvWnd : c.rcvWnd = 128 * 1024 := congrArg (·.2.2) (fixed.resolve_left alive)
    exact closedByAnswer_of_ackNo past alive rcvWnd ack plain (ackNo.trans same)

theorem closedByAnswer_example :
    (∃ c, Runs step (fun _ _ => True) (create .reno) [(0, .command (.openActive true))] c ∧
      c.ClosedByAnswer (c.synWithPayload 1)) ∧
    ∃ c, Runs step (fun _ _ => True) (create .reno)
      [(0, .command (.openActive true)), (1, .segment exampleSynAck)] c ∧
        ∀ tcpseg, c.SendsAck tcpseg → c.ClosedByAnswer tcpseg := by
  have opened : Runs step (fun _ _ => True) (create .reno) [(0, .command (.openActive true))] _ :=
    .cons True.intro rfl (.nil _)
  have established : Runs step (fun _ _ => True) (create .reno)
      [(0, .command (.openActive true)), (1, .segment exampleSynAck)] _ :=
    .cons True.intro rfl (.cons True.intro rfl (.nil _))
  refine ⟨⟨_, opened, ((closedByAnswer_of_runs opened).1 rfl 1).mpr rfl⟩, _, established, ?_⟩
  exact fun tcpseg => (closedByAnswer_of_runs established).2 rfl (by decide) _ tcpseg rfl

/-- The SYN that is sent has no payload, and its reset is not accepted. -/
theorem reset_of_syn_refused :
    ¬ ∀ tcpAlgorithm arrivals c,
      Runs step (fun _ _ => True) (create tcpAlgorithm) arrivals c → c.fsm = .synSent →
        ∀ payloadLength, c.ClosedByAnswer (c.synWithPayload payloadLength) := by
  intro claim
  have opened : Runs step (fun _ _ => True) (create .reno) [(0, .command (.openActive true))] _ :=
    .cons True.intro rfl (.nil _)
  have one := (closedByAnswer_syn_iff rfl rfl 0).mp (claim _ _ _ opened rfl 0)
  cases one

def RefusedInSynSent (c : TCPConnection) (tcpseg : TCPSegment) : Prop :=
  c.fsm = .synSent ∧ tcpseg.ackBit = true ∧ ¬ c.AcksSyn tcpseg

theorem stateEntered_toIP (c : TCPConnection) : OnReturn (fun c' => c'.toIP = c.toIP) c.stateEntered := by
  unfold stateEntered
  split
  iterate 3 rfl
  · exact Ensures.bind Ensures.trivial fun _ _ => rfl
  iterate 8 rfl

theorem performStateTransition_toIP (c : TCPConnection) (event : TCPEventCode) :
    OnReturn (fun c' => c'.toIP = c.toIP) (c.performStateTransition event) := by
  unfold performStateTransition
  exact Ensures.ite (fun _ => rfl) fun _ => stateEntered_toIP _

theorem processRcvSegment_rst (reset : tcpseg.rstBit = true) : OnReturn
    (fun r => (c.RefusedInSynSent tcpseg → r.2.toIP = c.toIP ++ [rstSegment tcpseg.ackNo]) ∧
      (¬ c.RefusedInSynSent tcpseg → r.2.toIP = c.toIP)) (c.processRcvSegment tcpseg) := by
  unfold processRcvSegment RefusedInSynSent
  cases fsm : c.fsm
  case init => exact True.intro
  case listen =>
    change OnReturn _ (c.processSegmentInListen tcpseg)
    unfold processSegmentInListen
    rw [if_pos reset]
    exact ⟨fun refused => (nomatch refused.1), fun _ => rfl⟩
  case synSent =>
    change OnReturn _ (c.processSegmentInSynSent tcpseg)
    unfold processSegmentInSynSent
    refine Ensures.ite (fun wrong => ?_) fun right => ?_
    · exact ⟨fun _ => rfl, fun taken => absurd ⟨rfl, wrong.1, not_not_intro wrong.2⟩ taken⟩
    · have taken : ¬ (TcpState.synSent = .synSent ∧ tcpseg.ackBit = true ∧ ¬ c.AcksSyn tcpseg) :=
        fun refused => right ⟨refused.2.1, not_not.mp refused.2.2⟩
      rw [if_pos reset]
      refine Ensures.ite (fun _ => ?_) fun _ => ?_
      · exact ⟨fun refused => absurd refused taken, fun _ => rfl⟩
      · exact ⟨fun refused => absurd refused taken, fun _ => rfl⟩
  all_goals
    have kept : OnReturn (fun r => r.2.toIP = c.toIP) (c.processSegment1stThru8th tcpseg) := by
      unfold processSegment1stThru8th
      rw [if_pos reset, if_pos reset]
      refine Ensures.ite (fun _ => rfl) fun _ => ?_
      refine (processRst_returns c).imp ?_
      rintro r ⟨-, sendQueue, toAppl, same⟩
      rw [same]
    exact kept.imp fun r same => ⟨fun refused => (nomatch refused.1), fun _ => same⟩

/-- A reset is answered exactly if it comes in SYN_SENT and does not acknowledge the SYN. -/
theorem rst_unanswered_iff {tcpseg : TCPSegment} (reset : tcpseg.rstBit = true) :
    segmentArrivalWhileClosed tcpseg = none ∧
      ∀ (c : TCPConnection) (simTime : Nat), OnReturn
        (fun c' => c'.toIP = c.toIP ↔ ¬ c.RefusedInSynSent tcpseg)
        (c.handle simTime (.segment tcpseg)) := by
  refine ⟨if_pos reset, fun c simTime => ?_⟩
  unfold handle
  refine Ensures.ite (fun closed => ?_) fun _ => ?_
  · refine iff_of_true rfl fun refused => ?_
    cases closed.symm.trans refused.1
  · refine Ensures.bind (processRcvSegment_rst (c := c.atTime simTime) reset) ?_
    rintro ⟨event, c₁⟩ ⟨answered, unanswered⟩
    refine (performStateTransition_toIP c₁ event).imp fun c' kept => ?_
    rw [kept]
    by_cases refused : c.RefusedInSynSent tcpseg
    · refine iff_of_false (fun same => ?_) (not_not_intro refused)
      have longer := (answered refused).symm.trans same
      exact absurd (List.append_right_eq_self.mp longer) (List.cons_ne_nil _ _)
    · exact iff_of_true (unanswered refused) refused

theorem rst_unanswered_example : ∃ c, Runs step (fun _ _ => True) (create .reno)
    [(0, .command (.openActive true))] c ∧ OnReturn (fun c' => c'.toIP = c.toIP)
      (c.handle 1 (.segment (rstAckSegment 0 1))) := by
  refine ⟨_, .cons True.intro rfl (.nil _), ?_⟩
  refine ((rst_unanswered_iff rfl).2 _ 1).imp fun c' unanswered => unanswered.mpr fun refused => ?_
  exact refused.2.2 (by decide)

/-- A reset with the number of the SYN in its ACK field is answered by a reset. -/
theorem rst_answered_in_synSent :
    ¬ ∀ tcpAlgorithm arrivals c,
      Runs step (fun _ _ => True) (create tcpAlgorithm) arrivals c →
        ∀ (tcpseg : TCPSegment) (simTime : Nat), tcpseg.rstBit = true →
          OnReturn (fun c' => c'.toIP = c.toIP) (c.handle simTime (.segment tcpseg)) := by
  intro claim
  have opened : Runs step (fun _ _ => True) (create .reno) [(0, .command (.openActive true))] _ :=
    .cons True.intro rfl (.nil _)
  have unanswered := (claim _ _ _ opened (rstAckSegment 0 0) 1 rfl).of_ok rfl
  exact absurd (congrArg List.length unanswered) (by decide)

end TCPConnection

end IPv6Suite
