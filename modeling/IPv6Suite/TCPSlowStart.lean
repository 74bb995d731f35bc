import IPv6Suite.TCPHandshake

namespace IPv6Suite

open Lib

namespace TCPConnection

variable {c c' : TCPConnection}

/-- What slow start depends on -/
def congestion (c : TCPConnection) : BitVec 32 × BitVec 16 × BitVec 32 × BitVec 32 :=
  (c.sndUna, c.dupacks, c.sndCwnd, c.ssthresh)

theorem sendData_congestion (c : TCPConnection) (fullSegmentsOnly : Prop)
    [Decidable fullSegmentsOnly] (congestionWindow : Int) : OnReturn (fun r => r.2.congestion = c.congestion)
      (c.sendData fullSegmentsOnly congestionWindow) := by
  have buffered := bytesAvailable_lt c.sendQueue c.sndMax
  unfold sendData
  dsimp only
  refine Ensures.ite (fun _ => rfl) fun queued => ?_
  refine Ensures.ite (fun _ => rfl) fun open' => ?_
  refine Ensures.ite (fun _ => rfl) fun _ => ?_
  refine Ensures.bind (sendBytes_returns (by omega) (by omega)) ?_
  rintro c₁ ⟨n, moves, -, -⟩
  obtain ⟨rexmitCount, rtseq, rtseqSendtime, sent⟩ :=
    TCPBaseAlg.dataSent_eq (TCPBaseAlg.ackSent { c₁ with sndMax := c₁.sndNxt }) c.sndMax
  rw [sent]
  exact (congrArg congestion moves.same :)

end TCPConnection

namespace TCPBaseAlg

theorem sendCommandInvoked_congestion (c : TCPConnection) :
    OnReturn (fun c' => c'.congestion = c.congestion) (sendCommandInvoked c) :=
  Ensures.bind (c.sendData_congestion _ _) fun _ same => same

end TCPBaseAlg

namespace TCPReno

open TCPConnection

/-- Below `ssthresh` an acknowledgement opens the window by one MSS, if fewer than three duplicates
are counted. -/
theorem receivedDataAck_congestion {c : TCPConnection} (few : c.dupacks.toInt < 3)
    (below : c.sndCwnd < c.ssthresh) : OnReturn
    (fun c' => c'.congestion = (c.sndUna, c.dupacks, c.sndCwnd + c.sndMss, c.ssthresh)) (receivedDataAck c) := by
  obtain ⟨rexmitCount, rtseqSendtime, notified⟩ := TCPBaseAlg.receivedDataAck_eq c
  have usual : ¬ (3 : BitVec 16).sle c.dupacks := by
    rw [BitVec.sle_iff_toInt_le]
    exact Int.not_le.mpr few
  unfold receivedDataAck TCPTahoeRenoFamily.increaseCwnd
  rw [notified]
  refine (TCPBaseAlg.sendCommandInvoked_congestion _).imp fun c' same => same.trans ?_
  rw [if_neg usual, if_pos below]
  rfl

/-- The third duplicate leads to the fast retransmit, the first two to nothing. -/
theorem receivedDuplicateAck_congestion {c : TCPConnection} (few : c.dupacks.toInt ≤ 3) : OnReturn
    (fun c' => c'.dupacks = c.dupacks ∧ (c.dupacks = 3 ∨ c'.congestion = c.congestion))
    (receivedDuplicateAck c) := by
  unfold receivedDuplicateAck
  refine Ensures.ite (fun third => ?_) fun other => ?_
  · refine Ensures.bind c.retransmitOneSegment_returns fun c₁ same => ?_
    rw [TCPAlgorithm.restartRexmitTimer_eq]
    exact ⟨(congrArg dupacks same :), Or.inl third⟩
  · have beyond : ¬ (3 : BitVec 16).slt c.dupacks := by
      rw [BitVec.slt_iff_toInt_lt]
      exact Int.not_lt.mpr few
    rw [if_neg beyond]
    exact ⟨rfl, Or.inr rfl⟩

/-- After a time-out the window is one MSS, and the duplicates are still counted. -/
theorem processRexmitTimer_congestion (c : TCPConnection) : OnReturn
    (fun r => r.1 = .abort ∨ r.1 = .ignore ∧ r.2.sndCwnd = c.sndMss ∧ r.2.dupacks = c.dupacks)
    (processRexmitTimer c) := by
  have base : OnReturn (fun r => r.1 = .abort ∨
      r.1 = .ignore ∧ r.2.sndMss = c.sndMss ∧ r.2.dupacks = c.dupacks)
      (TCPBaseAlg.processRexmitTimer c) := by
    unfold TCPBaseAlg.processRexmitTimer
    refine Ensures.ite (fun _ => Or.inl rfl) fun _ => ?_
    exact Ensures.bind Ensures.trivial fun _ _ => Or.inr ⟨rfl, rfl, rfl⟩
  unfold processRexmitTimer
  refine Ensures.bind base fun r expired => ?_
  refine Ensures.ite (fun gaveUp => Or.inl gaveUp) fun remains => ?_
  obtain ⟨event, mss, duplicates⟩ := expired.resolve_left remains
  refine Ensures.bind (retransmitData_returns _) fun c' same => ?_
  have window : c'.sndCwnd = r.2.sndMss := (congrArg sndCwnd same :)
  have counted : c'.dupacks = r.2.dupacks := (congrArg dupacks same :)
  exact Or.inr ⟨event, window.trans mss, counted.trans duplicates⟩

end TCPReno

namespace TCPConnection

variable {c c' : TCPConnection}

/-- What an input but for the time-out does to a window below `ssthresh`: the third duplicate ends
slow start, an acknowledgement of new data opens the window by one MSS. -/
def OpensSlowly (c c' : TCPConnection) : Prop :=
  c'.dupacks = 3 ∨ c'.dupacks.toInt < 3 ∧
    (c'.sndUna = c.sndUna ∧ c'.sndCwnd = c.sndCwnd ∨
      c'.sndUna ≠ c.sndUna ∧ c'.sndCwnd = c.sndCwnd + c.sndMss)

/-- What slow start is left with if nothing is acknowledged -/
theorem OpensSlowly.idle (few : c'.dupacks.toInt < 3) (una : c'.sndUna = c.sndUna)
    (cwnd : c'.sndCwnd = c.sndCwnd) : c.OpensSlowly c' := Or.inr ⟨few, Or.inl ⟨una, cwnd⟩⟩

theorem OpensSlowly.of_same {c'' : TCPConnection} (opens : c.OpensSlowly c')
    (same : c''.congestion = c'.congestion) : c.OpensSlowly c'' := by
  unfold congestion at same
  simp only [Prod.mk.injEq] at same
  obtain ⟨una, duplicates, cwnd, -⟩ := same
  unfold OpensSlowly
  rw [una, duplicates, cwnd]
  exact opens

theorem OpensSlowly.quiet (few : c.dupacks.toInt < 3) (same : c'.congestion = c.congestion) :
    c.OpensSlowly c' := (OpensSlowly.idle few rfl rfl).of_same same

theorem acceptAck_congestion (c : TCPConnection) (tcpseg : TCPSegment) : OnReturn
    (fun c' => c'.congestion = (tcpseg.ackNo, c.dupacks, c.sndCwnd, c.ssthresh) ∧
      c'.sndMss = c.sndMss ∧ c'.tcpAlgorithm = c.tcpAlgorithm) (c.acceptAck tcpseg) := by
  unfold acceptAck
  refine Ensures.bind Ensures.trivial fun sendQueue _ => ?_
  rw [Ensures.pure_iff]
  split
  all_goals split <;> exact ⟨rfl, rfl, rfl⟩

/-- One more duplicate is still counted as one more. -/
theorem toInt_dupacks {dupacks : BitVec 16} (few : dupacks.toInt < 3) :
    (dupacks + 1).toInt = dupacks.toInt + 1 := by
  have least : -32768 ≤ dupacks.toInt := BitVec.le_toInt dupacks
  rw [BitVec.toInt_add]
  change (dupacks.toInt + 1).bmod 65536 = _
  rw [Int.bmod_eq_of_le]
  · omega
  · omega

variable {tcpseg : TCPSegment}

theorem processAckInEstabEtc_opens (reno : c.tcpAlgorithm = .reno)
    (few : c.dupacks.toInt < 3) (below : c.sndCwnd < c.ssthresh) :
    OnReturn (fun r => c.OpensSlowly r.2) (c.processAckInEstabEtc tcpseg) := by
  have reset : (0 : BitVec 16).toInt < 3 := by decide
  unfold processAckInEstabEtc TCPAlgorithm.receivedDuplicateAck TCPAlgorithm.receivedDataAck
  refine Ensures.ite (fun _ => ?_) fun new => ?_
  · refine Ensures.ite (fun _ => ?_) fun _ => .idle reset rfl rfl
    have counted := toInt_dupacks few
    dsimp only
    rw [reno]
    refine Ensures.bind (TCPReno.receivedDuplicateAck_congestion ?_) fun c' ⟨duplicates, react⟩ => ?_
    · change (c.dupacks + 1).toInt ≤ 3
      omega
    · rcases react with third | same
      · exact Or.inl (duplicates.trans third)
      · by_cases third : c.dupacks + 1 = 3
        · exact Or.inl (duplicates.trans third)
        · have other : (c.dupacks + 1).toInt ≠ 3 := fun is => third (BitVec.eq_of_toInt_eq is)
          refine @OpensSlowly.of_same c { c with dupacks := c.dupacks + 1 } c' (.idle ?_ rfl rfl) same
          change (c.dupacks + 1).toInt < 3
          omega
  · refine Ensures.ite (fun _ => ?_) fun _ => ?_
    · refine Ensures.bind (acceptAck_congestion c tcpseg) fun c₁ ⟨accepted, mss, algorithm⟩ => ?_
      unfold congestion at accepted
      simp only [Prod.mk.injEq] at accepted
      obtain ⟨una, duplicates, cwnd, ssthresh⟩ := accepted
      rw [algorithm, reno]
      rw [← duplicates] at few
      rw [← cwnd, ← ssthresh] at below
      refine Ensures.bind (TCPReno.receivedDataAck_congestion few below) fun c₂ same => ?_
      have una₂ : c₂.sndUna = c₁.sndUna := congrArg (·.1) same
      have cwnd₂ : c₂.sndCwnd = c₁.sndCwnd + c₁.sndMss := congrArg (·.2.2.1) same
      refine Or.inr ⟨reset, Or.inr ⟨?_, ?_⟩⟩
      · change c₂.sndUna ≠ c.sndUna
        rw [una₂, una]
        intro old
        unfold seqGE at new
        rw [old, BitVec.sub_self] at new
        exact new (by decide)
      · change c₂.sndCwnd = c.sndCwnd + c.sndMss
        rw [cwnd₂, cwnd, mss]
    · exact Ensures.bind Ensures.trivial fun _ _ => .idle reset rfl rfl

theorem processAck_opens (past : c.fsm ≠ .synRcvd) (reno : c.tcpAlgorithm = .reno)
    (few : c.dupacks.toInt < 3) (below : c.sndCwnd < c.ssthresh) :
    OnReturn (fun check => c.OpensSlowly check.connection) (c.processAck tcpseg) := by
  refine processAck_keeps past True.intro ?_ ?_ ?_
  · intro c₁ c₂ opens same _
    exact opens.of_same (congrArg congestion same :)
  · exact fun _ => .quiet few rfl
  · exact fun _ => processAckInEstabEtc_opens reno few below

variable {r : TCPEventCode × TCPConnection}

theorem SegmentReaction.opens
    (reaction : c.SegmentReaction tcpseg r) (past : c.fsm ≠ .synRcvd) (reno : c.tcpAlgorithm = .reno)
    (few : c.dupacks.toInt < 3) (below : c.sndCwnd < c.ssthresh) : c.OpensSlowly r.2 := by
  cases reaction with
  | refused same => exact .quiet few (congrArg congestion same :)
  | reset reset =>
      obtain ⟨-, sendQueue, toAppl, same⟩ := c.processRst_returns.of_ok reset
      rw [same]
      exact .quiet few rfl
  | unexpected => exact .quiet few rfl
  | drops _ checked => exact (processAck_opens past reno few below).of_ok checked
  | proceeds _ checked processed =>
      have text := ((processTextAndFin_returns _ tcpseg _ _).of_ok processed).1
      have acked := (processAck_opens past reno few below).of_ok checked
      exact acked.of_same (congrArg congestion text :)

theorem processClose_congestion (open' : c.fsm = .synRcvd ∨ c.fsm = .established ∨ c.fsm = .closeWait)
    (closes : c.processClose = .ok r) : r.2.congestion = c.congestion := by
  rcases processClose_cases open' closes with ⟨-, rfl⟩ | ⟨-, rfl⟩
  · simp only [congestion, queueFin, sendFinNow, sendFinSegment, TCPBaseAlg.ackSent, sendToIP]
  · simp only [congestion, queueFin]

/-- The expiry of a retransmission timer that is scheduled -/
def timesOut (c : TCPConnection) : TCPInput → Bool
  | .timeout .rexmitTimer => c.rexmitTimer
  | _ => false

variable {input : TCPInput}

theorem LateReaction.opens (reaction : c.LateReaction input r) (late : opening c.fsm = false)
    (reno : c.tcpAlgorithm = .reno) (few : c.dupacks.toInt < 3) (below : c.sndCwnd < c.ssthresh) :
    c.timesOut input = true ∨ c.OpensSlowly r.2 := by
  cases reaction with
  | sends _ sent =>
      have same := (TCPBaseAlg.sendCommandInvoked_congestion _).of_ok sent
      exact Or.inr (.quiet few same)
  | closes open' closes => exact Or.inr (.quiet few (processClose_congestion (Or.inr open') closes))
  | quiet same => exact Or.inr (.quiet few (congrArg congestion same :))
  | segment reaction => exact Or.inr (reaction.opens (synRcvd_not_late late) reno few below)
  | rexmit scheduled => exact Or.inl scheduled

theorem processInput_timesOut (out : c.timesOut input = true) :
    c.processInput input = TCPAlgorithm.processRexmitTimer { c with rexmitTimer := false } := by
  unfold timesOut at out
  split at out
  · exact if_pos out
  · cases out

theorem processInput_slowStart (late : opening c.fsm = false)
    (alive : c.fsm ≠ .closed) (reno : c.tcpAlgorithm = .reno) (out : c.timesOut input = true) :
    OnReturn (fun r => r.2.nextState r.1 = .closed ∨
      r.2.sndCwnd = c.sndMss ∧ r.2.dupacks = c.dupacks) (c.processInput input) := by
  refine OnReturn.of_forall fun r processed => ?_
  rw [processInput_timesOut out] at processed
  have expires := (TCPAlgorithm.processRexmitTimer_returns _).of_ok processed
  have fsm : r.2.fsm = c.fsm := (congrArg TCPConnection.fsm expires.same :)
  unfold TCPAlgorithm.processRexmitTimer at processed
  dsimp only at processed
  rw [reno] at processed
  rcases (TCPReno.processRexmitTimer_congestion _).of_ok processed with event | ⟨-, begins⟩
  · left
    rw [event]
    refine nextState_abort ?_ ?_
    · rw [fsm]
      exact late
    · rw [fsm]
      exact alive
  · exact Or.inr begins

variable {simTime : Nat}

theorem alive_of_handle (done : c.handle simTime input = .ok c') (alive : c'.fsm ≠ .closed) : c.fsm ≠ .closed := by
  intro closed
  unfold handle at done
  rw [if_pos closed] at done
  cases done
  exact alive closed

theorem handle_timesOut (handshake : Handshake c.fsm c)
    (reno : c.tcpAlgorithm = .reno) (out : c.timesOut input = true)
    (done : c.handle simTime input = .ok c') (alive : c'.fsm ≠ .closed) :
    opening c'.fsm = false ∧ c'.sndCwnd = c.sndMss ∧ c'.dupacks = c.dupacks := by
  have scheduled : c.rexmitTimer = true := by
    unfold timesOut at out
    split at out
    · exact out
    · cases out
  have late : opening c.fsm = false := by
    cases early : opening c.fsm with
    | true => exact absurd (scheduled.symm.trans (handshake.rexmitTimer early)) Bool.noConfusion
    | false => rfl
  have open' := alive_of_handle done alive
  obtain ⟨r, processed, fsm, same⟩ := handle_cases open' done
  have fsm' : r.2.fsm = c.fsm := ((processInput_late (c := c.atTime simTime) late open' input).of_ok
    processed).fsm
  have begins := (processInput_slowStart (c := c.atTime simTime) late open' reno out).of_ok processed
  obtain ⟨cwnd, duplicates⟩ := begins.resolve_left fun closed => alive (fsm.trans closed)
  have cwnd' : c'.sndCwnd = r.2.sndCwnd := (congrArg sndCwnd same :)
  have duplicates' : c'.dupacks = r.2.dupacks := (congrArg dupacks same :)
  refine ⟨?_, cwnd'.trans cwnd, duplicates'.trans duplicates⟩
  rw [fsm]
  exact opening_nextState (fsm'.symm ▸ late) r.1

theorem handle_opens (late : opening c.fsm = false)
    (reno : c.tcpAlgorithm = .reno) (few : c.dupacks.toInt < 3) (below : c.sndCwnd < c.ssthresh)
    (other : ¬ c.timesOut input = true) (done : c.handle simTime input = .ok c')
    (alive : c'.fsm ≠ .closed) : opening c'.fsm = false ∧ c.OpensSlowly c' := by
  have open' := alive_of_handle done alive
  obtain ⟨r, processed, fsm, same⟩ := handle_cases open' done
  have reaction := (processInput_late (c := c.atTime simTime) late open' input).of_ok processed
  have fsm' : r.2.fsm = c.fsm := reaction.fsm
  have opens := (reaction.opens late reno few below).resolve_left other
  refine ⟨?_, OpensSlowly.of_same opens (congrArg congestion same :)⟩
  rw [fsm]
  exact opening_nextState (fsm'.symm ▸ late) r.1

/-- A connection with the congestion window after the last retransmission time-out and after each
acknowledgement of new data since, the latest first; there is none if slow start is over. -/
structure SlowStartHistory where
  connection : TCPConnection
  windows : List (BitVec 32)

/-- The window is one MSS at first and grows by at most one MSS with each acknowledgement. -/
def SlowStart (mss : BitVec 32) : List (BitVec 32) → Prop
  | [] => True
  | [cwnd] => cwnd = mss
  | cwnd' :: cwnd :: earlier =>
      cwnd'.toNat ≤ cwnd.toNat + mss.toNat ∧ SlowStart mss (cwnd :: earlier)

theorem SlowStart.acknowledged {mss cwnd : BitVec 32} {windows : List (BitVec 32)}
    (slow : SlowStart mss windows) (begun : windows ≠ [])
    (current : ∀ cwnd' ∈ windows.head?, cwnd = cwnd') : SlowStart mss ((cwnd + mss) :: windows) := by
  cases windows with
  | nil => exact absurd rfl begun
  | cons cwnd' earlier =>
      rw [← current cwnd' rfl] at slow ⊢
      refine ⟨?_, slow⟩
      rw [BitVec.toNat_add]
      exact Nat.mod_le _ _

namespace SlowStartHistory

def create (tcpAlgorithm : TCPAlgorithm) : SlowStartHistory := ⟨.create tcpAlgorithm, []⟩

/-- Slow start is over when the window has reached `ssthresh` or a third duplicate arrives. -/
def step (h : SlowStartHistory) (arrival : Nat × TCPInput) : Exec SlowStartHistory := do
  let connection ← h.connection.step arrival
  return {
    connection
    windows :=
      if connection.fsm = .closed then []
      else if h.connection.timesOut arrival.2 then [connection.sndCwnd]
      else if h.windows = [] ∨ h.connection.ssthresh ≤ h.connection.sndCwnd ∨
          h.connection.dupacks ≠ 3 ∧ connection.dupacks = 3 then []
      else if connection.sndUna = h.connection.sndUna then h.windows
      else connection.sndCwnd :: h.windows }

variable {h h' : SlowStartHistory} {arrival : Nat × TCPInput}

theorem step_cases (done : h.step arrival = .ok h') :
    h.connection.step arrival = .ok h'.connection ∧ h'.windows =
      if h'.connection.fsm = .closed then []
      else if h.connection.timesOut arrival.2 then [h'.connection.sndCwnd]
      else if h.windows = [] ∨ h.connection.ssthresh ≤ h.connection.sndCwnd ∨
          h.connection.dupacks ≠ 3 ∧ h'.connection.dupacks = 3 then []
      else if h'.connection.sndUna = h.connection.sndUna then h.windows
      else h'.connection.sndCwnd :: h.windows := by
  unfold step at done
  cases steps : h.connection.step arrival with
  | error fault =>
      rw [steps] at done
      cases done
  | ok c' =>
      rw [steps] at done
      cases done
      exact ⟨rfl, rfl⟩

/-- Slow start takes place in an open connection, with fewer than three duplicates counted. -/
structure Inv (h : SlowStartHistory) : Prop where
  base : Handshake h.connection.fsm h.connection ∧
    (h.connection.fsm = .closed ∨ h.connection.parameters = (.reno, 1024, 128 * 1024))
  begun : h.windows ≠ [] → opening h.connection.fsm = false ∧ h.connection.dupacks.toInt < 3
  current : ∀ cwnd ∈ h.windows.head?, h.connection.sndCwnd = cwnd
  slowStart : SlowStart h.connection.sndMss h.windows

theorem Inv.ended (base : Handshake h.connection.fsm h.connection ∧
    (h.connection.fsm = .closed ∨ h.connection.parameters = (.reno, 1024, 128 * 1024)))
    (ended : h.windows = []) : Inv h where
  base
  begun := fun begun => absurd ended begun
  current := by
    rw [ended]
    exact nofun
  slowStart := by
    rw [ended]
    exact True.intro

theorem inv_create : Inv (create .reno) := .ended (handshake_create .reno) rfl

theorem inv_step (inv : Inv h) (few : h.connection.timesOut arrival.2 = true → h.connection.dupacks.toInt < 3)
    (done : h.step arrival = .ok h') : Inv h' := by
  obtain ⟨steps, windows⟩ := step_cases done
  have handled := handle_of_step steps
  have base := handshake_step inv.base steps
  by_cases closed : h'.connection.fsm = .closed
  · rw [if_pos closed] at windows
    exact .ended base windows
  rw [if_neg closed] at windows
  have fixed := inv.base.2.resolve_left (alive_of_handle handled closed)
  have reno : h.connection.tcpAlgorithm = .reno := congrArg (·.1) fixed
  have mss : h'.connection.sndMss = h.connection.sndMss :=
    (congrArg (·.2.1) (base.2.resolve_left closed)).trans (congrArg (·.2.1) fixed).symm
  by_cases out : h.connection.timesOut arrival.2 = true
  · rw [if_pos out] at windows
    obtain ⟨late, cwnd, duplicates⟩ := handle_timesOut inv.base.1 reno out handled closed
    refine ⟨base, fun _ => ⟨late, ?_⟩, ?_, ?_⟩
    · rw [duplicates]
      exact few out
    · rw [windows]
      intro cwnd' first
      exact Option.some.inj first
    · rw [windows, mss]
      exact cwnd
  rw [if_neg out] at windows
  by_cases ended : h.windows = [] ∨ h.connection.ssthresh ≤ h.connection.sndCwnd ∨
      h.connection.dupacks ≠ 3 ∧ h'.connection.dupacks = 3
  · rw [if_pos ended] at windows
    exact .ended base windows
  rw [if_neg ended] at windows
  rw [not_or, not_or, BitVec.not_le] at ended
  obtain ⟨begun, below, noThird⟩ := ended
  obtain ⟨late, few⟩ := inv.begun begun
  have notThird : h.connection.dupacks ≠ 3 := by
    intro third
    rw [third] at few
    exact absurd few (by decide)
  obtain ⟨late', opens⟩ := handle_opens late reno few below out handled closed
  obtain ⟨few', change⟩ := opens.resolve_left fun third => noThird ⟨notThird, third⟩
  rcases change with ⟨una, cwnd⟩ | ⟨una, cwnd⟩
  · rw [if_pos una] at windows
    refine ⟨base, fun _ => ⟨late', few'⟩, ?_, ?_⟩
    · rw [windows, cwnd]
      exact inv.current
    · rw [windows, mss]
      exact inv.slowStart
  · rw [if_neg una] at windows
    refine ⟨base, fun _ => ⟨late', few'⟩, ?_, ?_⟩
    · rw [windows]
      intro cwnd' first
      exact Option.some.inj first
    · rw [windows, mss, cwnd]
      exact inv.slowStart.acknowledged begun inv.current

theorem inv_of_runs {arrivals : List (Nat × TCPInput)}
    (runs : Runs step (fun h arrival => h.connection.timesOut arrival.2 = true →
      h.connection.dupacks.toInt < 3) (create .reno) arrivals h) : Inv h :=
  runs.invariant Inv (fun _ _ _ inv few done => inv_step inv few done) inv_create

/-- If fewer than three duplicates are counted at every time-out, slow start follows: the window is
one MSS, and only an acknowledgement of new data opens it, by at most one MSS. -/
theorem slowStart_of_few_duplicates {arrivals : List (Nat × TCPInput)}
    (runs : Runs step (fun h arrival => h.connection.timesOut arrival.2 = true →
      h.connection.dupacks.toInt < 3) (create .reno) arrivals h) :
    SlowStart h.connection.sndMss h.windows ∧
      ∀ cwnd ∈ h.windows.head?, h.connection.sndCwnd = cwnd :=
  ⟨(inv_of_runs runs).slowStart, (inv_of_runs runs).current⟩

def exampleAck (ackNo : BitVec 32) : TCPSegment :=
  { TCPSegment.create with
    sequenceNo := 501
    ackNo
    ackBit := true
    window := 16384 }

/-- Data are sent, and the only segment that the window allows at first is lost. -/
def exampleLoss (duplicates : Nat) : List (Nat × TCPInput) :=
  [(0, .command (.openActive true)), (1, .segment { exampleSynAck with window := 16384 }),
    (2, .command (.send ⟨"data", 80000⟩))] ++
    List.replicate duplicates (3, .segment (exampleAck 1)) ++
    [(4, .timeout .rexmitTimer), (5, .segment (exampleAck 1025))]

theorem slowStart_example : ∃ h,
    Runs step (fun h arrival => h.connection.timesOut arrival.2 = true →
      h.connection.dupacks.toInt < 3) (create .reno) (exampleLoss 2) h ∧
      h.windows = [2048, 1024] ∧ h.connection.sndCwnd = 2048 := by
  have runs : Runs step (fun h arrival => h.connection.timesOut arrival.2 = true →
      h.connection.dupacks.toInt < 3) (create .reno) (exampleLoss 2) _ :=
    .cons nofun rfl (.cons nofun rfl (.cons nofun rfl (.cons nofun rfl (.cons nofun rfl
      (.cons (fun _ => by decide) rfl (.cons nofun rfl (.nil _)))))))
  exact ⟨_, runs, rfl, (slowStart_of_few_duplicates runs).2 2048 rfl⟩

/-- After six duplicates the window is three MSS as soon as the retransmission is acknowledged. -/
theorem slowStart_skipped :
    ¬ ∀ arrivals h, Runs step (fun _ _ => True) (create .reno) arrivals h →
      SlowStart h.connection.sndMss h.windows ∧
        ∀ cwnd ∈ h.windows.head?, h.connection.sndCwnd = cwnd := by
  intro claim
  have runs : Runs step (fun _ _ => True) (create .reno) (exampleLoss 6) _ :=
    .cons True.intro rfl (.cons True.intro rfl (.cons True.intro rfl (.cons True.intro rfl
      (.cons True.intro rfl (.cons True.intro rfl (.cons True.intro rfl (.cons True.intro rfl
        (.cons True.intro rfl (.cons True.intro rfl (.cons True.intro rfl (.nil _)))))))))))
  have grows := (claim _ _ runs).1.1
  revert grows
  decide

end SlowStartHistory

end TCPConnection

end IPv6Suite
