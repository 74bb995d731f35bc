import IPv6Suite.TCPHandshake

namespace IPv6Suite

open Lib

namespace TCPConnection

variable {c c' : TCPConnection}

/-- The states in which something sent may have to be sent again. -/
def retransmitting : TcpState → Bool
  | .established | .closeWait | .lastAck | .finWait1 | .closing => true
  | _ => false

/-- The timer runs exactly if something sent is unacknowledged. -/
def Timed (c : TCPConnection) : Prop := c.rexmitTimer = true ↔ c.sndUna ≠ c.sndMax

/-- A window after which there is a number left for the FIN and one that is not outstanding. -/
def NarrowWindow (window : BitVec 32) : Prop := window.toNat + 2 < 2 ^ 32

/-- A FIN still has a number. -/
def HasRoom (c : TCPConnection) : Prop := (c.sndMax - c.sndUna).toNat + 1 < 2 ^ 32

theorem Advances.timed (advances : c.Advances c') (narrow : NarrowWindow c.sndWnd)
    (timed : c.Timed) : c'.Timed := by
  have una : c'.sndUna = c.sndUna := (congrArg sndUna advances.same :)
  unfold Timed NarrowWindow at *
  rw [una]
  rcases advances.sent with ⟨max, timer⟩ | ⟨timer, n, some, -, room, max⟩
  · rw [max, timer]
    exact timed
  · rw [max, timer]
    refine ⟨fun _ => ?_, fun _ => rfl⟩
    bv_omega

theorem Advances.hasRoom (advances : c.Advances c') (narrow : NarrowWindow c.sndWnd)
    (room : c.HasRoom) : c'.HasRoom := by
  have una : c'.sndUna = c.sndUna := (congrArg sndUna advances.same :)
  unfold HasRoom NarrowWindow at *
  rw [una]
  rcases advances.sent with ⟨max, -⟩ | ⟨-, n, some, -, near, max⟩
  · rw [max]
    exact room
  · rw [max]
    bv_omega

variable {tcpseg : TCPSegment}

theorem processAckInEstabEtc_timed (narrow : NarrowWindow c.sndWnd) (window : NarrowWindow tcpseg.window) : OnReturn
    (fun r => NarrowWindow r.2.sndWnd ∧ (c.Timed ∨ c.AcksNew tcpseg → r.2.Timed) ∧
      (c.HasRoom ∨ c.AcksNew tcpseg → r.2.HasRoom)) (c.processAckInEstabEtc tcpseg) := by
  unfold processAckInEstabEtc
  refine Ensures.ite (fun old => ?_) fun new => ?_
  · have notNew : ¬ c.AcksNew tcpseg := fun acks => acks.1 old
    refine Ensures.ite (fun duplicate => ?_) fun _ => ?_
    · refine Ensures.bind (TCPAlgorithm.receivedDuplicateAck_returns _) fun c' retransmits => ?_
      have wnd : c'.sndWnd = c.sndWnd := (congrArg sndWnd retransmits.same :)
      have una : c'.sndUna = c.sndUna := (congrArg sndUna retransmits.same :)
      have max : c'.sndMax = c.sndMax := retransmits.sndMax
      refine ⟨wnd ▸ narrow, fun timed => ?_, fun room => ?_⟩
      · have running := (timed.resolve_right notNew).mpr duplicate.2.2
        have runs : c'.rexmitTimer = true := retransmits.rexmitTimer.elim (·.trans running) id
        unfold Timed
        rw [una, max]
        exact ⟨fun _ => duplicate.2.2, fun _ => runs⟩
      · have kept := room.resolve_right notNew
        unfold HasRoom at *
        rw [una, max]
        exact kept
    · exact ⟨narrow, fun timed => timed.resolve_right notNew, fun room => room.resolve_right notNew⟩
  · refine Ensures.ite (fun sent => ?_) fun unsent => ?_
    · refine Ensures.bind (acceptAck_returns c tcpseg) ?_
      rintro c₁ ⟨-, una, max, wnd⟩
      refine Ensures.bind (TCPAlgorithm.receivedDataAck_returns c₁) fun c₂ advances => ?_
      have wide : NarrowWindow c₁.sndWnd := by
        rcases wnd with same | updated
        · exact same ▸ narrow
        · exact updated ▸ window
      have room : c₁.HasRoom := by
        unfold seqLE at sent
        unfold HasRoom
        rw [una, max]
        omega
      have wnd' : c₂.sndWnd = c₁.sndWnd := advances.window
      have notified : { c₁ with rexmitTimer := decide (c₁.sndUna ≠ c₁.sndMax) }.Timed := by
        unfold Timed
        rw [decide_eq_true_iff]
      exact ⟨wnd' ▸ wide, fun _ => advances.timed wide notified, fun _ => advances.hasRoom wide room⟩
    · have notNew : ¬ c.AcksNew tcpseg := fun acks => unsent acks.2
      refine Ensures.bind Ensures.trivial fun _ _ => ?_
      exact ⟨narrow, fun timed => timed.resolve_right notNew, fun room => room.resolve_right notNew⟩

/-- What holds in every state, of the connection and the state that it is in. -/
structure RexmitInv (fsm : TcpState) (c : TCPConnection) : Prop where
  narrow : fsm ≠ .closed → NarrowWindow c.sndWnd
  timed : retransmitting fsm = true → c.Timed
  hasRoom : fsm = .established ∨ fsm = .closeWait → c.HasRoom

theorem RexmitInv.closed (c : TCPConnection) : RexmitInv .closed c :=
  ⟨fun open' => absurd rfl open', nofun, by rintro (h | h) <;> cases h⟩

/-- What the invariant is about -/
def rexmitVars (c : TCPConnection) : Bool × BitVec 32 × BitVec 32 × BitVec 32 :=
  (c.rexmitTimer, c.sndUna, c.sndMax, c.sndWnd)

theorem Timed.of_same (timed : c.Timed) (same : c'.rexmitVars = c.rexmitVars) : c'.Timed := by
  unfold rexmitVars at same
  simp only [Prod.mk.injEq] at same
  obtain ⟨timer, una, max, -⟩ := same
  unfold Timed at *
  rw [timer, una, max]
  exact timed

theorem HasRoom.of_same (room : c.HasRoom) (same : c'.rexmitVars = c.rexmitVars) : c'.HasRoom := by
  unfold rexmitVars at same
  simp only [Prod.mk.injEq] at same
  obtain ⟨-, una, max, -⟩ := same
  unfold HasRoom at *
  rw [una, max]
  exact room

theorem RexmitInv.of_same {fsm : TcpState} (inv : RexmitInv fsm c)
    (same : c'.rexmitVars = c.rexmitVars) : RexmitInv fsm c' where
  narrow := fun open' => by
    have wnd : c'.sndWnd = c.sndWnd := congrArg (·.2.2.2) same
    exact wnd ▸ inv.narrow open'
  timed := fun waits => (inv.timed waits).of_same same
  hasRoom := fun open' => (inv.hasRoom open').of_same same

variable {event : TCPEventCode}

theorem retransmitting_transition {active : Bool} {fsm next : TcpState}
    (past : opening fsm = false) (enters : transition active fsm event = some next) :
    (retransmitting next = true → retransmitting fsm = true) ∧
      (next = .established ∨ next = .closeWait → fsm = .established ∨ fsm = .closeWait) := by
  cases fsm <;> cases event <;>
    first | (cases enters; done) | (cases past; done) | (cases enters; simp [retransmitting])

theorem RexmitInv.next (inv : RexmitInv c.fsm c) (past : opening c.fsm = false) (alive : c.fsm ≠ .closed) :
    RexmitInv (c.nextState event) c := by
  unfold nextState
  split
  · exact inv
  · cases enters : transition c.active c.fsm event with
    | none => exact inv
    | some next =>
        obtain ⟨waits, open'⟩ := retransmitting_transition past enters
        exact ⟨fun _ => inv.narrow alive, fun waiting => inv.timed (waits waiting),
          fun opened => inv.hasRoom (open' opened)⟩

theorem RexmitInv.of_quiet {fsm : TcpState} (quiet : retransmitting fsm = false)
    (narrow : NarrowWindow c.sndWnd) : RexmitInv fsm c := by
  refine ⟨fun _ => narrow, fun waits => absurd (quiet.symm.trans waits) Bool.noConfusion, ?_⟩
  rintro (open' | open')
  all_goals
    rw [open'] at quiet
    cases quiet

variable {r : TCPEventCode × TCPConnection}

theorem SegmentReaction.rexmitInv (reaction : c.SegmentReaction tcpseg r) (inv : RexmitInv c.fsm c)
    (past : opening c.fsm = false) (alive : c.fsm ≠ .closed)
    (window : NarrowWindow tcpseg.window) : RexmitInv c.fsm r.2 := by
  have synRcvd : c.fsm ≠ .synRcvd := by
    intro waits
    rw [waits] at past
    cases past
  have acked : OnReturn (fun check => RexmitInv c.fsm check.connection) (c.processAck tcpseg) := by
    refine processAck_keeps synRcvd True.intro
      (fun inv same _ => inv.of_same (congrArg rexmitVars same :)) (fun _ => inv) fun _ => ?_
    refine (processAckInEstabEtc_timed (inv.narrow alive) window).imp ?_
    rintro r ⟨narrow, timed, room⟩
    exact ⟨fun _ => narrow, fun waits => timed (Or.inl (inv.timed waits)),
      fun open' => room (Or.inl (inv.hasRoom open'))⟩
  cases reaction with
  | refused same => exact inv.of_same (congrArg rexmitVars same :)
  | reset reset =>
      obtain ⟨-, sendQueue, toAppl, same⟩ := c.processRst_returns.of_ok reset
      rw [same]
      exact inv.of_same rfl
  | unexpected => exact inv.of_same rfl
  | drops _ checked => exact acked.of_ok checked
  | proceeds _ checked processed =>
      have text := ((processTextAndFin_returns _ tcpseg _ _).of_ok processed).1
      exact (acked.of_ok checked).of_same (congrArg rexmitVars text :)

theorem processAck_timed (waits : c.fsm = .synRcvd)
    (outstanding : c.SynOutstanding) (narrow : NarrowWindow c.sndWnd)
    (window : NarrowWindow tcpseg.window) (other : tcpseg.ackNo ≠ c.iss) : OnReturn
    (fun check => match check with
      | .drop _ _ => True
      | .proceed _ c' => NarrowWindow c'.sndWnd ∧ c'.Timed ∧ c'.HasRoom)
    (c.processAck tcpseg) := by
  unfold processAck
  rw [waits]
  refine Ensures.ite (fun _ => True.intro) fun acks => ?_
  rw [not_or, not_not, not_not] at acks
  have new : c.AcksNew tcpseg := outstanding.acksNew (outstanding.ackNo acks.1 acks.2 other)
  refine Ensures.ok_bind (Ensures.bind (processAckInEstabEtc_timed narrow window) ?_)
  rintro ⟨ok, c'⟩ ⟨narrow', timed, room⟩
  rw [Ensures.pure_iff]
  cases ok with
  | true => exact ⟨narrow', timed (Or.inr new), room (Or.inr new)⟩
  | false => exact True.intro

theorem SegmentReaction.rexmitInv_synRcvd (reaction : c.SegmentReaction tcpseg r) (waits : c.fsm = .synRcvd)
    (outstanding : c.SynOutstanding) (narrow : NarrowWindow c.sndWnd)
    (window : NarrowWindow tcpseg.window) (other : c.Passes tcpseg → tcpseg.ackNo ≠ c.iss) :
    RexmitInv (r.2.nextState r.1) r.2 := by
  have fsm := reaction.fsm.trans waits
  cases reaction with
  | refused same =>
      have kept : _ = c.sndWnd := (congrArg sndWnd same :)
      exact at_nextState RexmitInv fsm rfl (.of_quiet rfl (kept ▸ narrow))
  | reset reset =>
      obtain ⟨event, sendQueue, toAppl, same⟩ := c.processRst_returns.of_ok reset
      have kept : NarrowWindow r.2.sndWnd := by
        rw [same]
        exact narrow
      rw [event]
      refine at_nextState RexmitInv fsm rfl ?_
      cases r.2.active with
      | true => exact .closed _
      | false => exact .of_quiet rfl kept
  | unexpected => exact at_nextState RexmitInv fsm rfl (.closed _)
  | drops _ checked =>
      obtain ⟨rfl, same, -⟩ := (processAck_synRcvd waits tcpseg).of_ok checked
      have kept : _ = c.sndWnd := (congrArg sndWnd same :)
      exact at_nextState RexmitInv fsm rfl (.of_quiet rfl (kept ▸ narrow))
  | proceeds passes checked processed =>
      obtain ⟨narrow', timed, room⟩ :=
        (processAck_timed waits outstanding narrow window (other passes)).of_ok checked
      have text := ((processTextAndFin_returns _ tcpseg _ _).of_ok processed).1
      have inv : RexmitInv (r.2.nextState r.1) _ := ⟨fun _ => narrow', fun _ => timed, fun _ => room⟩
      exact inv.of_same (congrArg rexmitVars text :)

/-- When the timer is kept in step: no FIN is sent by a CLOSE while nothing is unacknowledged or in
SYN_RCVD, and no ACK of the number of the SYN gets through in SYN_RCVD. -/
def StartsTimer (c : TCPConnection) : TCPInput → Prop
  | .command .close =>
      c.fsm ≠ .synRcvd ∧
        (c.fsm = .established ∨ c.fsm = .closeWait → c.sndMax = c.sendQueue.bufferEndSeq →
          c.sndUna ≠ c.sndMax)
  | .segment tcpseg =>
      NarrowWindow tcpseg.window ∧ (c.fsm = .synRcvd → c.Passes tcpseg → tcpseg.ackNo ≠ c.iss)
  | _ => True

theorem rexmitVars_closing (c : TCPConnection) :
    c.sendFinNow.queueFin.rexmitVars = (c.rexmitTimer, c.sndUna, c.sndMax + 1, c.sndWnd) := by
  simp only [rexmitVars, queueFin, sendFinNow, sendFinSegment, TCPBaseAlg.ackSent, sendToIP]

theorem closing_timed (timed : c.Timed) (room : c.HasRoom) (unacked : c.sndUna ≠ c.sndMax) :
    c.sendFinNow.queueFin.Timed := by
  have running := timed.mpr unacked
  have vars := c.rexmitVars_closing
  unfold rexmitVars at vars
  simp only [Prod.mk.injEq] at vars
  obtain ⟨timer, una, max, -⟩ := vars
  unfold HasRoom at room
  unfold Timed
  rw [timer, una, max]
  refine ⟨fun _ => ?_, fun _ => running⟩
  bv_omega

/-- In the states that a CLOSE leads to no number has to be left for a FIN. -/
theorem RexmitInv.of_closing {fsm next : TcpState} (at' : c.fsm = fsm)
    (enters : (if event = .ignore then fsm else (transition c.active fsm event).getD fsm) = next)
    (narrow : NarrowWindow c.sndWnd) (timed : c.Timed) (past : next ≠ .established ∧ next ≠ .closeWait) :
    RexmitInv (c.nextState event) c := by
  apply at_nextState RexmitInv at' enters
  refine ⟨fun _ => narrow, fun _ => timed, ?_⟩
  rintro (open' | waits)
  · exact absurd open' past.1
  · exact absurd waits past.2

variable {input : TCPInput}

theorem LateReaction.rexmitInv
    (reaction : c.LateReaction input r) (inv : RexmitInv c.fsm c) (past : opening c.fsm = false)
    (alive : c.fsm ≠ .closed) (starts : c.StartsTimer input) : RexmitInv (r.2.nextState r.1) r.2 := by
  have fsm := reaction.fsm
  have stays (kept : RexmitInv c.fsm r.2) : RexmitInv (r.2.nextState r.1) r.2 := by
    rw [← fsm] at kept past alive
    exact kept.next past alive
  cases reaction with
  | sends open' sent =>
      have advances := (TCPBaseAlg.sendCommandInvoked_returns _).of_ok sent
      have narrow := inv.narrow alive
      have wnd : _ = c.sndWnd := advances.window
      refine stays ⟨fun _ => wnd ▸ narrow, fun waits => ?_, fun opened => ?_⟩
      · exact advances.timed narrow (inv.timed waits)
      · exact advances.hasRoom narrow (inv.hasRoom opened)
  | closes open' closes =>
      rcases processClose_cases (Or.inr open') closes with ⟨sent, rfl⟩ | ⟨-, rfl⟩
      · have timed := inv.timed (by rcases open' with opened | opened <;> rw [opened] <;> rfl)
        have sends := closing_timed timed (inv.hasRoom open') (starts.2 open' sent)
        have stayed := c.fsm_closing
        have wnd := congrArg (·.2.2.2) c.rexmitVars_closing
        dsimp only [rexmitVars] at wnd ⊢
        generalize c.sendFinNow.queueFin = closing at sends stayed wnd
        have narrow : NarrowWindow closing.sndWnd := wnd ▸ inv.narrow alive
        rcases open' with established | closeWait
        · exact .of_closing (stayed.trans established) rfl narrow sends ⟨nofun, nofun⟩
        · exact .of_closing (stayed.trans closeWait) rfl narrow sends ⟨nofun, nofun⟩
      · exact stays (inv.of_same rfl)
  | quiet same => exact stays (inv.of_same (congrArg rexmitVars same :))
  | segment reaction => exact stays (reaction.rexmitInv inv past alive starts.1)
  | rexmit scheduled expires =>
      obtain ⟨same, max, event⟩ := (TCPAlgorithm.processRexmitTimer_returns _).of_ok expires
      have wnd : r.2.sndWnd = c.sndWnd := (congrArg sndWnd same :)
      have una : r.2.sndUna = c.sndUna := (congrArg sndUna same :)
      have max' : r.2.sndMax = c.sndMax := max
      rcases event with abort | ⟨-, again⟩
      · rw [abort, nextState_abort (fsm.symm ▸ past) (fsm.symm ▸ alive)]
        exact .closed _
      · refine stays ⟨fun _ => wnd ▸ inv.narrow alive, fun waits => ?_, fun opened => ?_⟩
        · have unacked := (inv.timed waits).mp scheduled
          unfold Timed
          rw [una, max']
          exact ⟨fun _ => unacked, fun _ => again⟩
        · have room := inv.hasRoom opened
          unfold HasRoom at *
          rw [una, max']
          exact room

theorem timed_of_synAck {sendQueue : TCPVirtualDataSendQueue}
    (outstanding : c.SynOutstanding) (ackNo : tcpseg.ackNo = c.iss + 1) :
    (c.withSynAckReceived tcpseg sendQueue).Timed ∧ (c.withSynAckReceived tcpseg sendQueue).HasRoom ∧
      (c.withSynAckReceived tcpseg sendQueue).sndWnd = tcpseg.window := by
  have vars : (c.withSynAckReceived tcpseg sendQueue).rexmitVars =
      (false, c.iss + 1, c.iss + 1, tcpseg.window) := by
    unfold rexmitVars withSynAckReceived
    rw [← ackNo, ← outstanding.rexmitTimer]
    dsimp only
    split
    · exact congrArg (fun max => (c.rexmitTimer, tcpseg.ackNo, max, tcpseg.window))
        (outstanding.sndMax.trans ackNo.symm)
    · exact congrArg (fun max => (c.rexmitTimer, tcpseg.ackNo, max, tcpseg.window))
        (outstanding.sndMax.trans ackNo.symm)
  unfold rexmitVars at vars
  simp only [Prod.mk.injEq] at vars
  obtain ⟨timer, una, max, wnd⟩ := vars
  refine ⟨?_, ?_, wnd⟩
  · unfold Timed
    rw [timer, una, max]
    exact ⟨nofun, fun differ => absurd rfl differ⟩
  · unfold HasRoom
    rw [una, max, BitVec.sub_self]
    decide

theorem EarlyReaction.rexmitInv
    (reaction : c.EarlyReaction input r) (handshake : Handshake c.fsm c) (inv : RexmitInv c.fsm c)
    (early : opening c.fsm = true) (starts : c.StartsTimer input) : RexmitInv (r.2.nextState r.1) r.2 := by
  have narrow : NarrowWindow c.sndWnd := inv.narrow fun closed => by
    rw [closed] at early
    cases early
  cases reaction with
  | @quiet _ _ c' same next =>
      have kept : RexmitInv c.fsm c' := inv.of_same (congrArg rexmitVars same :)
      rcases next with stays | closed | ⟨-, listens⟩
      · rw [stays]
        exact kept
      · rw [closed]
        exact .closed _
      · have wnd : _ = c.sndWnd := (congrArg sndWnd same :)
        rw [listens]
        exact .of_quiet rfl (wnd ▸ narrow)
  | listens new =>
      rcases new with new | listens
      · exact at_nextState RexmitInv new rfl (.of_quiet rfl narrow)
      · exact at_nextState RexmitInv listens rfl (.of_quiet rfl narrow)
  | opens new =>
      rcases new with new | listens
      · exact at_nextState RexmitInv new rfl (.of_quiet rfl narrow)
      · exact at_nextState RexmitInv listens rfl (.of_quiet rfl narrow)
  | opensToSend listens => exact at_nextState RexmitInv listens rfl (.of_quiet rfl narrow)
  | enqueues waits =>
      rcases waits with waits | waits
      · exact at_nextState RexmitInv waits rfl (.of_quiet rfl narrow)
      · exact at_nextState RexmitInv waits rfl (.of_quiet rfl narrow)
  | closes waits => exact absurd waits starts.1
  | syn listens => exact at_nextState RexmitInv listens rfl (.of_quiet rfl starts.1)
  | synSent waits reaction =>
      rw [waits] at handshake
      cases reaction with
      | ignores same =>
          have fsm : _ = c.fsm := (congrArg TCPConnection.fsm same :)
          have wnd := (congrArg sndWnd same :)
          exact at_nextState RexmitInv (fsm.trans waits) rfl (.of_quiet rfl (wnd ▸ narrow))
      | resets => exact at_nextState RexmitInv waits rfl (.closed _)
      | establishes acks synAck discarded notified =>
          have advances := (TCPBaseAlg.established_returns _ _).of_ok notified
          obtain ⟨timed, room, wnd⟩ := timed_of_synAck handshake (acks.ackNo handshake.sndNxt)
          have wide := wnd.symm ▸ starts.1
          refine ⟨fun _ => ?_, fun _ => advances.timed wide timed, fun _ => advances.hasRoom wide room⟩
          dsimp only
          rw [advances.window]
          exact wide
      | crosses => exact at_nextState RexmitInv waits rfl (.of_quiet rfl narrow)
  | synRcvd waits reaction =>
      rw [waits] at handshake
      exact reaction.rexmitInv_synRcvd waits handshake narrow starts.1 (starts.2 waits)

theorem StartsTimer.atTime (starts : c.StartsTimer input) (simTime : Nat) :
    (c.atTime simTime).StartsTimer input := by
  cases input with
  | command cmd => cases cmd <;> exact starts
  | segment tcpseg =>
      refine ⟨starts.1, fun waits passes => starts.2 waits ?_⟩
      exact ⟨passes.acceptable, passes.plain, passes.synBit, passes.ackBit⟩
  | timeout timer => exact True.intro

theorem handle_rexmitInv (handshake : Handshake c.fsm c) (inv : RexmitInv c.fsm c)
    {simTime : Nat} (starts : c.StartsTimer input)
    (done : c.handle simTime input = .ok c') : RexmitInv c'.fsm c' := by
  refine handle_keeps RexmitInv RexmitInv.closed
    (fun same inv => inv.of_same (congrArg rexmitVars same :)) (fun alive => ?_) inv done
  have now : RexmitInv (c.atTime simTime).fsm (c.atTime simTime) := inv.of_same rfl
  cases early : opening c.fsm with
  | true =>
      have handshake' : Handshake (c.atTime simTime).fsm (c.atTime simTime) := handshake.of_same rfl
      exact OnReturn.of_ensures ((processInput_early handshake' early input).imp fun r reaction =>
        reaction.rexmitInv handshake' now early (starts.atTime simTime))
  | false =>
      exact OnReturn.of_ensures ((processInput_late (c := c.atTime simTime) early alive input).imp
        fun r reaction => reaction.rexmitInv now early alive (starts.atTime simTime))

theorem handle_close {simTime : Nat} (open' : c.fsm = .synRcvd ∨ c.fsm = .established ∨ c.fsm = .closeWait)
    (processed : (c.atTime simTime).processClose = .ok (.close, c')) (fsm : c'.fsm = c.fsm) :
    ∃ c'', c.handle simTime (.command .close) = .ok c'' ∧ retransmitting c''.fsm = true ∧
      c''.rexmitVars = c'.rexmitVars := by
  have alive : c.fsm ≠ .closed := by rcases open' with fsm | fsm | fsm <;> rw [fsm] <;> decide
  have handled : c.handle simTime (.command .close) = c'.performStateTransition .close := by
    unfold handle
    rw [if_neg alive]
    change ((c.atTime simTime).processClose >>= _) = _
    rw [processed]
    rfl
  rw [handled]
  unfold performStateTransition
  rw [nextState_eq fsm]
  rcases open' with waits | waits | waits
  all_goals
    rw [fsm, waits]
    exact ⟨_, rfl, rfl, rfl⟩

theorem closes_of_fails (fails : ¬ c.StartsTimer (.command .close)) :
    c.fsm = .synRcvd ∨ (c.fsm = .established ∨ c.fsm = .closeWait) ∧
      c.sndMax = c.sendQueue.endSeq ∧ c.sndUna = c.sndMax := by
  unfold StartsTimer at fails
  dsimp only at fails
  rw [not_and_or, not_not, Classical.not_imp, Classical.not_imp, not_not] at fails
  exact fails

theorem processClose_untimed (handshake : Handshake c.fsm c) (inv : RexmitInv c.fsm c)
    (fails : ¬ c.StartsTimer (.command .close)) :
    ∃ c', c.processClose = .ok (.close, c') ∧ c'.fsm = c.fsm ∧ c'.rexmitTimer = false ∧ c'.sndUna ≠ c'.sndMax := by
  have vars := c.rexmitVars_closing
  unfold rexmitVars at vars
  simp only [Prod.mk.injEq] at vars
  obtain ⟨timer', una', max', -⟩ := vars
  rcases closes_of_fails fails with waits | ⟨open', sent, acked⟩
  · rw [waits] at handshake
    have timer : c.rexmitTimer = false := SynOutstanding.rexmitTimer handshake
    have una : c.sndUna = c.iss := handshake.sndUna
    have max : c.sndMax = c.iss + 1 := handshake.sndMax
    rw [processClose_eq (Or.inl waits)]
    by_cases sent : c.sndMax = c.sendQueue.endSeq
    · rw [if_pos sent]
      refine ⟨_, rfl, c.fsm_closing, timer'.trans timer, ?_⟩
      rw [una', max', una, max]
      bv_omega
    · rw [if_neg sent, waits]
      refine ⟨_, rfl, waits, timer, ?_⟩
      change c.sndUna ≠ c.sndMax
      rw [una, max]
      bv_omega
  · have waits : retransmitting c.fsm = true := by
      rcases open' with fsm | fsm <;> rw [fsm] <;> rfl
    have timer : c.rexmitTimer = false :=
      Bool.eq_false_iff.mpr fun running => (inv.timed waits).mp running acked
    rw [processClose_eq (Or.inr open'), if_pos sent]
    refine ⟨_, rfl, c.fsm_closing, timer'.trans timer, ?_⟩
    rw [una', max', acked]
    bv_omega

theorem not_timed_of_close (handshake : Handshake c.fsm c) (inv : RexmitInv c.fsm c)
    (fails : ¬ c.StartsTimer (.command .close)) (simTime : Nat) :
    ∃ c', c.handle simTime (.command .close) = .ok c' ∧ retransmitting c'.fsm = true ∧
      c'.rexmitTimer = false ∧ c'.sndUna ≠ c'.sndMax := by
  have handshake' : Handshake (c.atTime simTime).fsm (c.atTime simTime) := handshake.of_same rfl
  have inv' : RexmitInv (c.atTime simTime).fsm (c.atTime simTime) := inv.of_same rfl
  obtain ⟨c₁, closes, fsm, off, unacked⟩ := processClose_untimed handshake' inv' fails
  have open' := (closes_of_fails fails).imp_right And.left
  obtain ⟨c', handled, waits, same⟩ := handle_close open' closes fsm
  unfold rexmitVars at same
  simp only [Prod.mk.injEq] at same
  obtain ⟨timer, una, max, -⟩ := same
  rw [← una, ← max] at unacked
  exact ⟨c', handled, waits, timer.trans off, unacked⟩

theorem rexmitInv_of_runs {tcpAlgorithm : TCPAlgorithm} {arrivals : List (Nat × TCPInput)}
    (runs : Runs step (fun c arrival => c.StartsTimer arrival.2) (create tcpAlgorithm) arrivals c) :
    Handshake c.fsm c ∧ RexmitInv c.fsm c := by
  have idle : Handshake (create tcpAlgorithm).fsm (create tcpAlgorithm) :=
    show (create tcpAlgorithm).rexmitTimer = false from rfl
  have start : RexmitInv (create tcpAlgorithm).fsm (create tcpAlgorithm) :=
    .of_quiet rfl (show NarrowWindow 0 by unfold NarrowWindow; decide)
  refine runs.invariant (fun c => Handshake c.fsm c ∧ RexmitInv c.fsm c) ?_ ⟨idle, start⟩
  rintro c arrival c' ⟨handshake, inv⟩ starts steps
  have done := handle_of_step steps
  exact ⟨handle_handshake handshake done, handle_rexmitInv handshake inv starts done⟩

/-- In every run whose steps keep the timer in step, it runs exactly if something sent is
unacknowledged, in each of the states in which data or a FIN may have to be sent again; a CLOSE
that does not meet the condition ends in a state in which it does not run. -/
theorem timed_of_startsTimer {tcpAlgorithm : TCPAlgorithm} {arrivals : List (Nat × TCPInput)}
    (runs : Runs step (fun c arrival => c.StartsTimer arrival.2) (create tcpAlgorithm) arrivals c) :
    (retransmitting c.fsm = true → (c.rexmitTimer = true ↔ c.sndUna ≠ c.sndMax)) ∧
      (¬ c.StartsTimer (.command .close) → ∀ simTime, ∃ c', c.handle simTime (.command .close) =
        .ok c' ∧ retransmitting c'.fsm = true ∧ c'.rexmitTimer = false ∧ c'.sndUna ≠ c'.sndMax) := by
  obtain ⟨handshake, inv⟩ := rexmitInv_of_runs runs
  refine ⟨inv.timed, fun fails simTime => ?_⟩
  exact not_timed_of_close handshake inv fails simTime

theorem timed_example : ∃ c, Runs step (fun c arrival => c.StartsTimer arrival.2) (create .reno)
    [(0, .command (.openActive true)), (1, .segment exampleSynAck),
      (2, .command (.send ⟨"data", 800⟩)), (3, .command .close)] c ∧
    c.fsm = .finWait1 ∧ (c.rexmitTimer = true ↔ c.sndUna ≠ c.sndMax) := by
  have runs : Runs step (fun c arrival => c.StartsTimer arrival.2) (create .reno)
      [(0, .command (.openActive true)), (1, .segment exampleSynAck),
        (2, .command (.send ⟨"data", 800⟩)), (3, .command .close)] _ :=
    .cons True.intro rfl (.cons ⟨by unfold NarrowWindow; decide, nofun⟩ rfl
      (.cons True.intro rfl (.cons ⟨by decide, by decide⟩ rfl (.nil _))))
  exact ⟨_, runs, rfl, (timed_of_startsTimer runs).1 rfl⟩

/-- The FIN of a CLOSE after which nothing is retransmitted -/
theorem fin_sent_without_timer :
    ¬ ∀ tcpAlgorithm arrivals c,
      Runs step (fun _ _ => True) (create tcpAlgorithm) arrivals c → retransmitting c.fsm = true →
        (c.rexmitTimer = true ↔ c.sndUna ≠ c.sndMax) := by
  intro claim
  have runs : Runs step (fun _ _ => True) (create .reno)
      [(0, .command (.openActive true)), (1, .segment exampleSynAck), (2, .command .close)] _ :=
    .cons True.intro rfl (.cons True.intro rfl (.cons True.intro rfl (.nil _)))
  have running := (claim _ _ _ runs rfl).mpr (by decide)
  cases running

end TCPConnection

end IPv6Suite
