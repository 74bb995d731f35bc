import IPv6Suite.TCPHandshake

namespace IPv6Suite

open Lib

/-- What the send window is taken from -/
def TCPSegment.windowVars (tcpseg : TCPSegment) : BitVec 32 × BitVec 32 × BitVec 32 :=
  (tcpseg.sequenceNo, tcpseg.ackNo, tcpseg.window)

/-- A segment that was not sent before `tcpseg`, as far as its numbers tell. -/
def TCPSegment.Follows (tcpseg' tcpseg : TCPSegment) : Prop :=
  seqLE tcpseg.sequenceNo tcpseg'.sequenceNo ∧ seqLE tcpseg.ackNo tcpseg'.ackNo

namespace TCPConnection

variable {c c' : TCPConnection}

def windowVars (c : TCPConnection) : BitVec 32 × BitVec 32 × BitVec 32 :=
  (c.sndWl1, c.sndWl2, c.sndWnd)

/-- The test that `acceptAck` makes -/
def TakesWindow (c : TCPConnection) (tcpseg : TCPSegment) : Prop :=
  seqLess c.sndWl1 tcpseg.sequenceNo ∨
    c.sndWl1 = tcpseg.sequenceNo ∧ seqLE c.sndWl2 tcpseg.ackNo

theorem TakesWindow.of_follows {tcpseg tcpseg' : TCPSegment} (taken : c.windowVars = tcpseg.windowVars)
    (follows : tcpseg'.Follows tcpseg) : c.TakesWindow tcpseg' := by
  unfold windowVars TCPSegment.windowVars at taken
  simp only [Prod.mk.injEq] at taken
  obtain ⟨wl1, wl2, -⟩ := taken
  unfold TakesWindow
  rw [wl1, wl2]
  by_cases same : tcpseg.sequenceNo = tcpseg'.sequenceNo
  · exact Or.inr ⟨same, follows.2⟩
  · exact Or.inl ⟨same, follows.1⟩

theorem acceptAck_window (c : TCPConnection) (tcpseg : TCPSegment) : OnReturn
    (fun c' => (c'.windowVars = c.windowVars ∨ c'.windowVars = tcpseg.windowVars) ∧
      (c.TakesWindow tcpseg → c'.windowVars = tcpseg.windowVars)) (c.acceptAck tcpseg) := by
  unfold acceptAck
  refine Ensures.bind Ensures.trivial fun sendQueue _ => ?_
  rw [Ensures.pure_iff]
  unfold TakesWindow
  split
  all_goals
    split
    · exact ⟨Or.inr rfl, fun _ => rfl⟩
    · rename_i refused
      exact ⟨Or.inl rfl, fun takes => absurd takes refused⟩

theorem processAckInEstabEtc_window (c : TCPConnection) (tcpseg : TCPSegment) : OnReturn
    (fun r => (r.2.windowVars = c.windowVars ∨ r.2.windowVars = tcpseg.windowVars) ∧
      (c.AcksNew tcpseg → c.TakesWindow tcpseg → r.2.windowVars = tcpseg.windowVars))
    (c.processAckInEstabEtc tcpseg) := by
  unfold processAckInEstabEtc
  refine Ensures.ite (fun old => ?_) fun _ => ?_
  · refine Ensures.ite (fun _ => ?_) fun _ => ⟨Or.inl rfl, fun new => absurd old new.1⟩
    refine Ensures.bind (TCPAlgorithm.receivedDuplicateAck_returns _) fun c' retransmits => ?_
    exact ⟨Or.inl (congrArg windowVars retransmits.same :), fun new => absurd old new.1⟩
  · refine Ensures.ite (fun _ => ?_) fun beyond => ?_
    · refine Ensures.bind (acceptAck_window c tcpseg) fun c₁ accepted => ?_
      refine Ensures.bind (TCPAlgorithm.receivedDataAck_returns c₁) fun c₂ advances => ?_
      have kept : c₂.windowVars = c₁.windowVars := (congrArg windowVars advances.same :)
      change (c₂.windowVars = _ ∨ c₂.windowVars = _) ∧ (_ → _ → c₂.windowVars = _)
      rw [kept]
      exact ⟨accepted.1, fun _ => accepted.2⟩
    · refine Ensures.bind Ensures.trivial fun _ _ => ?_
      exact ⟨Or.inl rfl, fun new => absurd new.2 beyond⟩

variable {tcpseg : TCPSegment}

theorem processAck_window (past : c.fsm ≠ .synRcvd) : OnReturn
    (fun check => (check.connection.windowVars = c.windowVars ∨ check.connection.windowVars = tcpseg.windowVars) ∧
      (checksAck c.fsm = true → c.AcksNew tcpseg → c.TakesWindow tcpseg →
        check.connection.windowVars = tcpseg.windowVars)) (c.processAck tcpseg) := by
  refine @processAck_keeps c _ (fun c' => (c'.windowVars = c.windowVars ∨
      c'.windowVars = tcpseg.windowVars) ∧ (checksAck c.fsm = true → c.AcksNew tcpseg →
        c.TakesWindow tcpseg → c'.windowVars = tcpseg.windowVars)) tcpseg past True.intro ?_ ?_ ?_
  · intro c₁ c₂ kept same _
    have window : c₂.windowVars = c₁.windowVars := (congrArg windowVars same :)
    rw [window]
    exact kept
  · intro unchecked
    exact ⟨Or.inl rfl, fun checks => absurd (checks.symm.trans unchecked) Bool.noConfusion⟩
  · intro _
    exact (c.processAckInEstabEtc_window tcpseg).imp fun r window => ⟨window.1, fun _ => window.2⟩

theorem processAck_synRcvd_window (waits : c.fsm = .synRcvd)
    (outstanding : c.SynOutstanding)
    (takes : seqLE c.sndUna tcpseg.ackNo → seqLE tcpseg.ackNo c.sndNxt →
      tcpseg.ackNo ≠ c.iss ∧ c.TakesWindow tcpseg) :
    OnReturn (fun check => match check with
        | .drop _ _ => True
        | .proceed _ c' => c'.windowVars = tcpseg.windowVars)
      (c.processAck tcpseg) := by
  unfold processAck
  rw [waits]
  refine Ensures.ite (fun _ => True.intro) fun acceptable => ?_
  rw [not_or, not_not, not_not] at acceptable
  obtain ⟨other, takes⟩ := takes acceptable.1 acceptable.2
  have new := outstanding.acksNew (outstanding.ackNo acceptable.1 acceptable.2 other)
  refine Ensures.ok_bind ?_
  refine Ensures.bind (processAckInEstabEtc_window { c with sndCwnd := c.sndMss } tcpseg)
    fun r window => ?_
  rw [Ensures.pure_iff]
  cases r.1 with
  | true => exact window.2 new takes
  | false => exact True.intro

variable {r : TCPEventCode × TCPConnection}

theorem SegmentReaction.window (reaction : c.SegmentReaction tcpseg r) (past : c.fsm ≠ .synRcvd) :
    r.2.windowVars = c.windowVars ∨ r.2.windowVars = tcpseg.windowVars := by
  cases reaction with
  | refused same => exact Or.inl (congrArg windowVars same :)
  | reset reset =>
      obtain ⟨-, sendQueue, toAppl, same⟩ := c.processRst_returns.of_ok reset
      rw [same]
      exact Or.inl rfl
  | unexpected => exact Or.inl rfl
  | drops _ checked => exact ((processAck_window past).of_ok checked).1
  | proceeds _ checked processed =>
      have text := ((processTextAndFin_returns _ tcpseg _ _).of_ok processed).1
      have kept := (congrArg windowVars text :)
      have acked := ((processAck_window past).of_ok checked).1
      change r.2.windowVars = _ at kept
      rw [kept]
      exact acked

theorem processClose_window (open' : c.fsm = .synRcvd ∨ c.fsm = .established ∨ c.fsm = .closeWait)
    (closes : c.processClose = .ok r) : r.2.windowVars = c.windowVars := by
  rcases processClose_cases open' closes with ⟨-, rfl⟩ | ⟨-, rfl⟩
  · simp only [windowVars, queueFin, sendFinNow, sendFinSegment, TCPBaseAlg.ackSent, sendToIP]
  · simp only [windowVars, queueFin]

variable {input : TCPInput}

theorem LateReaction.window (reaction : c.LateReaction input r) (past : opening c.fsm = false) :
    r.2.windowVars = c.windowVars ∨ ∃ tcpseg, input = .segment tcpseg ∧ r.2.windowVars = tcpseg.windowVars := by
  cases reaction with
  | sends _ sent =>
      have advances := (TCPBaseAlg.sendCommandInvoked_returns _).of_ok sent
      exact Or.inl (congrArg windowVars advances.same :)
  | closes open' closes => exact Or.inl (processClose_window (Or.inr open') closes)
  | quiet same => exact Or.inl (congrArg windowVars same :)
  | segment reaction =>
      have synRcvd : c.fsm ≠ .synRcvd := by
        intro waits
        rw [waits] at past
        cases past
      exact (reaction.window synRcvd).imp_right fun own => ⟨_, rfl, own⟩
  | rexmit _ expires =>
      have same := ((TCPAlgorithm.processRexmitTimer_returns _).of_ok expires).same
      exact Or.inl (congrArg windowVars same :)

theorem Passes.atTime (passes : c.Passes tcpseg) {simTime : Nat} : (c.atTime simTime).Passes tcpseg :=
  ⟨passes.acceptable, passes.plain, passes.synBit, passes.ackBit⟩

theorem handle_window (simTime : Nat) (checks : checksAck c.fsm = true)
    (passes : c.Passes tcpseg) (new : c.AcksNew tcpseg) (takes : c.TakesWindow tcpseg) :
    OnReturn (fun c' => c'.sndWnd = tcpseg.window) (c.handle simTime (.segment tcpseg)) := by
  have synRcvd : c.fsm ≠ .synRcvd := by
    intro waits
    rw [waits] at checks
    cases checks
  have past : opening c.fsm = false := by
    cases fsm : c.fsm
    all_goals
      rw [fsm] at checks
      first | (cases checks; done) | rfl
  have alive : c.fsm ≠ .closed := by
    intro closed
    rw [closed] at checks
    cases checks
  refine OnReturn.of_forall fun c' done => ?_
  obtain ⟨r, processed, -, same⟩ := handle_cases alive done
  have window : c'.sndWnd = r.2.sndWnd := (congrArg sndWnd same :)
  have arrives : (c.atTime simTime).processSegment1stThru8th tcpseg = .ok r :=
    (processRcvSegment_late (c := c.atTime simTime) past tcpseg).symm.trans processed
  have own (check : AckCheck) (checked : (c.atTime simTime).processAck tcpseg = .ok check) :
      check.connection.windowVars = tcpseg.windowVars :=
    ((processAck_window (c := c.atTime simTime) synRcvd).of_ok checked).2 checks new takes
  have passes' : (c.atTime simTime).Passes tcpseg := passes.atTime
  rw [window]
  cases ((c.atTime simTime).processSegment1stThru8th_returns tcpseg).of_ok arrives with
  | refused _ blocked | reset _ blocked | unexpected blocked => exact absurd passes' blocked
  | drops _ checked => exact congrArg (·.2.2) (own _ checked)
  | proceeds _ checked processed =>
      have text := ((processTextAndFin_returns _ tcpseg _ _).of_ok processed).1
      have kept : r.2.sndWnd = _ := (congrArg sndWnd text :)
      exact kept.trans (congrArg (·.2.2) (own _ checked))

/-- What holds of the window variables before ESTABLISHED, and what is brought there. -/
def OpeningWindow (input : TCPInput) (fsm : TcpState) (c : TCPConnection) : Prop :=
  match fsm with
  | .synSent => c.active = true
  | .synRcvd => c.active = true ∨ c.sndWl1 = c.irs ∧ c.rcvNxt = c.irs + 1
  | .established => ∃ tcpseg, input = .segment tcpseg ∧ c.windowVars = tcpseg.windowVars
  | _ => True

/-- A segment that completes the handshake in SYN_RCVD acknowledges the SYN. In a simultaneous open
`snd_wl1` lies before it, in a passive open it fits into the receive window. -/
def BringsWindow (c : TCPConnection) : TCPInput → Prop
  | .segment tcpseg => c.fsm = .synRcvd → c.Passes tcpseg → seqLE c.sndUna tcpseg.ackNo →
      seqLE tcpseg.ackNo c.sndNxt → tcpseg.ackNo ≠ c.iss ∧
        if c.active then c.TakesWindow tcpseg else tcpseg.payloadLength ≤ c.rcvWnd.toNat
  | _ => True

theorem BringsWindow.atTime (brings : c.BringsWindow input) {simTime : Nat} :
    (c.atTime simTime).BringsWindow input := by
  cases input with
  | segment tcpseg =>
      intro waits passes
      exact brings waits ⟨passes.acceptable, passes.plain, passes.synBit, passes.ackBit⟩
  | command | timeout => exact True.intro

/-- The connection with all segments that have reached it. -/
structure WindowHistory where
  connection : TCPConnection
  received : List TCPSegment
  established : Bool

namespace WindowHistory

def create (tcpAlgorithm : TCPAlgorithm) : WindowHistory where
  connection := .create tcpAlgorithm
  received := []
  established := false

def step (h : WindowHistory) (arrival : Nat × TCPInput) : Exec WindowHistory := do
  let connection ← h.connection.step arrival
  return {
    connection
    received := match arrival.2 with
      | .segment tcpseg => h.received ++ [tcpseg]
      | _ => h.received
    established := h.established || decide (connection.fsm = .established) }

end WindowHistory

/-- What the invariant of the opening states is about -/
def openingVars (c : TCPConnection) : Bool × BitVec 32 × BitVec 32 × BitVec 32 :=
  (c.active, c.sndWl1, c.irs, c.rcvNxt)

theorem OpeningWindow.of_same {input input' : TCPInput} {fsm : TcpState}
    (opened : OpeningWindow input fsm c) (early : opening fsm = true)
    (same : c'.openingVars = c.openingVars) : OpeningWindow input' fsm c' := by
  unfold openingVars at same
  simp only [Prod.mk.injEq] at same
  obtain ⟨active, wl1, irs, rcvNxt⟩ := same
  cases fsm
  case synSent => exact active.trans opened
  case synRcvd =>
    unfold OpeningWindow
    rw [active, wl1, irs, rcvNxt]
    exact opened
  case init | listen => exact True.intro
  all_goals cases early

theorem takesWindow_passive (wl1 : c.sndWl1 = c.irs)
    (rcvNxt : c.rcvNxt = c.irs + 1) (rcvWnd : c.rcvWnd = 128 * 1024)
    (acceptable : c.isSegmentAcceptable tcpseg) (fits : tcpseg.payloadLength ≤ c.rcvWnd.toNat) :
    c.TakesWindow tcpseg := by
  obtain ⟨above, below⟩ := acceptable
  rw [rcvWnd] at fits below
  have length : tcpseg.payloadLength ≤ 131072 := fits
  unfold seqGE at above
  unfold seqLE at below
  rw [rcvNxt] at above below
  refine Or.inl ?_
  unfold seqLess
  rw [wl1]
  constructor
  · bv_omega
  · bv_omega

theorem EarlyReaction.window (reaction : c.EarlyReaction input r) (handshake : Handshake c.fsm c)
    (early : opening c.fsm = true) (rcvWnd : c.rcvWnd = 128 * 1024) {old : TCPInput}
    (opened : OpeningWindow old c.fsm c) (brings : c.BringsWindow input) :
    OpeningWindow input (r.2.nextState r.1) r.2 := by
  cases reaction with
  | quiet same next =>
      rcases next with stays | closed | ⟨-, listens⟩
      · rw [stays]
        exact opened.of_same early (congrArg openingVars same :)
      · rw [closed]
        exact True.intro
      · rw [listens]
        exact True.intro
  | listens new =>
      rcases new with new | listens
      · exact at_nextState _ new rfl True.intro
      · exact at_nextState _ listens rfl True.intro
  | opens new =>
      rcases new with new | listens
      · exact at_nextState _ new rfl rfl
      · exact at_nextState _ listens rfl rfl
  | opensToSend listens => exact at_nextState _ listens rfl rfl
  | enqueues waits =>
      rcases waits with waits | waits
      · rw [waits] at opened
        exact at_nextState _ waits rfl (opened.of_same rfl rfl)
      · rw [waits] at opened
        exact at_nextState _ waits rfl (opened.of_same rfl rfl)
  | closes waits closes =>
      rcases processClose_cases (Or.inl waits) closes with ⟨-, rfl⟩ | ⟨-, rfl⟩
      · exact at_nextState _ (c.fsm_closing.trans waits) rfl True.intro
      · rw [waits]
        exact at_nextState _ (c.fsm_queueFin.trans waits) rfl True.intro
  | syn listens => exact at_nextState _ listens rfl (Or.inr ⟨rfl, rfl⟩)
  | synSent waits reaction =>
      rw [waits] at handshake opened
      cases reaction with
      | ignores same =>
          have fsm : _ = c.fsm := (congrArg TCPConnection.fsm same :)
          exact at_nextState _ (fsm.trans waits) rfl
            (opened.of_same rfl (congrArg openingVars same :))
      | resets => exact at_nextState _ waits rfl True.intro
      | establishes _ _ _ notified =>
          have advances := (TCPBaseAlg.established_returns _ _).of_ok notified
          have fsm := advances.state
          have window := (congrArg windowVars advances.same :)
          refine at_nextState _ (fsm.trans (fsm_withSynAckReceived.trans waits)) rfl ⟨_, rfl, ?_⟩
          refine window.trans ?_
          unfold withSynAckReceived
          dsimp only
          split <;> rfl
      | crosses => exact at_nextState _ waits rfl (Or.inl opened)
  | synRcvd waits reaction =>
      have fsm := reaction.fsm.trans waits
      rw [waits] at handshake opened
      cases reaction with
      | refused same => exact at_nextState _ fsm rfl (opened.of_same rfl (congrArg openingVars same :))
      | reset reset =>
          obtain ⟨event, -⟩ := c.processRst_returns.of_ok reset
          rw [event]
          refine at_nextState _ fsm rfl ?_
          cases r.2.active <;> exact True.intro
      | unexpected => exact at_nextState _ fsm rfl True.intro
      | drops _ checked =>
          obtain ⟨event, same, -⟩ := (processAck_synRcvd waits _).of_ok checked
          rw [event]
          exact at_nextState _ fsm rfl (opened.of_same rfl (congrArg openingVars same :))
      | @proceeds event c₁ _ passes checked processed =>
          have acked := (processAck_synRcvd waits _).of_ok checked
          have window := (processAck_synRcvd_window waits handshake fun after before => ?_).of_ok checked
          · have fsm₁ := ((congrArg TCPConnection.fsm ((c.processAck_same _).of_ok checked) :)).trans waits
            obtain ⟨same, events⟩ := (processTextAndFin_returns _ _ _ _).of_ok processed
            have kept : r.2.windowVars = _ := (congrArg windowVars same :)
            rcases events with ⟨-, waits⟩ | ⟨event', -⟩ | ⟨event', -⟩ | ⟨-, -, waits⟩
            · cases fsm₁.symm.trans waits
            · rw [event'.trans acked]
              exact at_nextState _ fsm rfl ⟨_, rfl, kept.trans window⟩
            · rw [event']
              exact at_nextState _ fsm rfl True.intro
            · cases fsm₁.symm.trans waits
          · obtain ⟨other, takes⟩ := brings waits passes after before
            refine ⟨other, ?_⟩
            rcases opened with active | ⟨wl1, rcvNxt⟩
            · rw [if_pos active] at takes
              exact takes
            · by_cases active : c.active = true
              · rw [if_pos active] at takes
                exact takes
              · rw [if_neg active] at takes
                exact takesWindow_passive wl1 rcvNxt rcvWnd passes.acceptable takes

namespace WindowHistory

variable {h h' : WindowHistory} {tcpAlgorithm : TCPAlgorithm}

/-- The window of an established connection is that of a segment it has received. -/
structure Inv (tcpAlgorithm : TCPAlgorithm) (h : WindowHistory) : Prop where
  base : Handshake h.connection.fsm h.connection ∧
    (h.connection.fsm = .closed ∨ h.connection.parameters = (tcpAlgorithm, 1024, 128 * 1024))
  before : opening h.connection.fsm = true → h.established = false
  opened : opening h.connection.fsm = true →
    ∃ input, OpeningWindow input h.connection.fsm h.connection
  entered : h.connection.fsm = .established → h.established = true
  after : h.established = true → h.connection.fsm ≠ .closed →
    ∃ tcpseg ∈ h.received, h.connection.windowVars = tcpseg.windowVars

theorem inv_create (tcpAlgorithm : TCPAlgorithm) : Inv tcpAlgorithm (create tcpAlgorithm) where
  base := handshake_create tcpAlgorithm
  before := fun _ => rfl
  opened := fun _ => ⟨.command .openPassive, True.intro⟩
  entered := nofun
  after := nofun

theorem step_cases {arrival : Nat × TCPInput} (done : h.step arrival = .ok h') :
    h.connection.step arrival = .ok h'.connection ∧ (∀ tcpseg ∈ h.received, tcpseg ∈ h'.received) ∧
      (∀ tcpseg, arrival.2 = .segment tcpseg → tcpseg ∈ h'.received) ∧
      h'.established = (h.established || decide (h'.connection.fsm = .established)) := by
  unfold step at done
  cases steps : h.connection.step arrival with
  | error fault =>
      rw [steps] at done
      cases done
  | ok c' =>
      rw [steps] at done
      cases done
      refine ⟨rfl, fun tcpseg old => ?_, fun tcpseg new => ?_, rfl⟩
      · dsimp only
        split
        · exact List.mem_append_left _ old
        · exact old
      · dsimp only
        rw [new]
        exact List.mem_append_right _ List.mem_cons_self

theorem inv_step {arrival : Nat × TCPInput} (inv : Inv tcpAlgorithm h)
    (brings : h.connection.BringsWindow arrival.2) (done : h.step arrival = .ok h') : Inv tcpAlgorithm h' := by
  obtain ⟨steps, kept, new, established⟩ := step_cases done
  have base := handshake_step inv.base steps
  by_cases ended : h.connection.fsm = .closed
  · have same : h'.connection = h.connection := by
      have handled := handle_of_step steps
      unfold handle at handled
      rw [if_pos ended] at handled
      exact (Except.ok.inj handled).symm
    have closed : h'.connection.fsm = .closed := same ▸ ended
    refine ⟨base, fun early => ?_, fun early => ?_, fun enters => ?_,
      fun _ alive => absurd closed alive⟩
    · rw [closed] at early
      cases early
    · rw [closed] at early
      cases early
    · cases closed.symm.trans enters
  · obtain ⟨r, processed, fsm, same⟩ := handle_cases ended (handle_of_step steps)
    have window : h'.connection.windowVars = r.2.windowVars := (congrArg windowVars same :)
    have rcvWnd := congrArg (·.2.2) (inv.base.2.resolve_left ended)
    cases early : opening h.connection.fsm with
    | true =>
        have now : Handshake (h.connection.atTime arrival.1).fsm (h.connection.atTime arrival.1) :=
          inv.base.1.of_same rfl
        obtain ⟨input, opened⟩ := inv.opened early
        have reaction := (processInput_early now early arrival.2).of_ok processed
        have opened' : OpeningWindow arrival.2 (h.connection.atTime arrival.1).fsm
            (h.connection.atTime arrival.1) := opened.of_same early rfl
        have next := reaction.window now early rcvWnd
          opened' brings.atTime
        rw [← fsm] at next
        rw [inv.before early, Bool.false_or] at established
        refine ⟨base, fun early' => ?_, fun early' => ⟨arrival.2, ?_⟩,
          fun enters => established.trans (decide_eq_true enters), fun open' _ => ?_⟩
        · rw [established]
          refine decide_eq_false fun enters => ?_
          rw [enters] at early'
          cases early'
        · exact next.of_same early' (congrArg openingVars same :)
        · rw [established, decide_eq_true_eq] at open'
          rw [open'] at next
          obtain ⟨tcpseg, arrives, own⟩ := next
          exact ⟨tcpseg, new _ arrives, window.trans own⟩
    | false =>
        have reaction := (processInput_late (c := h.connection.atTime arrival.1) early ended
          arrival.2).of_ok processed
        have at' : r.2.fsm = h.connection.fsm := reaction.fsm
        have past : opening h'.connection.fsm = false := by
          rw [fsm]
          exact opening_nextState (at'.symm ▸ early) r.1
        have flag : h'.connection.fsm = .established → h.established = true := by
          intro enters
          rw [fsm] at enters
          exact inv.entered (at'.symm.trans (established_nextState (at'.symm ▸ early) enters))
        have set : h'.established = true → h.established = true := by
          intro open'
          rw [established, Bool.or_eq_true, decide_eq_true_eq] at open'
          exact open'.elim id flag
        refine ⟨base, fun early' => ?_, fun early' => ?_, fun enters => ?_, fun open' _ => ?_⟩
        · exact absurd (early'.symm.trans past) Bool.noConfusion
        · exact absurd (early'.symm.trans past) Bool.noConfusion
        · rw [established, flag enters]
          rfl
        · rcases reaction.window early with kept' | ⟨tcpseg, arrives, own⟩
          · obtain ⟨tcpseg, old, held⟩ := inv.after (set open') ended
            exact ⟨tcpseg, kept _ old, window.trans (kept'.trans held)⟩
          · exact ⟨tcpseg, new _ arrives, window.trans own⟩

theorem inv_of_runs {arrivals : List (Nat × TCPInput)}
    (runs : Runs step (fun h arrival => h.connection.BringsWindow arrival.2) (create tcpAlgorithm)
      arrivals h) : Inv tcpAlgorithm h :=
  runs.invariant (Inv tcpAlgorithm) (fun _ _ _ inv brings done => inv_step inv brings done)
    (inv_create tcpAlgorithm)

/-- In every connection that has been established so, the send window is that of a segment it has
received, and a later acknowledgement of something new brings its own. -/
theorem window_of_bringsWindow {arrivals : List (Nat × TCPInput)}
    (runs : Runs step (fun h arrival => h.connection.BringsWindow arrival.2) (create tcpAlgorithm)
      arrivals h)
    (established : h.established = true) (alive : h.connection.fsm ≠ .closed) :
    ∃ tcpseg ∈ h.received, h.connection.windowVars = tcpseg.windowVars ∧
      ∀ (later : TCPSegment) (simTime : Nat), checksAck h.connection.fsm = true →
        h.connection.Passes later → h.connection.AcksNew later → later.Follows tcpseg →
          OnReturn (fun c => c.sndWnd = later.window)
            (h.connection.handle simTime (.segment later)) := by
  obtain ⟨tcpseg, received, taken⟩ := (inv_of_runs runs).after established alive
  refine ⟨tcpseg, received, taken, fun later simTime checks passes new follows => ?_⟩
  exact handle_window simTime checks passes new (.of_follows taken follows)

/-- A passive open that a peer with the initial sequence number 2^31 completes -/
def examplePassive : List (Nat × TCPInput) :=
  [(0, .command .openPassive),
    (1, .segment { TCPSegment.create with
      sequenceNo := 2147483648
      synBit := true
      window := 4096 }),
    (2, .segment { TCPSegment.create with
      sequenceNo := 2147483649
      ackNo := 2
      ackBit := true
      window := 8192 })]

theorem window_example : ∃ h,
    Runs step (fun h arrival => h.connection.BringsWindow arrival.2) (create .reno) examplePassive h ∧
      ∃ tcpseg ∈ h.received, h.connection.windowVars = tcpseg.windowVars := by
  have runs : Runs step (fun h arrival => h.connection.BringsWindow arrival.2) (create .reno)
      examplePassive _ :=
    .cons True.intro rfl (.cons (fun waits => nomatch waits) rfl
      (.cons (fun _ _ _ _ => ⟨by decide, Nat.zero_le _⟩) rfl (.nil _)))
  obtain ⟨tcpseg, received, taken, -⟩ := window_of_bringsWindow runs rfl (by decide)
  exact ⟨_, runs, tcpseg, received, taken⟩

/-- A simultaneous open with a peer whose initial sequence number is 2^31 -/
def exampleSimultaneous : List (Nat × TCPInput) :=
  [(0, .command (.openActive true)),
    (1, .segment { TCPSegment.create with
      sequenceNo := 2147483648
      synBit := true
      window := 4096 }),
    (2, .segment { TCPSegment.create with
      sequenceNo := 2147483649
      ackNo := 1
      ackBit := true
      window := 4096 })]

/-- After a simultaneous open the send window may be that of no segment. -/
theorem window_of_no_segment :
    ¬ ∀ tcpAlgorithm arrivals h,
      Runs step (fun _ _ => True) (create tcpAlgorithm) arrivals h → h.established = true →
        h.connection.fsm ≠ .closed →
          ∃ tcpseg ∈ h.received, h.connection.windowVars = tcpseg.windowVars := by
  intro claim
  have runs : Runs step (fun _ _ => True) (create .reno) exampleSimultaneous _ :=
    .cons True.intro rfl (.cons True.intro rfl (.cons True.intro rfl (.nil _)))
  have taken := claim _ _ _ runs rfl (by decide)
  revert taken
  decide

end WindowHistory

end TCPConnection

end IPv6Suite
