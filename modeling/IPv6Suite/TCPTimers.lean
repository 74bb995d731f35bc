import IPv6Suite.TCPHandshake

namespace IPv6Suite

open Lib

namespace TCPConnection

variable {c c' : TCPConnection} {next : TcpState} {tcpseg : TCPSegment}

/-- The states in which the timers of the connection setup may be scheduled -/
def settingUp : TcpState → Bool
  | .synSent | .synRcvd => true
  | _ => false

def beforeClose : TcpState → Bool
  | .init | .listen | .synSent | .synRcvd | .established => true
  | _ => false

/-- The states that a connection leaves when its FIN is acknowledged, and those before -/
def beforeFinAck (fsm : TcpState) : Bool := beforeClose fsm || fsm == .finWait1 || fsm == .closing

/-- Every timer is scheduled in the states that it is for. -/
structure TimersFit (c : TCPConnection) : Prop where
  the2MSLTimer : c.the2MSLTimer = true ↔ c.fsm = .timeWait
  connEstabTimer : c.connEstabTimer = some true → c.fsm = .synSent ∨ c.fsm = .synRcvd
  synRexmitTimer : c.synRexmitTimer = some true → c.fsm = .synSent ∨ c.fsm = .synRcvd

/-- How the timers are set when the connection goes to the state `next`; on a transition those of
the connection setup are still to be cancelled. -/
structure TimersSet (next : TcpState) (c : TCPConnection) : Prop where
  the2MSLTimer : c.the2MSLTimer = decide (next = .timeWait)
  finWait2Timer : c.finWait2Timer = false
  setup : c.fsm = next → settingUp next = false →
    c.connEstabTimer ≠ some true ∧ c.synRexmitTimer ≠ some true

structure FlagsSet (next : TcpState) (c : TCPConnection) : Prop where
  specified : next = .synSent → c.remoteSpecified = true
  sendFin : beforeClose next = true → c.sendFin = false
  finAckRcvd : beforeFinAck next = true → c.finAckRcvd = false

structure Prepared (next : TcpState) (c : TCPConnection) : Prop where
  timers : TimersSet next c
  flags : FlagsSet next c

/-- All timers are cancelled when the connection is closed. -/
def Ready (next : TcpState) (c : TCPConnection) : Prop := next ≠ .closed → Prepared next c

def timerVars (c : TCPConnection) :
    TcpState × Bool × Bool × Option Bool × Option Bool × Bool × Bool × Bool :=
  (c.fsm, c.the2MSLTimer, c.finWait2Timer, c.connEstabTimer, c.synRexmitTimer, c.remoteSpecified,
    c.sendFin, c.finAckRcvd)

theorem TimersSet.of_same (set : TimersSet next c) (same : c'.timerVars = c.timerVars) : TimersSet next c' := by
  unfold timerVars at same
  simp only [Prod.mk.injEq] at same
  obtain ⟨fsm, msl, wait, estab, rexmit, -⟩ := same
  refine ⟨msl.trans set.the2MSLTimer, wait.trans set.finWait2Timer, ?_⟩
  rw [fsm, estab, rexmit]
  exact set.setup

theorem FlagsSet.of_same (set : FlagsSet next c) (same : c'.timerVars = c.timerVars) : FlagsSet next c' := by
  unfold timerVars at same
  simp only [Prod.mk.injEq] at same
  obtain ⟨-, -, -, -, -, remote, fin, acked⟩ := same
  constructor
  · rw [remote]
    exact set.specified
  · rw [fin]
    exact set.sendFin
  · rw [acked]
    exact set.finAckRcvd

theorem Prepared.of_same (prepared : Prepared next c) (same : c'.timerVars = c.timerVars) :
    Prepared next c' := ⟨prepared.timers.of_same same, prepared.flags.of_same same⟩

/-- Which faults are not those of a timer in the wrong state. -/
def Timely (fault : TCPFault) : Prop := fault ≠ .alreadyScheduled ∧ fault ≠ .oppError

variable {fault : TCPFault}

theorem SendFault.timely (fails : SendFault fault) : Timely fault := by
  cases fault <;> first | (cases fails; done) | exact ⟨nofun, nofun⟩

theorem cancelled_ne (timer : Option Bool) : timer.map (fun _ => false) ≠ some true := by
  cases timer <;> nofun

theorem Prepared.enter (prepared : Prepared next c) {connEstabTimer synRexmitTimer : Option Bool}
    {toAppl : List TCPIndication}
    (cancelled : settingUp next = false →
      connEstabTimer ≠ some true ∧ synRexmitTimer ≠ some true) :
    Prepared next { c with fsm := next, connEstabTimer, synRexmitTimer, toAppl } where
  timers := ⟨prepared.timers.the2MSLTimer, prepared.timers.finWait2Timer, fun _ => cancelled⟩
  flags := ⟨prepared.flags.specified, prepared.flags.sendFin, prepared.flags.finAckRcvd⟩

variable {event : TCPEventCode}

theorem nextState_ne_init (moves : c.nextState event ≠ c.fsm) : c.nextState event ≠ .init := by
  unfold nextState at moves ⊢
  generalize c.fsm = fsm, c.active = active at moves ⊢
  cases fsm <;> cases event <;> cases active <;>
    first | exact absurd rfl moves | decide

theorem performStateTransition_prepared (alive : c.fsm ≠ .closed) (ready : Ready (c.nextState event) c) :
    Ensures (· = .assertFailed) (fun c' => Prepared c'.fsm c') (c.performStateTransition event) := by
  unfold performStateTransition
  refine Ensures.ite (fun stays => ?_) fun moves => ?_
  · have prepared := ready (stays ▸ alive)
    rw [stays] at prepared
    exact prepared
  · have new := nextState_ne_init moves
    generalize c.nextState event = next at ready new
    cases next
    case init => exact absurd rfl new
    case closed => exact
        ⟨⟨rfl, rfl, fun _ _ => ⟨cancelled_ne _, cancelled_ne _⟩⟩, ⟨nofun, nofun, nofun⟩⟩
    case synSent | synRcvd => exact (ready nofun).enter nofun
    case listen =>
      show Ensures _ _ (TCPExec.assert _ >>= _)
      unfold TCPExec.assert
      split
      · exact (ready nofun).enter fun _ => ⟨cancelled_ne _, cancelled_ne _⟩
      · exact rfl
    case established => exact (ready nofun).enter fun _ => ⟨nofun, nofun⟩
    all_goals exact (ready nofun).enter fun _ => ⟨cancelled_ne _, cancelled_ne _⟩

theorem Prepared.stays (prepared : Prepared c.fsm c)
    (same : c'.timerVars = c.timerVars) (stays : c'.nextState event = c'.fsm) : Ready (c'.nextState event) c' := by
  have fsm : c'.fsm = c.fsm := congrArg Prod.fst same
  intro _
  rw [stays, fsm]
  exact prepared.of_same same

theorem Prepared.stays_at {fsm : TcpState} (prepared : Prepared c.fsm c)
    (same : c'.timerVars = c.timerVars) (at' : c.fsm = fsm)
    (stays : (if event = .ignore then fsm else (transition c'.active fsm event).getD fsm) = fsm) :
    Ready (c'.nextState event) c' := by
  have fsm' : c'.fsm = fsm := (congrArg Prod.fst same).trans at'
  refine prepared.stays same ?_
  rw [nextState_eq fsm', stays, fsm']

theorem ready_at {fsm : TcpState} (at' : c.fsm = fsm)
    (enters : (if event = .ignore then fsm else (transition c.active fsm event).getD fsm) = next)
    (prepared : Prepared next c) : Ready (c.nextState event) c :=
  at_nextState Ready at' enters fun _ => prepared

theorem ready_closed (closes : c.nextState event = .closed) :
    Ready (c.nextState event) c := fun alive => absurd closes alive

theorem ready_quiet (quiet : closesOrStays event = true)
    (prepared : Prepared c.fsm c) (same : c'.timerVars = c.timerVars) : Ready (c'.nextState event) c' := by
  rcases nextState_closesOrStays quiet c' with stays | closes
  · exact prepared.stays same stays
  · exact ready_closed closes

theorem startSynRexmitTimer_fault (c : TCPConnection) :
    Ensures (· = .nullDeref) (fun _ => True) c.startSynRexmitTimer := by
  unfold startSynRexmitTimer
  split
  · exact rfl
  · exact True.intro

theorem scheduleSetupTimer_fault {timer : Option Bool} (idle : timer ≠ some true) :
    Ensures (· = .nullDeref) (fun timer' => timer' = some true) (scheduleSetupTimer timer) := by
  unfold scheduleSetupTimer scheduleTimeout
  split
  · exact rfl
  · rename_i timer
    cases timer with
    | false => exact rfl
    | true => exact absurd rfl idle

theorem openActively_fault (idle : c.connEstabTimer ≠ some true) :
    Ensures (· ≠ .alreadyScheduled) (fun _ => True) c.openActively := by
  unfold openActively sendSyn
  split
  · refine Ensures.ok_bind ?_
    have started := (startSynRexmitTimer_fault _).and (startSynRexmitTimer_returns
      (sendToIP { c.selectInitialSeqNum with
        sndMax := c.selectInitialSeqNum.iss + 1
        sndNxt := c.selectInitialSeqNum.iss + 1 } c.selectInitialSeqNum.synSegment))
    refine Ensures.bind (started.fewer ?_) ?_
    · rintro _ rfl
      exact nofun
    rintro _ ⟨-, _, _, rfl⟩
    refine Ensures.bind ((scheduleSetupTimer_fault idle).fewer ?_) fun _ _ => True.intro
    rintro _ rfl
    exact nofun
  · exact nofun

theorem openActively_prepared (prepared : Prepared c.fsm c)
    (new : c.fsm = .init ∨ c.fsm = .listen) : Ensures (· ≠ .alreadyScheduled)
      (fun c' => c'.fsm = c.fsm ∧ Prepared .synSent c') c.openActively := by
  have early : settingUp c.fsm = false ∧ beforeClose c.fsm = true ∧ beforeFinAck c.fsm = true ∧
      decide (c.fsm = .timeWait) = false := by
    rcases new with fsm | fsm <;> rw [fsm] <;> exact ⟨rfl, rfl, rfl, rfl⟩
  obtain ⟨idle, before, unacked, other⟩ := early
  have opened := (openActively_fault (prepared.timers.setup rfl idle).1).and c.openActively_returns
  refine opened.imp ?_
  rintro c' ⟨-, specified, -, _, _, _, _, rfl⟩
  refine ⟨rfl, ⟨prepared.timers.the2MSLTimer.trans other, prepared.timers.finWait2Timer, ?_⟩,
    ⟨fun _ => specified, fun _ => prepared.flags.sendFin before,
      fun _ => prepared.flags.finAckRcvd unacked⟩⟩
  exact fun _ => nofun

theorem timerVars_of_exceptSending (same : c'.exceptSending = c.exceptSending) :
    c'.timerVars = c.timerVars := (congrArg timerVars same :)

theorem sendCommandInvoked_timers (c : TCPConnection) : Ensures SendFault
    (fun c' => c'.timerVars = c.timerVars) (TCPBaseAlg.sendCommandInvoked c) :=
  ((TCPBaseAlg.sendCommandInvoked_silent c).and (TCPBaseAlg.sendCommandInvoked_returns c)).imp
    fun _ sent => timerVars_of_exceptSending sent.2.same

/-- On the way between these states only the setup timers are touched. -/
structure Leaves (fsm next : TcpState) : Prop where
  ne : fsm ≠ next
  timeWait : next = .timeWait ↔ fsm = .timeWait
  synSent : next ≠ .synSent
  beforeFinAck : beforeFinAck next = true → beforeFinAck fsm = true

def closeVars (c : TCPConnection) : TcpState × Bool × Bool × Bool :=
  (c.fsm, c.the2MSLTimer, c.finWait2Timer, c.finAckRcvd)

theorem closeVars_queueFin (c : TCPConnection) : c.queueFin.closeVars = c.closeVars := by
  unfold queueFin
  rfl

theorem closeVars_sendFinNow (c : TCPConnection) : c.sendFinNow.closeVars = c.closeVars := by
  unfold sendFinNow sendFinSegment TCPBaseAlg.ackSent sendToIP
  rfl

theorem Prepared.leave {fsm : TcpState} (prepared : Prepared fsm c) (leaves : Leaves fsm next)
    (at' : c.fsm = fsm) (same : c'.closeVars = c.closeVars)
    (sendFin : beforeClose next = true → c'.sendFin = false) : Prepared next c' := by
  unfold closeVars at same
  simp only [Prod.mk.injEq] at same
  obtain ⟨fsm', msl, wait, acked⟩ := same
  refine ⟨⟨?_, wait.trans prepared.timers.finWait2Timer, fun stays => ?_⟩,
    ⟨fun sent => absurd sent leaves.synSent, sendFin, fun unacked => ?_⟩⟩
  · rw [msl, prepared.timers.the2MSLTimer]
    exact decide_eq_decide.mpr leaves.timeWait.symm
  · exact absurd (at'.symm.trans (fsm'.symm.trans stays)) leaves.ne
  · rw [acked]
    exact prepared.flags.finAckRcvd (leaves.beforeFinAck unacked)

theorem processClose_prepared (prepared : Prepared c.fsm c) (alive : c.fsm ≠ .closed) :
    Ensures (· ≠ .alreadyScheduled) (fun r => Ready (r.2.nextState r.1) r.2) c.processClose := by
  have later := c.closeVars_queueFin
  have now := c.sendFinNow.closeVars_queueFin.trans c.closeVars_sendFinNow
  have closes {fsm next : TcpState} (at' : c.fsm = fsm) (leaves : Leaves fsm next)
      (closed : beforeClose next = false)
      (enters : ∀ active, (transition active fsm .close).getD fsm = next) :
      Ready (c.sendFinNow.queueFin.nextState .close) c.sendFinNow.queueFin ∧
        Ready (c.queueFin.nextState .close) c.queueFin := by
    subst at'
    have fsm₁ : c.sendFinNow.queueFin.fsm = c.fsm := (congrArg Prod.fst now :)
    have fsm₂ : c.queueFin.fsm = c.fsm := (congrArg Prod.fst later :)
    have after {p : Prop} (before : beforeClose next = true) : p :=
      Bool.noConfusion (closed.symm.trans before)
    exact ⟨ready_at fsm₁ (enters _) (prepared.leave leaves rfl now after),
      ready_at fsm₂ (enters _) (prepared.leave leaves rfl later after)⟩
  cases fsm : c.fsm
  case synRcvd =>
    rw [processClose_eq (Or.inl fsm), fsm]
    have leaves : Leaves .synRcvd .finWait1 := ⟨nofun, by decide, nofun, fun _ => rfl⟩
    have next := closes fsm leaves rfl fun _ => rfl
    exact Ensures.ite (fun _ => next.1) fun _ => next.2
  case established =>
    rw [processClose_eq (Or.inr (Or.inl fsm)), fsm]
    have leaves : Leaves .established .finWait1 := ⟨nofun, by decide, nofun, fun _ => rfl⟩
    have next := closes fsm leaves rfl fun _ => rfl
    exact Ensures.ite (fun _ => next.1) fun _ => next.2
  case closeWait =>
    rw [processClose_eq (Or.inr (Or.inr fsm)), fsm]
    have leaves : Leaves .closeWait .lastAck := ⟨nofun, by decide, nofun, nofun⟩
    have next := closes fsm leaves rfl fun _ => rfl
    rw [fsm] at prepared
    have waits : Prepared .closeWait c.queueFin := by
      unfold queueFin
      exact ⟨⟨prepared.timers.the2MSLTimer, prepared.timers.finWait2Timer, prepared.timers.setup⟩,
        ⟨nofun, nofun, nofun⟩⟩
    exact Ensures.ite (fun _ => next.1) fun _ => ready_at fsm rfl waits
  case closed => exact absurd fsm alive
  all_goals
    unfold processClose
    rw [fsm]
    first | exact ready_closed (nextState_eq fsm .close) | exact nofun

theorem processAppCommand_prepared (prepared : Prepared c.fsm c) (alive : c.fsm ≠ .closed)
    (cmd : TCPCommand) : Ensures (· ≠ .alreadyScheduled) (fun r => Ready (r.2.nextState r.1) r.2)
      (c.processAppCommand cmd) := by
  cases cmd with
  | openActive remote =>
      refine Ensures.map ?_
      unfold processOpenActive
      have opened (new : c.fsm = .init ∨ c.fsm = .listen) : Ensures (· ≠ .alreadyScheduled)
          (fun c' => Ready (c'.nextState .openActive) c')
          (openActively { c with active := true, remoteSpecified := remote }) := by
        let c₁ := { c with active := true, remoteSpecified := remote }
        have now : Prepared c₁.fsm c₁ := by
          refine ⟨⟨prepared.timers.the2MSLTimer, prepared.timers.finWait2Timer,
            prepared.timers.setup⟩, ⟨fun waits => ?_, prepared.flags.sendFin,
            prepared.flags.finAckRcvd⟩⟩
          rcases new with fsm | fsm <;> cases fsm.symm.trans waits
        refine (openActively_prepared now new).imp ?_
        rintro c' ⟨same, next⟩
        rcases new with fsm | fsm
        all_goals exact ready_at (same.trans fsm) rfl next
      split
      · rename_i fsm
        exact Ensures.ite (fun _ => opened (Or.inl fsm)) fun _ => nofun
      · rename_i fsm
        exact Ensures.ite (fun _ => opened (Or.inr fsm)) fun _ => nofun
      · exact nofun
  | openPassive =>
      refine Ensures.map ?_
      unfold processOpenPassive
      split
      iterate 2
        rename_i fsm
        rw [fsm] at prepared
        have listens : Prepared .listen { c with active := false, remoteSpecified := false } :=
          ⟨⟨prepared.timers.the2MSLTimer, prepared.timers.finWait2Timer,
            fun _ _ => prepared.timers.setup fsm rfl⟩,
          ⟨nofun, fun _ => prepared.flags.sendFin rfl, fun _ => prepared.flags.finAckRcvd rfl⟩⟩
        exact ready_at fsm rfl listens
      · exact nofun
  | send msg =>
      refine Ensures.map ?_
      unfold processSend
      split
      · rename_i fsm
        let c₁ := { c with active := true }
        have now : Prepared c₁.fsm c₁ := prepared.of_same rfl
        refine Ensures.bind (openActively_prepared now (Or.inr fsm)) ?_
        rintro c' ⟨same, next⟩
        have queued : Prepared .synSent (c'.enqueueAppData msg) := next.of_same rfl
        exact ready_at (same.trans fsm) rfl queued
      iterate 2
        rename_i fsm
        exact prepared.stays_at rfl fsm rfl
      iterate 2
        rename_i fsm
        refine (sendCommandInvoked_timers _).mono (fun c' same => ?_) fun _ fails =>
          (SendFault.timely fails).1
        exact prepared.stays_at same fsm rfl
      · rename_i fsm
        exact absurd fsm alive
      iterate 6 exact nofun
  | close => exact processClose_prepared prepared alive
  | abort =>
      refine Ensures.map ?_
      unfold processAbort
      split
      · exact nofun
      iterate 6 exact ready_quiet rfl prepared rfl
  | status =>
      exact Ensures.map (Ensures.ite (fun _ => nofun) fun _ => ready_quiet rfl prepared rfl)

theorem TimersSet.settingUp (set : TimersSet c.fsm c)
    (scheduled : c.connEstabTimer = some true ∨ c.synRexmitTimer = some true) :
    c.fsm = .synSent ∨ c.fsm = .synRcvd := by
  have idle := set.setup rfl
  cases fsm : c.fsm
  case synSent => exact Or.inl rfl
  case synRcvd => exact Or.inr rfl
  all_goals
    rw [fsm] at idle
    exact absurd scheduled (not_or.mpr (idle rfl))

theorem processTimeoutConnEstab_prepared (prepared : Prepared c.fsm c)
    (setup : c.fsm = .synSent ∨ c.fsm = .synRcvd) :
    Ensures Timely (fun c' => Ready (c'.nextState .timeoutConnEstab) c') c.processTimeoutConnEstab := by
  unfold processTimeoutConnEstab
  split
  · rename_i fsm
    rw [fsm] at prepared
    rw [Ensures.ok_iff]
    split
    · rename_i active
      have enters : transition (c.sendIndicationToApp .timedOut).active .synRcvd .timeoutConnEstab =
          some .closed := congrArg some (if_pos active)
      exact ready_closed ((nextState_eq fsm _).trans (congrArg (·.getD .synRcvd) enters))
    · rename_i passive
      have enters : transition c.active .synRcvd .timeoutConnEstab = some .listen :=
        congrArg some (if_neg passive)
      refine ready_at fsm (congrArg (·.getD .synRcvd) enters) ?_
      refine ⟨⟨prepared.timers.the2MSLTimer, prepared.timers.finWait2Timer, fun stays => ?_⟩,
        ⟨nofun, fun _ => prepared.flags.sendFin rfl, fun _ => prepared.flags.finAckRcvd rfl⟩⟩
      cases fsm.symm.trans stays
  · rename_i fsm
    rw [Ensures.ok_iff]
    split <;> exact ready_closed (nextState_eq fsm _)
  · rename_i other other'
    exact absurd setup (not_or.mpr ⟨other', other⟩)

theorem resendSyn_sends (setup : c.fsm = .synSent ∨ c.fsm = .synRcvd)
    (specified : c.fsm = .synSent → c.remoteSpecified = true) :
    Ensures (fun _ => False) (fun c' => c'.timerVars = c.timerVars) c.resendSyn := by
  unfold resendSyn
  split
  · rename_i fsm
    unfold sendSyn
    rw [if_pos (specified fsm)]
    exact rfl
  · exact rfl
  · rename_i other other'
    exact absurd setup (not_or.mpr ⟨other, other'⟩)

theorem processTimeoutSynRexmit_prepared (prepared : Prepared c.fsm c)
    (setup : c.fsm = .synSent ∨ c.fsm = .synRcvd) (idle : c.synRexmitTimer = some false) :
    Ensures Timely (fun r => Ready (r.2.nextState r.1) r.2) c.processTimeoutSynRexmit := by
  have setting : settingUp c.fsm = true := by
    rcases setup with fsm | fsm <;> rw [fsm] <;> rfl
  unfold processTimeoutSynRexmit
  refine Ensures.ite (fun _ => ready_quiet rfl prepared rfl) fun _ => ?_
  have sent := @resendSyn_sends { c with synRexmitCount := c.synRexmitCount + 1 } setup fun waits => by
    rw [waits] at prepared
    exact prepared.flags.specified rfl
  refine Ensures.bind (sent.fewer nofun) fun c₁ same => ?_
  have kept : Prepared c.fsm c₁ := prepared.of_same same
  have fsm : c₁.fsm = c.fsm := (congrArg Prod.fst same :)
  have timer : c₁.synRexmitTimer = some false := (congrArg (·.2.2.2.2.1) same).trans idle
  rw [timer]
  refine Ensures.ok_bind ?_
  have again : Prepared c.fsm { c₁ with synRexmitTimer := some true } := by
    refine ⟨⟨kept.timers.the2MSLTimer, kept.timers.finWait2Timer, fun _ passed => ?_⟩,
      ⟨kept.flags.specified, kept.flags.sendFin, kept.flags.finAckRcvd⟩⟩
    cases setting.symm.trans passed
  exact ready_at fsm rfl again

theorem processTimer_prepared (prepared : Prepared c.fsm c) {timer : TCPTimer}
    (scheduled : c.isScheduled timer = true) : Ensures Timely (fun r => Ready (r.2.nextState r.1) r.2)
      ((c.expire timer).processTimer timer) := by
  cases timer with
  | the2MSLTimer =>
      have fsm : c.fsm = .timeWait :=
        of_decide_eq_true (prepared.timers.the2MSLTimer.symm.trans scheduled)
      refine Ensures.map (Ensures.ite (fun _ => ?_) fun other => absurd fsm other)
      exact ready_closed (nextState_eq fsm _)
  | connEstabTimer =>
      have setup := prepared.timers.settingUp (Or.inl (of_decide_eq_true scheduled))
      have expired : Prepared c.fsm (c.expire .connEstabTimer) := by
        refine ⟨⟨prepared.timers.the2MSLTimer, prepared.timers.finWait2Timer, fun _ passed => ?_⟩,
          ⟨prepared.flags.specified, prepared.flags.sendFin, prepared.flags.finAckRcvd⟩⟩
        exact ⟨nofun, (prepared.timers.setup rfl passed).2⟩
      exact Ensures.map (processTimeoutConnEstab_prepared (c := c.expire .connEstabTimer) expired setup)
  | finWait2Timer => cases prepared.timers.finWait2Timer.symm.trans scheduled
  | synRexmitTimer =>
      have setup := prepared.timers.settingUp (Or.inr (of_decide_eq_true scheduled))
      have expired : Prepared c.fsm (c.expire .synRexmitTimer) := by
        refine ⟨⟨prepared.timers.the2MSLTimer, prepared.timers.finWait2Timer, fun _ passed => ?_⟩,
          ⟨prepared.flags.specified, prepared.flags.sendFin, prepared.flags.finAckRcvd⟩⟩
        exact ⟨(prepared.timers.setup rfl passed).1, nofun⟩
      exact processTimeoutSynRexmit_prepared (c := c.expire .synRexmitTimer) expired setup rfl
  | rexmitTimer =>
      have expires := (TCPAlgorithm.processRexmitTimer_tells (c := c.expire .rexmitTimer) rfl).and
        (TCPAlgorithm.processRexmitTimer_returns (c.expire .rexmitTimer))
      refine expires.mono ?_ fun _ => SendFault.timely
      rintro ⟨event, c'⟩ ⟨told, result⟩
      have same : c'.timerVars = c.timerVars := timerVars_of_exceptSending result.same
      rcases told with ⟨rfl, -⟩ | ⟨rfl, -⟩
      · exact ready_quiet rfl prepared same
      · exact ready_quiet rfl prepared same
  | delayedAckTimer => exact ready_quiet rfl prepared rfl

theorem processSegmentInListen_prepared (prepared : Prepared c.fsm c) (fsm : c.fsm = .listen)
    (tcpseg : TCPSegment) : Ensures Timely (fun r => Ready (r.2.nextState r.1) r.2)
      (c.processSegmentInListen tcpseg) := by
  unfold processSegmentInListen
  refine Ensures.ite (fun _ => prepared.stays rfl rfl) fun _ => ?_
  refine Ensures.ite (fun _ => prepared.stays rfl rfl) fun _ => ?_
  refine Ensures.ite (fun _ => ?_) fun _ => prepared.stays rfl rfl
  refine Ensures.bind ((startSynRexmitTimer_fault _).and (startSynRexmitTimer_returns _)
    |>.fewer ?_) ?_
  · rintro _ rfl
    exact ⟨nofun, nofun⟩
  rintro _ ⟨-, synRexmitTimer, synRexmitCount, rfl⟩
  split
  · exact ⟨nofun, nofun⟩
  · rw [fsm] at prepared
    refine ready_at fsm rfl ?_
    unfold insertBytes
    refine ⟨⟨prepared.timers.the2MSLTimer, prepared.timers.finWait2Timer, fun _ => nofun⟩,
      ⟨nofun, fun _ => prepared.flags.sendFin rfl, fun _ => prepared.flags.finAckRcvd rfl⟩⟩

theorem acceptSynAck_timers (c : TCPConnection) (tcpseg : TCPSegment) : Ensures SendFault
    (fun c' => c'.timerVars = c.timerVars) (c.acceptSynAck tcpseg) := by
  unfold acceptSynAck
  refine Ensures.ite (fun _ => ?_) fun _ => rfl
  exact Ensures.bind Ensures.trivial.mapError fun _ _ => rfl

theorem established_timers (c : TCPConnection) (active : Bool) : Ensures SendFault
    (fun c' => c'.timerVars = c.timerVars) (TCPBaseAlg.established c active) :=
  ((TCPBaseAlg.established_silent c active).and (TCPBaseAlg.established_returns c active)).imp
    fun _ sent => timerVars_of_exceptSending sent.2.same

theorem timerVars_receiveBytes (c : TCPConnection) (tcpseg : TCPSegment) :
    (c.receiveBytes tcpseg).timerVars = c.timerVars := by
  unfold receiveBytes
  rfl

theorem closeVars_of_timerVars (same : c'.timerVars = c.timerVars) : c'.closeVars = c.closeVars := by
  unfold timerVars at same
  unfold closeVars
  simp only [Prod.mk.injEq] at same ⊢
  exact ⟨same.1, same.2.1, same.2.2.1, same.2.2.2.2.2.2.2⟩

theorem processSegmentInSynSent_prepared (prepared : Prepared c.fsm c) (fsm : c.fsm = .synSent)
    (tcpseg : TCPSegment) : Ensures Timely (fun r => Ready (r.2.nextState r.1) r.2)
      (c.processSegmentInSynSent tcpseg) := by
  have fin : c.sendFin = false := by
    rw [fsm] at prepared
    exact prepared.flags.sendFin rfl
  unfold processSegmentInSynSent
  refine Ensures.ite (fun _ => prepared.stays rfl rfl) fun _ => ?_
  refine Ensures.ite (fun _ => ?_) fun _ => ?_
  · exact Ensures.ite (fun _ => ready_closed (nextState_eq fsm _)) fun _ => prepared.stays rfl rfl
  refine Ensures.ite (fun _ => ?_) fun _ => prepared.stays rfl rfl
  refine Ensures.bind ((acceptSynAck_timers _ tcpseg).fewer fun _ => SendFault.timely) fun c₁ same => ?_
  have closeVars₁ : c₁.closeVars = c.closeVars := closeVars_of_timerVars same
  have fsm₁ : c₁.fsm = .synSent := (congrArg Prod.fst same :).trans fsm
  have fin₁ : c₁.sendFin = false := (congrArg (·.2.2.2.2.2.2.1) same :).trans fin
  refine Ensures.ite (fun _ => ?_) fun _ => ?_
  · refine Ensures.bind ((established_timers _ true).fewer fun _ => SendFault.timely) fun c₂ later => ?_
    have received : c₂.timerVars = { c₁ with remoteSpecified := true }.timerVars := by
      refine later.trans ?_
      split
      · exact timerVars_receiveBytes _ _
      · exact rfl
    have closeVars₂ := (closeVars_of_timerVars received).trans closeVars₁
    have fsm₂ : c₂.fsm = .synSent := (congrArg Prod.fst received :).trans fsm₁
    have fin₂ : c₂.sendFin = false := (congrArg (·.2.2.2.2.2.2.1) received :).trans fin₁
    have leaves : Leaves c.fsm .established := by
      rw [fsm]
      exact ⟨nofun, by decide, nofun, fun _ => rfl⟩
    exact ready_at fsm₂ rfl (prepared.leave leaves rfl closeVars₂ fun _ => fin₂)
  · refine Ensures.bind ((startSynRexmitTimer_fault _).and (startSynRexmitTimer_returns _)
      |>.fewer ?_) ?_
    · rintro _ rfl
      exact ⟨nofun, nofun⟩
    rintro _ ⟨-, synRexmitTimer, synRexmitCount, rfl⟩
    have leaves : Leaves c.fsm .synRcvd := by
      rw [fsm]
      exact ⟨nofun, by decide, nofun, fun _ => rfl⟩
    refine ready_at fsm₁ rfl (prepared.leave leaves rfl ?_ fun _ => fin₁)
    unfold insertBytes sendSynAck sendToIP
    exact closeVars₁

variable {r : Bool × TCPConnection}

theorem Acked.timers (acked : c.Acked tcpseg r) (set : TimersSet next c) : TimersSet next r.2 := by
  have fsm : r.2.fsm = c.fsm := (congrArg TCPConnection.fsm acked.same :)
  have wait : r.2.finWait2Timer = c.finWait2Timer := (congrArg finWait2Timer acked.same :)
  have estab : r.2.connEstabTimer = c.connEstabTimer := (congrArg connEstabTimer acked.same :)
  have rexmit : r.2.synRexmitTimer = c.synRexmitTimer := (congrArg synRexmitTimer acked.same :)
  refine ⟨acked.the2MSLTimer.trans set.the2MSLTimer, wait.trans set.finWait2Timer, ?_⟩
  rw [fsm, estab, rexmit]
  exact set.setup

theorem Acked.flags (acked : c.Acked tcpseg r) (set : FlagsSet next c)
    (unacked : beforeFinAck next = true → ¬ (c.AcksNew tcpseg ∧ c.AcksFin tcpseg)) : FlagsSet next r.2 := by
  have remote : r.2.remoteSpecified = c.remoteSpecified := (congrArg remoteSpecified acked.same :)
  have fin : r.2.sendFin = c.sendFin := (congrArg TCPConnection.sendFin acked.same :)
  constructor
  · rw [remote]
    exact set.specified
  · rw [fin]
    exact set.sendFin
  · intro before
    rw [acked.finAckRcvd, set.finAckRcvd before, decide_eq_false (unacked before)]
    rfl

theorem Acked.stays (acked : c.Acked tcpseg r)
    (prepared : Prepared next c)
    (unacked : beforeFinAck next = true → ¬ (c.AcksNew tcpseg ∧ c.AcksFin tcpseg)) :
    Prepared next r.2 := ⟨acked.timers prepared.timers, acked.flags prepared.flags unacked⟩

theorem Acked.fsm (acked : c.Acked tcpseg r) : r.2.fsm = c.fsm :=
  (congrArg TCPConnection.fsm acked.same :)

/-- A FIN that the fifth check lets pass does not acknowledge the connection's own in CLOSING. -/
def FinKept (c : TCPConnection) (tcpseg : TCPSegment) : Prop :=
  c.fsm = .closing → tcpseg.finBit = true → ¬ (c.AcksNew tcpseg ∧ c.AcksFin tcpseg)

/-- The connection after the fifth check, which a FIN may still take to another state. -/
structure Passed (fsm : TcpState) (tcpseg : TCPSegment) (event : TCPEventCode)
    (c : TCPConnection) : Prop where
  stays : c.fsm = fsm
  next : Prepared (c.nextState event) c
  fin : tcpseg.finBit = true → TimersSet fsm c ∧ (fsm ≠ .finWait1 → FlagsSet fsm c)

theorem Passed.of_ignore {fsm : TcpState} (stays : c.fsm = fsm) (prepared : Prepared fsm c) :
    Passed fsm tcpseg .ignore c where
  stays := stays
  next := by
    rw [nextState_ignore, stays]
    exact prepared
  fin := fun _ => ⟨prepared.timers, fun _ => prepared.flags⟩

def AckCheck.Timed (fsm : TcpState) (tcpseg : TCPSegment) : AckCheck → Prop
  | .drop event c => Ready (c.nextState event) c
  | .proceed event c => Passed fsm tcpseg event c

theorem AckFault.timely (fails : AckFault fault) : Timely fault := by
  cases fault <;> first | (cases fails; done) | exact ⟨nofun, nofun⟩

theorem processAckInEstabEtc_timely (c : TCPConnection) (tcpseg : TCPSegment) :
    Ensures Timely (Acked c tcpseg) (c.processAckInEstabEtc tcpseg) :=
  (c.processAckInEstabEtc_acked tcpseg).fewer fun _ => AckFault.timely

/-- A segment that acknowledges data not yet sent is dropped; others go on. -/
theorem Acked.timed {fsm : TcpState}
    (acked : c.Acked tcpseg r) (prepared : Prepared fsm c) (stays : c.fsm = fsm)
    (proceeds : r.2.fsm = fsm → Passed fsm tcpseg event r.2) :
    Ensures Timely (AckCheck.Timed fsm tcpseg)
      (pure (if r.1 = true then .proceed event r.2 else .drop .ignore r.2) : TCPExec AckCheck) := by
  have fsm' := acked.fsm.trans stays
  rw [Ensures.pure_iff]
  split
  · exact proceeds fsm'
  · rename_i dropped
    have kept := acked.stays prepared fun _ both => dropped (acked.passes both.1)
    exact ready_at fsm' rfl kept

theorem processAckInEstabEtc_ignore {fsm : TcpState} (prepared : Prepared fsm c)
    (stays : c.fsm = fsm)
    (unacked : beforeFinAck fsm = true → ¬ (c.AcksNew tcpseg ∧ c.AcksFin tcpseg)) :
    Ensures Timely (AckCheck.Timed fsm tcpseg) (do
      let (ok, c) ← c.processAckInEstabEtc tcpseg
      return if ok then .proceed .ignore c else .drop .ignore c) := by
  refine Ensures.bind (c.processAckInEstabEtc_timely tcpseg) fun r acked => ?_
  exact acked.timed prepared stays fun fsm' => .of_ignore fsm' (acked.stays prepared unacked)

theorem processAck_prepared (prepared : Prepared c.fsm c) (alive : c.fsm ≠ .closed)
    (past : c.fsm = .synRcvd ∨ opening c.fsm = false) (kept : c.FinKept tcpseg) :
    Ensures Timely (AckCheck.Timed c.fsm tcpseg) (c.processAck tcpseg) := by
  unfold processAck
  cases fsm : c.fsm <;> rw [fsm] at prepared past <;> dsimp only
  case synRcvd =>
    refine Ensures.ite (fun _ => ready_at fsm rfl (prepared.of_same rfl)) fun _ => ?_
    refine Ensures.ok_bind ?_
    have now : Prepared .synRcvd { c with sndCwnd := c.sndMss } := prepared.of_same rfl
    refine Ensures.bind (processAckInEstabEtc_timely _ tcpseg) fun r acked => ?_
    refine acked.timed now fsm fun fsm' => ?_
    have stays := acked.stays now fun _ acks =>
      nomatch (prepared.flags.sendFin rfl).symm.trans acks.2.1
    have leaves : Leaves .synRcvd .established := ⟨nofun, by decide, nofun, fun _ => rfl⟩
    have next := stays.leave leaves fsm' rfl fun _ => stays.flags.sendFin rfl
    exact ⟨fsm', at_nextState Prepared fsm' rfl next,
      fun _ => ⟨stays.timers, fun _ => stays.flags⟩⟩
  case established =>
    exact processAckInEstabEtc_ignore prepared fsm fun _ acks =>
      nomatch (prepared.flags.sendFin rfl).symm.trans acks.2.1
  case finWait2 | closeWait => exact processAckInEstabEtc_ignore prepared fsm nofun
  case finWait1 =>
    refine Ensures.bind (c.processAckInEstabEtc_timely tcpseg) fun r acked => ?_
    refine acked.timed prepared fsm fun fsm' => ?_
    have timers := acked.timers prepared.timers
    split
    · have next : Prepared .finWait2 r.2 := by
        refine ⟨⟨timers.the2MSLTimer, timers.finWait2Timer, fun stays => ?_⟩, ⟨nofun, nofun, nofun⟩⟩
        cases fsm'.symm.trans stays
      exact ⟨fsm', at_nextState Prepared fsm' rfl next, fun _ => ⟨timers, fun ne => absurd rfl ne⟩⟩
    · rename_i unacked
      exact .of_ignore fsm' ⟨timers, nofun, nofun, fun _ => Bool.eq_false_iff.mpr unacked⟩
  case closing =>
    refine Ensures.bind (c.processAckInEstabEtc_timely tcpseg) fun r acked => ?_
    have fsm' := acked.fsm.trans fsm
    have timers := acked.timers prepared.timers
    refine Ensures.ite (fun _ => ?_) fun dropped => ?_
    · refine Ensures.ite (fun finAck => ?_) fun unacked => ?_
      · unfold scheduleTimeout
        rw [timers.the2MSLTimer, if_neg (by decide)]
        refine Ensures.ok_bind ?_
        have next : Prepared .timeWait { r.2 with the2MSLTimer := true } := by
          refine ⟨⟨rfl, timers.finWait2Timer, fun stays => ?_⟩, ⟨nofun, nofun, nofun⟩⟩
          cases fsm'.symm.trans stays
        refine ⟨fsm', at_nextState Prepared fsm' rfl next, fun fin => ?_⟩
        rw [acked.finAckRcvd, prepared.flags.finAckRcvd rfl, Bool.false_or, decide_eq_true_eq] at finAck
        exact absurd finAck (kept fsm fin)
      · exact Passed.of_ignore fsm' ⟨timers, nofun, nofun, fun _ => Bool.eq_false_iff.mpr unacked⟩
    · have stays := acked.stays prepared fun _ both => dropped (acked.passes both.1)
      exact ready_at fsm' rfl stays
  case lastAck =>
    rw [Ensures.ok_iff]
    split
    · exact ready_closed (nextState_eq fsm _)
    · exact Passed.of_ignore fsm prepared
  case timeWait =>
    have waits : Prepared .timeWait { c.sendAck with the2MSLTimer := true } :=
      ⟨⟨rfl, prepared.timers.finWait2Timer, prepared.timers.setup⟩, ⟨nofun, nofun, nofun⟩⟩
    exact Passed.of_ignore fsm waits
  case closed => exact absurd fsm alive
  all_goals
    rcases past with past | past <;> cases past

theorem processText_timers (c : TCPConnection) (tcpseg : TCPSegment) :
    Ensures Timely (fun c' => c'.timerVars = c.timerVars) (c.processText tcpseg) := by
  unfold processText
  refine Ensures.ite (fun _ => ?_) fun _ => rfl
  refine Ensures.ite (fun _ => timerVars_receiveBytes c tcpseg) fun _ => ?_
  refine Ensures.bind (Ensures.trivial.mono (fun _ => id) fun _ _ => ⟨nofun, nofun⟩).mapError ?_
  intro extracted _
  rw [Ensures.pure_iff]
  split <;> exact timerVars_receiveBytes c tcpseg

theorem receiveFin_timers (c : TCPConnection) (tcpseg : TCPSegment) :
    (c.receiveFin tcpseg).timerVars = c.timerVars := by
  unfold receiveFin
  dsimp only
  split <;> rfl

theorem acknowledge_timers (c : TCPConnection) (oldRcvNxt : BitVec 32) :
    (c.acknowledge oldRcvNxt).timerVars = c.timerVars := by
  unfold acknowledge TCPBaseAlg.receiveSeqChanged
  split
  · split <;> rfl
  · rfl

theorem finEvent_prepared (past : c.fsm = .synRcvd ∨ opening c.fsm = false)
    (timers : TimersSet c.fsm c) (flags : c.fsm ≠ .finWait1 → FlagsSet c.fsm c) :
    Ensures Timely (fun r => Ready (r.2.nextState r.1) r.2) c.finEvent := by
  have waits (other : c.fsm ≠ .timeWait) :
      Prepared .timeWait { c with the2MSLTimer := true, finWait2Timer := false } :=
    ⟨⟨rfl, rfl, fun stays => absurd stays other⟩, ⟨nofun, nofun, nofun⟩⟩
  unfold finEvent
  split
  · rename_i fsm
    have other : c.fsm ≠ .timeWait := fun waits => nomatch fsm.symm.trans waits
    rw [fsm] at timers
    refine Ensures.ite (fun _ => ?_) fun unacked => ?_
    · unfold scheduleTimeout
      rw [timers.the2MSLTimer, if_neg (by decide)]
      exact ready_at fsm rfl (waits other)
    · refine ready_at fsm rfl ⟨⟨timers.the2MSLTimer, timers.finWait2Timer, fun stays => ?_⟩,
        ⟨nofun, nofun, fun _ => Bool.eq_false_iff.mpr unacked⟩⟩
      cases fsm.symm.trans stays
  · rename_i fsm
    have other : c.fsm ≠ .timeWait := fun waits => nomatch fsm.symm.trans waits
    rw [fsm] at timers
    unfold scheduleTimeout
    rw [timers.the2MSLTimer, if_neg (by decide)]
    exact ready_at fsm rfl (waits other)
  · rename_i fsm
    rw [fsm] at timers
    have again : Prepared .timeWait { c with the2MSLTimer := true } :=
      ⟨⟨rfl, timers.finWait2Timer, timers.setup⟩, ⟨nofun, nofun, nofun⟩⟩
    exact ready_at fsm rfl again
  · rename_i other₁ other₂ other₃
    rw [Ensures.ok_iff]
    cases fsm : c.fsm <;> rw [fsm] at timers flags past
    case synRcvd | established =>
      have closing : Prepared .closeWait c := by
        refine ⟨⟨timers.the2MSLTimer, timers.finWait2Timer, fun stays => ?_⟩, ⟨nofun, nofun, nofun⟩⟩
        cases fsm.symm.trans stays
      exact ready_at fsm rfl closing
    case closeWait | closing | lastAck => exact ready_at fsm rfl ⟨timers, flags nofun⟩
    case closed => exact ready_closed (nextState_eq fsm _)
    case finWait1 => exact absurd fsm other₁
    case finWait2 => exact absurd fsm other₂
    case timeWait => exact absurd fsm other₃
    all_goals
      rcases past with past | past <;> cases past

theorem finEvent_closeWait (c : TCPConnection) : OnReturn (fun r => r.2.fsm = .closeWait → r.2 = c) c.finEvent := by
  unfold finEvent
  split
  · rename_i fsm
    refine Ensures.ite (fun _ => ?_) fun _ => fun _ => rfl
    exact Ensures.bind Ensures.trivial fun _ _ waits => nomatch fsm.symm.trans waits
  · rename_i fsm
    exact Ensures.bind Ensures.trivial fun _ _ waits => nomatch fsm.symm.trans waits
  · rename_i fsm
    exact fun waits => nomatch fsm.symm.trans waits
  · exact fun _ => rfl

theorem Prepared.closeWait (prepared : Prepared (c.nextState event) c)
    (waits : c.fsm = .closeWait) : c.the2MSLTimer = false ∧ c.finWait2Timer = false := by
  refine ⟨prepared.timers.the2MSLTimer.trans ?_, prepared.timers.finWait2Timer⟩
  rw [nextState_eq waits]
  cases event <;> rfl

theorem deferredClose_prepared {oldSndNxt : BitVec 32} (ready : Ready (c.nextState event) c)
    (waits : c.fsm = .closeWait → c.the2MSLTimer = false ∧ c.finWait2Timer = false) :
    Ready (c.nextState (c.deferredClose event oldSndNxt)) c := by
  unfold deferredClose
  split
  · rename_i deferred
    obtain ⟨msl, wait⟩ := waits deferred.1
    refine ready_at deferred.1 rfl ⟨⟨msl, wait, fun stays => ?_⟩, ⟨nofun, nofun, nofun⟩⟩
    cases deferred.1.symm.trans stays
  · exact ready

theorem processFin_prepared
    (past : c.fsm = .synRcvd ∨ opening c.fsm = false) (passed : Passed c.fsm tcpseg event c) :
    Ensures Timely (fun r => Ready (r.2.nextState r.1) r.2 ∧
      (r.2.fsm = .closeWait → r.2.the2MSLTimer = false ∧ r.2.finWait2Timer = false))
      (c.processFin tcpseg event) := by
  have same := c.receiveFin_timers tcpseg
  have fsm : (c.receiveFin tcpseg).fsm = c.fsm := congrArg Prod.fst same
  unfold processFin
  refine Ensures.ite (fun fin => ?_) fun _ => ⟨fun _ => passed.next, passed.next.closeWait⟩
  obtain ⟨timers, flags⟩ := passed.fin fin
  have set : TimersSet (c.receiveFin tcpseg).fsm (c.receiveFin tcpseg) := by
    rw [fsm]
    exact timers.of_same same
  refine ((finEvent_prepared (fsm.symm ▸ past) set fun other => ?_).and
    (finEvent_closeWait _)).imp ?_
  · rw [fsm] at other ⊢
    exact (flags other).of_same same
  · rintro r ⟨ready, stays⟩
    refine ⟨ready, fun waits => ?_⟩
    have same' := stays waits
    rw [same'] at waits ⊢
    rw [waits] at set
    exact ⟨set.the2MSLTimer, set.finWait2Timer⟩

theorem processTextAndFin_prepared {oldSndNxt : BitVec 32}
    (past : c.fsm = .synRcvd ∨ opening c.fsm = false) (passed : Passed c.fsm tcpseg event c) :
    Ensures Timely (fun r => Ready (r.2.nextState r.1) r.2) (c.processTextAndFin tcpseg event oldSndNxt) := by
  unfold processTextAndFin
  refine Ensures.bind ((c.processText_timers tcpseg).and (c.processText_same tcpseg)) ?_
  rintro c₁ ⟨same, text⟩
  have active : c₁.active = c.active := (congrArg TCPConnection.active text :)
  have fsm : c₁.fsm = c.fsm := congrArg Prod.fst same
  have passed₁ : Passed c₁.fsm tcpseg event c₁ := by
    rw [fsm]
    refine ⟨fsm, ?_, fun fin => ?_⟩
    · have next : c₁.nextState event = c.nextState event := by
        unfold nextState
        rw [fsm, active]
      rw [next]
      exact passed.next.of_same same
    · exact ⟨(passed.fin fin).1.of_same same, fun other => ((passed.fin fin).2 other).of_same same⟩
  refine Ensures.bind (processFin_prepared (fsm.symm ▸ past) passed₁) ?_
  rintro ⟨event', c₂⟩ ⟨ready, waits⟩
  have later := c₂.acknowledge_timers c.rcvNxt
  have fsm₃ : (c₂.acknowledge c.rcvNxt).fsm = c₂.fsm := congrArg Prod.fst later
  have active₃ : (c₂.acknowledge c.rcvNxt).active = c₂.active :=
    (congrArg TCPConnection.active (c₂.acknowledge_same c.rcvNxt) :)
  refine deferredClose_prepared ?_ fun waits' => ?_
  · have next : (c₂.acknowledge c.rcvNxt).nextState event' = c₂.nextState event' := by
      unfold nextState
      rw [fsm₃, active₃]
    rw [next]
    exact fun alive => (ready alive).of_same later
  · unfold timerVars at later
    simp only [Prod.mk.injEq] at later
    rw [later.2.1, later.2.2.1]
    exact waits (fsm₃.symm.trans waits')

theorem processRst_fault (c : TCPConnection) : Ensures Timely (fun _ => True) c.processRst := by
  unfold processRst
  split
  · unfold processRstInSynReceived
    refine Ensures.bind (Ensures.trivial.mono (fun _ => id) fun _ _ => ⟨nofun, nofun⟩).mapError ?_
    exact fun _ _ => True.intro
  iterate 7 exact True.intro
  iterate 4 exact ⟨nofun, nofun⟩

/-- A reset closes the connection, or takes it back to LISTEN. -/
theorem processRst_prepared (prepared : Prepared c.fsm c) (past : c.fsm = .synRcvd ∨ opening c.fsm = false) :
    Ensures Timely (fun r => Ready (r.2.nextState r.1) r.2) c.processRst := by
  refine (c.processRst_fault.and c.processRst_returns).imp ?_
  rintro ⟨event, c'⟩ ⟨-, rfl, sendQueue, toAppl, rfl⟩
  rcases @nextState_rcvRst { c with sendQueue, toAppl } past with closes | ⟨fsm, -, listens⟩
  · exact ready_closed closes
  · have at' : c.fsm = .synRcvd := fsm
    rw [at'] at prepared
    have leaves : Leaves .synRcvd .listen := ⟨nofun, by decide, nofun, fun _ => rfl⟩
    intro _
    show Prepared (nextState { c with sendQueue, toAppl } .rcvRst) _
    rw [listens]
    exact prepared.leave leaves at' rfl fun _ => prepared.flags.sendFin rfl

theorem processSegment1stThru8th_prepared (prepared : Prepared c.fsm c)
    (past : c.fsm = .synRcvd ∨ opening c.fsm = false) (alive : c.fsm ≠ .closed)
    (kept : c.Passes tcpseg → c.FinKept tcpseg) :
    Ensures Timely (fun r => Ready (r.2.nextState r.1) r.2) (c.processSegment1stThru8th tcpseg) := by
  unfold processSegment1stThru8th
  refine Ensures.ite (fun _ => ?_) fun acceptable => ?_
  · have same : (if tcpseg.rstBit then c else c.sendAck).timerVars = c.timerVars := by
      split <;> rfl
    exact prepared.stays same rfl
  refine Ensures.ite (fun _ => processRst_prepared prepared past) fun plain => ?_
  refine Ensures.ite (fun _ => ready_closed (nextState_rcvUnexpSyn past)) fun syn => ?_
  refine Ensures.ite (fun _ => prepared.stays rfl rfl) fun ack => ?_
  have passes : c.Passes tcpseg :=
    ⟨not_not.mp acceptable, Bool.eq_false_iff.mpr plain, Bool.eq_false_iff.mpr syn, not_not.mp ack⟩
  refine Ensures.bind (processAck_prepared prepared alive past (kept passes)) ?_
  rintro (⟨event, c'⟩ | ⟨event, c'⟩) timed
  · exact timed
  · have stays : c'.fsm = c.fsm := timed.stays
    exact processTextAndFin_prepared (stays.symm ▸ past) (stays.symm ▸ timed)

theorem processRcvSegment_prepared (prepared : Prepared c.fsm c) (alive : c.fsm ≠ .closed)
    (kept : c.Passes tcpseg → c.FinKept tcpseg) :
    Ensures Timely (fun r => Ready (r.2.nextState r.1) r.2) (c.processRcvSegment tcpseg) := by
  unfold processRcvSegment
  split
  · exact ⟨nofun, nofun⟩
  · rename_i fsm
    exact processSegmentInListen_prepared prepared fsm tcpseg
  · rename_i fsm
    exact processSegmentInSynSent_prepared prepared fsm tcpseg
  · rename_i new listens waits
    refine processSegment1stThru8th_prepared prepared ?_ alive kept
    cases fsm : c.fsm
    case init => exact absurd fsm new
    case listen => exact absurd fsm listens
    case synSent => exact absurd fsm waits
    case synRcvd => exact Or.inl rfl
    all_goals exact Or.inr rfl

/-- A timer is scheduled twice, or expires in a state that it is not for. -/
def TimerFault : TCPInput → TCPFault → Prop
  | _, .alreadyScheduled => True
  | .timeout _, .oppError => True
  | _, _ => False

theorem Timely.not_timerFault (timely : Timely fault) (input : TCPInput) : ¬ TimerFault input fault := by
  cases fault
  case alreadyScheduled => exact absurd rfl timely.1
  case oppError => exact absurd rfl timely.2
  all_goals cases input <;> exact id

/-- In CLOSING no segment both acknowledges the FIN and brings one. -/
def AcksFinAlone (c : TCPConnection) : TCPInput → Prop
  | .segment tcpseg => c.Passes tcpseg → c.FinKept tcpseg
  | _ => True

theorem processInput_prepared (prepared : Prepared c.fsm c) (alive : c.fsm ≠ .closed)
    {input : TCPInput} (alone : c.AcksFinAlone input) :
    Ensures (fun fault => ¬ TimerFault input fault) (fun r => Ready (r.2.nextState r.1) r.2)
      (c.processInput input) := by
  cases input with
  | command cmd =>
      refine (processAppCommand_prepared prepared alive cmd).fewer fun fault other => ?_
      cases fault <;> first | exact id | exact absurd rfl other
  | segment tcpseg =>
      exact (processRcvSegment_prepared prepared alive alone).fewer fun _ timely =>
        timely.not_timerFault _
  | timeout timer =>
      refine Ensures.ite (fun scheduled => ?_) fun _ => prepared.stays rfl rfl
      exact (processTimer_prepared prepared scheduled).fewer fun _ timely => timely.not_timerFault _

theorem handle_prepared (handshake : Handshake c.fsm c) (prepared : Prepared c.fsm c)
    (simTime : Nat) {input : TCPInput} (alone : c.AcksFinAlone input) :
    Ensures (fun fault => ¬ TimerFault input fault) (fun c' => Prepared c'.fsm c') (c.handle simTime input) := by
  unfold handle
  refine Ensures.ite (fun _ => prepared) fun alive => ?_
  have now : Prepared (c.atTime simTime).fsm (c.atTime simTime) := prepared.of_same rfl
  have alone' : (c.atTime simTime).AcksFinAlone input := by
    cases input with
    | segment tcpseg =>
        intro passes
        exact alone ⟨passes.acceptable, passes.plain, passes.synBit, passes.ackBit⟩
    | _ => exact True.intro
  have processed := (processInput_prepared now alive alone').and
    (processInput_fsm (c := c.atTime simTime) (handshake.of_same rfl) alive input)
  refine Ensures.bind processed ?_
  rintro r ⟨ready, fsm⟩
  refine (performStateTransition_prepared (fsm.symm ▸ alive) ready).fewer ?_
  rintro _ rfl
  have timely : Timely .assertFailed := ⟨nofun, nofun⟩
  exact timely.not_timerFault input

theorem Prepared.timersFit (prepared : Prepared c.fsm c) : c.TimersFit where
  the2MSLTimer := by
    rw [prepared.timers.the2MSLTimer]
    exact decide_eq_true_iff
  connEstabTimer := fun scheduled => prepared.timers.settingUp (Or.inl scheduled)
  synRexmitTimer := fun scheduled => prepared.timers.settingUp (Or.inr scheduled)

theorem prepared_create (tcpAlgorithm : TCPAlgorithm) : Prepared (create tcpAlgorithm).fsm (create tcpAlgorithm) :=
  ⟨⟨rfl, rfl, fun _ _ => ⟨nofun, nofun⟩⟩, ⟨nofun, fun _ => rfl, fun _ => rfl⟩⟩

theorem prepared_of_runs {tcpAlgorithm : TCPAlgorithm} {arrivals : List (Nat × TCPInput)}
    (runs : Runs step (fun c arrival => c.AcksFinAlone arrival.2) (create tcpAlgorithm) arrivals c) :
    Handshake c.fsm c ∧ Prepared c.fsm c := by
  refine runs.invariant (fun c => Handshake c.fsm c ∧ Prepared c.fsm c) ?_
    ⟨(handshake_create tcpAlgorithm).1, prepared_create tcpAlgorithm⟩
  intro c arrival c' ⟨handshake, prepared⟩ alone steps
  have done := handle_of_step steps
  exact ⟨handle_handshake handshake done,
    (handle_prepared handshake prepared arrival.1 alone).of_ok done⟩

/-- In every run in which no segment does both in CLOSING the timers are scheduled in their
states only, and none is scheduled twice or expires in a wrong state. -/
theorem timersFit_of_acksFinAlone {tcpAlgorithm : TCPAlgorithm}
    {arrivals : List (Nat × TCPInput)}
    (runs : Runs step (fun c arrival => c.AcksFinAlone arrival.2) (create tcpAlgorithm) arrivals c) :
    c.TimersFit ∧ ∀ (simTime : Nat) (input : TCPInput) (fault : TCPFault), c.AcksFinAlone input →
      c.handle simTime input = .error fault → ¬ TimerFault input fault := by
  obtain ⟨handshake, prepared⟩ := prepared_of_runs runs
  refine ⟨prepared.timersFit, fun simTime input fault alone fails => ?_⟩
  exact (handle_prepared handshake prepared simTime alone).of_error fails

/-- The peer's FIN; ten bytes that it has sent before are still missing. -/
def exampleFin (ackNo : BitVec 32) : TCPSegment :=
  { TCPSegment.create with sequenceNo := 511, ackNo, ackBit := true, finBit := true }

/-- Both ends close at the same time, and the peer's FIN overtakes its data. -/
def exampleClosing : List (Nat × TCPInput) :=
  [(0, .command (.openActive true)), (1, .segment exampleSynAck), (2, .command .close),
    (3, .segment (exampleFin 1))]

theorem timersFit_example : ∃ c,
    Runs step (fun c arrival => c.AcksFinAlone arrival.2) (create .reno) exampleClosing c ∧
      c.TimersFit := by
  have runs : Runs step (fun c arrival => c.AcksFinAlone arrival.2) (create .reno)
      exampleClosing _ :=
    .cons True.intro rfl (.cons (fun _ waits => nomatch waits) rfl (.cons True.intro rfl
      (.cons (fun _ waits => nomatch waits) rfl (.nil _))))
  exact ⟨_, runs, (timersFit_of_acksFinAlone runs).1⟩

/-- The FIN is sent again and acknowledges the connection's own: the timer for TIME_WAIT runs in
CLOSING, where its expiry is an internal error. -/
theorem timeWait_timer_in_closing :
    ¬ ∀ tcpAlgorithm arrivals c, Runs step (fun _ _ => True) (create tcpAlgorithm) arrivals c →
      c.TimersFit ∧ ∀ (simTime : Nat) (input : TCPInput) (fault : TCPFault),
        c.handle simTime input = .error fault → ¬ TimerFault input fault := by
  intro claim
  have runs : Runs step (fun _ _ => True) (create .reno)
      (exampleClosing ++ [(4, .segment (exampleFin 2))]) _ :=
    .cons True.intro rfl (.cons True.intro rfl (.cons True.intro rfl (.cons True.intro rfl
      (.cons True.intro rfl (.nil _)))))
  exact (claim _ _ _ runs).2 5 (.timeout .the2MSLTimer) .oppError rfl True.intro

end TCPConnection

end IPv6Suite
